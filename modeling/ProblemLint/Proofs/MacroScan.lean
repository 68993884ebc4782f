import ProblemLint.Proofs.Delimiters
import ProblemLint.Proofs.Matching
import ProblemLint.Proofs.PlainCode

/-! The scan of a `loadMacros` call, line by line. The lines of an open call can be read back off the state as the
text since the parenthesis; each further line of plain code adds itself to that text, and the line with the closing
parenthesis has the text judged. Between the parenthesis and the semicolon there may be blank lines. A call whose
list is judged well leaves no trace. -/

namespace ProblemLint.Check.LoadMacros

open Text (isBlank isLineBreak)

/-! ### Quotes with blanks between them -/

/-- Whether two quotes have nothing but blanks between them; `near` tells that a quote has been read and since then
only blanks. -/
def quotesMeet (near : Bool) : Text → Bool
  | [] => false
  | c :: r => if c == '\'' || c == '"' then near || quotesMeet true r else quotesMeet (near && isBlank c) r

theorem quotesMeet_quote {q : Char} (hq : q = '\'' ∨ q = '"') (near : Bool) (r : Text) :
    quotesMeet near (q :: r) = (near || quotesMeet true r) := by
  rw [quotesMeet, if_pos (by simpa using hq)]

theorem quotesMeet_other {c : Char} (hc : c ≠ '\'' ∧ c ≠ '"') (near : Bool) (r : Text) :
    quotesMeet near (c :: r) = quotesMeet (near && isBlank c) r := by
  rw [quotesMeet, if_neg (by simpa using hc)]

theorem not_quote_of_isBlank {c : Char} (h : isBlank c = true) : c ≠ '\'' ∧ c ≠ '"' := by
  constructor <;> (rintro rfl; cases h)

theorem quotesMeet_others {a : Text} (ha : ∀ c ∈ a, c ≠ '\'' ∧ c ≠ '"') (near : Bool) (r : Text) :
    quotesMeet near (a ++ r) = quotesMeet (near && a.all isBlank) r := by
  induction a generalizing near with
  | nil => rw [List.nil_append, List.all_nil, Bool.and_true]
  | cons c a ih =>
    obtain ⟨hc, ha⟩ := List.forall_mem_cons.1 ha
    rw [List.cons_append, quotesMeet_other hc, ih ha, List.all_cons, Bool.and_assoc]

theorem quotesMeet_blanks {b : Text} (hb : ∀ c ∈ b, isBlank c = true) (near : Bool) (r : Text) :
    quotesMeet near (b ++ r) = quotesMeet near r := by
  rw [quotesMeet_others fun c hc => not_quote_of_isBlank (hb c hc), List.all_eq_true.2 hb, Bool.and_true]

theorem quotesMeet_append {t : Text} (ht : ∀ near, quotesMeet near t = true) (a : Text) (near : Bool) :
    quotesMeet near (a ++ t) = true := by
  induction a generalizing near with
  | nil => exact ht near
  | cons c a ih =>
    rw [List.cons_append, quotesMeet]
    split
    · rw [ih, Bool.or_true]
    · exact ih _

/-- The pattern for a missing comma takes only text in which quotes meet. -/
theorem takes_missingComma (size : Nat) :
    Pattern.Takes (Pattern.attempt size missingComma) fun w => ∀ b near, quotesMeet near (w ++ b) = true := by
  have hname := ((Pattern.takes_one size fun c => "'\"".toList.contains c).seq
    (Pattern.takes_run size (fun c => c != '\'' && c != '"') 1 none true)).seq
    (Pattern.takes_one size fun c => "'\"".toList.contains c)
  intro c cs k r hr
  obtain ⟨w, c', cs', hafter, ⟨u, v, rfl, ⟨u, b, rfl, hu, -, hb⟩, hv⟩, hk⟩ :=
    (hname.seq (Pattern.takes_run size isBlank 1 none true)).seq hname c cs k r hr
  refine ⟨_, c', cs', hafter, fun rest near => ?_, hk⟩
  obtain ⟨u, -, rfl, -, q, rfl, hq⟩ := hu
  obtain ⟨-, -, rfl, ⟨-, v, rfl, ⟨q', rfl, hq'⟩, -⟩, -⟩ := hv
  simp only [List.append_assoc, List.cons_append, List.nil_append]
  refine quotesMeet_append (fun near => ?_) u near
  rw [quotesMeet_quote (by simpa using hq), quotesMeet_blanks hb, quotesMeet_quote (by simpa using hq')]
  simp

theorem not_missingComma {t : Text} (h : quotesMeet false t = false) : missingComma.occursIn t = false := by
  rw [Bool.eq_false_iff]
  intro hoccurs
  obtain ⟨a, w, b, rfl, hw⟩ := Pattern.taken_of_occursIn takes_missingComma hoccurs
  rw [List.append_assoc, quotesMeet_append (hw b) a] at h
  cases h

/-- A list that is accepted: it holds something but blanks and no smart quotes, and no two quotes meet. -/
theorem listIssues_eq_nil {list : Text} (hsmart : ∀ c ∈ list, isSmartQuote c = false)
    (hfilled : ∃ c ∈ list, isBlank c = false) (hquotes : quotesMeet false list = false) (n : Nat) :
    listIssues list n = [] := by
  have hany : list.any isSmartQuote = false := by simpa using hsmart
  have hblank : Text.isAllBlank list = false := by
    obtain ⟨c, hc, hblank⟩ := hfilled
    exact List.all_eq_false.2 ⟨c, hc, by rw [hblank]; decide⟩
  simp [listIssues, hany, hblank, not_missingComma hquotes]

/-! ### The call, line by line -/

theorem findAll_call (a : Text) :
    ∃ m rest, (functionCall "loadMacros").findAll ("loadMacros(".toList ++ a) = m :: rest ∧ m.start = 0 ∧ m.stop = 11 :=
  ⟨_, _, rfl, rfl, rfl⟩

theorem openParen?_call (a : Text) : openParen? ("loadMacros(".toList ++ a) = some 10 := by
  obtain ⟨m, rest, hfind, hstart, hstop⟩ := findAll_call a
  have hmask : (mask ("loadMacros(".toList ++ a)).getD 0 false = false := rfl
  unfold openParen? codeMatches
  simp only [hfind, List.filter_cons, hstart, hmask, Bool.not_false, if_true, List.head?_cons, Option.map_some, hstop]

theorem scanParens_of_flat {a : Text} (ha : PlainCode IsFlat a) (depth : Int) (pos : Nat) (r : Text) :
    scanParens {} depth pos (a ++ r) = scanParens {} depth (pos + a.length) r := by
  have hstep (c : Char) (hc : IsFlat c) : QuoteState.step {} c = {} := step_of_quiet hc.1
  refine ha.passes (f := fun s n r => scanParens s.flags depth n r) hstep (fun s n c r hc => ?_) pos r
  rw [scanParens_step, if_neg, if_neg]
  all_goals
    intro hparen
    simp only [Bool.and_eq_true, beq_iff_eq] at hparen
  · exact (ne_of_flat (hc hparen.1)).2 hparen.2
  · exact (ne_of_flat (hc hparen.1)).1 hparen.2

/-- The text of an open call up to the line that is read next. -/
def OpenCall.block (call : OpenCall) : Text := (call.lines.reverse.map (· ++ ['\n'])).flatten

theorem OpenCall.join_block (call : OpenCall) (a : Text) :
    Text.join "\n" (a :: call.lines).reverse = call.block ++ a := by
  rw [List.reverse_cons, Text.join_append_singleton, OpenCall.block]

/-- A line that starts with `lead` continues a call of which `block` has been read, and nothing else is pending. -/
def Scan.Collects (s : Scan) (lead block : Text) : Prop :=
  ∀ n a, ∃ call : OpenCall, s.line (n, lead ++ a) = ({} : Scan).inside call n a ∧ call.depth = 1 ∧ call.block = block

theorem collects_call : Scan.Collects {} "loadMacros(".toList [] := by
  intro n a
  refine ⟨⟨n, 1, []⟩, ?_, rfl, rfl⟩
  have hcode : Scan.line {} (n, "loadMacros(".toList ++ a) = Scan.code {} n ("loadMacros(".toList ++ a) := rfl
  simp only [hcode, Scan.code, openParen?_call]
  rfl

theorem Scan.Collects.stay {s : Scan} {lead block a : Text} (hs : s.Collects lead block) (ha : PlainCode IsFlat a)
    (n : Nat) : (s.line (n, lead ++ a)).Collects [] (block ++ a ++ ['\n']) := by
  obtain ⟨call, hline, hdepth, hblock⟩ := hs n a
  have hscan : scanParens {} call.depth 0 a = (call.depth, none) := by
    have h := scanParens_of_flat ha call.depth 0 []
    rwa [List.append_nil] at h
  rw [hline, Scan.inside, hscan]
  refine fun m b => ⟨{ call with lines := a :: call.lines }, rfl, hdepth, ?_⟩
  simp [← hblock, OpenCall.block]

/-- The line with the closing parenthesis has the text of the call judged. -/
theorem Scan.Collects.close {s : Scan} {lead block a : Text} (hs : s.Collects lead block) (ha : PlainCode IsFlat a)
    (n : Nat) (r : Text) :
    s.line (n, lead ++ (a ++ ')' :: r)) =
      { issues := listIssues (block ++ a) n, wanting := if r.elem ';' then none else some n } := by
  obtain ⟨call, hline, hdepth, hblock⟩ := hs n (a ++ ')' :: r)
  have hscan : scanParens {} call.depth 0 (a ++ ')' :: r) = (0, some a.length) := by
    rw [scanParens_of_flat ha, hdepth, Nat.zero_add]
    rfl
  have hdrop : (a ++ ')' :: r).drop (a.length + 1) = r := by simp
  rw [hline, Scan.inside, hscan]
  simp only [hdrop, List.take_left, OpenCall.join_block, hblock, List.nil_append]

/-! ### The whole call -/

def isSpacing (c : Char) : Bool := c == ' ' || c == '\t' || c == '\n'

theorem isSpacing_iff {c : Char} : isSpacing c = true ↔ c = ' ' ∨ c = '\t' ∨ c = '\n' := by
  simp [isSpacing, or_assoc]

theorem isBlank_of_spacing {c : Char} (h : isSpacing c = true) : isBlank c = true := by
  rcases isSpacing_iff.1 h with rfl | rfl | rfl <;> rfl

theorem not_break_of_spacing {c : Char} (h : isSpacing c = true) (hne : c ≠ '\n') : isLineBreak c = false := by
  rcases isSpacing_iff.1 h with rfl | rfl | rfl
  · rfl
  · rfl
  · exact absurd rfl hne

theorem flat_of_spacing {c : Char} (h : isSpacing c = true) : IsFlat c := by
  rcases isSpacing_iff.1 h with rfl | rfl | rfl
  · exact ⟨.inl rfl, by decide, by decide⟩
  · exact ⟨.inl rfl, by decide, by decide⟩
  · exact ⟨.inr rfl, by decide, by decide⟩

theorem trim_spacing_semicolon {a : Text} (ha : ∀ c ∈ a, isBlank c = true) : Text.trim (a ++ [';']) = [';'] := by
  rw [Text.trim, Text.trimStart, List.dropWhile_append_of_pos ha]
  rfl

theorem trim_spacing {a : Text} (ha : ∀ c ∈ a, isBlank c = true) : Text.trim a = [] := by
  rw [Text.trim, Text.trimStart, List.dropWhile_eq_nil_iff.2 ha]
  rfl

/-- A semicolon that is wanted may be on a later line, after blank ones. -/
theorem foldl_wanting {m : Nat} {a gap : Text} (ha : ∀ c ∈ a, isSpacing c = true ∧ c ≠ '\n')
    (hgap : ∀ c ∈ gap, isSpacing c = true) {es : List (Nat × Text)}
    (hes : es.map (·.2) = Text.lineTexts (a ++ (gap ++ [';']))) :
    es.foldl Scan.line { wanting := some m } = {} := by
  have hblank : ∀ c ∈ a, isBlank c = true := fun c hc => isBlank_of_spacing (ha c hc).1
  have hbreak : ∀ c ∈ a, isLineBreak c = false := fun c hc => not_break_of_spacing (ha c hc).1 (ha c hc).2
  -- `a` is the start of the line that the gap goes on with
  induction gap generalizing a es with
  | nil =>
    rw [List.nil_append, Text.lineTexts_last (by simp) (List.forall_mem_append.2 ⟨hbreak, Text.not_break_of_all rfl⟩)] at hes
    obtain ⟨⟨n, l⟩, es, rfl, rfl, hnil⟩ := List.map_eq_cons_iff.1 hes
    rw [List.map_eq_nil_iff.1 hnil, List.foldl_cons, List.foldl_nil]
    simp only [Scan.line, trim_spacing_semicolon hblank]
  | cons c gap ih =>
    obtain ⟨hc, hmore⟩ := List.forall_mem_cons.1 hgap
    by_cases hnewline : c = '\n'
    · subst hnewline
      rw [List.cons_append, Text.lineTexts_line hbreak] at hes
      obtain ⟨⟨n, l⟩, es, rfl, rfl, hrest⟩ := List.map_eq_cons_iff.1 hes
      have hstay : Scan.line { wanting := some m } (n, l) = { wanting := some m } := by
        simp only [Scan.line, trim_spacing hblank]
      rw [List.foldl_cons, hstay]
      exact ih (a := []) (by simp) hmore hrest (by simp) (by simp)
    · have hall : ∀ d ∈ a ++ [c], isSpacing d = true ∧ d ≠ '\n' :=
        List.forall_mem_append.2 ⟨ha, List.forall_mem_singleton.2 ⟨hc, hnewline⟩⟩
      exact ih hall hmore (by simpa using hes) (fun d hd => isBlank_of_spacing (hall d hd).1)
        fun d hd => not_break_of_spacing (hall d hd).1 (hall d hd).2

theorem elem_semicolon_spacing {g : Text} (hg : ∀ c ∈ g, isSpacing c = true) : g.elem ';' = false := by
  rw [List.elem_eq_mem, decide_eq_false_iff_not]
  exact fun hmem => absurd (hg ';' hmem) (by decide)

/-- From any line on, a call in plain code that ends with a semicolon leaves no trace if its list is accepted. -/
theorem Scan.Collects.foldl {s : Scan} {lead block list gap : Text} (hs : s.Collects lead block)
    (hlead : ∀ c ∈ lead, isLineBreak c = false) (hlist : PlainLines IsFlat list)
    (hgap : ∀ c ∈ gap, isSpacing c = true) (hgood : ∀ n, listIssues (block ++ list) n = []) {es : List (Nat × Text)}
    (hes : es.map (·.2) = Text.lineTexts (lead ++ (list ++ ')' :: (gap ++ [';'])))) :
    es.foldl Scan.line s = {} := by
  induction hlist generalizing s lead block es with
  | @last l hl hbreak =>
    have hstart (r : Text) (hr : ∀ c ∈ r, isLineBreak c = false) :
        ∀ c ∈ lead ++ (l ++ ')' :: r), isLineBreak c = false :=
      List.forall_mem_append.2 ⟨hlead, List.forall_mem_append.2 ⟨hbreak, List.forall_mem_cons.2 ⟨rfl, hr⟩⟩⟩
    by_cases hnewline : '\n' ∈ gap
    · -- the semicolon is on a later line
      obtain ⟨g, rest, rfl, hg⟩ := List.eq_append_cons_of_mem hnewline
      obtain ⟨hspacing, hrest⟩ := List.forall_mem_append.1 hgap
      have hsplit : lead ++ (l ++ ')' :: (g ++ '\n' :: rest ++ [';'])) =
          (lead ++ (l ++ ')' :: g)) ++ '\n' :: (rest ++ [';']) := by simp
      have hgbreak := fun c hc => not_break_of_spacing (hspacing c hc) fun heq => hg (heq ▸ hc)
      rw [hsplit, Text.lineTexts_line (hstart g hgbreak)] at hes
      obtain ⟨⟨n, line⟩, es, rfl, rfl, hmore⟩ := List.map_eq_cons_iff.1 hes
      rw [List.foldl_cons, hs.close hl, hgood, elem_semicolon_spacing hspacing]
      exact foldl_wanting (a := []) (by simp) (List.forall_mem_cons.1 hrest).2 hmore
    · have hend : ∀ c ∈ gap ++ [';'], isLineBreak c = false :=
        List.forall_mem_append.2 ⟨fun c hc => not_break_of_spacing (hgap c hc) fun heq => hnewline (heq ▸ hc),
          Text.not_break_of_all rfl⟩
      rw [Text.lineTexts_last (by simp) (hstart _ hend)] at hes
      obtain ⟨⟨n, line⟩, es, rfl, rfl, hnil⟩ := List.map_eq_cons_iff.1 hes
      rw [List.map_eq_nil_iff.1 hnil, List.foldl_cons, List.foldl_nil, hs.close hl, hgood]
      simp
  | @line l r hl hbreak _ ih =>
    have hsplit : lead ++ (l ++ '\n' :: r ++ ')' :: (gap ++ [';'])) =
        (lead ++ l) ++ '\n' :: (r ++ ')' :: (gap ++ [';'])) := by simp
    rw [hsplit, Text.lineTexts_line (List.forall_mem_append.2 ⟨hlead, hbreak⟩)] at hes
    obtain ⟨⟨n, line⟩, es, rfl, rfl, hmore⟩ := List.map_eq_cons_iff.1 hes
    rw [List.foldl_cons]
    exact ih (hs.stay hl n) (by simp) (by simpa using hgood) hmore

def callText (list gap : Text) : Text := "loadMacros(".toList ++ (list ++ ')' :: (gap ++ [';']))

theorem plain_callText {list gap : Text} (hlist : PlainCode IsFlat list) (hgap : ∀ c ∈ gap, isSpacing c = true) :
    PlainCode IsQuiet (callText list gap) := by
  have hname : PlainCode IsQuiet "loadMacros(".toList :=
    .of_forall fun c hc => .inl (List.all_eq_true.1 (show "loadMacros(".toList.all isInert = true from rfl) c hc)
  have hend : PlainCode IsQuiet (gap ++ [';']) :=
    (PlainCode.of_forall fun c hc => (flat_of_spacing (hgap c hc)).1).append (.code (.inl rfl) .nil)
  exact hname.append ((hlist.mono fun _ hc => hc.1).append (.code (.inl rfl) hend))

/-- A call in plain code, with an accepted list and a semicolon behind it, gives no issue. -/
theorem issues_callText {list gap : Text} (hlist : PlainCode IsFlat list) (hgap : ∀ c ∈ gap, isSpacing c = true)
    (hgood : ∀ n, listIssues list n = []) : issues (callText list gap) = [] := by
  have hfold : (codeLines (callText list gap)).foldl Scan.line {} = {} :=
    collects_call.foldl (Text.not_break_of_all rfl) (hlist.byLines fun _ hc => hc.1) hgap hgood
      (map_codeLines_of_plain (plain_callText hlist hgap))
  rw [issues, hfold]
  rfl

end ProblemLint.Check.LoadMacros
