import Mathlib.Data.Bool.AllAny
import ProblemLint.Proofs.ArgumentLists
import ProblemLint.Proofs.Assignments

/-! Arguments of `MODES`. A mode's name is looked for in code, where it has to stand alone; what follows its arrow is
read on its own, and the search goes on behind it. Literals are passed over, whatever they look like. So a call whose
arguments are literals for modes is closed where it ends, and the outputs that are found for a mode are those written
for it. -/

namespace ProblemLint

/-! ### Code with literals in it -/

/-- All literals of a text are closed, and its code has characters of one kind only. -/
structure ClosedCode (p : Char → Prop) (a : Text) : Prop where
  closed : QuoteState.behind {} a = {}
  code : ∀ c ∈ QuoteState.codeFrom {} a, p c

/-- A character that neither opens a literal nor hides another one. -/
def IsPlain (c : Char) : Prop := ¬ IsQuoteMark c ∧ c ≠ '\\'

theorem isQuoteMark_single : IsQuoteMark '\'' := .inl rfl

theorem isQuoteMark_double : IsQuoteMark '"' := .inr rfl

instance : DecidablePred IsPlain :=
  fun c => inferInstanceAs (Decidable (¬ (c = '\'' ∨ c = '"') ∧ c ≠ '\\'))

def NoParenthesis (c : Char) : Prop := c ≠ '(' ∧ c ≠ ')'

theorem isPlain_of_class {p : Char → Bool} (hp : ['\'', '"', '\\', '(', ')'].all (!p ·) = true) {c : Char}
    (hc : p c = true) : IsPlain c ∧ NoParenthesis c := by
  have hne : ∀ d ∈ ['\'', '"', '\\', '(', ')'], c ≠ d := by
    rintro d hd rfl
    have hnot := List.all_eq_true.1 hp c hd
    rw [hc] at hnot
    cases hnot
  simp only [List.forall_mem_cons] at hne
  obtain ⟨hsingle, hdouble, hslash, hopen, hclose, -⟩ := hne
  exact ⟨⟨not_or.2 ⟨hsingle, hdouble⟩, hslash⟩, hopen, hclose⟩

namespace ClosedCode

variable {p q : Char → Prop} {a b : Text}

theorem append (ha : ClosedCode p a) (hb : ClosedCode p b) : ClosedCode p (a ++ b) := by
  refine ⟨by rw [QuoteState.behind_append, ha.closed, hb.closed], ?_⟩
  rw [QuoteState.codeFrom_append, ha.closed]
  exact List.forall_mem_append.2 ⟨ha.code, hb.code⟩

theorem of_plain (h : ∀ c ∈ a, IsPlain c ∧ p c) : ClosedCode p a := by
  induction a with
  | nil => exact ⟨rfl, fun c hc => by cases hc⟩
  | cons c a ih =>
    obtain ⟨⟨hplain, hc⟩, ha⟩ := List.forall_mem_cons.1 h
    have hstep : QuoteState.step {} c = {} := QuoteState.step_of_plain hplain.1 hplain.2
    have hrest := ih ha
    refine ⟨?_, ?_⟩
    · rw [QuoteState.behind, List.foldl_cons, hstep]
      exact hrest.closed
    · rw [QuoteState.codeFrom_cons, hstep]
      exact List.forall_mem_cons.2 ⟨hc, hrest.code⟩

theorem literal {quote : Char} (hquote : IsQuoteMark quote) (hp : p quote) (ha : ∀ c ∈ a, IsPlain c) :
    ClosedCode p (quote :: (a ++ [quote])) := by
  have hinside : (QuoteState.step {} quote).behind (a ++ [quote]) = {} ∧
      (QuoteState.step {} quote).codeFrom (a ++ [quote]) = [] := by
    have hcode : ¬ (QuoteState.step {} quote).inCode = true := by rcases hquote with rfl | rfl <;> decide
    induction a with
    | nil => rcases hquote with rfl | rfl <;> exact ⟨rfl, rfl⟩
    | cons c a ih =>
      obtain ⟨hc, ha⟩ := List.forall_mem_cons.1 ha
      have hne : c ≠ quote := fun h => hc.1 (h ▸ hquote)
      have hstep : (QuoteState.step {} quote).step c = QuoteState.step {} quote := by
        rw [QuoteState.step_in_quotes hquote hc.2, if_neg hne]
      rw [List.cons_append, QuoteState.behind, List.foldl_cons, QuoteState.codeFrom, if_neg hcode, hstep]
      exact ih ha
  refine ⟨hinside.1, ?_⟩
  rw [QuoteState.codeFrom_cons, hinside.2]
  exact List.forall_mem_singleton.2 hp

theorem mono (h : ∀ c, p c → q c) (ha : ClosedCode p a) : ClosedCode q a := ⟨ha.closed, fun c hc => h c (ha.code c hc)⟩

end ClosedCode

/-- Delimiters are looked for behind a text that has none in its code. -/
theorem closeFrom_of_code {opener closer : Char} [PlainDelimiters opener closer] {s : QuoteState} {a : Text}
    (ha : ∀ c ∈ s.codeFrom a, c ≠ opener ∧ c ≠ closer) (depth : Int) (r : Text) :
    closeFrom opener closer s.flags depth (a ++ r) =
      (closeFrom opener closer (s.behind a).flags depth r).map (· + a.length) := by
  induction a generalizing s with
  | nil => simp [QuoteState.behind]
  | cons c a ih =>
    have hrest : ∀ d ∈ (s.step c).codeFrom a, d ≠ opener ∧ d ≠ closer := by
      intro d hd
      apply ha
      rw [QuoteState.codeFrom]
      split
      · exact List.mem_cons_of_mem c hd
      · exact hd
    have hhere (hcode : s.inCode = true) : c ≠ opener ∧ c ≠ closer := by
      apply ha
      rw [QuoteState.codeFrom, if_pos hcode]
      exact List.mem_cons_self
    rw [List.cons_append, closeFrom_cons hhere, ih hrest, Option.map_map]
    rfl

theorem ClosedCode.delimited?_eq {a : Text} (ha : ClosedCode NoParenthesis a) (r : Text) :
    delimited? '(' ')' ('(' :: (a ++ ')' :: r)) = some (a, r) := by
  have hstep : QuoteState.step {} '(' = {} := rfl
  have hclose : closeFrom '(' ')' {} 1 (')' :: r) = some 0 := rfl
  rw [delimited?_opener, hstep, closeFrom_of_code ha.code, ha.closed, QuoteState.flags_start, hclose]
  simp

theorem ClosedCode.payloadAt?_eq {a : Text} (ha : ClosedCode NoParenthesis a) (front rest : Text) :
    Modes.payloadAt? (front ++ '(' :: (a ++ ')' :: rest)) front.length =
      some (a, ((front.length + a.length + 2 : Nat) : Int)) := by
  set t := front ++ '(' :: (a ++ ')' :: rest) with ht
  have hread : Text.readFrom? t front.length = some ('(' :: (a ++ ')' :: rest)) := by
    rw [Text.readFrom?_natCast, ht, List.drop_left]
  have hslice : Text.slice t (front.length + 1 : Nat) (front.length + 1 + a.length : Nat) = a := by
    rw [Text.slice_natCast, Nat.add_sub_cancel_left, ht, ← List.drop_drop, List.drop_left]
    exact List.take_left
  rw [Modes.payloadAt?_eq, delimitedAt?_of_readFrom? hread, ha.delimited?_eq, Option.map_some]
  refine congrArg some (Prod.ext hslice ?_)
  push_cast
  omega

namespace Modes

theorem isWord_of_mem_name {n : Text} (hn : Variable.IsName n) : ∀ c ∈ n, Text.isWord c = true :=
  fun c hc => Text.isWord_of_isNameChar (hn.chars c hc)

theorem ne_nil_of_isName {n : Text} (hn : Variable.IsName n) : n ≠ [] := by
  rintro rfl
  cases hn.start

theorem any_head?_of_isName {n : Text} (hn : Variable.IsName n) (r : Text) : (n ++ r).head?.any Text.isWord = true := by
  cases n with
  | nil => exact absurd rfl (ne_nil_of_isName hn)
  | cons c n => exact isWord_of_mem_name hn c List.mem_cons_self

/-! ### Looking for a mode -/

theorem outputAt?_of_before {mode : String} {before : Option Char} (h : before.any Text.isWord = true) (t : Text) :
    outputAt? mode before t = none := by
  simp [outputAt?, h]

/-- Where another word stands, or none, there is no output for a mode. -/
theorem outputAt?_of_ne {mode : String} (hmode : Variable.IsName mode.toList) {w : Text}
    (hw : ∀ c ∈ w, Text.isWord c = true) (hne : w ≠ mode.toList) {r : Text} (hr : r.head?.any Text.isWord = false)
    (before : Option Char) : outputAt? mode before (w ++ r) = none := by
  cases hafter : Text.after? mode.toList (w ++ r) with
  | none => simp [outputAt?, hafter]
  | some u =>
    have hword : u.head?.any Text.isWord = true := by
      by_contra hnot
      have htext := Text.after?_eq_some_iff.1 hafter
      have htake := takeWhile_append_stop hw hr
      rw [htext, takeWhile_append_stop (isWord_of_mem_name hmode) (by simpa using hnot)] at htake
      exact hne htake.symm
    simp [outputAt?, hafter, hword]

theorem untilClose?_plain {q : Char} (hq : IsQuoteMark q) {v : Text} (hv : ∀ c ∈ v, IsPlain c) (r : Text) :
    untilClose? q false (v ++ q :: r) = some v := by
  induction v with
  | nil =>
    have hslash : q ≠ '\\' := by rcases hq with rfl | rfl <;> decide
    simp [untilClose?, hslash]
  | cons c v ih =>
    obtain ⟨hc, hv⟩ := List.forall_mem_cons.1 hv
    have hne : c ≠ q := fun h => hc.1 (h ▸ hq)
    rw [List.cons_append, untilClose?, ih hv]
    simp [hc.2, hne]

/-! ### Arguments -/

/-- A literal for a mode as it is written: the name of the mode, an arrow with white space around it and the literal,
which holds no quotes and no backslashes. Commas and white space set it off from what stands before. -/
structure Argument where
  lead : Text
  mode : Text
  left : Text
  right : Text
  quote : Char
  value : Text
  lead_sep : ∀ c ∈ lead, c = ',' ∨ Text.isBlank c = true
  mode_name : Variable.IsName mode
  left_gap : Text.IsGap left
  right_gap : Text.IsGap right
  quote_mark : IsQuoteMark quote
  value_plain : ∀ c ∈ value, IsPlain c

namespace Argument

def output (a : Argument) : Text := a.left ++ ("=>".toList ++ (a.right ++ a.quote :: (a.value ++ [a.quote])))

def text (a : Argument) : Text := a.lead ++ (a.mode ++ a.output)

end Argument

/-- The arguments of a call with the positions of their modes, the first argument being written at a position. -/
def placedFrom (pos : Nat) : List Argument → List (Nat × Argument)
  | [] => []
  | a :: args => (pos + a.lead.length, a) :: placedFrom (pos + a.text.length) args

/-- The text of a call's arguments; commas and white space may stand behind the last one. -/
def written (args : List Argument) (trail : Text) : Text := args.flatMap Argument.text ++ trail

theorem written_cons (a : Argument) (args : List Argument) (trail : Text) :
    written (a :: args) trail = a.text ++ written args trail := by
  rw [written, List.flatMap_cons, List.append_assoc, written]

/-- A character that can stand in code between the names of modes: it is in no word and no parenthesis. -/
def Between (c : Char) : Prop := Text.isWord c = false ∧ NoParenthesis c

theorem between_of_sep {c : Char} (hc : c = ',' ∨ Text.isBlank c = true) : IsPlain c ∧ Between c := by
  rcases hc with rfl | hc
  · have hplain := isPlain_of_class (p := (· == ',')) rfl (c := ',') rfl
    exact ⟨hplain.1, rfl, hplain.2⟩
  · have hplain := isPlain_of_class rfl hc
    exact ⟨hplain.1, Text.not_isWord_of_isBlank hc, hplain.2⟩

theorem closedCode_of_sep {u : Text} (hu : ∀ c ∈ u, c = ',' ∨ Text.isBlank c = true) : ClosedCode Between u :=
  .of_plain fun c hc => between_of_sep (hu c hc)

theorem closedCode_of_isName {n : Text} (hn : Variable.IsName n) : ClosedCode NoParenthesis n :=
  .of_plain fun c hc => isPlain_of_class rfl (hn.chars c hc)

theorem between_of_isQuoteMark {c : Char} (hc : IsQuoteMark c) : Between c := by
  rcases hc with rfl | rfl
  · exact ⟨rfl, by decide, by decide⟩
  · exact ⟨rfl, by decide, by decide⟩

variable {mode : String}

/-- What stands behind a name holds no word and no parenthesis outside of its literal. -/
theorem Argument.closedCode_output (a : Argument) : ClosedCode Between a.output := by
  have hgap {g : Text} (hg : Text.IsGap g) : ClosedCode Between g := closedCode_of_sep fun c hc => .inr (hg c hc)
  have harrow : ClosedCode Between "=>".toList := by
    refine ⟨rfl, List.forall_mem_cons.2 ⟨⟨rfl, by decide, by decide⟩, ?_⟩⟩
    exact List.forall_mem_singleton.2 ⟨rfl, by decide, by decide⟩
  have hliteral : ClosedCode Between (a.quote :: (a.value ++ [a.quote])) :=
    .literal a.quote_mark (between_of_isQuoteMark a.quote_mark) a.value_plain
  exact (hgap a.left_gap).append (harrow.append ((hgap a.right_gap).append hliteral))

theorem closedCode_written (args : List Argument) {trail : Text}
    (htrail : ∀ c ∈ trail, c = ',' ∨ Text.isBlank c = true) : ClosedCode NoParenthesis (written args trail) := by
  induction args with
  | nil => exact (closedCode_of_sep htrail).mono fun _ h => h.2
  | cons a args ih =>
    have hlead : ClosedCode NoParenthesis a.lead := (closedCode_of_sep a.lead_sep).mono fun _ h => h.2
    have houtput : ClosedCode NoParenthesis a.output := a.closedCode_output.mono fun _ h => h.2
    rw [written_cons]
    exact (hlead.append ((closedCode_of_isName a.mode_name).append houtput)).append ih

theorem Argument.getLast?_output (a : Argument) : a.output.getLast? = some a.quote := by
  have hconcat : a.output = a.left ++ ("=>".toList ++ (a.right ++ a.quote :: a.value)) ++ [a.quote] := by simp [output]
  rw [hconcat, List.getLast?_concat]

theorem Argument.head?_output (a : Argument) (r : Text) : (a.output ++ r).head?.any Text.isWord = false := by
  cases hleft : a.left with
  | nil =>
    rw [output, hleft]
    rfl
  | cons c g =>
    have hc := Text.not_isWord_of_isBlank (a.left_gap c (by simp [hleft]))
    simp [output, hleft, hc]

theorem Argument.outputAt?_eq (a : Argument) (hmode : a.mode = mode.toList) {before : Option Char}
    (hbefore : before.any Text.isWord = false) (r : Text) :
    outputAt? mode before (a.mode ++ (a.output ++ r)) = some (.literal a.value, (a.mode ++ a.output).length) := by
  set value := a.quote :: (a.value ++ a.quote :: r) with hvalue
  have houtput : a.output ++ r = a.left ++ ("=>".toList ++ (a.right ++ value)) := by
    simp [output, hvalue]
  have hafter : Text.after? mode.toList (a.mode ++ (a.output ++ r)) = some (a.output ++ r) :=
    Text.after?_eq_some_iff.2 (by rw [hmode])
  have harrow : Text.after? "=>".toList (Text.trimStart (a.output ++ r)) = some (a.right ++ value) := by
    rw [houtput, a.left_gap.trimStart_append rfl]
    exact Text.after?_eq_some_iff.2 rfl
  have hquote : Text.isBlank a.quote = false := by rcases a.quote_mark with h | h <;> rw [h] <;> rfl
  have htrim : Text.trimStart (a.right ++ value) = value := a.right_gap.trimStart_append hquote
  have hmark : isQuote a.quote = true := by rcases a.quote_mark with h | h <;> rw [h] <;> rfl
  have hread : quoted? value = some (a.value, a.value.length + 2) := by
    rw [hvalue, quoted?, if_pos hmark, untilClose?_plain a.quote_mark a.value_plain]
    rfl
  have hlength : (a.mode ++ (a.output ++ r)).length - value.length + (a.value.length + 2) = (a.mode ++ a.output).length := by
    have hsize : value.length = a.value.length + 2 + r.length := by
      simp [hvalue]
      omega
    have hcover : a.value.length + 2 ≤ a.output.length := by
      simp [output]
      omega
    simp only [List.length_append]
    omega
  simp only [outputAt?, hbefore, hafter, a.head?_output r, harrow, htrim, hread, hlength, bind, Option.bind_some,
    Bool.false_eq_true, if_false]
  rw [hvalue]
  dsimp only
  rw [if_pos hmark]

/-! ### The search along the arguments -/

theorem getLast?_cons_or (c : Char) (u : Text) (before : Option Char) :
    (c :: u).getLast?.or before = u.getLast?.or (some c) := by
  rw [List.getLast?_cons]
  cases u.getLast? <;> rfl

theorem outputsFrom_skip (f : QuoteFlags) (before : Option Char) (pos : Nat) (u r : Text) :
    outputsFrom mode f u.length before pos (u ++ r) =
      outputsFrom mode f 0 (u.getLast?.or before) (pos + u.length) r := by
  induction u generalizing before pos with
  | nil => rfl
  | cons c u ih =>
    rw [List.length_cons, List.cons_append, outputsFrom, ih, getLast?_cons_or]
    congr 1
    omega

theorem outputsFrom_found {before : Option Char} {u r : Text} {o : Output} (hu : u.head?.any Text.isWord = true)
    (h : outputAt? mode before (u ++ r) = some (o, u.length)) (pos : Nat) :
    outputsFrom mode {} 0 before pos (u ++ r) =
      (pos, o) :: outputsFrom mode {} 0 (u.getLast?.or before) (pos + u.length) r := by
  cases u with
  | nil => cases hu
  | cons c u =>
    have hpos : pos + (c :: u).length = pos + 1 + u.length := by rw [List.length_cons]; omega
    have hplace : QuoteFlags.byPlace? {} c = none := by
      rcases QuoteState.byPlace?_cases {} c with ⟨hnone, -⟩ | ⟨-, hmark⟩
      · exact hnone
      · have hword : Text.isWord c = true := hu
        rcases QuoteState.isMark_iff.1 (hmark rfl) with rfl | rfl | rfl <;> exact absurd hword (by decide)
    rw [List.cons_append] at h ⊢
    rw [outputsFrom, hplace]
    dsimp only
    rw [h, getLast?_cons_or, hpos, ← outputsFrom_skip]
    rfl

theorem outputsFrom_pass {s : QuoteState} {before : Option Char} {u r : Text}
    (h : ∀ v c w, u = v ++ c :: w → (s.behind v).inCode = true →
      outputAt? mode (v.getLast?.or before) (c :: (w ++ r)) = none) (pos : Nat) :
    outputsFrom mode s.flags 0 before pos (u ++ r) =
      outputsFrom mode (s.behind u).flags 0 (u.getLast?.or before) (pos + u.length) r := by
  induction u generalizing s before pos with
  | nil => rfl
  | cons c u ih =>
    have hhere : outputsFrom mode s.flags 0 before pos (c :: (u ++ r)) =
        outputsFrom mode (s.step c).flags 0 (some c) (pos + 1) (u ++ r) := by
      rcases s.byPlace?_cases c with ⟨hnone, hstep, hcode⟩ | ⟨hsome, -⟩
      · have hmiss := h [] c u rfl hcode
        simp only [List.getLast?_nil, Option.none_or] at hmiss
        simp only [outputsFrom, hnone, hstep, hmiss]
      · simp only [outputsFrom, hsome]
    have hpos : pos + (c :: u).length = pos + 1 + u.length := by rw [List.length_cons]; omega
    rw [List.cons_append, hhere, ih, getLast?_cons_or, hpos]
    · rfl
    · intro v d w huv hcode
      rw [← getLast?_cons_or]
      exact h (c :: v) d w (congrArg (c :: ·) huv) hcode

theorem outputsFrom_quiet (hmode : Variable.IsName mode.toList) {u : Text}
    (hu : ClosedCode Between u) (before : Option Char) (pos : Nat) (r : Text) :
    outputsFrom mode {} 0 before pos (u ++ r) =
      outputsFrom mode {} 0 (u.getLast?.or before) (pos + u.length) r := by
  rw [← QuoteState.flags_start, outputsFrom_pass, hu.closed]
  rintro v c w rfl hcode
  have hhead : (c :: (w ++ r)).head?.any Text.isWord = false := (hu.code c (QuoteState.mem_codeFrom hcode)).1
  exact outputAt?_of_ne hmode (w := []) (by simp) (ne_nil_of_isName hmode).symm hhead _

/-- The name of another mode is passed over, also if it has the name that is looked for in it. -/
theorem outputsFrom_other (hmode : Variable.IsName mode.toList) {u : Text} (hu : Variable.IsName u)
    (hne : u ≠ mode.toList) {r : Text} (hr : r.head?.any Text.isWord = false) (before : Option Char) (pos : Nat) :
    outputsFrom mode {} 0 before pos (u ++ r) =
      outputsFrom mode {} 0 (u.getLast?.or before) (pos + u.length) r := by
  rw [← QuoteState.flags_start, outputsFrom_pass, (closedCode_of_isName hu).closed]
  rintro v c w rfl -
  rcases List.eq_nil_or_concat' v with rfl | ⟨v, d, rfl⟩
  · exact outputAt?_of_ne hmode (isWord_of_mem_name hu) hne hr _
  · -- a character of the name stands before
    refine outputAt?_of_before ?_ _
    simpa using isWord_of_mem_name hu d (by simp)

/-- One argument: its literal is an output of the mode just if it is written for this mode, and the search goes on
behind it. -/
theorem outputsFrom_argument (hmode : Variable.IsName mode.toList) (a : Argument) {before : Option Char}
    (hbefore : before.any Text.isWord = false) (pos : Nat) (r : Text) :
    outputsFrom mode {} 0 before pos (a.text ++ r) =
      (if a.mode = mode.toList then [(pos + a.lead.length, Output.literal a.value)] else []) ++
        outputsFrom mode {} 0 (some a.quote) (pos + a.text.length) r := by
  have hlead : ClosedCode Between a.lead := closedCode_of_sep a.lead_sep
  have hbefore' : (a.lead.getLast?.or before).any Text.isWord = false := by
    cases hlast : a.lead.getLast? with
    | none => simpa using hbefore
    | some c => simpa using (between_of_sep (a.lead_sep c (List.mem_of_getLast? hlast))).2.1
  have hpos : pos + a.text.length = pos + a.lead.length + (a.mode ++ a.output).length := by
    simp only [Argument.text, List.length_append]
    omega
  have hlast (b : Option Char) : (a.mode ++ a.output).getLast?.or b = some a.quote := by
    simp [List.getLast?_append, a.getLast?_output]
  rw [Argument.text, List.append_assoc, List.append_assoc, outputsFrom_quiet hmode hlead, ← Argument.text, hpos]
  by_cases heq : a.mode = mode.toList
  · have hfound := a.outputAt?_eq heq hbefore' r
    rw [← List.append_assoc] at hfound ⊢
    rw [outputsFrom_found (any_head?_of_isName a.mode_name a.output) hfound, hlast, if_pos heq]
    rfl
  · have hpass := outputsFrom_other hmode a.mode_name heq (a.head?_output r) (a.lead.getLast?.or before)
      (pos + a.lead.length)
    rw [hpass, outputsFrom_quiet hmode a.closedCode_output, if_neg heq, ← Option.or_assoc,
      ← List.getLast?_append, hlast, List.nil_append, List.length_append, ← Nat.add_assoc]

/-- The outputs for a mode are those that are written for it, in order. -/
theorem outputs_written (hmode : Variable.IsName mode.toList) (args : List Argument) {trail : Text}
    (htrail : ∀ c ∈ trail, c = ',' ∨ Text.isBlank c = true) :
    outputs mode (written args trail) =
      ((placedFrom 0 args).filter fun x => x.2.mode = mode.toList).map fun x => (x.1, .literal x.2.value) := by
  have hfrom (before : Option Char) (hbefore : before.any Text.isWord = false) (pos : Nat) :
      outputsFrom mode {} 0 before pos (written args trail) =
        ((placedFrom pos args).filter fun x => x.2.mode = mode.toList).map fun x => (x.1, .literal x.2.value) := by
    induction args generalizing before pos with
    | nil =>
      have hpass := outputsFrom_quiet hmode (closedCode_of_sep htrail) before pos []
      rwa [List.append_nil] at hpass
    | cons a args ih =>
      have hquote : (some a.quote).any Text.isWord = false := (between_of_isQuoteMark a.quote_mark).1
      rw [written_cons, outputsFrom_argument hmode a hbefore, ih (some a.quote) hquote, placedFrom, List.filter_cons]
      by_cases heq : a.mode = mode.toList
      · simp [heq]
      · simp [heq]
  exact hfrom none rfl 0

/-- Arguments written with commas and white space between them in the parentheses of a call are read back, whatever
stands in their literals and behind the call: the parentheses hold the arguments, and the outputs for the printed mode
and for the web mode are the literals written for them. Of the former it is read whether they are blank. -/
theorem arguments_read (args : List Argument) {trail : Text} (htrail : ∀ c ∈ trail, c = ',' ∨ Text.isBlank c = true)
    (rest : Text) :
    payloadAt? ("MODES(".toList ++ (written args trail ++ ')' :: rest)) 5 =
        some (written args trail, ((written args trail).length : Int) + 7) ∧
      texOutputs (written args trail) = (((placedFrom 0 args).filter fun x => x.2.mode = "TeX".toList).map
        fun x => (x.1, Text.isAllBlank x.2.value)) ∧
      htmlOutputs (written args trail) = (((placedFrom 0 args).filter fun x => x.2.mode = "HTML".toList).map
        fun x => (x.1, x.2.value)) := by
  refine ⟨?_, ?_, ?_⟩
  · have hread := (closedCode_written args htrail).payloadAt?_eq "MODES".toList rest
    have hbehind : (("MODES".toList.length + (written args trail).length + 2 : Nat) : Int) =
        (written args trail).length + 7 := by
      rw [show "MODES".toList.length = 5 from rfl]
      omega
    rwa [hbehind] at hread
  · have hname : Variable.IsName "TeX".toList := ⟨rfl, List.all_eq_true.1 rfl⟩
    rw [texOutputs, outputs_written hname args htrail, List.map_map]
    rfl
  · have hname : Variable.IsName "HTML".toList := ⟨rfl, List.all_eq_true.1 rfl⟩
    rw [htmlOutputs, outputs_written hname args htrail, List.filterMap_map]
    exact congrFun List.filterMap_eq_map _

/-- An empty literal for the printed mode, one that looks like the end of the call and like further arguments, and one
over two lines for the web mode. -/
def sampleArguments : List Argument :=
  [{ lead := []
     mode := "TeX".toList
     left := "  ".toList
     right := "  ".toList
     quote := '\''
     value := []
     lead_sep := by simp
     mode_name := ⟨rfl, List.all_eq_true.1 rfl⟩
     left_gap := List.all_eq_true.1 rfl
     right_gap := List.all_eq_true.1 rfl
     quote_mark := isQuoteMark_single
     value_plain := by simp },
   { lead := [',']
     mode := "HTML_TeX".toList
     left := "".toList
     right := "".toList
     quote := '"'
     value := ") TeX => (HTML => b,".toList
     lead_sep := by simp
     mode_name := ⟨rfl, List.all_eq_true.1 rfl⟩
     left_gap := List.all_eq_true.1 rfl
     right_gap := List.all_eq_true.1 rfl
     quote_mark := isQuoteMark_double
     value_plain := List.all_iff_forall_prop.1 rfl },
   { lead := ",\n".toList
     mode := "HTML".toList
     left := "\n ".toList
     right := "\t\t".toList
     quote := '\''
     value := "<b>\n</b>".toList
     lead_sep := List.all_iff_forall_prop.1 rfl
     mode_name := ⟨rfl, List.all_eq_true.1 rfl⟩
     left_gap := List.all_eq_true.1 rfl
     right_gap := List.all_eq_true.1 rfl
     quote_mark := isQuoteMark_single
     value_plain := List.all_iff_forall_prop.1 rfl }]

def sampleText : Text := "TeX  =>  '',HTML_TeX=>\") TeX => (HTML => b,\",\nHTML\n =>\t\t'<b>\n</b>', ".toList

theorem written_sampleArguments : written sampleArguments ", ".toList = sampleText := by decide

theorem arguments_read_sample :
    delimitedAt? '(' ')' ("MODES(".toList ++ (sampleText ++ ") + ')'".toList)) 5 = some (sampleText, 75) ∧
      texOutputs sampleText = [(0, true)] ∧ htmlOutputs sampleText = [(46, "<b>\n</b>".toList)] := by
  have htrail : ∀ c ∈ ", ".toList, c = ',' ∨ Text.isBlank c = true := List.all_iff_forall_prop.1 rfl
  have hread := arguments_read sampleArguments htrail " + ')'".toList
  rw [written_sampleArguments] at hread
  exact hread

end Modes

end ProblemLint
