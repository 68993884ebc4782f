import ProblemLint.Proofs.InlineExemption
import ProblemLint.Proofs.LoweredChecks
import ProblemLint.Proofs.WellFormed

/-! Runs over a text one line further down. The checks of a run find the same one line further down, and the notes
that they leave are the same; so the issues come in the same order, unless one of them reaches the number under which
issues without a line are sorted. -/

namespace ProblemLint

/-! ### Fields of lowered issues -/

namespace Issue

theorem get?_lowered_of_ne {key : String} (h : key ≠ "line") (i : Issue) : i.lowered.get? key = i.get? key := by
  obtain ⟨fields⟩ := i
  unfold get? lowered Fields.get?
  induction fields with
  | nil => rfl
  | cons f fields ih =>
    by_cases hline : f.1 = "line"
    · have hkey : f.1 ≠ key := fun e => h (e.symm.trans hline)
      simpa [hline, h.symm] using ih
    · by_cases hkey : f.1 = key
      · simp [hkey, h]
      · simpa [hline, hkey] using ih

theorem get?_lowered_line (i : Issue) : i.lowered.get? "line" = (i.get? "line").map Value.lowered := by
  obtain ⟨fields⟩ := i
  unfold get? lowered Fields.get?
  induction fields with
  | nil => rfl
  | cons f fields ih =>
    by_cases hline : f.1 = "line"
    · simp [hline]
    · simpa [hline] using ih

theorem set_lowered {key : String} (h : key ≠ "line") (i : Issue) (v : Value) :
    i.lowered.set key v = (i.set key v).lowered := by
  obtain ⟨fields⟩ := i
  have hname (f : String × Value) : (if f.1 == "line" then (f.1, f.2.lowered) else f).1 = f.1 := by
    split <;> rfl
  have hany : (fields.map fun f => if f.1 == "line" then (f.1, f.2.lowered) else f).any (·.1 == key) =
      fields.any (·.1 == key) := by
    simp only [List.any_map, Function.comp_def, hname]
  have hkey : (key == "line") = false := by simpa using h
  unfold set lowered Fields.set
  rw [hany]
  split
  · simp only [List.map_map]
    congr 1
    refine List.map_congr_left fun f _ => ?_
    simp only [Function.comp, hname]
    by_cases hf : f.1 = key
    · simp [hf, h]
    · simp [hf]
  · simp [h]

theorem message_lowered (i : Issue) : i.lowered.message = i.message := by
  rw [message, message, get?_lowered_of_ne (by decide)]

theorem column?_lowered (i : Issue) : i.lowered.column? = i.column? := by
  rw [column?, column?, get?_lowered_of_ne (by decide)]

theorem tag_lowered (id : String) (i : Issue) : i.lowered.tag id = (i.tag id).lowered := by
  unfold tag
  rw [get?_lowered_of_ne (by decide)]
  split
  · exact set_lowered (by decide) i _
  · exact set_lowered (by decide) i _
  · rfl

theorem le_eq (i j : Issue) :
    i.le j =
      if i.line?.getD noLine == j.line?.getD noLine then Text.le i.message j.message
      else decide (i.line?.getD noLine < j.line?.getD noLine) := rfl

section

variable {ids : List String} {limit : Nat} {i j : Issue} (hi : i.WellFormed ids limit) (hj : j.WellFormed ids limit)

include hi

theorem WellFormed.line?_lowered : i.lowered.line? = i.line?.map (· + 1) := by
  unfold line?
  rw [get?_lowered_line]
  cases hv : i.get? "line" with
  | none => rfl
  | some v =>
    obtain ⟨n, rfl, -⟩ := hi.line v hv
    rfl

theorem WellFormed.line_le {n : Int} (hn : i.line? = some n) : 1 ≤ n ∧ n ≤ limit := by
  obtain ⟨v, hv, hn⟩ := Option.bind_eq_some_iff.1 hn
  obtain ⟨m, rfl, hm⟩ := hi.line v hv
  cases hn
  exact hm

include hj

/-- Issues keep their order as long as their lines stay below the number for issues without one. -/
theorem WellFormed.le_lowered (hlimit : (limit : Int) + 1 < noLine) : i.lowered.le j.lowered = i.le j := by
  have hcompare {a b a' b' : Int} (heq : a = b ↔ a' = b') (hlt : a < b ↔ a' < b') (t : Bool) :
      (if a == b then t else decide (a < b)) = if a' == b' then t else decide (a' < b') := by
    simp only [beq_iff_eq, heq, hlt]
  rw [le_eq, le_eq, hi.line?_lowered, hj.line?_lowered, message_lowered, message_lowered]
  cases hm : i.line? with
  | none =>
    cases hn : j.line? with
    | none => rfl
    | some n =>
      have hle := (hj.line_le hn).2
      apply hcompare <;> simp only [Option.map_none, Option.map_some, Option.getD_none, Option.getD_some] <;> omega
  | some m =>
    have hle := (hi.line_le hm).2
    cases hn : j.line? with
    | none =>
      apply hcompare <;> simp only [Option.map_none, Option.map_some, Option.getD_none, Option.getD_some] <;> omega
    | some n =>
      apply hcompare <;> simp only [Option.map_some, Option.getD_some] <;> omega

end

/-- An excerpt is taken from a line and not from its number. -/
theorem WellFormed.excerpt?_lowered {ids : List String} {limit : Nat} {i : Issue} (hi : i.WellFormed ids limit)
    (window : Int) (lines : List Text) :
    i.lowered.excerpt? window ([] :: lines).toArray = i.excerpt? window lines.toArray := by
  unfold excerpt?
  rw [hi.line?_lowered, column?_lowered]
  cases hn : i.line? with
  | none => rfl
  | some n =>
    obtain ⟨hn1, -⟩ := hi.line_le hn
    obtain ⟨k, rfl⟩ : ∃ k : Nat, n = k + 1 := ⟨(n - 1).toNat, by omega⟩
    cases i.column? with
    | none => rfl
    | some column =>
      have hguard : (((k : Int) + 1 + 1 < 1 || (k : Int) + 1 + 1 > ([] :: lines).toArray.size) : Bool) =
          ((k : Int) + 1 < 1 || (k : Int) + 1 > lines.toArray.size) := by
        rw [Bool.eq_iff_iff]
        simp only [List.size_toArray, List.length_cons, Bool.or_eq_true, decide_eq_true_eq]
        omega
      have hindex : ((k : Int) + 1 + 1 - 1).toNat = k + 1 := by omega
      have hindex' : ((k : Int) + 1 - 1).toNat = k := by omega
      have hline : ([] :: lines).toArray.getD (k + 1) [] = lines.toArray.getD k [] := by simp
      simp only [Option.map_some, bind, Option.bind, hguard, hindex, hindex', hline]

theorem attachExcerpts_lowered {ids : List String} {limit : Nat} {issues : List Issue}
    (hissues : ∀ i ∈ issues, i.WellFormed ids limit) (text : Text) (window : Int) :
    attachExcerpts ('\n' :: text) (issues.map lowered) window =
      (attachExcerpts text issues window).map lowered := by
  unfold attachExcerpts
  rw [List.map_map, List.map_map]
  refine List.map_congr_left fun i hi => ?_
  have hexcerpt := (hissues i hi).excerpt?_lowered window (Text.lineTexts text)
  simp only [Function.comp, lineTexts_newline, hexcerpt]
  cases i.excerpt? window (Text.lineTexts text).toArray with
  | some e => exact set_lowered (by decide) i _
  | none => rfl

theorem sort_lowered {ids : List String} {limit : Nat} {issues : List Issue}
    (hissues : ∀ i ∈ issues, i.WellFormed ids limit) (hlimit : (limit : Int) + 1 < noLine) :
    sort (issues.map lowered) = (sort issues).map lowered := by
  unfold sort
  rw [List.map_mergeSort]
  intro i hi j hj
  exact ((hissues i hi).le_lowered (hissues j hj) hlimit).symm

end Issue

/-! ### Runs -/

namespace Check

variable {d : Document} {n : Notes}

theorem withNotes_lowered (d : Document) (n : Notes) : d.lowered.withNotes n = (d.withNotes n).lowered := rfl

theorem standardRules_lowered (hrules : d.StandardRules) : d.lowered.StandardRules := ⟨hrules.blocks, hrules.macros⟩

/-- A check leaves notes that keep the document regular. -/
theorem regular_renoted (hrules : d.StandardRules) (hd : (d.withNotes n).Regular) {c : Check} (hc : c ∈ standard) :
    (d.withNotes (c.renoted d n)).Regular := by
  by_cases hinline : c = inlineMarkers
  · subst hinline
    refine { hd with inline := fun i spans hspans => ?_ }
    change SpanTable.at? (some (.ofSpans _)) i = some spans at hspans
    rw [SpanTable.at?_ofSpans] at hspans
    obtain ⟨x, hx, rfl⟩ := List.mem_map.1 (List.mem_of_getElem? hspans)
    obtain ⟨region, -, rfl⟩ := List.mem_map.1 hx
    exact inlineSpans_nonneg _ _ _
  by_cases hblanks : c = blanks
  · subst hblanks
    exact { hd with }
  · rw [renoted_other hrules hc hinline hblanks]
    exact hd

/-- What the check of blanks finds in a region: issues, the variables of the answers, and the spans of the blanks. -/
def blanksIn (d : Document) (x : Nat × Int × Text) : List Issue × List String × List Span :=
  let inline := d.inlineSpansOf x.1 x.2.2 x.2.1
  let found := answerBlanks x.2.2 x.2.1 d.newlines inline.2
  (inline.1 ++ found.1, found.2)

theorem renoted_blanks (d : Document) (n : Notes) :
    blanks.renoted d n =
      { n with
        names := some (sortedNames (((d.withNotes n).regionTexts.map (blanksIn (d.withNotes n))).flatMap (·.2.1)))
        blanks := some (.ofSpans (((d.withNotes n).regionTexts.map (blanksIn (d.withNotes n))).map (·.2.2))) } := rfl

theorem renoted_lowered (hrules : d.StandardRules) (hd : (d.withNotes n).Regular) {c : Check} (hc : c ∈ standard) :
    c.renoted d.lowered n = c.renoted d n := by
  by_cases hinline : c = inlineMarkers
  · subst hinline
    have hspans : (((d.withNotes n).lowered.regionTexts.map fun x =>
          inlineSpans x.2.2 x.2.1 (d.withNotes n).lowered.newlines).map (·.2)) =
        ((d.withNotes n).regionTexts.map fun x => inlineSpans x.2.2 x.2.1 (d.withNotes n).newlines).map (·.2) := by
      rw [Document.regionTexts_lowered hd, List.map_map, List.map_map, List.map_map]
      refine List.map_congr_left fun x hx => ?_
      simp only [Function.comp, Document.readInline_lowered hd (Document.regionTexts_nonneg hd x hx)]
    exact congrArg (fun table => { n with inline := some (.ofSpans table) }) hspans
  by_cases hblanks : c = blanks
  · subst hblanks
    have hfound : ((d.withNotes n).lowered.regionTexts.map (blanksIn (d.withNotes n).lowered)) =
        ((d.withNotes n).regionTexts.map (blanksIn (d.withNotes n))).map fun y => (y.1.map Issue.lowered, y.2) := by
      rw [Document.regionTexts_lowered hd, List.map_map, List.map_map]
      refine List.map_congr_left fun x hx => ?_
      have ha := Document.regionTexts_nonneg hd x hx
      simp only [Function.comp, blanksIn, Document.inlineSpansOf_lowered hd x.1 ha,
        Document.answerBlanks_lowered hd ha, List.map_append]
    rw [renoted_blanks, renoted_blanks, withNotes_lowered, hfound, List.flatMap_map, List.map_map]
    rfl
  · rw [renoted_other hrules hc hinline hblanks, renoted_other (standardRules_lowered hrules) hc hinline hblanks]

/-- One line further down, a run finds the same, check by check. -/
theorem issuesThrough_lowered (hrules : d.StandardRules) (hd : (d.withNotes n).Regular) {S : List Check}
    (hS : S ⊆ standard) (hheader : headerTags.id ∉ S.map (·.id)) :
    issuesThrough d.lowered n S = (issuesThrough d n S).map Issue.lowered := by
  induction S generalizing n with
  | nil => rfl
  | cons c S ih =>
    obtain ⟨hc, hS⟩ := List.cons_subset.1 hS
    rw [List.map_cons, List.mem_cons, not_or] at hheader
    have hfound := found_lowered hd ⟨hrules.blocks, hrules.macros⟩ hc (Ne.symm hheader.1)
    have hrest := ih (regular_renoted hrules hd hc) hS hheader.2
    simp only [issuesThrough, withNotes_lowered, hfound, renoted_lowered hrules hd hc, hrest, List.map_append,
      List.map_map]
    congr 1
    refine List.map_congr_left fun i _ => ?_
    exact Issue.tag_lowered c.id i

end Check

/-! ### Line breaks -/

namespace Text

/-- How many line breaks a text has, a carriage return with its line feed being one. -/
def lineBreaks : Text → Nat
  | [] => 0
  | '\r' :: '\n' :: r => lineBreaks r + 1
  | c :: r => if isLineBreak c then lineBreaks r + 1 else lineBreaks r

theorem length_lines_le_lineBreaks (t : Text) : (lines t).length ≤ lineBreaks t + 1 := by
  fun_induction lineBreaks t with
  | case1 => simp [lines]
  | case2 r ih =>
    rw [lines, List.length_cons]
    omega
  | case3 c r hpair hc ih =>
    rw [lines_cons_of_break hc fun r' h h' => hpair r' h h', List.length_cons]
    omega
  | case4 c r hpair hc ih =>
    rw [length_lines_cons_of_not_break (by simpa using hc)]
    omega

theorem count_newline_le_lineBreaks (t : Text) : t.count '\n' ≤ lineBreaks t := by
  fun_induction lineBreaks t with
  | case1 => rfl
  | case2 r ih =>
    rw [List.count_cons_of_ne (by decide), List.count_cons_self]
    omega
  | case3 c r hpair hc ih =>
    have hle := List.count_cons (a := '\n') (b := c) (l := r)
    split at hle <;> omega
  | case4 c r hpair hc ih =>
    rw [List.count_cons_of_ne (ne_newline_of_not_break hc)]
    exact ih

theorem lineBreaks_replicate (k : Nat) (t : Text) : lineBreaks (List.replicate k '\n' ++ t) = k + lineBreaks t := by
  induction k with
  | zero => simp
  | succ k ih =>
    have hstep : lineBreaks ('\n' :: (List.replicate k '\n' ++ t)) = lineBreaks (List.replicate k '\n' ++ t) + 1 := rfl
    rw [List.replicate_succ, List.cons_append, hstep, ih]
    omega

end Text

theorem lineLimit_le (t : Text) : lineLimit t ≤ t.lineBreaks + 1 := by
  have hlines := Text.length_lines_le_lineBreaks t
  have hcount := Text.count_newline_le_lineBreaks t
  unfold lineLimit
  omega

/-! ### Whole runs -/

namespace Check

open Selection (document)

theorem document_newline (version path : Option Text) (text : Text) :
    document version path ('\n' :: text) = (document version path text).lowered := Document.ofText_newline _ _ _ _ _

theorem regular_document (version path : Option Text) {text : Text} (hbroken : '\n' ∈ text) :
    ((document version path text).withNotes {}).Regular := Document.regular_ofText hbroken _ _ _ _

/-- A line feed before a text of more than one line moves what a run reports down by one line, and changes nothing
else: the checks are any standard ones but that of the header. -/
theorem lint_newline_cons {S : List Check} (hS : S ⊆ standard) (hheader : headerTags.id ∉ S.map (·.id))
    (version path : Option Text) {text : Text} (hbroken : '\n' ∈ text) (hbreaks : text.lineBreaks < 10 ^ 9 - 2) :
    ∃ found, lint { checks := S, version } path text = .ok found ∧
      lint { checks := S, version } path ('\n' :: text) = .ok (found.map Issue.lowered) := by
  have hwellFormed := wellFormed_issuesThrough hS version path text {}
  have hlimit : (lineLimit text : Int) + 1 < Issue.noLine := by
    have hle := lineLimit_le text
    unfold Issue.noLine
    omega
  have hissues : issuesThrough (document version path ('\n' :: text)) {} S =
      (issuesThrough (document version path text) {} S).map Issue.lowered := by
    rw [document_newline]
    exact issuesThrough_lowered (standardRules_document version path text)
      (regular_document version path hbroken) hS hheader
  refine ⟨_, lint_standard hS version path text, ?_⟩
  rw [lint_standard hS, hissues, Issue.sort_lowered hwellFormed hlimit, Issue.attachExcerpts_lowered]
  intro i hi
  exact hwellFormed i ((List.mergeSort_perm _ _).mem_iff.1 hi)

/-! ### The last line before issues without one -/

/-- A problem whose last line holds an answer blank of the older kind, with a number of empty lines before it. -/
def answerBelow (k : Nat) : Text := List.replicate k '\n' ++ "DOCUMENT()ans_rule(".toList

def seedNote : Issue :=
  (Issue.general .warning "No seed-based randomization detected; answer may not vary with seed").tag seedVariation.id

def answerNote (line : Nat) : Issue :=
  (Issue.onLine .warning ("ans_rule() is deprecated legacy PG syntax; "
    ++ "use PGML inline answer blanks like [_]\x7b$answer\x7d instead") line).tag answerRule.id

theorem lowered_answerNote (line : Nat) : (answerNote line).lowered = answerNote (line + 1) := rfl

/-- The two checks that have something to say about such a problem. -/
def answerChecks : List Check := [seedVariation, answerRule]

theorem answerChecks_sublist : answerChecks.Sublist standard :=
  sublist_standard ["pgml_seed_variation", "pgml_ans_rule"]

theorem newline_mem_answerBelow {k : Nat} (hk : 1 ≤ k) : '\n' ∈ answerBelow k :=
  List.mem_append_left _ (List.mem_replicate.2 ⟨by omega, rfl⟩)

theorem newline_cons_answerBelow (k : Nat) : '\n' :: answerBelow k = answerBelow (k + 1) := rfl

theorem lineBreaks_answerBelow (k : Nat) : (answerBelow k).lineBreaks = k := Text.lineBreaks_replicate k _

theorem issues_answerBelow_one :
    issuesThrough (document none none (answerBelow 1)) {} answerChecks = [seedNote, answerNote 2] := by
  have hdocument : (emptyCall "DOCUMENT").occursIn (document none none (answerBelow 1)).code = true := by
    decide +kernel
  have hseed : ((codeLines (document none none (answerBelow 1)).code).any fun x => usesSeed x.2) = false := by
    decide +kernel
  have hstarts :
      ((functionCall "ans_rule").findAll (document none none (answerBelow 1)).code).map (·.start) = [11] := by
    decide +kernel
  have hline : (document none none (answerBelow 1)).lineOf (11 : Nat) = 2 := by decide +kernel
  have hfirst : (seedVariation.found (document none none (answerBelow 1))).map (·.tag seedVariation.id) =
      [seedNote] := by
    rw [seedVariation, found_reporting, if_pos]
    · rfl
    · rw [Bool.and_eq_true, Bool.not_eq_true']
      exact ⟨hdocument, hseed⟩
  have hsecond : (answerRule.found (document none none (answerBelow 1))).map (·.tag answerRule.id) =
      [answerNote 2] := by
    calc (answerRule.found (document none none (answerBelow 1))).map (·.tag answerRule.id)
        = (((functionCall "ans_rule").findAll (document none none (answerBelow 1)).code).map (·.start)).map
            fun pos : Nat => answerNote ((document none none (answerBelow 1)).lineOf pos) := by
          rw [List.map_map]
          exact List.map_map
      _ = [answerNote 2] := by rw [hstarts, List.map_singleton, hline]
  exact congrArg₂ (· ++ ·) hfirst (congrArg (· ++ []) hsecond)

theorem issues_answerBelow {k : Nat} (hk : 1 ≤ k) :
    issuesThrough (document none none (answerBelow k)) {} answerChecks = [seedNote, answerNote (k + 1)] := by
  induction k, hk using Nat.le_induction with
  | base => exact issues_answerBelow_one
  | succ k hk ih =>
    rw [← newline_cons_answerBelow, document_newline, issuesThrough_lowered (standardRules_document none none _)
      (regular_document none none (newline_mem_answerBelow hk)) answerChecks_sublist.subset (by decide), ih]
    rfl

theorem line?_seedNote : seedNote.line? = none := rfl

theorem line?_answerNote (n : Nat) : (answerNote n).line? = some (n : Int) := rfl

theorem sort_notes_lt {n : Nat} (hn : (n : Int) < Issue.noLine) :
    Issue.sort [seedNote, answerNote n] = [answerNote n, seedNote] := by
  have hle : seedNote.le (answerNote n) = false := by
    rw [Issue.le_eq, line?_answerNote, line?_seedNote, Option.getD_none, Option.getD_some,
      if_neg (by simpa using hn.ne')]
    simpa using hn.le
  simp [Issue.sort, List.mergeSort, hle]

theorem sort_notes_noLine {n : Nat} (hn : (n : Int) = Issue.noLine) :
    Issue.sort [seedNote, answerNote n] = [seedNote, answerNote n] := by
  have hle : seedNote.le (answerNote n) = true := by
    rw [Issue.le_eq, line?_answerNote, line?_seedNote, Option.getD_none, Option.getD_some, hn,
      if_pos (beq_self_eq_true _)]
    show Text.le "No seed-based randomization detected; answer may not vary with seed".toList _ = true
    rfl
  exact List.mergeSort_of_pairwise (by simpa using hle)

theorem lint_answerBelow {k : Nat} (hk : 1 ≤ k) :
    lint { checks := answerChecks } none (answerBelow k) = .ok (Issue.sort [seedNote, answerNote (k + 1)]) := by
  rw [lint_standard answerChecks_sublist.subset, issues_answerBelow hk, Issue.attachExcerpts_of_no_column]
  intro i hi
  have hmem := (List.mergeSort_perm _ _).mem_iff.1 hi
  simp only [List.mem_cons, List.not_mem_nil, or_false] at hmem
  rcases hmem with rfl | rfl
  · rfl
  · rfl

/-- Two issues, the second of them about the whole file, below one more line feed. -/
theorem lint_newline_cons_answerBelow :
    answerChecks ⊆ standard ∧ headerTags.id ∉ answerChecks.map (·.id) ∧ '\n' ∈ answerBelow 1 ∧
      (answerBelow 1).lineBreaks < 10 ^ 9 - 2 ∧
      lint { checks := answerChecks } none (answerBelow 1) = .ok [answerNote 2, seedNote] ∧
      lint { checks := answerChecks } none ('\n' :: answerBelow 1) = .ok [answerNote 3, seedNote] := by
  have hS := answerChecks_sublist.subset
  have hheader : headerTags.id ∉ answerChecks.map (·.id) := by decide
  have hbroken := newline_mem_answerBelow le_rfl
  have hbreaks : (answerBelow 1).lineBreaks < 10 ^ 9 - 2 := by
    rw [lineBreaks_answerBelow]
    norm_num
  have hlint : lint { checks := answerChecks } none (answerBelow 1) = .ok [answerNote 2, seedNote] := by
    rw [lint_answerBelow le_rfl, sort_notes_lt (by decide)]
  obtain ⟨found, hfound, hlowered⟩ := lint_newline_cons hS hheader none none hbroken hbreaks
  cases hlint.symm.trans hfound
  exact ⟨hS, hheader, hbroken, hbreaks, hlint, hlowered⟩

/-- With one line break more than that, the last line takes the number under which issues without a line are sorted:
an issue about it then comes after one about the whole file, if its message does. -/
theorem lint_order_lost_at_noLine :
    answerChecks.Sublist standard ∧ headerTags.id ∉ answerChecks.map (·.id) ∧ '\n' ∈ answerBelow 999999998 ∧
      (answerBelow 999999998).lineBreaks = 10 ^ 9 - 2 ∧
      lint { checks := answerChecks } none (answerBelow 999999998) = .ok [answerNote 999999999, seedNote] ∧
      lint { checks := answerChecks } none ('\n' :: answerBelow 999999998) = .ok [seedNote, answerNote 1000000000] ∧
      [seedNote, answerNote 1000000000] ≠ [answerNote 999999999, seedNote].map Issue.lowered := by
  have hone : 1 ≤ 999999998 := by norm_num
  have hbefore : ((999999998 + 1 : Nat) : Int) < Issue.noLine := by norm_num [Issue.noLine]
  have hreached : ((999999998 + 1 + 1 : Nat) : Int) = Issue.noLine := by norm_num [Issue.noLine]
  refine ⟨answerChecks_sublist, by decide, newline_mem_answerBelow hone, ?_, ?_, ?_, ?_⟩
  · rw [lineBreaks_answerBelow]
    norm_num
  · rw [lint_answerBelow hone, sort_notes_lt hbefore]
  · rw [newline_cons_answerBelow, lint_answerBelow (Nat.le_succ_of_le hone), sort_notes_noLine hreached]
  · intro h
    have hline := congrArg Issue.line? (List.cons.inj h).1
    rw [line?_seedNote, lowered_answerNote, line?_answerNote] at hline
    cases hline

end Check
end ProblemLint
