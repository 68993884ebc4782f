import ProblemLint.Check.Hazard
import ProblemLint.Proofs.InlinePairs
import ProblemLint.Proofs.LineTexts
import ProblemLint.Proofs.SoundIssues
import ProblemLint.Proofs.Texts

/-! Tag wrappers that a line break cuts. The search in a line goes on behind each wrapper that is closed and behind each
one that opens in inline code, and what it passes over holds no wrapper that is cut. Positions of lines are kept by
hand, every break as one character; without carriage returns each break is one, so these are the true positions. -/

namespace ProblemLint

namespace Text

/-- The lines of a text without their breaks, each with the position of its first character. -/
def placedLines (t : Text) : List (Nat × Text) :=
  (lines t).mapIdx fun k l => (lineStart (lines t) k, withoutBreak l)

end Text

namespace Check

/-- Without carriage returns, positions that count each break as one character are the true ones. -/
theorem linesAt_lineTexts {t : Text} (h : '\r' ∉ t) (pos : Nat) :
    linesAt pos (Text.lineTexts t) =
      (Text.lines t).mapIdx fun k l => (pos + Text.lineStart (Text.lines t) k, Text.withoutBreak l) := by
  unfold Text.lineTexts
  fun_induction Text.lines t generalizing pos with
  | case1 => rfl
  | case2 r ih => simp at h
  | case3 c r _ hc ih =>
    have hrest := ih (fun hr => h (List.mem_cons_of_mem c hr)) (pos + 1)
    simp only [List.map_cons, List.mapIdx_cons, Text.lineStart_zero, Text.lineStart_cons_succ, Text.withoutBreak,
      List.takeWhile, hc, Bool.not_true, linesAt, List.length_nil, List.length_singleton, Nat.add_zero, ← Nat.add_assoc]
    exact congrArg _ hrest
  | case4 c r _ hc hnil ih => simp [linesAt]
  | case5 c r _ hc l ls hcons ih =>
    have hrest := ih (fun hr => h (List.mem_cons_of_mem c hr)) (pos + 1)
    have hbreak : Text.withoutBreak (c :: l) = c :: Text.withoutBreak l := by simp [Text.withoutBreak, hc]
    simp only [hcons, List.map_cons, List.mapIdx_cons, Text.lineStart_zero, Text.lineStart_cons_succ, hbreak,
      linesAt, List.length_cons, Nat.add_zero, List.cons.injEq, true_and] at hrest ⊢
    rw [show pos + ((Text.withoutBreak l).length + 1) + 1 = pos + 1 + (Text.withoutBreak l).length + 1 by omega, hrest]
    congr 1
    funext k m
    rw [Prod.mk.injEq]
    exact ⟨by omega, rfl⟩

namespace Hazard

/-- In a line that starts at a position of its region, a tag wrapper opens outside of inline code and is not closed
before the end of the line. -/
structure IsCut (inline : List Span) (start : Nat) (l : Text) (i : Nat) : Prop where
  opens : List.IsPrefix "[<".toList (l.drop i)
  outside : Span.anyHolds inline (start + i : Nat) = false
  unclosed : ¬ List.IsInfix ">]".toList (l.drop (i + 2))

instance (inline : List Span) (start : Nat) (l : Text) (i : Nat) : Decidable (IsCut inline start l i) :=
  decidable_of_iff (List.IsPrefix "[<".toList (l.drop i) ∧ Span.anyHolds inline (start + i : Nat) = false ∧
    ¬ List.IsInfix ">]".toList (l.drop (i + 2))) ⟨fun h => ⟨h.1, h.2.1, h.2.2⟩, fun h => ⟨h.1, h.2, h.3⟩⟩

def firstCut? (inline : List Span) (start : Nat) (l : Text) : Option Nat :=
  (List.range l.length).find? fun i => IsCut inline start l i

variable {inline : List Span} {start : Nat} {l : Text}

theorem IsCut.lt_length {i : Nat} (h : IsCut inline start l i) : i < l.length := by
  have := h.opens.length_le
  simp at this
  omega

theorem isCut_drop {m i : Nat} : IsCut inline (start + m) (l.drop m) i ↔ IsCut inline start l (m + i) := by
  constructor
  · rintro ⟨hopens, houtside, hunclosed⟩
    rw [List.drop_drop] at hopens hunclosed
    rw [Nat.add_assoc] at houtside
    exact ⟨hopens, houtside, hunclosed⟩
  · rintro ⟨hopens, houtside, hunclosed⟩
    refine ⟨?_, ?_, ?_⟩
    · rwa [List.drop_drop]
    · rwa [Nat.add_assoc]
    · rwa [List.drop_drop]

theorem firstCut?_eq_some_iff {i : Nat} :
    firstCut? inline start l = some i ↔ IsCut inline start l i ∧ ∀ k < i, ¬ IsCut inline start l k := by
  rw [firstCut?, List.find?_range_eq_some]
  simp only [decide_eq_true_eq, List.mem_range, Bool.not_eq_true', decide_eq_false_iff_not]
  exact ⟨fun h => ⟨h.1, h.2.2⟩, fun h => ⟨h.1, h.1.lt_length, h.2⟩⟩

theorem firstCut?_eq_none_iff : firstCut? inline start l = none ↔ ∀ i, ¬ IsCut inline start l i := by
  rw [firstCut?, List.find?_range_eq_none]
  simp only [Bool.not_eq_true', decide_eq_false_iff_not]
  exact ⟨fun h i hi => h i hi.lt_length hi, fun h i _ => h i⟩

theorem firstCut?_drop {m : Nat} (h : ∀ k < m, ¬ IsCut inline start l k) :
    firstCut? inline start l = (firstCut? inline (start + m) (l.drop m)).map (m + ·) := by
  cases hfirst : firstCut? inline (start + m) (l.drop m) with
  | none =>
    rw [firstCut?_eq_none_iff] at hfirst
    refine firstCut?_eq_none_iff.2 fun i hi => ?_
    rcases Nat.lt_or_ge i m with hlt | hge
    · exact h i hlt hi
    · obtain ⟨j, rfl⟩ := Nat.exists_eq_add_of_le hge
      exact hfirst j (isCut_drop.2 hi)
  | some i =>
    obtain ⟨hcut, hbefore⟩ := firstCut?_eq_some_iff.1 hfirst
    refine firstCut?_eq_some_iff.2 ⟨isCut_drop.1 hcut, fun k (hk : k < m + i) hcut' => ?_⟩
    rcases Nat.lt_or_ge k m with hlt | hge
    · exact h k hlt hcut'
    · obtain ⟨j, rfl⟩ := Nat.exists_eq_add_of_le hge
      exact hbefore j (by omega) (isCut_drop.2 hcut')

/-! ### The search in a line -/

theorem openWrapperFrom?_skip (n pos : Nat) (l : Text) :
    openWrapperFrom? inline n pos l = openWrapperFrom? inline 0 (pos + n) (l.drop n) := by
  induction l generalizing n pos with
  | nil => simp [openWrapperFrom?]
  | cons c r ih =>
    cases n with
    | zero => rfl
    | succ n => rw [openWrapperFrom?, ih, List.drop_succ_cons, Nat.add_assoc, Nat.add_comm 1]

theorem openWrapperFrom?_plain {c : Char} {r : Text} (h : ¬ List.IsPrefix "[<".toList (c :: r)) (pos : Nat) :
    openWrapperFrom? inline 0 pos (c :: r) = openWrapperFrom? inline 0 (pos + 1) r := by
  rw [openWrapperFrom?]
  rintro inner rfl rfl
  exact h ⟨inner, rfl⟩

theorem openWrapperFrom?_held {pos : Nat} (h : Span.anyHolds inline pos = true) (inner : Text) :
    openWrapperFrom? inline 0 pos ('[' :: '<' :: inner) = openWrapperFrom? inline 0 (pos + 2) inner := by
  rw [openWrapperFrom?, if_pos h, openWrapperFrom?_skip]
  rfl

theorem openWrapperFrom?_unclosed {pos : Nat} (h : Span.anyHolds inline pos = false) {inner : Text}
    (hfind : Text.find? ">]".toList inner = none) :
    openWrapperFrom? inline 0 pos ('[' :: '<' :: inner) = some pos := by
  rw [openWrapperFrom?, h, if_neg Bool.false_ne_true, hfind]

theorem openWrapperFrom?_closed {pos : Nat} (h : Span.anyHolds inline pos = false) {inner : Text} {n : Nat}
    (hfind : Text.find? ">]".toList inner = some n) :
    openWrapperFrom? inline 0 pos ('[' :: '<' :: inner) =
      openWrapperFrom? inline 0 (pos + (n + 4)) (inner.drop (n + 2)) := by
  rw [openWrapperFrom?, h, if_neg Bool.false_ne_true, hfind]
  dsimp only
  rw [openWrapperFrom?_skip, Nat.add_assoc, Nat.add_comm 1]
  rfl

theorem getElem?_of_mark {a b : Char} {l : Text} {i : Nat} (h : List.IsPrefix [a, b] (l.drop i)) :
    l[i]? = some a ∧ l[i + 1]? = some b := by
  obtain ⟨r, hr⟩ := h
  have hfirst : (l.drop i)[0]? = l[i]? := List.getElem?_drop
  have hsecond : (l.drop i)[1]? = l[i + 1]? := List.getElem?_drop
  rw [← hr] at hfirst hsecond
  exact ⟨hfirst.symm, hsecond.symm⟩

theorem not_isCut_of_closed {inner : Text} {n : Nat} (h : List.IsPrefix ">]".toList (inner.drop n)) {k : Nat}
    (hk : k < n + 4) : ¬ IsCut inline start ('[' :: '<' :: inner) k := by
  intro hcut
  rcases Nat.lt_or_ge n k with hlt | hge
  · -- the wrapper would have to open within the marker that closes the other one
    obtain ⟨hgreater, hclose⟩ := getElem?_of_mark (a := '>') (b := ']') h
    obtain ⟨hopen, hless⟩ := getElem?_of_mark (a := '[') (b := '<') hcut.opens
    obtain rfl | rfl | rfl : k = n + 1 ∨ k = n + 2 ∨ k = n + 3 := by omega
    · simp [hgreater] at hless
    · simp [hgreater] at hopen
    · simp [hclose] at hopen
  · exact hcut.unclosed (h.isInfix.trans (List.drop_suffix_drop_left inner hge).isInfix)

/-- The search in a line finds the first wrapper that is cut. -/
theorem openWrapperFrom?_eq (inline : List Span) (pos : Nat) (l : Text) :
    openWrapperFrom? inline 0 pos l = (firstCut? inline pos l).map (pos + ·) := by
  induction hsize : l.length using Nat.strong_induction_on generalizing pos l with
  | _ size ih =>
    subst hsize
    -- the search goes on behind a stretch in which nothing is cut
    have hnext {m : Nat} (hm : 0 < m) (hne : l ≠ []) (hcut : ∀ k < m, ¬ IsCut inline pos l k) :
        openWrapperFrom? inline 0 (pos + m) (l.drop m) = (firstCut? inline pos l).map (pos + ·) := by
      have hlength : 0 < l.length := List.length_pos_of_ne_nil hne
      rw [ih (l.drop m).length (by rw [List.length_drop]; omega) (pos + m) (l.drop m) rfl, firstCut?_drop hcut,
        Option.map_map]
      congr 1
      funext i
      exact Nat.add_assoc pos m i
    cases l with
    | nil => rfl
    | cons c r =>
      have hne := List.cons_ne_nil c r
      by_cases hopens : List.IsPrefix "[<".toList (c :: r)
      · obtain ⟨inner, hinner⟩ := hopens
        obtain ⟨rfl, rfl⟩ : '[' = c ∧ '<' :: inner = r := List.cons.inj hinner
        cases hheld : Span.anyHolds inline pos with
        | true =>
          rw [openWrapperFrom?_held hheld]
          refine hnext (m := 2) (by omega) hne fun k hk hcut => ?_
          obtain rfl | rfl : k = 0 ∨ k = 1 := by omega
          · exact absurd hheld (Bool.eq_false_iff.1 hcut.outside)
          · obtain ⟨hopen, -⟩ := getElem?_of_mark (a := '[') (b := '<') hcut.opens
            simp at hopen
        | false =>
          cases hfind : Text.find? ">]".toList inner with
          | none =>
            have hcut : IsCut inline pos ('[' :: '<' :: inner) 0 := ⟨⟨inner, rfl⟩, hheld, Text.find?_eq_none hfind⟩
            rw [openWrapperFrom?_unclosed hheld hfind, firstCut?_eq_some_iff.2 ⟨hcut, by simp⟩]
            rfl
          | some n =>
            rw [openWrapperFrom?_closed hheld hfind]
            exact hnext (m := n + 4) (by omega) hne fun k => not_isCut_of_closed (Text.find?_eq_some hfind)
      · rw [openWrapperFrom?_plain hopens]
        refine hnext (m := 1) (by omega) hne fun k hk hcut => ?_
        obtain rfl : k = 0 := by omega
        exact hopens hcut.opens

/-! ### Issues -/

/-- Of the issues about a region, those about tag wrappers come from its lines. -/
theorem filter_regionIssues (d : Document) (start : Int) (t : Text) (inline : List Span) :
    (regionIssues d start t inline).filter (·.hasMessage cutMessage) =
      (linesAt 0 (Text.lineTexts t)).filterMap fun y => (openWrapperFrom? inline 0 y.1 y.2).map fun p =>
        .onLine .error cutMessage (d.lineOf (start + p)) := by
  rw [regionIssues, List.filter_append, List.filter_append, List.filter_eq_nil_iff.2, List.filter_eq_nil_iff.2,
    List.filter_eq_self.2]
  · rfl
  · intro i hi
    obtain ⟨y, -, hy⟩ := List.mem_filterMap.1 hi
    obtain ⟨p, -, rfl⟩ := Option.map_eq_some_iff.1 hy
    rfl
  · intro i hi
    obtain ⟨s, -, rfl⟩ := List.mem_map.1 hi
    exact Bool.false_ne_true
  · intro i hi
    obtain ⟨y, -, hy⟩ := List.mem_filterMap.1 hi
    obtain ⟨token, -, rfl⟩ := Option.map_eq_some_iff.1 hy
    show ¬ (("Unknown PGML block token [" ++ token ++ "] may cause parser errors").toList == _) = true
    rw [beq_iff_eq, String.toList_append, String.toList_append]
    intro h
    cases congrArg List.head? h

theorem filter_inlineSpans (t : Text) (offset : Int) (newlines : NewlineIndex) :
    (inlineSpans t offset newlines).1.filter (·.hasMessage cutMessage) = [] := by
  rw [← List.length_eq_zero_iff, ← List.countP_eq_length_filter, countP_inlineSpans, if_neg (by decide),
    if_neg (by decide)]

/-- In a file without carriage returns, the wrappers that a line break cuts are reported as errors region by region and
line by line: each line in which one is cut has one error, at the line of the first place where that happens. -/
theorem wrapper_issues {t : Text} (hreturn : '\r' ∉ t) (path : Option Text) (blockRules : List BlockRule)
    (macroRules : List MacroRule) (version : Option Text) :
    let d := Document.ofText t path blockRules macroRules version
    (parseHazards.found d).filter (·.hasMessage cutMessage) =
      d.regionTexts.flatMap fun x => (Text.placedLines x.2.2).filterMap fun y =>
        (firstCut? (inlineSpans x.2.2 x.2.1 d.newlines).2 y.1 y.2).map fun i =>
          .onLine .error cutMessage (d.lineOf (x.2.1 + (y.1 + i : Nat))) := by
  intro d
  rw [parseHazards, found_reporting, issues, List.filter_flatMap]
  refine List.flatMap_congr fun x hx => ?_
  have hregion : '\r' ∉ x.2.2 := by
    obtain ⟨i, -, rfl⟩ := List.mem_mapIdx.1 hx
    exact fun h => hreturn (Text.mem_of_mem_slice h)
  have hlines : linesAt 0 (Text.lineTexts x.2.2) = Text.placedLines x.2.2 := by
    rw [linesAt_lineTexts hregion, Text.placedLines]
    simp only [Nat.zero_add]
  show ((inlineSpans x.2.2 x.2.1 d.newlines).1 ++
    regionIssues d x.2.1 x.2.2 (inlineSpans x.2.2 x.2.1 d.newlines).2).filter _ = _
  rw [List.filter_append, filter_inlineSpans, List.nil_append, filter_regionIssues, hlines]
  refine List.filterMap_congr fun y _ => ?_
  rw [openWrapperFrom?_eq, Option.map_map]
  rfl

/-- A form feed ends a line of markup, not a line of the file; a wrapper in inline code and one that is closed are not
reported, and the first of two that are cut in a line is. -/
theorem wrapper_issues_form_feed :
    let t : Text := "BEGIN_PGML\n[<a>] [<b [<\x0c[@[<@] [<\nEND_PGML\n".toList
    '\r' ∉ t ∧ (parseHazards.found (Document.ofText t none [] [] none)).filter (·.hasMessage cutMessage) =
      [.onLine .error cutMessage 2, .onLine .error cutMessage 2] := by
  intro t
  have hreturn : '\r' ∉ t := by decide
  refine ⟨hreturn, (wrapper_issues hreturn none [] [] none).trans ?_⟩
  exact congrArg₂ (fun m n => [Issue.onLine .error cutMessage m, Issue.onLine .error cutMessage n])
    (NewlineIndex.lineOf_ofText t 17) (NewlineIndex.lineOf_ofText t 31)

end Hazard
end Check
end ProblemLint
