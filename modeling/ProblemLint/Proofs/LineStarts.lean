import ProblemLint.Proofs.Lines
import ProblemLint.Proofs.Newlines
import Mathlib.Data.List.DropRight
import Mathlib.Data.Prod.Lex

/-! Positions and their places. Line feeds cut a text into lines, each of which ends with its line feed. A position is
on the last line that does not start behind it; line and column say how far it is from the start of that line, so that
they give the position back, and a later position has a later place. -/

namespace ProblemLint

namespace Text

/-! ### Lines that end with line feeds -/

theorem newlineLines_newline (t : Text) : newlineLines ('\n' :: t) = ['\n'] :: newlineLines t := rfl

theorem newlineLines_cons {c : Char} (hc : c ≠ '\n') {t l : Text} {ls : List Text} (ht : newlineLines t = l :: ls) :
    newlineLines (c :: t) = (c :: l) :: ls := by
  simp [newlineLines, hc, ht]

theorem newlineLines_flatten (t : Text) : (newlineLines t).flatten = t := by
  fun_induction newlineLines t with
  | case1 => rfl
  | case2 c r hc ih => rw [List.flatten_cons, ih, List.singleton_append]
  | case3 c r hc hnil ih =>
    rw [hnil] at ih
    rw [← ih]
    rfl
  | case4 c r hc l ls hcons ih =>
    rw [hcons] at ih
    rw [← ih]
    rfl

theorem newlineLines_ne_nil {c : Char} {r : Text} (hc : c ≠ '\n') (h : c :: r = [] ∨ (c :: r).getLast? = some '\n') :
    newlineLines r ≠ [] := by
  intro hnil
  have hr : r = [] := by rw [← newlineLines_flatten r, hnil, List.flatten_nil]
  subst hr
  exact hc (by simpa using h)

theorem newlineLines_append {a : Text} (ha : a = [] ∨ a.getLast? = some '\n') (b : Text) :
    newlineLines (a ++ b) = newlineLines a ++ newlineLines b := by
  induction a with
  | nil => rfl
  | cons c a ih =>
    have ih := ih (endsLine_tail ha)
    by_cases hc : c = '\n'
    · subst hc
      rw [List.cons_append, newlineLines_newline, newlineLines_newline, ih, List.cons_append]
    · obtain ⟨l, ls, hlines⟩ := List.exists_cons_of_ne_nil (newlineLines_ne_nil hc ha)
      rw [hlines, List.cons_append] at ih
      rw [List.cons_append, newlineLines_cons hc ih, newlineLines_cons hc hlines, List.cons_append]

theorem newlineLines_line {l : Text} (hl : '\n' ∉ l) : newlineLines (l ++ ['\n']) = [l ++ ['\n']] := by
  induction l with
  | nil => rfl
  | cons c l ih =>
    obtain ⟨hc, hl⟩ := not_or.1 (List.mem_cons.not.1 hl)
    rw [List.cons_append, newlineLines_cons (Ne.symm hc) (ih hl)]

theorem length_newlineLines {a : Text} (ha : a = [] ∨ a.getLast? = some '\n') :
    (newlineLines a).length = a.count '\n' := by
  induction a with
  | nil => rfl
  | cons c a ih =>
    have ih := ih (endsLine_tail ha)
    by_cases hc : c = '\n'
    · subst hc
      rw [newlineLines_newline, List.length_cons, ih, List.count_cons_self]
    · obtain ⟨l, ls, hlines⟩ := List.exists_cons_of_ne_nil (newlineLines_ne_nil hc ha)
      rw [hlines, List.length_cons] at ih
      rw [newlineLines_cons hc hlines, List.length_cons, ih, List.count_cons_of_ne hc]

theorem lineStart_newlineLines {a : Text} (ha : a = [] ∨ a.getLast? = some '\n') (b : Text) :
    lineStart (newlineLines (a ++ b)) (a.count '\n') = a.length := by
  rw [newlineLines_append ha, ← length_newlineLines ha, lineStart_length_append, newlineLines_flatten]

/-- A position of a text has whole lines before it and then a part of a line. -/
theorem exists_line_before {t : Text} {p : Nat} (hp : p ≤ t.length) :
    ∃ a u v, t = a ++ (u ++ v) ∧ (a = [] ∨ a.getLast? = some '\n') ∧ '\n' ∉ u ∧ p = a.length + u.length := by
  refine ⟨(t.take p).rdropWhile (· != '\n'), (t.take p).rtakeWhile (· != '\n'), t.drop p, ?_, ?_, ?_, ?_⟩
  · rw [← List.append_assoc, List.rdropWhile_append_rtakeWhile, List.take_append_drop]
  · by_cases hnil : (t.take p).rdropWhile (· != '\n') = []
    · exact .inl hnil
    · have hlast := List.rdropWhile_last_not (· != '\n') (t.take p) hnil
      rw [List.getLast?_eq_some_getLast hnil]
      exact .inr (by simpa using hlast)
  · intro hmem
    simpa using List.mem_rtakeWhile_imp hmem
  · rw [← List.length_append, List.rdropWhile_append_rtakeWhile, List.length_take_of_le hp]

end Text

namespace NewlineIndex

open Text (lineStart newlineLines exists_line_before lineStart_newlineLines)

theorem add_mem_positionsFrom_iff {pos k : Nat} {t : Text} : pos + k ∈ positionsFrom pos t ↔ t[k]? = some '\n' := by
  induction t generalizing pos k with
  | nil => simp [positionsFrom]
  | cons c r ih =>
    cases k with
    | zero =>
      have hrest : pos ∉ positionsFrom (pos + 1) r := fun hmem => absurd (le_of_mem_positionsFrom hmem) (by omega)
      by_cases hc : c = '\n' <;> simp [positionsFrom, hc, hrest]
    | succ k =>
      have hmem : pos + (k + 1) ∈ positionsFrom (pos + 1) r ↔ r[k]? = some '\n' := by
        rw [← ih, show pos + (k + 1) = pos + 1 + k by omega]
      rw [List.getElem?_cons_succ, ← hmem, positionsFrom]
      split
      · exact List.mem_cons.trans (or_iff_right (by omega))
      · rfl

theorem mem_positions_iff {t : Text} {q : Nat} : q ∈ (ofText t).positions.toList ↔ t[q]? = some '\n' := by
  have h := @add_mem_positionsFrom_iff 0 q t
  rwa [Nat.zero_add] at h

/-- The column of a position is its distance from the start of its line, counted from one. -/
theorem columnOf_from_start {t : Text} {p : Nat} (hp : p ≤ t.length) :
    (ofText t).columnOf p = p - lineStart (newlineLines t) ((ofText t).lineOf p - 1) + 1 ∧
      lineStart (newlineLines t) ((ofText t).lineOf p - 1) ≤ p := by
  obtain ⟨a, u, v, rfl, ha, hu, rfl⟩ := exists_line_before hp
  have hline : (ofText (a ++ (u ++ v))).lineOf (a.length + u.length : Nat) - 1 = a.count '\n' := by
    rw [lineOf_ofText, Int.toNat_natCast, ← List.append_assoc, ← List.length_append, List.take_left, List.count_append,
      List.count_eq_zero.2 hu]
    omega
  rw [hline, lineStart_newlineLines ha, columnOf_ofText ha hu]
  omega

/-- The place of a position in a text: its line, and its column there. -/
def placeOf (t : Text) (p : Nat) : Nat ×ₗ Int := toLex ((ofText t).lineOf p, (ofText t).columnOf p)

theorem placeOf_lt {t : Text} {p q : Nat} (hpq : p < q) (hq : q ≤ t.length) : placeOf t p < placeOf t q := by
  have hline : (ofText t).lineOf p ≤ (ofText t).lineOf q := by
    rw [lineOf_ofText, lineOf_ofText, Int.toNat_natCast, Int.toNat_natCast]
    exact Nat.add_le_add_left ((List.take_prefix_take_left hpq.le).sublist.count_le '\n') 1
  rw [placeOf, placeOf, Prod.Lex.toLex_lt_toLex]
  rcases Nat.lt_or_eq_of_le hline with hlt | heq
  · exact .inl hlt
  · refine .inr ⟨heq, ?_⟩
    have hp := (columnOf_from_start (hpq.le.trans hq)).1
    rw [heq] at hp
    rw [hp, (columnOf_from_start hq).1]
    omega

/-- The index of a text lists its line feeds. The line of a position is one more than the line feeds before it, its column
counts from the start of its line, and both together give the position back and are ordered as positions are. -/
theorem places_account (t : Text) :
    (ofText t).positions.toList.Pairwise (· < ·) ∧
      (∀ q, q ∈ (ofText t).positions.toList ↔ t[q]? = some '\n') ∧
      (∀ p ≤ t.length,
        (ofText t).lineOf p = 1 + (t.take p).count '\n' ∧
        lineStart (newlineLines t) ((ofText t).lineOf p - 1) ≤ p ∧
        (ofText t).columnOf p = 1 + ((p - lineStart (newlineLines t) ((ofText t).lineOf p - 1) : Nat) : Int) ∧
        (p : Int) = lineStart (newlineLines t) ((ofText t).lineOf p - 1) + (ofText t).columnOf p - 1) ∧
      StrictMonoOn (placeOf t) {p | p ≤ t.length} ∧ Set.InjOn (placeOf t) {p | p ≤ t.length} := by
  have hmono : StrictMonoOn (placeOf t) {p | p ≤ t.length} := fun p _ q hq hpq => placeOf_lt hpq hq
  refine ⟨positionsFrom_pairwise 0 t, fun q => mem_positions_iff, fun p hp => ?_, hmono, hmono.injOn⟩
  obtain ⟨hcolumn, hle⟩ := columnOf_from_start hp
  refine ⟨lineOf_ofText t p, hle, ?_, ?_⟩ <;> omega

/-- A line feed is the last character of its line, and the position behind it is the first of the next, also at the end
of the text. -/
theorem places_account_newline :
    (1 ≤ "a\n\nb\n".toList.length ∧ placeOf "a\n\nb\n".toList 1 < placeOf "a\n\nb\n".toList 2) ∧
      (5 ≤ "a\n\nb\n".toList.length ∧ (ofText "a\n\nb\n".toList).lineOf (5 : Nat) = 4 ∧
        (ofText "a\n\nb\n".toList).columnOf (5 : Nat) = 1) := by
  obtain ⟨-, -, hplace, hmono, -⟩ := places_account "a\n\nb\n".toList
  obtain ⟨hline, -, hcolumn, -⟩ := hplace 5 (by decide)
  refine ⟨⟨by decide, hmono (by decide) (by decide) (by decide)⟩, by decide, hline, ?_⟩
  rw [hcolumn, hline]
  rfl

end NewlineIndex
end ProblemLint
