import ProblemLint.Text.Position
import Mathlib.Tactic

/-! The line and the column of a position. Binary search in the increasing positions of the line feeds counts those
before a position, so its line is one more than the number of line feeds in the text up to it; the column is counted
from the last of them on. -/

namespace ProblemLint

/-- Binary search finds the end of the entries that lie before, when these come first. -/
theorem bisectFrom_eq {a : Array Nat} {before : Nat → Bool} {lo hi k : Nat} (hlo : lo ≤ k) (hhi : k ≤ hi)
    (h : ∀ i, lo ≤ i → i < hi → (before (a.getD i 0) = true ↔ i < k)) : bisectFrom a before lo hi = k := by
  fun_induction bisectFrom a before lo hi with
  | case1 lo hi hlt mid hmid ih =>
    have hk : mid < k := (h mid (by omega) (by omega)).1 hmid
    exact ih (by omega) hhi fun i hi' hi'' => h i (by omega) hi''
  | case2 lo hi hlt mid hmid ih =>
    have hk : ¬ mid < k := fun hk => hmid ((h mid (by omega) (by omega)).2 hk)
    exact ih hlo (by omega) fun i hi' hi'' => h i hi' (by omega)
  | case3 lo hi hlt => omega

theorem getD_lt_iff {l : List Nat} (hl : l.Pairwise (· < ·)) {i : Nat} (hi : i < l.length) (bound : Nat) :
    l.getD i 0 < bound ↔ i < l.countP (· < bound) := by
  induction l generalizing i with
  | nil => simp at hi
  | cons p l ih =>
    obtain ⟨hp, hl⟩ := List.pairwise_cons.1 hl
    by_cases hb : p < bound
    · cases i with
      | zero => simp [hb]
      | succ i =>
        rw [List.getD_cons_succ, ih hl (Nat.lt_of_succ_lt_succ hi), List.countP_cons_of_pos (by simpa using hb)]
        omega
    · have hzero : l.countP (· < bound) = 0 := by
        rw [List.countP_eq_zero]
        intro q hq hqb
        have := hp q hq
        simp at hqb
        omega
      cases i with
      | zero => simp [hb, hzero]
      | succ i =>
        have hmem := hp _ (List.getElem_mem (Nat.lt_of_succ_lt_succ hi))
        simp only [List.length_cons, Nat.succ_lt_succ_iff] at hi
        simp [hb, hzero, hi]
        omega

namespace NewlineIndex

theorem le_of_mem_positionsFrom {pos q : Nat} {t : Text} (h : q ∈ positionsFrom pos t) : pos ≤ q := by
  induction t generalizing pos with
  | nil => simp [positionsFrom] at h
  | cons c r ih =>
    simp only [positionsFrom] at h
    split at h
    · rcases List.mem_cons.1 h with rfl | h
      · exact le_rfl
      · have := ih h
        omega
    · have := ih h
      omega

theorem positionsFrom_pairwise (pos : Nat) (t : Text) : (positionsFrom pos t).Pairwise (· < ·) := by
  induction t generalizing pos with
  | nil => exact .nil
  | cons c r ih =>
    simp only [positionsFrom]
    split
    · exact .cons (fun q hq => le_of_mem_positionsFrom hq) (ih _)
    · exact ih _

theorem length_positionsFrom (pos : Nat) (t : Text) : (positionsFrom pos t).length = t.count '\n' := by
  induction t generalizing pos with
  | nil => rfl
  | cons c r ih =>
    simp only [positionsFrom, List.count_cons]
    split <;> simp [ih]

theorem countP_positionsFrom (pos n : Nat) (t : Text) :
    (positionsFrom pos t).countP (· < pos + n) = (t.take n).count '\n' := by
  induction t generalizing pos n with
  | nil => simp [positionsFrom]
  | cons c r ih =>
    cases n with
    | zero =>
      rw [List.take_zero, List.count_nil, List.countP_eq_zero]
      intro q hq
      have := le_of_mem_positionsFrom hq
      simpa using this
    | succ n =>
      have hstep := ih (pos + 1) n
      rw [show pos + 1 + n = pos + (n + 1) by omega] at hstep
      simp only [positionsFrom, List.take_succ_cons, List.count_cons]
      split
      · rw [List.countP_cons, hstep]
        simp
      · exact hstep

theorem before_ofText (t : Text) (pos : Int) : (ofText t).before pos = (t.take pos.toNat).count '\n' := by
  have hcount := countP_positionsFrom 0 pos.toNat t
  rw [Nat.zero_add] at hcount
  rw [before, bisect, ← hcount]
  refine bisectFrom_eq (Nat.zero_le _) ?_ fun i _ hi => ?_
  · simpa [ofText] using List.countP_le_length
  · have hi : i < (positionsFrom 0 t).length := by simpa [ofText] using hi
    rw [← getD_lt_iff (positionsFrom_pairwise 0 t) hi]
    simp only [ofText, decide_eq_true_eq, Array.getD_eq_getD_getElem?, List.getElem?_toArray,
      ← List.getD_eq_getElem?_getD]
    omega

/-- The line of a position is one more than the number of line feeds before it. -/
theorem lineOf_ofText (t : Text) (pos : Int) : (ofText t).lineOf pos = 1 + (t.take pos.toNat).count '\n' := by
  rw [lineOf, before_ofText, Nat.add_comm]

theorem positionsFrom_append (pos : Nat) (a b : Text) :
    positionsFrom pos (a ++ b) = positionsFrom pos a ++ positionsFrom (pos + a.length) b := by
  induction a generalizing pos with
  | nil => rfl
  | cons c a ih =>
    have hpos : pos + (c :: a).length = pos + 1 + a.length := by rw [List.length_cons]; omega
    rw [List.cons_append, positionsFrom, positionsFrom, ih, hpos]
    split <;> rfl

/-- The column of a position is its distance from the last line start before it, counted from one. -/
theorem columnOf_ofText {a u v : Text} (ha : a = [] ∨ a.getLast? = some '\n') (hu : '\n' ∉ u) :
    (ofText (a ++ (u ++ v))).columnOf (a.length + u.length : Nat) = u.length + 1 := by
  have hbefore : (ofText (a ++ (u ++ v))).before (a.length + u.length : Nat) = a.count '\n' := by
    rw [before_ofText, Int.toNat_natCast, ← List.append_assoc, ← List.length_append, List.take_left, List.count_append,
      List.count_eq_zero.2 hu, Nat.add_zero]
  simp only [columnOf, hbefore]
  rcases List.eq_nil_or_concat' a with rfl | ⟨a, c, rfl⟩
  · simp
  · obtain rfl : c = '\n' := by simpa using ha
    have hlast : (ofText (a ++ ['\n'] ++ (u ++ v))).positions.getD (a.count '\n') 0 = a.length := by
      simp [ofText, positionsFrom_append, ← length_positionsFrom 0 a, positionsFrom]
    rw [List.count_append, List.count_singleton_self, if_neg (Nat.succ_ne_zero _), Nat.add_sub_cancel, hlast,
      List.length_append, List.length_singleton]
    omega

end NewlineIndex
end ProblemLint
