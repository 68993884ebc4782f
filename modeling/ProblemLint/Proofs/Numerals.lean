import ProblemLint.Text.Blank
import ProblemLint.Text.Digit
import Mathlib.Tactic

/-! Numerals. A number is written in digits and spelled by them again. -/

namespace ProblemLint.Text

theorem digit?_of_isDigit {c : Char} (h : c.isDigit = true) : digit? c = some (c.toNat - '0'.toNat) := by
  rw [Char.isDigit, Bool.and_eq_true, decide_eq_true_eq, decide_eq_true_eq] at h
  have hhigh : c.toNat ≤ 57 := h.2
  have hdecimal : ('0' ≤ c && c ≤ '9') = true := by
    rw [Bool.and_eq_true, decide_eq_true_eq, decide_eq_true_eq]
    exact h
  rw [digit?, if_pos (show c.toNat < 128 by omega), if_pos hdecimal]
  rfl

theorem not_isBlank_of_isDigit {c : Char} (h : c.isDigit = true) : isBlank c = false := by
  rw [Char.isDigit, Bool.and_eq_true, decide_eq_true_eq, decide_eq_true_eq] at h
  have hlow : 48 ≤ c.toNat := h.1
  have hhigh : c.toNat ≤ 57 := h.2
  rw [isBlank, if_pos (show c.toNat < 128 by omega), Bool.or_eq_false_iff, Bool.and_eq_false_iff, Bool.and_eq_false_iff]
  simp only [decide_eq_false_iff_not]
  omega

/-- A number as it is written. -/
def numeral (n : Nat) : Text := (toString n).toList

theorem numeral_eq (n : Nat) : numeral n = Nat.toDigits 10 n := by
  rw [numeral, Nat.toString_eq_repr, Nat.toList_repr]

theorem numeral_ne_nil (n : Nat) : numeral n ≠ [] := by
  rw [numeral_eq]
  exact Nat.toDigits_ne_nil

theorem isDigit_of_mem_numeral {n : Nat} {c : Char} (h : c ∈ numeral n) : c.isDigit = true := by
  rw [numeral_eq] at h
  exact Nat.isDigit_of_mem_toDigits (by omega) (by omega) h

theorem numeral_digits (n : Nat) : ∀ c ∈ numeral n, isDigit c = true := by
  intro c hc
  rw [isDigit, digit?_of_isDigit (isDigit_of_mem_numeral hc)]
  rfl

theorem numeral_head? (n : Nat) (t : Text) : (numeral n ++ t).head?.any isBlank = false := by
  obtain ⟨c, r, hr⟩ := List.exists_cons_of_ne_nil (numeral_ne_nil n)
  rw [hr, List.cons_append, List.head?_cons, Option.any_some]
  exact not_isBlank_of_isDigit (isDigit_of_mem_numeral (hr ▸ List.mem_cons_self))

theorem numeral_getLast? (n : Nat) (t : Text) : (t ++ numeral n).getLast?.any isBlank = false := by
  rw [List.getLast?_append_of_ne_nil _ (numeral_ne_nil n), List.getLast?_eq_some_getLast (numeral_ne_nil n),
    Option.any_some]
  exact not_isBlank_of_isDigit (isDigit_of_mem_numeral (List.getLast_mem _))

/-- A number is spelled by its numeral. -/
theorem number_numeral (n : Nat) : number (numeral n) = n := by
  have hdigits := Nat.ofDigitChars_ten_toDigits (n := n)
  rw [Nat.ofDigitChars_eq_foldl, ← numeral_eq] at hdigits
  rw [number]
  refine Eq.trans (List.foldl_ext _ _ _ fun m c hc => ?_) hdigits
  rw [digit?_of_isDigit (isDigit_of_mem_numeral hc), Option.getD_some, Nat.mul_comm]

end ProblemLint.Text
