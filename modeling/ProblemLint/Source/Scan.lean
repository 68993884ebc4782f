import ProblemLint.Text.Blank

/-! Looking for all occurrences of something in a text, from left to right and without overlap. -/

namespace ProblemLint

/-- Applies a recogniser at every position that no earlier occurrence covers; `skip` characters are still
covered. The recogniser sees the character before and the text from the position on; it gives a value and
the number of characters that it took, at least one. -/
def occurrencesFrom {α : Type} (find : Option Char → Text → Option (α × Nat)) (skip : Nat) (before : Option Char)
    (pos : Nat) : Text → List (Nat × α)
  | [] => []
  | c :: r =>
    match skip with
    | n + 1 => occurrencesFrom find n (some c) (pos + 1) r
    | 0 =>
      match find before (c :: r) with
      | some (a, n) => (pos, a) :: occurrencesFrom find (n - 1) (some c) (pos + 1) r
      | none => occurrencesFrom find 0 (some c) (pos + 1) r

def occurrences {α : Type} (find : Option Char → Text → Option (α × Nat)) (t : Text) : List (Nat × α) :=
  occurrencesFrom find 0 none 0 t

end ProblemLint
