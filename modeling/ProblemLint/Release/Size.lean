import ProblemLint.Text.Basic

/-! Sizes of files in words: one place after the point, in the largest unit that leaves at least one. -/

namespace ProblemLint.Release

/-- A quotient rounded to the nearest whole number, a half to the even one. -/
def roundDiv (n d : Nat) : Nat :=
  let q := n / d
  let r := n % d
  if 2 * r > d || (2 * r == d && q % 2 == 1) then q + 1 else q

def precision : Nat := 53

def rounded (n : Nat) : Nat :=
  let unit := Nat.pow 2 (n.log2 + 1 - precision)
  roundDiv n unit * unit

def units : List String := ["B", "KB", "MB", "GB"]

/-- The unit of a size, by its number: the first in which the size is below 1024, or the last. -/
def unitOf : Nat → Nat → Nat
  | 0, _ => 0
  | k + 1, n => if n < 1024 then 0 else unitOf k (n / 1024) + 1

def tenths (n : Nat) : String := toString (n / 10) ++ "." ++ toString (n % 10)

def formatSize (size : Int) : String :=
  let n := rounded size.natAbs
  let k := if size < 0 then 0 else unitOf (units.length - 1) n
  let shown := tenths (roundDiv (n * 10) (Nat.pow 1024 k))
  (if size < 0 then "-" else "") ++ shown ++ " " ++ units.getD k ""

end ProblemLint.Release
