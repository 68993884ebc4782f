import ProblemLint.Value.Basic

/-! Decimal numbers. They are kept in 53 binary places, so a decimal stands for the nearest binary number, and the
shortest decimal that stands for the same one is shown in its stead. -/

namespace ProblemLint.Decimal

/-- A number in binary: `mantissa * 2 ^ exponent`. -/
structure Binary where
  mantissa : Nat
  exponent : Int
  deriving DecidableEq

structure Ratio where
  num : Nat
  den : Nat

namespace Ratio

def scaled (n base : Nat) (exponent : Int) : Ratio :=
  if exponent < 0 then ⟨n, Nat.pow base (-exponent).toNat⟩ else ⟨n * Nat.pow base exponent.toNat, 1⟩

def per (r : Ratio) (base : Nat) (exponent : Int) : Ratio :=
  if exponent < 0 then ⟨r.num * Nat.pow base (-exponent).toNat, r.den⟩
  else ⟨r.num, r.den * Nat.pow base exponent.toNat⟩

def floor (r : Ratio) : Nat := r.num / r.den

def round (r : Ratio) : Nat :=
  let q := r.floor
  let rest := 2 * (r.num % r.den)
  if rest < r.den || (rest == r.den && q % 2 == 0) then q else q + 1

def magnitude (r : Ratio) : Int :=
  let digits := fun n => ((Nat.toDigits 10 n).length : Int)
  let guess := digits r.num - digits r.den
  if (r.per 10 guess).floor == 0 then guess - 1 else guess

end Ratio

def nearest? (r : Ratio) : Option Binary :=
  let start := max (-1074) ((r.num.log2 : Int) - r.den.log2 - 53)
  let exponent := if (r.per 2 start).floor < Nat.pow 2 53 then start else start + 1
  let mantissa := (r.per 2 exponent).round
  let b : Binary := if mantissa == Nat.pow 2 53 then ⟨Nat.pow 2 52, exponent + 1⟩ else ⟨mantissa, exponent⟩
  if b.exponent > 971 then none else some b

/-- A decimal of at most so many digits that stands for a binary number, as an integer and a power of ten. -/
def ofDigits? (b : Binary) (digits : Nat) : Option (Nat × Int) :=
  let r := Ratio.scaled b.mantissa 2 b.exponent
  let power := r.magnitude - digits + 1
  let grid := r.per 10 power
  let best := grid.round
  let other := if best == grid.floor then best + 1 else best - 1
  ([best, other].find? fun n => nearest? (Ratio.scaled n 10 power) == some b).map fun n => (n, power)

def shortest (b : Binary) : Nat × Int :=
  if b.mantissa == 0 then (0, 0)
  else ((List.range 17).findSome? fun n => ofDigits? b (n + 1)).getD (0, 0)

/-- The decimal that is shown in the stead of `n / 10 ^ places`, in the same form; none when it is too large. -/
def shown? (n : Nat) (places : Int) : Option (Nat × Int) :=
  let size := ((Nat.toDigits 10 n).length : Int) - places
  if n == 0 || size < -330 then some (0, 0)
  else if size > 310 then none
  else (nearest? (Ratio.scaled n 10 (-places))).map fun b =>
    let (m, power) := shortest b
    (m, -power)

end ProblemLint.Decimal

namespace ProblemLint

/-- The value of `n / 10 ^ places` or, with `negative`, of its opposite; beyond all numbers it is infinite. -/
def Value.ofDecimal (negative : Bool) (n : Nat) (places : Int) : Value :=
  match Decimal.shown? n places with
  | some (m, places) => .decimal (if negative then -(m : Int) else m) places
  | none => .unbounded (if negative then .minusInfinite else .infinite)

end ProblemLint
