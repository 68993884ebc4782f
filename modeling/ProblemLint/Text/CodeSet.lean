/-! Binary search, and sets of code points given by the points where membership flips. -/

namespace ProblemLint

/-- The first index of `a` in `lo ≤ i < hi` whose entry does not lie `before`, or `hi`; the entries that
lie `before` are expected to come first. -/
def bisectFrom (a : Array Nat) (before : Nat → Bool) (lo hi : Nat) : Nat :=
  if lo < hi then
    let mid := (lo + hi) / 2
    if before (a.getD mid 0) then bisectFrom a before (mid + 1) hi
    else bisectFrom a before lo mid
  else lo
termination_by hi - lo

def bisect (a : Array Nat) (before : Nat → Bool) : Nat := bisectFrom a before 0 a.size

/-- A set of code points, as the increasing list of points at which membership changes: the first is
in, the second out again, and so on. -/
structure CodeSet where
  flips : Array Nat

namespace CodeSet

def rank (s : CodeSet) (n : Nat) : Nat := bisect s.flips (· ≤ n)

def contains (s : CodeSet) (c : Char) : Bool := s.rank c.toNat % 2 == 1

def runStart? (s : CodeSet) (n : Nat) : Option Nat :=
  let i := s.rank n
  if i % 2 == 1 then s.flips[i - 1]? else none

end CodeSet
end ProblemLint
