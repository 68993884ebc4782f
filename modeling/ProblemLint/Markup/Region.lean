import ProblemLint.Issue

/-! Regions of markup in a problem file. A region is known by the positions of its first character and of the
first character after it. A description of a document that was made by hand may leave a bound out. -/

namespace ProblemLint

structure Region where
  start : Option Int
  stop : Option Int
  kind : String := ""
  line : Nat := 0
  deriving Inhabited

namespace Region

def ofBounds (start stop : Nat) (kind : String) (line : Nat) : Region :=
  ⟨some start, some stop, kind, line⟩

def bounds? (r : Region) : Option (Int × Int) := do some (← r.start, ← r.stop)

def boundsOrZero (r : Region) : Int × Int := (r.start.getD 0, r.stop.getD 0)

def holds (r : Region) (pos : Int) : Bool :=
  match r.bounds? with
  | some (a, b) => a ≤ pos && pos < b
  | none => false

end Region

/-- A stretch of a region's text, by the positions of its first character and of the first after it. -/
structure Span where
  start : Int
  stop : Int
  deriving DecidableEq, Repr, Inhabited

namespace Span

def holds (s : Span) (pos : Int) : Bool := s.start ≤ pos && pos < s.stop

def anyHolds (spans : List Span) (pos : Int) : Bool := spans.any (·.holds pos)

/-- Spans as they are marked in a text of a size: negative positions count from its end. -/
def wrapped (size : Nat) (spans : List Span) : List Span :=
  spans.flatMap fun s => if s.start < 0 then [⟨s.start + size, min s.stop 0 + size⟩, s] else [s]

def blankOut (spans : List Span) (t : Text) : Text :=
  let marked := wrapped t.length spans
  t.mapIdx fun i c => if anyHolds marked i then ' ' else c

def interior (t : Text) (s : Span) : Text := Text.slice t (s.start + 2) (max (s.start + 2) (s.stop - 2))

/-- The interior without regard to the order of its bounds, so that a span that ends before its second character counts
from the end of the text. -/
def interiorSlice (t : Text) (s : Span) : Text := Text.slice t (s.start + 2) (s.stop - 2)

end Span
end ProblemLint
