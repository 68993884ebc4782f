import ProblemLint.Text.CodeSet
import ProblemLint.Text.Blank

/-! Line and column of a position. Only line feeds count. -/

namespace ProblemLint

/-- The increasing positions of the line feeds of a text. -/
structure NewlineIndex where
  positions : Array Nat
  deriving Inhabited

namespace NewlineIndex

def positionsFrom (pos : Nat) : Text → List Nat
  | [] => []
  | c :: r => if c == '\n' then pos :: positionsFrom (pos + 1) r else positionsFrom (pos + 1) r

def ofText (t : Text) : NewlineIndex := ⟨(positionsFrom 0 t).toArray⟩

def before (nl : NewlineIndex) (pos : Int) : Nat := bisect nl.positions fun p => (p : Int) < pos

def lineOf (nl : NewlineIndex) (pos : Int) : Nat := nl.before pos + 1

def columnOf (nl : NewlineIndex) (pos : Int) : Int :=
  let k := nl.before pos
  let lineStart := if k = 0 then 0 else nl.positions.getD (k - 1) 0 + 1
  pos - lineStart + 1

end NewlineIndex
end ProblemLint
