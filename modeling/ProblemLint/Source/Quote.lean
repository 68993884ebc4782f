import ProblemLint.Text.Basic
import ProblemLint.Text.Blank

/-! Quotes in program text. A backslash takes the next character out of consideration, inside and outside of
quotes; everything else between two equal quotes is text, not code. The readers of program text keep three flags for
this, and ask about them in two different orders. -/

namespace ProblemLint

structure QuoteFlags where
  single : Bool := false
  double : Bool := false
  escaped : Bool := false
  deriving DecidableEq, Repr, Inhabited

namespace QuoteFlags

def outside (f : QuoteFlags) : Bool := !f.single && !f.double

/-- For readers that ask first which mark a character is: the flags behind a character that is escaped, escapes another
one, opens or closes quotes. Any other character is nothing to them, in quotes or outside. -/
def byMark? (f : QuoteFlags) (c : Char) : Option QuoteFlags :=
  if f.escaped then some { f with escaped := false }
  else if c == '\\' then some { f with escaped := true }
  else if !f.double && c == '\'' && !f.single then some { f with single := true }
  else if f.single && c == '\'' then some { f with single := false }
  else if !f.single && c == '"' && !f.double then some { f with double := true }
  else if f.double && c == '"' then some { f with double := false }
  else none

/-- For readers that ask first whether they are in quotes: the flags behind a character of a literal or an escape. Any
other character is code. -/
def byPlace? (f : QuoteFlags) (c : Char) : Option QuoteFlags :=
  if f.escaped then some { f with escaped := false }
  else if c == '\\' then some { f with escaped := true }
  else if f.single then some (if c == '\'' then { f with single := false } else f)
  else if f.double then some (if c == '"' then { f with double := false } else f)
  else if c == '\'' then some { f with single := true }
  else if c == '"' then some { f with double := true }
  else none

end QuoteFlags

def maskFrom (f : QuoteFlags) : Text → List Bool
  | [] => []
  | c :: r =>
    match f.byPlace? c with
    | some f => true :: maskFrom f r
    | none => false :: maskFrom f r

def mask (line : Text) : List Bool := maskFrom {} line

/-- The position of the closer that brings the depth of `opener` and `closer` back to zero, counted from the
first character; delimiters in quotes do not count. -/
def closeFrom (opener closer : Char) (f : QuoteFlags) (depth : Int) : Text → Option Nat
  | [] => none
  | c :: r =>
    match f.byMark? c with
    | some f => (closeFrom opener closer f depth r).map (· + 1)
    | none =>
      if f.outside && c == opener then (closeFrom opener closer f (depth + 1) r).map (· + 1)
      else if f.outside && c == closer then
        if depth - 1 == 0 then some 0 else (closeFrom opener closer f (depth - 1) r).map (· + 1)
      else (closeFrom opener closer f depth r).map (· + 1)

def delimited? (opener closer : Char) : Text → Option (Text × Text)
  | [] => none
  | c :: r =>
    if c == opener then
      (closeFrom opener closer {} 0 (c :: r)).map fun n => (r.take (n - 1), r.drop n)
    else none

def delimitedAt? (opener closer : Char) (t : Text) (start : Int) : Option (Text × Int) := do
  let (inner, _) ← delimited? opener closer (← Text.readFrom? t start)
  let stop := start + 1 + inner.length
  some (Text.slice t (start + 1) stop, stop + 1)

end ProblemLint
