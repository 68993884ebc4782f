import ProblemLint.Text.Blank

/-! String literals as a line of code shows them. Two backslashes and the character after them belong to the
literal; a single backslash does not occur in one. -/

namespace ProblemLint

/-- The number of characters up to and including the closing quote. -/
def literalClose? (q : Char) : Text → Option Nat
  | [] => none
  | '\\' :: '\\' :: c :: r => if c == '\n' then none else (literalClose? q r).map (· + 3)
  | c :: r =>
    if c == q then some 1 else if c == '\\' then none else (literalClose? q r).map (· + 1)

def literalAt? (_before : Option Char) : Text → Option (Text × Nat)
  | [] => none
  | q :: r =>
    if q == '\'' || q == '"' then (literalClose? q r).map fun n => (q :: r.take n, n + 1) else none

end ProblemLint
