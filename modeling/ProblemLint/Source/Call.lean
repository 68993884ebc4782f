import ProblemLint.Source.Quote
import ProblemLint.Source.Scan
import ProblemLint.Text.Letter
import ProblemLint.Text.Position
import ProblemLint.Text.Basic

/-! Calls in program text: a name that stands alone, white space, and parentheses with their balanced
content. -/

namespace ProblemLint

/-- A call: its name, the text between its parentheses, the positions of the opening parenthesis and after the
closing one, and the line of the name. -/
structure Call where
  name : String
  arguments : Text
  start : Nat
  stop : Nat
  line : Nat

namespace Call

structure Shape where
  name : String
  arguments : Text
  lead : Nat
  size : Nat

def nameAt? (names : List String) (before : Option Char) (t : Text) : Option String :=
  if before.any Text.isNameChar then none
  else names.find? fun n =>
    match Text.after? n.toList t with
    | some r => !r.head?.any Text.isNameChar
    | none => false

/-- A call of one of the names, or a name alone, which is passed over. -/
def at? (names : List String) (before : Option Char) (t : Text) : Option (Option Shape × Nat) :=
  (nameAt? names before t).map fun n =>
    let r := t.drop n.length
    let blanks := r.takeWhile Text.isBlank
    match delimited? '(' ')' (r.drop blanks.length) with
    | some (arguments, _) =>
      let lead := n.length + blanks.length
      (some ⟨n, arguments, lead, lead + arguments.length + 2⟩, lead + arguments.length + 2)
    | none => (none, n.length)

def all (names : List String) (newlines : NewlineIndex) (t : Text) : List Call :=
  (occurrences (at? (sortedNames names)) t).filterMap fun (pos, shape?) =>
    shape?.map fun s => ⟨s.name, s.arguments, pos + s.lead, pos + s.size, newlines.lineOf pos⟩

end Call

def fileNameAt? (_before : Option Char) : Text → Option (Text × Nat)
  | [] => none
  | q :: r =>
    if q == '\'' || q == '"' then
      let name := r.takeWhile fun c => c != '\'' && c != '"'
      if name.length ≥ 4 && (Text.endsWith name ".pl" || Text.endsWith name ".pg")
          && name.length < r.length then some (name, name.length + 2)
      else none
    else none

end ProblemLint
