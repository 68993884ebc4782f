import ProblemLint.Pattern.Reader
import ProblemLint.Document

/-! Checks. A check reads what is known about a file, reports issues, and may add to what is known; only
checks that use rules with written patterns can fail. -/

namespace ProblemLint

structure Report where
  issues : List Issue
  document : Document

structure Check where
  id : String
  title : String
  enabled : Bool := true
  run : Document → Except PatternError Report

namespace Check

def reporting (id title : String) (find : Document → List Issue) : Check :=
  { id, title, run := fun d => .ok ⟨find d, d⟩ }

def attempting (id title : String) (find : Document → Except PatternError (List Issue)) : Check :=
  { id, title, run := fun d => (find d).map fun issues => ⟨issues, d⟩ }

def updating (id title : String) (find : Document → List Issue × Document) : Check :=
  { id, title, run := fun d => let (issues, d') := find d; .ok ⟨issues, d'⟩ }

end Check

def numberedLines (t : Text) : List (Nat × Text) := (Text.lineTexts t).mapIdx fun i l => (i + 1, l)

def codeLines (t : Text) : List (Nat × Text) :=
  (numberedLines t).map fun (n, l) => (n, stripComment l)

/-- Issues of one kind, for every match of a pattern in a text whose positions are those of the file. -/
def matchIssues (d : Document) (p : Pattern) (t : Text) (severity : Severity)
    (message : Match → String) : List Issue :=
  (p.findAll t).map fun m => .onLine severity (message m) (d.lineOf m.start)

/-- A call of a function: its name at a word's start, white space and an opening parenthesis. -/
def functionCall (name : String) : Pattern :=
  Pattern.wordEdge ++ Pattern.text name ++ Pattern.blanks ++ Pattern.text "("

/-- Whether what stands before a name makes it a method or a name of a package. -/
def isQualified (before : Text) : Bool :=
  let t := Text.trimEnd before
  Text.endsWith t "->" || Text.endsWith t "::"

/-- The matches of a pattern in a line that do not start in a literal. -/
def codeMatches (p : Pattern) (line : Text) : List Match :=
  let masked := mask line
  (p.findAll line).filter fun m => !masked.getD m.start false

def emptyCall (name : String) : Pattern := functionCall name ++ Pattern.blanks ++ Pattern.text ")"

end ProblemLint
