import ProblemLint.Issue
import ProblemLint.Text.Utf8
import ProblemLint.Text.Case
import ProblemLint.Text.Letter

/-! What the text of a file says about its issues: whether answers are checked in the old style, and whether
a variable is assigned in ways that the checks do not follow. -/

namespace ProblemLint.Triage

/-- A file as triage sees it: its text with faulty bytes passed over, and its text if there are none. A file that is
not there has neither. -/
structure Evidence where
  lenient : Option Text
  strict : Option Text

namespace Evidence

def ofBytes : Option Bytes → Evidence
  | none => ⟨none, none⟩
  | some bs => ⟨some (Utf8.readTextLeniently bs), (Utf8.readText bs).toOption⟩

/-- Whether something holds at some place of a text, seen with the character before it. -/
def somewhere (p : Option Char → Text → Bool) (before : Option Char) : Text → Bool
  | [] => false
  | c :: r => p before (c :: r) || somewhere p (some c) r

def holds (e : Evidence) (p : Option Char → Text → Bool) : Bool :=
  match e.lenient with
  | some t => somewhere p none t
  | none => false

def includes (e : Evidence) (needle : String) : Bool :=
  match e.lenient with
  | some t => Text.includes t needle
  | none => false

def endsWord (before : Option Char) : Bool := (before.map Text.isWord).getD false

def answerCallAt (before : Option Char) (t : Text) : Bool :=
  !endsWord before
    && match Text.after? "ANS".toList t with
      | some r => (Text.trimStart r).head? == some '('
      | none => false

def callsAnswer (e : Evidence) : Bool := e.holds answerCallAt

/-- A list in parentheses, with the variable in it, to which something is assigned. -/
def listAssignmentAt (name : Text) (_before : Option Char) (t : Text) : Bool :=
  match t with
  | '(' :: r =>
    match r.dropWhile (· != ')') with
    | ')' :: rest =>
      (Text.find? ('$' :: name) (r.takeWhile (· != ')'))).isSome && (Text.trimStart rest).head? == some '='
    | _ => false
  | _ => false

def assignsInList (e : Evidence) (name : Text) : Bool := e.holds (listAssignmentAt name)

def elementAssignmentAt (name : Text) (_before : Option Char) (t : Text) : Bool :=
  match Text.after? ('$' :: name ++ ['[']) t with
  | some r =>
    match r.takeWhile (· != ']'), r.dropWhile (· != ']') with
    | _ :: _, ']' :: rest => (Text.trimStart rest).head? == some '='
    | _, _ => false
  | none => false

def assignsElement (e : Evidence) (name : Text) : Bool := e.holds (elementAssignmentAt name)

end Evidence

/-! ### Issues -/

def comesFrom (i : Issue) (check : String) : Bool :=
  match i.get? "plugin" with
  | some (.str s) => s == check
  | _ => false

def namedVariable? : Text → Option Text
  | [] => none
  | c :: r =>
    let name := r.takeWhile Text.isWord
    if c == '$' && !name.isEmpty then some name else namedVariable? r

def isOneOf (name : Text) (names : List String) : Bool := names.any (·.toList == name)

/-- Names that usually belong to arrays which come into being when used. -/
def implicitArrays : List String := ["last", "pair", "sum", "disp", "closedTex"]

def summaryNames : List String := ["min", "max", "median", "Q1", "Q3"]

def tableNames : List String := ["nFact", "kFact", "nkFact", "pascal", "init", "ratio", "sn"]

def saysMissingAnswer (i : Issue) : Bool :=
  comesFrom i "pgml_blanks" && Text.includes i.message "missing answer spec"

def namesTableMacro (i : Issue) : Bool := Text.includes (Text.lower i.message) "nicetables.pl"

end ProblemLint.Triage
