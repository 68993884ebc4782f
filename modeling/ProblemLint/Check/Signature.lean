import ProblemLint.Check

/-! Calls of known functions with a wrong name or a wrong number of arguments. -/

namespace ProblemLint.Check.Signature

def misspelled : List (String × String) :=
  [("Popup", "PopUp"), ("Dropdown", "DropDown"), ("Radiobuttons", "RadioButtons"),
    ("Checkboxes", "CheckboxList")]

structure Arity where
  name : String
  least : Nat
  most : Option Nat
  severity : Severity

def known : List Arity :=
  [ ⟨"random", 3, some 3, .error⟩, ⟨"NchooseK", 2, some 2, .error⟩
  , ⟨"includePGproblem", 1, none, .error⟩
  , ⟨"Compute", 1, none, .warning⟩, ⟨"Formula", 1, none, .warning⟩, ⟨"Real", 1, none, .warning⟩
  , ⟨"Vector", 1, none, .warning⟩, ⟨"Matrix", 1, none, .warning⟩
  , ⟨"DropDown", 2, none, .warning⟩, ⟨"PopUp", 2, none, .warning⟩
  , ⟨"RadioButtons", 1, none, .warning⟩, ⟨"CheckboxList", 1, none, .warning⟩
  , ⟨"NumberWithUnits", 1, none, .warning⟩, ⟨"MultiAnswer", 1, none, .warning⟩
  , ⟨"OneOf", 1, none, .warning⟩, ⟨"FormulaUpToConstant", 1, none, .warning⟩ ]

structure Depth where
  paren : Int := 0
  bracket : Nat := 0
  brace : Nat := 0
  deriving DecidableEq, Repr

/-- The depth after a character of code; brackets and braces never go below zero. -/
def Depth.step (d : Depth) : Char → Depth
  | '(' => { d with paren := d.paren + 1 }
  | ')' => { d with paren := d.paren - 1 }
  | '[' => { d with bracket := d.bracket + 1 }
  | ']' => { d with bracket := d.bracket - 1 }
  | '{' => { d with brace := d.brace + 1 }
  | '}' => { d with brace := d.brace - 1 }
  | _ => d

/-- The arguments that stand before the closing parenthesis of a call, and its position. A call without text
has no argument; `current` holds the characters of the argument that is being read, latest first. -/
def argumentsFrom? (f : QuoteFlags) (d : Depth) (done : List Text) (current : Text) (pos : Nat) :
    Text → Option (List Text × Nat)
  | [] => none
  | c :: r =>
    match f.byPlace? c with
    | some f => argumentsFrom? f d done (c :: current) (pos + 1) r
    | none =>
      if d == {} && c == ')' then
        let last := Text.trim current.reverse
        some (if done.isEmpty && last.isEmpty then [] else done ++ [last], pos)
      else if d == {} && c == ',' then
        argumentsFrom? f d (done ++ [Text.trim current.reverse]) [] (pos + 1) r
      else argumentsFrom? f (d.step c) done (c :: current) (pos + 1) r

def arguments? (line : Text) (openParen : Int) : Option (List Text × Int) := do
  let (args, n) ← argumentsFrom? {} {} [] [] 0 (← Text.readFrom? line (openParen + 1))
  some (args, openParen + 1 + n)

/-- Whether a call hands on the arguments of the function that it stands in. -/
def passesOn (args : List Text) : Bool :=
  match args with
  | [a] => Text.trim a == "@_".toList
  | _ => false

def arityProblem? (a : Arity) (args : List Text) : Option String :=
  let n := args.length
  if n == 0 && a.least > 0 then
    some (a.name ++ "() called with no arguments; expected at least " ++ toString a.least)
  else if n < a.least then
    some (a.name ++ "() called with " ++ toString n ++ " args; expected at least " ++ toString a.least)
  else
    match a.most.filter (n > ·) with
    | some most => some (a.name ++ "() called with " ++ toString n ++ " args; expected " ++ toString most)
    | none => if args.any Text.isAllBlank then some (a.name ++ "() has an empty argument") else none

def call : Pattern :=
  Pattern.wordEdge ++ Pattern.group 1 Pattern.name ++ Pattern.blanks ++ Pattern.text "("

def definition : Pattern :=
  Pattern.wordEdge ++ Pattern.text "sub" ++ Pattern.atLeastOne Text.isBlank ++ Pattern.finish

def issue? (n : Nat) (line : Text) (m : Match) : Option Issue :=
  let name := String.ofList (m.group 1)
  let before := line.take m.start
  if isQualified before || definition.occursIn before then none
  else
    match misspelled.lookup name with
    | some right =>
      some (.onLine .error ("Function name '" ++ name ++ "' looks wrong; use '" ++ right ++ "'") n)
    | none => do
      let a ← known.find? (·.name == name)
      let (args, _) ← arguments? line (m.stop - 1 : Nat)
      if passesOn args then none
      let message ← arityProblem? a args
      some (.onLine a.severity message n)

def issues (code : Text) : List Issue :=
  (numberedLines code).flatMap fun (n, l) => (codeMatches call l).filterMap (issue? n l)

end Signature

def functionSignatures : Check :=
  .reporting "pgml_function_signatures" "Function signatures and empty args" (Signature.issues ·.code)

end ProblemLint.Check
