import ProblemLint.Check

/-! The form of `loadMacros` calls: closed, followed by a semicolon, and with a proper list of names. -/

namespace ProblemLint.Check.LoadMacros

def openParen? (line : Text) : Option Nat :=
  (codeMatches (functionCall "loadMacros") line).head?.map (·.stop - 1)

/-- The depth of parentheses after a line, and the position of the parenthesis that brings it to zero. -/
def scanParens (f : QuoteFlags) (depth : Int) (pos : Nat) : Text → Int × Option Nat
  | [] => (depth, none)
  | c :: r =>
    match f.byPlace? c with
    | some f => scanParens f depth (pos + 1) r
    | none =>
      if c == '(' then scanParens f (depth + 1) (pos + 1) r
      else if c == ')' then
        if depth - 1 == 0 then (depth - 1, some pos) else scanParens f (depth - 1) (pos + 1) r
      else scanParens f depth (pos + 1) r

def isSmartQuote (c : Char) : Bool := "‘’“”".toList.contains c

def missingComma : Pattern :=
  let name := Pattern.oneOf "'\"" ++ Pattern.atLeastOne (fun c => c != '\'' && c != '"')
    ++ Pattern.oneOf "'\""
  name ++ Pattern.atLeastOne Text.isBlank ++ name

def listIssues (block : Text) (line : Nat) : List Issue :=
  let note := fun (found : Bool) message => if found then [Issue.onLine .error message line] else []
  note (block.any isSmartQuote) "loadMacros() contains smart quotes"
    ++ note (Text.isAllBlank block) "loadMacros() has an empty macro list"
    ++ note (missingComma.occursIn block) "loadMacros() entries appear to be missing a comma"

/-- An open call: the line of its start, the depth of parentheses, and its lines, latest first. -/
structure OpenCall where
  line : Nat
  depth : Int
  lines : List Text

structure Scan where
  issues : List Issue := []
  opened : Option OpenCall := none
  /-- The line of a call after which a semicolon is still wanted. -/
  wanting : Option Nat := none

def Scan.inside (s : Scan) (call : OpenCall) (n : Nat) (t : Text) : Scan :=
  match scanParens {} call.depth 0 t with
  | (depth, none) => { s with opened := some { call with depth, lines := t :: call.lines } }
  | (_, some close) =>
    let block := Text.join "\n" (t.take close :: call.lines).reverse
    { issues := s.issues ++ listIssues block n
      opened := none
      wanting := if (t.drop (close + 1)).elem ';' then none else some n }

def Scan.code (s : Scan) (n : Nat) (t : Text) : Scan :=
  match s.opened with
  | some call => s.inside call n t
  | none =>
    match openParen? t with
    | some i => s.inside ⟨n, 1, []⟩ n (t.drop (i + 1))
    | none => s

def Scan.line (s : Scan) (entry : Nat × Text) : Scan :=
  let (n, t) := entry
  match s.wanting with
  | none => s.code n t
  | some m =>
    match Text.trim t with
    | [] => s
    | ';' :: _ => { s with wanting := none }
    | _ =>
      { s with
        issues := s.issues ++ [.onLine .error "loadMacros() missing trailing semicolon" m]
        wanting := none : Scan }.code n t

def issues (t : Text) : List Issue :=
  let s := (codeLines t).foldl Scan.line {}
  s.issues ++ (s.opened.map fun c =>
    Issue.onLine .error "loadMacros() missing closing parenthesis" c.line).toList

end LoadMacros

def loadMacros : Check :=
  .reporting "pgml_loadmacros_integrity" "loadMacros integrity checks" (LoadMacros.issues ·.text)

end ProblemLint.Check
