import ProblemLint.Check
import ProblemLint.Source.Literal

/-! Inline code in markup: its markers, its braces, and markup that was written inside of it. -/

namespace ProblemLint.Check

def inlineMarkers : Check :=
  .updating "pgml_inline" "PGML inline markers" fun d =>
    let found := d.regionTexts.map fun (_, start, t) => inlineSpans t start d.newlines
    (found.flatMap (·.1), { d with inlineSpans := some (.ofSpans (found.map (·.2))) })

/-- Issues about every piece of inline code in blocks, which is given by its first position and its text; issues
about markers that are not yet known come first. -/
def inlineCodeIssues (d : Document) (find : Int → Text → List Issue) : List Issue :=
  d.blockTexts.flatMap fun (i, start, t) =>
    let (issues, spans) := d.inlineSpansOf i t start
    issues ++ (spans.filter fun s => s.start + 2 < (t.length : Int)).flatMap fun s =>
      find (start + s.start + 2) (s.interior t)

namespace Brace

inductive Fault where
  | opened (pos : Nat)
  | closed (pos : Nat)
  deriving DecidableEq, Repr

/-- Where a reader of inline code stands. A backslash counts in quotes only. -/
inductive State where
  | code
  | comment
  | quoted (quote : Char) (escaped : Bool)
  deriving DecidableEq, Repr

/-- The first closing brace without a partner, or else the innermost open one; `opened` holds the open ones,
innermost first. A comment that runs to the end of the code hides open braces. -/
def faultFrom? (s : State) (opened : List Nat) (pos : Nat) : Text → Option Fault
  | [] => if s == .comment then none else opened.head?.map .opened
  | c :: r =>
    match s with
    | .comment => faultFrom? (if c == '\n' then .code else .comment) opened (pos + 1) r
    | .quoted q escaped =>
      let s :=
        if escaped then .quoted q false
        else if c == '\\' then .quoted q true
        else if c == q then .code
        else .quoted q false
      faultFrom? s opened (pos + 1) r
    | .code =>
      match c with
      | '#' => faultFrom? .comment opened (pos + 1) r
      | '\'' => faultFrom? (.quoted '\'' false) opened (pos + 1) r
      | '"' => faultFrom? (.quoted '"' false) opened (pos + 1) r
      | '{' => faultFrom? .code (pos :: opened) (pos + 1) r
      | '}' =>
        match opened with
        | [] => some (.closed pos)
        | _ :: outer => faultFrom? .code outer (pos + 1) r
      | _ => faultFrom? .code opened (pos + 1) r

def issues (code : Text) (offset : Int) (newlines : NewlineIndex) : List Issue :=
  match faultFrom? .code [] 0 code with
  | some (.closed p) =>
    [.onLine .error "PGML inline code has unbalanced '\x7d' brace" (newlines.lineOf (offset + p))]
  | some (.opened p) =>
    [.onLine .error "PGML inline code has unclosed '\x7b' brace" (newlines.lineOf (offset + p))]
  | none => []

end Brace

def inlineBraces : Check :=
  .reporting "pgml_inline_braces" "PGML inline brace balance" fun d =>
    inlineCodeIssues d fun offset code => Brace.issues code offset d.newlines

namespace Nested

def snippets : List (String × String) :=
  [ ("[<", "PGML tag wrapper token '[<' found inside [@ @] block")
  , (">]\x7b", "PGML tag wrapper token '>]\x7b' found inside [@ @] block")
  , ("\x7d\x7b", "PGML tag wrapper token '\x7d\x7b' found inside [@ @] block")
  , ("BEGIN_PGML", "Nested BEGIN_PGML found inside [@ @] block")
  , ("END_PGML", "Nested END_PGML found inside [@ @] block") ]

def interpolation : Pattern :=
  Pattern.text "[" ++ Pattern.blanks ++ Pattern.text "$" ++ Pattern.group 1 Pattern.name
    ++ Pattern.blanks ++ Pattern.text "]"

def interpolated (code : Text) : List (Nat × Text) :=
  let found := (occurrences literalAt? code).flatMap fun (pos, l) =>
    (interpolation.findAll l).map fun m => (pos + m.start, m.group 1)
  found.eraseDupsBy fun a b => a.2 == b.2

def issues (d : Document) (offset : Int) (code : Text) : List Issue :=
  let note := fun (message : String) (pos : Nat) =>
    Issue.atColumn .error message (d.newlines.lineOf (offset + pos)) (d.newlines.columnOf (offset + pos))
  snippets.filterMap (fun (snippet, message) => (Text.find? snippet.toList code).map (note message))
    ++ (interpolated code).map fun (pos, name) =>
      note ("PGML interpolation [$" ++ String.ofList name ++ "] found inside [@ @] block; "
        ++ "PGML parses once and will not re-parse strings") pos

end Nested

def inlineSyntax : Check :=
  .reporting "pgml_inline_pgml_syntax" "PGML syntax inside inline code" fun d =>
    inlineCodeIssues d (Nested.issues d)

end ProblemLint.Check
