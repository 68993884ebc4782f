import ProblemLint.Check
import ProblemLint.Source.Modes

/-! Checks of `MODES` calls: where they stand and what they give out. -/

namespace ProblemLint.Check

namespace InlineModes

def emptyTex : Pattern :=
  Pattern.wordEdge ++ Pattern.text "TeX" ++ Pattern.blanks ++ Pattern.text "=>" ++ Pattern.blanks
    ++ Pattern.group 1 (Pattern.oneOf "'\"") ++ Pattern.blanks ++ Pattern.repeats 1

/-- A literal for the web mode; the second group is its content. -/
def html : Pattern :=
  Pattern.wordEdge ++ Pattern.text "HTML" ++ Pattern.blanks ++ Pattern.text "=>" ++ Pattern.blanks
    ++ Pattern.group 1 (Pattern.oneOf "'\"")
    ++ Pattern.group 2 (.run (fun _ => true) 0 none false) ++ Pattern.repeats 1

def layoutTags : List String :=
  ["<div", "</div", "<span", "</span", "<br", "<sup", "</sup", "<sub", "</sub"]

def hasLayout (arguments : Text) : Bool :=
  match html.search? arguments with
  | none => false
  | some m =>
    let value := Text.lower (m.group 2)
    layoutTags.any (Text.includes value)

def layoutOnly (arguments : Text) : Bool := emptyTex.occursIn arguments && hasLayout arguments

def layoutWantsEmptyTex (arguments : Text) : Bool :=
  hasLayout arguments && !emptyTex.occursIn arguments

def evaluatedMessage : String :=
  "MODES() used inside [@ @] block; MODES returns 1 in eval context and will not emit HTML"

def layoutMessage : String := "MODES() inside [@ @] uses raw HTML layout; use TeX => '' for PG 2.17"

/-- What is wrong with the calls in a piece of inline code. Versions that render raw layout accept calls that give
nothing else. -/
def problem? (rawLayout : Bool) (code : Text) : Option String :=
  if !Modes.anyCall code then none
  else if !rawLayout then some evaluatedMessage
  else
    let payloads := (Modes.calls code).map fun (_, arguments) => arguments
    let payloads := if payloads.isEmpty then [code] else payloads
    (payloads.find? fun p => !layoutOnly p).map fun p =>
      if layoutWantsEmptyTex p then layoutMessage else evaluatedMessage

def issues (d : Document) : List Issue :=
  let rawLayout := Version.allowsRawLayout d.version
  d.regionTexts.flatMap fun (i, start, t) =>
    let (found, inline) := d.inlineSpansOf i t start
    found ++ inline.filterMap fun s =>
      (problem? rawLayout (s.interiorSlice t)).map fun message =>
        .onLine .warning message (d.lineOf (start + s.start))

end InlineModes

def modesInInline : Check :=
  .reporting "pgml_modes_in_inline" "MODES inside inline eval blocks" InlineModes.issues

/-- Issues about outputs in the calls of a program; the recogniser gives their positions in the arguments. -/
def modesIssues (code : Text) (find : Text → List Nat) (message : String) : List Issue :=
  let newlines := NewlineIndex.ofText code
  (Modes.calls code).flatMap fun (start, arguments) =>
    (find arguments).map fun pos => .onLine .warning message (newlines.lineOf (start + pos : Nat))

def modesTexPayload : Check :=
  .reporting "pgml_modes_tex_payload" "MODES TeX payloads should be empty" fun d =>
    modesIssues d.code
      (fun arguments => ((Modes.texOutputs arguments).filter fun (_, empty) => !empty).map (·.1))
      "MODES() TeX payload is non-empty; use TeX => '' for PGML output"

def htmlTag : Pattern :=
  Pattern.text "<" ++ Pattern.blanks ++ Pattern.optional (Pattern.text "/") ++ Pattern.blanks
    ++ .one Text.isAsciiLetter ++ Pattern.many (· != '>') ++ Pattern.text ">"

def hasHtmlTags (t : Text) : Bool := htmlTag.occursIn t

def modesHtmlPlainText : Check :=
  .reporting "pgml_modes_html_plain_text" "MODES HTML payloads without tags" fun d =>
    modesIssues d.code
      (fun arguments => ((Modes.htmlOutputs arguments).filter fun (_, t) => !hasHtmlTags t).map (·.1))
      "MODES() HTML payload has no HTML tags; replace with plain string instead of MODES()"

namespace EscapedModes

def assignment : Pattern :=
  Pattern.text "$" ++ Pattern.group 1 Pattern.name ++ Pattern.blanks ++ Pattern.text "=" ++ Pattern.blanks
    ++ Pattern.text "MODES" ++ Pattern.blanks ++ Pattern.text "(" ++ Pattern.many (· != ')')
    ++ Pattern.text "HTML" ++ Pattern.blanks ++ Pattern.text "=>"

def interpolation : Pattern :=
  Pattern.text "[$" ++ Pattern.group 1 Pattern.name ++ Pattern.text "]"

def message (name : Text) : String :=
  let n := String.ofList name
  "Variable $" ++ n ++ " contains HTML from MODES() but is used in [$var] interpolation which escapes HTML; "
    ++ "use [@ $" ++ n ++ " @]* instead to render HTML"

def issues (d : Document) : List Issue :=
  let names := (assignment.findAll d.code).map (·.group 1)
  if names.isEmpty then []
  else d.blockTexts.flatMap fun (i, start, t) =>
    let inline := Span.wrapped t.length ((SpanTable.at? d.inlineSpans i).getD [])
    ((interpolation.findAll t).filter fun m =>
      !Span.anyHolds inline m.start && names.contains (m.group 1)).map fun m =>
        .onLine .warning (message (m.group 1)) (d.lineOf (start + m.start))

end EscapedModes

def modesHtmlEscape : Check :=
  .reporting "pgml_modes_html_escape" "MODES HTML escaped in PGML" EscapedModes.issues

end ProblemLint.Check
