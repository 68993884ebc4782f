import ProblemLint.Check

/-! Variables that hold web markup, and how markup shows them. -/

namespace ProblemLint.Check

namespace HtmlVariable

def isNameStart (c : Char) : Bool := Text.isNameStart c || Text.isLetterVariant c

def isNameChar (c : Char) : Bool := Text.isNameChar c || Text.isLetterVariant c

/-- An assignment of a text with one of several tags to a variable, the first group; names and tags are read in any
mix of capitals and small letters. -/
def assignment (tags : List String) : Pattern :=
  Pattern.text "$" ++ Pattern.group 1 (.one isNameStart ++ Pattern.many isNameChar) ++ Pattern.blanks
    ++ Pattern.words [".=", "="] ++ Pattern.blanks ++ Pattern.many (· != ';') ++ Pattern.text "<"
    ++ Pattern.blanks ++ Pattern.wordsAnyCase tags ++ Pattern.wordEdge

def assigned (tags : List String) (t : Text) : List (Text × Nat) :=
  let p := assignment tags
  let found := (codeLines t).filterMap fun (n, l) => (p.search? l).map fun m => (m.group 1, n)
  found.eraseDupsBy fun a b => a.1 == b.1

def shown (name : Text) : Pattern :=
  Pattern.text "[" ++ Pattern.blanks ++ Pattern.text "$" ++ Pattern.literal name ++ Pattern.blanks
    ++ Pattern.text "]"

end HtmlVariable

namespace SpanVariable

def assigned (t : Text) : List (Text × Nat) := HtmlVariable.assigned ["span"] t

def message (name : Text) : String :=
  let n := String.ofList name
  "Variable $" ++ n ++ " contains <span> HTML but is not interpolated with [$" ++ n
    ++ "] in PGML; HTML may be escaped"

def shownIn (t : Text) (inline : List Span) (name : Text) : Bool :=
  ((HtmlVariable.shown name).findAll t).any fun m => !Span.anyHolds (Span.wrapped t.length inline) m.start

def issues (d : Document) : List Issue :=
  let names := assigned d.text
  if names.isEmpty then []
  else
    let blocks := d.blockTexts.map fun (i, start, t) => (t, d.inlineSpansOf i t start)
    blocks.flatMap (fun (_, found, _) => found)
      ++ (names.filter fun (name, _) => !blocks.any fun (t, _, inline) => shownIn t inline name).map
        fun (name, line) => .onLine .warning (message name) line

end SpanVariable

def spanInterpolation : Check :=
  .reporting "pgml_span_interpolation" "PGML span interpolation" SpanVariable.issues

namespace Passthrough

def assigned (t : Text) : List (Text × Nat) :=
  HtmlVariable.assigned
    ["span", "div", "sup", "sub", "br", "p", "a", "img", "style", "table", "tr", "td", "th"] t

/-- How a block uses a variable: with a star after its brackets, without one, or in inline code. -/
structure Use where
  starred : Bool
  plain : Bool
  inline : Bool

def use (t : Text) (inline : List Span) (name : Text) : Use :=
  let starred := ((HtmlVariable.shown name
      ++ Pattern.optional (Pattern.group 1 (Pattern.text "*"))).findAll t).filter
    (fun m => !Span.anyHolds (Span.wrapped t.length inline) m.start) |>.map fun m => (m.capture? 1).isSome
  let inCode := Pattern.text "$" ++ Pattern.literal name ++ Pattern.wordEdge
  { starred := starred.any (·)
    plain := starred.any (!·)
    inline := inline.any fun s => inCode.occursIn (s.interiorSlice t) }

def message (name : Text) : String :=
  let n := String.ofList name
  "Variable $" ++ n ++ " contains HTML but is output without raw passthrough; use [$" ++ n
    ++ "]* to avoid escaping"

def issues (d : Document) : List Issue :=
  let names := assigned d.text
  if names.isEmpty then []
  else
    let blocks := d.blockTexts.map fun (i, start, t) => (t, d.inlineSpansOf i t start)
    blocks.flatMap (fun (_, found, _) => found)
      ++ (names.filter fun (name, _) =>
        let uses := blocks.map fun (t, _, inline) => use t inline name
        !uses.any (fun u => u.starred || u.inline) && uses.any (·.plain)).map
          fun (name, line) => .onLine .warning (message name) line

end Passthrough

def htmlPassthrough : Check :=
  .reporting "pgml_html_var_passthrough" "HTML variables without PGML passthrough" Passthrough.issues

end ProblemLint.Check
