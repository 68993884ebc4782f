import ProblemLint.Check

/-! Web markup in problems: tags, entities and classes that renderers strip, mangle or escape. -/

namespace ProblemLint.Check

def ignoreClass : Pattern :=
  let other := Pattern.many fun c => c != '"' && c != '\''
  Pattern.text "class" ++ Pattern.blanks ++ Pattern.text "=" ++ Pattern.blanks ++ Pattern.oneOf "\"'" ++ other
    ++ Pattern.wordEdge ++ Pattern.text "tex2jax_ignore" ++ Pattern.wordEdge ++ other ++ Pattern.oneOf "\"'"

/-- An opening bracket, a slash or none, and the name that matches the pattern as a whole word; white space may
stand between them. -/
def tagStart (bracket : Pattern) (name : Pattern) : Pattern :=
  bracket ++ Pattern.blanks ++ Pattern.optional (Pattern.text "/") ++ Pattern.blanks
    ++ Pattern.group 1 name ++ Pattern.wordEdge

namespace HtmlInText

def problematic : List (String × String) :=
  [ ("strong", "use *bold* for bold text")
  , ("b", "use *bold* for bold text")
  , ("i", "use _italic_ for italic text")
  , ("em", "use _italic_ for italic text")
  , ("u", "use PGML markup or CSS classes")
  , ("sub", "use LaTeX subscripts like [` x_2 `] for math")
  , ("sup", "use LaTeX superscripts like [` x^2 `] for math")
  , ("br", "use blank lines in PGML for line breaks")
  , ("p", "use blank lines in PGML for paragraphs")
  , ("h1", "use PGML headings")
  , ("h2", "use PGML headings")
  , ("h3", "use PGML headings")
  , ("h4", "use PGML headings")
  , ("ul", "use PGML list syntax")
  , ("ol", "use PGML list syntax")
  , ("li", "use PGML list syntax")
  , ("font", "use CSS or PGML markup")
  , ("center", "use PGML alignment syntax")
  , ("a", "use PGML link syntax")
  , ("span", "use PGML tag wrappers or MODES(HTML => ...) with [$var]")
  , ("style", "move styles to HEADER_TEXT or CSS files") ]

def tagName : Pattern := .one Text.isAsciiLetter ++ Pattern.many Text.isWord

/-- An opening tag, whose name is the first group, or a closing one, whose name is the second. -/
def tag : Pattern :=
  .alt
    (Pattern.text "<" ++ Pattern.group 1 tagName
      ++ Pattern.optional (.one Text.isBlank ++ Pattern.many (· != '>')) ++ Pattern.text ">")
    (Pattern.text "</" ++ Pattern.group 2 tagName ++ Pattern.text ">")

def isHexDigit (c : Char) : Bool :=
  Text.isAsciiDigit c || ('a' ≤ c && c ≤ 'f') || ('A' ≤ c && c ≤ 'F')

def entity : Pattern :=
  Pattern.text "&"
    ++ Pattern.firstOf
      [ Pattern.atLeastOne Text.isAsciiLetter
      , Pattern.text "#" ++ Pattern.atLeastOne Text.isDigit
      , Pattern.text "#x" ++ Pattern.atLeastOne isHexDigit ]
    ++ Pattern.text ";"

def tagMessage? (m : Match) : Option String :=
  let name := String.ofList (Text.lower (m.group 1))
  (problematic.lookup name).map fun advice =>
    "Raw HTML <" ++ name ++ "> tag in PGML text will be stripped or mangled; " ++ advice

def entityMessage (m : Match) : String :=
  "HTML entity '" ++ String.ofList m.text ++ "' in PGML text may be mangled; "
    ++ "use Unicode characters or LaTeX instead"

def classMessage : String :=
  "HTML class \"tex2jax_ignore\" found in PGML text; "
    ++ "this suppresses MathJax and often indicates rendering problems"

def issues (d : Document) : List Issue :=
  d.blockTexts.flatMap fun (i, start, t) =>
    let inline := Span.wrapped t.length ((SpanTable.at? d.inlineSpans i).getD [])
    let find := fun (p : Pattern) (message? : Match → Option String) =>
      ((p.findAll t).filter fun m => !Span.anyHolds inline m.start).filterMap fun m =>
        (message? m).map fun message => Issue.onLine .warning message (d.lineOf (start + m.start))
    find tag tagMessage? ++ find entity (some ∘ entityMessage) ++ find ignoreClass fun _ => some classMessage

end HtmlInText

def htmlInText : Check :=
  .reporting "pgml_html_in_text" "Raw HTML in PGML text" HtmlInText.issues

namespace HtmlPolicy

def rules : List (String × Severity) :=
  [ ("script", .error), ("iframe", .error), ("object", .error), ("embed", .error), ("style", .warning)
  , ("table", .error), ("tr", .error), ("td", .error), ("th", .error), ("thead", .error)
  , ("tbody", .error), ("tfoot", .error), ("colgroup", .error), ("col", .error), ("form", .warning)
  , ("input", .warning), ("textarea", .warning), ("button", .warning), ("img", .warning)
  , ("a", .warning), ("svg", .warning), ("math", .warning), ("canvas", .warning)
  , ("video", .warning), ("audio", .warning) ]

/-- Tags of tables, which in blocks have a check of their own. -/
def tableTags : List String :=
  ["table", "tr", "td", "th", "thead", "tbody", "tfoot", "colgroup", "col"]

def isTagChar (c : Char) : Bool := Text.isAsciiLetter c || Text.isAsciiDigit c

def tagName : Pattern := .one Text.isAsciiLetter ++ Pattern.many isTagChar

def wrapperTag : Pattern :=
  let space := Pattern.blanks
  Pattern.text "[" ++ space ++ Pattern.text "<" ++ Pattern.many (· != '>') ++ Pattern.text ">" ++ space
    ++ Pattern.text "]" ++ space ++ Pattern.text "\x7b" ++ space ++ Pattern.text "[" ++ space
    ++ Pattern.oneOf "'\""
    ++ Pattern.group 1 (Pattern.atLeastOne fun c => isTagChar c || Text.isLetterVariant c)
    ++ Pattern.oneOf "'\""

def rule? (m : Match) : Option (String × Severity) :=
  let name := String.ofList (Text.lower (m.group 1))
  (rules.lookup name).map (name, ·)

def styleIssues (code : Text) : List Issue :=
  (numberedLines code).filterMap fun (n, l) =>
    let lower := Text.lower l
    if Text.includes lower "<style" && !Text.includes lower "header_text" then
      some (.onLine .warning "Inline <style> tag found outside HEADER_TEXT; may be sanitized" n)
    else none

def wrapperIssues (code : Text) : List Issue :=
  (numberedLines code).flatMap fun (n, l) => (codeMatches wrapperTag l).filterMap fun m =>
    (rule? m).map fun (name, severity) =>
      .onLine severity
        ("PGML tag wrapper uses <" ++ name ++ "> which is disallowed or sanitized in this install") n

def issues (d : Document) : List Issue :=
  let inBlock := fun (pos : Nat) => d.blockRegions.any (·.holds pos)
  styleIssues d.code
    ++ matchIssues d ignoreClass d.code .warning (fun _ =>
      "HTML class \"tex2jax_ignore\" found; MathJax is suppressed and output may not render")
    ++ wrapperIssues d.code
    ++ ((tagStart (Pattern.text "<") tagName).findAll d.code).filterMap (fun m => do
      let (name, severity) ← rule? m
      if tableTags.contains name && inBlock m.start then none
      some (.onLine severity
        ("HTML <" ++ name ++ "> tag detected; avoid raw HTML that can be sanitized") (d.lineOf m.start)))
    ++ ((tagStart (Pattern.text "&lt;") tagName).findAll d.code).filterMap fun m => do
      let (name, _) ← rule? m
      some (.onLine .error
        ("Escaped HTML tag &lt;" ++ name ++ "&gt; detected; output may be escaping HTML")
        (d.lineOf m.start))

end HtmlPolicy

def htmlPolicy : Check :=
  .reporting "pgml_html_policy" "HTML policy checks" HtmlPolicy.issues

def tableTag : Pattern := tagStart (Pattern.text "<") (Pattern.wordsAnyCase HtmlPolicy.tableTags)

def blockMatchIssues (d : Document) (p : Pattern) (message : Match → String) (start : Int) (t : Text) :
    List Issue :=
  (p.findAll t).map fun m => .onLine .error (message m) (d.lineOf (start + m.start))

def forbiddenTags : Check :=
  .reporting "pgml_html_forbidden_tags" "Forbidden HTML tags in PGML" fun d =>
    d.blockTexts.flatMap fun (_, start, t) =>
      blockMatchIssues d tableTag
        (fun m => "HTML <" ++ String.ofList (Text.lower (m.group 1))
          ++ "> tag found in PGML content; use DataTable() or LayoutTable() from niceTables.pl") start t

def divTag (bracket : Pattern) : Pattern := tagStart bracket (Pattern.anyCase "div")

def divTags : Check :=
  .reporting "pgml_html_div" "HTML div tags in PGML" fun d =>
    let rawLayout := Version.allowsRawLayout d.version
    d.blockTexts.flatMap fun (_, start, t) =>
      (if rawLayout then []
        else blockMatchIssues d (divTag (Pattern.text "<")) (fun _ =>
          "HTML <div> tag found in PGML content; "
            ++ "avoid HTML divs because they often render incorrectly") start t)
        ++ blockMatchIssues d (divTag (Pattern.anyCase "&lt;")) (fun _ =>
          "Escaped HTML <div> tag found in PGML output; "
            ++ "this indicates HTML is being escaped instead of rendered") start t

end ProblemLint.Check
