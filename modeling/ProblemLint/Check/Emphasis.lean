import ProblemLint.Check
import ProblemLint.Markup.Math

/-! Emphasis by underscores, which has to end before its paragraph does. -/

namespace ProblemLint.Check.Emphasis

/-- The underscores of a line that mark emphasis, by position: they lie in no span, follow no backslash, and do
not stand inside of a word. -/
def marksFrom (masked : List Span) (before : Option Char) (pos : Nat) : Text → List Nat
  | [] => []
  | c :: r =>
    let rest := marksFrom masked (some c) (pos + 1) r
    if c == '_' && !Span.anyHolds masked pos && before != some '\\'
        && !(before.any Text.isWord && r.head?.any Text.isWord) then pos :: rest
    else rest

/-- The last mark of every paragraph with an odd number of them. Blank lines end paragraphs; `marks` holds those
of the paragraph that is being read. -/
def unclosedFrom (masked : List Span) (marks : List Nat) (pos : Nat) : List Text → List Nat
  | [] => if marks.length % 2 == 1 then marks.getLast?.toList else []
  | l :: ls =>
    if Text.isAllBlank l then
      (if marks.length % 2 == 1 then marks.getLast?.toList else [])
        ++ unclosedFrom masked [] (pos + l.length) ls
    else unclosedFrom masked (marks ++ marksFrom masked none pos l) (pos + l.length) ls

def issues (d : Document) : List Issue :=
  d.blockTexts.flatMap fun (i, start, t) =>
    let (found, inline) := d.inlineSpansOf i t start
    let (problems, blanks) :=
      match SpanTable.at? d.blankSpans i with
      | some spans => ([], spans)
      | none =>
        let (problems, _, spans) := answerBlanks t start d.newlines inline
        (problems, spans)
    found ++ problems
      ++ (unclosedFrom (Span.wrapped t.length (inline ++ blanks ++ mathSpans t)) [] 0 (Text.lines t)).map fun p =>
        .onLine .warning "PGML underscore emphasis not closed before paragraph ends" (d.lineOf (start + p))

end Emphasis

def underscoreEmphasis : Check :=
  .reporting "pgml_underscore_emphasis" "PGML underscore emphasis balance" Emphasis.issues

end ProblemLint.Check
