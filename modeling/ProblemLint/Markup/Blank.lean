import ProblemLint.Markup.Inline
import ProblemLint.Source.Quote
import ProblemLint.Source.Variable

/-! Answer blanks: underscores in brackets, followed by the answer in braces. -/

namespace ProblemLint

def bracedAt? (t : Text) (start : Int) : Option (Text × Int) := delimitedAt? '{' '}' t start

namespace AnswerBlank

def isSpaceOrTab (c : Char) : Bool := c == ' ' || c == '\t'

/-- The size of a blank at the start of a text: underscores with spaces or tabs around them, in
brackets. -/
def at? (_before : Option Char) (t : Text) : Option (Nat × Nat) := do
  let r ← Text.after? ['['] t
  let r := r.dropWhile isSpaceOrTab
  let marks := r.takeWhile (· == '_')
  if marks.isEmpty then none
  let rest ← Text.after? [']'] ((r.drop marks.length).dropWhile isSpaceOrTab)
  let size := t.length - rest.length
  some (size, size)

def spans (t : Text) : List Span :=
  (occurrences at? t).map fun (pos, size) => ⟨pos, pos + size⟩

/-- The answer of a blank: whether a star stands before it, and what follows the blank, white space and the
star. -/
def afterStar (t : Text) : Bool × Text :=
  match Text.trimStart t with
  | '*' :: r => (true, Text.trimStart r)
  | r => (false, r)

def answer (t : Text) : List (Severity × String) × List Text :=
  let (star, r) := afterStar t
  match r with
  | '{' :: _ =>
    match delimited? '{' '}' r with
    | none => ([(.error, "PGML blank spec has unbalanced braces")], [])
    | some (payload, trail) =>
      let empty := if Text.isAllBlank payload then [(.warning, "PGML blank spec is empty")] else []
      let both :=
        match afterStar trail with
        | (true, '{' :: _) =>
          if star then [] else [(.warning, "PGML blank uses both payload and star specs")]
        | _ => []
      (empty ++ both, Variable.dollarNames payload)
  | _ => ([(.warning, "PGML blank missing answer spec")], [])

end AnswerBlank

/-- Issues about the blanks of a region's text that lie outside of inline code, the variables that their
answers name, and the spans of all blanks. -/
def answerBlanks (t : Text) (offset : Int) (newlines : NewlineIndex) (inline : List Span) :
    List Issue × List String × List Span :=
  let spans := AnswerBlank.spans t
  let found := (spans.filter fun s => !Span.anyHolds inline s.start).map fun s =>
    (newlines.lineOf (offset + s.start), AnswerBlank.answer (t.drop s.stop.toNat))
  (found.flatMap fun (line, problems, _) => problems.map fun (sev, msg) => .onLine sev msg line,
    sortedNames (found.flatMap fun (_, _, names) => names.map String.ofList),
    spans)

end ProblemLint
