import ProblemLint.Check
import ProblemLint.Markup.Bracket

/-! Answer blanks, the variables of their answers, and brackets around them. -/

namespace ProblemLint.Check

def blanks : Check :=
  .updating "pgml_blanks" "PGML blank specs" fun d =>
    let found := d.regionTexts.map fun (i, start, t) =>
      let (issues, inline) := d.inlineSpansOf i t start
      let (problems, names, spans) := answerBlanks t start d.newlines inline
      (issues ++ problems, names, spans)
    (found.flatMap (·.1),
      { d with
        blankVariables := some (sortedNames (found.flatMap (·.2.1)))
        blankSpans := some (.ofSpans (found.map (·.2.2))) })

def blankAssignments : Check :=
  .reporting "pgml_blank_assignments" "PGML blank assignments" fun d =>
    ((d.blankVariables.getD []).filter fun n => !d.assigned.contains n).map fun n =>
      .general .warning ("PGML blank references $" ++ n ++ " without assignment in file")

/-- The blanks of a region: as an earlier check left them, or those of its text outside of inline code. -/
def blankSpansOf (d : Document) (i : Nat) (t : Text) (inline : List Span) : List Span :=
  match SpanTable.at? d.blankSpans i with
  | some spans => spans
  | none => (AnswerBlank.spans t).filter fun s => !Span.anyHolds inline s.start

/-- Off by default: brackets without a partner are common in plain text, as in half-open intervals. -/
def brackets : Check :=
  { Check.reporting "pgml_brackets" "PGML bracket balance" fun d =>
      d.regionTexts.flatMap fun (i, start, t) =>
        let (issues, inline) := d.inlineSpansOf i t start
        issues ++ bracketIssues t start d.newlines inline (blankSpansOf d i t inline)
    with enabled := false }

end ProblemLint.Check
