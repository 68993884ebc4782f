import ProblemLint.Check

/-! Older ways to write problems, and answers that are checked apart from their blanks. -/

namespace ProblemLint.Check

def lineWord (w : String) : Pattern :=
  Pattern.lineStart ++ Pattern.many (fun c => c == ' ' || c == '\t') ++ Pattern.text w

def lineCall (w : String) : Pattern := lineWord w ++ Pattern.blanks ++ Pattern.text "("

namespace AnswerStyle

/-- The positions of answer calls after the end of a block, up to the end of the document. -/
def callsAfter (t : Text) (pos : Nat) : List Nat :=
  let stop := ((lineCall "ENDDOCUMENT").searchAfter? t pos).map (·.start)
  let part := (t.drop pos).take (stop.getD t.length - pos)
  ((lineCall "ANS").findAll part).map (pos + ·.start)

def message : String :=
  "ANS() call after END_PGML block (mixed style). "
    ++ "Pure PGML uses inline answer specs: [_]\x7b$answer\x7d instead of ANS($answer->cmp())"

/-- An issue for every end of a block and every answer call after it, on files of more than one line. -/
def issues (d : Document) : List Issue :=
  let newlines := d.newlines.positions.toList
  if newlines.isEmpty then []
  else
    ((lineWord "END_PGML" ++ Pattern.wordEdge).findAll d.text).flatMap fun m =>
      (callsAfter d.text m.stop).map fun pos =>
        ⟨[("severity", .str Severity.warning.name),
          ("line", .int (1 + (newlines.takeWhile (· < pos)).length)), ("message", .str message)]⟩

end AnswerStyle

def answerStyle : Check :=
  .reporting "pgml_ans_style" "PGML answer style consistency" AnswerStyle.issues

def textBlocks : Check :=
  .reporting "pgml_text_blocks" "Deprecated TEXT blocks" fun d =>
    matchIssues d (lineWord "BEGIN_TEXT" ++ Pattern.wordEdge) d.text .warning fun _ =>
      "BEGIN_TEXT is deprecated legacy PG syntax; use BEGIN_PGML with PGML.pl for modern WebWork problems"

def answerRule : Check :=
  .reporting "pgml_ans_rule" "Legacy ans_rule() function" fun d =>
    matchIssues d (functionCall "ans_rule") d.code .warning fun _ =>
      "ans_rule() is deprecated legacy PG syntax; "
        ++ "use PGML inline answer blanks like [_]\x7b$answer\x7d instead"

def breakVariable : Check :=
  .reporting "pgml_br_variable" "Legacy $BR variable" fun d =>
    matchIssues d (Pattern.text "$BR" ++ Pattern.wordEdge) d.code .warning fun _ =>
      "$BR is deprecated legacy PG syntax; use blank lines in PGML for paragraph breaks"

def oldCheckers : List String :=
  ["num_cmp", "str_cmp", "fun_cmp", "std_num_cmp", "std_str_cmp", "std_fun_cmp", "std_num_str_cmp",
    "strict_num_cmp", "strict_str_cmp"]

def callOf (names : Pattern) : Pattern :=
  Pattern.wordEdge ++ Pattern.group 1 names ++ Pattern.blanks ++ Pattern.text "("

def oldAnswerCheckers : Check :=
  .reporting "pgml_old_answer_checkers" "Legacy answer checker functions" fun d =>
    matchIssues d (callOf (Pattern.words oldCheckers)) d.code .warning fun m =>
      String.ofList (m.group 1) ++ "() is deprecated legacy PG syntax; "
        ++ "use MathObjects with ->cmp() method instead (e.g., $answer->cmp())"

def solutionHintMacros : Check :=
  .reporting "pgml_solution_hint_macros" "Legacy SOLUTION/HINT macros" fun d =>
    matchIssues d (callOf (Pattern.wordsAnyCase ["SOLUTION", "HINT"])) d.code .warning fun m =>
      let name := if (m.group 1).map Text.upperChar == "SOLUTION".toList then "SOLUTION" else "HINT"
      name ++ "() macro is deprecated legacy PG syntax; use BEGIN_PGML_" ++ name ++ "...END_PGML_" ++ name
        ++ " blocks instead"

end ProblemLint.Check
