import ProblemLint.Text.Basic

/-! Small problems that are faulty on purpose, to see what the renderer says about them. -/

namespace ProblemLint.Renderer

structure Case where
  id : String
  label : String
  problem : String

namespace Case

/-- The macro files that a problem loads unless told otherwise, without the outermost quotes. -/
def standardMacros : Text := "PGstandard.pl', 'PGML.pl".toList

def wrapped (body : Text) (macros : Option Text) : Text :=
  "DOCUMENT();\nloadMacros('".toList ++ macros.getD standardMacros ++ "');\n\nBEGIN_PGML\n".toList ++ body
    ++ "\nEND_PGML\n\nENDDOCUMENT();\n".toList

def wrap (body : String) : String := String.ofList (wrapped body.toList none)

def framed (program : String) : String :=
  "DOCUMENT();\nloadMacros('PGstandard.pl', 'PGML.pl');\n" ++ program ++ "ENDDOCUMENT();\n"

def exploratory : List Case :=
  [ { id := "inline_unbalanced", label := "Unbalanced inline markers", problem := wrap "[@ 2 + 2" }
  , { id := "inline_pgml_wrapper", label := "PGML wrapper inside inline code",
      problem := wrap "[@ \"[<label>]\x7b['div']\x7d\x7b['','']\x7d\" @]*" }
  , { id := "inline_braces", label := "Inline code unbalanced braces",
      problem := wrap "[@ my $x = \x7b foo => 1; @]*" }
  , { id := "blank_missing_spec", label := "PGML blank missing spec", problem := wrap "Answer: [_]" }
  , { id := "underscore_unclosed", label := "Unclosed underscore emphasis",
      problem := wrap "This is _italic text." }
  , { id := "bracket_unbalanced", label := "Unbalanced bracket", problem := wrap "Bracket test [ without close." }
  , { id := "raw_div", label := "Raw div in PGML", problem := wrap "<div class=\"bad\">Block</div>" }
  , { id := "escaped_div", label := "Escaped div in PGML", problem := wrap "&lt;div class=\"two-column\"&gt;" }
  , { id := "table_tags", label := "Table tags in PGML", problem := wrap "<table><tr><td>Cell</td></tr></table>" }
  , { id := "raw_span", label := "Raw span in PGML", problem := wrap "<span class=\"note\">Span</span>" }
  , { id := "tex2jax_ignore", label := "tex2jax_ignore class",
      problem := wrap "<span class=\"tex2jax_ignore\">x</span>" }
  , { id := "style_tag", label := "Style tag in PGML", problem := wrap "<style>.x \x7b color: red; \x7d</style>" }
  , { id := "nested_begin_pgml", label := "Nested PGML markers", problem := wrap "[@ \"BEGIN_PGML\" @]*" }
  , { id := "ans_rule", label := "Legacy ans_rule", problem := framed "ans_rule(10);\n" }
  , { id := "br_variable", label := "Legacy $BR", problem := framed "$BR;\n" }
  , { id := "solution_macro", label := "Legacy SOLUTION macro",
      problem := framed "SOLUTION(EV3(<<'END_SOLUTION'));\nLegacy solution.\nEND_SOLUTION\n" } ]

def perCheck : List Case :=
  [ { id := "block_markers", label := "Mismatched PGML block markers",
      problem := framed "\nBEGIN_PGML\nMismatched marker.\nEND_PGML_HINT\n\n" }
  , { id := "pgml_heredocs", label := "Unterminated PGML heredoc",
      problem := framed "\nPGML::Format(<<'END_PGML');\nHello\n\n" }
  , { id := "document_pairs", label := "Missing ENDDOCUMENT",
      problem := "DOCUMENT();\nloadMacros('PGstandard.pl', 'PGML.pl');\nBEGIN_PGML\nMissing enddoc.\nEND_PGML\n" }
  , { id := "block_rules", label := "Custom block rule mismatch",
      problem := framed "\nFOO_START\nNo matching end.\n\n" }
  , { id := "pgml_required_macros", label := "PGML used without PGML.pl",
      problem := "DOCUMENT();\nloadMacros('PGstandard.pl');\n\nBEGIN_PGML\nMissing PGML macro.\nEND_PGML\n\nENDDOCUMENT();\n" }
  , { id := "macro_rules", label := "Missing macro requirement",
      problem := framed "\nContext('Numeric');\n\nBEGIN_PGML\nContext should require MathObjects.pl.\nEND_PGML\n\n" }
  , { id := "pgml_inline", label := "Unbalanced inline markers", problem := wrap "[@ 2 + 2" }
  , { id := "pgml_inline_pgml_syntax", label := "PGML wrapper syntax inside inline code",
      problem := wrap "[@ \"[<label>]\x7b['div']\x7d\x7b['','']\x7d\" @]*" }
  , { id := "pgml_inline_braces", label := "Unbalanced braces in inline code",
      problem := wrap "[@ my $x = \x7b foo => 1; @]*" }
  , { id := "pgml_blanks", label := "PGML blank missing spec", problem := wrap "Answer: [_]" }
  , { id := "pgml_underscore_emphasis", label := "Unclosed underscore emphasis",
      problem := wrap "This is _italic text." }
  , { id := "pgml_brackets", label := "Unbalanced brackets", problem := wrap "Bracket test [ without close." }
  , { id := "pgml_blank_assignments", label := "PGML blank variable without assignment",
      problem := wrap "Answer: [_]\x7b$missing\x7d" }
  , { id := "pgml_label_dot", label := "Label uses A. dot",
      problem := framed "\nmy $label = chr(65 + $i) . '. ';\n\n" }
  , { id := "pgml_ans_style", label := "ANS after END_PGML",
      problem := framed "\nBEGIN_PGML\nAnswer: [_______]\nEND_PGML\n\nANS($answer->cmp());\n\n" }
  , { id := "pgml_text_blocks", label := "Legacy BEGIN_TEXT",
      problem := framed "\nBEGIN_TEXT\nLegacy text.\nEND_TEXT\n\n" }
  , { id := "pgml_html_in_text", label := "Raw HTML in PGML text", problem := wrap "<strong>Bold</strong> text." }
  , { id := "pgml_html_forbidden_tags", label := "Table tag in PGML",
      problem := wrap "<table><tr><td>Cell</td></tr></table>" }
  , { id := "pgml_html_div", label := "Div tag in PGML", problem := wrap "<div class=\"bad\">Block</div>" }
  , { id := "pgml_span_interpolation", label := "Span HTML not interpolated",
      problem := framed "\nmy $answers_html = '<span class=\"ok\">Hi</span>';\n\nBEGIN_PGML\nNo interpolation here.\nEND_PGML\n\n" }
  , { id := "pgml_style_string_quotes", label := "Unescaped quotes in PGML style string",
      problem := framed "\n%match_data = (\n  '[<bond>]\x7b['span', style => 'color: #00b3b3;']\x7d\x7b['','']\x7d' => [\n    'H - O - H',\n  ],\n);\n\n" }
  , { id := "pgml_ans_rule", label := "Legacy ans_rule usage", problem := framed "\nans_rule(10);\n\n" }
  , { id := "pgml_br_variable", label := "Legacy $BR usage", problem := framed "\n$BR;\n\n" }
  , { id := "pgml_modes_html_escape", label := "MODES HTML used with [$var]",
      problem := framed "\nmy $note = MODES(HTML => '<span>Note</span>', TeX => '');\n\nBEGIN_PGML\n[$note]\nEND_PGML\n\n" }
  , { id := "pgml_old_answer_checkers", label := "Legacy answer checker", problem := framed "\nnum_cmp(2);\n\n" }
  , { id := "pgml_solution_hint_macros", label := "Legacy SOLUTION macro",
      problem := framed "\nSOLUTION(EV3(<<'END_SOLUTION'));\nLegacy solution.\nEND_SOLUTION\n\n" } ]

def ids (cases : List Case) : List String := sortedNames (cases.map (·.id))

/-- The cases that are asked for, in the order asked; all when none is. -/
def choose (cases : List Case) (wanted : List String) : List Case :=
  if wanted.isEmpty then cases else wanted.filterMap fun id => cases.find? (·.id == id)

end Case
end ProblemLint.Renderer
