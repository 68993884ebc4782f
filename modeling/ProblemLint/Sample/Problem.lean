import ProblemLint.Text.Basic

/-! Sample problems that give every check something to find. The samples differ in their headers, in the
macro files they load, and in what is wrong at their ends. -/

namespace ProblemLint.Sample

def repeated (n : Nat) (c : Char) : String := String.ofList (List.replicate n c)

/-! ### Headers -/

def plainHeader : List String :=
  [ "## hello world", "" ]

def quotedHeader : List String :=
  [ "## DESCRIPTION", "## \u2018smart\u2019 description", "## ENDDESCRIPTION", "## DBsubject('WeBWorK')"
  , "## DBchapter('')", "## DBsection('refer to taxonomy')", "## KEYWORDS('a','a')", "" ]

def fullHeader : List String :=
  [ "## DESCRIPTION", "## line 0", "## line 1", "## line 2", "## line 3", "## line 4", "## line 5"
  , "## ENDDESCRIPTION", "## DBsubject(Algebra)", "## DBchapter(Chapter One)", "## DBsection(Section One)"
  , "## KEYWORDS(k0,k1,k2,k3,k4,k5,k6,k7,k8,k9,k10,k11)", "" ]

def brokenHeader : List String :=
  [ "## ENDDESCRIPTION", "## DBsubject(History)", "## DBchapter(refer to taxonomy)", "## DBsection()"
  , "## KEYWORDS bad", "" ]

def goodHeader : List String :=
  [ "## DESCRIPTION", "## A good problem.", "## ENDDESCRIPTION", "## DBsubject(Calculus)"
  , "## DBchapter(Limits)", "## DBsection(Definition)", "## KEYWORDS()", "" ]

def headers : List (List String) := [plainHeader, quotedHeader, fullHeader, brokenHeader, goodHeader]

/-! ### Macro files -/

def macroCalls : List (List String) :=
  [ [ "loadMacros(\u2018PGML.pl\u2019, 'PGstandard.pl' 'MathObjects.pl');" ]
  , [ "loadMacros(", "  'PGML.pl',", "  'PGstandard.pl',", "  'MathObjects.pl',", "  'parserPopUp.pl',", ");" ]
  , [ "loadMacros()", "$dummy = 1;" ]
  , [ "$s = 'loadMacros(';", "loadMacros(", "  'PGML.pl',", "  'niceTables.pl'", ");" ] ]

/-! ### Program and markup -/

def program : List String :=
  [ "my $answer = Compute('3');", "our @arr = (1, 2, 3);", "my %hash = (a => 1);"
  , "($x, $y, $z) = (1, 2, 3);", "$things[0] = 1;", "$lookup\x7bkey\x7d = 2;", "$BR;"
  , "$htmlspan = '<span class=\"tex2jax_ignore\">hi</span>';", "$htmldiv = \"<div>block</div>\";"
  , "$modesvar = MODES(TeX => 'x', HTML => '<b>bold</b>');"
  , "$plainmodes = MODES(TeX => '', HTML => 'plain text');"
  , "$qmodes = MODES(TeX => qq\x7btex\x7d, HTML => q\x7b<i>it</i>\x7d);", "$label = chr(65 + $i) . '. ';"
  , "$wrap = '[<hi>]\x7b[\"span\"]\x7d';", "$style = '[<label>]\x7b['span', style => 'color: red;']\x7d';"
  , "$r = rand();", "$t = time();", "srand(1);", "$n = random(1, 10, 1);", "$m = random(1, 2);"
  , "$p = random(1, 2, 3, 4);", "$c = Compute();", "$c2 = Compute('x', );", "$pass = Compute(@_);"
  , "$multi = Compute(", "$obj->random(1);", "sub random \x7b 1 \x7d", "$typo = Popup(['a','b'], 'a');"
  , "$f = Formula('x', [1,2], \x7ba=>1\x7d);", "$esc = \"\\\\n \\'x\\' \\\"y\\\"\";"
  , "includePGproblem('foo.pg');", "ANS(num_cmp($answer));", "ans_rule(10);", "SOLUTION(EV3(<<'EOS'));"
  , "solution body line 1", "solution body # not a comment", "EOS", "HINT('a hint');", "$nb = 'a\u00a0b';"
  , "$moji = '\u00c3\u00a9';", "\\color\x7bred\x7d", "$long = '" ++ repeated 250 'x' ++ "';"
  , "$blob = '" ++ repeated 900 'A' ++ "==';", "$ggb = ggbbase64 => 'abc';", "$b64 = base64 => 'abc';"
  , "$tbl = '<table><tr><td>x</td></tr></table>';", "$scr = '<script>alert(1)</script>';"
  , "$stl = '<style>.x\x7b\x7d</style>';", "$esc2 = '&lt;table&gt;';", "[<thing>]\x7b['script']\x7d"
  , "$keep = 'a # not comment'; # real comment" ]

def markup : List String :=
  [ "BEGIN_PGML", "Some text with an answer [___]\x7b$answer\x7d here.", "Another blank [_] missing spec."
  , "Bad blank [__]\x7b  \x7d.", "Star blank [_]*\x7b$answer\x7d."
  , "Double spec [__]\x7b$answer\x7d *\x7b$other\x7d.", "Unbalanced spec [__]\x7b$answer ."
  , "Unassigned [_]\x7b$ghost\x7d.", "Math [` x^2 + y_1 `] and [: a+b :] and [: c :+]."
  , "Inline [@ $answer . '\x7b' @]* and [@ '\x7d' @]*.", "Inline unbalanced [@ foo( @]*."
  , "Inline braces ok [@ \x7b'a' => 1\x7d # cmt", " @]*."
  , "Inline pgml syntax [@ '[<x>]\x7b[$z]\x7d' . 'BEGIN_PGML' @]*.", "Inline interp [@ '[$name]' @]*."
  , "Modes inline [@ MODES(TeX => '', HTML => '<div>x</div>') @]*."
  , "Modes inline2 [@ MODES(TeX => 'x', HTML => '<span>y</span>') @]*."
  , "Modes inline3 [@ MODES(HTML => 'plain') @]*.", "Unclosed inline [@ never closed."
  , "Orphan close @] here.", "Var [$htmlspan] and [$htmldiv] and [$modesvar].", "Var star [$htmlspan]* ok."
  , "<b>bold</b> <span>x</span> </em> &amp; entity.", "<table><tr><td>cell</td></tr></table>"
  , "<div>block</div> &lt;div&gt;esc&lt;/div&gt;", "class=\"tex2jax_ignore\" here."
  , "Tag wrapper [<label>]\x7b['span']\x7d\x7b'tex payload'\x7d more."
  , "Tag wrapper2 [<ok>]\x7b['div']\x7d fine.", "Broken wrapper [<no close on this line", "[balance]"
  , "_open emphasis", "", "snake_case_word and \\_escaped and more _em_.", "Extra ] bracket and [ open."
  , "END_PGML" ]

def afterMarkup : List String :=
  [ "ANS($answer->cmp());", "BEGIN_TEXT", "legacy text block", "END_TEXT", "BEGIN_PGML_SOLUTION"
  , "Solution [$answer].", "END_PGML_SOLUTION", "TEXT(PGML::Format2(<<'END_PGML_HERE'));"
  , "heredoc [___]\x7b$answer\x7d body", "END_PGML_HERE" ]

/-! ### Ends -/

def openHeredoc : List String := ["TEXT(PGML::Format2(<<END_PGML_BAD));", "never closed heredoc"]

def nestedBlocks : List String :=
  [ "END_PGML", "BEGIN_PGML", "BEGIN_PGML_HINT", "nested hint", "END_PGML_HINT", "END_TEXT" ]

def secondDocument : List String := ["ENDDOCUMENT();", "DOCUMENT();"]

def endings : List (List String) := [nestedBlocks, secondDocument, []]

def pick (choices : List (List String)) (n : Int) : List String := choices.getD (n % choices.length).toNat []

/-- The lines of a sample problem. Every seventh sample leaves a heredoc open. -/
def problemLines (variant : Int) : List String :=
  pick headers variant ++ ["DOCUMENT();"] ++ pick macroCalls variant ++ program ++ markup ++ afterMarkup
    ++ (if variant % 7 == 0 then openHeredoc else []) ++ pick endings variant ++ ["ENDDOCUMENT();"]

def problem (variant : Int) : String := String.join ((problemLines variant).map (· ++ "\n"))

end ProblemLint.Sample
