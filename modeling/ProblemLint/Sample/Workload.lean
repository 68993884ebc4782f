import ProblemLint.Lint

/-! Workloads: texts of any size for the parts of the linter, each with a tally of what the part finds in it. -/

namespace ProblemLint.Sample

abbrev Tally := List Value

def count (n : Nat) : Value := .int n

def countOf {α : Type} (xs : List α) : Value := count xs.length

def each (n : Nat) (part : Nat → String) : Text := (List.range n).flatMap fun i => (part i).toList

/-! ### Comments and heredocs -/

def commentedLines : List String :=
  [ "DOCUMENT(); # start", "loadMacros('PGML.pl'); # macros", "# a line of comment only"
  , "$a = random(1,9); # first", "$b = 'a # b';", "$c = \"x\\\"#y\"; # third", "$text = <<END_OF_TEXT;"
  , "A line of the text # kept as it is", "Another line of the text, with $a and $b within it now"
  , "END_OF_TEXT", "$d = $a+1; # fourth", "ANS($d);", "ENDDOCUMENT(); # end" ]

/-- The thirteen lines as often as they fit into a number of lines, at least once. -/
def commentedText (lines : Nat) : Text :=
  let once := commentedLines.flatMap fun l => l.toList ++ ['\n']
  (List.replicate (max 1 (lines / commentedLines.length)) once).flatten

def stripTally (lines : Nat) : Tally :=
  let t := commentedText lines
  let code := stripComments t
  [countOf (Text.lines t), countOf code, countOf (stripHeredocs code)]

/-! ### Calls and assignments -/

def callText (n : Nat) : Text := each n fun i =>
  s!"loadMacros('first{i}.pl', 'second{i}.pl');\nmy $a{i} = Compute('{i}');\n$b{i} = random(1, {i});\n"
    ++ s!"($c{i}, $d{i}) = f($a{i});\n@e{i} = (1, 2);\n$f{i}[0] = 1;\n"

/-- Calls of two functions, macro files, assigned variables, and whether there is markup. -/
def callTally (n : Nat) : Tally :=
  let t := callText n
  [ countOf (Call.all ["Compute", "random"] (.ofText t) t), countOf (loadedMacros t), countOf (Variable.assigned t)
  , .bool (usesMarkup t) ]

/-! ### Blocks -/

/-- A block and a heredoc; some numbers bring a nested block, a marker without a block, a marker of another
block, or a block that stays open. -/
def blockPart (i : Nat) : String :=
  let sometimes := fun (k : Nat) (s : String) => if i % k == 0 then s else ""
  "BEGIN_PGML\nA block.\n" ++ sometimes 4 "BEGIN_PGML_HINT\nA hint.\nEND_PGML_HINT\n" ++ sometimes 6 "END_HINT\n"
    ++ "END_PGML\n" ++ sometimes 5 "END_TEXT\n" ++ sometimes 7 "BEGIN_SOLUTION\n"
    ++ "TEXT(PGML::Format2(<<'END_PGML_TEXT'));\nA heredoc.\nEND_PGML_TEXT\n"

def blockText (n : Nat) : Text := each n blockPart ++ "BEGIN_TEXT\n".toList

def blockTally (n : Nat) : Tally :=
  let t := blockText n
  let (issues, regions) := blocks t
  let (heredocIssues, heredocRegions) := markupHeredocs t
  [countOf issues, countOf regions, countOf heredocIssues, countOf heredocRegions]

/-! ### Markup -/

def markupText (n : Nat) : Text :=
  each n (fun i =>
    s!"Answers [___]\x7b$a{i}\x7d, [__]\x7b$left\x7d and [_]\x7b$right\x7d with [@ f({i}) @]*.\n")
    ++ "A close @] alone, [@ g() @]* and [@ an open one.\n".toList

def markupTally (n : Nat) : Tally :=
  let t := markupText n
  let newlines := NewlineIndex.ofText t
  let (issues, inline) := inlineSpans t 0 newlines
  let (_, named, blanks) := answerBlanks t 0 newlines inline
  [ countOf issues, countOf inline, countOf blanks, countOf named
  , countOf (bracketIssues t 0 newlines inline blanks) ]

/-! ### Modes -/

def modesText (n : Nat) : Text := each n fun _ =>
  "$m = MODES(TeX => 'x', HTML => '<b>y</b>', TeX => qq\x7bz\x7d, HTML => q\x7b<i>w</i>\x7d);\n"

def payload (size : Nat) : Option (Text × Nat) → Value
  | some (t, _) => .list [.str (String.ofList t), count (t.length + size)]
  | none => .null

def parens (s : String) : Value := payload 2 ((Modes.payload? s.toList).map fun t => (t, 0))

def inQuotes (s : String) : Value := payload 2 (Modes.quoted? s.toList)

def inGeneralQuotes (s : String) : Value := payload 4 (Modes.generalQuoted? s.toList)

def nestedParens : String := "(a\\'b'c'\"d\"(e))"

def escapedQuote : String := "'a\\'b'"

def escapedBrace : String := "qq\x7ba\\\x7db\x7d"

/-- What single readers of mode calls give for texts that they accept and texts that they refuse. -/
def readerTally : Tally :=
  [ parens nestedParens, parens "(a", inQuotes escapedQuote, inQuotes "'a", inGeneralQuotes escapedBrace
  , inGeneralQuotes "x", inGeneralQuotes "q", inGeneralQuotes "qqa", inGeneralQuotes "q\x7ba"
  , parens nestedParens, parens "a)", inQuotes escapedQuote, inQuotes "\"a", inQuotes "ab"
  , inGeneralQuotes escapedBrace, inGeneralQuotes "qw", inGeneralQuotes "qq", inGeneralQuotes "qq(a"
  , parens nestedParens, parens "((a)", parens "" ]

def modesTally (n : Nat) : Tally :=
  let t := modesText n
  let found := fun (call : Text) => (Modes.texOutputs call).length + (Modes.htmlOutputs call).length
  let outputs := ((Modes.calls t).map fun (_, call) => found call).foldl (· + ·) 0
  [count outputs, countOf (Modes.calls t)] ++ readerTally
    ++ [ countOf (Modes.calls "MODES(TeX => 'x') MODES(".toList)
       , .bool (Check.hasHtmlTags "plain".toList), .bool (Check.InlineModes.layoutOnly "<b>x</b>".toList)
       , .bool (Check.InlineModes.layoutOnly "plain".toList)
       , .bool (Check.InlineModes.layoutWantsEmptyTex "plain".toList)
       , countOf (Modes.htmlOutputs "HTML => 'a', HTML => \"b\", HTML => q\x7bc\x7d".toList)
       , countOf (Modes.htmlOutputs "TeX => 'a'".toList)
       , countOf (Modes.texOutputs "TeX => 'a', TeX => ''".toList), countOf (Modes.texOutputs "HTML => 'a'".toList) ]

/-! ### Registry and issues -/

def sampleEntry : Entry := .ofParts "sample" "Sample" false

def registrySample : Registry := (Registry.standard.register sampleEntry).toOption.getD {}

def chosen (only enable disable : List String) : Value :=
  countOf ((registrySample.resolve only enable disable).toOption.getD [])

def issueSample (n : Nat) : List Issue :=
  (List.range n).map (fun i =>
    .onLine (if i % 2 == 1 then .error else .warning) s!"message {i}" (n - i))
    ++ ["first", "second", "third"].map (.general .warning ·)

def versionSample : List String := ["2.17", " 2.18 ", "", "2.19"]

def registryTally (n : Nat) : Tally :=
  let issues := issueSample n
  let (errors, warnings) := Issue.summary issues
  let versions := versionSample.map fun v => String.ofList (Version.normalize (some v.toList))
  [ countOf registrySample.entries, chosen ["block_markers", "sample"] [] [], chosen [] [] [], count errors
  , count warnings, countOf (Issue.sort issues), countOf versions, countOf (sortedNames versions) ]

end ProblemLint.Sample
