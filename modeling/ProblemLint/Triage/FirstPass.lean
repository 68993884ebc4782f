import ProblemLint.Triage.Evidence
import ProblemLint.Triage.Results

/-! The first sorting of issues: known bugs, files that mix old and new style, and the rest. -/

namespace ProblemLint.Triage.FirstPass

structure Contents where
  oldText : Bool := false
  markup : Bool := false
  answerRules : Bool := false
  blanks : Bool := false

/-- An answer blank: underscores in brackets. -/
def blankAt (_before : Option Char) (t : Text) : Bool :=
  match t with
  | '[' :: r =>
    match (Text.trimStart r).takeWhile (· == '_'), (Text.trimStart r).dropWhile (· == '_') with
    | _ :: _, rest => (Text.trimStart rest).head? == some ']'
    | [], _ => false
  | _ => false

def Contents.ofEvidence (e : Evidence) : Contents where
  oldText := e.includes "BEGIN_TEXT"
  markup := e.includes "BEGIN_PGML"
  answerRules := e.includes "ans_rule" || e.includes "ANS_RULE"
  blanks := e.holds blankAt

def Contents.mixed (c : Contents) : Bool := (c.oldText && c.markup) || (c.answerRules && c.blanks)

inductive Category where
  | knownBug
  | mixedStyle
  | other
  deriving DecidableEq, Repr

def categorize (c : Contents) (i : Issue) : Category :=
  if c.mixed then .mixedStyle
  else
    match if comesFrom i "pgml_blank_assignments" then namedVariable? i.message else none with
    | some name => if isOneOf name implicitArrays then .other else .knownBug
    | none =>
      if saysMissingAnswer i || comesFrom i "document_pairs" || comesFrom i "block_markers" then .knownBug
      else if comesFrom i "macro_rules" then
        if namesTableMacro i && c.markup then .other else .knownBug
      else .other

def commandLine : CommandLine where
  about := "Categorize PGML lint issues"
  options := []
  operands := some ⟨"files", "Files to categorize"⟩

def entries (path : Text) : Script (List (Category × Text)) := do
  if !(← Script.isThere path) then
    Script.print ("File not found: ".toList ++ path)
    return []
  let c := Contents.ofEvidence (← evidence path)
  return (← Script.lintFile defaultSettings path).map fun i => (categorize c i, entryOf path i)

def allEntries : List Text → Script (List (Category × Text))
  | [] => pure []
  | path :: rest => do
    let here ← entries path
    return here ++ (← allEntries rest)

def ofCategory (c : Category) (entries : List (Category × Text)) : List Text :=
  (entries.filter (·.1 == c)).map (·.2)

def knownHeader : Text := "# Known bugs in PGML files\n# These are real errors that should be fixed\n\n".toList

def mixedHeader : Text :=
  ("# Files mixing legacy PG and PGML\n"
    ++ "# These files use both BEGIN_TEXT and BEGIN_PGML, or ans_rule() with PGML blanks\n\n").toList

def otherHeader : Text :=
  ("# Other issues - autovivified arrays, macros, etc.\n"
    ++ "# These may be false positives or non-critical issues\n\n").toList

def run (args : List Text) : Script Nat := do
  let fields ← Script.options commandLine args
  let files := ((Fields.get? fields "files").bind Value.items?).getD []
  let found ← allEntries (files.map Value.text)
  let known := ofCategory .knownBug found
  let mixed := ofCategory .mixedStyle found
  let other := ofCategory .other found
  makeResults
  writeResults "known_issues_pg.txt" knownHeader (sorted known)
  writeResults "mixed_legacy_pg.txt" mixedHeader (sortedOnce mixed)
  writeResults "other_issues_pg.txt" otherHeader (sorted other)
  Script.print s!"Categorized {known.length} known bugs".toList
  Script.print s!"Categorized {mixed.length} mixed legacy issues".toList
  Script.print s!"Categorized {other.length} other issues".toList
  return 0

end ProblemLint.Triage.FirstPass
