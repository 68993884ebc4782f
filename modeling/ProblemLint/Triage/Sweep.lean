import ProblemLint.Triage.Results

/-! One pass over a list of files: every file is checked, and its issues are sorted into bugs, old style and
doubtful ones. -/

namespace ProblemLint.Triage.Sweep

inductive Category where
  | bug
  | legacy
  | falsePositive
  deriving DecidableEq, Repr

namespace Category

def name : Category → String
  | .bug => "bug"
  | .legacy => "legacy"
  | .falsePositive => "false_positive"

end Category

/-- A variable without assignment is never taken for a bug. -/
def categorizeVariable (e : Evidence) (name : Text) : Category :=
  if isOneOf name implicitArrays then .falsePositive
  else if isOneOf name summaryNames && e.assignsInList name then .falsePositive
  else if e.assignsElement name then .falsePositive
  else if e.assignsInList name then .falsePositive
  else if isOneOf name tableNames && e.assignsElement name then .falsePositive
  else .falsePositive

def categorize (e : Evidence) (i : Issue) : Category :=
  if saysMissingAnswer i then if e.callsAnswer then .legacy else .bug
  else if comesFrom i "document_pairs" || comesFrom i "block_markers" then .bug
  else if comesFrom i "pgml_blank_assignments" then
    match namedVariable? i.message with
    | none => .falsePositive
    | some name => categorizeVariable e name
  else if comesFrom i "macro_rules" && namesTableMacro i && e.includes "BEGIN_PGML" then .falsePositive
  else .falsePositive

def commandLine : CommandLine where
  about := "Lint all PGML files and categorize results"
  options :=
    [ { names := ["-f", "--file-list"], key := "list", effect := .text, initial := .str "./all_pgml_files.txt",
        valueName := "FILE_LIST",
        about := some "File containing list of PGML files (default: ./all_pgml_files.txt)" }
    , { names := ["-n", "--max-files"], key := "limit", effect := .integer, valueName := "MAX_FILES",
        about := some "Maximum number of files to process (default: all)" } ]

/-- The first files of a list: all without a limit or with limit zero, and all but some at the end when the limit is
negative. -/
def limited (limit : Option Int) (files : List Text) : List Text :=
  match limit with
  | none => files
  | some n =>
    if n == 0 then files else if n < 0 then files.take (files.length - n.natAbs) else files.take n.toNat

structure Tally where
  processed : Nat := 0
  withIssues : Nat := 0
  found : List (Category × Text) := []

def complaint (path : Text) : Failure → Text
  | .bytes f => f.message
  | .file .isFolder => "[Errno 21] Is a directory: ".toList ++ Text.quoted false path
  | .file .notFolder => "[Errno 20] Not a directory: ".toList ++ Text.quoted false path
  | .file _ => "[Errno 2] No such file or directory: ".toList ++ Text.quoted false path
  | _ => []

/-- Checks one file; one that cannot be read is reported and passed over. -/
def visit (tally : Tally) (path : Text) : Script Tally := do
  if !(← Script.isThere path) then return tally
  let tally := { tally with processed := tally.processed + 1 }
  let issues ← try
      Script.lintFile defaultSettings path
    catch f => do
      Script.print ("  ERROR processing ".toList ++ path ++ ": ".toList ++ complaint path f)
      pure []
  if issues.isEmpty then return tally
  let e ← evidence path
  return { tally with
    withIssues := tally.withIssues + 1
    found := tally.found ++ issues.map fun i => (categorize e i, entryOf path i) }

def reportEvery : Nat := 100

def visitAll (total : Nat) (number : Nat) (tally : Tally) : List Text → Script Tally
  | [] => pure tally
  | path :: rest => do
    if number % reportEvery == 0 then
      Script.print s!"  Processed {number}/{total} files... ({tally.withIssues} with issues)".toList
    visitAll total (number + 1) (← visit tally path) rest

def ofCategory (c : Category) (t : Tally) : List Text := sortedOnce ((t.found.filter (·.1 == c)).map (·.2))

def rule : Text := List.replicate 70 '='

def run (args : List Text) : Script Nat := do
  let fields ← Script.options commandLine args
  let list := ((Fields.get? fields "list").map Value.text).getD []
  Script.print ("Reading file list from ".toList ++ list ++ "...".toList)
  let lines := (Text.newlineLines (← Script.readText list)).map Text.trim
  let files := limited ((Fields.get? fields "limit").bind Value.int?) (lines.filter (!·.isEmpty))
  Script.print s!"Processing {files.length} files...".toList
  Script.print "Loading linter rules and plugins...".toList
  let tally ← visitAll files.length 1 {} files
  Script.print ("\nWriting results to ".toList ++ resultsFolder.toList ++ "...".toList)
  makeResults
  let results :=
    [ (bugsFile, bugsHeader, ofCategory .bug tally), (legacyFile, legacyHeader, ofCategory .legacy tally)
    , (doubtfulFile, doubtfulHeader, ofCategory .falsePositive tally) ]
  let filled := results.filter fun (_, _, entries) => !entries.isEmpty
  writeAll filled
  Script.printAll
    [ '\n' :: rule, "RESULTS".toList, rule, s!"Files processed: {tally.processed}".toList
    , s!"Files with issues: {tally.withIssues}".toList, []
    , s!"Confirmed bugs: {(ofCategory .bug tally).length}".toList
    , s!"Legacy code: {(ofCategory .legacy tally).length}".toList
    , s!"False positives: {(ofCategory .falsePositive tally).length}".toList, [] ]
  if filled.isEmpty then Script.print "No issues found - no output files created!".toList
  else
    Script.print ("Output files in ".toList ++ resultsFolder.toList ++ [':'])
    Script.printAll (filled.map fun (name, _, _) => "  - ".toList ++ resultsPath name.toList)
  return 0
where
  /-- Writes result files. -/
  writeAll : List (String × Text × List Text) → Script Unit
    | [] => pure ()
    | (name, header, entries) :: rest => do
      writeResults name header entries
      writeAll rest

end ProblemLint.Triage.Sweep
