import ProblemLint.Triage.Results

/-! One file of confirmed bugs for every check, and one of the variables that are often flagged without need. -/

namespace ProblemLint.Triage.ByCheck

/-- An entry with its line number, which is a question mark when the entry gives none. -/
structure Located where
  file : Text
  line : Text
  check : Text
  message : Text
  full : Text

def Located.read? (entry : Text) : Option Located := do
  let (place, check, message) ← split? entry
  let (file, line) := (Text.splitLast? ':' place).getD (place, ['?'])
  some ⟨file, line, check, message, entry⟩

def read (contents : Text) : List Located := (entryLines contents).filterMap Located.read?

def fileName (check : Text) : Text := "bugs_".toList ++ check ++ ".txt".toList

def filesOf (items : List Located) : List Text := sortedOnce (items.map (·.file))

def bugText (check : Text) (items : List Located) : Text :=
  let files := filesOf items
  asLines
    ([ "# Confirmed bugs: ".toList ++ check, s!"# Total: {items.length} issues".toList, ['#']
     , "# Test these files in WeBWorK renderer to verify they fail".toList, ['#'], []
     , s!"# {files.length} unique files:".toList, [] ]
      ++ files.flatMap fun file =>
        [file] ++ ((items.filter (·.file == file)).map fun i =>
          "  Line ".toList ++ i.line ++ ": ".toList ++ i.message) ++ [[]])

def flaggedNames (doubtful : List Located) : List (Text × List Text) :=
  let uses := (doubtful.filter (·.check == "pgml_blank_assignments".toList)).filterMap fun i =>
    (namedVariable? i.message).map fun name => (name, i.file)
  (grouped (·.1) uses).map fun (name, uses) => (name, uses.map (·.2))

def variableText (doubtful : List Located) : Text :=
  asLines
    ([ "# Common false positive variables".toList
     , "# These are variables flagged as missing but likely use list assignment or loops".toList, ['#']
     , "# Test a few of these in WeBWorK to confirm they render correctly".toList, [] ]
      ++ ((largestFirst (flaggedNames doubtful)).take 20).flatMap fun (name, files) =>
        [[], '$' :: name ++ s!": {files.length} occurrences".toList]
          ++ (files.take 3).map ("  ".toList ++ ·)
          ++ (if files.length > 3 then [s!"  ... and {files.length - 3} more".toList] else []))

def variableFile : Text := "false_positives_common_vars.txt".toList

def writeGroups : List (Text × List Located) → Script Unit
  | [] => pure ()
  | (check, items) :: rest => do
    let path := resultsPath (fileName check)
    Script.writeText path (bugText check items)
    Script.print ("Created ".toList ++ path
      ++ s!" ({items.length} issues in {(filesOf items).length} files)".toList)
    writeGroups rest

def run (_args : List Text) : Script Nat := do
  let bugs := read (← readResults bugsFile)
  let doubtful := read (← readResults doubtfulFile)
  let groups := grouped (·.check) bugs
  makeResults
  writeGroups groups
  let path := resultsPath variableFile
  Script.writeText path (variableText doubtful)
  Script.print ("Created ".toList ++ path ++ " (top 20 variables)".toList)
  Script.print ("\nCreated files in ".toList ++ resultsFolder.toList ++ " for manual testing:".toList)
  Script.printAll (groups.map fun (check, _) => "  ".toList ++ resultsPath (fileName check))
  Script.print ("  ".toList ++ path)
  return 0

end ProblemLint.Triage.ByCheck
