import ProblemLint.Triage.Results

/-! A report on the result files: counts by check, by collection and by file. -/

namespace ProblemLint.Triage.Analysis

def line70 : Text := List.replicate 70 '='

def heading (title : String) : List Text := [line70, title.toList, line70]

/-- The collection that a file belongs to: the folder after a known one. -/
def collection (path : Text) : Text :=
  let steps := Text.splitOn '/' path
  let next := fun (folder : String) => ((steps.dropWhile (· != folder.toList)).drop 1).head?
  if steps.contains "Contrib".toList then
    match next "Contrib" with
    | some name => "Contrib/".toList ++ name
    | none => "Other".toList
  else
    match next "OpenProblemLibrary" with
    | some name => "OPL/".toList ++ name
    | none => "Other".toList

def checkLines (groups : List (Text × List Entry)) : List Text :=
  (largestFirst groups).flatMap fun (check, items) =>
    ['\n' :: check ++ s!": {items.length} issues".toList]
      ++ (items.take 5).map (fun e => "  - ".toList ++ Path.lastName e.file ++ ": ".toList ++ e.message)
      ++ (if items.length > 5 then [s!"  ... and {items.length - 5} more".toList] else [])

def collectionLines (entries : List Entry) : List Text :=
  (largestFirst (grouped (fun e => collection e.file) entries)).map fun (name, items) =>
    "  ".toList ++ name ++ s!": {items.length} bugs".toList

def variableLines (items : List Entry) : List Text :=
  let names := items.filterMap fun e => namedVariable? e.message
  "  Top variables flagged:".toList
    :: ((largestFirst (grouped (fun n => n) names)).take 10).map fun (name, uses) =>
      "    $".toList ++ name ++ s!": {uses.length} times".toList

def doubtfulLines (groups : List (Text × List Entry)) : List Text :=
  (largestFirst groups).flatMap fun (check, items) =>
    ('\n' :: check ++ s!": {items.length} issues".toList)
      :: if check == "pgml_blank_assignments".toList then variableLines items else []

def shortPath (path : Text) : Text :=
  let steps := Text.splitOn '/' path
  Text.join "/" (steps.drop (steps.length - 3))

/-- The files with more than one issue, ten at most. -/
def fileLines (groups : List (Text × List Entry)) : List Text :=
  ((largestFirst groups).take 10).flatMap (fun (path, items) =>
    ('\n' :: shortPath path ++ s!": {items.length} issues".toList)
      :: items.map fun e => "  [".toList ++ e.check ++ "] ".toList ++ e.message)
    ++ if groups.length > 10 then
        [s!"\n... and {groups.length - 10} more files with multiple issues".toList]
      else []

def fileCount (entries : List Text) : Nat := (byFile entries).length

/-- A part of a report, left out when there is nothing to say. -/
def part (title : String) (isThere : Bool) (lines : List Text) : List Text :=
  if isThere then heading title ++ lines ++ [[]] else []

def report (bugs legacy doubtful : List Text) : List Text :=
  let files := byFile (bugs ++ legacy ++ doubtful)
  let many := files.filter fun (_, items) => items.length > 1
  heading "PGML Linter Results Analysis" ++ [[]]
    ++ [ s!"Total issues flagged: {bugs.length + legacy.length + doubtful.length}".toList
       , s!"  Confirmed bugs: {bugs.length}".toList, s!"  Legacy code: {legacy.length}".toList
       , s!"  False positives: {doubtful.length}".toList, [] ]
    ++ part "CONFIRMED BUGS - By Plugin" (!bugs.isEmpty) (checkLines (byCheck bugs))
    ++ part "CONFIRMED BUGS - By Repository" (!bugs.isEmpty) (collectionLines (bugs.filterMap Entry.read?))
    ++ part "FALSE POSITIVES - By Type" (!doubtful.isEmpty) (doubtfulLines (byCheck doubtful))
    ++ part "FILES WITH MULTIPLE ISSUES" (!many.isEmpty) (fileLines many)
    ++ heading "SUMMARY"
    ++ [ s!"Files with confirmed bugs: {fileCount bugs}".toList
       , s!"Files with false positives: {fileCount doubtful}".toList
       , s!"Total unique files flagged: {files.length}".toList, [] ]
    ++ if bugs.isEmpty then []
      else
        [ "Action items:".toList
        , s!"  1. Fix {bugs.length} confirmed bugs in {fileCount bugs} files".toList
        , "  2. Review false positives to improve parser".toList ]

def run (_args : List Text) : Script Nat := do
  let bugs := entryLines (← readResults bugsFile)
  let legacy := entryLines (← readResults legacyFile)
  let doubtful := entryLines (← readResults doubtfulFile)
  Script.printAll (report bugs legacy doubtful)
  return 0

end ProblemLint.Triage.Analysis
