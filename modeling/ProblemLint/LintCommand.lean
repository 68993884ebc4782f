import ProblemLint.Host
import ProblemLint.Value.Writer

/-! The command `pgml-lint`: checks one file or all problem files below a folder, prints their issues and a
summary, and ends with code 1 when there are errors. -/

namespace ProblemLint.LintCommand

def version : String := "26.01b1"

def banner : Text := ("pgml-lint " ++ version).toList

def commandLine : CommandLine where
  about := "Check WeBWorK .pg files for common PGML errors."
  options :=
    [ { names := ["-i", "--input"], key := "input", effect := .text, rivals := ["directory"],
        valueName := "INPUT_FILE", about := some "Check a single .pg file." }
    , { names := ["-d", "--directory"], key := "directory", effect := .text, rivals := ["input"],
        valueName := "INPUT_DIR", about := some "Check all .pg files in a directory." }
    , { names := ["-v", "--verbose"], key := "verbose", effect := .turn true, initial := .bool false,
        rivals := ["quiet"], about := some "Show more details." }
    , { names := ["-q", "--quiet"], key := "quiet", effect := .turn true, initial := .bool false,
        rivals := ["verbose"], about := some "Only show problems, no summary." }
    , { names := ["--json"], key := "json", effect := .turn true, initial := .bool false }
    , { names := ["-p", "--pg-version"], key := "version", effect := .text, valueName := "PG_VERSION",
        about := some "Target PG version for versioned rules (default: 2.17)." } ]

structure Request where
  file : Option Text
  folder : Text
  verbose : Bool
  quiet : Bool
  json : Bool
  version : Option Text

namespace Request

def text? (fs : Fields) (key : String) : Option Text :=
  match Fields.get? fs key with
  | some (.str s) => some s.toList
  | _ => none

def isOn (fs : Fields) (key : String) : Bool := ((Fields.get? fs key).map Value.truthy).getD false

/-- Without a file and a folder the current folder is meant; empty names count as none. -/
def ofFields (fs : Fields) : Request where
  file := (text? fs "input").filter (!·.isEmpty)
  folder := ((text? fs "directory").filter (!·.isEmpty)).getD ['.']
  verbose := isOn fs "verbose"
  quiet := isOn fs "quiet"
  json := isOn fs "json"
  version := text? fs "version"

def settings (r : Request) : Settings := { checks := Check.select [] [] [], version := r.version }

end Request

def fileLines (r : Request) (path : Text) (issues : List Issue) : List Text :=
  if r.json then [] else issues.map (·.format path r.verbose)

/-- The lines that open a report; `count` is how many files were found below the folder. -/
def openingLines (r : Request) (count : Nat) : List Text :=
  if !r.verbose then []
  else
    ("Active checks: ".toList ++ Text.join ", " (r.settings.checks.map (·.id.toList)))
      :: if r.file.isSome then [] else [s!"Checking {count} files in ".toList ++ r.folder]

def summaryValue (count : Nat) (issues : List Issue) : Value :=
  let (errors, warnings) := Issue.summary issues
  .record [("files_checked", .int count), ("errors", .int errors), ("warnings", .int warnings),
    ("issues", .list (issues.map (.record ·.fields)))]

def closing? (r : Request) (count : Nat) (issues : List Issue) : Option Text :=
  let (errors, warnings) := Issue.summary issues
  if r.json then some ((summaryValue count issues).indented 0)
  else if r.quiet then none
  else if !issues.isEmpty then some s!"Found {errors} errors and {warnings} warnings.".toList
  else if r.verbose then some s!"No issues found in {count} files.".toList
  else none

def problemEndings : List Text := [".pg".toList]

def filesIn (r : Request) (t : FileTree) : List Text :=
  match r.file with
  | some path => [path]
  | none => t.search r.folder problemEndings

def exitCode (issues : List Issue) : Nat := if (Issue.summary issues).1 > 0 then 1 else 0

def request (args : List Text) : Except Refusal Request := (commandLine.read args).map .ofFields

def checkFiles (r : Request) : List Text → Script (List Issue)
  | [] => pure []
  | path :: rest => do
    let issues ← Script.lintFile r.settings path
    Script.printAll (fileLines r path issues)
    return issues ++ (← checkFiles r rest)

def check (r : Request) : Script Nat := do
  let files := filesIn r (← get).tree
  Script.printAll (openingLines r files.length)
  let issues ← checkFiles r files
  Script.printAll (closing? r files.length issues).toList
  return exitCode issues

def run (args : List Text) : Script Nat := do
  let fields ← Script.options commandLine args
  Script.note banner
  check (.ofFields fields)

end ProblemLint.LintCommand
