import ProblemLint.LintCommand

/-! The command line. A file is read from its path; for a folder, the paths of the files to choose from are
read from standard input, one a line. -/

namespace ProblemLint.Shell

def command : Text := "pgml-lint".toList

def printLines (lines : List Text) : IO Unit := lines.forM fun l => IO.println (String.ofList l)

partial def inputLines (input : IO.FS.Stream) (done : List Text) : IO (List Text) := do
  let line ← input.getLine
  if line.isEmpty then return done.reverse
  inputLines input (Text.trim line.toList :: done)

/-- The issues of a file, printed as they are found. -/
def checkFile (r : LintCommand.Request) (path : Text) : IO (List Issue) := do
  let bytes ← IO.FS.readBinFile (String.ofList path)
  match Utf8.readText bytes.toList with
  | .error f => throw (IO.userError (String.ofList (path ++ ": ".toList ++ f.message)))
  | .ok text =>
    match lint r.settings (some path) text with
    | .error _ => throw (IO.userError "malformed pattern")
    | .ok issues =>
      printLines (LintCommand.fileLines r path issues)
      return issues

def run (r : LintCommand.Request) : IO UInt32 := do
  IO.eprintln (String.ofList LintCommand.banner)
  let listed ← if r.file.isSome then pure [] else inputLines (← IO.getStdin) []
  let files := LintCommand.filesIn r (.ofFiles (listed.map fun path => (path, [])))
  printLines (LintCommand.openingLines r files.length)
  let issues := (← files.mapM (checkFile r)).flatten
  printLines (LintCommand.closing? r files.length issues).toList
  return (LintCommand.exitCode issues).toUInt32

end ProblemLint.Shell

def main (args : List String) : IO UInt32 := do
  match ProblemLint.LintCommand.request (args.map String.toList) with
  | .ok r => ProblemLint.Shell.run r
  | .error .help => do
    IO.println (String.ofList (ProblemLint.LintCommand.commandLine.help ProblemLint.Shell.command))
    return 0
  | .error .usage => do
    IO.eprintln (String.ofList (ProblemLint.LintCommand.commandLine.usage ProblemLint.Shell.command))
    return 2
