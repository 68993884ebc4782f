import ProblemLint.Changelog.Repository
import ProblemLint.Changelog.Message
import ProblemLint.Text.ShellWords

/-! Writing a commit message to a file and having it edited. -/

namespace ProblemLint.Changelog

/-- The command that opens an editor: the first of two variables that is set and not empty, or a standard one. -/
def editorCommand : Script (List Text) := do
  let chosen := [← Script.setting? "GIT_EDITOR", ← Script.setting? "EDITOR"].filterMap fun v =>
    v.filter (!·.isEmpty)
  match Text.shellWords ((chosen.head?).getD "nano".toList) with
  | .ok words => return words
  | .error e => throw (.unreadable e.message.toList)

def editFile (path : Text) : Script Int := do return (← Script.run ((← editorCommand) ++ [path])).code

def messageHints : Text :=
  "# Save and exit to use this message.\n# You will confirm the commit after editing.\n".toList

def writeMessage (seed : Text) (withComments : Bool) : Script Text := do
  let text := seed ++ ['\n']
  let text ← if withComments then pure (text ++ messageHints ++ (← currentStatusBlock)) else pure text
  Script.writeText Host.scratchPath text
  return Host.scratchPath

def abort (reason : String) : Script (Option Text) := do
  Script.note reason.toList
  Script.removeScratch
  return none

/-- Has a message edited; nothing comes of it when the editor fails or the message is empty. -/
def editMessage (seed : Text) : Script (Option Text) := do
  let path ← writeMessage seed true
  let code ← editFile path
  if code != 0 then abort "Editor exited non-zero. Aborting."
  else
    let edited := withoutComments (← Script.readText path)
    if edited.isEmpty then abort "Empty commit message. Aborting."
    else
      Script.writeText path (edited ++ ['\n'])
      return some path

def commit (path : Text) : Script Int := do
  return (← Script.run (["git", "commit", "-a", "-F"].map String.toList ++ [path])).code

end ProblemLint.Changelog
