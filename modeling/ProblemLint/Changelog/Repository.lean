import ProblemLint.Host

/-! Questions to git about the repository. -/

namespace ProblemLint.Changelog

def runGit (args : List String) : Script Reply := Script.run ("git".toList :: args.map String.toList)

def complaint (r : Reply) (otherwise : Text) : Text :=
  let said := Text.trim r.errText
  if said.isEmpty then otherwise else said

def root : Script Text := do
  let r ← runGit ["rev-parse", "--show-toplevel"]
  if r.code != 0 then throw (.refused "Unable to determine git repository root.".toList)
  let path := Text.trim r.outText
  if path.isEmpty then throw (.refused "Git repository root is empty.".toList)
  return path

def statusLines : Script (List Text) := do
  let r ← runGit ["status", "--porcelain=1"]
  if r.code != 0 then throw (.refused (complaint r "git status failed.".toList))
  return Text.filledLines r.outText

/-- The path of a status line for a file that git does not follow. -/
def untracked? (line : Text) : Option Text := Text.after? "?? ".toList line

def untrackedFiles : Script (List Text) := do return (← statusLines).filterMap untracked?

def unmergedPaths : Script (List Text) := do
  let r ← runGit ["diff", "--name-only", "--diff-filter=U"]
  if r.code != 0 then throw (.refused (complaint r "git diff failed.".toList))
  return Text.filledLines r.outText

def ensureInside : Script Unit := do
  let r ← runGit ["rev-parse", "--is-inside-work-tree"]
  if r.code != 0 then throw (.refused "Not inside a git repository.".toList)
  if Text.trim r.outText != "true".toList then throw (.refused "Not inside a git work tree.".toList)

def diff (path : Text) : Script Text := do
  let r ← Script.run (["git", "diff", "--no-color", "--unified=0", "--"].map String.toList ++ [path])
  if r.code != 0 then throw (.refused (complaint r ("git diff failed for ".toList ++ path)))
  return Text.trim r.outText

/-! ### Status as comments -/

def statusLabel (code : Text) : String :=
  match code with
  | ['A'] => "new file"
  | ['D'] => "deleted"
  | ['R'] => "renamed"
  | ['C'] => "copied"
  | ['U'] => "unmerged"
  | _ => "modified"

def statusEntry (code path : Text) : Text := (statusLabel code).toList ++ ": ".toList ++ path

def saysNothing (code : Char) : Bool := code == ' ' || code == '?'

/-- The code and the path of a status line for a changed file: the code of the work tree, or if that says nothing
the one of the index. -/
def changed? (line : Text) : Option (Char × Text) :=
  match line with
  | index :: tree :: _ :: path =>
    let code := if saysNothing tree then index else tree
    if saysNothing code then none else some (code, path)
  | _ => none

def firstOfPath (seen : List Text) : List (Char × Text) → List (Char × Text)
  | [] => []
  | (code, path) :: rest =>
    if seen.contains path then firstOfPath seen rest else (code, path) :: firstOfPath (path :: seen) rest

def asComment (entry : Text) : Text := '#' :: '\t' :: entry

def trackedComments (lines : List Text) : List Text :=
  (firstOfPath [] ((lines.filter fun l => (untracked? l).isNone).filterMap changed?)).map fun x =>
    asComment (statusEntry [x.1] x.2)

def untrackedComments (lines : List Text) : List Text := (lines.filterMap untracked?).map asComment

/-- Lines below a title; without lines there is no title. -/
def titled (title : List Text) (lines : List Text) : List Text := if lines.isEmpty then [] else title ++ lines

def statusComments (lines : List Text) : List Text :=
  ['#'] :: (titled ["# Changes to be committed:".toList] (trackedComments lines)
    ++ titled [['#'], "# Untracked files:".toList] (untrackedComments lines))

def statusBlock (lines : List Text) : Text :=
  if lines.isEmpty then [] else Text.trimEnd (Text.join "\n" (statusComments lines)) ++ ['\n']

def currentStatusBlock : Script Text := do return statusBlock (← statusLines)

end ProblemLint.Changelog
