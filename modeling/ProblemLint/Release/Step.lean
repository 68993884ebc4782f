import ProblemLint.Release.Project

/-! The steps of a release: commands that must succeed, checks of the repository, and the files that are built. -/

namespace ProblemLint.Release

def commandLine : CommandLine where
  about := "Build and upload a Python package to PyPI or TestPyPI."
  options :=
    [ { names := ["-r", "--repo"], key := "repo", effect := .oneOf ["testpypi", "pypi"], initial := .str "testpypi",
        about := some "Repository target (default: testpypi).", heading := "repository" }
    , { names := ["--version-check"], key := "check_only", effect := .turn true, initial := .bool false,
        about := some "Check if the version exists on the index and exit.", heading := "behavior" }
    , { names := ["--build-only"], key := "build_only", effect := .turn true, initial := .bool false,
        about := some "Run all build steps but skip upload and test install.", heading := "behavior" }
    , { names := ["--set-version"], key := "set_version", effect := .text, initial := .str "",
        valueName := "SET_VERSION", about := some "Update VERSION and pyproject.toml, then tag and push.",
        heading := "behavior" } ]

def parseArgs (args : List Text) : Script Fields := Script.options commandLine args

/-! ### Commands -/

def attempt (folder : Text) (command : List Text) : Script Reply := Script.runIn folder command

def attemptWords (folder : Text) (command : List String) : Script Reply := attempt folder (command.map String.toList)

def perform (folder : Text) (command : List Text) : Script Reply := do
  let r ← attempt folder command
  if r.code != 0 then throw (.refused ("Command failed: ".toList ++ Text.join " " command))
  return r

def performWords (folder : Text) (command : List String) : Script Unit := do
  let _ ← perform folder (command.map String.toList)

def performLogged (folder : Text) (command : List Text) (log : Text) : Script Reply := do
  let line := Text.join " " command
  Script.appendText log ("$ ".toList ++ line ++ ['\n'])
  let r ← attempt folder command
  Script.appendText log (r.stderr ++ r.stdout)
  if r.code != 0 then
    throw (.refused ("Command failed (see ".toList ++ log ++ "): ".toList ++ line))
  return r

/-- Runs a command whose failure has a message of its own, and gives what it says. -/
def ask (folder : Text) (command : List String) (otherwise : String) : Script Text := do
  let r ← attemptWords folder command
  if r.code != 0 then throw (.refused otherwise.toList)
  return Text.trim r.outText

/-! ### The repository -/

def statusCommand : List String := ["git", "status", "--porcelain", "--untracked-files=no"]

def requireClean (folder : Text) : Script Unit := do
  let status ← ask folder statusCommand "Unable to check git status. Is git installed?"
  if !status.isEmpty then
    let sample := Text.join "\n" ((Text.lineTexts status).take 5)
    throw (.refused ("Working tree has tracked changes. Commit or stash before release.\n".toList ++ sample))

def requireMainBranch (folder : Text) : Script Unit := do
  let branch ← ask folder ["git", "rev-parse", "--abbrev-ref", "HEAD"] "Unable to determine current git branch."
  if branch != "main".toList then
    throw (.refused ("Release must be cut from main. Current branch: ".toList ++ branch))

def tagName (version : Text) : String := "v" ++ String.ofList version

def hasTag (folder version : Text) : Script Bool := do
  return !(← ask folder ["git", "tag", "--list", tagName version] "Unable to check git tags.").isEmpty

def requireTag (folder version : Text) : Script Unit := do
  if !(← hasTag folder version) then
    let tag := tagName version
    throw (.refused (("Missing version tag. Create it with:\ngit tag -a " ++ tag ++ " -m \"Release " ++ tag
      ++ "\"\ngit push origin " ++ tag).toList))

def requireUploader (program folder : Text) : Script Unit := do
  let r ← attempt folder (program :: ["-m", "twine", "--version"].map String.toList)
  if r.code != 0 then
    throw (.refused "twine is not available. Install it with: python -m pip install twine".toList)

def readCount (t : Text) : Script Int :=
  match Issue.readLine t with
  | .ok n => pure n
  | .error e => throw (.unreadable e.message.toList)

def requireUpToDate (folder : Text) : Script Unit := do
  let _ ← ask folder ["git", "fetch", "origin", "main"] "Unable to fetch origin/main for sync check."
  let counts ← ask folder ["git", "rev-list", "--left-right", "--count", "HEAD...origin/main"]
    "Unable to compare HEAD with origin/main."
  match Text.words counts with
  | [ahead, behind] =>
    let ahead ← readCount ahead
    let behind ← readCount behind
    if ahead == 0 && behind == 0 then return
    throw (.refused (advice ahead behind).toList)
  | _ => throw (.refused "Unexpected rev-list output when comparing to origin/main.".toList)
where
  /-- What to do when the branch and the remote one differ. -/
  advice (ahead behind : Int) : String :=
    if ahead > 0 && behind == 0 then
      "Local main has commits not pushed to origin/main. Run: git push origin main"
    else if behind > 0 && ahead == 0 then
      "Local main is behind origin/main. Run: git pull --ff-only origin main"
    else "Local main has diverged from origin/main. Run: git pull --rebase origin main"

def hasTrackedChanges (folder : Text) : Script Bool := do
  return !(← ask folder statusCommand "Unable to check git status.").isEmpty

def commitVersion (folder version : Text) : Script Bool := do
  performWords folder ["git", "add", "VERSION", "pyproject.toml"]
  if !(← hasTrackedChanges folder) then
    Script.print "Version files already match; skipping commit.".toList
    return false
  performWords folder ["git", "commit", "-m", "Bump version to " ++ String.ofList version]
  return true

/-- Tags a version, unless it has its tag, and pushes. -/
def tagAndPush (folder version : Text) (pushMain : Bool) : Script Unit := do
  let tag := tagName version
  if !(← hasTag folder version) then performWords folder ["git", "tag", "-a", tag, "-m", "Release " ++ tag]
  if pushMain then performWords folder ["git", "push", "origin", "main"]
  performWords folder ["git", "push", "origin", tag]

/-! ### Built files -/

def pathSteps (path : Text) : List Text := (Text.splitOn '/' path).filter fun s => !s.isEmpty && s != ['.']

def tidyJoin (folder : Text) (name : String) : Text := Text.join "/" (pathSteps folder ++ [name.toList])

/-- The files of a folder, by their paths in code point order; none when the folder is not there. -/
def builtFiles (folder : Text) : Script (List Text) := do
  let h ← get
  let path := if folder.isEmpty then ['.'] else folder
  if !h.tree.isThere path then return []
  let p ← Script.ofFile (h.tree.resolve path)
  if !h.tree.hasFolder p then throw (.file .notFolder)
  return ((h.tree.names p).filter fun name => h.tree.hasFile (p ++ [name])).map (tidyJoin folder)

def verifyBuilt (folder : Text) : Script Unit := do
  let files ← builtFiles folder
  if !(files.any (Text.endsWith · ".whl") && files.any (Text.endsWith · ".tar.gz")) then
    throw (.refused "dist/ is missing a .whl or .tar.gz file.".toList)

def builtArguments (folder : Text) : Script (List Text) := do
  let files ← builtFiles folder
  if files.isEmpty then throw (.refused "No distribution files found in dist/.".toList)
  return files

def requireNothingBuilt (folder : Text) : Script Unit := do
  let h ← get
  let built := Path.join folder "dist".toList
  if h.tree.isFolder built then
    let p ← Script.ofFile (h.tree.resolve built)
    let names := (h.tree.names p).filter fun n => !n.startsWith "."
    if !names.isEmpty then
      throw (.refused (("dist/ is not empty after cleaning: " ++ ", ".intercalate names).toList))

def removeFolder (path : Text) : Script Unit := do
  let h ← get
  if h.tree.isFolder path then
    let p ← Script.ofFile (h.tree.resolve path)
    set { h with tree := h.tree.eraseFolder p }

/-- Takes away what earlier builds left: two folders and everything whose name marks it as package data. -/
def clean (folder : Text) : Script Unit := do
  removeFolder (Path.join folder "build".toList)
  removeFolder (Path.join folder "dist".toList)
  let h ← get
  let p ← Script.ofFile (h.tree.resolve (if folder.isEmpty then ['.'] else folder))
  if !h.tree.hasFolder p then throw (.file (if h.tree.hasFile p then .notFolder else .missing))
  let left := (h.tree.names p).filter (·.endsWith ".egg-info")
  set { h with tree := left.foldl (fun t name => t.eraseFolder (p ++ [name])) h.tree }

def upgradeTools (program folder : Text) : Script Unit := do
  let install := fun (packages : List String) =>
    perform folder (program :: (["-m", "pip", "install", "--upgrade"] ++ packages).map String.toList)
  let _ ← install ["pip"]
  let _ ← install ["setuptools", "wheel", "build", "twine", "packaging"]

def environmentProgram (folder : Text) : Text := Path.join (Path.join folder "bin".toList) "python".toList

def openPage (address : Text) : Script Unit := do
  let opener := "xdg-open".toList
  if address.isEmpty then Script.print "No project URL to open.".toList
  else if ((← get).program? ['.'] opener).isNone then
    Script.print "No browser opener found. Skipping.".toList
  else
    let r ← attempt ['.'] [opener, address]
    if r.code != 0 then Script.print "Browser open command failed.".toList

end ProblemLint.Release
