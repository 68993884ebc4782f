import ProblemLint.Pattern.Template
import ProblemLint.Host
import ProblemLint.Toml

/-! The project file and the version file of a package. -/

namespace ProblemLint.Release

def projectFile (folder : Text) : Text := Path.join folder "pyproject.toml".toList

def versionFile (folder : Text) : Text := Path.join folder "VERSION".toList

def findProjectFile (folder : Text) : Script Text := do
  let path := projectFile folder
  if ← Script.isFile path then return path
  else throw (.refused ("pyproject.toml not found: ".toList ++ path))

def readProject (path : Text) : Script Fields := do
  match Utf8.decode (← Script.readBytes path) with
  | .error f => throw (.bytes f)
  | .ok t =>
    match Toml.read? t with
    | some data => return data
    | none => throw .malformed

inductive DataError where
  | noRecord
  deriving DecidableEq, Repr

def table (data : Value) (name : String) : Except DataError Value :=
  match data with
  | .record fs => .ok ((Fields.get? fs name).getD (.record []))
  | _ => .error .noRecord

def said? (data : Value) (name : String) : Except DataError (Option Text) :=
  match data with
  | .record fs => .ok (((Fields.get? fs name).filter Value.truthy).map Value.text)
  | _ => .error .noRecord

def nameAndVersion (data : Value) : Except DataError (Option Text × Option Text) := do
  if data.truthy then return (← said? data "name", ← said? data "version") else return (none, none)

/-- Name and version of a package: those of the table `project` if it gives one of them, else those of the
table `poetry` among the tools. -/
def metadata (data : Value) : Except DataError (Option Text × Option Text) := do
  match ← nameAndVersion (← table data "project") with
  | (none, none) => nameAndVersion (← table (← table data "tool") "poetry")
  | found => return found

def requiredLanguage (data : Value) : Except DataError Text := do
  match ← table data "project" with
  | .record fs => return Text.trim (((Fields.get? fs "requires-python").map Value.text).getD [])
  | _ => throw .noRecord

/-- The version that a folder's project file gives. A missing or malformed file, or an empty version, gives the word
`unknown`. -/
def projectVersion (folder : Text) : Script Text := do
  match (← get).bytes (projectFile folder) with
  | .error _ => return "unknown".toList
  | .ok bs =>
    match Utf8.decode bs with
    | .error f => throw (.bytes f)
    | .ok t =>
      match Toml.read? t with
      | none => return "unknown".toList
      | some data =>
        match table (.record data) "project" with
        | .ok (.record fs) =>
          let version := Text.trim (((Fields.get? fs "version").map Value.text).getD [])
          return if version.isEmpty then "unknown".toList else version
        | _ => throw .noRecord

def packageName (name : Option Text) : Script Text :=
  match name.filter (!·.isEmpty) with
  | some name => pure name
  | none => throw (.refused "Package name not found in pyproject.toml.".toList)

def packageVersion (version : Option Text) : Script Text :=
  match version.filter (!·.isEmpty) with
  | some version => pure version
  | none => throw (.refused "Package version not found in pyproject.toml.".toList)

/-- The name by which a package is imported: the given one, or the package's with underscores for dashes and
points. -/
def importName (given package : Text) : Text :=
  let name := Text.trim given
  if name.isEmpty then package.map fun c => if c == '-' || c == '.' then '_' else c else name

def readVersionFile (folder : Text) : Script Text := do
  let path := versionFile folder
  if ← Script.isFile path then return Text.trim (← Script.readText path)
  else throw (.refused ("VERSION file not found at repo root: ".toList ++ path))

def verifySameVersion (project file : Text) : Script Unit :=
  if project == file then pure ()
  else throw (.refused ("VERSION does not match pyproject.toml: ".toList ++ file ++ " != ".toList ++ project))

def indexAddress (repository : Text) : String :=
  if repository == "pypi".toList then "https://pypi.org/simple/" else "https://test.pypi.org/simple/"

/-! ### Setting the version -/

/-- What follows a version assignment at the start of a text: the word, an equals sign and a quoted text
that is not empty, with blanks between them. -/
def afterAssignment? (t : Text) : Option Text := do
  let r ← Text.after? "version".toList t
  match r.dropWhile Text.isBlank with
  | '=' :: r =>
    match r.dropWhile Text.isBlank with
    | '"' :: r =>
      match r.takeWhile (· != '"'), r.dropWhile (· != '"') with
      | _ :: _, '"' :: r => some r
      | _, _ => none
    | _ => none
  | _ => none

def assignment (version : Text) : Text := "version = \"".toList ++ version ++ ['"']

def setVersion? (replacement : Text → Text) (lineStart : Bool) : Text → Option Text
  | [] => none
  | c :: r =>
    match if lineStart then afterAssignment? (c :: r) else none with
    | some rest => some (replacement ((c :: r).take (r.length + 1 - rest.length)) ++ rest)
    | none => (setVersion? replacement (c == '\n') r).map (c :: ·)

/-- Writes a version to the version file, unless it says so already. -/
def markVersion (folder version : Text) : Script Unit := do
  let path := versionFile folder
  let current ← if ← Script.isFile path then pure (Text.trim (← Script.readText path)) else pure []
  if current != version then Script.writeText path (version ++ ['\n'])

def assignVersion (folder version : Text) : Script Unit := do
  let path ← findProjectFile folder
  let contents ← Script.readText path
  let template ← match Pattern.Template.read (assignment version) with
    | .ok ps => pure ps
    | .error e => throw (.pattern e)
  match setVersion? (Pattern.Template.fill template) true contents with
  | none => throw (.refused "Unable to update version in pyproject.toml.".toList)
  | some updated => if updated != contents then Script.writeText path updated

def updateVersion (folder version : Text) : Script Unit := do
  markVersion folder version
  assignVersion folder version

end ProblemLint.Release
