import ProblemLint.Text.Utf8
import ProblemLint.Text.Case

/-! Files in folders. A place is the list of names that leads to it from the top folder; a path is the text
that names a place, with `.` for the folder itself and `..` for the one above. -/

namespace ProblemLint

abbrev Place := List String

inductive FileError where
  | missing
  | isFolder
  | notFolder
  | alreadyThere
  deriving DecidableEq, Repr

/-- Files with their bytes, and the folders that were made, the top folder apart. -/
structure FileTree where
  files : List (Place × Bytes) := []
  folders : List Place := []

namespace FileTree

def bytes? (t : FileTree) (p : Place) : Option Bytes := (t.files.find? (·.1 == p)).map (·.2)

def hasFile (t : FileTree) (p : Place) : Bool := t.files.any (·.1 == p)

def hasFolder (t : FileTree) (p : Place) : Bool := p.isEmpty || t.folders.contains p

def above : Place → List Place
  | [] => []
  | name :: rest => if rest.isEmpty then [] else [name] :: (above rest).map (name :: ·)

def addFolder (t : FileTree) (p : Place) : FileTree :=
  if p.isEmpty then t
  else { t with folders := t.folders ++ (above p ++ [p]).filter (!t.folders.contains ·) }

/-- Puts a file in place of one that is there, or after the others, with the folders above it. -/
def add (t : FileTree) (p : Place) (bs : Bytes) : FileTree :=
  let t := t.addFolder p.dropLast
  if t.hasFile p then { t with files := t.files.map fun f => if f.1 == p then (p, bs) else f }
  else { t with files := t.files ++ [(p, bs)] }

def erase (t : FileTree) (p : Place) : FileTree :=
  ⟨t.files.filter (·.1 != p), t.folders.filter (· != p)⟩

def eraseFolder (t : FileTree) (p : Place) : FileTree :=
  ⟨t.files.filter (!p.isPrefixOf ·.1), t.folders.filter (!p.isPrefixOf ·)⟩

def names (t : FileTree) (p : Place) : List String :=
  let below := t.files.map (·.1) ++ t.folders
  sortedNames (below.filterMap fun q =>
    match p.isPrefixOf? q with
    | some [name] => some name
    | _ => none)

def below (t : FileTree) (p : Place) : List Place := t.files.filterMap fun f =>
  match p.isPrefixOf? f.1 with
  | some [] | none => none
  | some q => some q

/-- Follows names from a place; every name but the last has to lead to a folder. -/
def follow (t : FileTree) (p : Place) : List String → Except FileError Place
  | [] => .ok p
  | name :: rest =>
    if !t.hasFolder p then .error (if t.hasFile p then .notFolder else .missing)
    else if name == "" || name == "." then t.follow p rest
    else if name == ".." then t.follow p.dropLast rest
    else t.follow (p ++ [name]) rest

/-- The place that a path names, whether or not something is there. Absolute paths lead nowhere. -/
def resolve (t : FileTree) (path : Text) : Except FileError Place :=
  if path.isEmpty || path.head? == some '/' then .error .missing
  else t.follow [] ((Text.splitOn '/' path).map String.ofList)

def read (t : FileTree) (path : Text) : Except FileError Bytes := do
  let p ← t.resolve path
  match t.bytes? p with
  | some bs => .ok bs
  | none => .error (if t.hasFolder p then .isFolder else .missing)

def write (t : FileTree) (path : Text) (bs : Bytes) : Except FileError FileTree := do
  let p ← t.resolve path
  if t.hasFolder p then .error .isFolder
  else if !t.hasFolder p.dropLast then .error (if t.hasFile p.dropLast then .notFolder else .missing)
  else .ok (t.add p bs)

def isFile (t : FileTree) (path : Text) : Bool :=
  match t.resolve path with
  | .ok p => t.hasFile p
  | .error _ => false

def isFolder (t : FileTree) (path : Text) : Bool :=
  match t.resolve path with
  | .ok p => t.hasFolder p
  | .error _ => false

def isThere (t : FileTree) (path : Text) : Bool := t.isFile path || t.isFolder path

def placeOf (path : Text) : Place :=
  ((Text.splitOn '/' path).map String.ofList).filter fun name => name != "" && name != "."

def ofFiles (files : List (Text × Bytes)) : FileTree :=
  files.foldl (fun t (path, bs) => t.add (placeOf path) bs) {}

end FileTree

namespace Path

def join (folder name : Text) : Text :=
  if folder.isEmpty || folder.getLast? == some '/' then folder ++ name else folder ++ '/' :: name

def lastName (path : Text) : Text :=
  match Text.splitLast? '/' path with
  | some (_, name) => name
  | none => path

/-- The names of a path without `.`, and with each `..` taken back together with the name before it. A `..` that has no
name before it stays. -/
def names (path : Text) : Place :=
  ((Text.splitOn '/' path).map String.ofList).foldl (fun names name =>
    if name == "" || name == "." then names
    else if name == ".." && names.getLast?.any (· != "..") then names.dropLast
    else names ++ [name]) []

/-- What a name ends with from its last dot on; dots at its start do not count. -/
def ending (name : Text) : Text :=
  match Text.splitLast? '.' (name.dropWhile (· == '.')) with
  | some (_, e) => '.' :: e
  | none => []

end Path

namespace FileTree

/-- The paths of the files below a folder whose ending, in lower case, is one of `endings`, in code point order. -/
def search (t : FileTree) (folder : Text) (endings : List Text) : List Text :=
  match t.resolve folder with
  | .error _ => []
  | .ok p =>
    let found := (t.below p).filter fun q =>
      endings.contains (Text.lower (Path.ending ((q.getLast?).getD "").toList))
    let paths := found.map fun q => q.foldl (fun path name => Path.join path name.toList) folder
    paths.mergeSort Text.le

end FileTree
end ProblemLint
