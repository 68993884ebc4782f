import ProblemLint.Check.Standard
import ProblemLint.File.Tree
import ProblemLint.Value.Show

/-! The registry of checks. Entries are records that may come from outside, so an identifier need not be a text; the
registry knows an entry by the text of its identifier. -/

namespace ProblemLint

structure Entry where
  fields : Fields

namespace Entry

/-- The text of the identifier, by which the registry knows an entry. -/
def key (e : Entry) : String := ((Fields.get? e.fields "id").getD .null).display

/-- Whether the entry is on by default: only the truth value itself says so. -/
def isDefault (e : Entry) : Bool :=
  match Fields.get? e.fields "default_enabled" with
  | some (.bool true) => true
  | _ => false

def ofParts (id name : String) (enabled : Bool) : Entry :=
  ⟨[("id", .str id), ("name", .str name), ("default_enabled", .bool enabled)]⟩

def ofCheck (c : Check) : Entry := ofParts c.id c.title c.enabled

end Entry

inductive LoadError where
  | file (e : FileError)
  /-- A file that is there, but is not what its ending promises. -/
  | malformed
  deriving DecidableEq, Repr

inductive RegistryError where
  | duplicate (key : String)
  /-- A path whose ending is not that of a module. -/
  | unloadable (path : String)
  | notLoaded (e : LoadError)
  /-- A module, by the number of entries before it, without a required attribute. -/
  | missingAttribute (loaded : Nat) (name : String)
  /-- An entry that is on by default but has no identifier. -/
  | noIdentifier
  deriving DecidableEq, Repr

namespace RegistryError

def message? : RegistryError → Option String
  | .duplicate key => some ("Duplicate plugin id: " ++ key)
  | .unloadable path => some ("Unable to load plugin module: " ++ path)
  | .missingAttribute n a =>
    some ("module 'pgml_lint_plugin_" ++ toString n ++ "' has no attribute '" ++ a ++ "'")
  | .notLoaded _ | .noIdentifier => none

end RegistryError

structure EntryMap where
  pairs : List (String × Entry) := []

namespace EntryMap

def get? (m : EntryMap) (key : String) : Option Entry := m.pairs.lookup key

def keys (m : EntryMap) : List String := m.pairs.map (·.1)

def size (m : EntryMap) : Nat := m.pairs.length

def set (m : EntryMap) (key : String) (e : Entry) : EntryMap :=
  if (m.get? key).isSome then ⟨m.pairs.map fun p => if p.1 == key then (key, e) else p⟩
  else ⟨m.pairs ++ [(key, e)]⟩

end EntryMap

structure Registry where
  known : EntryMap := {}
  order : List String := []

/-- An action on a registry that may be refused; what was done before a refusal stays done. -/
abbrev Registering := ExceptT RegistryError (StateM Registry)

namespace Registering

def outcome (a : Registering Unit) (r : Registry) : Except RegistryError Unit × Registry :=
  StateT.run (ExceptT.run a) r

def result (a : Registering Unit) (r : Registry) : Except RegistryError Registry :=
  match a.outcome r with
  | (.ok _, r') => .ok r'
  | (.error e, _) => .error e

def add (e : Entry) : Registering Unit := do
  if ((← get).known.get? e.key).isSome then throw (.duplicate e.key)
  modify fun r => { r with known := r.known.set e.key e }
  modify fun r => { r with order := r.order ++ [e.key] }

def required (attributes : Fields) (name : String) : Registering Value := do
  match Fields.get? attributes name with
  | some v => return v
  | none => throw (.missingAttribute (← get).known.size name)

/-- Adds a module by its attributes, in the order in which they are read. Being on by default may be left out. -/
def addModule (attributes : Fields) : Registering Unit := do
  let id ← required attributes "PLUGIN_ID"
  let name ← required attributes "PLUGIN_NAME"
  let _ ← required attributes "run"
  let enabled := ((Fields.get? attributes "DEFAULT_ENABLED").map Value.truthy).getD true
  add (.ofParts id.display name.display enabled)

def moduleEndings : List String := [".so", ".py", ".pyc"]

def isModulePath (path : Text) : Bool :=
  (Path.names path).getLast?.any fun name => moduleEndings.any (Text.endsWith name.toList)

/-- Adds the module at a path; `found` is what the file there defines, or why it defines nothing. -/
def addFrom (path : String) (found : Except LoadError Fields) : Registering Unit :=
  if isModulePath path.toList then
    match found with
    | .ok attributes => addModule attributes
    | .error e => throw (.notLoaded e)
  else throw (.unloadable path)

end Registering

namespace Registry

def entries (r : Registry) : List Entry := r.order.filterMap r.known.get?

def register (r : Registry) (e : Entry) : Except RegistryError Registry := (Registering.add e).result r

def load (r : Registry) (path : String) (found : Except LoadError Fields) : Except RegistryError Registry :=
  (Registering.addFrom path found).result r

def standard : Registry :=
  (Check.standard.foldlM (fun r c => register r (.ofCheck c)) {}).toOption.getD {}

/-- The identifiers that are on by default. Those that are no texts count, but match no key. -/
def defaults (r : Registry) : Except RegistryError (List Value) :=
  (r.entries.filter (·.isDefault)).mapM fun e =>
    match Fields.get? e.fields "id" with
    | some id => .ok id
    | none => .error .noIdentifier

/-- The chosen entries in registration order: those of `only`, or if that is empty the default ones and those of
`enable`; in both cases without those of `disable`. -/
def resolve (r : Registry) (only enable disable : List String) : Except RegistryError (List Entry) := do
  let chosen ←
    if only.isEmpty then do
      let ids ← r.defaults
      .ok (ids.filterMap Value.str? ++ enable)
    else .ok only
  let enabled := chosen.filter fun k => !disable.contains k
  .ok ((r.order.filter fun k => enabled.contains k).filterMap r.known.get?)

end Registry

def Check.select (only enable disable : List String) : List Check :=
  match Registry.standard.resolve only enable disable with
  | .ok entries => entries.filterMap fun e => Check.ofId? e.key
  | .error _ => []

end ProblemLint
