import ProblemLint.Issue

/-! Entries of result files, one a line: the path of a file, a line number, the name of a check in brackets,
and a message. -/

namespace ProblemLint.Triage

def entryOf (path : Text) (i : Issue) : Text :=
  let line := ((i.get? "line").map Value.text).getD ['?']
  let check := ((i.get? "plugin").map Value.text).getD "unknown".toList
  path ++ ':' :: line ++ " [".toList ++ check ++ "] ".toList ++ i.message

structure Entry where
  file : Text
  check : Text
  message : Text
  full : Text

def split? (entry : Text) : Option (Text × Text × Text) := do
  let (place, rest) ← Text.splitFirst? '[' entry
  let (check, message) ← Text.splitFirst? ']' rest
  some (Text.dropEndWhile (· == ':') (Text.trim place), Text.trim check, Text.trim message)

def Entry.read? (entry : Text) : Option Entry := do
  let (place, check, message) ← split? entry
  let file := match Text.splitLast? ':' place with
    | some (file, _) => file
    | none => place
  some ⟨file, check, message, entry⟩

/-- The lines of a result file that hold entries: those that are neither empty nor comments. -/
def entryLines (contents : Text) : List Text :=
  ((Text.newlineLines contents).map Text.trim).filter fun l => !l.isEmpty && l.head? != some '#'

/-- Values with the same key together, in the order in which keys first occur. -/
def grouped {α : Type} (key : α → Text) : List α → List (Text × List α) :=
  List.foldl (fun groups a => add (key a) a groups) []
where
  /-- Adds a value to the group of its key. -/
  add (k : Text) (a : α) : List (Text × List α) → List (Text × List α)
    | [] => [(k, [a])]
    | (k', as) :: rest => if k == k' then (k', as ++ [a]) :: rest else (k', as) :: add k a rest

def byCheck (entries : List Text) : List (Text × List Entry) := grouped Entry.check (entries.filterMap Entry.read?)

def byFile (entries : List Text) : List (Text × List Entry) := grouped Entry.file (entries.filterMap Entry.read?)

def sorted (ts : List Text) : List Text := ts.mergeSort Text.le

def sortedOnce (ts : List Text) : List Text := (sorted ts).eraseReps

/-- Groups by size, the largest first; those of one size keep their order. -/
def largestFirst {α : Type} (groups : List (Text × List α)) : List (Text × List α) :=
  groups.mergeSort fun a b => b.2.length ≤ a.2.length

end ProblemLint.Triage
