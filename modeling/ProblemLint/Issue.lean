import ProblemLint.Value.Show
import ProblemLint.Text.Lines
import ProblemLint.Version

/-! Issues: what a check reports. An issue is a record of fields; the fields `severity`, `message`, `line`,
`column`, `plugin` and `excerpt` have a meaning here, others are carried along. -/

namespace ProblemLint

inductive Severity where
  | error
  | warning
  deriving DecidableEq, Repr

namespace Severity

def name : Severity → String
  | .error => "ERROR"
  | .warning => "WARNING"

end Severity

structure Issue where
  fields : Fields
  deriving Inhabited

namespace Issue

def get? (i : Issue) (key : String) : Option Value := Fields.get? i.fields key

def set (i : Issue) (key : String) (v : Value) : Issue := ⟨Fields.set i.fields key v⟩

def general (severity : Severity) (message : String) : Issue :=
  ⟨[("severity", .str severity.name), ("message", .str message)]⟩

def onLine (severity : Severity) (message : String) (line : Nat) : Issue :=
  ⟨[("severity", .str severity.name), ("message", .str message), ("line", .int line)]⟩

def atColumn (severity : Severity) (message : String) (line : Nat) (column : Int) : Issue :=
  ⟨[("severity", .str severity.name), ("message", .str message), ("line", .int line),
    ("column", .int column)]⟩

inductive LineError where
  | notANumber (t : Text)
  | tooLong (digits : Nat)

def LineError.message : LineError → String
  | .notANumber t =>
    "invalid literal for int() with base 10: " ++ String.ofList ((Text.quoted false t).take 200)
  | .tooLong n => (Version.ReadError.tooLong n).message

/-- Reads a line number: white space around it, a sign, and digits that underscores may group. -/
def readLine (t : Text) : Except LineError Int :=
  match Text.signedDigits? (Text.trim t) with
  | none => .error (.notANumber t)
  | some (sign, ds) =>
    if ds.length > Version.maxDigits then .error (.tooLong ds.length)
    else .ok (sign * Text.number ds)

/-- The line number that a value gives; a decimal is cut to an integer. -/
def lineOfValue : Value → Except LineError Int
  | .str s => readLine s.toList
  | .decimal m p => .ok (if p ≤ 0 then m * Int.pow 10 (-p).toNat else Int.tdiv m (Int.pow 10 p.toNat))
  | v => .ok ((v.int?).getD 0)

def ofParts (severity message line plugin : Value) : Except LineError Issue := do
  let line ← match line with
    | .null => .ok []
    | v => do .ok [("line", Value.int (← lineOfValue v))]
  let plugin := match plugin with
    | .null => []
    | v => [("plugin", v)]
  .ok ⟨[("severity", severity), ("message", message)] ++ line ++ plugin⟩

def line? (i : Issue) : Option Int := (i.get? "line").bind Value.int?

def column? (i : Issue) : Option Int := (i.get? "column").bind Value.int?

def message (i : Issue) : Text := ((i.get? "message").map Value.text).getD []

def isError (i : Issue) : Bool :=
  match i.get? "severity" with
  | some (.str s) => s == Severity.error.name
  | _ => false

def summary (issues : List Issue) : Nat × Nat :=
  (issues.countP (·.isError), issues.countP (!·.isError))

/-- Where an issue without a line is sorted. -/
def noLine : Int := 1000000000

def sortKey (i : Issue) : Int × Text := ((i.line?).getD noLine, i.message)

def le (a b : Issue) : Bool :=
  let (l, m) := a.sortKey
  let (l', m') := b.sortKey
  if l == l' then Text.le m m' else l < l'

/-- Sorts issues; those with equal keys keep their order. -/
def sort (issues : List Issue) : List Issue := issues.mergeSort le

/-- The name of the check that an issue comes from, unless it already has one. -/
def tag (plugin : String) (i : Issue) : Issue :=
  match i.get? "plugin" with
  | none | some .null => i.set "plugin" (.str plugin)
  | some _ => i

def format (path : Text) (showPlugin : Bool) (i : Issue) : Text :=
  let severity := ((i.get? "severity").map Value.text).getD Severity.warning.name.toList
  let severity := match i.get? "plugin" with
    | some p => if showPlugin && p.truthy then severity ++ '(' :: p.text ++ [')'] else severity
    | none => severity
  let tail := ": ".toList ++ severity ++ ": ".toList ++ i.message
  match i.get? "line" with
  | some l =>
    if l.int?.isSome then
      let shown := path ++ ':' :: l.text ++ tail
      match i.get? "excerpt" with
      | some (.str e) => if showPlugin && e != "" then shown ++ " | context: ".toList ++ e.toList else shown
      | _ => shown
    else path ++ tail
  | none => path ++ tail

/-- The part of a line around a column, up to `window` characters on either side, with dots where
something is left out. -/
def excerpt? (window : Int) (lines : Array Text) (i : Issue) : Option Text := do
  let line ← i.line?
  let column ← i.column?
  if line < 1 || line > lines.size then none
  let text := lines.getD (line - 1).toNat []
  if text.isEmpty then none
  let size : Int := text.length
  let at' := max 0 (min size (column - 1))
  let start := max 0 (at' - window)
  let stop := min size (at' + window)
  let part := Text.trimStart (Text.slice text start stop)
  if part.isEmpty then none
  let part := if start > 0 then "...".toList ++ part else part
  some (if stop < size then part ++ "...".toList else part)

def attachExcerpts (text : Text) (issues : List Issue) (window : Int) : List Issue :=
  let lines := (Text.lineTexts text).toArray
  issues.map fun i =>
    match i.excerpt? window lines with
    | some e => i.set "excerpt" (.str (String.ofList e))
    | none => i

end Issue
end ProblemLint
