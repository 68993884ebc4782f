import ProblemLint.Renderer.Session
import ProblemLint.Rule

/-! Comparing what a check finds in a faulty problem with what the renderer reports. -/

namespace ProblemLint.Renderer.Compare

def listed (stdout : Text) : List Text :=
  let lines := Text.lineTexts stdout
  if lines.contains noMessages then []
  else
    let after := (lines.dropWhile fun l => Text.trim l != messagesTitle).drop 1
    (after.filter fun l => Text.trim l != messagesTitle).filterMap messageLine?

/-- What the renderer reports: its messages, or else, when it failed, what it complains about. -/
def messages (r : Reply) : List Text :=
  let found := listed r.outText
  if !found.isEmpty then found else if r.code == 0 then [] else Text.filledLines r.errText

def messagesOf (check : String) (issues : List Issue) : List Text :=
  (issues.filter fun i =>
    match i.get? "plugin" with
    | some (.str s) => s == check
    | _ => false).map fun i =>
      match i.get? "line" with
      | some l => if l.int?.isSome then "line ".toList ++ l.text ++ ": ".toList ++ i.message else i.message
      | none => i.message

/-- A rule for the check of custom rules, which has none of its own. -/
def sampleRule : BlockRule :=
  .ofValue (.record
    [ ("label", .str "FOO_START/FOO_END"), ("start_pattern", .str "\\bFOO_START\\b")
    , ("end_pattern", .str "\\bFOO_END\\b") ])

def settingsFor (check : String) : Settings :=
  let s : Settings := { checks := Check.select [] [] [] }
  if check == "block_rules" then { s with blockRules := [sampleRule] } else s

def offline (c : Case) : Script (List Text) :=
  match lint (settingsFor c.id) none c.problem.toList with
  | .ok issues => pure (messagesOf c.id issues)
  | .error e => throw (.pattern e)

def commandLine : CommandLine where
  about := "Probe offline plugins against renderer API lint output."
  options :=
    [ rendererOption
    , addressOption
    , { names := ["-s", "--seed"], key := "seed", effect := .integer, initial := .int 1234,
        valueName := "PROBLEM_SEED", about := some "Problem seed (default: 1234)." }
    , formatOption
    , { names := ["-p", "--plugin"], key := "checks", effect := .gather, initial := .list [],
        valueName := "PLUGIN_IDS", about := some "Plugin id to probe (repeatable)." }
    , { names := ["-n", "--no-renderer"], key := "render", effect := .turn false, initial := .bool true,
        about := some "Skip renderer API calls." }
    , { names := ["--list"], key := "list", effect := .turn true, initial := .bool false,
        about := some "List available plugin probe ids." } ]

def reportLines (c : Case) (offline rendered : List Text) : List Text :=
  let item := fun (m : Text) => "  - ".toList ++ m
  [[], (c.id ++ ": " ++ c.label).toList, s!"offline issues: {offline.length}".toList] ++ offline.map item
    ++ [s!"renderer messages: {rendered.length}".toList] ++ rendered.map item

def runCases (fs : Fields) : List Case → Script Unit
  | [] => pure ()
  | c :: rest => do
    let found ← offline c
    let rendered ←
      if isOn fs "render" then
        let seed := ((Fields.get? fs "seed").bind Value.int?).getD 0
        pure (messages (← render (.ofFields fs seed) c.problem.toList))
      else pure []
    Script.printAll (reportLines c found rendered)
    runCases fs rest

def run (args : List Text) : Script Nat := do
  let fs ← Script.options commandLine args
  if isOn fs "list" then
    Script.printAll ((Case.ids Case.perCheck).map String.toList)
    return 0
  if isOn fs "render" then requireRenderer (textOf fs "renderer")
  let cases := Case.choose Case.perCheck (textsOf fs "checks")
  if cases.isEmpty then throw (.refused "No matching plugin probes selected.".toList)
  runCases fs cases
  return 0

end ProblemLint.Renderer.Compare
