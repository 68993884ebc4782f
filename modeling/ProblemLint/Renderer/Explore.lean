import ProblemLint.Renderer.Session

/-! Running the exploratory cases through the renderer and writing a report. -/

namespace ProblemLint.Renderer.Explore

/-- The messages under the title, and whether the title has been seen. -/
def collect : Bool → List Text → List Text
  | _, [] => []
  | seen, line :: rest =>
    if Text.trim line == messagesTitle then collect true rest
    else if !seen then collect false rest
    else (messageLine? line).toList ++ collect seen rest

/-- What the renderer reports: its messages, or else, when it failed, what it complains about. -/
def messages (stdout stderr : Text) (code : Int) : List Text :=
  let lines := Text.lineTexts stdout
  if lines.contains noMessages then []
  else
    match collect false lines with
    | m :: ms => m :: ms
    | [] => if code == 0 then [] else Text.filledLines stderr

def reportLines (id label : Text) (seed : Int) (messages : List Text) : List Text :=
  [ id ++ ": ".toList ++ label, s!"seed: {seed}".toList, s!"messages: {messages.length}".toList ]
    ++ messages.map ("- ".toList ++ ·)

def commandLine : CommandLine where
  about := "Run exploratory cases through renderer lint."
  options :=
    [ rendererOption
    , addressOption
    , { names := ["-s", "--seed"], key := "seed", effect := .integer, valueName := "SEED",
        about := some "Problem seed (default: random per case)." }
    , { names := ["--seed-count"], key := "seeds", effect := .integer, initial := .int 1, valueName := "SEED_COUNT",
        about := some "Number of random seeds per case when --seed is not set." }
    , formatOption
    , { names := ["-c", "--case"], key := "cases", effect := .gather, initial := .list [], valueName := "CASE_IDS",
        about := some "Case id to run (repeatable)." }
    , { names := ["--list"], key := "list", effect := .turn true, initial := .bool false,
        about := some "List available case ids." }
    , { names := ["--report"], key := "report", effect := .text, valueName := "REPORT_PATH",
        about := some "Write report to this file." } ]

def standardSeed : Int := 1

def runCases (fs : Fields) (seed : Int) : List Case → Script (List Text)
  | [] => pure []
  | c :: rest => do
    let r ← render (.ofFields fs seed) c.problem.toList
    let here := reportLines c.id.toList c.label.toList seed (messages r.outText r.errText r.code)
    return here ++ [[]] ++ (← runCases fs seed rest)

def run (args : List Text) : Script Nat := do
  let fs ← Script.options commandLine args
  if isOn fs "list" then
    Script.printAll ((Case.ids Case.exploratory).map String.toList)
    return 0
  requireRenderer (textOf fs "renderer")
  let cases := Case.choose Case.exploratory (textsOf fs "cases")
  if cases.isEmpty then throw (.refused "No matching cases selected.".toList)
  let seed := ((Fields.get? fs "seed").bind Value.int?).getD standardSeed
  let report := Text.trimEnd (Text.join "\n" (← runCases fs seed cases)) ++ ['\n']
  match (Fields.get? fs "report").bind Value.str? with
  | some path => if path == "" then Script.print report else Script.writeText path.toList report
  | none => Script.print report
  return 0

end ProblemLint.Renderer.Explore
