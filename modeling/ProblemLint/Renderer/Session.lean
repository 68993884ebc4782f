import ProblemLint.Host
import ProblemLint.Renderer.Case

/-! Starting the renderer on a problem, and what it reports. -/

namespace ProblemLint.Renderer

structure Request where
  renderer : Text
  address : Text
  seed : Int
  format : Text

def render (r : Request) (problem : Text) : Script Reply := do
  Script.writeText Host.scratchPath problem
  let reply ← Script.run
    [ r.renderer, "-i".toList, Host.scratchPath, "-b".toList, r.address, "-s".toList, (toString r.seed).toList
    , "-o".toList, r.format ]
  modify fun h => { h with scratch := none }
  return reply

def requireRenderer (path : Text) : Script Unit := do
  if !(← Script.isFile path) then throw (.file .missing)

def noMessages : Text := "No lint messages detected.".toList

def messagesTitle : Text := "Lint messages:".toList

def messageLine? (line : Text) : Option Text := (Text.after? "- ".toList line).map Text.trim

/-- Where the renderer is when nothing else is said. -/
def standardRenderer : String := "/usr/local/bin/render-problem"

def standardAddress : String := "http://localhost:3000"

def standardFormat : String := "classic"

def rendererOption : Opt :=
  { names := ["-r", "--renderer-script"], key := "renderer", effect := .text, initial := .str standardRenderer,
    valueName := "RENDERER_SCRIPT", about := some "Path to lint_pg_via_renderer_api.py." }

def addressOption : Opt :=
  { names := ["-b", "--base-url"], key := "address", effect := .text, initial := .str standardAddress,
    valueName := "BASE_URL", about := some "Renderer base URL (default: http://localhost:3000)." }

def formatOption : Opt :=
  { names := ["-o", "--output-format"], key := "format", effect := .text, initial := .str standardFormat,
    valueName := "OUTPUT_FORMAT", about := some "Output format template id (default: classic)." }

def textOf (fs : Fields) (key : String) : Text := ((Fields.get? fs key).map Value.text).getD []

def textsOf (fs : Fields) (key : String) : List String :=
  (((Fields.get? fs key).bind Value.items?).getD []).filterMap Value.str?

def isOn (fs : Fields) (key : String) : Bool := ((Fields.get? fs key).map Value.truthy).getD false

def Request.ofFields (fs : Fields) (seed : Int) : Request :=
  ⟨textOf fs "renderer", textOf fs "address", seed, textOf fs "format"⟩

end ProblemLint.Renderer
