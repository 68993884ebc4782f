import ProblemLint.Registry

/-! Running checks over a file. -/

namespace ProblemLint

/-- Runs checks one after the other; every issue receives the name of its check. -/
def runChecks (d : Document) : List Check → Except PatternError Report
  | [] => .ok ⟨[], d⟩
  | c :: cs => do
    let first ← c.run d
    let rest ← runChecks first.document cs
    .ok ⟨first.issues.map (·.tag c.id) ++ rest.issues, rest.document⟩

def runSorted (d : Document) (checks : List Check) : Except PatternError Report := do
  let r ← runChecks d checks
  .ok { r with issues := Issue.sort r.issues }

def excerptWindow : Nat := 40

structure Settings where
  checks : List Check
  blockRules : List BlockRule := BlockRule.standard
  macroRules : List MacroRule := MacroRule.standard
  version : Option Text := none

def lint (s : Settings) (path : Option Text) (text : Text) : Except PatternError (List Issue) := do
  let r ← runSorted (.ofText text path s.blockRules s.macroRules s.version) s.checks
  .ok (Issue.attachExcerpts text r.issues excerptWindow)

end ProblemLint
