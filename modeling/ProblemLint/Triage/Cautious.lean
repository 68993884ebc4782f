import ProblemLint.Triage.Results

/-! The second sorting: the files of known issues are checked again, and an issue counts as a bug only when
there is little doubt. -/

namespace ProblemLint.Triage.Cautious

inductive Judgement where
  | bug
  | legacy
  | doubtful
  deriving DecidableEq, Repr

/-- A variable without assignment is a bug only when its name looks like a slip for `$answer`. -/
def judgeVariable (e : Evidence) (name : Text) : Judgement :=
  if isOneOf name implicitArrays then .doubtful
  else if isOneOf name summaryNames && e.assignsInList name then .doubtful
  else if e.assignsElement name then .doubtful
  else if e.assignsInList name then .doubtful
  else if isOneOf name tableNames && e.assignsElement name then .doubtful
  else if name == "ans".toList && ((e.strict.map (Text.includes · "$answer")).getD false) then .bug
  else .doubtful

def judge (e : Evidence) (i : Issue) : Judgement :=
  if saysMissingAnswer i then if e.callsAnswer then .legacy else .bug
  else if comesFrom i "document_pairs" || comesFrom i "block_markers" then .bug
  else if comesFrom i "pgml_blank_assignments" then
    match namedVariable? i.message with
    | none => .doubtful
    | some name => judgeVariable e name
  else .doubtful

def pathOf? (entry : Text) : Option Text := (Text.splitFirst? ':' entry).map (·.1)

/-- The entries of all issues of the files that some entries name; a file named twice is checked twice. -/
def recheck : List Text → Script (List (Judgement × Text))
  | [] => pure []
  | entry :: rest => do
    let here ← match pathOf? entry with
      | none => pure []
      | some path =>
        if ← Script.isThere path then
          let e ← evidence path
          pure ((← Script.lintFile defaultSettings path).map fun i => (judge e i, entryOf path i))
        else pure []
    return here ++ (← recheck rest)

def ofJudgement (j : Judgement) (found : List (Judgement × Text)) : List Text :=
  sortedOnce ((found.filter (·.1 == j)).map (·.2))

def run (_args : List Text) : Script Nat := do
  let found ← recheck (entryLines (← readResults "known_issues_pg.txt"))
  let bugs := ofJudgement .bug found
  let legacy := ofJudgement .legacy found
  let doubtful := ofJudgement .doubtful found
  makeResults
  writeResults bugsFile bugsHeader bugs
  writeResults legacyFile legacyHeader legacy
  writeResults doubtfulFile doubtfulHeader doubtful
  Script.print s!"Confirmed bugs: {bugs.length}".toList
  Script.print s!"Legacy code (old-style ANS): {legacy.length}".toList
  Script.print s!"Likely false positives: {doubtful.length}".toList
  return 0

end ProblemLint.Triage.Cautious
