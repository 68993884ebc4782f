import ProblemLint.Check

/-! Checks that functions have the macro files and the version that they need. -/

namespace ProblemLint.Check

def requiredMacros : Check :=
  .reporting "pgml_required_macros" "PGML requires PGML.pl" fun d =>
    if d.usesMarkup && !d.macrosLoaded.contains "pgml.pl" then
      [.general .warning "PGML used without required macros: pgml.pl"]
    else []

def dropDownFallback : Pattern :=
  let space := Pattern.blanks
  let passed := fun name => Pattern.text name ++ space ++ Pattern.text "(" ++ space ++ Pattern.text "@_"
    ++ space ++ Pattern.text ")"
  Pattern.text "defined" ++ space ++ Pattern.text "&DropDown" ++ space ++ Pattern.text "?" ++ space
    ++ passed "DropDown" ++ space ++ Pattern.text ":" ++ space ++ passed "PopUp"

/-- What a macro rule finds in a program. A version out of bounds is reported before missing files. -/
def macroRuleIssue? (d : Document) (r : MacroRule) : Except PatternError (Option Issue) := do
  let pattern ← Pattern.read r.pattern.toList
  if !pattern.occursIn d.code then return none
  let target := Version.normalize d.version
  let label := if r.label == "" then "Function" else r.label
  let note := " (target is PG " ++ String.ofList target ++ ")"
  let bound := fun (v : Option String) => v.bind fun s => Version.read? s.toList
  match Version.read? target, bound r.minVersion, bound r.maxVersion with
  | some v, low, high =>
    if low.any v.lt then
      if r.label == "DropDown" && dropDownFallback.occursIn d.code then return none
      return some (.general .warning (label ++ " requires PG " ++ r.minVersion.getD "" ++ "+" ++ note))
    if high.any (·.lt v) then
      return some
        (.general .warning (label ++ " requires PG " ++ r.maxVersion.getD "" ++ " or earlier" ++ note))
  | none, _, _ => pure ()
  let needed := r.requiredMacros.map fun m => String.ofList (Text.lower m.toList)
  if needed.any d.macrosLoaded.contains then return none
  return some (.general .warning (r.label ++ " used without required macros: " ++ ", ".intercalate needed))

/-- Macro rules apply to files that load macros or are documents of their own. -/
def macroRules : Check :=
  .attempting "macro_rules" "Macro rule coverage" fun d =>
    if !d.macrosLoaded.isEmpty || (emptyCall "DOCUMENT").occursIn d.code then do
      .ok ((← d.macroRules.mapM (macroRuleIssue? d)).filterMap (·))
    else .ok []

end ProblemLint.Check
