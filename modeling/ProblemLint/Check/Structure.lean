import ProblemLint.Check

/-! Checks of a file's structure: block markers, heredocs, the document pair, and pairs given by rules. -/

namespace ProblemLint.Check

def blockMarkers : Check :=
  .reporting "block_markers" "PGML/TEXT/HINT/SOLUTION block pairing" (·.markerIssues)

def heredocs : Check :=
  .reporting "pgml_heredocs" "PGML heredoc terminators" (·.heredocIssues)

/-- `DOCUMENT()` and `ENDDOCUMENT()` occur equally often, and the first begins the file. -/
def documentPairIssues (d : Document) : List Issue :=
  let starts := ((emptyCall "DOCUMENT").findAll d.code).map (·.start)
  let ends := ((emptyCall "ENDDOCUMENT").findAll d.code).map (·.start)
  match starts, ends with
  | [], [] => []
  | s :: _, [] => [.onLine .warning "DOCUMENT() present without ENDDOCUMENT()" (d.lineOf s)]
  | [], e :: _ => [.onLine .warning "ENDDOCUMENT() present without DOCUMENT()" (d.lineOf e)]
  | s :: _, e :: _ =>
    let m := starts.length
    let n := ends.length
    if m != n then
      [.general .error s!"DOCUMENT() count does not match ENDDOCUMENT() (start={m}, end={n})"]
    else if e < s then [.onLine .error "ENDDOCUMENT() appears before DOCUMENT()" (d.lineOf e)]
    else []

def documentPairs : Check :=
  .reporting "document_pairs" "DOCUMENT/ENDDOCUMENT pairing" documentPairIssues

/-- What a block rule finds in a program. Pairs that have a check of their own are passed over. -/
def blockRuleIssue? (code : Text) (r : BlockRule) : Except PatternError (Option Issue) :=
  if r.label == BlockRule.documentLabel then .ok none
  else if Text.includes r.startPattern.toList "BEGIN_" && Text.includes r.endPattern.toList "END_" then
    .ok none
  else do
    let m := ((← Pattern.read r.startPattern.toList).findAll code).length
    let n := ((← Pattern.read r.endPattern.toList).findAll code).length
    let counts := s!"(start={m}, end={n})"
    if m == n then .ok none
    else if m == 0 || n == 0 then
      .ok (some (.general .warning (r.label ++ " appears only on one side " ++ counts)))
    else .ok (some (.general .error (r.label ++ " counts do not match " ++ counts)))

def blockRules : Check :=
  .attempting "block_rules" "Custom block rule counts" fun d => do
    .ok ((← d.blockRules.mapM (blockRuleIssue? d.code)).filterMap (·))

end ProblemLint.Check
