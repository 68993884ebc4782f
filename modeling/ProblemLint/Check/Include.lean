import ProblemLint.Check

/-! Files that include another problem. -/

namespace ProblemLint.Check

def includeCall : Pattern := functionCall "includePGproblem"

/-- The lines without comments that lie outside of calls which load macros; such a call ends at the first line
with a closing parenthesis and a semicolon. -/
def outsideMacroCalls (inside : Bool) : List Text → List Text
  | [] => []
  | l :: ls =>
    let code := stripComment l
    if inside || Text.includes code "loadMacros" then outsideMacroCalls (!Text.includes code ");") ls
    else code :: outsideMacroCalls false ls

def loneCall (name : String) : Pattern :=
  Pattern.blanks ++ Pattern.text name ++ Pattern.blanks ++ Pattern.text "(" ++ Pattern.blanks
    ++ Pattern.text ")" ++ Pattern.blanks ++ Pattern.optional (Pattern.text ";") ++ Pattern.blanks
    ++ Pattern.finish

def isPayload (line : Text) : Bool :=
  let t := Text.trim (stripComment line)
  !t.isEmpty && !includeCall.occursIn t && ((loneCall "DOCUMENT").lead? t).isNone
    && ((loneCall "ENDDOCUMENT").lead? t).isNone

def includeIssues (d : Document) : List Issue :=
  let included := ((codeLines d.text).filter fun (_, l) => includeCall.occursIn l).map (·.1)
  match included with
  | [] => []
  | first :: _ =>
    included.map (.onLine .warning "includePGproblem() used; target file not verified by linter")
      ++ if (outsideMacroCalls false (Text.lineTexts d.text)).any isPayload then []
        else
          [.onLine .warning "includePGproblem() appears to be the only content in this file" first]

def includeProblem : Check :=
  .reporting "pgml_include_pgproblem" "includePGproblem usage" includeIssues

end ProblemLint.Check
