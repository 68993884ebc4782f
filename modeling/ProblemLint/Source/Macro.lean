import ProblemLint.Source.Call
import ProblemLint.Text.Case

/-! Macro files that a program loads. -/

namespace ProblemLint

def baseName (path : Text) : Text := (Text.splitOn '/' path).getLastD []

/-- The lower-case base names of the files in quotes that `loadMacros` calls name, in code point order.
Calls inside the arguments of an include are not looked at. -/
def loadedMacros (t : Text) : List String :=
  let calls := Call.all ["loadMacros", "includePGproblem"] (.ofText t) t
  sortedNames <| (calls.filter (·.name == "loadMacros")).flatMap fun c =>
    (occurrences fileNameAt? c.arguments).map fun (_, n) => String.ofList (Text.lower (baseName n))

end ProblemLint
