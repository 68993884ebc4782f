import ProblemLint.Host
import ProblemLint.Triage.Entry
import ProblemLint.Triage.Evidence

/-! The folder of results and the files in it. -/

namespace ProblemLint.Triage

def resultsFolder : String := "output"

def resultsPath (name : Text) : Text := Path.join resultsFolder.toList name

def makeResults : Script Unit := Script.makeFolder resultsFolder

def asLines (lines : List Text) : Text := lines.flatMap (· ++ ['\n'])

def writeResults (name : String) (header : Text) (entries : List Text) : Script Unit :=
  Script.writeText (resultsPath name.toList) (header ++ asLines entries)

def readResults (name : String) : Script Text := Script.readText (resultsPath name.toList)

def evidence (path : Text) : Script Evidence := do
  return .ofBytes ((← get).bytes path).toOption

/-- All checks that are on by default. -/
def defaultSettings : Settings := { checks := Check.select [] [] [] }

def bugsFile : String := "confirmed_bugs_pg.txt"

def legacyFile : String := "mixed_legacy_pg.txt"

def doubtfulFile : String := "likely_false_positives_pg.txt"

def bugsHeader : Text :=
  ("# Confirmed bugs - high confidence these are real errors\n"
    ++ "# These have been validated to exclude false positives\n\n").toList

def legacyHeader : Text :=
  ("# Legacy PGML - old-style code that works but should be modernized\n"
    ++ "# These use old-style ANS() calls instead of inline answer specs\n#\n"
    ++ "# Old style: [____] in PGML, then ANS($ans->cmp()) after\n"
    ++ "# Modern:    [____]\x7b$ans\x7d inline\n\n").toList

def doubtfulHeader : Text :=
  ("# Likely false positives - code that works but parser doesn't understand\n"
    ++ "# Includes: list assignments, array element assignments\n#\n"
    ++ "# Examples of valid Perl our parser misses:\n"
    ++ "# - List assignments: ($a, $b) = func()\n"
    ++ "# - Array element assignment: $arr[0] = value (creates @arr)\n"
    ++ "# - Complex loops and dynamic variables\n\n").toList

end ProblemLint.Triage
