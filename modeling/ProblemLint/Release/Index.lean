import ProblemLint.Text.Lines

/-! What the package index says about the versions of a package. -/

namespace ProblemLint.Release

def afterWords? (words line : Text) : Option Text :=
  (Text.find? words line).map fun i => line.drop (i + words.length)

def latest? (line : Text) : Option Text := do
  let rest ← afterWords? "LATEST:".toList line
  let version := (Text.trimStart rest).takeWhile (!Text.isBlank ·)
  if version.isEmpty then none else some version

def listed? (line : Text) : Option (List Text) := do
  let rest ← afterWords? "Available versions:".toList line
  if rest.isEmpty then none
  else some (((Text.splitOn ',' rest).map Text.trim).filter (!·.isEmpty))

/-- The available versions and the latest one; of several lines that give them the last one counts, and a
latest version alone is also available. -/
def versions (output : Text) : List Text × Option Text :=
  let lines := Text.lineTexts output
  let latest := (lines.filterMap latest?).getLast?
  let available := ((lines.filterMap listed?).getLast?).getD []
  (if available.isEmpty then latest.toList else available, latest)

end ProblemLint.Release
