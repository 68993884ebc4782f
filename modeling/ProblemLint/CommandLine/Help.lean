import ProblemLint.CommandLine

/-! The help text of a command: how to call it, what it does, and a line or two on each option and operand. Options
without a description are left out of all of it. -/

namespace ProblemLint

namespace Opt

def valueShown (o : Opt) : Text :=
  match o.effect with
  | .turn _ | .help => []
  | .oneOf words => "\x7b".toList ++ Text.join "," (words.map String.toList) ++ "\x7d".toList
  | .text | .integer | .gather => o.valueName.toList

def withValue (o : Opt) (name : Text) : Text := if o.takesValue then name ++ ' ' :: o.valueShown else name

def inUsage (o : Opt) : Text := o.withValue ((o.names.head?).getD "").toList

def title (o : Opt) : Text := Text.join ", " (o.names.map fun name => o.withValue name.toList)

end Opt

namespace CommandLine

def lineLength : Nat := 78

def lastColumn : Nat := 24

def fillAfter (length : Nat) (line : Text) : List Text → List Text
  | [] => [line]
  | word :: rest =>
    if line.length + 1 + word.length ≤ length then fillAfter length (line ++ ' ' :: word) rest
    else line :: fillAfter length word rest

/-- Words on lines, as many on each as fit; a word that is too long has a line of its own. -/
def fill (length : Nat) : List Text → List Text
  | [] => []
  | word :: rest => fillAfter length word rest

def listed (c : CommandLine) : List Opt := c.all.filter (·.about.isSome)

/-- Neighbours that may not be given together form one group. -/
def rivalGroups : List Opt → List (List Opt)
  | [] => []
  | o :: rest =>
    match rivalGroups rest with
    | (p :: ps) :: groups => if o.rivals.contains p.key then (o :: p :: ps) :: groups else [o] :: (p :: ps) :: groups
    | groups => [o] :: groups

def optionParts (c : CommandLine) : List Text :=
  (rivalGroups c.listed).map fun group => '[' :: Text.join " | " (group.map Opt.inUsage) ++ [']']

def operandParts (c : CommandLine) : List Text :=
  match c.operands with
  | none => []
  | some o => [o.key.toList, '[' :: o.key.toList ++ " ...]".toList]

def usageLead : Text := "usage: ".toList

/-- How to call a command. When one line does not hold it, the operands start a line, and all lines are as far in as
the options; these stand below the name of the command if it is longer than three quarters of a line. -/
def usage (c : CommandLine) (program : Text) : Text :=
  let head := usageLead ++ program
  let line := Text.join " " (head :: c.optionParts ++ c.operandParts)
  if line.length ≤ lineLength then line
  else
    let isShort := head.length * 4 ≤ lineLength * 3
    let margin := if isShort then head.length + 1 else usageLead.length
    let fits := fill (lineLength - margin)
    let rows := fits c.optionParts ++ fits c.operandParts
    let together := fits (c.optionParts ++ c.operandParts)
    let rows := if !isShort && together.length ≤ 1 then together else rows
    let further := "\n".toList ++ List.replicate margin ' '
    head ++ (if isShort then [' '] else further) ++ (rows.intersperse further).flatten

structure Entry where
  title : Text
  about : Text

/-- The parts of the help with their headings; one without entries is left out. -/
def parts (c : CommandLine) : List (Text × List Entry) :=
  let operands := c.operands.toList.map fun o => ⟨o.key.toList, o.about.toList⟩
  let headings := (c.listed.map (·.heading)).eraseDups
  let options := headings.map fun heading =>
    (heading.toList, (c.listed.filter (·.heading == heading)).map fun o => ⟨o.title, (o.about.getD "").toList⟩)
  (("positional arguments".toList, operands) :: options).filter (!·.2.isEmpty)

/-- The column of the descriptions: two blanks after the longest title, which is itself two blanks in. -/
def column (entries : List Entry) : Nat :=
  min lastColumn (entries.foldl (fun most e => max most e.title.length) 0 + 4)

def padded (size : Nat) (t : Text) : Text := t ++ List.replicate (size - t.length) ' '

/-- The lines of an entry. A title that reaches into the descriptions has a line of its own. -/
def Entry.lines (e : Entry) (column : Nat) : List Text :=
  let title := ' ' :: ' ' :: e.title
  let about := fill (lineLength - column) (Text.words e.about)
  let further := fun (line : Text) => List.replicate column ' ' ++ line
  match about with
  | [] => [title]
  | first :: rest =>
    if title.length + 2 ≤ column then (padded column title ++ first) :: rest.map further
    else title :: about.map further

def help (c : CommandLine) (program : Text) : Text :=
  let column := column (c.parts.flatMap (·.2))
  let about := fill lineLength (Text.words c.about.toList)
  let parts := c.parts.map fun (heading, entries) =>
    Text.join "\n" ((heading ++ [':']) :: entries.flatMap (·.lines column))
  Text.join "\n\n" (c.usage program :: Text.join "\n" about :: parts)

end CommandLine
end ProblemLint
