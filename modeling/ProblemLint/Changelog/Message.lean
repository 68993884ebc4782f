import ProblemLint.Text.Lines

/-! Commit messages from the lines that a change adds to a changelog: the first item is the subject, the
added lines are the body. -/

namespace ProblemLint.Changelog

/-- The lines that a change adds, without the mark and without blanks at their ends; empty ones are left out. -/
def addedLines (diff : Text) : List Text :=
  (Text.lineTexts diff).filterMap fun line =>
    match line with
    | '+' :: rest =>
      if Text.startsWith line "+++" || (Text.trim rest).isEmpty then none else some (Text.trimEnd rest)
    | _ => none

/-- The label and the rest when a text starts with a link: a label in brackets and a target in parentheses, neither
empty. -/
def link? (t : Text) : Option (Text × Text) :=
  match t with
  | '[' :: r =>
    let label := r.takeWhile (· != ']')
    match r.dropWhile (· != ']') with
    | ']' :: '(' :: r =>
      let target := r.takeWhile (· != ')')
      match r.dropWhile (· != ')') with
      | ')' :: r => if label.isEmpty || target.isEmpty then none else some (label, r)
      | _ => none
    | _ => none
  | _ => none

def withoutLinks (t : Text) : Text := go t.length t
where
  go : Nat → Text → Text
    | 0, t => t
    | _, [] => []
    | fuel + 1, c :: r =>
      match link? (c :: r) with
      | some (label, rest) => label ++ go fuel rest
      | none => c :: go fuel r

def shortened (size : Nat) (t : Text) : Text :=
  if t.length > size then t.take (size - 3) ++ "...".toList else t

def contentLines (added : List Text) : List Text := (added.map Text.trim).filter fun s => !Text.startsWith s "##"

def isItem (line : Text) : Bool := Text.startsWith line "- "

def itemText (line : Text) : Text := shortened 50 (withoutLinks (Text.trim (line.drop 2)))

/-- The subject: the first item and how many more there are. -/
def subject (items : List Text) : Text :=
  let first := ((items.head?).map itemText).getD []
  let text := match items.length with
    | 0 => "update changelog".toList
    | 1 => if first.isEmpty then "update changelog (1 changes)".toList else first
    | n + 1 =>
      if first.isEmpty then s!"update changelog ({n + 1} changes)".toList else first ++ s!" (+{n} more)".toList
  shortened 72 text

def message (added : List Text) (limit : Int) : Text :=
  let lines := contentLines added
  let body := Text.trim (Text.join "\n" (lines.take (max 1 limit.toNat)))
  let subject := subject (lines.filter isItem)
  if body.isEmpty then subject ++ ['\n'] else subject ++ "\n\n".toList ++ body ++ ['\n']

def bodyLimit : Int := 25

inductive SeedError where
  | nothingAdded
  deriving DecidableEq, Repr

def SeedError.message : SeedError → String
  | .nothingAdded => "Changelog diff had no added lines."

/-- The message to start from; there is none for an empty change. -/
def seedMessage (diff : Text) : Except SeedError (Option Text) :=
  if diff.isEmpty then .ok none
  else
    let added := addedLines diff
    if added.isEmpty then .error .nothingAdded else .ok (some (message added bodyLimit))

def withoutComments (message : Text) : Text :=
  Text.trim (Text.join "\n" ((Text.lineTexts message).filter fun l => l.head? != some '#'))

/-! ### Questions -/

def choicePrompt (prompt : Text) : Text :=
  prompt ++ " [[bold green]y[/bold green]/[bold red]N[/bold red]] ".toList

def actionPrompt (prompt : Text) : Text :=
  prompt ++ " [[bold green]yes[/bold green]/[bold red]no[/bold red]/[bold cyan]commit[/bold cyan]] ".toList

end ProblemLint.Changelog
