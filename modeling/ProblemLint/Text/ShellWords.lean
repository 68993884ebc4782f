import ProblemLint.Text.Basic

/-! The words of a command as a shell splits them: blanks divide words, quotes keep blanks, and a backslash
takes the next character as it is, between double quotes only a double quote or a backslash. -/

namespace ProblemLint.Text

inductive ShellError where
  | unclosedQuote
  | nothingEscaped
  deriving DecidableEq, Repr

namespace ShellError

def message : ShellError → String
  | .unclosedQuote => "No closing quotation"
  | .nothingEscaped => "No escaped character"

end ShellError

inductive ShellMode where
  | between
  | word
  | single
  | double
  /-- After a backslash outside quotes. -/
  | escaped
  /-- After a backslash between double quotes. -/
  | escapedInDouble

def isShellBlank (c : Char) : Bool := c == ' ' || c == '\t' || c == '\r' || c == '\n'

/-- The mode after a character outside quotes that is no blank, and the part of it that belongs to the word. -/
def shellStart (c : Char) : ShellMode × Text :=
  if c == '\'' then (.single, [])
  else if c == '"' then (.double, [])
  else if c == '\\' then (.escaped, [])
  else (.word, [c])

/-- The words from a place on; `word` is the word so far, backwards. -/
def shellWordsFrom (mode : ShellMode) (word : Text) : Text → Except ShellError (List Text)
  | [] =>
    match mode with
    | .between => .ok []
    | .word => .ok [word.reverse]
    | .single | .double => .error .unclosedQuote
    | .escaped | .escapedInDouble => .error .nothingEscaped
  | c :: r =>
    match mode with
    | .between =>
      if isShellBlank c then shellWordsFrom .between [] r
      else
        let (mode, part) := shellStart c
        shellWordsFrom mode part r
    | .word =>
      if isShellBlank c then (shellWordsFrom .between [] r).map (word.reverse :: ·)
      else
        let (mode, part) := shellStart c
        shellWordsFrom mode (part ++ word) r
    | .single => if c == '\'' then shellWordsFrom .word word r else shellWordsFrom .single (c :: word) r
    | .double =>
      if c == '"' then shellWordsFrom .word word r
      else if c == '\\' then shellWordsFrom .escapedInDouble word r
      else shellWordsFrom .double (c :: word) r
    | .escaped => shellWordsFrom .word (c :: word) r
    | .escapedInDouble =>
      if c == '"' || c == '\\' then shellWordsFrom .double (c :: word) r
      else shellWordsFrom .double (c :: '\\' :: word) r

def shellWords (t : Text) : Except ShellError (List Text) := shellWordsFrom .between [] t

end ProblemLint.Text
