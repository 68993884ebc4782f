import ProblemLint.Text.Basic

/-! Lines of a text. A line ends at any of eleven breaks, a carriage return with its line feed being one;
line numbers of positions, in contrast, count line feeds only (see `NewlineIndex`). -/

namespace ProblemLint.Text

def isLineBreak (c : Char) : Bool :=
  let n := c.toNat
  (10 ≤ n && n ≤ 13) || (28 ≤ n && n ≤ 30) || n == 0x85 || n == 0x2028 || n == 0x2029

/-- The lines of a text, each with its break. -/
def lines : Text → List Text
  | [] => []
  | '\r' :: '\n' :: r => ['\r', '\n'] :: lines r
  | c :: r =>
    if isLineBreak c then [c] :: lines r
    else
      match lines r with
      | [] => [[c]]
      | l :: ls => (c :: l) :: ls

def withoutBreak (line : Text) : Text := line.takeWhile (!isLineBreak ·)

def lineTexts (t : Text) : List Text := (lines t).map withoutBreak

def filledLines (t : Text) : List Text := (lineTexts t).filter fun l => !(trim l).isEmpty

def endsWithNewline (line : Text) : Bool := line.getLast? == some '\n'

/-- The lines of a text that is cut at line feeds only, with their breaks. -/
def newlineLines : Text → List Text
  | [] => []
  | c :: r =>
    if c == '\n' then [c] :: newlineLines r
    else
      match newlineLines r with
      | [] => [[c]]
      | l :: ls => (c :: l) :: ls

/-- Every carriage return, with the line feed after it if there is one, becomes a line feed. -/
def universalNewlines : Text → Text
  | [] => []
  | '\r' :: '\n' :: r => '\n' :: universalNewlines r
  | c :: r => (if c == '\r' then '\n' else c) :: universalNewlines r

def join (sep : String) (parts : List Text) : Text := sep.toList.intercalate parts

end ProblemLint.Text
