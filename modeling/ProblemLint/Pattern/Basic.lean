import ProblemLint.Text.Letter
import ProblemLint.Text.Digit
import ProblemLint.Text.Case
import ProblemLint.Text.Basic

/-! Patterns over texts: single characters, runs, sequences, alternatives, repetitions, captured groups and
tests on the surroundings of a position. Alternatives are tried in order, so a pattern prefers one match
among those that start at a position. -/

namespace ProblemLint

inductive Pattern where
  /-- The empty text. -/
  | nothing
  /-- One character. -/
  | one (accept : Char → Bool)
  /-- A run of `least` to `most` characters, the longest or the shortest preferred. -/
  | run (accept : Char → Bool) (least : Nat) (most : Option Nat) (longest : Bool)
  | seq (first second : Pattern)
  | alt (first second : Pattern)
  /-- `least` to `most` repetitions, more or fewer preferred. -/
  | repeated (body : Pattern) (least : Nat) (most : Option Nat) (longest : Bool)
  /-- The text that the body matches is kept under a number. -/
  | group (number : Nat) (body : Pattern)
  /-- The text kept under a number, once more; characters are compared after `small`. -/
  | again (number : Nat) (small : Char → Char)
  /-- No text, but a test on the character before and the text after. -/
  | here (test : Option Char → Text → Bool)
  /-- No text, but the body matches at this place, or does not. -/
  | ahead (positive : Bool) (body : Pattern)
  /-- No text, but the body matches from `width` characters before this place on, or does not. -/
  | behind (positive : Bool) (width : Nat) (body : Pattern)
  /-- The preferred way of the body and no other. -/
  | only (body : Pattern)
  /-- One of two bodies, chosen by whether a text is kept under a number. -/
  | ifKept (number : Nat) (yes no : Pattern)

namespace Pattern

instance : Append Pattern := ⟨seq⟩
instance : OrElse Pattern := ⟨fun a b => alt a (b ())⟩
instance : Inhabited Pattern := ⟨nothing⟩

def literal (s : Text) : Pattern := s.foldr (fun c p => .seq (.one (· == c)) p) .nothing

def text (s : String) : Pattern := literal s.toList

def anyCase (s : String) : Pattern :=
  s.toList.foldr (fun c p => .seq (.one (Text.matchesAnyCase c)) p) .nothing

def oneOf (s : String) : Pattern := .one fun c => s.toList.contains c

def many (accept : Char → Bool) : Pattern := .run accept 0 none true

def atLeastOne (accept : Char → Bool) : Pattern := .run accept 1 none true

def blanks : Pattern := many Text.isBlank

def optional (body : Pattern) : Pattern := .alt body .nothing

def firstOf : List Pattern → Pattern
  | [] => .here fun _ _ => false
  | [p] => p
  | p :: ps => .alt p (firstOf ps)

def words (ws : List String) : Pattern := firstOf (ws.map text)

def wordsAnyCase (ws : List String) : Pattern := firstOf (ws.map anyCase)

def edgeOf (isWord : Char → Bool) : Pattern :=
  .here fun before after => before.any isWord != after.head?.any isWord

/-- Between two word characters or two others; an empty text has no such place. -/
def noEdgeOf (isWord : Char → Bool) : Pattern :=
  .here fun before after =>
    (before.isSome || !after.isEmpty) && before.any isWord == after.head?.any isWord

def wordEdge : Pattern := edgeOf Text.isWord

/-- The start of the text or the place after a line feed. -/
def lineStart : Pattern := .here fun before _ => before.all (· == '\n')

def lineEnd : Pattern := .here fun _ after => after.head?.all (· == '\n')

def start : Pattern := .here fun before _ => before.isNone

/-- The end of the text, or the place before a line feed that ends it. -/
def finish : Pattern := .here fun _ after => after.isEmpty || after == ['\n']

def theEnd : Pattern := .here fun _ after => after.isEmpty

def name : Pattern := .one Text.isNameStart ++ many Text.isNameChar

def repeats (number : Nat) : Pattern := .again number fun c => c

/-- A repetition of one character is a run. -/
def times (least : Nat) (most : Option Nat) (longest : Bool) : Pattern → Pattern
  | .one accept => .run accept least most longest
  | p => .repeated p least most longest

/-- As many repetitions as possible, each in its preferred way, none of which is given up again. -/
def timesOnly (least : Nat) (most : Option Nat) : Pattern → Pattern
  | .one accept => .only (.run accept least most true)
  | p => .only (.repeated (.only p) least most true)

end Pattern
end ProblemLint
