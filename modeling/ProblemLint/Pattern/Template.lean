import ProblemLint.Pattern.Reader

/-! Templates for what a match is replaced by: literal text, in which a backslash begins the escape of a character or
stands, as `\g<0>`, for the match itself. They go with patterns that keep no groups. -/

namespace ProblemLint.Pattern.Template

inductive Piece where
  | char (c : Char)
  /-- The text of the match. -/
  | whole
  deriving DecidableEq

/-- A group by its number, of which there is but the whole match. -/
def numbered (number : Nat) : Reading (List Piece) :=
  if number == 0 then return [.whole] else Reading.fail .badReference

def bracketed : Reading (List Piece) := do
  if !(← Reading.accept '<') then Reading.fail .badReference
  let n ← Reading.name '>'
  if Text.isIdentifier n then Reading.fail .unknownGroup
  match Text.signedDigits? (Text.trim n) with
  | some (sign, ds) =>
    if sign < 0 && Text.number ds != 0 then Reading.fail .badName else numbered (Text.number ds)
  | none => Reading.fail .badName

def digits (first : Char) : Reading (List Piece) := do
  if first == '0' then
    let code := Reading.inBase 8 (← Reading.takeWhile Reading.isOctal 2)
    return [.char (Char.ofNat (code % 256))]
  match ← Reading.numeral first with
  | .code n => return [.char (Char.ofNat n)]
  | .group number => numbered number

/-- What an escape stands for; a sign that has no meaning keeps its backslash. -/
def escape (c : Char) : Reading (List Piece) := do
  if c == 'g' then bracketed
  else if Text.isAsciiDigit c then digits c
  else
    match Reading.control? c with
    | some n => return [.char (Char.ofNat n)]
    | none =>
      if c == 'b' then return [.char '\x08']
      else if c == '\\' then return [.char '\\']
      else if Text.isAsciiLetter c then Reading.fail .badEscape
      else return [.char '\\', .char c]

def pieces : Nat → Reading (List Piece)
  | 0 => return []
  | fuel + 1 => do
    match ← Reading.next? with
    | none => return []
    | some (.plain c) => return .char c :: (← pieces fuel)
    | some (.escaped c) => return (← escape c) ++ (← pieces fuel)

def read (t : Text) : Except PatternError (List Piece) := do
  (pieces (t.length + 1)).run' { rest := ← tokens t }

def fill (ps : List Piece) (found : Text) : Text :=
  ps.flatMap fun p => match p with
    | .char c => [c]
    | .whole => found

end ProblemLint.Pattern.Template
