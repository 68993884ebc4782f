import ProblemLint.Value.Basic
import ProblemLint.Text.Quoted

/-! How values read in messages: a text as it is, texts inside lists and records in quotes. -/

namespace ProblemLint.Value

/-- Digits with a point after `places` of them from the right; a whole number keeps one zero after the point. -/
def positional (digits : Text) (places : Int) : Text :=
  let n := places.toNat
  let padded := List.replicate (n + 1 - digits.length) '0' ++ digits ++ List.replicate (-places).toNat '0'
  let whole := padded.take (padded.length - n)
  let fraction := Text.dropEndWhile (· == '0') (padded.drop (padded.length - n))
  whole ++ '.' :: (if fraction.isEmpty then ['0'] else fraction)

/-- A digit, a point if more follow, and the power of ten with a sign and at least two digits. -/
def scientific (digits : Text) (power : Int) : Text :=
  let fraction := Text.dropEndWhile (· == '0') (digits.drop 1)
  let size := Nat.toDigits 10 power.natAbs
  digits.take 1 ++ (if fraction.isEmpty then [] else '.' :: fraction) ++ ['e', if power < 0 then '-' else '+']
    ++ (if size.length < 2 then '0' :: size else size)

/-- A decimal in positional form if it lies between a ten-thousandth and ten to the sixteenth. -/
def showDecimal (mantissa : Int) (places : Int) : Text :=
  let digits := Nat.toDigits 10 mantissa.natAbs
  let power := digits.length - places - 1
  (if mantissa < 0 then ['-'] else [])
    ++ if mantissa == 0 || (-4 ≤ power && power < 16) then positional digits places else scientific digits power

def showUnbounded : Unbounded → Text
  | .notANumber => "nan".toList
  | .infinite => "inf".toList
  | .minusInfinite => "-inf".toList

mutual

def quotedText : Value → Text
  | .null => "None".toList
  | .bool b => if b then "True".toList else "False".toList
  | .int n => (toString n).toList
  | .decimal m p => showDecimal m p
  | .unbounded u => showUnbounded u
  | .str s => Text.quoted false s.toList
  | .list xs => '[' :: quotedItems xs ++ [']']
  | .record fs => '{' :: quotedFields fs ++ ['}']

def quotedItems : List Value → Text
  | [] => []
  | [x] => quotedText x
  | x :: xs => quotedText x ++ ", ".toList ++ quotedItems xs

def quotedFields : List (String × Value) → Text
  | [] => []
  | [(k, x)] => Text.quoted false k.toList ++ ": ".toList ++ quotedText x
  | (k, x) :: fs => Text.quoted false k.toList ++ ": ".toList ++ quotedText x ++ ", ".toList ++ quotedFields fs

end

def text : Value → Text
  | .str s => s.toList
  | v => quotedText v

def display (v : Value) : String := String.ofList v.text

end ProblemLint.Value
