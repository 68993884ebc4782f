import ProblemLint.Text.CodeSet

/-! Decimal digits of any script and the numbers they spell. -/

namespace ProblemLint.Text

/-- Runs of decimal digits from code point 128 on; every run starts with a zero. -/
def digitsAbove : CodeSet := ⟨#[
  1632, 1642, 1776, 1786, 1984, 1994, 2406, 2416, 2534, 2544, 2662, 2672, 2790, 2800, 2918, 2928,
  3046, 3056, 3174, 3184, 3302, 3312, 3430, 3440, 3558, 3568, 3664, 3674, 3792, 3802, 3872, 3882,
  4160, 4170, 4240, 4250, 6112, 6122, 6160, 6170, 6470, 6480, 6608, 6618, 6784, 6794, 6800, 6810,
  6992, 7002, 7088, 7098, 7232, 7242, 7248, 7258, 42528, 42538, 43216, 43226, 43264, 43274, 43472,
  43482, 43504, 43514, 43600, 43610, 44016, 44026, 65296, 65306, 66720, 66730, 68912, 68922,
  69734, 69744, 69872, 69882, 69942, 69952, 70096, 70106, 70384, 70394, 70736, 70746, 70864,
  70874, 71248, 71258, 71360, 71370, 71472, 71482, 71904, 71914, 72016, 72026, 72784, 72794,
  73040, 73050, 73120, 73130, 92768, 92778, 92864, 92874, 93008, 93018, 120782, 120832, 123200,
  123210, 123632, 123642, 125264, 125274, 130032, 130042]⟩

def digit? (c : Char) : Option Nat :=
  let n := c.toNat
  if n < 128 then if '0' ≤ c && c ≤ '9' then some (n - 48) else none
  else (digitsAbove.runStart? n).map fun first => (n - first) % 10

def isDigit (c : Char) : Bool := (digit? c).isSome

def number (ds : List Char) : Nat :=
  ds.foldl (fun n c => n * 10 + (digit? c).getD 0) 0

/-- Digits with at most one underscore between two of them. -/
def groupedDigits? : List Char → Option (List Char)
  | [] => none
  | [c] => if isDigit c then some [c] else none
  | c :: '_' :: r => if isDigit c then (groupedDigits? r).map (c :: ·) else none
  | c :: r => if isDigit c then (groupedDigits? r).map (c :: ·) else none

def signedDigits? (t : List Char) : Option (Int × List Char) :=
  match t with
  | '-' :: r => (groupedDigits? r).map ((-1, ·))
  | '+' :: r => (groupedDigits? r).map ((1, ·))
  | r => (groupedDigits? r).map ((1, ·))

def hexDigit? (c : Char) : Option Nat :=
  if '0' ≤ c && c ≤ '9' then some (c.toNat - 48)
  else if 'a' ≤ c && c ≤ 'f' then some (c.toNat - 87)
  else if 'A' ≤ c && c ≤ 'F' then some (c.toNat - 55)
  else none

def hexNumber? (n : Nat) (t : List Char) : Option (Nat × List Char) :=
  let ds := t.take n
  if ds.length == n && ds.all (fun c => (hexDigit? c).isSome) then
    some (ds.foldl (fun v c => v * 16 + (hexDigit? c).getD 0) 0, t.drop n)
  else none

end ProblemLint.Text
