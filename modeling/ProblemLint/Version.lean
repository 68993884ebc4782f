import ProblemLint.Text.Blank
import ProblemLint.Text.Digit

/-! Versions of the problem system: a major and, after a point, a minor number. -/

namespace ProblemLint

structure Version where
  major : Nat
  minor : Nat
  deriving DecidableEq, Repr, Inhabited

namespace Version

def standard : String := "2.17"

/-- A wanted version without white space around it; nothing or white space is the standard version. -/
def normalize (wanted : Option Text) : Text :=
  match wanted with
  | none => standard.toList
  | some t => if (Text.trim t).isEmpty then standard.toList else Text.trim t

def maxDigits : Nat := 4300

inductive ReadError where
  /-- It does not start with a number. -/
  | noNumber (t : Text)
  /-- A number has too many digits. -/
  | tooLong (digits : Nat)

def ReadError.message : ReadError → String
  | .noNumber t => "Invalid PG version: " ++ String.ofList t
  | .tooLong n =>
    "Exceeds the limit (" ++ toString maxDigits ++ " digits) for integer string conversion: value has "
      ++ toString n ++ " digits; use sys.set_int_max_str_digits() to increase the limit"

def readNumber (ds : Text) : Except ReadError Nat :=
  if ds.length > maxDigits then .error (.tooLong ds.length) else .ok (Text.number ds)

/-- Reads a version at the start of a text, after white space; a missing minor number is zero, and what
follows does not matter. -/
def read (t : Text) : Except ReadError Version :=
  let r := Text.trimStart t
  let major := r.takeWhile Text.isDigit
  if major.isEmpty then .error (.noNumber t)
  else do
    let major ← readNumber major
    let minor ← match r.dropWhile Text.isDigit with
      | '.' :: r => readNumber (r.takeWhile Text.isDigit)
      | _ => .ok 0
    .ok ⟨major, minor⟩

def read? (t : Text) : Option Version := (read t).toOption

def lt (a b : Version) : Bool := a.major < b.major || (a.major == b.major && a.minor < b.minor)

def lastRawLayout : Version := ⟨2, 17⟩

/-- Whether a wanted version can be read and is not later than `lastRawLayout`. -/
def allowsRawLayout (wanted : Option Text) : Bool :=
  (read? (normalize wanted)).any fun v => !lastRawLayout.lt v

end Version
end ProblemLint
