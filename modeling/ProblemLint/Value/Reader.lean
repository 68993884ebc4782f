import ProblemLint.Value.Basic
import ProblemLint.Value.Decimal
import ProblemLint.Text.Basic
import ProblemLint.Text.Digit
import ProblemLint.Text.Letter

/-! Reading values from data files. Blanks may stand between all parts, a field given twice keeps its last
value, and nothing but blanks may follow the value. -/

namespace ProblemLint.Value

def isDataBlank (c : Char) : Bool := c == ' ' || c == '\t' || c == '\n' || c == '\r'

def skipBlanks (t : Text) : Text := t.dropWhile isDataBlank

/-- The character that an escape stands for, two escapes forming one character beyond the first plane. -/
def readEscape : Text → Option (Char × Text)
  | '"' :: r => some ('"', r)
  | '\\' :: r => some ('\\', r)
  | '/' :: r => some ('/', r)
  | 'b' :: r => some ('\x08', r)
  | 'f' :: r => some ('\x0c', r)
  | 'n' :: r => some ('\n', r)
  | 'r' :: r => some ('\r', r)
  | 't' :: r => some ('\t', r)
  | 'u' :: r => do
    let (high, r) ← Text.hexNumber? 4 r
    if 0xD800 ≤ high && high ≤ 0xDBFF then
      match r with
      | '\\' :: 'u' :: r' =>
        let (low, r'') ← Text.hexNumber? 4 r'
        if 0xDC00 ≤ low && low ≤ 0xDFFF then
          some (Char.ofNat (0x10000 + (high - 0xD800) * 0x400 + (low - 0xDC00)), r'')
        else some ('�', r)
      | _ => some ('�', r)
    else some (Char.ofNat high, r)
  | _ => none

def readString : Nat → Text → Text → Option (Text × Text)
  | 0, _, _ => none
  | _ + 1, _, [] => none
  | _ + 1, acc, '"' :: r => some (acc.reverse, r)
  | fuel + 1, acc, '\\' :: r =>
    match readEscape r with
    | some (c, r) => readString fuel (c :: acc) r
    | none => none
  | fuel + 1, acc, c :: r => if c.toNat < 32 then none else readString fuel (c :: acc) r

def readNumber (t : Text) : Option (Value × Text) := do
  let (negative, t) := match t with
    | '-' :: r => (true, r)
    | _ => (false, t)
  let whole := t.takeWhile Text.isAsciiDigit
  let (whole, r) ← match whole with
    | [] => none
    | '0' :: _ => some (['0'], t.drop 1)
    | _ => some (whole, t.dropWhile Text.isAsciiDigit)
  let (fraction, r) := match r with
    | '.' :: r' =>
      let ds := r'.takeWhile Text.isAsciiDigit
      if ds.isEmpty then ([], r) else (ds, r'.dropWhile Text.isAsciiDigit)
    | _ => ([], r)
  let (exponent, hasExponent, r) := match r with
    | e :: r' =>
      if e == 'e' || e == 'E' then
        let (sign, r'') : Int × Text := match r' with
          | '-' :: r'' => (-1, r'')
          | '+' :: r'' => (1, r'')
          | _ => (1, r')
        let ds := r''.takeWhile Text.isAsciiDigit
        if ds.isEmpty then (0, false, r)
        else (sign * Text.number ds, true, r''.dropWhile Text.isAsciiDigit)
      else (0, false, r)
    | [] => ((0 : Int), false, r)
  let n := Text.number (whole ++ fraction)
  if fraction.isEmpty && !hasExponent then some (.int (if negative then -(n : Int) else n), r)
  else some (.ofDecimal negative n (fraction.length - exponent), r)

/-- The words for values that are neither numbers with digits nor texts. -/
def plainWords : List (String × Value) :=
  [ ("null", .null), ("true", .bool true), ("false", .bool false), ("NaN", .unbounded .notANumber)
  , ("Infinity", .unbounded .infinite), ("-Infinity", .unbounded .minusInfinite) ]

def readWord (t : Text) : Option (Value × Text) :=
  plainWords.findSome? fun (w, v) => (Text.after? w.toList t).map ((v, ·))

mutual

def readValue : Nat → Text → Option (Value × Text)
  | 0, _ => none
  | fuel + 1, t =>
    match t with
    | [] => none
    | '"' :: r => (readString (r.length + 1) [] r).map fun (s, r) => (.str (String.ofList s), r)
    | '[' :: r =>
      match skipBlanks r with
      | ']' :: r => some (.list [], r)
      | r => (readItems fuel r).map fun (xs, r) => (.list xs, r)
    | '{' :: r =>
      match skipBlanks r with
      | '}' :: r => some (.record [], r)
      | r => (readFields fuel [] r).map fun (fs, r) => (.record fs, r)
    | t => readWord t <|> readNumber t

def readItems : Nat → Text → Option (List Value × Text)
  | 0, _ => none
  | fuel + 1, t => do
    let (x, r) ← readValue fuel t
    match skipBlanks r with
    | ',' :: r =>
      let (xs, r) ← readItems fuel (skipBlanks r)
      some (x :: xs, r)
    | ']' :: r => some ([x], r)
    | _ => none

def readFields : Nat → Fields → Text → Option (Fields × Text)
  | 0, _, _ => none
  | fuel + 1, fs, t =>
    match t with
    | '"' :: r => do
      let (k, r) ← readString (r.length + 1) [] r
      match skipBlanks r with
      | ':' :: r =>
        let (x, r) ← readValue fuel (skipBlanks r)
        let fs := Fields.set fs (String.ofList k) x
        match skipBlanks r with
        | ',' :: r => readFields fuel fs (skipBlanks r)
        | '}' :: r => some (fs, r)
        | _ => none
      | _ => none
    | _ => none

end

def read? (t : Text) : Option Value := do
  let t := skipBlanks t
  let (v, r) ← readValue (t.length + 1) t
  if (skipBlanks r).isEmpty then some v else none

end ProblemLint.Value
