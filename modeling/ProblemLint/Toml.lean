import ProblemLint.Value.Reader

/-! Reading project files in TOML: tables under headers in brackets, keys with values, comments. A table is
opened once, a key is set once, and what is written in one piece (a list, a table in braces) is not extended
later. Dates are not read. -/

namespace ProblemLint.Toml

abbrev Key := List String

/-! ### Characters -/

def isSpace (c : Char) : Bool := c == ' ' || c == '\t'

def skipSpace (t : Text) : Text := t.dropWhile isSpace

/-- Control characters may stand nowhere; where they may, the tab and the line feed are let through. -/
def isControl (c : Char) : Bool := c.toNat < 32 || c.toNat == 127

def isKeyChar (c : Char) : Bool :=
  ('a' ≤ c && c ≤ 'z') || ('A' ≤ c && c ≤ 'Z') || ('0' ≤ c && c ≤ '9') || c == '-' || c == '_'

def isAllowed (manyLines : Bool) (c : Char) : Bool :=
  !isControl c || c == '\t' || (manyLines && c == '\n')

def skipComment (t : Text) : Option Text :=
  match t with
  | '#' :: r => if (r.takeWhile (· != '\n')).all (isAllowed false) then some (r.dropWhile (· != '\n')) else none
  | _ => some t

def skipFiller : Nat → Text → Option Text
  | 0, t => some t
  | fuel + 1, t =>
    match t.dropWhile fun c => isSpace c || c == '\n' with
    | '#' :: r => do skipFiller fuel (← skipComment ('#' :: r))
    | r => some r

/-! ### Texts -/

def codePoint? (digits : Nat) (t : Text) : Option (Char × Text) := do
  let (n, r) ← Text.hexNumber? digits t
  if n < 0xD800 || (0xDFFF < n && n < 0x110000) then some (Char.ofNat n, r) else none

def escape? : Text → Option (Char × Text)
  | 'b' :: r => some ('\x08', r)
  | 't' :: r => some ('\t', r)
  | 'n' :: r => some ('\n', r)
  | 'f' :: r => some ('\x0c', r)
  | 'r' :: r => some ('\r', r)
  | '"' :: r => some ('"', r)
  | '\\' :: r => some ('\\', r)
  | 'u' :: r => codePoint? 4 r
  | 'U' :: r => codePoint? 8 r
  | _ => none

/-- A backslash at the end of a line takes the line end and the blanks after it away. -/
def foldedLine? (t : Text) : Option Text :=
  match skipSpace t with
  | '\n' :: r => some (r.dropWhile fun c => isSpace c || c == '\n')
  | _ => none

def basic? : Nat → Text → Text → Option (Text × Text)
  | 0, _, _ => none
  | _ + 1, _, [] => none
  | _ + 1, acc, '"' :: r => some (acc.reverse, r)
  | fuel + 1, acc, '\\' :: r => do
    let (c, r) ← escape? r
    basic? fuel (c :: acc) r
  | fuel + 1, acc, c :: r => if isAllowed false c then basic? fuel (c :: acc) r else none

def literal? (t : Text) : Option (Text × Text) := do
  let (s, r) ← Text.splitFirst? '\'' t
  if s.all (isAllowed false) then some (s, r) else none

/-- Up to two quotes right before three closing ones belong to the text. -/
def closing (quote : Char) (acc : Text) : Text → Text × Text
  | a :: b :: r =>
    if a == quote && b == quote then ((quote :: quote :: acc).reverse, r)
    else if a == quote then ((quote :: acc).reverse, b :: r)
    else (acc.reverse, a :: b :: r)
  | [a] => if a == quote then ((quote :: acc).reverse, []) else (acc.reverse, [a])
  | [] => (acc.reverse, [])

def longBasic? : Nat → Text → Text → Option (Text × Text)
  | 0, _, _ => none
  | _ + 1, _, [] => none
  | _ + 1, acc, '"' :: '"' :: '"' :: r => some (closing '"' acc r)
  | fuel + 1, acc, '\\' :: r =>
    match r.head? with
    | some c =>
      if isSpace c || c == '\n' then do longBasic? fuel acc (← foldedLine? r)
      else do
        let (c, r) ← escape? r
        longBasic? fuel (c :: acc) r
    | none => none
  | fuel + 1, acc, c :: r => if isAllowed true c then longBasic? fuel (c :: acc) r else none

def longLiteral? (acc : Text) : Text → Option (Text × Text)
  | '\'' :: '\'' :: '\'' :: r => some (closing '\'' acc r)
  | c :: r => if isAllowed true c then longLiteral? (c :: acc) r else none
  | [] => none

/-- The line end right after three opening quotes is not part of the text. -/
def skipFirstLineEnd : Text → Text
  | '\n' :: r => r
  | t => t

def text? (t : Text) : Option (Text × Text) :=
  match t with
  | '"' :: '"' :: '"' :: r => longBasic? (r.length + 1) [] (skipFirstLineEnd r)
  | '"' :: r => basic? (r.length + 1) [] r
  | '\'' :: '\'' :: '\'' :: r => longLiteral? [] (skipFirstLineEnd r)
  | '\'' :: r => literal? r
  | _ => none

/-! ### Keys -/

def keyPart? (t : Text) : Option (String × Text) :=
  match t with
  | '"' :: r => (basic? (r.length + 1) [] r).map fun (s, r) => (String.ofList s, r)
  | '\'' :: r => (literal? r).map fun (s, r) => (String.ofList s, r)
  | _ =>
    let name := t.takeWhile isKeyChar
    if name.isEmpty then none else some (String.ofList name, t.dropWhile isKeyChar)

def key? : Nat → Text → Option (Key × Text)
  | 0, _ => none
  | fuel + 1, t => do
    let (part, r) ← keyPart? t
    match skipSpace r with
    | '.' :: r =>
      let (rest, r) ← key? fuel (skipSpace r)
      some (part :: rest, r)
    | r => some ([part], r)

/-! ### Numbers -/

/-- Digits, each but the first with an underscore before it or not. -/
def digitRun (isDigit : Char → Bool) : Text → Text × Text
  | '_' :: c :: r =>
    if isDigit c then
      let (ds, r) := digitRun isDigit r
      (c :: ds, r)
    else ([], '_' :: c :: r)
  | c :: r =>
    if isDigit c then
      let (ds, r) := digitRun isDigit r
      (c :: ds, r)
    else ([], c :: r)
  | [] => ([], [])

def digits? (isDigit : Char → Bool) (t : Text) : Option (Text × Text) :=
  match t with
  | c :: r =>
    if isDigit c then
      let (ds, r) := digitRun isDigit r
      some (c :: ds, r)
    else none
  | [] => none

def hexDigit (c : Char) : Nat :=
  if c ≤ '9' then c.toNat - 48 else if c ≤ 'F' then c.toNat - 55 else c.toNat - 87

def isHexDigit (c : Char) : Bool :=
  ('0' ≤ c && c ≤ '9') || ('a' ≤ c && c ≤ 'f') || ('A' ≤ c && c ≤ 'F')

def inBase (base : Nat) (ds : Text) : Value := .int (ds.foldl (fun n c => n * base + hexDigit c) 0)

/-- A decimal number; a point or an exponent makes it a fraction. -/
def decimal? (t : Text) : Option (Value × Text) := do
  let (negative, r) := match t with
    | '-' :: r => (true, r)
    | '+' :: r => (false, r)
    | _ => (false, t)
  let (whole, r) ← match r with
    | '0' :: r => some (['0'], r)
    | _ => digits? Text.isAsciiDigit r
  let (places, r) := match r with
    | '.' :: rest => (digits? Text.isAsciiDigit rest).getD ([], r)
    | _ => ([], r)
  let (exponent, r) : Option Int × Text := match r with
    | e :: rest =>
      if e == 'e' || e == 'E' then
        let (s, rest) : Int × Text := match rest with
          | '-' :: rest => (-1, rest)
          | '+' :: rest => (1, rest)
          | _ => (1, rest)
        match digits? Text.isAsciiDigit rest with
        | some (ds, rest) => (some (s * Text.number ds), rest)
        | none => (none, r)
      else (none, r)
    | [] => (none, r)
  let n := Text.number (whole ++ places)
  match places, exponent with
  | [], none => some (.int (if negative then -(n : Int) else n), r)
  | _, e => some (.ofDecimal negative n (places.length - e.getD 0), r)

def unboundedWords : List (String × Unbounded) :=
  [ ("inf", .infinite), ("+inf", .infinite), ("-inf", .minusInfinite), ("nan", .notANumber), ("+nan", .notANumber)
  , ("-nan", .notANumber) ]

def unbounded? (t : Text) : Option (Value × Text) :=
  unboundedWords.findSome? fun (w, u) => (Text.after? w.toList t).map ((.unbounded u, ·))

def number? (t : Text) : Option (Value × Text) :=
  match t with
  | '0' :: 'x' :: r => (digits? isHexDigit r).map fun (ds, r) => (inBase 16 ds, r)
  | '0' :: 'o' :: r => (digits? (fun c => '0' ≤ c && c ≤ '7') r).map fun (ds, r) => (inBase 8 ds, r)
  | '0' :: 'b' :: r => (digits? (fun c => c == '0' || c == '1') r).map fun (ds, r) => (inBase 2 ds, r)
  | _ => (unbounded? t).or (decimal? t)

/-! ### Tables -/

/-- Changes the table that a key leads to, making tables on the way. With `intoLists` a list of tables stands for its
last one. -/
def within (intoLists : Bool) (change : Fields → Option Fields) : Key → Fields → Option Fields
  | [], fs => change fs
  | k :: ks, fs =>
    match Fields.get? fs k with
    | none => (within intoLists change ks []).map fun inner => Fields.set fs k (.record inner)
    | some (.record inner) => (within intoLists change ks inner).map fun inner => Fields.set fs k (.record inner)
    | some (.list xs) =>
      match intoLists, xs.getLast? with
      | true, some (.record inner) =>
        (within intoLists change ks inner).map fun inner => Fields.set fs k (.list (xs.dropLast ++ [.record inner]))
      | _, _ => none
    | some _ => none

def insert (intoLists : Bool) (key : Key) (v : Value) (fs : Fields) : Option Fields :=
  match key.getLast? with
  | none => none
  | some name =>
    within intoLists (fun inner => if (Fields.get? inner name).isSome then none else some (inner ++ [(name, v)]))
      key.dropLast fs

def push (key : Key) (fs : Fields) : Option Fields :=
  match key.getLast? with
  | none => none
  | some name =>
    within true
      (fun inner =>
        match Fields.get? inner name with
        | none => some (inner ++ [(name, .list [.record []])])
        | some (.list xs) => some (Fields.set inner name (.list (xs ++ [.record []])))
        | some _ => none)
      key.dropLast fs

/-- Whether a key or one above it is in a list of keys that are not to be extended. -/
def isFrozen (frozen : List Key) (key : Key) : Bool := frozen.any (·.isPrefixOf key)

def isCompound : Value → Bool
  | .list _ | .record _ => true
  | _ => false

mutual

def value? : Nat → Text → Option (Value × Text)
  | 0, _ => none
  | fuel + 1, t =>
    match t with
    | '[' :: r => do
      match ← skipFiller r.length r with
      | ']' :: r => some (.list [], r)
      | r => (items? fuel r).map fun (xs, r) => (.list xs, r)
    | '{' :: r =>
      match skipSpace r with
      | '}' :: r => some (.record [], r)
      | r => (fields? fuel [] [] r).map fun (fs, r) => (.record fs, r)
    | '"' :: _ | '\'' :: _ => (text? t).map fun (s, r) => (.str (String.ofList s), r)
    | _ =>
      match Text.after? "true".toList t, Text.after? "false".toList t with
      | some r, _ => some (.bool true, r)
      | _, some r => some (.bool false, r)
      | _, _ => number? t

def items? : Nat → Text → Option (List Value × Text)
  | 0, _ => none
  | fuel + 1, t => do
    let (x, r) ← value? fuel t
    match ← skipFiller r.length r with
    | ']' :: r => some ([x], r)
    | ',' :: r =>
      match ← skipFiller r.length r with
      | ']' :: r => some ([x], r)
      | r =>
        let (xs, r) ← items? fuel r
        some (x :: xs, r)
    | _ => none

def fields? : Nat → List Key → Fields → Text → Option (Fields × Text)
  | 0, _, _, _ => none
  | fuel + 1, frozen, fs, t => do
    let (key, v, r) ← pair? fuel t
    if isFrozen frozen key then none
    let fs ← insert false key v fs
    match skipSpace r with
    | '}' :: r => some (fs, r)
    | ',' :: r => fields? fuel (if isCompound v then key :: frozen else frozen) fs (skipSpace r)
    | _ => none

def pair? : Nat → Text → Option (Key × Value × Text)
  | 0, _ => none
  | fuel + 1, t => do
    let (key, r) ← key? (t.length + 1) t
    match r with
    | '=' :: r =>
      let (v, r) ← value? fuel (skipSpace r)
      some (key, v, r)
    | _ => none

end

/-! ### Documents -/

/-- What has been read: the data, the table that keys go to, and what may not be opened or extended any more. -/
structure State where
  data : Fields := []
  header : Key := []
  /-- Tables opened by a header or, before the current header, by a key with points. -/
  opened : List Key := []
  /-- Tables opened by keys with points under the current header. -/
  pending : List Key := []
  frozen : List Key := []

namespace State

def settle (s : State) : State := { s with opened := s.pending ++ s.opened, pending := [] }

def openTable (s : State) (key : Key) : Option State := do
  if s.opened.contains key || isFrozen s.frozen key then none
  let data ← within true some key s.data
  some { s with data, header := key, opened := key :: s.opened }

def openItem (s : State) (key : Key) : Option State := do
  if isFrozen s.frozen key then none
  let data ← push key s.data
  some { s with
    data, header := key
    opened := key :: s.opened.filter (!key.isPrefixOf ·)
    frozen := s.frozen.filter (!key.isPrefixOf ·) }

/-- The keys between the current table and the one that a key with points names. -/
def between (s : State) (key : Key) : List Key :=
  (List.range key.length).tail.map fun n => s.header ++ key.take n

def assign (s : State) (key : Key) (v : Value) : Option State := do
  let passed := s.between key
  if passed.any s.opened.contains then none
  if isFrozen s.frozen (s.header ++ key.dropLast) then none
  let data ← insert true (s.header ++ key) v s.data
  some { s with
    data, pending := passed ++ s.pending
    frozen := if isCompound v then (s.header ++ key) :: s.frozen else s.frozen }

end State

def statement? (s : State) (t : Text) : Option (State × Text) :=
  match t with
  | '[' :: '[' :: r => do
    let (key, r) ← key? (r.length + 1) (skipSpace r)
    match r with
    | ']' :: ']' :: r => some (← s.settle.openItem key, r)
    | _ => none
  | '[' :: r => do
    let (key, r) ← key? (r.length + 1) (skipSpace r)
    match r with
    | ']' :: r => some (← s.settle.openTable key, r)
    | _ => none
  | '#' :: _ => some (s, t)
  | _ => do
    let (key, v, r) ← pair? (t.length + 1) t
    some (← s.assign key v, r)

def statements? : Nat → State → Text → Option State
  | 0, _, _ => none
  | fuel + 1, s, t =>
    match skipSpace t with
    | [] => some s
    | '\n' :: r => statements? fuel s r
    | r => do
      let (s, r) ← statement? s r
      match ← skipComment (skipSpace r) with
      | [] => some s
      | '\n' :: r => statements? fuel s r
      | _ => none

/-- A carriage return before a line feed is no part of the document. -/
def plainLineEnds : Text → Text
  | '\r' :: '\n' :: r => '\n' :: plainLineEnds r
  | c :: r => c :: plainLineEnds r
  | [] => []

def read? (t : Text) : Option Fields :=
  let t := plainLineEnds t
  (statements? (t.length + 1) {} t).map (·.data)

end ProblemLint.Toml
