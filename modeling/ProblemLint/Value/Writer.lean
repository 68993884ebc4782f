import ProblemLint.Value.Show

/-! Writing values. The indented form puts every item and field on a line of its own and uses ASCII only. -/

namespace ProblemLint.Value

def escapedUnit (n : Nat) : Text := '\\' :: 'u' :: Text.hex 4 n

/-- A character in a written text; with `asciiOnly` those from 127 on are escaped as UTF-16 units. -/
def writtenChar (asciiOnly : Bool) (c : Char) : Text :=
  if c == '"' then ['\\', '"']
  else if c == '\\' then ['\\', '\\']
  else if c == '\n' then ['\\', 'n']
  else if c == '\r' then ['\\', 'r']
  else if c == '\t' then ['\\', 't']
  else if c == '\x08' then ['\\', 'b']
  else if c == '\x0c' then ['\\', 'f']
  else
    let n := c.toNat
    if n < 32 then escapedUnit n
    else if n < 127 || !asciiOnly then [c]
    else if n < 0x10000 then escapedUnit n
    else escapedUnit (0xD800 + (n - 0x10000) / 0x400) ++ escapedUnit (0xDC00 + (n - 0x10000) % 0x400)

def writtenString (asciiOnly : Bool) (s : String) : Text :=
  '"' :: s.toList.flatMap (writtenChar asciiOnly) ++ ['"']

def writtenUnbounded : Unbounded → Text
  | .notANumber => "NaN".toList
  | .infinite => "Infinity".toList
  | .minusInfinite => "-Infinity".toList

def newLine (depth : Nat) : Text := '\n' :: List.replicate (2 * depth) ' '

mutual

def indented (depth : Nat) : Value → Text
  | .null => "null".toList
  | .bool b => if b then "true".toList else "false".toList
  | .int n => (toString n).toList
  | .decimal m p => showDecimal m p
  | .unbounded u => writtenUnbounded u
  | .str s => writtenString true s
  | .list [] => ['[', ']']
  | .list (x :: xs) =>
    '[' :: newLine (depth + 1) ++ indented (depth + 1) x ++ indentedItems (depth + 1) xs ++ newLine depth ++ [']']
  | .record [] => ['{', '}']
  | .record ((k, x) :: fs) =>
    '{' :: newLine (depth + 1) ++ writtenString true k ++ ": ".toList ++ indented (depth + 1) x
      ++ indentedFields (depth + 1) fs ++ newLine depth ++ ['}']

def indentedItems (depth : Nat) : List Value → Text
  | [] => []
  | x :: xs => ',' :: newLine depth ++ indented depth x ++ indentedItems depth xs

def indentedFields (depth : Nat) : List (String × Value) → Text
  | [] => []
  | (k, x) :: fs =>
    ',' :: newLine depth ++ writtenString true k ++ ": ".toList ++ indented depth x
      ++ indentedFields depth fs

end

mutual

def oneLine : Value → Text
  | .null => "null".toList
  | .bool b => if b then "true".toList else "false".toList
  | .int n => (toString n).toList
  | .decimal m p => showDecimal m p
  | .unbounded u => writtenUnbounded u
  | .str s => writtenString false s
  | .list xs => '[' :: oneLineItems xs ++ [']']
  | .record fs => '{' :: oneLineFields fs ++ ['}']

def oneLineItems : List Value → Text
  | [] => []
  | [x] => oneLine x
  | x :: xs => oneLine x ++ ',' :: oneLineItems xs

def oneLineFields : List (String × Value) → Text
  | [] => []
  | [(k, x)] => writtenString false k ++ ':' :: oneLine x
  | (k, x) :: fs => writtenString false k ++ ':' :: oneLine x ++ ',' :: oneLineFields fs

end

end ProblemLint.Value
