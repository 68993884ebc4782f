import ProblemLint.Text.Basic

/-! The ASCII characters by their names, and the other names of the control characters. A character beyond them is
written by its number. -/

namespace ProblemLint.Text.CharName

/-- The signs before, between and behind the digits and the letters, each run with its first code point. -/
def signs : List (Nat × List String) :=
  [ (0x20, ["SPACE", "EXCLAMATION MARK", "QUOTATION MARK", "NUMBER SIGN", "DOLLAR SIGN", "PERCENT SIGN", "AMPERSAND",
      "APOSTROPHE", "LEFT PARENTHESIS", "RIGHT PARENTHESIS", "ASTERISK", "PLUS SIGN", "COMMA", "HYPHEN-MINUS",
      "FULL STOP", "SOLIDUS"])
  , (0x3a, ["COLON", "SEMICOLON", "LESS-THAN SIGN", "EQUALS SIGN", "GREATER-THAN SIGN", "QUESTION MARK",
      "COMMERCIAL AT"])
  , (0x5b, ["LEFT SQUARE BRACKET", "REVERSE SOLIDUS", "RIGHT SQUARE BRACKET", "CIRCUMFLEX ACCENT", "LOW LINE",
      "GRAVE ACCENT"])
  , (0x7b, ["LEFT CURLY BRACKET", "VERTICAL LINE", "RIGHT CURLY BRACKET", "TILDE"]) ]

def digits : List String :=
  ["ZERO", "ONE", "TWO", "THREE", "FOUR", "FIVE", "SIX", "SEVEN", "EIGHT", "NINE"]

def controls : List (String × Nat) :=
  [("NULL", 0), ("NUL", 0), ("START OF HEADING", 1), ("SOH", 1), ("START OF TEXT", 2), ("STX", 2),
    ("END OF TEXT", 3), ("ETX", 3), ("END OF TRANSMISSION", 4), ("EOT", 4), ("ENQUIRY", 5), ("ENQ", 5),
    ("ACKNOWLEDGE", 6), ("ACK", 6), ("ALERT", 7), ("BEL", 7), ("BACKSPACE", 8), ("BS", 8),
    ("CHARACTER TABULATION", 9), ("HORIZONTAL TABULATION", 9), ("HT", 9), ("TAB", 9), ("LINE FEED", 10),
    ("NEW LINE", 10), ("END OF LINE", 10), ("LF", 10), ("NL", 10), ("EOL", 10), ("LINE TABULATION", 11),
    ("VERTICAL TABULATION", 11), ("VT", 11), ("FORM FEED", 12), ("FF", 12), ("CARRIAGE RETURN", 13), ("CR", 13),
    ("SHIFT OUT", 14), ("LOCKING-SHIFT ONE", 14), ("SO", 14), ("SHIFT IN", 15), ("LOCKING-SHIFT ZERO", 15),
    ("SI", 15), ("DATA LINK ESCAPE", 16), ("DLE", 16), ("DEVICE CONTROL ONE", 17), ("DC1", 17),
    ("DEVICE CONTROL TWO", 18), ("DC2", 18), ("DEVICE CONTROL THREE", 19), ("DC3", 19),
    ("DEVICE CONTROL FOUR", 20), ("DC4", 20), ("NEGATIVE ACKNOWLEDGE", 21), ("NAK", 21),
    ("SYNCHRONOUS IDLE", 22), ("SYN", 22), ("END OF TRANSMISSION BLOCK", 23), ("ETB", 23), ("CANCEL", 24),
    ("CAN", 24), ("END OF MEDIUM", 25), ("EOM", 25), ("SUBSTITUTE", 26), ("SUB", 26), ("ESCAPE", 27),
    ("ESC", 27), ("INFORMATION SEPARATOR FOUR", 28), ("FILE SEPARATOR", 28), ("FS", 28),
    ("INFORMATION SEPARATOR THREE", 29), ("GROUP SEPARATOR", 29), ("GS", 29), ("INFORMATION SEPARATOR TWO", 30),
    ("RECORD SEPARATOR", 30), ("RS", 30), ("INFORMATION SEPARATOR ONE", 31), ("UNIT SEPARATOR", 31), ("US", 31),
    ("SP", 32), ("DELETE", 127), ("DEL", 127)]

def capitals (name : Text) : Text := name.map fun c => if 'a' ≤ c && c ≤ 'z' then Char.ofNat (c.toNat - 32) else c

def capital? : Text → Option Nat
  | [c] => if 'A' ≤ c && c ≤ 'Z' then some c.toNat else none
  | _ => none

def codeInRun? (wanted : Text) (start : Nat) (names : List String) : Option Nat :=
  (names.findIdx? (·.toList == wanted)).map (start + ·)

def code? (name : Text) : Option Nat :=
  let wanted := capitals name
  let letter (kind : String) (shift : Nat) := (Text.after? kind.toList wanted).bind fun r => (capital? r).map (· + shift)
  (signs.findSome? fun (start, names) => codeInRun? wanted start names)
    <|> ((Text.after? "DIGIT ".toList wanted).bind fun r => codeInRun? r 0x30 digits)
    <|> letter "LATIN CAPITAL LETTER " 0
    <|> letter "LATIN SMALL LETTER " 32
    <|> (controls.find? (·.1.toList == wanted)).map (·.2)

end ProblemLint.Text.CharName
