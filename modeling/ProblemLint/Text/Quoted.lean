import ProblemLint.Text.Printable
import ProblemLint.Text.Basic

/-! Texts in quotes. Apostrophes enclose a text unless it holds an apostrophe and no double quote; the
enclosing quote, the backslash and what cannot be shown are escaped. -/

namespace ProblemLint.Text

def hex (width n : Nat) : Text :=
  let ds := Nat.toDigits 16 n
  List.replicate (width - ds.length) '0' ++ ds

def escapedCode (n : Nat) : Text :=
  if n < 0x100 then '\\' :: 'x' :: hex 2 n
  else if n < 0x10000 then '\\' :: 'u' :: hex 4 n
  else '\\' :: 'U' :: hex 8 n

/-- One character inside quotes `q`; with `asciiOnly` everything from 128 on is escaped. -/
def quotedChar (asciiOnly : Bool) (q c : Char) : Text :=
  if c == q || c == '\\' then ['\\', c]
  else if c == '\n' then ['\\', 'n']
  else if c == '\r' then ['\\', 'r']
  else if c == '\t' then ['\\', 't']
  else if isPrintable c && !(asciiOnly && c.toNat ≥ 128) then [c]
  else escapedCode c.toNat

def quoted (asciiOnly : Bool) (t : Text) : Text :=
  let q := if t.contains '\'' && !t.contains '"' then '"' else '\''
  q :: t.flatMap (quotedChar asciiOnly q) ++ [q]

end ProblemLint.Text
