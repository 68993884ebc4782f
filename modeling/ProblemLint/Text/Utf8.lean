import ProblemLint.Text.Lines

/-! Texts as bytes. A character takes one to four bytes; the first byte says how many follow and which
second bytes are allowed, so that every character has one form and surrogates have none. -/

namespace ProblemLint

abbrev Bytes := List UInt8

namespace Utf8

def encodeChar (c : Char) : Bytes :=
  let n := c.toNat
  let cont := fun unit => (0x80 + n / unit % 64).toUInt8
  if n < 0x80 then [n.toUInt8]
  else if n < 0x800 then [(0xC0 + n / 64).toUInt8, cont 1]
  else if n < 0x10000 then [(0xE0 + n / 4096).toUInt8, cont 64, cont 1]
  else [(0xF0 + n / 262144).toUInt8, cont 4096, cont 64, cont 1]

def encode (t : Text) : Bytes := t.flatMap encodeChar

inductive Reason where
  /-- No character starts with this byte. -/
  | start
  /-- A byte that should continue a character does not. -/
  | continuation
  /-- The bytes end inside a character. -/
  | ending
  deriving DecidableEq, Repr

namespace Reason

def message : Reason → String
  | .start => "invalid start byte"
  | .continuation => "invalid continuation byte"
  | .ending => "unexpected end of data"

end Reason

/-- What a first byte announces: how many bytes follow, the least and the greatest second byte, and the bits of
the character that the first byte holds. -/
structure Lead where
  following : Nat
  least : UInt8 := 0x80
  greatest : UInt8 := 0xBF
  bits : Nat

def lead? (b : UInt8) : Option Lead :=
  let n := b.toNat
  if n < 0x80 then some { following := 0, bits := n }
  else if n < 0xC2 then none
  else if n < 0xE0 then some { following := 1, bits := n - 0xC0 }
  else if n == 0xE0 then some { following := 2, least := 0xA0, bits := 0 }
  else if n == 0xED then some { following := 2, greatest := 0x9F, bits := 0xD }
  else if n < 0xF0 then some { following := 2, bits := n - 0xE0 }
  else if n == 0xF0 then some { following := 3, least := 0x90, bits := 0 }
  else if n < 0xF4 then some { following := 3, bits := n - 0xF0 }
  else if n == 0xF4 then some { following := 3, greatest := 0x8F, bits := 4 }
  else none

/-- Reads the bytes that follow a first byte: the character's number, or why there is none and how many of
the bytes belong to the fault. -/
def follow : Nat → UInt8 → UInt8 → Nat → Bytes → Except (Reason × Nat) Nat
  | 0, _, _, bits, _ => .ok bits
  | _ + 1, _, _, _, [] => .error (.ending, 0)
  | k + 1, least, greatest, bits, b :: r =>
    if least ≤ b && b ≤ greatest then
      (follow k 0x80 0xBF (bits * 64 + (b.toNat - 0x80)) r).mapError fun (e, n) => (e, n + 1)
    else .error (.continuation, 0)

/-- One character or one fault at the head of the bytes, and how many bytes it takes after the first. -/
def step (b : UInt8) (r : Bytes) : Except (Reason × Nat) (Char × Nat) :=
  match lead? b with
  | none => .error (.start, 0)
  | some l => (follow l.following l.least l.greatest l.bits r).map fun n => (Char.ofNat n, l.following)

structure Fault where
  reason : Reason
  position : Nat
  /-- How many bytes the fault takes. -/
  size : Nat
  byte : UInt8
  deriving DecidableEq, Repr

namespace Fault

def message (f : Fault) : Text :=
  let place := if f.size == 1 then
      " byte 0x".toList ++ (Nat.toDigits 16 f.byte.toNat) ++ " in position ".toList
        ++ (toString f.position).toList
    else
      " bytes in position ".toList ++ (toString f.position).toList ++ '-'
        :: (toString (f.position + f.size - 1)).toList
  "'utf-8' codec can't decode".toList ++ place ++ ": ".toList ++ f.reason.message.toList

end Fault

def pieces (position : Nat) : Bytes → List (Except Fault Char)
  | [] => []
  | b :: r =>
    match step b r with
    | .ok (c, n) => .ok c :: pieces (position + n + 1) (r.drop n)
    | .error (e, n) => .error ⟨e, position, n + 1, b⟩ :: pieces (position + n + 1) (r.drop n)
  termination_by bs => bs.length
  decreasing_by all_goals simp +arith

def decode (bs : Bytes) : Except Fault Text := (pieces 0 bs).mapM fun p => p

def decodeLeniently (bs : Bytes) : Text := (pieces 0 bs).filterMap fun
  | .ok c => some c
  | .error _ => none

def readText (bs : Bytes) : Except Fault Text := (decode bs).map Text.universalNewlines

def readTextLeniently (bs : Bytes) : Text := Text.universalNewlines (decodeLeniently bs)

end Utf8
end ProblemLint
