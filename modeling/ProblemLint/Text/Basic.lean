import ProblemLint.Text.Blank

/-! Cutting, searching and joining texts. -/

namespace ProblemLint.Text

/-- A position as a slice understands it: a negative one counts from the end, and every one is moved
into the text. -/
def clamp (size : Nat) (i : Int) : Nat :=
  if i < 0 then (i + size).toNat else min i.toNat size

def slice (t : Text) (i j : Int) : Text :=
  let a := clamp t.length i
  let b := clamp t.length j
  (t.drop a).take (b - a)

/-- The characters met when reading on from a position. A negative one counts from the end, and what follows the end
is the text once more; before that there is nothing to read. -/
def readFrom? (t : Text) (i : Int) : Option Text :=
  if 0 ≤ i then some (t.drop i.toNat)
  else if 0 ≤ i + t.length then some (t.drop (i + t.length).toNat ++ t)
  else none

def after? (lead t : Text) : Option Text := lead.isPrefixOf? t

def startsWith (t : Text) (lead : String) : Bool := lead.toList.isPrefixOf t

def endsWith (t : Text) (tail : String) : Bool := tail.toList.isSuffixOf t

def find? (needle : Text) : Text → Option Nat
  | [] => if needle.isEmpty then some 0 else none
  | c :: r => if needle.isPrefixOf (c :: r) then some 0 else (find? needle r).map (· + 1)

def includes (t : Text) (needle : String) : Bool := (find? needle.toList t).isSome

def splitOn (sep : Char) : Text → List Text
  | [] => [[]]
  | c :: r =>
    match splitOn sep r with
    | [] => [[c]]
    | part :: parts => if c == sep then [] :: part :: parts else (c :: part) :: parts

def splitFirst? (sep : Char) : Text → Option (Text × Text)
  | [] => none
  | c :: r => if c == sep then some ([], r) else (splitFirst? sep r).map fun (a, b) => (c :: a, b)

def splitLast? (sep : Char) : Text → Option (Text × Text)
  | [] => none
  | c :: r =>
    match splitLast? sep r with
    | some (a, b) => some (c :: a, b)
    | none => if c == sep then some ([], r) else none

/-- The maximal runs without white space. -/
def wordsFrom (word : Text) : Text → List Text
  | [] => if word.isEmpty then [] else [word.reverse]
  | c :: r =>
    if isBlank c then if word.isEmpty then wordsFrom [] r else word.reverse :: wordsFrom [] r
    else wordsFrom (c :: word) r

def words (t : Text) : List Text := wordsFrom [] t

def le : Text → Text → Bool
  | [], _ => true
  | _ :: _, [] => false
  | a :: as, b :: bs => if a == b then le as bs else a < b

end ProblemLint.Text

namespace ProblemLint

def sortedNames (names : List String) : List String :=
  (names.mergeSort fun a b => a ≤ b).eraseReps

end ProblemLint
