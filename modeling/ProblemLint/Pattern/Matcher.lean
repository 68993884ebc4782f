import ProblemLint.Pattern.Basic

/-! Matching by backtracking. `Pattern.attempt` hands every way to match, in order of preference, to the
continuation until one succeeds; `Pattern.search?` and `Pattern.findAll` look for matches from left to
right. -/

namespace ProblemLint

/-- A place in a text: what has been passed, nearest first, its position, and what follows. -/
structure Cursor where
  passed : Text
  pos : Nat
  after : Text

namespace Cursor

def ofText (t : Text) : Cursor := ⟨[], 0, t⟩

def before (c : Cursor) : Option Char := c.passed.head?

def skip : Nat → Cursor → Cursor
  | 0, c => c
  | n + 1, c =>
    match c.after with
    | [] => c
    | x :: r => skip n ⟨x :: c.passed, c.pos + 1, r⟩

def back? : Nat → Cursor → Option Cursor
  | 0, c => some c
  | n + 1, c =>
    match c.passed with
    | [] => none
    | x :: r => back? n ⟨r, c.pos - 1, x :: c.after⟩

def step? (accept : Char → Bool) (c : Cursor) : Option Cursor :=
  match c.after with
  | [] => none
  | x :: r => if accept x then some ⟨x :: c.passed, c.pos + 1, r⟩ else none

def expect? (small : Char → Char) : Text → Cursor → Option Cursor
  | [], c => some c
  | x :: xs, c => (c.step? (small · == small x)).bind (expect? small xs)

def exactly? (accept : Char → Bool) : Nat → Cursor → Option Cursor
  | 0, c => some c
  | n + 1, c => (c.step? accept).bind (exactly? accept n)

/-- The places reached by accepted characters, at most `most` of them, the furthest first. -/
def reachFrom (accept : Char → Bool) (seen : List Cursor) :
    Text → Nat → Option Nat → Text → List Cursor
  | passed, pos, _, [] => ⟨passed, pos, []⟩ :: seen
  | passed, pos, most, x :: r =>
    if most != some 0 && accept x then
      reachFrom accept (⟨passed, pos, x :: r⟩ :: seen) (x :: passed) (pos + 1) (most.map (· - 1)) r
    else ⟨passed, pos, x :: r⟩ :: seen

def reach (accept : Char → Bool) (most : Option Nat) (c : Cursor) : List Cursor :=
  reachFrom accept [] c.passed c.pos most c.after

end Cursor

structure Capture where
  number : Nat
  start : Nat
  text : Text

/-- A match: where it starts and ends, its text and its captures, latest first. -/
structure Match where
  start : Nat
  stop : Nat
  text : Text
  captures : List Capture

namespace Match

def capture? (m : Match) (number : Nat) : Option Capture :=
  m.captures.find? (·.number == number)

def group (m : Match) (number : Nat) : Text :=
  ((m.capture? number).map (·.text)).getD []

end Match

abbrev Captures := List Capture

namespace Captures

def find? (cs : Captures) (number : Nat) : Option Capture := List.find? (·.number == number) cs

/-- A group that is entered again forgets a text that ended earlier. -/
def reopen (cs : Captures) (number pos : Nat) : Captures :=
  cs.filter fun g => g.number != number || pos ≤ g.start + g.text.length

def keep (cs : Captures) (number : Nat) (first last : Cursor) : Captures :=
  ⟨number, first.pos, first.after.take (last.pos - first.pos)⟩ :: cs

end Captures

namespace Pattern

abbrev Way := Option (Cursor × Captures)

/-- What remains to be matched after a place has been reached. -/
abbrev Rest := Cursor → Captures → Way

def exactly (body : Cursor → Captures → Rest → Way) : Nat → Cursor → Captures → Rest → Way
  | 0, c, cs, k => k c cs
  | n + 1, c, cs, k => body c cs fun c' cs' => exactly body n c' cs' k

/-- Up to `most` further bodies. A body that matches the empty text ends the repetition. -/
def upTo (body : Cursor → Captures → Rest → Way) (longest : Bool) :
    Nat → Option Nat → Cursor → Captures → Rest → Way
  | 0, _, c, cs, k => k c cs
  | fuel + 1, most, c, cs, k =>
    if most == some 0 then k c cs
    else
      let further := fun (_ : Unit) => body c cs fun c' cs' =>
        if c'.pos == c.pos then k c' cs'
        else upTo body longest fuel (most.map (· - 1)) c' cs' k
      if longest then further () <|> k c cs else k c cs <|> further ()

/-- Tries the ways to match a pattern at a place, in order of preference. `size` bounds the number of
repetitions and is at least the length of the text. -/
def attempt (size : Nat) : Pattern → Cursor → Captures → Rest → Way
  | .nothing, c, cs, k => k c cs
  | .one accept, c, cs, k =>
    match c.step? accept with
    | some c' => k c' cs
    | none => none
  | .run accept least most longest, c, cs, k =>
    match c.exactly? accept least with
    | none => none
    | some c' =>
      let ends := c'.reach accept (most.map (· - least))
      (if longest then ends else ends.reverse).findSome? fun e => k e cs
  | .seq a b, c, cs, k => attempt size a c cs fun c' cs' => attempt size b c' cs' k
  | .alt a b, c, cs, k =>
    match attempt size a c cs k with
    | some r => some r
    | none => attempt size b c cs k
  | .repeated body least most longest, c, cs, k =>
    exactly (attempt size body) least c cs fun c' cs' =>
      upTo (attempt size body) longest size (most.map (· - least)) c' cs' k
  | .group n body, c, cs, k =>
    attempt size body c (cs.reopen n c.pos) fun c' cs' => k c' (cs'.keep n c c')
  | .again n small, c, cs, k =>
    match cs.find? n with
    | none => none
    | some g =>
      match c.expect? small g.text with
      | some c' => k c' cs
      | none => none
  | .here test, c, cs, k => if test c.before c.after then k c cs else none
  | .ahead positive body, c, cs, k =>
    match attempt size body c cs fun c' cs' => some (c', cs') with
    | some (_, cs') => if positive then k c cs' else none
    | none => if positive then none else k c cs
  | .behind positive width body, c, cs, k =>
    match (c.back? width).bind fun b => attempt size body b cs fun c' cs' => some (c', cs') with
    | some (_, cs') => if positive then k c cs' else none
    | none => if positive then none else k c cs
  | .only body, c, cs, k =>
    match attempt size body c cs fun c' cs' => some (c', cs') with
    | some (c', cs') => k c' cs'
    | none => none
  | .ifKept n yes no, c, cs, k =>
    if (cs.find? n).isSome then attempt size yes c cs k else attempt size no c cs k

/-- The preferred match that starts at a place; with `advance` it must not be empty. -/
def matchAt? (size : Nat) (p : Pattern) (advance : Bool) (c : Cursor) : Option (Match × Cursor) :=
  (attempt size p c [] fun c' cs => if advance && c'.pos == c.pos then none else some (c', cs)).map
    fun (c', cs) => (⟨c.pos, c'.pos, c.after.take (c'.pos - c.pos), cs⟩, c')

def searchFrom? (size : Nat) (p : Pattern) (advance : Bool) (passed : Text) (pos : Nat) :
    Text → Option (Match × Cursor)
  | [] => matchAt? size p advance ⟨passed, pos, []⟩
  | x :: r =>
    match matchAt? size p advance ⟨passed, pos, x :: r⟩ with
    | some m => some m
    | none => searchFrom? size p false (x :: passed) (pos + 1) r

/-- The matches from a place on, from left to right and without overlap. After an empty match the next one
must not be empty at the same place. -/
def matchesFrom (size : Nat) (p : Pattern) : Nat → Bool → Cursor → List Match
  | 0, _, _ => []
  | fuel + 1, advance, c =>
    match searchFrom? size p advance c.passed c.pos c.after with
    | none => []
    | some (m, c') => m :: matchesFrom size p fuel (m.start == m.stop) c'

def findAll (p : Pattern) (t : Text) : List Match :=
  let n := t.length
  matchesFrom (n + 1) p (2 * n + 2) false (Cursor.ofText t)

def search? (p : Pattern) (t : Text) : Option Match :=
  (searchFrom? (t.length + 1) p false [] 0 t).map (·.1)

def occursIn (p : Pattern) (t : Text) : Bool := (p.search? t).isSome

def searchAfter? (p : Pattern) (t : Text) (pos : Nat) : Option Match :=
  let c := Cursor.skip pos (Cursor.ofText t)
  (searchFrom? (t.length + 1) p false c.passed c.pos c.after).map (·.1)

def lead? (p : Pattern) (t : Text) : Option Match :=
  (matchAt? (t.length + 1) p false (Cursor.ofText t)).map (·.1)

end Pattern
end ProblemLint
