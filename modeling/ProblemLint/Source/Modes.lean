import ProblemLint.Source.Quote
import ProblemLint.Source.Scan
import ProblemLint.Text.Basic
import ProblemLint.Text.Letter

/-! Calls of `MODES`, whose arguments give one output for each display mode, such as
`TeX => '', HTML => '<b>'`. -/

namespace ProblemLint.Modes

/-- The text before a closing delimiter; a backslash hides the next character. -/
def untilClose? (closer : Char) (escaped : Bool) : Text → Option Text
  | [] => none
  | c :: r =>
    if escaped then (untilClose? closer false r).map (c :: ·)
    else if c == '\\' then (untilClose? closer true r).map (c :: ·)
    else if c == closer then some []
    else (untilClose? closer false r).map (c :: ·)

def isQuote (c : Char) : Bool := c == '\'' || c == '"'

def quoted? : Text → Option (Text × Nat)
  | [] => none
  | q :: r =>
    if isQuote q then (untilClose? q false r).map fun inner => (inner, inner.length + 2) else none

def closerOf : Char → Char
  | '{' => '}'
  | '(' => ')'
  | '[' => ']'
  | '<' => '>'
  | c => c

def generalQuoted? (t : Text) : Option (Text × Nat) := do
  let (tag, r) ← match t with
    | 'q' :: 'q' :: r => some (2, r)
    | 'q' :: r => some (1, r)
    | _ => none
  match r with
  | [] => none
  | d :: body => (untilClose? (closerOf d) false body).map fun inner => (inner, tag + inner.length + 2)

def quotedAt? (t : Text) (start : Int) : Option (Text × Int) := do
  let (_, n) ← quoted? (← Text.readFrom? t start)
  some (Text.slice t (start + 1) (start + n - 1), start + n)

def generalQuotedAt? (t : Text) (start : Int) : Option (Text × Int) := do
  let tag : Int ←
    if Text.slice t start (start + 2) == ['q', 'q'] then some 2
    else if Text.slice t start (start + 1) == ['q'] then some 1
    else none
  let first := start + tag + 1
  match ← Text.readFrom? t (start + tag) with
  | [] => none
  | d :: body => (untilClose? (closerOf d) false body).map fun inner =>
    (Text.slice t first (first + inner.length), first + inner.length + 1)

inductive Output where
  | literal (t : Text)
  /-- Quotes that are not closed. -/
  | unclosed
  /-- Nothing. -/
  | missing
  /-- An expression. -/
  | expression
  deriving DecidableEq, Repr

/-- The output for a mode at the start of a text: the mode's name alone, an arrow and a value; and the number of
characters after which reading goes on. -/
def outputAt? (mode : String) (before : Option Char) (t : Text) : Option (Output × Nat) := do
  if before.any Text.isWord then none
  let r ← Text.after? mode.toList t
  if r.head?.any Text.isWord then none
  let r ← Text.after? "=>".toList (Text.trimStart r)
  let value := Text.trimStart r
  let lead := t.length - value.length
  match value with
  | [] => some (.missing, lead)
  | c :: _ =>
    if isQuote c then
      match quoted? value with
      | some (inner, n) => some (.literal inner, lead + n)
      | none => some (.unclosed, lead + 1)
    else
      match generalQuoted? value with
      | some (inner, n) => some (.literal inner, lead + n)
      | none => some (.expression, 1)

/-- The outputs for a mode in the arguments of a call, with the positions of the mode's name. Names in literals do
not count; `skip` characters are still covered by the last output. -/
def outputsFrom (mode : String) (f : QuoteFlags) (skip : Nat) (before : Option Char) (pos : Nat) :
    Text → List (Nat × Output)
  | [] => []
  | c :: r =>
    match skip with
    | n + 1 => outputsFrom mode f n (some c) (pos + 1) r
    | 0 =>
      match f.byPlace? c with
      | some f => outputsFrom mode f 0 (some c) (pos + 1) r
      | none =>
        match outputAt? mode before (c :: r) with
        | some (o, n) => (pos, o) :: outputsFrom mode f (n - 1) (some c) (pos + 1) r
        | none => outputsFrom mode f 0 (some c) (pos + 1) r

def outputs (mode : String) (arguments : Text) : List (Nat × Output) :=
  outputsFrom mode {} 0 none 0 arguments

def texOutputs (arguments : Text) : List (Nat × Bool) :=
  (outputs "TeX" arguments).map fun (pos, o) =>
    (pos, match o with
      | .literal t => Text.isAllBlank t
      | .missing => true
      | _ => false)

def htmlOutputs (arguments : Text) : List (Nat × Text) :=
  (outputs "HTML" arguments).filterMap fun (pos, o) =>
    match o with
    | .literal t => some (pos, t)
    | _ => none

/-- The position of the parenthesis that brings the depth back to zero, counted from the first character. -/
def closeParen? (f : QuoteFlags) (depth : Int) : Text → Option Nat
  | [] => none
  | c :: r =>
    match f.byPlace? c with
    | some f => (closeParen? f depth r).map (· + 1)
    | none =>
      if c == '(' then (closeParen? f (depth + 1) r).map (· + 1)
      else if c == ')' then
        if depth - 1 == 0 then some 0 else (closeParen? f (depth - 1) r).map (· + 1)
      else (closeParen? f depth r).map (· + 1)

def payload? : Text → Option Text
  | [] => none
  | c :: r => if c == '(' then (closeParen? {} 0 (c :: r)).map fun n => r.take (n - 1) else none

def payloadAt? (t : Text) (start : Int) : Option (Text × Int) := do
  let inner ← payload? (← Text.readFrom? t start)
  let stop := start + 1 + inner.length
  some (Text.slice t (start + 1) stop, stop + 1)

/-- A call with its closing parenthesis: how many characters stand before its arguments, and the arguments. A call
that is not closed is passed over. -/
def callAt? (before : Option Char) (t : Text) : Option (Option (Nat × Text) × Nat) := do
  if before.any Text.isWord then none
  let r := Text.trimStart (← Text.after? "MODES".toList t)
  let inner ← Text.after? ['('] r
  let lead := t.length - inner.length
  match payload? r with
  | some arguments => some (some (lead, arguments), lead + arguments.length + 1)
  | none => some (none, lead)

def calls (t : Text) : List (Nat × Text) :=
  (occurrences callAt? t).filterMap fun (pos, call) => call.map fun (lead, args) => (pos + lead, args)

def anyCall (t : Text) : Bool := !(occurrences callAt? t).isEmpty

end ProblemLint.Modes
