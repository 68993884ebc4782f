import ProblemLint.Source.Scan
import ProblemLint.Text.Letter
import ProblemLint.Text.Basic

/-! Variables that a program declares or assigns: scalars, arrays and hashes, single elements, and lists of
scalars in parentheses. -/

namespace ProblemLint.Variable

def name? : Text → Option (Text × Text)
  | [] => none
  | c :: r =>
    if Text.isNameStart c then
      some (c :: r.takeWhile Text.isNameChar, r.dropWhile Text.isNameChar)
    else none

def afterEquals? (t : Text) : Option Text := Text.after? ['='] (Text.trimStart t)

def taken (t rest : Text) : Nat := t.length - rest.length

def assignedAt? (sigils : List Char) (_before : Option Char) (t : Text) : Option (Text × Nat) :=
  match t with
  | [] => none
  | c :: r =>
    if sigils.contains c then do
      let (n, r) ← name? r
      let rest ← afterEquals? r
      some (n, taken t rest)
    else none

/-- `my` or `our`, standing at a word's start, white space, and a variable with one of the sigils. -/
def declaredAt? (sigils : List Char) (before : Option Char) (t : Text) : Option (Text × Nat) :=
  if before.any Text.isWord then none
  else do
    let r ← Text.after? "my".toList t <|> Text.after? "our".toList t
    let b := Text.trimStart r
    if b.length == r.length then none
    match b with
    | [] => none
    | c :: b =>
      if sigils.contains c then do
        let (n, rest) ← name? b
        some (n, taken t rest)
      else none

def elementAt? (opener closer : Char) (_before : Option Char) (t : Text) : Option (Text × Nat) := do
  let r ← Text.after? ['$'] t
  let (n, r) ← name? r
  let r ← Text.after? [opener] (Text.trimStart r)
  let inner := r.takeWhile (· != closer)
  if inner.isEmpty then none
  let r ← Text.after? [closer] (r.drop inner.length)
  let rest ← afterEquals? r
  some (n, taken t rest)

/-- One or more scalars with white space and at most one comma after each, up to the closing
parenthesis, and what follows it. -/
def listItems? : Nat → Text → Option (List Text × Text)
  | 0, _ => none
  | fuel + 1, t => do
    let r ← Text.after? ['$'] t
    let (n, r) ← name? r
    let r := Text.trimStart r
    let r := Text.trimStart ((Text.after? [','] r).getD r)
    match r with
    | ')' :: r => some ([n], r)
    | r => (listItems? fuel r).map fun (ns, r) => (n :: ns, r)

def listAt? (_before : Option Char) (t : Text) : Option (List Text × Nat) := do
  let r ← Text.after? ['('] t
  let r := Text.trimStart r
  let (ns, r) ← listItems? r.length r
  let rest ← afterEquals? r
  some (ns, taken t rest)

def assigned (t : Text) : List String :=
  let scalars := occurrences (declaredAt? ['$']) t ++ occurrences (assignedAt? ['$']) t
    ++ occurrences (declaredAt? ['@', '%']) t ++ occurrences (assignedAt? ['@', '%']) t
    ++ occurrences (elementAt? '[' ']') t ++ occurrences (elementAt? '{' '}') t
  let lists := (occurrences listAt? t).flatMap (·.2)
  sortedNames ((scalars.map (·.2) ++ lists).map String.ofList)

def dollarNameAt? (_before : Option Char) (t : Text) : Option (Text × Nat) := do
  let r ← Text.after? ['$'] t
  let (n, rest) ← name? r
  some (n, taken t rest)

def dollarNames (t : Text) : List Text := (occurrences dollarNameAt? t).map (·.2)

end ProblemLint.Variable
