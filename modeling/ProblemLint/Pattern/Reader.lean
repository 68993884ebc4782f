import ProblemLint.Pattern.Matcher
import ProblemLint.Pattern.Written
import ProblemLint.Text.CharName
import ProblemLint.Text.Identifier

/-! Reading written patterns. A rule file gives its patterns in the usual way: literal characters, `.`, classes in
brackets, the escapes for classes, edges and code points, groups in parentheses, `|`, and the repetitions `*`, `+`,
`?` and `{m,n}`, each of which prefers few when `?` follows and gives nothing back when `+` follows. What begins
with `(?` names a group, refers to one, looks ahead or behind, sets flags, or is a comment. -/

namespace ProblemLint.Pattern

/-- A character of a written pattern, or a backslash with the character after it. -/
inductive Token where
  | plain (c : Char)
  | escaped (c : Char)
  deriving DecidableEq

def tokens : Text → Except PatternError (List Token)
  | [] => .ok []
  | ['\\'] => .error .badEscape
  | '\\' :: c :: r => (tokens r).map (.escaped c :: ·)
  | c :: r => (tokens r).map (.plain c :: ·)

/-- What is left to read, and what has been met: flags for the whole pattern, the widths of the groups, first group
first and none for one that is open, their names, the number of groups before the look behind that is being read,
and the groups that conditions ask for. -/
structure Reader where
  rest : List Token
  flags : Flags := {}
  widths : List (Option Width) := []
  names : List (Text × Nat) := []
  behind : Option Nat := none
  conditions : List Nat := []

abbrev Reading := StateT Reader (Except PatternError)

namespace Reading

def fail {α : Type} (e : PatternError) : Reading α := fun _ => .error e

def peek : Reading (Option Token) := do return (← get).rest.head?

def next? : Reading (Option Token) := do
  let k ← peek
  modify fun s => { s with rest := s.rest.tail }
  return k

def accept (c : Char) : Reading Bool := do
  if (← peek) == some (.plain c) then
    modify fun s => { s with rest := s.rest.tail }
    return true
  return false

def takeWhile (kind : Char → Bool) (most : Nat) : Reading Text := do
  let fits := fun k => match k with
    | Token.plain c => kind c
    | .escaped _ => false
  let ks := ((← get).rest.take most).takeWhile fits
  modify fun s => { s with rest := s.rest.drop ks.length }
  return ks.filterMap fun k => match k with
    | .plain c => some c
    | .escaped _ => none

/-- A name that ends at a character, which is passed over too. -/
def name (stop : Char) : Reading Text := do
  let n ← takeWhile (· != stop) (← get).rest.length
  if n.isEmpty || !(← accept stop) then fail .badName
  return n

/-! ### Groups -/

def closedWidth? (number : Nat) : Reading (Option Width) := do
  if number == 0 then return none
  return ((← get).widths[number - 1]?).bind (·)

/-- Inside a look behind, only groups that were closed before it may be asked for. -/
def checkBehind (number : Nat) : Reading Unit := do
  match (← get).behind with
  | none => return
  | some groups =>
    if (← closedWidth? number).isNone || number > groups then fail .badReference

def reference (number : Nat) : Reading Written := do
  match ← closedWidth? number with
  | none => fail .badReference
  | some w =>
    checkBehind number
    return .again number w

def namedGroup (n : Text) : Reading Nat := do
  match (← get).names.find? (·.1 == n) with
  | some (_, number) => return number
  | none => fail .badReference

def openGroup (n : Option Text) : Reading Nat := do
  let s ← get
  let number := s.widths.length + 1
  match n with
  | none => set { s with widths := s.widths ++ [none] }
  | some n =>
    if s.names.any (·.1 == n) then fail .nameTwice
    set { s with widths := s.widths ++ [none], names := (n, number) :: s.names }
  return number

def closeGroup (number : Nat) (body : Written) : Reading Unit :=
  modify fun s => { s with widths := s.widths.set (number - 1) (some body.width) }

/-! ### Escapes -/

def kind? : Char → Option Member
  | 'd' => some (.kind .digit false)
  | 'D' => some (.kind .digit true)
  | 'w' => some (.kind .word false)
  | 'W' => some (.kind .word true)
  | 's' => some (.kind .blank false)
  | 'S' => some (.kind .blank true)
  | _ => none

def control? : Char → Option Nat
  | 'a' => some 7
  | 't' => some 9
  | 'n' => some 10
  | 'v' => some 11
  | 'f' => some 12
  | 'r' => some 13
  | _ => none

def isOctal (c : Char) : Bool := '0' ≤ c && c ≤ '7'

def inBase (base : Nat) (ds : Text) : Nat := ds.foldl (fun n c => n * base + (Text.hexDigit? c).getD 0) 0

def hexCode (n : Nat) : Reading Nat := do
  let ds ← takeWhile (fun c => (Text.hexDigit? c).isSome) n
  let code := inBase 16 ds
  if ds.length != n || code > 0x10FFFF then fail .badEscape
  return code

def octalCode (first : Char) : Reading Nat := do
  let code := inBase 8 (first :: (← takeWhile isOctal 2))
  if code > 255 then fail .badEscape
  return code

def namedCode : Reading Nat := do
  if !(← accept '{') then fail .badEscape
  match Text.CharName.code? (← name '}') with
  | some code => return code
  | none => fail .badEscape

def escapedCode (c : Char) : Reading Nat := do
  match control? c with
  | some n => return n
  | none =>
    match c with
    | 'x' => hexCode 2
    | 'u' => hexCode 4
    | 'U' => hexCode 8
    | 'N' => namedCode
    | _ => if Text.isAsciiLetter c || Text.isAsciiDigit c then fail .badEscape else return c.toNat

def classEscape (c : Char) : Reading Member := do
  match kind? c with
  | some m => return m
  | none => return .code (← if c == 'b' then pure 8 else if isOctal c then octalCode c else escapedCode c)

inductive Numeral where
  | code (n : Nat)
  | group (number : Nat)

/-- Three octal digits are a code point, one or two digits otherwise the number of a group. -/
def numeral (c : Char) : Reading Numeral := do
  let more ← takeWhile Text.isAsciiDigit 1
  if isOctal c && more.any isOctal then
    let last ← takeWhile isOctal 1
    if !last.isEmpty then
      let code := inBase 8 (c :: more ++ last)
      if code > 255 then fail .badEscape
      return .code code
  return .group (inBase 10 (c :: more))

def escape (c : Char) : Reading Written := do
  match c with
  | 'A' => return .edge .start
  | 'Z' => return .edge .theEnd
  | 'b' => return .edge .word
  | 'B' => return .edge .noWord
  | '0' => return .code (← octalCode c)
  | _ =>
    match kind? c with
    | some m => return .oneOf false [m]
    | none =>
      if !Text.isAsciiDigit c then return .code (← escapedCode c)
      match ← numeral c with
      | .code n => return .code n
      | .group number => reference number

/-! ### Classes -/

def classMember : Token → Reading Member
  | .plain c => return .code c.toNat
  | .escaped c => classEscape c

/-- The members of a class up to its closing bracket, which as the first member stands for itself. -/
def members : Nat → List Member → Reading (List Member)
  | 0, _ => fail .unclosedClass
  | fuel + 1, done => do
    match ← next? with
    | none => fail .unclosedClass
    | some k =>
      if k == .plain ']' && !done.isEmpty then return done.reverse
      let low ← classMember k
      if !(← accept '-') then return ← members fuel (low :: done)
      match ← next? with
      | none => fail .unclosedClass
      | some (.plain ']') => return (.code '-'.toNat :: low :: done).reverse
      | some k =>
        match low, ← classMember k with
        | .code a, .code b => if b < a then fail .badRange else members fuel (.range a b :: done)
        | _, _ => fail .badRange

def bracketed : Reading Written := do
  let negated ← accept '^'
  let ms ← members ((← get).rest.length + 1) []
  return .oneOf negated ms.eraseDups

/-! ### Repetitions -/

/-- The bounds of a repetition in braces, when what follows the opening one are bounds. -/
def bounds? : Reading (Option (Nat × Option Nat)) := do
  let s ← get
  let size := s.rest.length
  if (← peek) == some (.plain '}') then return none
  let low ← takeWhile Text.isAsciiDigit size
  let high ← if ← accept ',' then takeWhile Text.isAsciiDigit size else pure low
  if !(← accept '}') then
    set s
    return none
  let least := inBase 10 low
  let most := if high.isEmpty then none else some (inBase 10 high)
  if least ≥ mostRepetitions || most.any (· ≥ mostRepetitions) then fail .boundTooLarge
  if most.any (· < least) then fail .boundsReversed
  return some (least, most)

/-- What follows a repetition says how often it tries to go on. -/
def greed : Reading Greed := do
  if ← accept '?' then return .shortest
  if ← accept '+' then return .firm
  return .longest

def repeatLast (least : Nat) (most : Option Nat) : List Written → Reading (List Written)
  | [] | .edge _ :: _ => fail .nothingToRepeat
  | .repeated _ _ _ _ :: _ => fail .repeatedTwice
  | p :: done => do return .repeated least most (← greed) p :: done

/-! ### Flags -/

/-- Flag letters from the one given on, up to one of the characters `stops`, which is given too. -/
def flagLetters (stops : List Char) (allowed : Flags → Bool) :
    Nat → Flags → Token → Reading (Flags × Char)
  | 0, _, _ => fail .badFlag
  | fuel + 1, f, k => do
    let .plain c := k | fail .badFlag
    match Flags.ofLetter? c with
    | none => fail .badFlag
    | some g =>
      let f := f.join g
      if !allowed f then fail .badFlag
      match ← next? with
      | some (.plain c) => if stops.contains c then return (f, c) else flagLetters stops allowed fuel f (.plain c)
      | _ => fail .badFlag

/-- Flags for the whole pattern, which are noted, or flags to turn on and off in the group that follows. -/
def flagSettings (k : Token) : Reading (Option (Flags × Flags)) := do
  let size := (← get).rest.length + 1
  let (on, stop) ←
    if k == .plain '-' then pure (({} : Flags), '-')
    else flagLetters [')', '-', ':'] (fun f => !(f.ascii && f.unicode)) size {} k
  if stop == ')' then
    modify fun s => { s with flags := s.flags.join on }
    return none
  if on.plain then fail .badFlag
  if stop == ':' then return some (on, {})
  match ← next? with
  | none => fail .badFlag
  | some k =>
    let (off, _) ← flagLetters [':'] (fun f => !f.ascii && !f.unicode && !f.plain) size {} k
    if on.meet off != {} then fail .badFlag
    return some (on, off)

/-! ### Parts -/

def skipComment : Reading Unit := do
  let rest := (← get).rest.dropWhile (· != .plain ')')
  if rest.isEmpty then fail .unclosedComment
  modify fun s => { s with rest := rest.tail }

def skipLine : Reading Unit :=
  modify fun s => { s with rest := (s.rest.dropWhile (· != .plain '\n')).tail }

def isVerboseBlank (c : Char) : Bool := c == ' ' || ('\t' ≤ c && c ≤ '\r')

inductive Opening where
  | group (number : Option Nat) (on off : Flags)
  | only
  | look (isAhead positive : Bool)
  | condition (number : Nat)
  /-- A part that is complete already. -/
  | part (p : Written)
  /-- Nothing but a comment. -/
  | comment
  /-- Flags for the whole pattern. -/
  | flags

def conditionGroup : Reading Nat := do
  let n ← name ')'
  let number ←
    if Text.isIdentifier n then namedGroup n
    else
      match Text.signedDigits? (Text.trim n) with
      | some (sign, ds) =>
        let number := Text.number ds
        if sign < 0 || number == 0 then fail .badReference
        modify fun s => { s with conditions := number :: s.conditions }
        pure number
      | none => fail .badName
  checkBehind number
  return number

def identifier (stop : Char) : Reading Text := do
  let n ← name stop
  if !Text.isIdentifier n then fail .badName
  return n

def opening : Reading Opening := do
  if !(← accept '?') then return .group (some (← openGroup none)) {} {}
  match ← next? with
  | some (.plain ':') => return .group none {} {}
  | some (.plain '>') => return .only
  | some (.plain '=') => return .look true true
  | some (.plain '!') => return .look true false
  | some (.plain '#') => skipComment; return .comment
  | some (.plain '(') => return .condition (← conditionGroup)
  | some (.plain '<') =>
    match ← next? with
    | some (.plain '=') => return .look false true
    | some (.plain '!') => return .look false false
    | _ => fail .unknownExtension
  | some (.plain 'P') =>
    if ← accept '<' then return .group (some (← openGroup (some (← identifier '>')))) {} {}
    if ← accept '=' then return .part (← reference (← namedGroup (← identifier ')')))
    fail .unknownExtension
  | some (.plain c) =>
    if c == '-' || (Flags.ofLetter? c).isSome then
      match ← flagSettings (.plain c) with
      | some (on, off) => return .group none on off
      | none => return .flags
    fail .unknownExtension
  | _ => fail .unknownExtension

def close : Reading Unit := do if !(← accept ')') then fail .unclosedGroup

def sequenceOf : List Written → Written
  | [] => .nothing
  | p :: ps => ps.foldl (fun whole p => .seq p whole) p

mutual

/-- Alternatives up to the end or a closing parenthesis. At the top, flags may stand before the first of them. -/
def alternatives : Nat → Bool → Bool → Reading Written
  | 0, _, _ => fail .unclosedGroup
  | fuel + 1, verbose, top => do
    let first ← parts fuel verbose top []
    if !(← accept '|') then return first
    let noted := (← get).flags.verbose
    return .alt first (← alternatives fuel (if top then noted else verbose) false)

/-- Parts up to the end, a bar or a closing parenthesis; `top` says that flags may still come. -/
def parts : Nat → Bool → Bool → List Written → Reading Written
  | 0, _, _, _ => fail .unclosedGroup
  | fuel + 1, verbose, top, done => do
    match ← peek with
    | none | some (.plain '|') | some (.plain ')') => return sequenceOf done
    | some k =>
      let _ ← next?
      let add := fun (p : Written) => parts fuel verbose top (p :: done)
      let repeated := fun (least : Nat) (most : Option Nat) => do
        parts fuel verbose top (← repeatLast least most done)
      match k with
      | .escaped c => add (← escape c)
      | .plain c =>
        if verbose && isVerboseBlank c then parts fuel verbose top done
        else if verbose && c == '#' then
          skipLine
          parts fuel verbose top done
        else
          match c with
          | '[' => add (← bracketed)
          | '.' => add .any
          | '^' => add (.edge .lineStart)
          | '$' => add (.edge .lineEnd)
          | '*' => repeated 0 none
          | '+' => repeated 1 none
          | '?' => repeated 0 (some 1)
          | '{' =>
            match ← bounds? with
            | some (least, most) => repeated least most
            | none => add (.code c.toNat)
          | '(' =>
            match ← opening with
            | .comment => parts fuel verbose top done
            | .flags =>
              if !top || !done.isEmpty then fail .lateFlags
              parts fuel (← get).flags.verbose top done
            | .part p => add p
            | .only =>
              let body ← alternatives fuel verbose false
              close
              add (.only body)
            | .look isAhead positive =>
              let outer := (← get).behind
              if !isAhead then modify fun s => { s with behind := outer.or (some s.widths.length) }
              let body ← alternatives fuel verbose false
              modify fun s => { s with behind := outer }
              close
              add (.look isAhead positive body)
            | .condition number =>
              let yes ← parts fuel verbose false []
              let no ← if ← accept '|' then parts fuel verbose false [] else pure .nothing
              if (← peek) == some (.plain '|') then fail .tooManyBranches
              close
              add (.ifKept number yes no)
            | .group number on off =>
              let body ← alternatives fuel ((verbose || on.verbose) && !off.verbose) false
              close
              if let some n := number then closeGroup n body
              add (.group number on off body)
          | _ => add (.code c.toNat)

end

def whole : Reading Written := do
  let p ← alternatives (2 * (← get).rest.length + 2) false true
  let s ← get
  if s.flags.ascii && s.flags.unicode then fail .mixedAlphabets
  if !s.rest.isEmpty then fail .unopenedGroup
  if s.conditions.any (· > s.widths.length) then fail .badReference
  return p

end Reading

def read (t : Text) : Except PatternError Pattern := do
  let (p, s) ← Reading.whole.run { rest := ← tokens t }
  p.searched s.flags

end ProblemLint.Pattern
