import ProblemLint.Pattern.Basic

/-! Character classes of written patterns, and the flags that change what characters they take. Where case
does not count, a character is in a class if one of its forms is. -/

namespace ProblemLint.Pattern

structure Flags where
  ignoreCase : Bool := false
  /-- The edges `^` and `$` stand at every line. -/
  multiline : Bool := false
  /-- The point takes line feeds too. -/
  dotAll : Bool := false
  /-- Blanks and comments between the parts are passed over. -/
  verbose : Bool := false
  /-- Digits, word characters, blanks and case are those of ASCII. -/
  ascii : Bool := false
  /-- They are those of all scripts, as without a flag. -/
  unicode : Bool := false
  /-- Repetitions are not allowed. -/
  plain : Bool := false
  deriving DecidableEq

namespace Flags

def join (f g : Flags) : Flags where
  ignoreCase := f.ignoreCase || g.ignoreCase
  multiline := f.multiline || g.multiline
  dotAll := f.dotAll || g.dotAll
  verbose := f.verbose || g.verbose
  ascii := f.ascii || g.ascii
  unicode := f.unicode || g.unicode
  plain := f.plain || g.plain

def meet (f g : Flags) : Flags where
  ignoreCase := f.ignoreCase && g.ignoreCase
  multiline := f.multiline && g.multiline
  dotAll := f.dotAll && g.dotAll
  verbose := f.verbose && g.verbose
  ascii := f.ascii && g.ascii
  unicode := f.unicode && g.unicode
  plain := f.plain && g.plain

/-- The flags inside a group that turns some on and some off. Of the two alphabets the one turned on counts. -/
def within (f on off : Flags) : Flags :=
  let f := if on.ascii || on.unicode then { f with ascii := false, unicode := false } else f
  let f := f.join on
  { ignoreCase := f.ignoreCase && !off.ignoreCase
    multiline := f.multiline && !off.multiline
    dotAll := f.dotAll && !off.dotAll
    verbose := f.verbose && !off.verbose
    ascii := f.ascii
    unicode := f.unicode
    plain := f.plain }

def ofLetter? : Char → Option Flags
  | 'i' => some { ignoreCase := true }
  | 'm' => some { multiline := true }
  | 's' => some { dotAll := true }
  | 'x' => some { verbose := true }
  | 'a' => some { ascii := true }
  | 'u' => some { unicode := true }
  | 't' => some { plain := true }
  | _ => none

/-- The form in which characters are compared. -/
def small (f : Flags) (c : Char) : Char :=
  if !f.ignoreCase then c
  else if !f.ascii then Text.fold c
  else if 'A' ≤ c && c ≤ 'Z' then Char.ofNat (c.toNat + 32)
  else c

def forms (f : Flags) (c : Char) : List Char :=
  if !f.ignoreCase then [c]
  else if f.ascii then
    let s := f.small c
    if 'a' ≤ s && s ≤ 'z' then [s, Char.ofNat (s.toNat - 32)] else [s]
  else (Text.smallForms (f.small c)).flatMap fun s => s :: Text.capitalsOf s

def isCode (f : Flags) (code : Nat) (c : Char) : Bool :=
  let x := Char.ofNat code
  x.toNat == code && (if f.ignoreCase && !f.ascii then Text.matchesAnyCase x c else f.small x == f.small c)

def hasForms (f : Flags) (code : Nat) : Bool :=
  let c := Char.ofNat code
  c.toNat == code && (f.forms c).any (· != c)

end Flags

inductive Kind where
  | digit
  | word
  | blank
  deriving DecidableEq

def Kind.holds (ascii : Bool) : Kind → Char → Bool
  | .digit, c => if ascii then Text.isAsciiDigit c else Text.isDigit c
  | .word, c => if ascii then Text.isNameChar c else Text.isWord c
  | .blank, c => if ascii then c == ' ' || ('\t' ≤ c && c ≤ '\r') else Text.isBlank c

inductive Member where
  | code (n : Nat)
  | range (low high : Nat)
  | kind (k : Kind) (negated : Bool)
  deriving DecidableEq

def Member.isKind : Member → Bool
  | .kind _ _ => true
  | _ => false

def Member.isCased (f : Flags) : Member → Bool
  | .code n => f.hasForms n
  | .range low high =>
    f.ignoreCase && (high ≥ 0x10000 || (List.range (high + 1 - low)).any fun i => f.hasForms (low + i))
  | .kind _ _ => false

/-- Whether a member takes a character. A code point beyond the first plane stands for itself alone. -/
def Member.holds (f : Flags) : Member → Char → Bool
  | .code n, c => if n < 0x10000 then f.isCode n c else (f.small c).toNat == n
  | .range low high, c => (f.forms c).any fun x => low ≤ x.toNat && x.toNat ≤ high
  | .kind k negated, c => k.holds f.ascii (f.small c) != negated

def inClass (f : Flags) (negated : Bool) (ms : List Member) (c : Char) : Bool :=
  ms.any (·.holds f c) != negated

end ProblemLint.Pattern
