import ProblemLint.Check
import ProblemLint.Check.Hazard
import ProblemLint.Source.Literal

/-! Tag wrappers: a label between `[<` and `>]` with payloads in braces after it. -/

namespace ProblemLint.Check

def wrapperTokens : List String := ["[<", "]\x7b[", ">]\x7b", "\x7d\x7b["]

def wrapperWarning (n : Nat) : Issue :=
  .onLine .warning ("PGML tag wrapper syntax found inside a Perl string; "
    ++ "PGML parses once and will not re-parse strings") n

def wrapperInString : Check :=
  .reporting "pgml_pgml_wrapper_in_string" "PGML tag wrapper in Perl strings" fun d =>
    (codeLines d.code).flatMap fun (n, l) =>
      ((occurrences literalAt? l).filter fun (_, s) => wrapperTokens.any (Text.includes s)).map fun _ => wrapperWarning n

/-- Where a wrapper opens: at a position of the text, or as far from its end as a negative position says. -/
def wrapperAt? (t : Text) (start : Int) : Option Nat :=
  if Text.slice t start (start + 2) == "[<".toList then some (Text.clamp t.length start) else none

namespace StyleQuote

def payloadsFrom : Nat → Text → Option (List Text × Text)
  | fuel + 1, '{' :: '[' :: r => do
    let n ← Text.find? "]\x7d".toList r
    let (ps, rest) ← payloadsFrom fuel (r.drop (n + 2))
    some (r.take n :: ps, rest)
  | _, t => some ([], t)

/-- The payloads of a wrapper at the start of a text, all on its line, and the number of characters that the wrapper
takes. -/
def payloads? (t : Text) : Option (List Text × Nat) := do
  let line := t.takeWhile (· != '\n')
  let r ← Text.after? "[<".toList line
  let n ← Text.find? ">]".toList r
  let (ps, rest) ← payloadsFrom line.length (r.drop (n + 2))
  if ps.isEmpty then none
  some (ps, line.length - rest.length)

def payloadsAt? (t : Text) (start : Int) : Option (List Text × Int) := do
  let pos ← wrapperAt? t start
  (payloads? (t.drop pos)).map fun (ps, n) => (ps, pos + n)

def hasBareQuote (before : Option Char) : Text → Bool
  | [] => false
  | c :: r => (c == '\'' && before != some '\\') || hasBareQuote (some c) r

/-- Where a reader of program text outside of markup stands. A backslash counts in quotes only. -/
inductive State where
  | code
  | comment
  | quoted (quote : Char) (escaped : Bool)
  deriving DecidableEq, Repr

def State.step (s : State) (c : Char) : State :=
  match s with
  | .comment => if c == '\n' then .code else .comment
  | .quoted q escaped =>
    if escaped then .quoted q false
    else if c == '\\' then .quoted q true
    else if c == q then .code
    else .quoted q false
  | .code =>
    if c == '#' then .comment
    else if c == '\'' || c == '"' then .quoted c false
    else .code

def breaksQuote (t : Text) : Bool :=
  match payloads? t with
  | some (ps, _) => ps.any (hasBareQuote none)
  | none => false

/-- The positions of wrappers with bare single quotes in single-quoted literals. Regions of markup, sorted by their
start, are passed over, unless a comment reaches into them. -/
def faultsFrom (regions : List (Int × Int)) (s : State) (pos : Nat) : Text → List Nat
  | [] => []
  | c :: r =>
    if s == .comment then faultsFrom regions (s.step c) (pos + 1) r
    else
      let regions := regions.dropWhile fun (_, stop) => stop ≤ pos
      if regions.head?.any fun (start, _) => start ≤ pos then faultsFrom regions .code (pos + 1) r
      else
        let rest := faultsFrom regions (s.step c) (pos + 1) r
        match s with
        | .quoted '\'' _ => if breaksQuote (c :: r) then pos :: rest else rest
        | _ => rest

def orderedRegions (d : Document) : List (Int × Int) :=
  ((d.regions.filterMap Region.bounds?).filter fun (a, b) => a < b).mergeSort fun x y =>
    x.1 < y.1 || (x.1 == y.1 && x.2 ≤ y.2)

def message : String :=
  "PGML style tag inside single-quoted string contains unescaped single quotes; "
    ++ "escape as \\' or use double quotes or q\x7b...\x7d"

def issues (d : Document) : List Issue :=
  (faultsFrom (orderedRegions d) .code 0 d.text).map fun (pos : Nat) => .onLine .error message (d.lineOf pos)

end StyleQuote

def styleStringQuotes : Check :=
  .reporting "pgml_style_string_quotes" "PGML style strings with unescaped quotes" StyleQuote.issues

namespace WrapperTex

/-- The contents of braces that follow each other, with white space between them; nothing when one is not
closed. -/
def payloadsFrom : Nat → Text → Option (List Text)
  | 0, _ => some []
  | fuel + 1, t =>
    match Text.trimStart t with
    | '{' :: r => do
      let (p, rest) ← delimited? '{' '}' ('{' :: r)
      some (p :: (← payloadsFrom fuel rest))
    | _ => some []

def payloads? (t : Text) : Option (List Text) := do
  let r ← Text.after? "[<".toList t
  let n ← Text.find? ">]".toList r
  let ps ← payloadsFrom t.length (r.drop (n + 2))
  if ps.isEmpty then none else some ps

def payloadsAt? (line : Text) (start : Int) : Option (List Text) := do
  payloads? (line.drop (← wrapperAt? line start))

def hasContent (payload : Text) : Bool :=
  payload.any fun c => !Text.isBlank c && c != ',' && c != '\'' && c != '"'

def isFault (t : Text) : Bool :=
  match payloads? t with
  | some (_ :: tex :: _) => hasContent tex
  | _ => false

def faultsFrom (inline : List Span) (pos : Nat) : Text → List Nat
  | [] => []
  | c :: r =>
    let rest := faultsFrom inline (pos + 1) r
    if c == '[' && !Span.anyHolds inline pos && isFault (c :: r) then pos :: rest else rest

def issues (d : Document) : List Issue :=
  d.blockTexts.flatMap fun (i, start, t) =>
    let (found, inline) := d.inlineSpansOf i t start
    found ++ (linesAt 0 (Text.lineTexts t)).flatMap fun (pos, l) =>
      (faultsFrom inline pos l).map fun p =>
        .onLine .warning ("PGML tag wrapper has non-empty TeX payload; "
          ++ "use an empty TeX payload unless needed") (d.lineOf (start + p))

end WrapperTex

def tagWrapperTex : Check :=
  .reporting "pgml_tag_wrapper_tex" "PGML tag wrappers should avoid TeX payloads" WrapperTex.issues

end ProblemLint.Check
