import ProblemLint.Check

/-! Markup that a renderer cannot read: unknown block tokens, inline code with unbalanced parentheses, and tag
wrappers that a line break cuts. -/

namespace ProblemLint.Check

/-- The lines of a region with their positions, every break counting as one character. -/
def linesAt (pos : Nat) : List Text → List (Nat × Text)
  | [] => []
  | l :: ls => (pos, l) :: linesAt (pos + l.length + 1) ls

namespace Hazard

def unsupported : List String := ["balance"]

def blockToken : Pattern :=
  Pattern.blanks ++ Pattern.text "[" ++ Pattern.blanks
    ++ Pattern.group 1 (Pattern.atLeastOne Text.isAsciiLetter) ++ Pattern.blanks ++ Pattern.text "]"
    ++ Pattern.blanks ++ Pattern.finish

def unsupportedToken? (line : Text) : Option String := do
  let m ← blockToken.lead? line
  let token := String.ofList (Text.lower (m.group 1))
  if unsupported.contains token then some token else none

def balanceFrom (f : QuoteFlags) : Text → Int
  | [] => 0
  | c :: r =>
    match f.byPlace? c with
    | some f => balanceFrom f r
    | none =>
      if c == '(' then balanceFrom f r + 1
      else if c == ')' then balanceFrom f r - 1
      else balanceFrom f r

def balance (code : Text) : Int := balanceFrom {} code

/-- The position of the first tag wrapper in a line that is not closed in it. Wrappers that open in inline code
are passed over; `skip` characters are still covered by the last wrapper. -/
def openWrapperFrom? (inline : List Span) (skip pos : Nat) : Text → Option Nat
  | [] => none
  | c :: r =>
    match skip with
    | n + 1 => openWrapperFrom? inline n (pos + 1) r
    | 0 =>
      match c, r with
      | '[', '<' :: inner =>
        if Span.anyHolds inline pos then openWrapperFrom? inline 1 (pos + 1) r
        else
          match Text.find? ">]".toList inner with
          | none => some pos
          | some n => openWrapperFrom? inline (n + 3) (pos + 1) r
      | _, _ => openWrapperFrom? inline 0 (pos + 1) r

def cutMessage : String := "PGML tag wrapper '[<' must be closed before line break"

def regionIssues (d : Document) (start : Int) (t : Text) (inline : List Span) : List Issue :=
  let lines := linesAt 0 (Text.lineTexts t)
  let line := fun (pos : Int) => d.lineOf (start + pos)
  lines.filterMap (fun (pos, l) => (unsupportedToken? l).map fun token =>
      .onLine .warning ("Unknown PGML block token [" ++ token ++ "] may cause parser errors") (line pos))
    ++ (inline.filter fun s => balance (s.interiorSlice t) != 0).map (fun s =>
      .onLine .warning "PGML inline code has unbalanced parentheses" (line s.start))
    ++ lines.filterMap fun (pos, l) => (openWrapperFrom? inline 0 pos l).map fun p =>
      .onLine .error cutMessage (line p)

def issues (d : Document) : List Issue :=
  d.regionTexts.flatMap fun (i, start, t) =>
    let (found, inline) := d.inlineSpansOf i t start
    found ++ regionIssues d start t inline

end Hazard

def parseHazards : Check :=
  .reporting "pgml_pgml_parse_hazards" "PGML parse hazards" Hazard.issues

end ProblemLint.Check
