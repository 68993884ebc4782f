import ProblemLint.Markup.Region

/-! Mathematics in markup: between square brackets with backticks, or with colons, the closing colon perhaps
followed by one more character. -/

namespace ProblemLint

def backtickClose? : Text → Option Nat
  | '`' :: ']' :: _ => some 2
  | _ :: r => (backtickClose? r).map (· + 1)
  | [] => none

/-- The number of characters up to and including the first closing colon and bracket, which may have one
character between them. -/
def colonClose? : Text → Option Nat
  | ':' :: ']' :: _ => some 2
  | ':' :: _ :: ']' :: _ => some 3
  | _ :: r => (colonClose? r).map (· + 1)
  | [] => none

def mathSize? : Text → Option Nat
  | '[' :: '`' :: r => (backtickClose? r).map (· + 2)
  | '[' :: ':' :: r => (colonClose? r).map (· + 2)
  | _ => none

/-- The spans from a position on; `skip` characters are still covered by the last one. -/
def mathSpansFrom (skip pos : Nat) : Text → List Span
  | [] => []
  | c :: r =>
    match skip with
    | n + 1 => mathSpansFrom n (pos + 1) r
    | 0 =>
      match mathSize? (c :: r) with
      | some n => ⟨pos, pos + n⟩ :: mathSpansFrom (n - 1) (pos + 1) r
      | none => mathSpansFrom 0 (pos + 1) r

def mathSpans (t : Text) : List Span := mathSpansFrom 0 0 t

end ProblemLint
