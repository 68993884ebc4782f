import ProblemLint.Markup.Math
import ProblemLint.Text.Position

/-! Square brackets in markup outside of blanks, inline code and mathematics. -/

namespace ProblemLint

/-- Brackets without a partner: closing ones, and opening ones innermost first. -/
structure BracketScan where
  opened : List Nat := []
  closers : List Nat := []

namespace BracketScan

def read (s : BracketScan) (pos : Nat) : Text → BracketScan
  | '\\' :: _ :: r => read s (pos + 2) r
  | '[' :: r => read { s with opened := pos :: s.opened } (pos + 1) r
  | ']' :: r =>
    match s.opened with
    | [] => read { s with closers := pos :: s.closers } (pos + 1) r
    | _ :: outer => read { s with opened := outer } (pos + 1) r
  | _ :: r => read s (pos + 1) r
  | [] => s

end BracketScan

/-- Issues for the brackets without a partner: the closing ones in text order, then the opening ones. -/
def bracketIssues (t : Text) (offset : Int) (newlines : NewlineIndex) (inline blanks : List Span) :
    List Issue :=
  let s := BracketScan.read {} 0 (Span.blankOut (inline ++ blanks ++ mathSpans t) t)
  let line := fun (p : Nat) => newlines.lineOf (offset + p)
  s.closers.reverse.map (fun p =>
      .onLine .warning "PGML bracket close ] without matching [" (line p))
    ++ s.opened.reverse.map fun p =>
      .onLine .warning "PGML bracket open [ without matching ]" (line p)

end ProblemLint
