import ProblemLint.Markup.Region
import ProblemLint.Text.Position

/-! Inline code between `[@` and `@]` in a region of markup. -/

namespace ProblemLint

structure InlineScan where
  opened : List Nat := []
  closers : List Nat := []
  spans : List Span := []

namespace InlineScan

/-- Reads a text that starts at a position. The lists of closers and spans are latest first. -/
def read (s : InlineScan) (pos : Nat) : Text → InlineScan
  | '[' :: '@' :: r => read { s with opened := pos :: s.opened } (pos + 2) r
  | '@' :: ']' :: r =>
    match s.opened with
    | [] => read { s with closers := pos :: s.closers } (pos + 2) r
    | p :: outer => read { s with opened := outer, spans := ⟨p, pos + 2⟩ :: s.spans } (pos + 2) r
  | _ :: r => read s (pos + 1) r
  | [] => s

end InlineScan

/-- The spans of inline code in a region's text, by increasing end, and an issue for every marker without
its partner; `offset` is the position of the text in the file. -/
def inlineSpans (t : Text) (offset : Int) (newlines : NewlineIndex) : List Issue × List Span :=
  let s := InlineScan.read {} 0 t
  let line := fun (p : Nat) => newlines.lineOf (offset + p)
  (s.closers.reverse.map (fun p =>
      .onLine .warning "PGML inline close @] without matching [@" (line p))
    ++ s.opened.reverse.map (fun p =>
      .onLine .warning "PGML inline open [@ without matching @]" (line p)),
    s.spans.reverse)

end ProblemLint
