import ProblemLint.Source.Comment
import ProblemLint.Markup.Region
import ProblemLint.Pattern.Matcher

/-! Blocks between `BEGIN_` and `END_` markers, and heredocs that hold markup. Markers count only on lines
that neither lie in a heredoc nor introduce one. -/

namespace ProblemLint

inductive BlockTag where
  | pgml
  | pgmlSolution
  | pgmlHint
  | text
  | solution
  | hint
  deriving DecidableEq, Repr

namespace BlockTag

def name : BlockTag → String
  | .pgml => "PGML"
  | .pgmlSolution => "PGML_SOLUTION"
  | .pgmlHint => "PGML_HINT"
  | .text => "TEXT"
  | .solution => "SOLUTION"
  | .hint => "HINT"

def all : List BlockTag := [.pgml, .pgmlSolution, .pgmlHint, .text, .solution, .hint]

def ofName? (w : Text) : Option BlockTag := all.find? fun t => t.name.toList == w

def isMarkup : BlockTag → Bool
  | .pgml | .pgmlSolution | .pgmlHint => true
  | _ => false

end BlockTag

structure Marker where
  opens : Bool
  tag : BlockTag
  deriving DecidableEq, Repr

namespace Marker

/-- The marker at the start of a line, after spaces and tabs; the tag is a whole word. -/
def ofLine? (line : Text) : Option Marker :=
  let t := line.dropWhile fun c => c == ' ' || c == '\t'
  match Text.after? "BEGIN_".toList t, Text.after? "END_".toList t with
  | some r, _ => (BlockTag.ofName? (r.takeWhile Text.isWord)).map (⟨true, ·⟩)
  | none, some r => (BlockTag.ofName? (r.takeWhile Text.isWord)).map (⟨false, ·⟩)
  | none, none => none

end Marker

/-- An opened block: its tag, where its content starts, and the line of its marker. -/
structure OpenBlock where
  tag : BlockTag
  start : Nat
  line : Nat

structure BlockScan where
  opened : List OpenBlock := []
  issues : List Issue := []
  regions : List Region := []

namespace BlockScan

def report (s : BlockScan) (i : Issue) : BlockScan := { s with issues := s.issues ++ [i] }

def step (s : BlockScan) (m : Marker) (line start stop : Nat) : BlockScan :=
  if m.opens then
    let s :=
      if (m.tag == .pgmlHint || m.tag == .pgmlSolution) && s.opened.any (·.tag.isMarkup) then
        s.report (.onLine .warning ("BEGIN_" ++ m.tag.name ++ " appears inside another PGML block") line)
      else s
    { s with opened := ⟨m.tag, stop, line⟩ :: s.opened }
  else
    match s.opened with
    | [] => s.report (.onLine .error ("END_" ++ m.tag.name ++ " without matching BEGIN") line)
    | b :: outer =>
      if b.tag != m.tag then
        s.report (.onLine .error ("END_" ++ m.tag.name ++ " does not match BEGIN_" ++ b.tag.name) line)
      else
        { s with
          opened := outer
          regions :=
            if m.tag.isMarkup then
              s.regions ++ [.ofBounds b.start start ("BEGIN_" ++ m.tag.name) b.line]
            else s.regions }

/-- Reads lines that start at a position and a line number, with an open heredoc. -/
def lines (s : BlockScan) (opened : Option Text) (line pos : Nat) : List Text → BlockScan
  | [] => s
  | l :: ls =>
    let after := heredocAfter opened l
    let stop := pos + l.length
    let s :=
      if opened.isNone && after.isNone then
        match Marker.ofLine? l with
        | some m => s.step m line pos stop
        | none => s
      else s
    lines s after (line + 1) stop ls

/-- Blocks that are still open at the end are reported, the outermost first. -/
def finish (s : BlockScan) : List Issue × List Region :=
  (s.issues ++ s.opened.reverse.map fun b =>
    .onLine .error ("BEGIN_" ++ b.tag.name ++ " without matching END") b.line, s.regions)

end BlockScan

def blocks (t : Text) : List Issue × List Region :=
  (BlockScan.lines {} none 1 0 (Text.lines t)).finish

def markupFunctions : Pattern := Pattern.wordEdge ++ Pattern.text "PGML::"

structure OpenHeredoc where
  terminator : Text
  start : Nat
  line : Nat
  isMarkup : Bool

def heredocLines (opened : Option OpenHeredoc) (line pos : Nat) : List Text → List Issue × List Region
  | [] =>
    match opened with
    | some h =>
      if h.isMarkup then
        ([.onLine .error
          ("PGML heredoc terminator '" ++ String.ofList h.terminator ++ "' not found") (h.line - 1)], [])
      else ([], [])
    | none => ([], [])
  | l :: ls =>
    let stop := pos + l.length
    match opened with
    | none =>
      let opened := (terminator? l).map fun t =>
        ⟨t, stop, line + 1, Text.includes t "PGML" || markupFunctions.occursIn l⟩
      heredocLines opened (line + 1) stop ls
    | some h =>
      if Text.trim l == h.terminator then
        let (issues, regions) := heredocLines none (line + 1) stop ls
        (issues, if h.isMarkup then .ofBounds h.start pos "HEREDOC_PGML" h.line :: regions else regions)
      else heredocLines (some h) (line + 1) stop ls

def markupHeredocs (t : Text) : List Issue × List Region := heredocLines none 1 0 (Text.lines t)

/-- Whether a program without comments and heredocs uses the markup: it opens a block of it or names its
functions. -/
def usesMarkup (t : Text) : Bool :=
  (Pattern.lineStart ++ Pattern.many (fun c => c == ' ' || c == '\t')
    ++ Pattern.text "BEGIN_PGML").occursIn t || markupFunctions.occursIn t

end ProblemLint
