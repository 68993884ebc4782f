import ProblemLint.Issue
import ProblemLint.Rule
import ProblemLint.Version
import ProblemLint.Source.Block
import ProblemLint.Source.Macro
import ProblemLint.Source.Variable
import ProblemLint.Markup.Blank

/-! What is known about a problem file before its checks run, and what checks leave for later ones: the spans
of inline code and of blanks in every region, and the variables that answers name. -/

namespace ProblemLint

/-- A value of the expected form, or whatever stood in its place in a description made by hand. -/
inductive Loose (α : Type) where
  | proper (a : α)
  | other (v : Value)

namespace Loose

def proper? {α : Type} : Loose α → Option α
  | .proper a => some a
  | .other _ => none

end Loose

abbrev SpanTable := Loose (List (Loose (List (Loose Span))))

namespace SpanTable

def ofSpans (table : List (List Span)) : SpanTable :=
  .proper (table.map fun spans => .proper (spans.map .proper))

def at? (table : Option SpanTable) (i : Nat) : Option (List Span) := do
  let entries ← table.bind Loose.proper?
  let entry ← entries[i]?
  some ((entry.proper?.getD []).filterMap Loose.proper?)

end SpanTable

structure Document where
  path : Option Text := none
  text : Text := []
  /-- The text without comments. -/
  uncommented : Text := []
  /-- The text without comments and heredoc bodies. -/
  code : Text := []
  newlines : NewlineIndex := ⟨#[]⟩
  version : Option Text := none
  macrosLoaded : List String := []
  assigned : List String := []
  usesMarkup : Bool := false
  blockRules : List BlockRule := []
  macroRules : List MacroRule := []
  markerIssues : List Issue := []
  heredocIssues : List Issue := []
  /-- Blocks of markup, then heredocs of markup. -/
  regions : List Region := []
  blockRegions : List Region := []
  heredocRegions : List Region := []
  inlineSpans : Option SpanTable := none
  blankVariables : Option (List String) := none
  blankSpans : Option SpanTable := none
  deriving Inhabited

namespace Document

def ofText (text : Text) (path : Option Text) (blockRules : List BlockRule)
    (macroRules : List MacroRule) (version : Option Text) : Document :=
  let uncommented := stripComments text
  let code := stripHeredocs uncommented
  let (markerIssues, blockRegions) := blocks text
  let (heredocIssues, heredocRegions) := markupHeredocs text
  let regions := blockRegions ++ heredocRegions
  { path, text, uncommented, code, newlines := .ofText text
    version := some (Version.normalize version)
    macrosLoaded := loadedMacros code
    assigned := Variable.assigned code
    usesMarkup := ProblemLint.usesMarkup code || !regions.isEmpty
    blockRules, macroRules, markerIssues, heredocIssues, regions, blockRegions, heredocRegions }

def lineOf (d : Document) (pos : Int) : Nat := d.newlines.lineOf pos

/-- The regions of markup, numbered, with their first position and their text; an unknown bound counts as
zero. -/
def regionTexts (d : Document) : List (Nat × Int × Text) :=
  d.regions.mapIdx fun i r =>
    let (a, b) := r.boundsOrZero
    (i, a, Text.slice d.text a b)

def blockTexts (d : Document) : List (Nat × Int × Text) :=
  (d.blockRegions.mapIdx fun i r => (i, r)).filterMap fun (i, r) =>
    r.bounds?.map fun (a, b) => (i, a, Text.slice d.text a b)

/-- The inline code of a region: as an earlier check left it, or read from the region's text, with the issues
of that reading. -/
def inlineSpansOf (d : Document) (i : Nat) (t : Text) (start : Int) : List Issue × List Span :=
  match SpanTable.at? d.inlineSpans i with
  | some spans => ([], spans)
  | none => ProblemLint.inlineSpans t start d.newlines

end Document
end ProblemLint
