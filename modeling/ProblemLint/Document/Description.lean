import ProblemLint.Document

/-! Descriptions of documents made by hand: records whose fields may be missing or of a wrong form. What a field lacks
is taken as unknown. -/

namespace ProblemLint

namespace SpanTable

def spanOfValue (v : Value) : Loose Span :=
  match v with
  | .list [.int a, .int b] => .proper ⟨a, b⟩
  | _ => .other v

def ofValue : Value → SpanTable
  | .list entries => .proper (entries.map fun entry =>
      match entry with
      | .list spans => .proper (spans.map spanOfValue)
      | v => .other v)
  | v => .other v

def looseValue {α : Type} (value : α → Value) : Loose α → Value
  | .proper a => value a
  | .other v => v

def toValue (table : SpanTable) : Value :=
  looseValue (fun entries => .list (entries.map (looseValue fun spans =>
    .list (spans.map (looseValue fun s => .list [.int s.start, .int s.stop]))))) table

end SpanTable

namespace Region

def ofValue (v : Value) : Region :=
  { start := (v.get? "start").bind Value.int?
    stop := (v.get? "end").bind Value.int? }

end Region

namespace Document

def textsOf (v : Value) : List String := ((v.items?).getD []).filterMap Value.str?

def issuesOf (v : Value) : List Issue := (((v.items?).getD []).filterMap Value.fields?).map Issue.mk

def regionsOf (v : Value) : List Region := ((v.items?).getD []).map Region.ofValue

def newlinesOf (v : Value) : NewlineIndex :=
  ⟨((((v.items?).getD []).filterMap Value.int?).map Int.toNat).toArray⟩

/-- A document with a field of its description replaced. -/
def set (d : Document) (key : String) (v : Value) : Document :=
  match key with
  | "text" => { d with text := v.text }
  | "stripped_comments" => { d with uncommented := v.text }
  | "stripped_text" => { d with code := v.text }
  | "newlines" => { d with newlines := newlinesOf v }
  | "pg_version" => { d with version := match v with | .null => none | _ => some v.text }
  | "macros_loaded" => { d with macrosLoaded := textsOf v }
  | "assigned_vars" => { d with assigned := textsOf v }
  | "uses_pgml" => { d with usesMarkup := v.truthy }
  | "block_rules" => { d with blockRules := ((v.items?).getD []).map BlockRule.ofValue }
  | "macro_rules" => { d with macroRules := ((v.items?).getD []).map MacroRule.ofValue }
  | "block_marker_issues" => { d with markerIssues := issuesOf v }
  | "pgml_heredoc_issues" => { d with heredocIssues := issuesOf v }
  | "pgml_regions" => { d with regions := regionsOf v }
  | "pgml_block_regions" => { d with blockRegions := regionsOf v }
  | "pgml_heredoc_regions" => { d with heredocRegions := regionsOf v }
  | "pgml_inline_spans" => { d with inlineSpans := some (.ofValue v) }
  | "pgml_blank_vars" => { d with blankVariables := some (sortedNames (textsOf v)) }
  | "pgml_blank_spans" => { d with blankSpans := some (.ofValue v) }
  | _ => d

def erase (d : Document) (key : String) : Document :=
  match key with
  | "pgml_inline_spans" => { d with inlineSpans := none }
  | "pgml_blank_vars" => { d with blankVariables := none }
  | "pgml_blank_spans" => { d with blankSpans := none }
  | "text" => { d with text := [] }
  | "stripped_comments" => { d with uncommented := [] }
  | "stripped_text" => { d with code := [] }
  | "pg_version" => { d with version := none }
  | "uses_pgml" => { d with usesMarkup := false }
  | _ => d.set key (.list [])

def ofDescription (fields : Fields) : Document := fields.foldl (fun d (k, v) => d.set k v) {}

end Document
end ProblemLint
