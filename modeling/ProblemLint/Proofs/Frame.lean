import ProblemLint.Check.Standard
import Mathlib.Tactic

/-! What the standard checks read and write. All but two leave the document as it is; the two leave notes for
later checks: the inline code of the regions, and their blanks with the variables of the answers. The checks
are sorted here by the notes that they read, and each report is shown to depend on these notes only. -/

namespace ProblemLint

@[ext] structure Notes where
  inline : Option SpanTable := none
  names : Option (List String) := none
  blanks : Option SpanTable := none

namespace Document

def notes (d : Document) : Notes := ⟨d.inlineSpans, d.blankVariables, d.blankSpans⟩

def withNotes (d : Document) (n : Notes) : Document :=
  { d with inlineSpans := n.inline, blankVariables := n.names, blankSpans := n.blanks }

end Document

namespace Check

/-- Checks that read the file only. -/
def fileChecks : List Check :=
  [ blockMarkers, heredocs, documentPairs, headerTags, includeProblem, requiredMacros, loadMacros
  , seedStability, seedVariation, functionSignatures, modesTexPayload, modesHtmlPlainText, lineLength
  , blobPayloads, labelDots, answerStyle, textBlocks, hardSpaces, garbledText, texColors, htmlPolicy
  , forbiddenTags, divTags, wrapperInString, styleStringQuotes, answerRule, breakVariable
  , oldAnswerCheckers, solutionHintMacros ]

/-- Checks that read the file and the rules, whose patterns may be malformed. -/
def ruleChecks : List Check := [blockRules, macroRules]

/-- Checks that read the file and the notes on inline code. -/
def inlineChecks : List Check :=
  [ parseHazards, modesInInline, inlineSyntax, inlineBraces, htmlInText, spanInterpolation
  , htmlPassthrough, tagWrapperTex, modesHtmlEscape ]

/-- Checks that read the file and all notes. -/
def blankChecks : List Check := [underscoreEmphasis, brackets, blankAssignments]

theorem standard_subset :
    standard ⊆ fileChecks ++ ruleChecks ++ inlineChecks ++ blankChecks ++ [inlineMarkers, blanks] := by
  simp only [standard, fileChecks, ruleChecks, inlineChecks, blankChecks, List.cons_append,
    List.nil_append, List.cons_subset, List.nil_subset, List.mem_cons, true_or, or_true, and_self]

def inlineReaders : List String :=
  [ "pgml_pgml_parse_hazards", "pgml_modes_in_inline", "pgml_inline_pgml_syntax", "pgml_inline_braces"
  , "pgml_blanks", "pgml_underscore_emphasis", "pgml_brackets", "pgml_html_in_text"
  , "pgml_span_interpolation", "pgml_html_var_passthrough", "pgml_tag_wrapper_tex"
  , "pgml_modes_html_escape" ]

def blankReaders : List String := ["pgml_underscore_emphasis", "pgml_brackets", "pgml_blank_assignments"]

/-- Notes that agree as far as a check reads them. -/
structure SameNotes (id : String) (n n' : Notes) : Prop where
  inline : id ∈ inlineReaders → n.inline = n'.inline
  blanks : id ∈ blankReaders → n.names = n'.names ∧ n.blanks = n'.blanks

/-! ### Reports -/

/-- The check reports what `find` gives, leaves the document as it is, and reads only the notes that its
identifier allows. -/
structure Reports (c : Check) (find : Document → List Issue) : Prop where
  run_eq : ∀ d, c.run d = .ok ⟨find d, d⟩
  congr : ∀ (d : Document) {n n' : Notes}, SameNotes c.id n n' → find (d.withNotes n) = find (d.withNotes n')

theorem fileChecks_report {c : Check} (hc : c ∈ fileChecks) : ∃ find, c.Reports find := by
  simp only [fileChecks, List.mem_cons, List.not_mem_nil, or_false] at hc
  rcases hc with rfl | rfl | rfl | rfl | rfl | rfl | rfl | rfl | rfl | rfl | rfl | rfl | rfl | rfl | rfl
    | rfl | rfl | rfl | rfl | rfl | rfl | rfl | rfl | rfl | rfl | rfl | rfl | rfl | rfl
  all_goals exact ⟨_, fun _ => rfl, fun _ _ _ _ => rfl⟩

theorem inlineChecks_report {c : Check} (hc : c ∈ inlineChecks) : ∃ find, c.Reports find := by
  obtain ⟨hid, find, hrun, hfind⟩ : c.id ∈ inlineReaders ∧ ∃ find : Document → List Issue,
      (∀ d, c.run d = .ok ⟨find d, d⟩) ∧
        ∀ (d : Document) (n : Notes), find (d.withNotes n) = find (d.withNotes { inline := n.inline }) := by
    simp only [inlineChecks, List.mem_cons, List.not_mem_nil, or_false] at hc
    rcases hc with rfl | rfl | rfl | rfl | rfl | rfl | rfl | rfl | rfl
    all_goals exact ⟨by decide, _, fun _ => rfl, fun _ _ => rfl⟩
  refine ⟨find, hrun, fun d n n' h => ?_⟩
  rw [hfind, hfind d n', h.inline hid]

theorem SameNotes.eq {id : String} {n n' : Notes} (h : SameNotes id n n') (hinline : id ∈ inlineReaders)
    (hblanks : id ∈ blankReaders) : n = n' := by
  obtain ⟨hnames, hspans⟩ := h.blanks hblanks
  exact Notes.ext (h.inline hinline) hnames hspans

theorem blankChecks_report {c : Check} (hc : c ∈ blankChecks) : ∃ find, c.Reports find := by
  simp only [blankChecks, List.mem_cons, List.not_mem_nil, or_false] at hc
  rcases hc with rfl | rfl | rfl
  · exact ⟨_, fun _ => rfl, fun d n n' h => by rw [h.eq (by decide) (by decide)]⟩
  · exact ⟨_, fun _ => rfl, fun d n n' h => by rw [h.eq (by decide) (by decide)]⟩
  -- the third reads the variables of the answers alone
  · refine ⟨_, fun _ => rfl, fun d n n' h => ?_⟩
    obtain ⟨hnames, -⟩ := h.blanks (by decide)
    simp only [Document.withNotes, hnames]

/-! ### Rules -/

theorem isOk_read_standard :
    (MacroRule.standard.all fun r => (Pattern.read r.pattern.toList).toOption.isSome) = true := by
  decide +kernel

theorem macroRuleIssue?_of_read (d : Document) {r : MacroRule} {p : Pattern} (hp : Pattern.read r.pattern.toList = .ok p) :
    ∃ i, macroRuleIssue? d r = .ok i := by
  simp only [macroRuleIssue?, hp, bind, Except.bind, pure, Except.pure]
  repeat' split
  all_goals exact ⟨_, rfl⟩

theorem macroRuleIssue?_ok (d : Document) {r : MacroRule} (hr : r ∈ MacroRule.standard) :
    ∃ i, macroRuleIssue? d r = .ok i := by
  have hread := List.all_eq_true.1 isOk_read_standard r hr
  cases hp : Pattern.read r.pattern.toList with
  | error e => simp [hp, Except.toOption] at hread
  | ok p => exact macroRuleIssue?_of_read d hp

theorem mapM_ok {α β ε : Type} {f : α → Except ε β} {l : List α} (h : ∀ a ∈ l, ∃ b, f a = .ok b) :
    ∃ bs, l.mapM f = .ok bs := by
  induction l with
  | nil => exact ⟨[], rfl⟩
  | cons a l ih =>
    obtain ⟨b, hb⟩ := h a List.mem_cons_self
    obtain ⟨bs, hbs⟩ := ih fun c hc => h c (List.mem_cons_of_mem a hc)
    exact ⟨b :: bs, by rw [List.mapM_cons, hb, hbs]; rfl⟩

theorem ruleChecks_report {c : Check} (hc : c ∈ ruleChecks) :
    ∃ find : Document → Except PatternError (List Issue),
      (∀ d, c.run d = (find d).map fun issues => ⟨issues, d⟩) ∧
      (∀ (d : Document) (n : Notes), find (d.withNotes n) = find d) ∧
      ∀ d : Document, d.blockRules = BlockRule.standard → d.macroRules = MacroRule.standard →
        ∃ issues, find d = .ok issues := by
  simp only [ruleChecks, List.mem_cons, List.not_mem_nil, or_false] at hc
  rcases hc with rfl | rfl
  · refine ⟨_, fun _ => rfl, fun _ _ => rfl, fun d hblockRules _ => ⟨[], ?_⟩⟩
    simp only [hblockRules]
    rfl
  · refine ⟨_, fun _ => rfl, fun _ _ => rfl, fun d _ hmacroRules => ?_⟩
    obtain ⟨found, hfound⟩ := mapM_ok fun r (hr : r ∈ MacroRule.standard) => macroRuleIssue?_ok d hr
    simp only [hmacroRules, hfound]
    split
    · exact ⟨_, rfl⟩
    · exact ⟨_, rfl⟩

/-! ### Notes -/

def found (c : Check) (d : Document) : List Issue :=
  match c.run d with
  | .ok r => r.issues
  | .error _ => []

def noted (c : Check) (d : Document) : Document :=
  match c.run d with
  | .ok r => r.document
  | .error _ => d

/-- The notes that the two noting checks leave on a document, one after the other. -/
def fullNotes (d : Document) : Notes := (blanks.noted (inlineMarkers.noted (d.withNotes {}))).notes

theorem found_of_run {c : Check} {d : Document} {issues : List Issue} {d' : Document}
    (h : c.run d = .ok ⟨issues, d'⟩) : c.found d = issues := by
  rw [found, h]

theorem run_inlineMarkers (d : Document) (n : Notes) :
    inlineMarkers.run (d.withNotes n) =
      .ok ⟨inlineMarkers.found (d.withNotes (fullNotes d)),
        d.withNotes { n with inline := (fullNotes d).inline }⟩ := rfl

theorem run_blanks (d : Document) {n : Notes} (h : n.inline = (fullNotes d).inline) :
    blanks.run (d.withNotes n) =
      .ok ⟨blanks.found (d.withNotes (fullNotes d)),
        d.withNotes { n with names := (fullNotes d).names, blanks := (fullNotes d).blanks }⟩ := by
  obtain ⟨inline, names, spans⟩ := n
  obtain rfl : inline = (fullNotes d).inline := h
  rfl

/-- Every other check reports the same on notes that agree as far as it reads them, and adds none. -/
theorem run_of_sameNotes {c : Check} (hc : c ∈ standard) (hinline : c ≠ inlineMarkers) (hblanks : c ≠ blanks)
    {d : Document} (hblockRules : d.blockRules = BlockRule.standard)
    (hmacroRules : d.macroRules = MacroRule.standard) {n n' : Notes} (h : SameNotes c.id n n') :
    c.run (d.withNotes n) = .ok ⟨c.found (d.withNotes n'), d.withNotes n⟩ := by
  have hreports (hfind : ∃ find, c.Reports find) :
      c.run (d.withNotes n) = .ok ⟨c.found (d.withNotes n'), d.withNotes n⟩ := by
    obtain ⟨find, hrun, hcongr⟩ := hfind
    rw [hrun, found_of_run (hrun _), hcongr d h]
  have hmem := standard_subset hc
  simp only [List.mem_append, List.mem_cons, List.not_mem_nil, or_false] at hmem
  rcases hmem with (((hfile | hrule) | hin) | hbl) | rfl | rfl
  · exact hreports (fileChecks_report hfile)
  · obtain ⟨find, hrun, hcongr, hok⟩ := ruleChecks_report hrule
    obtain ⟨issues, hissues⟩ := hok d hblockRules hmacroRules
    have hrun' (m : Notes) : c.run (d.withNotes m) = .ok ⟨issues, d.withNotes m⟩ := by
      rw [hrun, hcongr, hissues]
      rfl
    rw [hrun', found_of_run (hrun' n')]
  · exact hreports (inlineChecks_report hin)
  · exact hreports (blankChecks_report hbl)
  · exact absurd rfl hinline
  · exact absurd rfl hblanks

end Check
end ProblemLint
