import ProblemLint.Proofs.Frame
import ProblemLint.Proofs.Newlines
import ProblemLint.Proofs.Stripping

/-! The issues of the standard checks. A check makes its issues from a severity, a message, and a line or a
place or neither; none names a check, so the name that an issue receives in a run is that of the check which
reports it. No message is empty, and a line is one of the text, whether it was counted by line feeds or by breaks,
in the text or in what is left of it. Two checks hand on issues of the document itself, which the scans of its text
have made. -/

namespace ProblemLint

/-- An issue as checks make it. -/
inductive Issue.Plain : Issue → Prop where
  | general (severity : Severity) (message : String) : Plain (.general severity message)
  | onLine (severity : Severity) (message : String) (line : Nat) : Plain (.onLine severity message line)
  | atColumn (severity : Severity) (message : String) (line : Nat) (column : Int) :
    Plain (.atColumn severity message line column)
  | lineFirst (severity : Severity) (line : Int) (message : String) :
    Plain ⟨[("severity", .str severity.name), ("line", .int line), ("message", .str message)]⟩

theorem Issue.Plain.untagged {i : Issue} (h : i.Plain) : i.get? "plugin" = none := by
  cases h <;> simp [Issue.get?, Fields.get?, Issue.general, Issue.onLine, Issue.atColumn]

def AllPlain (issues : List Issue) : Prop := ∀ i ∈ issues, i.Plain

/-- A plain issue that says something, about a line up to a limit if about any. -/
structure Issue.Sound (limit : Nat) (i : Issue) : Prop where
  plain : i.Plain
  message : i.message ≠ []
  line : ∀ n ∈ i.line?, 1 ≤ n ∧ n ≤ limit

section

variable {limit : Nat} {severity : Severity} {message : String}

@[simp] theorem sound_general : (Issue.general severity message).Sound limit ↔ message ≠ "" := by
  refine ⟨fun h => ?_, fun h => ⟨.general _ _, ?_, ?_⟩⟩
  · simpa [Issue.message, Issue.get?, Fields.get?, Issue.general, Value.text] using h.message
  · simpa [Issue.message, Issue.get?, Fields.get?, Issue.general, Value.text] using h
  · simp [Issue.line?, Issue.get?, Fields.get?, Issue.general]

@[simp] theorem sound_onLine {line : Nat} :
    (Issue.onLine severity message line).Sound limit ↔ message ≠ "" ∧ 1 ≤ line ∧ line ≤ limit := by
  refine ⟨fun h => ⟨?_, ?_⟩, fun h => ⟨.onLine _ _ _, ?_, ?_⟩⟩
  · simpa [Issue.message, Issue.get?, Fields.get?, Issue.onLine, Value.text] using h.message
  · simpa [Issue.line?, Issue.get?, Fields.get?, Issue.onLine, Value.int?] using h.line
  · simpa [Issue.message, Issue.get?, Fields.get?, Issue.onLine, Value.text] using h.1
  · simpa [Issue.line?, Issue.get?, Fields.get?, Issue.onLine, Value.int?] using h.2

@[simp] theorem sound_atColumn {line : Nat} {column : Int} :
    (Issue.atColumn severity message line column).Sound limit ↔ message ≠ "" ∧ 1 ≤ line ∧ line ≤ limit := by
  refine ⟨fun h => ⟨?_, ?_⟩, fun h => ⟨.atColumn _ _ _ _, ?_, ?_⟩⟩
  · simpa [Issue.message, Issue.get?, Fields.get?, Issue.atColumn, Value.text] using h.message
  · simpa [Issue.line?, Issue.get?, Fields.get?, Issue.atColumn, Value.int?] using h.line
  · simpa [Issue.message, Issue.get?, Fields.get?, Issue.atColumn, Value.text] using h.1
  · simpa [Issue.line?, Issue.get?, Fields.get?, Issue.atColumn, Value.int?] using h.2

theorem sound_lineFirst {line : Int} (hmessage : message ≠ "") (hline : 1 ≤ line ∧ line ≤ limit) :
    Issue.Sound limit ⟨[("severity", .str severity.name), ("line", .int line), ("message", .str message)]⟩ := by
  refine ⟨.lineFirst _ _ _, ?_, ?_⟩
  · simpa [Issue.message, Issue.get?, Fields.get?, Value.text] using hmessage
  · simpa [Issue.line?, Issue.get?, Fields.get?, Value.int?] using hline

end

theorem concat_ne_empty (a : String) {b : String} (h : b ≠ "") : a ++ b ≠ "" := by
  simp [h]

def AllSound (limit : Nat) (issues : List Issue) : Prop := ∀ i ∈ issues, i.Sound limit

section

variable {α : Type} {limit : Nat}

@[simp] theorem allSound_nil : AllSound limit [] := by simp [AllSound]

@[simp] theorem allSound_cons {i : Issue} {is : List Issue} :
    AllSound limit (i :: is) ↔ i.Sound limit ∧ AllSound limit is := by
  simp [AllSound]

@[simp] theorem allSound_append {is js : List Issue} :
    AllSound limit (is ++ js) ↔ AllSound limit is ∧ AllSound limit js := by
  simp only [AllSound, List.mem_append, or_imp, forall_and]

@[simp] theorem allSound_map {f : α → Issue} {l : List α} :
    AllSound limit (l.map f) ↔ ∀ a ∈ l, (f a).Sound limit := by
  simp [AllSound]

@[simp] theorem allSound_flatMap {f : α → List Issue} {l : List α} :
    AllSound limit (l.flatMap f) ↔ ∀ a ∈ l, AllSound limit (f a) := by
  simp only [AllSound, List.mem_flatMap]
  exact ⟨fun h a ha i hi => h i ⟨a, ha, hi⟩, fun h i ⟨a, ha, hi⟩ => h a ha i hi⟩

@[simp] theorem allSound_filterMap {f : α → Option Issue} {l : List α} :
    AllSound limit (l.filterMap f) ↔ ∀ a ∈ l, ∀ i, f a = some i → i.Sound limit := by
  simp only [AllSound, List.mem_filterMap]
  exact ⟨fun h a ha i hi => h i ⟨a, ha, hi⟩, fun h i ⟨a, ha, hi⟩ => h a ha i hi⟩

@[simp] theorem allSound_reverse {is : List Issue} : AllSound limit is.reverse ↔ AllSound limit is := by
  simp [AllSound]

@[simp] theorem allSound_ite {p : Prop} [Decidable p] {is js : List Issue} :
    AllSound limit (if p then is else js) ↔ (p → AllSound limit is) ∧ (¬ p → AllSound limit js) := by
  split <;> simp_all

end

/-! ### Lines -/

@[simp] theorem NewlineIndex.one_le_lineOf (nl : NewlineIndex) (pos : Int) : 1 ≤ nl.lineOf pos := Nat.succ_pos _

theorem NewlineIndex.lineOf_ofText_le (t : Text) (pos : Int) : (ofText t).lineOf pos ≤ 1 + t.count '\n' := by
  rw [lineOf_ofText]
  exact Nat.add_le_add_left ((List.take_sublist _ _).count_le '\n') 1

/-- What a document counts as lines goes up to a limit, as do the lines of the issues that it holds. -/
structure Document.Within (limit : Nat) (d : Document) : Prop where
  newlines : d.newlines.positions.size < limit
  lineOf : ∀ pos, d.newlines.lineOf pos ≤ limit
  text : (Text.lines d.text).length ≤ limit
  code : (Text.lines d.code).length ≤ limit
  codeNewlines : d.code.count '\n' < limit
  markers : AllSound limit d.markerIssues
  heredocs : AllSound limit d.heredocIssues

variable {limit : Nat} {d : Document}

attribute [simp] Document.Within.lineOf

@[simp] theorem Document.one_le_lineOf (d : Document) (pos : Int) : 1 ≤ d.lineOf pos := Nat.succ_pos _

theorem Document.Within.lineOf_le (hd : d.Within limit) (pos : Int) : d.lineOf pos ≤ limit := hd.lineOf pos

theorem number_numberedLines {t : Text} (ht : (Text.lines t).length ≤ limit) {x : Nat × Text}
    (hx : x ∈ numberedLines t) : 1 ≤ x.1 ∧ x.1 ≤ limit := by
  obtain ⟨i, hi, rfl⟩ := List.mem_mapIdx.1 hx
  rw [Text.lineTexts, List.length_map] at hi
  exact ⟨Nat.succ_pos i, by omega⟩

theorem number_codeLines {t : Text} (ht : (Text.lines t).length ≤ limit) {x : Nat × Text}
    (hx : x ∈ codeLines t) : 1 ≤ x.1 ∧ x.1 ≤ limit := by
  obtain ⟨y, hy, rfl⟩ := List.mem_map.1 hx
  exact number_numberedLines (x := y) ht hy

/-! ### Issues of the markup -/

theorem answer_message (t : Text) : ∀ p ∈ (AnswerBlank.answer t).1, p.2 ≠ "" := by
  simp only [AnswerBlank.answer]
  split
  · split
    · simp
    · simp only [List.forall_mem_append]
      refine ⟨by split <;> simp, ?_⟩
      split
      · split <;> simp
      · simp
  · simp

theorem mem_of_mem_eraseDupsBy {α : Type} {same : α → α → Bool} {l : List α} {a : α}
    (h : a ∈ l.eraseDupsBy same) : a ∈ l := by
  induction hn : l.length using Nat.strong_induction_on generalizing l with
  | _ n ih =>
    cases l with
    | nil => simp at h
    | cons b l =>
      rw [List.eraseDupsBy_cons] at h
      rcases List.mem_cons.1 h with rfl | h
      · exact List.mem_cons_self
      · have hle := List.length_filter_le (fun c => decide (same c b = false)) l
        rw [List.length_cons] at hn
        exact List.mem_cons_of_mem b (List.mem_of_mem_filter (ih _ (by omega) h rfl))

theorem Check.inlineModes_message {rawLayout : Bool} {code : Text} {message : String}
    (h : Check.InlineModes.problem? rawLayout code = some message) : message ≠ "" := by
  have hevaluated : Check.InlineModes.evaluatedMessage ≠ "" := by decide
  have hlayout : Check.InlineModes.layoutMessage ≠ "" := by decide
  simp only [Check.InlineModes.problem?] at h
  split at h
  · cases h
  · split at h
    · rwa [← Option.some.inj h]
    · obtain ⟨p, -, rfl⟩ := Option.map_eq_some_iff.1 h
      split <;> assumption

section

variable {newlines : NewlineIndex} (hlines : ∀ pos, newlines.lineOf pos ≤ limit)

include hlines

theorem inlineSpans_sound (t : Text) (offset : Int) : AllSound limit (inlineSpans t offset newlines).1 := by
  simp [inlineSpans, hlines]

theorem answerBlanks_sound (t : Text) (offset : Int) (inline : List Span) :
    AllSound limit (answerBlanks t offset newlines inline).1 := by
  simp only [answerBlanks, allSound_flatMap, allSound_map, sound_onLine]
  intro found hfound problem hproblem
  obtain ⟨s, -, rfl⟩ := List.mem_map.1 hfound
  exact ⟨answer_message _ _ hproblem, NewlineIndex.one_le_lineOf _ _, hlines _⟩

theorem bracketIssues_sound (t : Text) (offset : Int) (inline blanks : List Span) :
    AllSound limit (bracketIssues t offset newlines inline blanks) := by
  simp [bracketIssues, hlines]

theorem braceIssues_sound (code : Text) (offset : Int) : AllSound limit (Check.Brace.issues code offset newlines) := by
  unfold Check.Brace.issues
  split <;> simp [hlines]

end

theorem inlineSpansOf_sound (hd : d.Within limit) (i : Nat) (t : Text) (start : Int) :
    AllSound limit (d.inlineSpansOf i t start).1 := by
  unfold Document.inlineSpansOf
  split
  · exact allSound_nil
  · exact inlineSpans_sound hd.lineOf _ _

namespace Check

variable (hd : d.Within limit)

include hd

theorem inlineMarkers_sound : AllSound limit (inlineMarkers.found d) := by
  show AllSound limit ((d.regionTexts.map _).flatMap _)
  rw [List.flatMap_map]
  exact allSound_flatMap.2 fun _ _ => inlineSpans_sound hd.lineOf _ _

theorem blanks_sound : AllSound limit (blanks.found d) := by
  show AllSound limit ((d.regionTexts.map _).flatMap _)
  rw [List.flatMap_map]
  exact allSound_flatMap.2 fun _ _ =>
    allSound_append.2 ⟨inlineSpansOf_sound hd _ _ _, answerBlanks_sound hd.lineOf _ _ _⟩

theorem inlineCodeIssues_sound {find : Int → Text → List Issue} (h : ∀ offset code, AllSound limit (find offset code)) :
    AllSound limit (inlineCodeIssues d find) := by
  simp [inlineCodeIssues, h, inlineSpansOf_sound hd]

theorem nestedIssues_sound (offset : Int) (code : Text) : AllSound limit (Nested.issues d offset code) := by
  have hmessages : ∀ s ∈ Nested.snippets, s.2 ≠ "" := by decide
  simp only [Nested.issues, allSound_append, allSound_filterMap, allSound_map, sound_atColumn]
  refine ⟨fun s hs i hi => ?_, fun _ _ => ⟨by simp, d.one_le_lineOf _, hd.lineOf _⟩⟩
  obtain ⟨p, -, rfl⟩ := Option.map_eq_some_iff.1 hi
  exact sound_atColumn.2 ⟨hmessages s hs, d.one_le_lineOf _, hd.lineOf _⟩

theorem hazardIssues_sound : AllSound limit (Hazard.issues d) := by
  simp [Hazard.issues, Hazard.regionIssues, Hazard.cutMessage, inlineSpansOf_sound hd, hd.lineOf_le]

theorem inlineModesIssues_sound : AllSound limit (InlineModes.issues d) := by
  simp only [InlineModes.issues, allSound_flatMap, allSound_append, allSound_filterMap]
  intro region _
  refine ⟨inlineSpansOf_sound hd _ _ _, fun s _ i hi => ?_⟩
  obtain ⟨message, hmessage, rfl⟩ := Option.map_eq_some_iff.1 hi
  exact sound_onLine.2 ⟨inlineModes_message hmessage, d.one_le_lineOf _, hd.lineOf_le _⟩

theorem htmlInText_sound : AllSound limit (HtmlInText.issues d) := by
  have htag {m : Match} {s : String} (h : HtmlInText.tagMessage? m = some s) : s ≠ "" := by
    obtain ⟨advice, -, rfl⟩ := Option.map_eq_some_iff.1 h
    simp
  have hclass : HtmlInText.classMessage ≠ "" := by decide
  simp only [HtmlInText.issues, allSound_flatMap, allSound_append, allSound_filterMap]
  refine fun region _ => ⟨⟨?_, ?_⟩, ?_⟩ <;> intro m _ i hi <;>
    obtain ⟨s, hs, rfl⟩ := Option.map_eq_some_iff.1 hi <;>
    refine sound_onLine.2 ⟨?_, d.one_le_lineOf _, hd.lineOf_le _⟩
  · exact htag hs
  · obtain rfl := Option.some.inj hs
    exact concat_ne_empty _ (by decide)
  · obtain rfl := Option.some.inj hs
    exact hclass

theorem htmlVariable_line {tags : List String} {x : Text × Nat} (hx : x ∈ HtmlVariable.assigned tags d.text) :
    1 ≤ x.2 ∧ x.2 ≤ limit := by
  obtain ⟨y, hy, hx⟩ := List.mem_filterMap.1 (mem_of_mem_eraseDupsBy hx)
  obtain ⟨m, -, rfl⟩ := Option.map_eq_some_iff.1 hx
  exact number_codeLines hd.text hy

theorem spanVariable_sound : AllSound limit (SpanVariable.issues d) := by
  simp only [SpanVariable.issues, List.flatMap_map, allSound_ite, allSound_nil, implies_true, true_and,
    allSound_append, allSound_flatMap, allSound_map]
  refine fun _ => ⟨fun _ _ => inlineSpansOf_sound hd _ _ _, fun x hx => ?_⟩
  exact sound_onLine.2 ⟨concat_ne_empty _ (by decide), htmlVariable_line hd (List.mem_of_mem_filter hx)⟩

theorem passthrough_sound : AllSound limit (Passthrough.issues d) := by
  simp only [Passthrough.issues, List.flatMap_map, allSound_ite, allSound_nil, implies_true, true_and,
    allSound_append, allSound_flatMap, allSound_map]
  refine fun _ => ⟨fun _ _ => inlineSpansOf_sound hd _ _ _, fun x hx => ?_⟩
  exact sound_onLine.2 ⟨concat_ne_empty _ (by decide), htmlVariable_line hd (List.mem_of_mem_filter hx)⟩

theorem wrapperTex_sound : AllSound limit (WrapperTex.issues d) := by
  simp [WrapperTex.issues, inlineSpansOf_sound hd, hd.lineOf_le]

theorem escapedModes_sound : AllSound limit (EscapedModes.issues d) := by
  simp only [EscapedModes.issues, allSound_ite, allSound_nil, implies_true, true_and, allSound_flatMap, allSound_map,
    sound_onLine]
  exact fun _ _ _ _ _ => ⟨concat_ne_empty _ (by decide), d.one_le_lineOf _, hd.lineOf_le _⟩

theorem emphasis_sound : AllSound limit (Emphasis.issues d) := by
  simp only [Emphasis.issues, allSound_flatMap, allSound_append, allSound_map, sound_onLine]
  intro region _
  refine ⟨⟨inlineSpansOf_sound hd _ _ _, ?_⟩, fun _ _ => ⟨by decide, d.one_le_lineOf _, hd.lineOf_le _⟩⟩
  split
  · exact allSound_nil
  · exact answerBlanks_sound hd.lineOf _ _ _

theorem brackets_sound : AllSound limit (brackets.found d) := by
  show AllSound limit (d.regionTexts.flatMap _)
  exact allSound_flatMap.2 fun _ _ =>
    allSound_append.2 ⟨inlineSpansOf_sound hd _ _ _, bracketIssues_sound hd.lineOf _ _ _ _⟩

/-! ### Issues of the structure and of single lines -/

theorem documentPairIssues_sound : AllSound limit (documentPairIssues d) := by
  simp only [documentPairIssues]
  split <;> simp [hd.lineOf_le]

theorem matchIssues_sound (p : Pattern) (t : Text) (severity : Severity) {message : Match → String}
    (hmessage : ∀ m, message m ≠ "") : AllSound limit (matchIssues d p t severity message) := by
  simp [matchIssues, hmessage, hd.lineOf_le]

theorem answerStyle_sound : AllSound limit (AnswerStyle.issues d) := by
  have hmessage : AnswerStyle.message ≠ "" := by decide
  simp only [AnswerStyle.issues, allSound_ite, allSound_nil, implies_true, true_and, allSound_flatMap, allSound_map]
  intro _ m _ pos _
  have hle := (List.takeWhile_sublist (· < pos) (l := d.newlines.positions.toList)).length_le
  have hsize : d.newlines.positions.toList.length < limit := hd.newlines
  refine sound_lineFirst hmessage ?_
  constructor <;> omega

omit hd in
theorem blockRuleIssue?_sound {code : Text} {r : BlockRule} {i : Issue}
    (h : blockRuleIssue? code r = .ok (some i)) : i.Sound limit := by
  simp only [blockRuleIssue?, bind, Except.bind] at h
  repeat' split at h
  all_goals cases h
  all_goals simp

omit hd in
theorem macroRuleIssue?_sound {r : MacroRule} {i : Issue}
    (h : macroRuleIssue? d r = .ok (some i)) : i.Sound limit := by
  simp only [macroRuleIssue?, bind, Except.bind, pure, Except.pure] at h
  repeat' split at h
  all_goals cases h
  all_goals simp

omit hd in
theorem modesIssues_sound {code : Text} (hcode : code.count '\n' < limit) (find : Text → List Nat)
    {message : String} (hmessage : message ≠ "") : AllSound limit (modesIssues code find message) := by
  simp only [modesIssues, allSound_flatMap, allSound_map, sound_onLine]
  intro call _ pos _
  have hle := NewlineIndex.lineOf_ofText_le code (call.1 + pos : Nat)
  exact ⟨hmessage, NewlineIndex.one_le_lineOf _ _, by omega⟩

omit hd in
theorem lineIssues_sound {lines : List (Nat × Text)} (hlines : ∀ x ∈ lines, 1 ≤ x.1 ∧ x.1 ≤ limit)
    (test : Text → Bool) {message : String} (hmessage : message ≠ "") :
    AllSound limit (lineIssues lines test message) := by
  simp only [lineIssues, allSound_map, sound_onLine]
  exact fun x hx => ⟨hmessage, hlines x (List.mem_of_mem_filter hx)⟩

omit hd in
theorem lengthIssues_sound {n : Nat} (hn : 1 ≤ n ∧ n ≤ limit) (line : Text) : AllSound limit (lengthIssues n line) := by
  simp [lengthIssues, hn]

omit hd in
theorem blobMarkerIssues_sound {n : Nat} (hn : 1 ≤ n ∧ n ≤ limit) (line : Text) :
    AllSound limit (blobMarkerIssues n line) := by
  simp [blobMarkerIssues, hn]

omit hd in
theorem unseededIssues_sound {n : Nat} (hn : 1 ≤ n ∧ n ≤ limit) (line : Text) :
    AllSound limit (unseededIssues n line) := by
  have hmessages : ∀ f ∈ unseeded, f.2 ≠ "" := by decide
  simp only [unseededIssues, allSound_flatMap, allSound_map]
  exact fun f hf _ _ => sound_onLine.2 ⟨hmessages f hf, hn⟩

theorem includeIssues_sound : AllSound limit (includeIssues d) := by
  have hlines : ∀ n ∈ ((codeLines d.text).filter fun x => includeCall.occursIn x.2).map (·.1),
      1 ≤ n ∧ n ≤ limit := by
    intro n hn
    obtain ⟨x, hx, rfl⟩ := List.mem_map.1 hn
    exact number_codeLines hd.text (List.mem_of_mem_filter hx)
  simp only [includeIssues]
  split
  · exact allSound_nil
  · next first rest hfirst =>
    have hmem := hlines first (by rw [hfirst]; exact List.mem_cons_self)
    simp only [allSound_append, allSound_map, sound_onLine, allSound_ite, allSound_nil, implies_true, true_and,
      allSound_cons, and_true]
    exact ⟨fun n hn => ⟨by decide, hlines n hn⟩, fun _ => ⟨by decide, hmem⟩⟩

omit hd in
theorem arityProblem?_message {a : Signature.Arity} {args : List Text} {message : String}
    (h : Signature.arityProblem? a args = some message) : message ≠ "" := by
  simp only [Signature.arityProblem?] at h
  repeat' split at h
  all_goals cases h
  all_goals simp

omit hd in
theorem signatureIssue?_sound {n : Nat} (hn : 1 ≤ n ∧ n ≤ limit) {line : Text} {m : Match} {i : Issue}
    (h : Signature.issue? n line m = some i) : i.Sound limit := by
  simp only [Signature.issue?] at h
  split at h
  · cases h
  · split at h
    · cases h
      exact sound_onLine.2 ⟨by simp, hn⟩
    · obtain ⟨arity, -, h⟩ := Option.bind_eq_some_iff.1 h
      obtain ⟨args, -, h⟩ := Option.bind_eq_some_iff.1 h
      split at h
      · cases h
      · obtain ⟨message, hmessage, h⟩ := Option.bind_eq_some_iff.1 h
        cases h
        exact sound_onLine.2 ⟨arityProblem?_message hmessage, hn⟩

theorem htmlPolicy_sound : AllSound limit (HtmlPolicy.issues d) := by
  simp only [HtmlPolicy.issues, allSound_append, allSound_filterMap, HtmlPolicy.styleIssues,
    HtmlPolicy.wrapperIssues, allSound_flatMap]
  refine ⟨⟨⟨⟨fun x hx i h => ?_, matchIssues_sound hd _ _ _ fun _ => by decide⟩, fun x hx m _ i h => ?_⟩,
    fun m _ i h => ?_⟩, fun m _ i h => ?_⟩
  · split at h
    · cases h
      exact sound_onLine.2 ⟨by decide, number_numberedLines hd.code hx⟩
    · cases h
  · obtain ⟨rule, -, rfl⟩ := Option.map_eq_some_iff.1 h
    exact sound_onLine.2 ⟨by simp, number_numberedLines hd.code hx⟩
  · obtain ⟨rule, -, h⟩ := Option.bind_eq_some_iff.1 h
    split at h
    · cases h
    · cases h
      exact sound_onLine.2 ⟨by simp, d.one_le_lineOf _, hd.lineOf_le _⟩
  · obtain ⟨rule, -, h⟩ := Option.bind_eq_some_iff.1 h
    cases h
    exact sound_onLine.2 ⟨by simp, d.one_le_lineOf _, hd.lineOf_le _⟩

theorem blockMatchIssues_sound (p : Pattern) {message : Match → String} (hmessage : ∀ m, message m ≠ "")
    (start : Int) (t : Text) : AllSound limit (blockMatchIssues d p message start t) := by
  simp [blockMatchIssues, hmessage, hd.lineOf_le]

theorem styleQuote_sound : AllSound limit (StyleQuote.issues d) := by
  have hmessage : StyleQuote.message ≠ "" := by decide
  simp [StyleQuote.issues, hmessage, hd.lineOf_le]

end Check

/-! ### Issues of scans -/

namespace Check

/-- The lines that a header has been read from are within a limit. -/
structure Header.Tags.Within (limit : Nat) (h : Header.Tags) : Prop where
  issues : AllSound limit h.issues
  subject : ∀ v ∈ h.subject, 1 ≤ v.2 ∧ v.2 ≤ limit
  chapter : ∀ v ∈ h.chapter, 1 ≤ v.2 ∧ v.2 ≤ limit
  division : ∀ v ∈ h.division, 1 ≤ v.2 ∧ v.2 ≤ limit
  keywords : ∀ v ∈ h.keywords, 1 ≤ v.2 ∧ v.2 ≤ limit
  descriptionStart : ∀ n ∈ h.descriptionStart, 1 ≤ n ∧ n ≤ limit
  descriptionEnd : ∀ n ∈ h.descriptionEnd, 1 ≤ n ∧ n ≤ limit

theorem headerRead_within {h : Header.Tags} (hh : h.Within limit) {entry : Nat × Text}
    (hentry : 1 ≤ entry.1 ∧ entry.1 ≤ limit) : (h.read entry).Within limit := by
  obtain ⟨n, line⟩ := entry
  have hline (w : Text) : ∀ v ∈ some (w, n), 1 ≤ v.2 ∧ v.2 ≤ limit := by simpa using hentry
  have hnumber : ∀ m ∈ some n, 1 ≤ m ∧ m ≤ limit := by simpa using hentry
  unfold Header.Tags.read
  dsimp -zeta only
  extract_lets t h₁ h₂ h₃
  have hh₁ : h₁.Within limit := by
    unfold h₁
    split
    · exact { hh with issues := allSound_append.2 ⟨hh.issues, by simp [hentry]⟩ }
    · exact hh
  have hh₂ : h₂.Within limit := by
    unfold h₂
    split
    · exact { hh₁ with }
    · exact hh₁
  have hh₃ : h₃.Within limit := by
    unfold h₃
    split
    · split
      · exact { hh₂ with issues := allSound_append.2 ⟨hh₂.issues, by simp [hentry]⟩ }
      · split
        · exact { hh₂ with keywords := hline _ }
        · exact hh₂
    · exact hh₂
  split
  · exact { hh₁ with descriptionStart := hnumber }
  split
  · exact { hh₁ with descriptionEnd := hnumber }
  split
  · exact { hh₃ with subject := hline _ }
  · exact { hh₃ with chapter := hline _ }
  · exact { hh₃ with division := hline _ }
  · exact hh₃

theorem header_sound {t : Text} (ht : (Text.lines t).length ≤ limit) (hlimit : 1 ≤ limit) :
    AllSound limit (Header.issues t) := by
  have hread : ((Header.linesOf t).foldl Header.Tags.read {}).Within limit := by
    refine List.foldlRecOn (motive := Header.Tags.Within limit) _ _ (by constructor <;> simp) fun h hh entry hentry =>
      headerRead_within hh (number_numberedLines ht ?_)
    exact List.mem_of_mem_filter (List.takeWhile_subset _ hentry)
  have hdescription {h : Header.Tags} (hh : h.Within limit) : AllSound limit h.descriptionIssues := by
    have hstart := hh.descriptionStart
    have hend := hh.descriptionEnd
    unfold Header.Tags.descriptionIssues
    split <;> simp_all
  have hkeywords (w : Text) {line : Nat} (hline : 1 ≤ line ∧ line ≤ limit) :
      AllSound limit (Header.keywordIssues w line) := by
    simp only [Header.keywordIssues, allSound_ite, allSound_append]
    refine ⟨by simp [hline], fun _ => ⟨by simp [hline], ?_⟩⟩
    split <;> simp [hline]
  have hsubject {v : Option (Text × Nat)} (hv : ∀ x ∈ v, 1 ≤ x.2 ∧ x.2 ≤ limit) :
      AllSound limit (Header.subjectIssues v) := by
    cases v <;> simp_all [Header.subjectIssues]
  have hdivision {tag : String} {v : Option (Text × Nat)} (hv : ∀ x ∈ v, 1 ≤ x.2 ∧ x.2 ≤ limit) :
      AllSound limit (Header.divisionIssues tag v) := by
    cases v <;> simp_all [Header.divisionIssues]
  simp only [Header.issues, allSound_append]
  refine ⟨⟨⟨⟨⟨hread.issues, hdescription hread⟩, ?_⟩, hsubject hread.subject⟩, hdivision hread.chapter⟩,
    hdivision hread.division⟩
  split
  · simp [hlimit]
  · next heq => exact hkeywords _ (hread.keywords _ heq)

/-- The lines of calls that are open, or still want a semicolon, are within a limit. -/
structure LoadMacros.Scan.Within (limit : Nat) (s : LoadMacros.Scan) : Prop where
  issues : AllSound limit s.issues
  opened : ∀ call ∈ s.opened, 1 ≤ call.line ∧ call.line ≤ limit
  wanting : ∀ n ∈ s.wanting, 1 ≤ n ∧ n ≤ limit

theorem listIssues_sound {n : Nat} (hn : 1 ≤ n ∧ n ≤ limit) (block : Text) :
    AllSound limit (LoadMacros.listIssues block n) := by
  simp [LoadMacros.listIssues, hn]

section

variable {s : LoadMacros.Scan} (hs : s.Within limit) {n : Nat} (hn : 1 ≤ n ∧ n ≤ limit)

include hs hn

theorem scanInside_within {call : LoadMacros.OpenCall} (hcall : 1 ≤ call.line ∧ call.line ≤ limit) (t : Text) :
    (s.inside call n t).Within limit := by
  unfold LoadMacros.Scan.inside
  split
  · exact { hs with opened := by simpa using hcall }
  · refine ⟨allSound_append.2 ⟨hs.issues, listIssues_sound hn _⟩, by simp, ?_⟩
    split <;> simp [hn]

theorem scanCode_within (t : Text) : (s.code n t).Within limit := by
  unfold LoadMacros.Scan.code
  split
  · next call hcall => exact scanInside_within hs hn (hs.opened call hcall) t
  · split
    · exact scanInside_within hs hn hn _
    · exact hs

theorem scanLine_within (t : Text) : (s.line (n, t)).Within limit := by
  simp only [LoadMacros.Scan.line]
  split
  · exact scanCode_within hs hn t
  · next m hm =>
    split
    · exact hs
    · exact { hs with wanting := by simp }
    · have hissues : AllSound limit
          (s.issues ++ [.onLine .error "loadMacros() missing trailing semicolon" m]) := by
        simp [hs.issues, hs.wanting m hm]
      have hs' : LoadMacros.Scan.Within limit
          { s with
            issues := s.issues ++ [.onLine .error "loadMacros() missing trailing semicolon" m]
            wanting := none } :=
        ⟨hissues, hs.opened, by simp⟩
      exact scanCode_within hs' hn t

end

theorem loadMacros_sound {t : Text} (ht : (Text.lines t).length ≤ limit) : AllSound limit (LoadMacros.issues t) := by
  have hscan : ((codeLines t).foldl LoadMacros.Scan.line {}).Within limit :=
    List.foldlRecOn (motive := LoadMacros.Scan.Within limit) _ _ (by constructor <;> simp) fun _ hs entry hentry =>
      scanLine_within hs (number_codeLines ht hentry) entry.2
  simp only [LoadMacros.issues, allSound_append]
  refine ⟨hscan.issues, fun i hi => ?_⟩
  obtain ⟨call, hcall, rfl⟩ := Option.map_eq_some_iff.1 (Option.mem_toList.1 hi)
  exact sound_onLine.2 ⟨by decide, hscan.opened call hcall⟩

end Check

/-- The lines of open blocks are within a limit. -/
structure BlockScan.Within (limit : Nat) (s : BlockScan) : Prop where
  issues : AllSound limit s.issues
  opened : ∀ b ∈ s.opened, 1 ≤ b.line ∧ b.line ≤ limit

theorem BlockScan.report_within {s : BlockScan} (hs : s.Within limit) {i : Issue} (hi : i.Sound limit) :
    (s.report i).Within limit :=
  ⟨allSound_append.2 ⟨hs.issues, allSound_cons.2 ⟨hi, allSound_nil⟩⟩, hs.opened⟩

theorem BlockScan.step_within {s : BlockScan} (hs : s.Within limit) (m : Marker) {line : Nat}
    (hline : 1 ≤ line ∧ line ≤ limit) (start stop : Nat) : (s.step m line start stop).Within limit := by
  unfold BlockScan.step
  split
  · have hopen {s' : BlockScan} (hs' : s'.Within limit) :
        BlockScan.Within limit { s' with opened := ⟨m.tag, stop, line⟩ :: s'.opened } :=
      ⟨hs'.issues, List.forall_mem_cons.2 ⟨hline, hs'.opened⟩⟩
    dsimp only
    split
    · exact hopen (report_within hs (by simp [hline]))
    · exact hopen hs
  · split
    · exact report_within hs (by simp [hline])
    · next b outer hopened =>
      split
      · exact report_within hs (by simp [hline])
      · exact ⟨hs.issues, fun b' hb' => hs.opened b' (hopened ▸ List.mem_cons_of_mem b hb')⟩

theorem BlockScan.lines_within {s : BlockScan} (hs : s.Within limit) (opened : Option Text) {line : Nat} (pos : Nat)
    {ls : List Text} (hline : 1 ≤ line) (hend : line + ls.length ≤ limit + 1) :
    (s.lines opened line pos ls).Within limit := by
  induction ls generalizing s opened line pos with
  | nil => exact hs
  | cons l ls ih =>
    rw [List.length_cons] at hend
    refine ih ?_ _ _ (by omega) (by omega)
    split
    · split
      · exact step_within hs _ ⟨hline, by omega⟩ _ _
      · exact hs
    · exact hs

theorem blocks_sound {t : Text} (ht : (Text.lines t).length ≤ limit) : AllSound limit (blocks t).1 := by
  have hlines : (BlockScan.lines {} none 1 0 (Text.lines t)).Within limit :=
    BlockScan.lines_within (by constructor <;> simp) _ _ le_rfl (by omega)
  simp only [blocks, BlockScan.finish, allSound_append, allSound_map, sound_onLine]
  exact ⟨hlines.issues, fun b hb => ⟨by simp, hlines.opened b (List.mem_reverse.1 hb)⟩⟩

theorem heredocLines_sound {opened : Option OpenHeredoc}
    (hopened : ∀ h ∈ opened, 1 ≤ h.line - 1 ∧ h.line - 1 ≤ limit) {line : Nat} (pos : Nat) {ls : List Text}
    (hline : 1 ≤ line) (hend : line + ls.length ≤ limit + 1) : AllSound limit (heredocLines opened line pos ls).1 := by
  induction ls generalizing opened line pos with
  | nil =>
    unfold heredocLines
    split
    · next h =>
      split
      · simp [hopened h rfl]
      · simp
    · simp
  | cons l ls ih =>
    rw [List.length_cons] at hend
    unfold heredocLines
    split
    · refine ih ?_ _ (by omega) (by omega)
      simp only [Option.mem_def, Option.map_eq_some_iff, forall_exists_index, and_imp]
      rintro h t - rfl
      exact ⟨hline, by show line + 1 - 1 ≤ limit; omega⟩
    · split
      · exact ih (by simp) _ (by omega) (by omega)
      · exact ih hopened _ (by omega) (by omega)

/-! ### All checks -/

namespace Check

theorem found_reporting (id title : String) (find : Document → List Issue) (d : Document) :
    (reporting id title find).found d = find d := rfl

/-- Every issue that rules come to comes from one of them. -/
theorem exists_of_mem_mapM {α ε : Type} {f : α → Except ε (Option Issue)} {l : List α} {found : List (Option Issue)}
    (h : l.mapM f = .ok found) {i : Issue} (hi : i ∈ found.filterMap (·)) : ∃ a, f a = .ok (some i) := by
  induction l generalizing found with
  | nil =>
    cases h
    cases hi
  | cons a l ih =>
    rw [List.mapM_cons] at h
    cases ha : f a with
    | error e => simp [ha, bind, Except.bind] at h
    | ok o =>
      cases hl : l.mapM f with
      | error e => simp [ha, hl, bind, Except.bind] at h
      | ok os =>
        obtain rfl : o :: os = found := by simpa [ha, hl, bind, Except.bind, pure, Except.pure] using h
        cases o with
        | none => exact ih hl hi
        | some j =>
          rcases List.mem_cons.1 hi with rfl | hi
          · exact ⟨a, ha⟩
          · exact ih hl hi

theorem found_attempting {id title : String} {find : Document → Except PatternError (List Issue)}
    (h : ∀ issues, find d = .ok issues → AllSound limit issues) :
    AllSound limit ((attempting id title find).found d) := by
  cases hfind : find d with
  | error e => simp [found, attempting, hfind, Except.map]
  | ok issues => simpa [found, attempting, hfind, Except.map] using h issues hfind

theorem ruleChecks_sound (d : Document) : ∀ c ∈ ruleChecks, AllSound limit (c.found d) := by
  simp only [ruleChecks, List.forall_mem_cons]
  refine ⟨found_attempting fun issues h => ?_, found_attempting fun issues h => ?_, by simp⟩
  · cases hfound : d.blockRules.mapM (blockRuleIssue? d.code) with
    | error e => simp [hfound, bind, Except.bind] at h
    | ok found =>
      obtain rfl : found.filterMap (·) = issues := by simpa [hfound, bind, Except.bind] using h
      intro i hi
      obtain ⟨r, hr⟩ := exists_of_mem_mapM hfound hi
      exact blockRuleIssue?_sound hr
  · split at h
    · cases hfound : d.macroRules.mapM (macroRuleIssue? d) with
      | error e => simp [hfound, bind, Except.bind] at h
      | ok found =>
        obtain rfl : found.filterMap (·) = issues := by simpa [hfound, bind, Except.bind] using h
        intro i hi
        obtain ⟨r, hr⟩ := exists_of_mem_mapM hfound hi
        exact macroRuleIssue?_sound hr
    · cases h
      exact allSound_nil

theorem requiredMacros_sound (d : Document) : AllSound limit (requiredMacros.found d) := by
  simp [requiredMacros, found_reporting]

theorem seedVariation_sound (d : Document) : AllSound limit (seedVariation.found d) := by
  simp [seedVariation, found_reporting]

theorem blankAssignments_sound (d : Document) : AllSound limit (blankAssignments.found d) := by
  show AllSound limit (List.map _ _)
  simp

variable (hd : d.Within limit)

include hd

theorem signatures_sound : AllSound limit (Signature.issues d.code) := by
  simp only [Signature.issues, allSound_flatMap, allSound_filterMap]
  exact fun x hx _ _ _ h => signatureIssue?_sound (number_numberedLines hd.code hx) h

theorem blobPayloads_sound : AllSound limit (blobPayloads.found d) := by
  simp only [blobPayloads, found_reporting, allSound_append, allSound_flatMap]
  exact ⟨matchIssues_sound hd _ _ _ fun _ => by decide,
    fun x hx => blobMarkerIssues_sound (number_codeLines hd.text hx) _⟩

theorem garbledText_sound : AllSound limit (garbledText.found d) := by
  simp only [garbledText, found_reporting, allSound_filterMap]
  intro x hx i h
  obtain ⟨token, -, rfl⟩ := Option.map_eq_some_iff.1 h
  exact sound_onLine.2 ⟨by simp, number_numberedLines hd.code hx⟩

theorem divTags_sound : AllSound limit (divTags.found d) := by
  simp only [divTags, found_reporting, allSound_flatMap, allSound_append, allSound_ite]
  exact fun _ _ => ⟨⟨fun _ => allSound_nil, fun _ => blockMatchIssues_sound hd _ (fun _ => by decide) _ _⟩,
    blockMatchIssues_sound hd _ (fun _ => by decide) _ _⟩

theorem wrapperInString_sound : AllSound limit (wrapperInString.found d) := by
  simp only [wrapperInString, found_reporting, allSound_flatMap, allSound_map]
  exact fun x hx _ _ => sound_onLine.2 ⟨by decide, number_codeLines hd.code hx⟩

theorem forbiddenTags_sound : AllSound limit (forbiddenTags.found d) := by
  simp only [forbiddenTags, found_reporting, allSound_flatMap]
  exact fun _ _ => blockMatchIssues_sound hd _ (fun _ => concat_ne_empty _ (by decide)) _ _

/-- The checks that look for an older way to write problems. -/
theorem legacy_sound : ∀ c ∈ [textBlocks, answerRule, breakVariable, oldAnswerCheckers, solutionHintMacros],
    AllSound limit (c.found d) := by
  simp only [List.forall_mem_cons, textBlocks, answerRule, breakVariable, oldAnswerCheckers, solutionHintMacros,
    found_reporting]
  refine ⟨matchIssues_sound hd _ _ _ ?_, matchIssues_sound hd _ _ _ ?_, matchIssues_sound hd _ _ _ ?_,
    matchIssues_sound hd _ _ _ ?_, matchIssues_sound hd _ _ _ ?_, by simp⟩ <;> intro m <;>
    first | decide | exact concat_ne_empty _ (by decide)

theorem fileChecks_sound : ∀ c ∈ fileChecks, AllSound limit (c.found d) := by
  have hlimit : 1 ≤ limit := (d.one_le_lineOf 0).trans (hd.lineOf_le 0)
  have hlegacy := legacy_sound hd
  simp only [List.forall_mem_cons] at hlegacy
  obtain ⟨htext, hrule, hbreak, hcheckers, hmacros, -⟩ := hlegacy
  simp only [fileChecks, List.forall_mem_cons, modesTexPayload, modesHtmlPlainText, labelDots, hardSpaces, texColors,
    found_reporting]
  exact ⟨hd.markers, hd.heredocs, documentPairIssues_sound hd, header_sound hd.text hlimit, includeIssues_sound hd,
    requiredMacros_sound d, loadMacros_sound hd.text,
    allSound_flatMap.2 fun x hx => unseededIssues_sound (number_codeLines hd.code hx) _,
    seedVariation_sound d, signatures_sound hd, modesIssues_sound hd.codeNewlines _ (by simp),
    modesIssues_sound hd.codeNewlines _ (by simp),
    allSound_flatMap.2 fun x hx => lengthIssues_sound (number_codeLines hd.text hx) _, blobPayloads_sound hd,
    lineIssues_sound (fun x => number_codeLines hd.text) _ (by simp), answerStyle_sound hd,
    htext, lineIssues_sound (fun x => number_numberedLines hd.code) _ (by simp),
    garbledText_sound hd, lineIssues_sound (fun x => number_numberedLines hd.code) _ (by simp),
    htmlPolicy_sound hd, forbiddenTags_sound hd, divTags_sound hd,
    wrapperInString_sound hd, styleQuote_sound hd, hrule, hbreak, hcheckers, hmacros, by simp⟩

theorem inlineChecks_sound : ∀ c ∈ inlineChecks, AllSound limit (c.found d) := by
  simp only [inlineChecks, List.forall_mem_cons]
  exact ⟨hazardIssues_sound hd, inlineModesIssues_sound hd, inlineCodeIssues_sound hd (nestedIssues_sound hd),
    inlineCodeIssues_sound hd fun offset code => braceIssues_sound hd.lineOf code offset,
    htmlInText_sound hd, spanVariable_sound hd, passthrough_sound hd, wrapperTex_sound hd, escapedModes_sound hd,
    by simp⟩

theorem blankChecks_sound : ∀ c ∈ blankChecks, AllSound limit (c.found d) := by
  simp only [blankChecks, List.forall_mem_cons]
  exact ⟨emphasis_sound hd, brackets_sound hd, blankAssignments_sound d, by simp⟩

theorem found_sound {c : Check} (hc : c ∈ standard) : AllSound limit (c.found d) := by
  have hmem := standard_subset hc
  simp only [List.mem_append, List.mem_cons, List.not_mem_nil, or_false] at hmem
  rcases hmem with (((hfile | hrule) | hin) | hbl) | rfl | rfl
  · exact fileChecks_sound hd c hfile
  · exact ruleChecks_sound d c hrule
  · exact inlineChecks_sound hd c hin
  · exact blankChecks_sound hd c hbl
  · exact inlineMarkers_sound hd
  · exact blanks_sound hd

end Check

/-- As many lines as a text has, by breaks or by line feeds, whichever are more. -/
def lineLimit (t : Text) : Nat := max (1 + t.count '\n') (Text.lines t).length

/-- What is read from a text stays within its lines, whatever has been noted on it. -/
theorem ofText_within (t : Text) (path : Option Text) (blockRules : List BlockRule) (macroRules : List MacroRule)
    (version : Option Text) (n : Notes) :
    ((Document.ofText t path blockRules macroRules version).withNotes n).Within (lineLimit t) := by
  have hthin := thinned_code t
  have hcount : 1 + t.count '\n' ≤ lineLimit t := Nat.le_max_left _ _
  have hlines : (Text.lines t).length ≤ lineLimit t := Nat.le_max_right _ _
  refine ⟨?_, fun pos => (NewlineIndex.lineOf_ofText_le t pos).trans hcount, hlines,
    hthin.length_lines_le.trans hlines, ?_, blocks_sound hlines, heredocLines_sound (by simp) _ le_rfl (by omega)⟩
  · show (NewlineIndex.positionsFrom 0 t).length < lineLimit t
    rw [NewlineIndex.length_positionsFrom]
    omega
  · show (stripHeredocs (stripComments t)).count '\n' < lineLimit t
    rw [hthin.count_newline]
    omega

/-- Whatever a standard check finds in a file is plain. -/
theorem Check.found_plain {c : Check} (hc : c ∈ standard) (t : Text) (path : Option Text) (blocks : List BlockRule)
    (macros : List MacroRule) (version : Option Text) (n : Notes) :
    AllPlain (c.found ((Document.ofText t path blocks macros version).withNotes n)) :=
  fun i hi => (found_sound (ofText_within t path blocks macros version n) hc i hi).plain

end ProblemLint
