import ProblemLint.Proofs.Frame
import ProblemLint.Proofs.InlinePairs

/-! Checks that need the inline code of a region take it from the notes, or read the region again where there are
none. The second way finds what the first does, and says once more which markers of inline code have no partner.
The notes are numbered by all regions; a check of blocks looks them up by the number of a block, which is the same
number because blocks come first. -/

namespace ProblemLint

/-! ### Markers without a partner -/

/-- Whether a message is about a marker of inline code without its partner. -/
def isUnpairedMessage (m : String) : Bool :=
  m == "PGML inline close @] without matching [@" || m == "PGML inline open [@ without matching @]"

def Issue.isUnpaired (i : Issue) : Bool :=
  match i.get? "message" with
  | some (.str m) => isUnpairedMessage m
  | _ => false

@[simp] theorem Issue.isUnpaired_onLine (severity : Severity) (message : String) (line : Nat) :
    (Issue.onLine severity message line).isUnpaired = isUnpairedMessage message := rfl

/-- The message begins unlike those about markers of inline code. -/
structure BeginsOtherwise (m : String) : Prop where
  length : 8 ≤ m.toList.length
  lead : m.toList.take 8 ≠ "PGML inl".toList

theorem BeginsOtherwise.append {m : String} (h : BeginsOtherwise m) (rest : String) :
    BeginsOtherwise (m ++ rest) := by
  refine ⟨?_, ?_⟩
  · rw [String.toList_append, List.length_append]
    exact Nat.le_add_right_of_le h.length
  · rw [String.toList_append, List.take_append_of_le_length h.length]
    exact h.lead

theorem BeginsOtherwise.paired {m : String} (h : BeginsOtherwise m) : isUnpairedMessage m = false := by
  have hne (tail : String) : m ≠ "PGML inl" ++ tail := by
    rintro rfl
    refine h.lead ?_
    rw [String.toList_append]
    rfl
  rw [isUnpairedMessage, Bool.or_eq_false_iff, beq_eq_false_iff_ne, beq_eq_false_iff_ne]
  exact ⟨hne "ine close @] without matching [@", hne "ine open [@ without matching @]"⟩

def withoutUnpaired (issues : List Issue) : List Issue := issues.filter fun i => !i.isUnpaired

theorem withoutUnpaired_append (is js : List Issue) :
    withoutUnpaired (is ++ js) = withoutUnpaired is ++ withoutUnpaired js := List.filter_append _ _

theorem withoutUnpaired_flatMap {α : Type} (f : α → List Issue) (l : List α) :
    withoutUnpaired (l.flatMap f) = l.flatMap fun a => withoutUnpaired (f a) := List.filter_flatMap

theorem withoutUnpaired_of_all {issues : List Issue} (h : ∀ i ∈ issues, i.isUnpaired = true) :
    withoutUnpaired issues = [] := by
  simpa [withoutUnpaired] using h

theorem withoutUnpaired_of_none {issues : List Issue} (h : ∀ i ∈ issues, i.isUnpaired = false) :
    withoutUnpaired issues = issues := by
  simpa [withoutUnpaired] using h

theorem inlineSpans_unpaired (t : Text) (offset : Int) (newlines : NewlineIndex) :
    ∀ i ∈ (inlineSpans t offset newlines).1, i.isUnpaired = true := by
  have hclose : isUnpairedMessage "PGML inline close @] without matching [@" = true := by decide
  have hopen : isUnpairedMessage "PGML inline open [@ without matching @]" = true := by decide
  simp only [inlineSpans, List.mem_append, List.mem_map]
  rintro i (⟨p, -, rfl⟩ | ⟨p, -, rfl⟩)
  · exact hclose
  · exact hopen

theorem inlineSpans_nonneg (t : Text) (offset : Int) (newlines : NewlineIndex) :
    ∀ a ∈ (inlineSpans t offset newlines).2, 0 ≤ a.start := by
  intro a ha
  obtain ⟨p, q, hstart, -⟩ := (inlineSpans_isInlineCode t offset newlines a ha).markers
  rw [hstart]
  exact Int.natCast_nonneg p

/-! ### Readings -/

/-- A numbered text with what is known or read of its inline code. -/
structure Reading where
  number : Nat
  start : Int
  text : Text
  issues : List Issue
  inline : List Span

def Reading.quiet (r : Reading) : Reading := { r with issues := [] }

namespace Document

def reading (d : Document) (x : Nat × Int × Text) : Reading :=
  ⟨x.1, x.2.1, x.2.2, (d.inlineSpansOf x.1 x.2.2 x.2.1).1, (d.inlineSpansOf x.1 x.2.2 x.2.1).2⟩

theorem reading_unpaired (d : Document) (x : Nat × Int × Text) :
    ∀ i ∈ (d.reading x).issues, i.isUnpaired = true := by
  intro i hi
  simp only [reading, inlineSpansOf] at hi
  split at hi
  · cases hi
  · exact inlineSpans_unpaired _ _ _ i hi

theorem getElem?_of_mem_regionTexts {d : Document} {x : Nat × Int × Text} (hx : x ∈ d.regionTexts) :
    d.regionTexts[x.1]? = some x := by
  obtain ⟨i, hi, rfl⟩ := List.mem_mapIdx.1 hx
  simp [regionTexts, hi]

/-- A block has the same number among all regions. -/
theorem getElem?_of_mem_blockTexts {d : Document} (hregions : d.regions = d.blockRegions ++ d.heredocRegions)
    {x : Nat × Int × Text} (hx : x ∈ d.blockTexts) : d.regionTexts[x.1]? = some x := by
  obtain ⟨⟨i, r⟩, hr, hx⟩ := List.mem_filterMap.1 hx
  obtain ⟨⟨a, b⟩, hbounds, rfl⟩ := Option.map_eq_some_iff.1 hx
  obtain ⟨j, hj, hjr⟩ := List.mem_mapIdx.1 hr
  obtain ⟨rfl, rfl⟩ := Prod.mk.inj hjr
  have hzero : d.blockRegions[j].boundsOrZero = (a, b) := by
    obtain ⟨start, hstart, hbounds⟩ := Option.bind_eq_some_iff.1 hbounds
    obtain ⟨stop, hstop, hbounds⟩ := Option.bind_eq_some_iff.1 hbounds
    cases hbounds
    rw [Region.boundsOrZero, hstart, hstop, Option.getD_some, Option.getD_some]
  -- blocks come first among the regions, so that the number needs no shift
  have hregion : d.regions[j]? = some d.blockRegions[j] := by
    rw [hregions, List.getElem?_append_left hj, List.getElem?_eq_getElem hj]
  simp only [regionTexts, List.getElem?_mapIdx, hregion, Option.map_some, hzero]

end Document

theorem SpanTable.at?_ofSpans (table : List (List Span)) (i : Nat) :
    SpanTable.at? (some (.ofSpans table)) i = table[i]? := by
  have hproper (spans : List Span) : (spans.map Loose.proper).filterMap Loose.proper? = spans := by
    rw [List.filterMap_map]
    exact List.filterMap_some
  simp only [at?, ofSpans, Option.bind_some, Loose.proper?, bind, List.getElem?_map]
  cases table[i]? with
  | none => rfl
  | some spans => exact congrArg some (hproper spans)

namespace Check

/-- The notes on a region are the inline code of its text. -/
theorem at?_noted {d : Document} {x : Nat × Int × Text} (hx : d.regionTexts[x.1]? = some x) :
    SpanTable.at? (inlineMarkers.noted d).inlineSpans x.1 = some (inlineSpans x.2.2 x.2.1 d.newlines).2 := by
  show SpanTable.at? (some (.ofSpans _)) x.1 = _
  simp only [SpanTable.at?_ofSpans, List.getElem?_map, hx, Option.map_some]

/-- The notes on a region are what a reading of it gives. -/
theorem reading_noted {d : Document} (hfresh : d.inlineSpans = none) {x : Nat × Int × Text}
    (hx : d.regionTexts[x.1]? = some x) : (inlineMarkers.noted d).reading x = (d.reading x).quiet := by
  have hread : SpanTable.at? d.inlineSpans x.1 = none := by
    rw [hfresh]
    rfl
  simp only [Document.reading, Document.inlineSpansOf, at?_noted hx, hread, Reading.quiet]

/-- What a check reports when it goes by the readings of some texts of the document, and by nothing else that the
notes on inline code could change. -/
structure FromReadings (c : Check) (texts : Document → List (Nat × Int × Text))
    (find : Document → List Reading → List Issue) : Prop where
  run_eq : ∀ d, ∃ d', c.run d = .ok ⟨find d ((texts d).map d.reading), d'⟩
  texts_noted : ∀ d, texts (inlineMarkers.noted d) = texts d
  find_noted : ∀ d, find (inlineMarkers.noted d) = find d
  numbered : ∀ {d : Document}, d.regions = d.blockRegions ++ d.heredocRegions →
    ∀ x ∈ texts d, d.regionTexts[x.1]? = some x
  find_quiet : ∀ d {rs}, (∀ r ∈ rs, ∀ i ∈ Reading.issues r, i.isUnpaired = true) →
    withoutUnpaired (find d rs) = find d (rs.map Reading.quiet)

theorem FromReadings.agrees {c : Check} {texts : Document → List (Nat × Int × Text)}
    {find : Document → List Reading → List Issue} (h : FromReadings c texts find) {d : Document}
    (hregions : d.regions = d.blockRegions ++ d.heredocRegions) (hfresh : d.inlineSpans = none) :
    ∃ fresh cached, c.run d = .ok fresh ∧ c.run (inlineMarkers.noted d) = .ok cached ∧
      withoutUnpaired fresh.issues = cached.issues := by
  obtain ⟨d₁, hfreshRun⟩ := h.run_eq d
  obtain ⟨d₂, hcachedRun⟩ := h.run_eq (inlineMarkers.noted d)
  refine ⟨_, _, hfreshRun, hcachedRun, ?_⟩
  have hreadings : (texts d).map (inlineMarkers.noted d).reading = ((texts d).map d.reading).map Reading.quiet := by
    rw [List.map_map]
    exact List.map_congr_left fun x hx => reading_noted hfresh (h.numbered hregions x hx)
  simp only [h.texts_noted, h.find_noted, hreadings]
  refine h.find_quiet d fun r hr => ?_
  obtain ⟨x, -, rfl⟩ := List.mem_map.1 hr
  exact d.reading_unpaired x

/-- Texts one after the other, each with the issues of its reading before others. -/
def inTurn (own : Reading → List Issue) (rs : List Reading) : List Issue := rs.flatMap fun r => r.issues ++ own r

theorem inTurn_quiet {own : Reading → List Issue} (hquiet : ∀ r, own r.quiet = own r)
    (hown : ∀ r, ∀ i ∈ own r, i.isUnpaired = false) {rs : List Reading}
    (hrs : ∀ r ∈ rs, ∀ i ∈ r.issues, i.isUnpaired = true) :
    withoutUnpaired (inTurn own rs) = inTurn own (rs.map Reading.quiet) := by
  rw [inTurn, inTurn, withoutUnpaired_flatMap, List.flatMap_map]
  refine List.flatMap_congr fun r hr => ?_
  rw [withoutUnpaired_append, withoutUnpaired_of_all (hrs r hr), withoutUnpaired_of_none (hown r), hquiet]
  rfl

/-- A check that goes through its texts in turn, with issues of its own that are never about such markers. -/
theorem fromReadings_inTurn {c : Check} {texts : Document → List (Nat × Int × Text)}
    {own : Document → Reading → List Issue}
    (hrun : ∀ d, ∃ d', c.run d =
      .ok ⟨(texts d).flatMap fun x => (d.reading x).issues ++ own d (d.reading x), d'⟩)
    (htexts : ∀ d, texts (inlineMarkers.noted d) = texts d)
    (hnumbered : ∀ {d : Document}, d.regions = d.blockRegions ++ d.heredocRegions →
      ∀ x ∈ texts d, d.regionTexts[x.1]? = some x)
    (hnoted : ∀ d, own (inlineMarkers.noted d) = own d) (hquiet : ∀ d r, own d r.quiet = own d r)
    (hown : ∀ d r, ∀ i ∈ own d r, i.isUnpaired = false) : FromReadings c texts fun d => inTurn (own d) where
  run_eq d := by
    obtain ⟨d', h⟩ := hrun d
    exact ⟨d', by rw [h, inTurn, List.flatMap_map]⟩
  texts_noted := htexts
  find_noted d := by rw [hnoted]
  numbered := hnumbered
  find_quiet d _ hrs := inTurn_quiet (hquiet d) (hown d) hrs

/-- Issues of all readings, and then about variables that are kept with all texts and their inline code in view;
none where there are no variables. -/
def afterAll (names : List (Text × Nat)) (keep : List (Text × List Span) → Text × Nat → Bool)
    (message : Text → String) (rs : List Reading) : List Issue :=
  if names.isEmpty then []
  else rs.flatMap (·.issues) ++ (names.filter (keep (rs.map fun r => (r.text, r.inline)))).map fun (name, line) =>
    .onLine .warning (message name) line

theorem afterAll_quiet (names : List (Text × Nat)) (keep : List (Text × List Span) → Text × Nat → Bool)
    {message : Text → String} (hmessage : ∀ name, isUnpairedMessage (message name) = false) {rs : List Reading}
    (hrs : ∀ r ∈ rs, ∀ i ∈ r.issues, i.isUnpaired = true) :
    withoutUnpaired (afterAll names keep message rs) = afterAll names keep message (rs.map Reading.quiet) := by
  have hissues : (rs.map Reading.quiet).flatMap (·.issues) = [] := by
    simp [List.flatMap_map, Reading.quiet]
  have htexts : (rs.map Reading.quiet).map (fun r => (r.text, r.inline)) = rs.map fun r => (r.text, r.inline) := by
    rw [List.map_map]
    rfl
  unfold afterAll
  split
  · rfl
  · rw [withoutUnpaired_append, withoutUnpaired_of_all, withoutUnpaired_of_none, hissues, htexts]
    · intro i hi
      obtain ⟨⟨name, line⟩, -, rfl⟩ := List.mem_map.1 hi
      exact hmessage name
    · intro i hi
      obtain ⟨r, hr, hi⟩ := List.mem_flatMap.1 hi
      exact hrs r hr i hi

/-! ### The checks -/

theorem hazard_paired (d : Document) (start : Int) (t : Text) (inline : List Span) :
    ∀ i ∈ Hazard.regionIssues d start t inline, i.isUnpaired = false := by
  simp only [Hazard.regionIssues, List.mem_append, List.mem_filterMap, List.mem_map, Option.map_eq_some_iff]
  rintro i ((⟨l, -, token, -, rfl⟩ | ⟨s, -, rfl⟩) | ⟨l, -, p, -, rfl⟩)
  · have hlead : BeginsOtherwise "Unknown PGML block token [" := ⟨by decide, by decide⟩
    exact ((hlead.append token).append _).paired
  · rw [Issue.isUnpaired_onLine]
    decide
  · rw [Issue.isUnpaired_onLine]
    decide

theorem parseHazards_fromReadings : FromReadings parseHazards Document.regionTexts fun d =>
    inTurn fun r => Hazard.regionIssues d r.start r.text r.inline :=
  fromReadings_inTurn (fun d => ⟨d, rfl⟩) (fun _ => rfl) (fun _ _ => Document.getElem?_of_mem_regionTexts)
    (fun _ => rfl) (fun _ _ => rfl) (fun d _ => hazard_paired d _ _ _)

theorem problem?_paired {rawLayout : Bool} {code : Text} {message : String}
    (h : InlineModes.problem? rawLayout code = some message) : isUnpairedMessage message = false := by
  have hevaluated : isUnpairedMessage InlineModes.evaluatedMessage = false := by decide
  have hlayout : isUnpairedMessage InlineModes.layoutMessage = false := by decide
  simp only [InlineModes.problem?] at h
  split at h
  · cases h
  · split at h
    · cases h
      exact hevaluated
    · obtain ⟨p, -, rfl⟩ := Option.map_eq_some_iff.1 h
      split
      · exact hlayout
      · exact hevaluated

theorem modesInInline_fromReadings : FromReadings modesInInline Document.regionTexts fun d =>
    inTurn fun r => r.inline.filterMap fun s =>
      (InlineModes.problem? (Version.allowsRawLayout d.version) (s.interiorSlice r.text)).map fun message =>
        .onLine .warning message (d.lineOf (r.start + s.start)) := by
  refine fromReadings_inTurn (fun d => ⟨d, rfl⟩) (fun _ => rfl)
    (fun _ _ => Document.getElem?_of_mem_regionTexts) (fun _ => rfl) (fun _ _ => rfl) fun d r i hi => ?_
  obtain ⟨s, -, hs⟩ := List.mem_filterMap.1 hi
  obtain ⟨message, hmessage, rfl⟩ := Option.map_eq_some_iff.1 hs
  exact problem?_paired hmessage

theorem inlineCode_fromReadings {id title : String} {find : Document → Int → Text → List Issue}
    (hnoted : ∀ d, find (inlineMarkers.noted d) = find d)
    (hfind : ∀ d offset code, ∀ i ∈ find d offset code, i.isUnpaired = false) :
    FromReadings (.reporting id title fun d => inlineCodeIssues d (find d)) Document.blockTexts fun d =>
      inTurn fun r => (r.inline.filter fun s => s.start + 2 < (r.text.length : Int)).flatMap fun s =>
        find d (r.start + s.start + 2) (s.interior r.text) := by
  refine fromReadings_inTurn (fun d => ⟨d, rfl⟩) (fun _ => rfl)
    (fun h _ => Document.getElem?_of_mem_blockTexts h) (fun d => by rw [hnoted]) (fun _ _ => rfl)
    fun d r i hi => ?_
  obtain ⟨s, -, hs⟩ := List.mem_flatMap.1 hi
  exact hfind d _ _ i hs

theorem brace_paired (code : Text) (offset : Int) (newlines : NewlineIndex) :
    ∀ i ∈ Brace.issues code offset newlines, i.isUnpaired = false := by
  unfold Brace.issues
  split
  · simp only [List.mem_singleton, forall_eq, Issue.isUnpaired_onLine]
    decide
  · simp only [List.mem_singleton, forall_eq, Issue.isUnpaired_onLine]
    decide
  · simp

theorem nested_paired (d : Document) (offset : Int) (code : Text) :
    ∀ i ∈ Nested.issues d offset code, i.isUnpaired = false := by
  have hsnippets : ∀ s ∈ Nested.snippets, isUnpairedMessage s.2 = false := by decide
  simp only [Nested.issues, List.mem_append, List.mem_filterMap, List.mem_map, Option.map_eq_some_iff]
  rintro i (⟨s, hs, p, -, rfl⟩ | ⟨⟨p, name⟩, -, rfl⟩)
  · exact hsnippets s hs
  · have hlead : BeginsOtherwise "PGML interpolation [$" := ⟨by decide, by decide⟩
    exact (((hlead.append _).append _).append _).paired

theorem answer_paired (t : Text) : ∀ p ∈ (AnswerBlank.answer t).1, isUnpairedMessage p.2 = false := by
  have hbraces : isUnpairedMessage "PGML blank spec has unbalanced braces" = false := by decide
  have hempty : isUnpairedMessage "PGML blank spec is empty" = false := by decide
  have hboth : isUnpairedMessage "PGML blank uses both payload and star specs" = false := by decide
  have hmissing : isUnpairedMessage "PGML blank missing answer spec" = false := by decide
  simp only [AnswerBlank.answer]
  split
  · split
    · exact List.forall_mem_singleton.2 hbraces
    · refine List.forall_mem_append.2 ⟨?_, ?_⟩
      · split
        · exact List.forall_mem_singleton.2 hempty
        · simp
      · split
        · split
          · simp
          · exact List.forall_mem_singleton.2 hboth
        · simp
  · exact List.forall_mem_singleton.2 hmissing

theorem answerBlanks_paired (t : Text) (offset : Int) (newlines : NewlineIndex) (inline : List Span) :
    ∀ i ∈ (answerBlanks t offset newlines inline).1, i.isUnpaired = false := by
  simp only [answerBlanks, List.mem_flatMap, List.mem_map]
  rintro i ⟨found, ⟨s, -, rfl⟩, p, hp, rfl⟩
  exact answer_paired _ p hp

theorem blanks_fromReadings : FromReadings blanks Document.regionTexts fun d =>
    inTurn fun r => (answerBlanks r.text r.start d.newlines r.inline).1 := by
  refine fromReadings_inTurn (fun d => ⟨blanks.noted d, ?_⟩) (fun _ => rfl)
    (fun _ _ => Document.getElem?_of_mem_regionTexts) (fun _ => rfl) (fun _ _ => rfl)
    (fun _ _ => answerBlanks_paired _ _ _ _)
  show Except.ok (Report.mk ((d.regionTexts.map _).flatMap _) _) = _
  rw [List.flatMap_map]
  rfl

theorem bracketIssues_paired (t : Text) (offset : Int) (newlines : NewlineIndex) (inline blanks : List Span) :
    ∀ i ∈ bracketIssues t offset newlines inline blanks, i.isUnpaired = false := by
  have hclose : isUnpairedMessage "PGML bracket close ] without matching [" = false := by decide
  have hopen : isUnpairedMessage "PGML bracket open [ without matching ]" = false := by decide
  simp only [bracketIssues, List.mem_append, List.mem_map]
  rintro i (⟨p, -, rfl⟩ | ⟨p, -, rfl⟩)
  · exact hclose
  · exact hopen

theorem brackets_fromReadings : FromReadings brackets Document.regionTexts fun d =>
    inTurn fun r => bracketIssues r.text r.start d.newlines r.inline (blankSpansOf d r.number r.text r.inline) :=
  fromReadings_inTurn (fun d => ⟨d, rfl⟩) (fun _ => rfl) (fun _ _ => Document.getElem?_of_mem_regionTexts)
    (fun _ => rfl) (fun _ _ => rfl) (fun _ _ => bracketIssues_paired _ _ _ _ _)

/-- The blanks of a text as the check of emphasis takes them: from the notes, or read, with the issues of
that. -/
def emphasisBlanks (d : Document) (r : Reading) : List Issue × List Span :=
  match SpanTable.at? d.blankSpans r.number with
  | some spans => ([], spans)
  | none =>
    let (problems, _, spans) := answerBlanks r.text r.start d.newlines r.inline
    (problems, spans)

theorem emphasisBlanks_paired (d : Document) (r : Reading) :
    ∀ i ∈ (emphasisBlanks d r).1, i.isUnpaired = false := by
  unfold emphasisBlanks
  split
  · simp
  · exact answerBlanks_paired _ _ _ _

theorem underscoreEmphasis_fromReadings : FromReadings underscoreEmphasis Document.blockTexts fun d =>
    inTurn fun r => (emphasisBlanks d r).1 ++ (Emphasis.unclosedFrom (Span.wrapped r.text.length
      (r.inline ++ (emphasisBlanks d r).2 ++ mathSpans r.text)) [] 0 (Text.lines r.text)).map fun p =>
        .onLine .warning "PGML underscore emphasis not closed before paragraph ends" (d.lineOf (r.start + p)) := by
  refine fromReadings_inTurn (fun d => ⟨d, ?_⟩) (fun _ => rfl)
    (fun h _ => Document.getElem?_of_mem_blockTexts h) (fun _ => rfl) (fun _ _ => rfl) fun d r => ?_
  · -- the check joins its three lists from the left
    simp only [← List.append_assoc]
    rfl
  · have hmessage : isUnpairedMessage "PGML underscore emphasis not closed before paragraph ends" = false := by
      decide
    refine List.forall_mem_append.2 ⟨emphasisBlanks_paired d r, fun i hi => ?_⟩
    obtain ⟨p, -, rfl⟩ := List.mem_map.1 hi
    exact hmessage

theorem tagWrapperTex_fromReadings : FromReadings tagWrapperTex Document.blockTexts fun d =>
    inTurn fun r => (linesAt 0 (Text.lineTexts r.text)).flatMap fun (pos, l) =>
      (WrapperTex.faultsFrom r.inline pos l).map fun (p : Nat) =>
        .onLine .warning ("PGML tag wrapper has non-empty TeX payload; "
          ++ "use an empty TeX payload unless needed") (d.lineOf (r.start + p)) := by
  refine fromReadings_inTurn (fun d => ⟨d, rfl⟩) (fun _ => rfl)
    (fun h _ => Document.getElem?_of_mem_blockTexts h) (fun _ => rfl) (fun _ _ => rfl) fun d r i hi => ?_
  obtain ⟨⟨pos, l⟩, -, hi⟩ := List.mem_flatMap.1 hi
  obtain ⟨p, -, rfl⟩ := List.mem_map.1 hi
  have hlead : BeginsOtherwise "PGML tag wrapper has non-empty TeX payload; " := ⟨by decide, by decide⟩
  exact (hlead.append _).paired

theorem variable_beginsOtherwise : BeginsOtherwise "Variable $" := ⟨by decide, by decide⟩

theorem spanInterpolation_fromReadings : FromReadings spanInterpolation Document.blockTexts fun d =>
    afterAll (SpanVariable.assigned d.text)
      (fun blocks entry => !blocks.any fun (t, inline) => SpanVariable.shownIn t inline entry.1)
      SpanVariable.message where
  run_eq d := by
    refine ⟨d, ?_⟩
    show Except.ok (Report.mk (SpanVariable.issues d) d) = _
    simp only [SpanVariable.issues, afterAll, List.flatMap_map, List.map_map, List.any_map]
    rfl
  texts_noted _ := rfl
  find_noted _ := rfl
  numbered h _ := Document.getElem?_of_mem_blockTexts h
  find_quiet _ _ hrs := afterAll_quiet _ _
    (fun _ => ((((variable_beginsOtherwise.append _).append _).append _).append _).paired) hrs

theorem htmlPassthrough_fromReadings : FromReadings htmlPassthrough Document.blockTexts fun d =>
    afterAll (Passthrough.assigned d.text)
      (fun blocks entry =>
        let uses := blocks.map fun (t, inline) => Passthrough.use t inline entry.1
        !uses.any (fun u => u.starred || u.inline) && uses.any (·.plain))
      Passthrough.message where
  run_eq d := by
    refine ⟨d, ?_⟩
    show Except.ok (Report.mk (Passthrough.issues d) d) = _
    simp only [Passthrough.issues, afterAll, List.flatMap_map, List.map_map]
    rfl
  texts_noted _ := rfl
  find_noted _ := rfl
  numbered h _ := Document.getElem?_of_mem_blockTexts h
  find_quiet _ _ hrs := afterAll_quiet _ _
    (fun _ => ((((variable_beginsOtherwise.append _).append _).append _).append _).paired) hrs

/-- Checks that read the inline code of a region where there are no notes on it. -/
def fallbackChecks : List Check :=
  [ parseHazards, modesInInline, inlineSyntax, inlineBraces, blanks, underscoreEmphasis, brackets
  , spanInterpolation, htmlPassthrough, tagWrapperTex ]

theorem fallbackChecks_fromReadings {c : Check} (hc : c ∈ fallbackChecks) :
    ∃ texts find, FromReadings c texts find := by
  simp only [fallbackChecks, List.mem_cons, List.not_mem_nil, or_false] at hc
  rcases hc with rfl | rfl | rfl | rfl | rfl | rfl | rfl | rfl | rfl | rfl
  · exact ⟨_, _, parseHazards_fromReadings⟩
  · exact ⟨_, _, modesInInline_fromReadings⟩
  · exact ⟨_, _, inlineCode_fromReadings (fun _ => rfl) nested_paired⟩
  · exact ⟨_, _, inlineCode_fromReadings (fun _ => rfl) fun d offset code => brace_paired code offset d.newlines⟩
  · exact ⟨_, _, blanks_fromReadings⟩
  · exact ⟨_, _, underscoreEmphasis_fromReadings⟩
  · exact ⟨_, _, brackets_fromReadings⟩
  · exact ⟨_, _, spanInterpolation_fromReadings⟩
  · exact ⟨_, _, htmlPassthrough_fromReadings⟩
  · exact ⟨_, _, tagWrapperTex_fromReadings⟩

/-- On a file that was just read, such a check finds what it finds after the check of inline markers, apart from
markers without a partner. -/
theorem fallback_agrees {c : Check} (hc : c ∈ fallbackChecks) (t : Text) (path : Option Text)
    (blocks : List BlockRule) (macros : List MacroRule) (version : Option Text) :
    ∃ fresh marked cached, c.run (Document.ofText t path blocks macros version) = .ok fresh ∧
      inlineMarkers.run (Document.ofText t path blocks macros version) = .ok marked ∧
      c.run marked.document = .ok cached ∧ fresh.issues.filter (fun i => !i.isUnpaired) = cached.issues := by
  obtain ⟨texts, find, h⟩ := fallbackChecks_fromReadings hc
  obtain ⟨fresh, cached, hfresh, hcached, heq⟩ :=
    h.agrees (d := Document.ofText t path blocks macros version) rfl rfl
  exact ⟨fresh, _, cached, hfresh, rfl, hcached, heq⟩

/-- A block in which a marker of inline code and two brackets have no partner. -/
def unpairedBlock : Text := "BEGIN_PGML\n[@ 1 @] @] [\nEND_PGML\n".toList

/-- The marker is reported without notes only, the brackets with and without them. -/
theorem fallback_agrees_brackets : brackets ∈ fallbackChecks ∧
    ∃ fresh marked cached, brackets.run (.ofText unpairedBlock none [] [] none) = .ok fresh ∧
      inlineMarkers.run (.ofText unpairedBlock none [] [] none) = .ok marked ∧
      brackets.run marked.document = .ok cached ∧ fresh.issues.filter (fun i => !i.isUnpaired) = cached.issues ∧
      fresh.issues.length = 3 ∧ cached.issues.length = 2 := by
  have hmem : brackets ∈ fallbackChecks := by simp [fallbackChecks]
  obtain ⟨fresh, marked, cached, hfresh, hmarked, hcached, heq⟩ :=
    fallback_agrees hmem unpairedBlock none [] [] none
  have hthree : (brackets.found (.ofText unpairedBlock none [] [] none)).length = 3 := by decide +kernel
  have htwo : (brackets.found (inlineMarkers.noted (.ofText unpairedBlock none [] [] none))).length = 2 := by
    decide +kernel
  rw [found, hfresh] at hthree
  rw [noted, hmarked, found, hcached] at htwo
  exact ⟨hmem, fresh, marked, cached, hfresh, hmarked, hcached, heq, hthree, htwo⟩

end Check
end ProblemLint
