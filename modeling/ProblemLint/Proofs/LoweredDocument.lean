import ProblemLint.Proofs.InlineNotes
import ProblemLint.Proofs.Laminar
import ProblemLint.Proofs.LoweredMatch
import ProblemLint.Proofs.MovedScans
import ProblemLint.Proofs.Newlines
import ProblemLint.Proofs.Stripping

/-! A text one line further down. A line feed before a text makes a line of its own, which opens and closes nothing;
so what is read from the text is read as before, one line and one position later. -/

namespace ProblemLint

/-- A line number, one line further down. -/
def Value.lowered : Value → Value
  | .int n => .int (n + 1)
  | v => v

/-- An issue whose line is one further down; one without a line stays as it is. -/
def Issue.lowered (i : Issue) : Issue := ⟨i.fields.map fun f => if f.1 == "line" then (f.1, f.2.lowered) else f⟩

namespace Issue

variable (severity : Severity) (message : String)

@[simp] theorem lowered_general : (general severity message).lowered = general severity message := rfl

@[simp] theorem lowered_onLine (line : Nat) :
    (onLine severity message line).lowered = onLine severity message (line + 1) := rfl

@[simp] theorem lowered_atColumn (line : Nat) (column : Int) :
    (atColumn severity message line column).lowered = atColumn severity message (line + 1) column := rfl

end Issue

theorem Issue.moved_one : Issue.moved 1 = Issue.lowered := by
  funext i
  have hvalue (v : Value) : v.moved 1 = v.lowered := by cases v <;> rfl
  simp only [moved, lowered, hvalue]

/-! ### Positions -/

namespace NewlineIndex

theorem positionsFrom_succ (pos : Nat) (t : Text) : positionsFrom (pos + 1) t = (positionsFrom pos t).map (· + 1) := by
  induction t generalizing pos with
  | nil => rfl
  | cons c r ih =>
    simp only [positionsFrom]
    split
    · rw [List.map_cons, ih]
    · exact ih _

theorem positions_newline (t : Text) :
    (ofText ('\n' :: t)).positions.toList = 0 :: (ofText t).positions.toList.map (· + 1) :=
  congrArg (0 :: ·) (positionsFrom_succ 0 t)

theorem before_newline (t : Text) {pos : Int} (h : 0 ≤ pos) :
    (ofText ('\n' :: t)).before (pos + 1) = (ofText t).before pos + 1 := by
  obtain ⟨n, rfl⟩ := Int.eq_ofNat_of_zero_le h
  have hnat : ((n : Int) + 1).toNat = n + 1 := by omega
  rw [before_ofText, before_ofText, hnat, List.take_succ_cons, List.count_cons_self, Int.toNat_natCast]

theorem lineOf_newline (t : Text) {pos : Int} (h : 0 ≤ pos) :
    (ofText ('\n' :: t)).lineOf (pos + 1) = (ofText t).lineOf pos + 1 :=
  congrArg (· + 1) (before_newline t h)

theorem columnOf_newline (t : Text) {pos : Int} (h : 0 ≤ pos) :
    (ofText ('\n' :: t)).columnOf (pos + 1) = (ofText t).columnOf pos := by
  have hle : (ofText t).before pos ≤ (positionsFrom 0 t).length := by
    rw [before_ofText, length_positionsFrom]
    exact (List.take_sublist _ _).count_le '\n'
  simp only [columnOf, before_newline t h]
  cases hk : (ofText t).before pos with
  | zero => simp [ofText, positionsFrom]
  | succ k =>
    have hlt : k < (positionsFrom 0 t).length := by omega
    have hlookup : (ofText ('\n' :: t)).positions.getD (k + 1) 0 = (ofText t).positions.getD k 0 + 1 := by
      simp [ofText, positionsFrom, positionsFrom_succ 0 t, hlt]
    simp only [Nat.add_eq_zero_iff, one_ne_zero, and_false, if_false, Nat.add_sub_cancel, hlookup]
    push_cast
    ring

end NewlineIndex

theorem Text.slice_newline (t : Text) (a b : Nat) :
    Text.slice ('\n' :: t) ((a : Int) + 1) ((b : Int) + 1) = Text.slice t a b := by
  have hslice := Text.slice_natCast ('\n' :: t) (a + 1) (b + 1)
  rw [List.drop_succ_cons, Nat.add_sub_add_right, ← Text.slice_natCast] at hslice
  exact hslice

/-! ### Scans -/

theorem terminator?_newline : terminator? ['\n'] = none := by decide

theorem stripComments_newline (t : Text) : stripComments ('\n' :: t) = '\n' :: stripComments t := by
  unfold stripComments
  rw [Text.lines_newline_cons, stripCommentLines, heredocAfter, terminator?_newline]
  rfl

theorem stripHeredocs_newline (t : Text) : stripHeredocs ('\n' :: t) = '\n' :: stripHeredocs t := by
  unfold stripHeredocs
  rw [Text.lines_newline_cons, stripHeredocLines, heredocAfter, terminator?_newline]
  rfl

def Region.lowered (r : Region) : Region := ⟨r.start.map (· + 1), r.stop.map (· + 1), r.kind, r.line + 1⟩

def OpenBlock.lowered (b : OpenBlock) : OpenBlock := ⟨b.tag, b.start + 1, b.line + 1⟩

namespace BlockScan

def lowered (s : BlockScan) : BlockScan :=
  ⟨s.opened.map OpenBlock.lowered, s.issues.map Issue.lowered, s.regions.map Region.lowered⟩

theorem lines_lowered (s : BlockScan) (opened : Option Text) (line pos : Nat) (ls : List Text) :
    lines s.lowered opened (line + 1) (pos + 1) ls = (lines s opened line pos ls).lowered := by
  have hmoved (u : BlockScan) : u.moved 1 1 = u.lowered := by
    rw [moved, Issue.moved_one]
    rfl
  have h := lines_moved 1 1 s opened line pos ls
  rwa [hmoved, hmoved] at h

end BlockScan

theorem Region.Spans.start {r : Region} {a b : Nat} (h : r.Spans a b) : r.start = some (a : Int) := by
  obtain ⟨_, hstart, h⟩ := Option.bind_eq_some_iff.1 h
  obtain ⟨_, -, h⟩ := Option.bind_eq_some_iff.1 h
  cases h
  exact hstart

theorem Region.Spans.stop {r : Region} {a b : Nat} (h : r.Spans a b) : r.stop = some (b : Int) := by
  obtain ⟨_, -, h⟩ := Option.bind_eq_some_iff.1 h
  obtain ⟨_, hstop, h⟩ := Option.bind_eq_some_iff.1 h
  cases h
  exact hstop

theorem blocks_newline (t : Text) :
    blocks ('\n' :: t) = ((blocks t).1.map Issue.lowered, (blocks t).2.map Region.lowered) := by
  have hmarker : Marker.ofLine? ['\n'] = none := by decide
  have hlines : BlockScan.lines {} none 1 0 (Text.lines ('\n' :: t)) =
      (BlockScan.lines {} none 1 0 (Text.lines t)).lowered := by
    rw [Text.lines_newline_cons, BlockScan.lines, heredocAfter, terminator?_newline, hmarker, ← BlockScan.lines_lowered]
    rfl
  unfold blocks
  rw [hlines]
  simp [BlockScan.finish, BlockScan.lowered, OpenBlock.lowered, ← List.map_reverse, Function.comp_def]

def OpenHeredoc.lowered (h : OpenHeredoc) : OpenHeredoc := ⟨h.terminator, h.start + 1, h.line + 1, h.isMarkup⟩

theorem heredocLines_lowered {opened : Option OpenHeredoc} (hopened : ∀ h ∈ opened, 1 ≤ h.line) (line pos : Nat)
    (ls : List Text) :
    heredocLines (opened.map OpenHeredoc.lowered) (line + 1) (pos + 1) ls =
      ((heredocLines opened line pos ls).1.map Issue.lowered,
        (heredocLines opened line pos ls).2.map Region.lowered) := by
  have h := heredocLines_moved 1 1 hopened line pos ls
  rwa [Issue.moved_one] at h

theorem markupHeredocs_newline (t : Text) :
    markupHeredocs ('\n' :: t) =
      ((markupHeredocs t).1.map Issue.lowered, (markupHeredocs t).2.map Region.lowered) := by
  unfold markupHeredocs
  rw [Text.lines_newline_cons, ← heredocLines_lowered (by simp)]
  rw [heredocLines, terminator?_newline]
  rfl

/-! ### Occurrences -/

section

variable {α : Type} {find : Option Char → Text → Option (α × Nat)}

/-- A recogniser that finds nothing at a line feed, and does not tell the place after one from the start, finds the
same one position later. -/
theorem occurrences_newline (hfirst : ∀ t, find none ('\n' :: t) = none)
    (hbefore : ∀ t, find (some '\n') t = find none t) (t : Text) :
    occurrences find ('\n' :: t) = (occurrences find t).map fun x => (x.1 + 1, x.2) := by
  unfold occurrences
  rw [occurrencesFrom, hfirst]
  exact (occurrencesFrom_before hbefore _ t).trans (occurrencesFrom_succ 0 none 0 t)

end

theorem after?_newline {c : Char} (h : c ≠ '\n') (lead t : Text) : Text.after? (c :: lead) ('\n' :: t) = none := by
  simp [Text.after?, List.isPrefixOf?, h]

theorem callAt?_newline {names : List String} (h : ∀ n ∈ names, n.toList.head?.any (· != '\n') = true) (t : Text) :
    Call.at? names none ('\n' :: t) = none := by
  have hname : Call.nameAt? names none ('\n' :: t) = none := by
    simp only [Call.nameAt?, Option.any_none, Bool.false_eq_true, if_false, List.find?_eq_none]
    intro n hn
    have hhead := h n hn
    cases hlist : n.toList with
    | nil => simp [hlist] at hhead
    | cons c r => simp_all [after?_newline]
  rw [Call.at?, hname]
  rfl

theorem loadedMacros_newline (t : Text) : loadedMacros ('\n' :: t) = loadedMacros t := by
  have hnames : ∀ n ∈ sortedNames ["loadMacros", "includePGproblem"], n.toList.head?.any (· != '\n') = true := by
    intro n hn
    have hall : ∀ n ∈ ["loadMacros", "includePGproblem"], n.toList.head?.any (· != '\n') = true := by decide
    exact hall n (mem_sortedNames_iff.1 hn)
  have hshapes := occurrences_newline (callAt?_newline hnames) (fun t => by
    simp [Call.at?, Call.nameAt?, show Text.isNameChar '\n' = false by decide]) t
  have hcalls (newlines newlines' : NewlineIndex) :
      (Call.all ["loadMacros", "includePGproblem"] newlines ('\n' :: t)).map (fun c => (c.name, c.arguments)) =
        (Call.all ["loadMacros", "includePGproblem"] newlines' t).map fun c => (c.name, c.arguments) := by
    simp only [Call.all, hshapes, List.filterMap_map, List.map_filterMap]
    congr 1
    funext ⟨pos, shape⟩
    cases shape <;> rfl
  have hloaded (calls : List Call) :
      ((calls.filter (·.name == "loadMacros")).flatMap fun c =>
        (occurrences fileNameAt? c.arguments).map fun x => String.ofList (Text.lower (baseName x.2))) =
      (((calls.map fun c => (c.name, c.arguments)).filter (·.1 == "loadMacros")).flatMap fun c =>
        (occurrences fileNameAt? c.2).map fun x => String.ofList (Text.lower (baseName x.2))) := by
    rw [List.filter_map, List.flatMap_map]
    rfl
  simp only [loadedMacros, hloaded, hcalls _ (.ofText t)]

theorem map_occurrences_newline {α : Type} {find : Option Char → Text → Option (α × Nat)}
    (hfirst : ∀ t, find none ('\n' :: t) = none) (hbefore : ∀ t, find (some '\n') t = find none t) (t : Text) :
    (occurrences find ('\n' :: t)).map (·.2) = (occurrences find t).map (·.2) := by
  rw [occurrences_newline hfirst hbefore, List.map_map]
  rfl

theorem assigned_newline (t : Text) : Variable.assigned ('\n' :: t) = Variable.assigned t := by
  have hdeclared (sigils : List Char) :
      (occurrences (Variable.declaredAt? sigils) ('\n' :: t)).map (·.2) =
        (occurrences (Variable.declaredAt? sigils) t).map (·.2) := by
    refine map_occurrences_newline (fun t => ?_) (fun t => ?_) t
    · have hmy : Text.after? "my".toList ('\n' :: t) = none := after?_newline (by decide) _ t
      have hour : Text.after? "our".toList ('\n' :: t) = none := after?_newline (by decide) _ t
      simp only [Variable.declaredAt?, hmy, hour]
      rfl
    · simp [Variable.declaredAt?, show Text.isWord '\n' = false by decide]
  have hassigned {sigils : List Char} (h : sigils.contains '\n' = false) :
      (occurrences (Variable.assignedAt? sigils) ('\n' :: t)).map (·.2) =
        (occurrences (Variable.assignedAt? sigils) t).map (·.2) := by
    refine map_occurrences_newline (fun t => ?_) (fun t => rfl) t
    simp only [Variable.assignedAt?, h]
    rfl
  have helement (opener closer : Char) :
      (occurrences (Variable.elementAt? opener closer) ('\n' :: t)).map (·.2) =
        (occurrences (Variable.elementAt? opener closer) t).map (·.2) := by
    refine map_occurrences_newline (fun t => ?_) (fun t => rfl) t
    rw [Variable.elementAt?, after?_newline (by decide)]
    rfl
  have hlist : (occurrences Variable.listAt? ('\n' :: t)).flatMap (·.2) =
      (occurrences Variable.listAt? t).flatMap (·.2) := by
    have hfirst (t : Text) : Variable.listAt? none ('\n' :: t) = none := by
      rw [Variable.listAt?, after?_newline (by decide)]
      rfl
    rw [List.flatMap_def, List.flatMap_def, map_occurrences_newline hfirst (fun t => rfl) t]
  simp only [Variable.assigned, List.map_append, hdeclared, hassigned (show ['$'].contains '\n' = false from rfl),
    hassigned (show ['@', '%'].contains '\n' = false from rfl), helement, hlist]

theorem usesMarkup_newline (t : Text) : usesMarkup ('\n' :: t) = usesMarkup t := by
  have hblock : (Pattern.lineStart ++ Pattern.many (fun c => c == ' ' || c == '\t')
      ++ Pattern.text "BEGIN_PGML").Steady := ⟨by simp, by decide⟩
  have hfunctions : markupFunctions.Steady := ⟨by simp [markupFunctions], by decide⟩
  rw [usesMarkup, usesMarkup, hblock.occursIn_newline, hfunctions.occursIn_newline]

/-! ### Documents -/

namespace Document

/-- A document with a line feed before its text. -/
def lowered (d : Document) : Document :=
  { d with
    text := '\n' :: d.text
    uncommented := '\n' :: d.uncommented
    code := '\n' :: d.code
    newlines := .ofText ('\n' :: d.text)
    markerIssues := d.markerIssues.map Issue.lowered
    heredocIssues := d.heredocIssues.map Issue.lowered
    regions := d.regions.map Region.lowered
    blockRegions := d.blockRegions.map Region.lowered
    heredocRegions := d.heredocRegions.map Region.lowered }

section

variable (d : Document)

@[simp] theorem text_lowered : d.lowered.text = '\n' :: d.text := rfl

@[simp] theorem code_lowered : d.lowered.code = '\n' :: d.code := rfl

@[simp] theorem version_lowered : d.lowered.version = d.version := rfl

@[simp] theorem macrosLoaded_lowered : d.lowered.macrosLoaded = d.macrosLoaded := rfl

@[simp] theorem usesMarkup_lowered : d.lowered.usesMarkup = d.usesMarkup := rfl

@[simp] theorem blockRules_lowered : d.lowered.blockRules = d.blockRules := rfl

@[simp] theorem macroRules_lowered : d.lowered.macroRules = d.macroRules := rfl

@[simp] theorem regions_lowered : d.lowered.regions = d.regions.map Region.lowered := rfl

@[simp] theorem blockRegions_lowered : d.lowered.blockRegions = d.blockRegions.map Region.lowered := rfl

@[simp] theorem inlineSpans_lowered : d.lowered.inlineSpans = d.inlineSpans := rfl

@[simp] theorem blankSpans_lowered : d.lowered.blankSpans = d.blankSpans := rfl

end

theorem ofText_newline (t : Text) (path : Option Text) (blockRules : List BlockRule) (macroRules : List MacroRule)
    (version : Option Text) :
    ofText ('\n' :: t) path blockRules macroRules version =
      (ofText t path blockRules macroRules version).lowered := by
  unfold ofText
  simp only [stripComments_newline, stripHeredocs_newline, blocks_newline, markupHeredocs_newline,
    loadedMacros_newline, assigned_newline, usesMarkup_newline, ← List.map_append, List.isEmpty_map]
  rfl

/-- A document of more than one line, as reading and the checks make it: positions are counted in its text, and
regions and inline code have their bounds in it. -/
structure Regular (d : Document) : Prop where
  newlines : d.newlines = .ofText d.text
  broken : '\n' ∈ d.text
  regions : ∀ r ∈ d.regions, ∃ a b, r.Spans a b
  blocks : ∀ r ∈ d.blockRegions, ∃ a b, r.Spans a b
  inline : ∀ i spans, SpanTable.at? d.inlineSpans i = some spans → ∀ s ∈ spans, 0 ≤ s.start

theorem regular_ofText {t : Text} (ht : '\n' ∈ t) (path : Option Text) (blockRules : List BlockRule)
    (macroRules : List MacroRule) (version : Option Text) :
    (ofText t path blockRules macroRules version).Regular := by
  have hbounds : ∀ r ∈ (blocks t).2 ++ (markupHeredocs t).2, ∃ a b, r.Spans a b := by
    intro r hr
    obtain ⟨a, b, hspans, -⟩ := (layout_blocks t).bounds r hr
    exact ⟨a, b, hspans⟩
  exact ⟨rfl, ht, hbounds, fun r hr => hbounds r (List.mem_append_left _ hr), by simp [SpanTable.at?, ofText]⟩

variable {d : Document} (hd : d.Regular)

include hd

theorem lineOf_lowered {pos : Int} (h : 0 ≤ pos) : d.lowered.lineOf (pos + 1) = d.lineOf pos + 1 := by
  rw [lineOf, lineOf, hd.newlines]
  exact NewlineIndex.lineOf_newline d.text h

theorem columnOf_lowered {pos : Int} (h : 0 ≤ pos) :
    d.lowered.newlines.columnOf (pos + 1) = d.newlines.columnOf pos := by
  rw [hd.newlines]
  exact NewlineIndex.columnOf_newline d.text h

theorem regionTexts_lowered : d.lowered.regionTexts = d.regionTexts.map fun x => (x.1, x.2.1 + 1, x.2.2) := by
  refine List.ext_getElem? fun i => ?_
  simp only [regionTexts, lowered, List.getElem?_map, List.getElem?_mapIdx]
  cases hr : d.regions[i]? with
  | none => rfl
  | some r =>
    obtain ⟨a, b, hspans⟩ := hd.regions r (List.mem_of_getElem? hr)
    simp [Region.lowered, Region.boundsOrZero, hspans.start, hspans.stop, Text.slice_newline]

theorem blockTexts_lowered : d.lowered.blockTexts = d.blockTexts.map fun x => (x.1, x.2.1 + 1, x.2.2) := by
  have hnumbered : (d.lowered.blockRegions.mapIdx fun i r => (i, r)) =
      (d.blockRegions.mapIdx fun i r => (i, r)).map fun x => (x.1, x.2.lowered) := by
    refine List.ext_getElem? fun i => ?_
    simp [lowered, Function.comp_def]
  simp only [blockTexts, hnumbered, List.filterMap_map, List.map_filterMap]
  refine List.filterMap_congr fun x hx => ?_
  obtain ⟨i, hi, rfl⟩ := List.mem_mapIdx.1 hx
  obtain ⟨a, b, hspans⟩ := hd.blocks _ (List.getElem_mem hi)
  simp [Region.lowered, Region.bounds?, hspans.start, hspans.stop, Text.slice_newline, lowered]

theorem regionTexts_nonneg : ∀ x ∈ d.regionTexts, 0 ≤ x.2.1 := by
  intro x hx
  obtain ⟨i, hi, rfl⟩ := List.mem_mapIdx.1 hx
  obtain ⟨a, b, hspans⟩ := hd.regions _ (List.getElem_mem hi)
  simp [Region.boundsOrZero, hspans.start]

theorem blockTexts_nonneg : ∀ x ∈ d.blockTexts, 0 ≤ x.2.1 := by
  intro x hx
  obtain ⟨⟨i, r⟩, hr, hx⟩ := List.mem_filterMap.1 hx
  obtain ⟨j, hj, hjr⟩ := List.mem_mapIdx.1 hr
  obtain ⟨a, b, hspans⟩ := hd.blocks _ (List.getElem_mem hj)
  obtain ⟨rfl, rfl⟩ := Prod.mk.inj hjr
  obtain ⟨bounds, hbounds, rfl⟩ := Option.map_eq_some_iff.1 hx
  cases hspans.symm.trans hbounds
  exact Int.natCast_nonneg a

/-- What is found in each region of markup by itself. -/
theorem flatMap_regionTexts_lowered {f f' : Nat × Int × Text → List Issue}
    (h : ∀ i a t, 0 ≤ a → f' (i, a + 1, t) = (f (i, a, t)).map Issue.lowered) :
    d.lowered.regionTexts.flatMap f' = (d.regionTexts.flatMap f).map Issue.lowered := by
  rw [regionTexts_lowered hd, List.flatMap_map, List.map_flatMap]
  exact List.flatMap_congr fun x hx => h _ _ _ (regionTexts_nonneg hd x hx)

theorem flatMap_blockTexts_lowered {f f' : Nat × Int × Text → List Issue}
    (h : ∀ i a t, 0 ≤ a → f' (i, a + 1, t) = (f (i, a, t)).map Issue.lowered) :
    d.lowered.blockTexts.flatMap f' = (d.blockTexts.flatMap f).map Issue.lowered := by
  rw [blockTexts_lowered hd, List.flatMap_map, List.map_flatMap]
  exact List.flatMap_congr fun x hx => h _ _ _ (blockTexts_nonneg hd x hx)

theorem lineOf_lowered_add {a p : Int} (ha : 0 ≤ a) (hp : 0 ≤ p) :
    d.lowered.lineOf (a + 1 + p) = d.lineOf (a + p) + 1 := by
  rw [show a + 1 + p = a + p + 1 by omega]
  exact lineOf_lowered hd (by omega)

theorem lineOf_lowered_nat {a : Int} (ha : 0 ≤ a) (p : Nat) :
    d.lowered.lineOf (a + 1 + p) = d.lineOf (a + p) + 1 := lineOf_lowered_add hd ha (Int.natCast_nonneg p)

theorem newlines_lineOf_lowered {a : Int} (ha : 0 ≤ a) (p : Nat) :
    d.lowered.newlines.lineOf (a + 1 + p) = d.newlines.lineOf (a + p) + 1 := lineOf_lowered_nat hd ha p

theorem readInline_lowered {a : Int} (ha : 0 ≤ a) (t : Text) :
    ProblemLint.inlineSpans t (a + 1) d.lowered.newlines =
      ((ProblemLint.inlineSpans t a d.newlines).1.map Issue.lowered,
        (ProblemLint.inlineSpans t a d.newlines).2) := by
  simp only [ProblemLint.inlineSpans, newlines_lineOf_lowered hd ha, List.map_append, List.map_map]
  rfl

theorem inlineSpansOf_lowered (i : Nat) {a : Int} (ha : 0 ≤ a) (t : Text) :
    d.lowered.inlineSpansOf i t (a + 1) =
      ((d.inlineSpansOf i t a).1.map Issue.lowered, (d.inlineSpansOf i t a).2) := by
  unfold inlineSpansOf
  rw [inlineSpans_lowered]
  split
  · rfl
  · exact readInline_lowered hd ha t

theorem inlineSpansOf_nonneg (i : Nat) (t : Text) (a : Int) : ∀ s ∈ (d.inlineSpansOf i t a).2, 0 ≤ s.start := by
  unfold inlineSpansOf
  split
  · next spans hspans => exact hd.inline i spans hspans
  · exact inlineSpans_nonneg t a d.newlines

theorem answerBlanks_lowered {a : Int} (ha : 0 ≤ a) (t : Text) (inline : List Span) :
    answerBlanks t (a + 1) d.lowered.newlines inline =
      ((answerBlanks t a d.newlines inline).1.map Issue.lowered, (answerBlanks t a d.newlines inline).2) := by
  have hfound : (((AnswerBlank.spans t).filter fun s => !Span.anyHolds inline s.start).map fun s =>
        (d.lowered.newlines.lineOf (a + 1 + s.start), AnswerBlank.answer (t.drop s.stop.toNat))) =
      (((AnswerBlank.spans t).filter fun s => !Span.anyHolds inline s.start).map fun s =>
        (d.newlines.lineOf (a + s.start), AnswerBlank.answer (t.drop s.stop.toNat))).map
          fun x => (x.1 + 1, x.2) := by
    rw [List.map_map]
    refine List.map_congr_left fun s hs => ?_
    obtain ⟨x, -, rfl⟩ := List.mem_map.1 (List.mem_of_mem_filter hs)
    exact congrArg (·, _) (newlines_lineOf_lowered hd ha x.1)
  simp only [answerBlanks, hfound, List.flatMap_map, List.map_flatMap, List.map_map]
  rfl

end Document
end ProblemLint
