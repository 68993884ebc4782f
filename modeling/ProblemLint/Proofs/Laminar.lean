import ProblemLint.Document
import ProblemLint.Proofs.BlockMarkers

/-! How the regions of markup lie in a file. Blocks come from a scan with a stack, heredocs from a second scan
that knows nothing of blocks; both read the same heredocs line by line. So every region is made of whole lines,
a block begins and ends outside of all heredocs, and two regions are disjoint or one contains the other. -/

namespace ProblemLint

/-- The terminator of the heredoc that is open before a line, by the line's number counted from zero. -/
def heredocAt (ls : List Text) (k : Nat) : Option Text := (ls.take k).foldl heredocAfter none

/-- A position on a line of a heredoc, or on the line that ends it. -/
def InHeredoc (t : Text) (pos : Nat) : Prop :=
  ∃ k < (Text.lines t).length, (heredocAt (Text.lines t) k).isSome = true ∧
    Text.lineStart (Text.lines t) k ≤ pos ∧ pos < Text.lineStart (Text.lines t) (k + 1)

def IsLineStart (t : Text) (pos : Nat) : Prop :=
  ∃ k < (Text.lines t).length, Text.lineStart (Text.lines t) k = pos

/-- Two stretches, one from `a` up to `b` and one from `c` up to `d`, are disjoint, or one contains the
other. -/
def Laminar (a b c d : Nat) : Prop := b ≤ c ∨ d ≤ a ∨ (c ≤ a ∧ b ≤ d) ∨ (a ≤ c ∧ d ≤ b)

theorem Laminar.symm {a b c d : Nat} (h : Laminar a b c d) : Laminar c d a b := by
  unfold Laminar at h ⊢
  omega

theorem Laminar.map {a b c d : Nat} {f : Nat → Nat} (hf : Monotone f) (h : Laminar a b c d) :
    Laminar (f a) (f b) (f c) (f d) := by
  rcases h with h | h | ⟨h, h'⟩ | ⟨h, h'⟩
  · exact .inl (hf h)
  · exact .inr (.inl (hf h))
  · exact .inr (.inr (.inl ⟨hf h, hf h'⟩))
  · exact .inr (.inr (.inr ⟨hf h, hf h'⟩))

/-- The region's bounds are known, and it goes from `a` up to `b`. -/
def Region.Spans (r : Region) (a b : Nat) : Prop := r.bounds? = some ((a : Int), (b : Int))

theorem Region.spans_ofBounds (a b : Nat) (kind : String) (line : Nat) :
    (Region.ofBounds a b kind line).Spans a b := rfl

theorem Region.Spans.unique {r : Region} {a b c d : Nat} (h : r.Spans a b) (h' : r.Spans c d) :
    a = c ∧ b = d := by
  have hbounds := h.symm.trans h'
  simpa using hbounds

def Region.Uncrossed (r r' : Region) : Prop := ∀ a b c d, r.Spans a b → r'.Spans c d → Laminar a b c d

theorem Region.Uncrossed.symm {r r' : Region} (h : r.Uncrossed r') : r'.Uncrossed r :=
  fun a b c d hspans hspans' => (h c d a b hspans' hspans).symm

def Region.Precedes (r r' : Region) : Prop := ∀ a b c d, r.Spans a b → r'.Spans c d → b < c

theorem Region.Precedes.uncrossed {r r' : Region} (h : r.Precedes r') : r.Uncrossed r' :=
  fun a b c d hspans hspans' => .inl (Nat.le_of_lt (h a b c d hspans hspans'))

structure Region.OnLines (t : Text) (r : Region) (i j : Nat) : Prop where
  le : i ≤ j
  lt : j < (Text.lines t).length
  spans : r.Spans (Text.lineStart (Text.lines t) i) (Text.lineStart (Text.lines t) j)

/-! ### Blocks -/

/-- Two pairs of markers do not cross: the one that ends later lies after the other or around it. -/
theorem laminar_markers {t : Text} {q q' : Pair PlacedMarker} (hq : Matched (markers t) q)
    (hq' : Matched (markers t) q') : Laminar q.opener.line q.closer.line q'.opener.line q'.closer.line := by
  obtain ⟨line, hlayered⟩ := layered_markers t
  let R (q q' : Pair PlacedMarker) := Laminar q.opener.line q.closer.line q'.opener.line q'.closer.line
  have : Std.Symm R := ⟨fun _ _ h => h.symm⟩
  have hordered : (Pairing.ofItems (markers t)).pairs.Pairwise R := by
    refine hlayered.ordered.imp_of_mem fun {q q'} hq hq' h => ?_
    have hlt := (hlayered.pairs_le q' hq').1
    simp only [R, Laminar]
    omega
  refine List.Pairwise.forall_of_forall ?_ hordered (Pairing.mem_pairs_iff.2 hq) (Pairing.mem_pairs_iff.2 hq')
  intro q _
  exact .inr (.inr (.inl ⟨le_rfl, le_rfl⟩))

theorem line_lt_of_matched {t : Text} {q : Pair PlacedMarker} (hq : Matched (markers t) q) :
    q.opener.line < q.closer.line := by
  obtain ⟨line, hlayered⟩ := layered_markers t
  exact (hlayered.pairs_le q (Pairing.mem_pairs_iff.2 hq)).1

/-- A block goes from the line after its first marker up to the line of its second one, and no heredoc is open
before either of them. -/
theorem region_onLines {t : Text} {q : Pair PlacedMarker} (hq : Matched (markers t) q) :
    q.region.OnLines t q.opener.line (q.closer.line - 1) ∧ heredocAt (Text.lines t) q.opener.line = none ∧
      heredocAt (Text.lines t) (q.closer.line - 1) = none := by
  have hlt := line_lt_of_matched hq
  obtain ⟨hopener, hcloser⟩ := hq.mem
  obtain ⟨i, hi, hiline, -, histop, -, hiafter⟩ := mem_markersFrom hopener
  obtain ⟨j, hj, hjline, hjstart, -, hjbefore, -⟩ := mem_markersFrom hcloser
  have hiline' : q.opener.line = i + 1 := by omega
  have hjline' : q.closer.line - 1 = j := by omega
  rw [Nat.zero_add] at histop hjstart
  rw [hiline', hjline']
  refine ⟨⟨by omega, hj, ?_⟩, hiafter, hjbefore⟩
  rw [Pair.region, histop, hjstart]
  exact Region.spans_ofBounds _ _ _ _

/-! ### Heredocs -/

/-- The region lies in a heredoc, from the line after the one that introduces it up to the one that ends it. -/
def Region.IsHeredoc (t : Text) (r : Region) : Prop :=
  ∃ i j, r.OnLines t i j ∧ ∀ k, i ≤ k → k ≤ j → (heredocAt (Text.lines t) k).isSome = true

/-- The heredoc that a scan has open after some lines is the one of the other scan, and it has been open since
the line after its introduction. -/
structure HeredocOpen (ls : List Text) (k : Nat) (opened : Option OpenHeredoc) : Prop where
  terminator : opened.map (·.terminator) = heredocAt ls k
  start : ∀ h ∈ opened, ∃ i ≤ k, h.start = Text.lineStart ls i ∧
    ∀ n, i ≤ n → n ≤ k → (heredocAt ls n).isSome = true

section

variable {read rest : List Text} {l : Text}

theorem heredocAt_concat (read rest : List Text) (l : Text) :
    heredocAt (read ++ l :: rest) (read.length + 1) =
      heredocAfter (heredocAt (read ++ l :: rest) read.length) l := by
  rw [heredocAt, heredocAt, List.take_left, List.take_length_add_append]
  simp

theorem lineStart_concat (read rest : List Text) (l : Text) :
    Text.lineStart (read ++ l :: rest) (read.length + 1) = read.flatten.length + l.length := by
  rw [Text.lineStart, List.take_length_add_append]
  simp

theorem HeredocOpen.introduce (h : HeredocOpen (read ++ l :: rest) read.length none) (line : Nat)
    (isMarkup : Text → Bool) :
    HeredocOpen (read ++ l :: rest) (read.length + 1)
      ((terminator? l).map fun w => ⟨w, read.flatten.length + l.length, line, isMarkup w⟩) := by
  have hafter : heredocAt (read ++ l :: rest) (read.length + 1) = terminator? l := by
    rw [heredocAt_concat, ← h.terminator]
    rfl
  refine ⟨?_, ?_⟩
  · rw [hafter, Option.map_map]
    exact Option.map_id'
  · intro o ho
    obtain ⟨w, hw, rfl⟩ := Option.map_eq_some_iff.1 ho
    refine ⟨read.length + 1, le_rfl, (lineStart_concat read rest l).symm, fun n hn hn' => ?_⟩
    rw [le_antisymm hn' hn, hafter, hw]
    rfl

variable {o : OpenHeredoc}

theorem HeredocOpen.close (h : HeredocOpen (read ++ l :: rest) read.length (some o))
    (hl : Text.trim l = o.terminator) : HeredocOpen (read ++ l :: rest) (read.length + 1) none := by
  refine ⟨?_, by simp⟩
  rw [heredocAt_concat, ← h.terminator]
  simp [heredocAfter, hl]

theorem HeredocOpen.stay (h : HeredocOpen (read ++ l :: rest) read.length (some o))
    (hl : Text.trim l ≠ o.terminator) :
    HeredocOpen (read ++ l :: rest) (read.length + 1) (some o) := by
  have hafter : heredocAt (read ++ l :: rest) (read.length + 1) = some o.terminator := by
    rw [heredocAt_concat, ← h.terminator]
    simp [heredocAfter, hl]
  refine ⟨hafter.symm, ?_⟩
  intro o' ho'
  obtain ⟨i, hi, hstart, hopen⟩ := h.start o' ho'
  refine ⟨i, Nat.le_succ_of_le hi, hstart, fun n hn hn' => ?_⟩
  rcases Nat.le_succ_iff.1 hn' with hn' | rfl
  · exact hopen n hn hn'
  · rw [hafter]
    rfl

end

theorem isHeredoc_of_mem {t : Text} {read rest : List Text} (hlines : Text.lines t = read ++ rest)
    {opened : Option OpenHeredoc} (hopened : HeredocOpen (Text.lines t) read.length opened) (line : Nat) :
    ∀ r ∈ (heredocLines opened line read.flatten.length rest).2, r.IsHeredoc t := by
  induction rest generalizing read opened line with
  | nil =>
    intro r hr
    simp only [heredocLines] at hr
    split at hr <;> [(split at hr <;> cases hr); cases hr]
  | cons l rest ih =>
    -- the induction goes on after one more line
    have ih {opened : Option OpenHeredoc} (h : HeredocOpen (Text.lines t) (read.length + 1) opened) :
        ∀ r ∈ (heredocLines opened (line + 1) (read.flatten.length + l.length) rest).2, r.IsHeredoc t := by
      have hread : (read ++ [l]).flatten.length = read.flatten.length + l.length := by simp
      rw [← hread]
      exact ih (by simp [hlines]) (by simpa using h) (line + 1)
    rw [hlines] at hopened ih
    cases opened with
    | none => exact ih (hopened.introduce (line + 1) _)
    | some o =>
      by_cases hl : Text.trim l = o.terminator
      · obtain ⟨i, hi, hstart, hopen⟩ := hopened.start o rfl
        have hregion : (Region.ofBounds o.start read.flatten.length "HEREDOC_PGML" o.line).IsHeredoc t := by
          refine ⟨i, read.length, ⟨hi, by simp [hlines], ?_⟩, ?_⟩
          · rw [hlines, Text.lineStart_length_append, hstart]
            exact Region.spans_ofBounds _ _ _ _
          · rw [hlines]
            exact hopen
        have hrest := ih (hopened.close hl)
        simp only [heredocLines, hl, beq_self_eq_true, if_true]
        split
        · exact List.forall_mem_cons.2 ⟨hregion, hrest⟩
        · exact hrest
      · simp only [heredocLines, beq_iff_eq, hl, if_false]
        exact ih (hopened.stay hl)

theorem lt_start_of_mem {opened : Option OpenHeredoc} {line pos : Nat} {ls : List Text} {r : Region} {a b : Nat}
    (hr : r ∈ (heredocLines opened line pos ls).2) (hspans : r.Spans a b) :
    pos < a ∨ ∃ o ∈ opened, a = o.start := by
  induction ls generalizing opened line pos with
  | nil =>
    simp only [heredocLines] at hr
    split at hr <;> [(split at hr <;> cases hr); cases hr]
  | cons l ls ih =>
    cases opened with
    | none =>
      rcases ih hr with hlt | ⟨o, ho, rfl⟩
      · exact .inl (by omega)
      · -- a line that introduces a heredoc is not empty
        obtain ⟨w, hw, rfl⟩ := Option.map_eq_some_iff.1 ho
        cases l with
        | nil => cases hw
        | cons c l => exact .inl (by simp)
    | some o =>
      simp only [heredocLines] at hr
      split at hr
      · have later (hr : r ∈ (heredocLines none (line + 1) (pos + l.length) ls).2) : pos < a := by
          rcases ih hr with hlt | ⟨o', ho', -⟩
          · omega
          · cases ho'
        split at hr
        · rcases List.mem_cons.1 hr with rfl | hr
          · exact .inr ⟨o, rfl, (hspans.unique (Region.spans_ofBounds _ _ _ _)).1⟩
          · exact .inl (later hr)
        · exact .inl (later hr)
      · rcases ih hr with hlt | hstart
        · exact .inl (by omega)
        · exact .inr hstart

theorem heredocLines_pairwise (opened : Option OpenHeredoc) (line pos : Nat) (ls : List Text) :
    (heredocLines opened line pos ls).2.Pairwise Region.Precedes := by
  induction ls generalizing opened line pos with
  | nil =>
    simp only [heredocLines]
    split <;> [(split <;> exact .nil); exact .nil]
  | cons l ls ih =>
    cases opened with
    | none => exact ih _ _ _
    | some o =>
      simp only [heredocLines]
      split
      · split
        · refine .cons (fun r' hr' a b c d hspans hspans' => ?_) (ih _ _ _)
          rw [(hspans.unique (Region.spans_ofBounds _ _ _ _)).2]
          rcases lt_start_of_mem hr' hspans' with hlt | ⟨o', ho', -⟩
          · omega
          · cases ho'
        · exact ih _ _ _
      · exact ih _ _ _

/-! ### All regions of a file -/

/-- How regions of markup lie in a text, those of blocks and those of heredocs. -/
structure Layout (t : Text) (blocks heredocs : List Region) : Prop where
  /-- Every region is made of whole lines of the text. -/
  bounds : ∀ r ∈ blocks ++ heredocs, ∃ a b, r.Spans a b ∧ a ≤ b ∧ b ≤ t.length ∧ IsLineStart t a ∧
    IsLineStart t b
  uncrossed : ∀ r ∈ blocks ++ heredocs, ∀ r' ∈ blocks ++ heredocs, r.Uncrossed r'
  /-- A block neither begins nor ends in a heredoc. -/
  outside : ∀ r ∈ blocks, ∀ a b, r.Spans a b → ¬ InHeredoc t a ∧ ¬ InHeredoc t b
  /-- The heredocs come in order and are disjoint. -/
  ordered : heredocs.Pairwise Region.Precedes

/-- A region of a block: its lines, with no heredoc open before the first one and after the last one. -/
def Region.IsBlock (t : Text) (r : Region) : Prop :=
  ∃ i j, r.OnLines t i j ∧ heredocAt (Text.lines t) i = none ∧ heredocAt (Text.lines t) j = none

theorem Region.OnLines.bounds {t : Text} {r : Region} {i j : Nat} (h : r.OnLines t i j) :
    ∃ a b, r.Spans a b ∧ a ≤ b ∧ b ≤ t.length ∧ IsLineStart t a ∧ IsLineStart t b :=
  ⟨_, _, h.spans, Text.lineStart_mono _ h.le, Text.lineStart_le_length t j,
    ⟨i, Nat.lt_of_le_of_lt h.le h.lt, rfl⟩, ⟨j, h.lt, rfl⟩⟩

theorem Region.OnLines.uncrossed {t : Text} {r r' : Region} {i j i' j' : Nat} (h : r.OnLines t i j)
    (h' : r'.OnLines t i' j') (hlam : Laminar i j i' j') : r.Uncrossed r' := by
  intro a b c d hspans hspans'
  obtain ⟨rfl, rfl⟩ := hspans.unique h.spans
  obtain ⟨rfl, rfl⟩ := hspans'.unique h'.spans
  exact hlam.map (Text.lineStart_mono _)

theorem not_inHeredoc {t : Text} {k : Nat} (hnone : heredocAt (Text.lines t) k = none) :
    ¬ InHeredoc t (Text.lineStart (Text.lines t) k) := by
  rintro ⟨n, hn, hsome, hle, hlt⟩
  have hkn : k = n := by
    rcases Nat.lt_trichotomy k n with hlt' | heq | hlt'
    · have := Text.lineStart_lt hlt' (Nat.le_of_lt hn)
      omega
    · exact heq
    · have := Text.lineStart_mono (Text.lines t) (Nat.succ_le_of_lt hlt')
      rw [Nat.succ_eq_add_one] at this
      omega
  rw [← hkn, hnone] at hsome
  cases hsome

/-- A block and a heredoc do not cross: all lines of the heredoc, and the one that ends it, lie on one side of
each bound of the block. -/
theorem Region.IsBlock.uncrossed {t : Text} {r r' : Region} (h : r.IsBlock t) (h' : r'.IsHeredoc t) :
    r.Uncrossed r' := by
  obtain ⟨i, j, hr, hi, hj⟩ := h
  obtain ⟨i', j', hr', hopen⟩ := h'
  have hout {k : Nat} (hk : heredocAt (Text.lines t) k = none) : k < i' ∨ j' < k := by
    by_contra hcon
    have hsome := hopen k (by omega) (by omega)
    rw [hk] at hsome
    cases hsome
  have hle := hr.le
  have hle' := hr'.le
  refine hr.uncrossed hr' ?_
  unfold Laminar
  rcases hout hi with h1 | h1 <;> rcases hout hj with h2 | h2 <;> omega

theorem uncrossed_of_pairwise {rs : List Region} (hrs : rs.Pairwise Region.Precedes) {r r' : Region}
    (hr : r ∈ rs) (hr' : r' ∈ rs) : r.Uncrossed r' := by
  have : Std.Symm Region.Uncrossed := ⟨fun _ _ h => h.symm⟩
  refine List.Pairwise.forall_of_forall ?_ (hrs.imp Region.Precedes.uncrossed) hr hr'
  intro r _ a b c d hspans hspans'
  obtain ⟨rfl, rfl⟩ := hspans.unique hspans'
  exact .inr (.inr (.inl ⟨le_rfl, le_rfl⟩))

theorem exists_pair_of_mem_blocks {t : Text} {r : Region} (hr : r ∈ (blocks t).2) :
    ∃ q, Matched (markers t) q ∧ q.region = r := by
  rw [blocks_regions] at hr
  obtain ⟨q, hq, hqr⟩ := List.mem_map.1 hr
  exact ⟨q, Pairing.mem_pairs_iff.1 (List.mem_reverse.1 (List.mem_filter.1 hq).1), hqr⟩

theorem layout_blocks (t : Text) : Layout t (blocks t).2 (markupHeredocs t).2 := by
  have hblock : ∀ r ∈ (blocks t).2, r.IsBlock t := by
    intro r hr
    obtain ⟨q, hq, rfl⟩ := exists_pair_of_mem_blocks hr
    exact ⟨_, _, region_onLines hq⟩
  have hheredoc : ∀ r ∈ (markupHeredocs t).2, r.IsHeredoc t := by
    have hnone : HeredocOpen (Text.lines t) 0 none := ⟨rfl, by simp⟩
    exact @isHeredoc_of_mem t [] (Text.lines t) rfl none hnone 1
  have hordered := heredocLines_pairwise none 1 0 (Text.lines t)
  have hblocks : ∀ r ∈ (blocks t).2, ∀ r' ∈ (blocks t).2, r.Uncrossed r' := by
    intro r hr r' hr'
    obtain ⟨q, hq, rfl⟩ := exists_pair_of_mem_blocks hr
    obtain ⟨q', hq', rfl⟩ := exists_pair_of_mem_blocks hr'
    refine (region_onLines hq).1.uncrossed (region_onLines hq').1 ?_
    have hlam := laminar_markers hq hq'
    unfold Laminar at hlam ⊢
    omega
  refine ⟨?_, ?_, ?_, hordered⟩
  · intro r hr
    rcases List.mem_append.1 hr with hr | hr
    · obtain ⟨i, j, honLines, -⟩ := hblock r hr
      exact honLines.bounds
    · obtain ⟨i, j, honLines, -⟩ := hheredoc r hr
      exact honLines.bounds
  · intro r hr r' hr'
    rcases List.mem_append.1 hr with hr | hr <;> rcases List.mem_append.1 hr' with hr' | hr'
    · exact hblocks r hr r' hr'
    · exact (hblock r hr).uncrossed (hheredoc r' hr')
    · exact ((hblock r' hr').uncrossed (hheredoc r hr)).symm
    · exact uncrossed_of_pairwise hordered hr hr'
  · intro r hr a b hspans
    obtain ⟨i, j, honLines, hi, hj⟩ := hblock r hr
    obtain ⟨rfl, rfl⟩ := hspans.unique honLines.spans
    exact ⟨not_inHeredoc hi, not_inHeredoc hj⟩

/-- The regions that a document knows are those of its blocks and then those of its heredocs, and they are laid
out in whole lines so that no two cross. -/
theorem ofText_layout (t : Text) (path : Option Text) (blockRules : List BlockRule)
    (macroRules : List MacroRule) (version : Option Text) :
    let d := Document.ofText t path blockRules macroRules version
    d.regions = d.blockRegions ++ d.heredocRegions ∧ Layout t d.blockRegions d.heredocRegions :=
  ⟨rfl, layout_blocks t⟩

end ProblemLint
