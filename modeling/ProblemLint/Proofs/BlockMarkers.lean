import ProblemLint.Proofs.Blocks
import ProblemLint.Proofs.Pairing

/-! What the scan for block markers reports. A block has one of several tags, and the scan reads the markers that no
heredoc hides with the stack of `Pairing`. So its regions are the pairs of markers that hold markup, and each of its
errors is about a marker without a partner. -/

namespace ProblemLint

/-! ### The markers of a file -/

/-- A marker and its line: the line's number, where it starts and where the next one does. -/
structure PlacedMarker where
  marker : Marker
  line : Nat
  start : Nat
  stop : Nat

instance : Tagged PlacedMarker BlockTag := ⟨(·.marker.opens), (·.marker.tag)⟩

/-- The markers on lines that neither lie in a heredoc nor introduce one; the lines start at a position and a
line number, with an open heredoc. -/
def markersFrom (opened : Option Text) (line pos : Nat) : List Text → List PlacedMarker
  | [] => []
  | l :: ls =>
    let after := heredocAfter opened l
    let stop := pos + l.length
    let rest := markersFrom after (line + 1) stop ls
    if opened.isNone && after.isNone then
      match Marker.ofLine? l with
      | some m => ⟨m, line, pos, stop⟩ :: rest
      | none => rest
    else rest

def markers (t : Text) : List PlacedMarker := markersFrom none 1 0 (Text.lines t)

/-- A marker's number and positions are those of a line that no heredoc is open before or after. -/
theorem mem_markersFrom {o : Option Text} {line pos : Nat} {ls : List Text} {m : PlacedMarker}
    (h : m ∈ markersFrom o line pos ls) :
    ∃ k < ls.length, m.line = line + k ∧ m.start = pos + Text.lineStart ls k ∧
      m.stop = pos + Text.lineStart ls (k + 1) ∧ (ls.take k).foldl heredocAfter o = none ∧
      (ls.take (k + 1)).foldl heredocAfter o = none := by
  induction ls generalizing o line pos with
  | nil => cases h
  | cons l ls ih =>
    have later (h : m ∈ markersFrom (heredocAfter o l) (line + 1) (pos + l.length) ls) :
        ∃ k < (l :: ls).length, m.line = line + k ∧ m.start = pos + Text.lineStart (l :: ls) k ∧
          m.stop = pos + Text.lineStart (l :: ls) (k + 1) ∧ ((l :: ls).take k).foldl heredocAfter o = none ∧
          ((l :: ls).take (k + 1)).foldl heredocAfter o = none := by
      obtain ⟨k, hk, hline, hstart, hstop, hbefore, hafter⟩ := ih h
      refine ⟨k + 1, Nat.succ_lt_succ hk, ?_, ?_, ?_, hbefore, hafter⟩
      · omega
      · rw [Text.lineStart_cons_succ, hstart, Nat.add_assoc]
      · rw [Text.lineStart_cons_succ, hstop, Nat.add_assoc]
    simp only [markersFrom] at h
    split at h
    · next hplain =>
      rw [Bool.and_eq_true, Option.isNone_iff_eq_none, Option.isNone_iff_eq_none] at hplain
      split at h
      · rcases List.mem_cons.1 h with rfl | h
        · exact ⟨0, Nat.succ_pos _, rfl, rfl, by simp [Text.lineStart], hplain.1, by simpa using hplain.2⟩
        · exact later h
      · exact later h
    · exact later h

theorem pairwise_markersFrom (o : Option Text) (line pos : Nat) (ls : List Text) :
    (markersFrom o line pos ls).Pairwise fun m n => m.line < n.line := by
  induction ls generalizing o line pos with
  | nil => exact .nil
  | cons l ls ih =>
    simp only [markersFrom]
    split
    · split
      · refine .cons (fun n hn => ?_) (ih _ _ _)
        obtain ⟨k, -, hline, -⟩ := mem_markersFrom hn
        rw [hline]
        exact Nat.lt_of_lt_of_le (Nat.lt_succ_self line) (Nat.le_add_right _ k)
      · exact ih _ _ _
    · exact ih _ _ _

theorem pairwise_markers (t : Text) : (markers t).Pairwise fun m n => m.line < n.line :=
  pairwise_markersFrom none 1 0 (Text.lines t)

theorem layered_markers (t : Text) :
    ∃ line, Pairing.Layered PlacedMarker.line (fun m => m.line + 1) line (Pairing.ofItems (markers t)) :=
  Pairing.layered_ofItems (fun m : PlacedMarker => Nat.le_succ m.line) (pairwise_markers t)

/-! ### Messages -/

namespace Text

theorem includes_append {a : Text} {c : Char} {needle : String} {rest : Text} (hneedle : needle.toList = c :: rest)
    (hc : c ∉ a) (b : Text) : includes (a ++ b) needle = includes b needle := by
  unfold includes
  rw [hneedle]
  induction a with
  | nil => rfl
  | cons d a ih =>
    rw [List.mem_cons, not_or] at hc
    rw [List.cons_append, find?, ← ih hc.2]
    simp [hc.1]

end Text

def Issue.mentions (words : String) (i : Issue) : Bool := Text.includes i.message words

@[simp] theorem Issue.mentions_onLine (words : String) (severity : Severity) (message : String) (line : Nat) :
    (Issue.onLine severity message line).mentions words = Text.includes message.toList words := rfl

@[simp] theorem Issue.isError_onLine (severity : Severity) (message : String) (line : Nat) :
    (Issue.onLine severity message line).isError = (severity == .error) := by
  cases severity <;> rfl

namespace BlockScan

/-- Which of the three things that can be wrong with a marker a message tells. -/
def faults (message : Text) : Bool × Bool × Bool :=
  (Text.includes message "without matching END", Text.includes message "does not match",
    Text.includes message "without matching BEGIN")

/-- What stands before the words of a message does not matter if it has no small letters. -/
theorem faults_append {a : Text} (hw : 'w' ∉ a) (hd : 'd' ∉ a) (b : Text) : faults (a ++ b) = faults b := by
  rw [faults, Text.includes_append rfl hw, Text.includes_append rfl hd, Text.includes_append rfl hw, faults]

theorem not_mem_begin (t : BlockTag) :
    'w' ∉ "BEGIN_".toList ++ t.name.toList ∧ 'd' ∉ "BEGIN_".toList ++ t.name.toList := by
  cases t <;> decide

theorem not_mem_end (t : BlockTag) :
    'w' ∉ "END_".toList ++ t.name.toList ∧ 'd' ∉ "END_".toList ++ t.name.toList := by
  cases t <;> decide

theorem faults_nested (t : BlockTag) :
    faults ("BEGIN_" ++ t.name ++ " appears inside another PGML block").toList = (false, false, false) := by
  obtain ⟨hw, hd⟩ := not_mem_begin t
  rw [String.toList_append, String.toList_append, faults_append hw hd]
  decide +kernel

theorem faults_unclosed (t : BlockTag) :
    faults ("BEGIN_" ++ t.name ++ " without matching END").toList = (true, false, false) := by
  obtain ⟨hw, hd⟩ := not_mem_begin t
  rw [String.toList_append, String.toList_append, faults_append hw hd]
  decide +kernel

theorem faults_unopened (t : BlockTag) :
    faults ("END_" ++ t.name ++ " without matching BEGIN").toList = (false, false, true) := by
  obtain ⟨hw, hd⟩ := not_mem_end t
  rw [String.toList_append, String.toList_append, faults_append hw hd]
  decide +kernel

theorem faults_mismatched (t u : BlockTag) :
    faults ("END_" ++ t.name ++ " does not match BEGIN_" ++ u.name).toList = (false, true, false) := by
  obtain ⟨hw, hd⟩ := not_mem_end t
  rw [String.toList_append, String.toList_append, String.toList_append, List.append_assoc,
    faults_append hw hd]
  cases u <;> decide +kernel

/-! ### The scan and the pairing -/

end BlockScan

namespace Pair

def isMarkup (p : Pair PlacedMarker) : Bool := p.opener.marker.tag.isMarkup

/-- What stands between two markers, from the line after the first up to the line of the second. -/
def region (p : Pair PlacedMarker) : Region :=
  .ofBounds p.opener.stop p.closer.start ("BEGIN_" ++ p.opener.marker.tag.name) p.opener.line

end Pair

namespace BlockScan

def read (s : BlockScan) (m : PlacedMarker) : BlockScan := s.step m.marker m.line m.start m.stop

theorem lines_eq_foldl (s : BlockScan) (o : Option Text) (line pos : Nat) (ls : List Text) :
    lines s o line pos ls = (markersFrom o line pos ls).foldl read s := by
  induction ls generalizing s o line pos with
  | nil => rfl
  | cons l ls ih =>
    simp only [lines, markersFrom, ih]
    split
    · cases Marker.ofLine? l <;> rfl
    · rfl

/-- The scan has the open blocks of the pairing, its regions are the pairs that hold markup, and each stray
marker is an error that says so. -/
structure Reflects (p : Pairing PlacedMarker) (s : BlockScan) : Prop where
  opened : s.opened = p.opened.map fun m => ⟨m.marker.tag, m.stop, m.line⟩
  regions : s.regions = (p.pairs.reverse.filter (·.isMarkup)).map (·.region)
  errors : s.issues.countP (·.isError) = p.strays.length
  unclosed : s.issues.countP (·.mentions "without matching END") = 0
  strays : s.issues.countP (·.mentions "does not match") + s.issues.countP (·.mentions "without matching BEGIN") =
    p.strays.length

section

variable {p : Pairing PlacedMarker} {s : BlockScan} {m : PlacedMarker}

theorem Reflects.opener (h : Reflects p s) (hm : m.marker.opens = true) :
    Reflects { p with opened := m :: p.opened } (s.read m) := by
  have hfaults := faults_nested m.marker.tag
  simp only [faults, Prod.mk.injEq] at hfaults
  obtain ⟨hopened, hregions, herrors, hunclosed, hstrays⟩ := h
  rw [read, step, if_pos hm]
  split
  · constructor <;> simp_all [report]
  · constructor <;> simp_all

theorem Reflects.closer {b : PlacedMarker} {outer : List PlacedMarker} (h : Reflects p s)
    (hopened : p.opened = b :: outer) (hm : m.marker.opens = false) (htag : m.marker.tag = b.marker.tag) :
    Reflects { p with opened := outer, pairs := ⟨b, m⟩ :: p.pairs } (s.read m) := by
  have hstack := h.opened
  rw [hopened, List.map_cons] at hstack
  simp only [read, step, hm, htag, hstack, Bool.false_eq_true, if_false, bne_self_eq_false]
  refine ⟨rfl, ?_, h.errors, h.unclosed, h.strays⟩
  rw [List.reverse_cons, List.filter_append, List.map_append, ← h.regions]
  cases hmarkup : b.marker.tag.isMarkup <;> simp [Pair.isMarkup, Pair.region, hmarkup]

theorem Reflects.report (h : Reflects p s) {message : String} {mismatched : Bool} (line : Nat)
    (hfaults : faults message.toList = (false, mismatched, !mismatched)) :
    Reflects { p with strays := m :: p.strays } (s.report (.onLine .error message line)) := by
  simp only [faults, Prod.mk.injEq] at hfaults
  obtain ⟨hunclosed, hmismatched, hunopened⟩ := hfaults
  have hstrays := h.strays
  refine ⟨h.opened, h.regions, ?_, ?_, ?_⟩
  · simp [BlockScan.report, h.errors]
  · simp [BlockScan.report, h.unclosed, hunclosed]
  · cases mismatched <;> simp [BlockScan.report, hmismatched, hunopened] <;> omega

/-- A closing marker that does not fit is an error, and nothing else changes. -/
theorem read_stray (hm : m.marker.opens = false) (hne : s.opened.head?.map (·.tag) ≠ some m.marker.tag) :
    ∃ (message : String) (mismatched : Bool), faults message.toList = (false, mismatched, !mismatched) ∧
      s.read m = s.report (.onLine .error message m.line) := by
  simp only [BlockScan.read, step, hm, Bool.false_eq_true, if_false]
  split
  · exact ⟨_, false, faults_unopened m.marker.tag, rfl⟩
  · next b outer hopened =>
    have htag : (b.tag != m.marker.tag) = true := by
      rw [bne_iff_ne]
      rintro htag
      exact hne (by rw [hopened, List.head?_cons, Option.map_some, htag])
    rw [if_pos htag]
    exact ⟨_, true, faults_mismatched m.marker.tag b.tag, rfl⟩

theorem Reflects.stray (h : Reflects p s) (hm : m.marker.opens = false) (hne : p.around ≠ some m.marker.tag) :
    Reflects { p with strays := m :: p.strays } (s.read m) := by
  have haround : s.opened.head?.map (·.tag) = p.around := by
    rw [h.opened, List.head?_map, Option.map_map]
    rfl
  obtain ⟨message, mismatched, hfaults, hread⟩ := read_stray hm (haround ▸ hne)
  rw [hread]
  exact h.report m.line hfaults

theorem Reflects.read (h : Reflects p s) (m : PlacedMarker) : Reflects (p.read m) (s.read m) := by
  rcases p.reading_cases m with hm | ⟨b, outer, hopened, hm, htag⟩ | ⟨hm, hne⟩
  · rw [Pairing.read_opener hm]
    exact h.opener hm
  · rw [Pairing.read_closer hopened hm htag]
    exact h.closer hopened hm htag
  · rw [Pairing.read_stray hm hne]
    exact h.stray hm hne

theorem Reflects.foldl (h : Reflects p s) (ms : List PlacedMarker) :
    Reflects (ms.foldl Pairing.read p) (ms.foldl BlockScan.read s) := by
  induction ms generalizing p s with
  | nil => exact h
  | cons m ms ih => exact ih (h.read m)

/-! ### The end of the scan -/

theorem countP_unclosed {f : Issue → Bool} {v : Bool} (bs : List OpenBlock)
    (hf : ∀ b : OpenBlock, f (.onLine .error ("BEGIN_" ++ b.tag.name ++ " without matching END") b.line) = v) :
    (bs.reverse.map fun b =>
      Issue.onLine .error ("BEGIN_" ++ b.tag.name ++ " without matching END") b.line).countP f =
        if v then bs.length else 0 := by
  rw [List.countP_map, List.countP_congr (q := fun _ => v) (fun b _ => by simp [hf])]
  cases v <;> simp

/-- At the end, blocks that are open are errors too. -/
theorem Reflects.finish (h : Reflects p s) :
    s.finish.1.countP (·.isError) = p.strays.length + p.opened.length ∧
      s.finish.1.countP (·.mentions "without matching END") = p.opened.length ∧
      s.finish.1.countP (·.mentions "does not match") + s.finish.1.countP (·.mentions "without matching BEGIN") =
        p.strays.length := by
  have hopened : s.opened.length = p.opened.length := by rw [h.opened, List.length_map]
  have hfaults (b : OpenBlock) := faults_unclosed b.tag
  simp only [faults, Prod.mk.injEq] at hfaults
  simp only [BlockScan.finish, List.countP_append]
  rw [countP_unclosed s.opened (v := true) (fun b => by simp),
    countP_unclosed s.opened (v := true) (fun b => (hfaults b).1),
    countP_unclosed s.opened (v := false) (fun b => (hfaults b).2.1),
    countP_unclosed s.opened (v := false) (fun b => (hfaults b).2.2)]
  have herrors := h.errors
  have hunclosed := h.unclosed
  have hstrays := h.strays
  simp only [if_true, Bool.false_eq_true, if_false]
  omega

end

end BlockScan

/-! ### The report on a file -/

theorem reflects_blocks (t : Text) :
    BlockScan.Reflects (.ofItems (markers t)) (BlockScan.lines {} none 1 0 (Text.lines t)) := by
  rw [BlockScan.lines_eq_foldl]
  exact BlockScan.Reflects.foldl ⟨rfl, rfl, rfl, rfl, rfl⟩ (markers t)

theorem blocks_regions (t : Text) :
    (blocks t).2 = ((Pairing.ofItems (markers t)).pairs.reverse.filter (·.isMarkup)).map (·.region) :=
  (reflects_blocks t).regions

/-- The scan for block markers reports no error just if the markers of the file are well nested. Whether or not
they are, there is a list of pairs of markers, those that belong together and in the order of their closing
markers, so that every marker is in a pair or in an issue about it, and the regions of markup are the pairs
whose blocks hold markup. -/
theorem blocks_account (t : Text) :
    ((∀ i ∈ (blocks t).1, i.isError = false) ↔ WellNested (markers t)) ∧
      ∃ pairs : List (Pair PlacedMarker),
        (∀ p, p ∈ pairs ↔ Matched (markers t) p) ∧
        pairs.Pairwise (fun p q => p.closer.line < q.closer.line) ∧
        openers (markers t) =
          pairs.length + (blocks t).1.countP (·.mentions "without matching END") ∧
        closers (markers t) =
          pairs.length + ((blocks t).1.countP (·.mentions "does not match") +
            (blocks t).1.countP (·.mentions "without matching BEGIN")) ∧
        (blocks t).2 = (pairs.filter (·.isMarkup)).map (·.region) := by
  obtain ⟨herrors, hunclosed, hstrays⟩ := (reflects_blocks t).finish
  refine ⟨?_, (Pairing.ofItems (markers t)).pairs.reverse, ?_, ?_, ?_, ?_, blocks_regions t⟩
  · have hnone : (∀ i ∈ (blocks t).1, i.isError = false) ↔ (blocks t).1.countP (·.isError) = 0 := by
      simp [List.countP_eq_zero]
    rw [hnone, Pairing.wellNested_iff, blocks, herrors, Nat.add_eq_zero_iff, List.length_eq_zero_iff,
      List.length_eq_zero_iff, and_comm]
  · intro p
    rw [List.mem_reverse, Pairing.mem_pairs_iff]
  · have hordered := (pairwise_markers t).sublist (Pairing.sorts_ofItems (markers t)).pairs_sublist
    rwa [← List.map_reverse, List.pairwise_map] at hordered
  · rw [blocks, hunclosed, List.length_reverse, Pairing.openers_eq]
  · rw [blocks, hstrays, List.length_reverse, Pairing.closers_eq]

end ProblemLint
