import ProblemLint.Markup.Inline
import ProblemLint.Proofs.Brackets
import ProblemLint.Proofs.Occurrences

/-! Inline code and its markers. The markers of a text are cut out from left to right, so that `[@]` has one and `[@@]`
has two. The scan reads them with a stack: each marker is in a span or in an issue, there are no issues just if the
markers are well nested, and two spans are disjoint or one lies between the markers of the other. -/

namespace ProblemLint

namespace InlineMarker

/-- A marker of inline code at the start of a text: whether it opens, and its size. -/
def at? (_before : Option Char) : Text → Option (Bool × Nat)
  | '[' :: '@' :: _ => some (true, 2)
  | '@' :: ']' :: _ => some (false, 2)
  | _ => none

def placed (x : Nat × Bool) : PlacedBracket := ⟨x.2, x.1⟩

/-- The markers of a text, from left to right and without overlap. -/
def all (t : Text) : List PlacedBracket := (occurrences at? t).map placed

def text (opens : Bool) : Text := if opens then ['[', '@'] else ['@', ']']

theorem at?_eq_some {before : Option Char} {t : Text} {opens : Bool} {n : Nat}
    (h : at? before t = some (opens, n)) : n = 2 ∧ t.take 2 = text opens := by
  unfold at? at h
  split at h
  · cases h
    exact ⟨rfl, rfl⟩
  · cases h
    exact ⟨rfl, rfl⟩
  · cases h

theorem take_drop_of_mem_all {t : Text} {b : PlacedBracket} (h : b ∈ all t) :
    (t.drop b.pos).take 2 = text b.opens := by
  obtain ⟨x, hx, rfl⟩ := List.mem_map.1 h
  obtain ⟨n, -, hfound⟩ := foundAt_of_mem_occurrences hx
  exact (at?_eq_some hfound).2

theorem pairwise_all (t : Text) : (all t).Pairwise fun b c => b.pos + 2 ≤ c.pos := by
  rw [all, List.pairwise_map]
  apply (pairwise_occurrences t).imp_of_mem
  intro x y hx _ h
  obtain ⟨n, hn⟩ := foundAt_of_mem_occurrences hx
  obtain ⟨rfl, -⟩ := at?_eq_some hn.2
  exact h.2 2 hn

theorem layered_all (t : Text) :
    ∃ pos, Pairing.Layered PlacedBracket.pos (fun b => b.pos + 2) pos (Pairing.ofItems (all t)) :=
  Pairing.layered_ofItems (fun b : PlacedBracket => Nat.le_add_right b.pos 2) (pairwise_all t)

end InlineMarker

/-! ### The scan -/

namespace InlineScan

def ofStack (s : Pairing PlacedBracket) : InlineScan :=
  ⟨PlacedBracket.openedAt s, PlacedBracket.straysAt s, s.pairs.map fun q => ⟨q.opener.pos, q.closer.pos + 2⟩⟩

/-- The scan reads the markers of a text with a stack. -/
theorem read_ofStack (s : Pairing PlacedBracket) (before : Option Char) (pos : Nat) (t : Text) :
    read (ofStack s) pos t =
      ofStack (((occurrencesFrom InlineMarker.at? 0 before pos t).map InlineMarker.placed).foldl Pairing.read s) := by
  generalize hu : ofStack s = u
  fun_induction read u pos t generalizing s before with
  | case1 u pos r ih =>
    subst hu
    exact ih (s.read ⟨true, pos⟩) (some '@') rfl
  | case2 u pos r hopened ih =>
    subst hu
    refine (ih (s.read ⟨false, pos⟩) (some ']') ?_).trans rfl
    rw [PlacedBracket.read_stray hopened]
    rfl
  | case3 u pos r p outer hopened ih =>
    subst hu
    obtain ⟨b, rest, rfl, rfl, hread⟩ := PlacedBracket.read_closer hopened pos
    refine (ih (s.read ⟨false, pos⟩) (some ']') ?_).trans rfl
    rw [hread]
    rfl
  | case4 u pos c r hopen hclose ih =>
    have hnone : InlineMarker.at? before (c :: r) = none := by
      unfold InlineMarker.at?
      split
      · next heq =>
        cases heq
        exact absurd rfl (hopen _ rfl)
      · next heq =>
        cases heq
        exact absurd rfl (hclose _ rfl)
      · rfl
    rw [occurrencesFrom, hnone]
    exact ih s (some c) hu
  | case5 u pos => exact hu.symm

theorem read_eq (t : Text) : read {} 0 t = ofStack (.ofItems (InlineMarker.all t)) := read_ofStack {} none 0 t

end InlineScan

/-! ### Issues -/

def Issue.hasMessage (message : String) (i : Issue) : Bool := i.message == message.toList

theorem Issue.countP_hasMessage (said message : String) (line : Nat → Nat) (ps : List Nat) :
    (ps.map fun p => Issue.onLine .warning said (line p)).countP (·.hasMessage message) =
      if said = message then ps.length else 0 := by
  have hmessage (p : Nat) : (Issue.onLine .warning said (line p)).hasMessage message = decide (said = message) := by
    show (said.toList == message.toList) = decide (said = message)
    rw [Bool.eq_iff_iff, beq_iff_eq, decide_eq_true_eq, String.toList_inj]
  rw [List.countP_map, List.countP_congr (q := fun _ => decide (said = message)) (fun p _ => by simp [hmessage])]
  split <;> simp_all

theorem countP_inlineSpans (t : Text) (offset : Int) (newlines : NewlineIndex) (message : String) :
    (inlineSpans t offset newlines).1.countP (·.hasMessage message) =
      (if "PGML inline close @] without matching [@" = message then
        (Pairing.ofItems (InlineMarker.all t)).strays.length else 0) +
      if "PGML inline open [@ without matching @]" = message then
        (Pairing.ofItems (InlineMarker.all t)).opened.length else 0 := by
  simp only [inlineSpans, InlineScan.read_eq, InlineScan.ofStack, PlacedBracket.straysAt, PlacedBracket.openedAt,
    List.countP_append, Issue.countP_hasMessage, List.length_reverse, List.length_map]

/-! ### Spans -/

/-- A stretch of inline code: a marker that opens, a later one that closes, and what is between them. -/
structure Span.IsInlineCode (t : Text) (s : Span) : Prop where
  size : 4 ≤ s.stop - s.start
  lead : Text.slice t s.start (s.start + 2) = "[@".toList
  tail : Text.slice t (s.stop - 2) s.stop = "@]".toList
  /-- Its ends are markers, as these are cut out from left to right. -/
  markers : ∃ p q : Nat, s.start = p ∧ s.stop = q + 2 ∧ ⟨true, p⟩ ∈ InlineMarker.all t ∧
    ⟨false, q⟩ ∈ InlineMarker.all t

/-- One stretch of inline code lies between the markers of another one. -/
def Span.Inside (s s' : Span) : Prop := s'.start + 2 ≤ s.start ∧ s.stop + 2 ≤ s'.stop

def Span.Disjoint (s s' : Span) : Prop := s.stop ≤ s'.start ∨ s'.stop ≤ s.start

theorem inlineSpans_isInlineCode (t : Text) (offset : Int) (newlines : NewlineIndex) :
    ∀ s ∈ (inlineSpans t offset newlines).2, s.IsInlineCode t := by
  intro s hs
  rw [inlineSpans, InlineScan.read_eq] at hs
  obtain ⟨q, hq, rfl⟩ := List.mem_map.1 (List.mem_reverse.1 hs)
  have hmatched := Pairing.mem_pairs_iff.1 hq
  obtain ⟨-, hopens, hcloses⟩ := PlacedBracket.matched_iff.1 hmatched
  obtain ⟨hopener, hcloser⟩ := hmatched.mem
  obtain ⟨pos, hlayered⟩ := InlineMarker.layered_all t
  have hle : q.opener.pos + 2 ≤ q.closer.pos := (hlayered.pairs_le q hq).1
  have hlead := InlineMarker.take_drop_of_mem_all hopener
  have htail := InlineMarker.take_drop_of_mem_all hcloser
  rw [hopens] at hlead
  rw [hcloses] at htail
  refine ⟨?_, ?_, ?_, q.opener.pos, q.closer.pos, rfl, rfl, by rwa [← hopens], by rwa [← hcloses]⟩
  · show (4 : Int) ≤ q.closer.pos + 2 - q.opener.pos
    omega
  · have hslice := Text.slice_natCast t q.opener.pos (q.opener.pos + 2)
    rw [Nat.add_sub_cancel_left, hlead] at hslice
    exact hslice
  · have hslice := Text.slice_natCast t q.closer.pos (q.closer.pos + 2)
    rw [Nat.add_sub_cancel_left, htail] at hslice
    have hstart : (q.closer.pos : Int) + 2 - 2 = q.closer.pos := by omega
    show Text.slice t ((q.closer.pos : Int) + 2 - 2) ((q.closer.pos : Int) + 2) = _
    rw [hstart]
    exact hslice

/-- Every marker of inline code is an end of one span or is reported once; nothing is reported just if the markers are
well nested. The spans are listed by their ends, and no two of them cross or share a marker. -/
theorem inlineSpans_account (t : Text) (offset : Int) (newlines : NewlineIndex) :
    let issues := (inlineSpans t offset newlines).1
    let spans := (inlineSpans t offset newlines).2
    (issues = [] ↔ PlacedBracket.Balanced (InlineMarker.all t)) ∧
      openers (InlineMarker.all t) =
        spans.length + issues.countP (·.hasMessage "PGML inline open [@ without matching @]") ∧
      closers (InlineMarker.all t) =
        spans.length + issues.countP (·.hasMessage "PGML inline close @] without matching [@") ∧
      (∀ s ∈ spans, s.IsInlineCode t) ∧
      spans.Pairwise (fun s s' => s.stop < s'.stop) ∧
      spans.Pairwise fun s s' => s.Disjoint s' ∨ s.Inside s' ∨ s'.Inside s := by
  intro issues spans
  obtain ⟨pos, hlayered⟩ := InlineMarker.layered_all t
  have hordered : spans.Pairwise fun s s' =>
      s.stop + 2 ≤ s'.stop ∧ (s.stop ≤ s'.start ∨ s'.start + 2 ≤ s.start) := by
    simp only [spans, inlineSpans, InlineScan.read_eq, InlineScan.ofStack, List.pairwise_reverse, List.pairwise_map]
    refine hlayered.ordered.imp fun h => ?_
    omega
  refine ⟨?_, ?_, ?_, inlineSpans_isInlineCode t offset newlines, hordered.imp fun h => ?_, hordered.imp fun h => ?_⟩
  · rw [PlacedBracket.balanced_iff]
    simp [issues, inlineSpans, InlineScan.read_eq, InlineScan.ofStack, and_comm]
  · rw [Pairing.openers_eq, countP_inlineSpans]
    simp [spans, inlineSpans, InlineScan.read_eq, InlineScan.ofStack]
  · rw [Pairing.closers_eq, countP_inlineSpans]
    simp [spans, inlineSpans, InlineScan.read_eq, InlineScan.ofStack]
  · omega
  · unfold Span.Disjoint Span.Inside
    omega

/-- The bracket after the first marker belongs to no marker, and the two markers after it share none either. -/
example : (inlineSpans "[@][@@]@]".toList 0 ⟨#[]⟩).2 = [⟨3, 7⟩, ⟨0, 9⟩] := by decide

end ProblemLint
