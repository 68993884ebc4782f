import ProblemLint.Source.Block
import ProblemLint.Proofs.Heredoc

/-! The scan for block markers. A marker is a word, so that what follows it on its line does not matter. Reading
lines composes, and all of it but the bounds of regions depends on markers and line numbers alone: two scans
with the same outline that read lines with the same markers end with the same outline, wherever in their texts
those lines stand. -/

namespace ProblemLint

/-! ### Markers in a line -/

theorem after?_append_cons {lead : Text} {c : Char} (h : c ∉ lead) (x rest : Text) :
    Text.after? lead (x ++ c :: rest) = (Text.after? lead x).map (· ++ c :: rest) := by
  unfold Text.after?
  induction lead generalizing x with
  | nil => simp [List.isPrefixOf?]
  | cons d lead ih =>
    rw [List.mem_cons, not_or] at h
    cases x with
    | nil => simp [List.isPrefixOf?, Ne.symm h.1]
    | cons e x =>
      simp only [List.cons_append, List.isPrefixOf?]
      split
      · exact ih h.2 x
      · rfl

theorem takeWhile_append_cons {p : Char → Bool} {c : Char} (hc : p c = false) (x rest : Text) :
    (x ++ c :: rest).takeWhile p = x.takeWhile p := by
  rw [List.takeWhile_append]
  split <;> simp [hc]
  next h => exact ((List.takeWhile_prefix _).eq_of_length h).symm

theorem dropWhile_append_cons {p : Char → Bool} {c : Char} (hc : p c = false) (x rest : Text) :
    (x ++ c :: rest).dropWhile p = x.dropWhile p ++ c :: rest := by
  rw [List.dropWhile_append]
  split
  · next h => simp [List.isEmpty_iff.1 h, hc]
  · rfl

/-- A marker ends before the first character that is neither of a word nor a space or tab. -/
theorem Marker.ofLine?_append_cons {c : Char} (hword : Text.isWord c = false)
    (hblank : (c == ' ' || c == '\t') = false) (x rest : Text) :
    Marker.ofLine? (x ++ c :: rest) = Marker.ofLine? x := by
  have hlead {lead : Text} (hlead : lead.all Text.isWord = true) : c ∉ lead := by
    intro hmem
    rw [List.all_eq_true.1 hlead c hmem] at hword
    cases hword
  simp only [Marker.ofLine?, dropWhile_append_cons (p := fun c => c == ' ' || c == '\t') hblank]
  rw [after?_append_cons (hlead (by decide)), after?_append_cons (hlead (by decide))]
  cases Text.after? "BEGIN_".toList (x.dropWhile fun c => c == ' ' || c == '\t') with
  | some r => simp only [Option.map_some, takeWhile_append_cons hword]
  | none =>
    cases Text.after? "END_".toList (x.dropWhile fun c => c == ' ' || c == '\t') with
    | some r => simp only [Option.map_some, Option.map_none, takeWhile_append_cons hword]
    | none => rfl

namespace BlockScan

/-! ### Reading lines -/

theorem lines_append (s : BlockScan) (o : Option Text) (line pos : Nat) (ls ms : List Text) :
    lines s o line pos (ls ++ ms) =
      lines (lines s o line pos ls) (ls.foldl heredocAfter o) (line + ls.length)
        (pos + ls.flatten.length) ms := by
  induction ls generalizing s o line pos with
  | nil => rfl
  | cons l ls ih =>
    simp only [List.cons_append, lines, ih, List.foldl_cons, List.length_cons, List.flatten_cons,
      List.length_append]
    congr 1 <;> omega

theorem lines_of_no_marker (s : BlockScan) (o : Option Text) (line pos : Nat) {ls : List Text}
    (h : ∀ l ∈ ls, Marker.ofLine? l = none) : lines s o line pos ls = s := by
  induction ls generalizing o line pos with
  | nil => rfl
  | cons l ls ih =>
    simp only [lines, h l List.mem_cons_self, ite_self]
    exact ih _ _ _ fun m hm => h m (List.mem_cons_of_mem l hm)

/-! ### Outlines -/

/-- What a scan has found, without positions. -/
structure Outline where
  opened : List (BlockTag × Nat)
  issues : List Issue
  regions : List (String × Nat)

def outline (s : BlockScan) : Outline :=
  ⟨s.opened.map fun b => (b.tag, b.line), s.issues, s.regions.map fun r => (r.kind, r.line)⟩

theorem any_opened (s : BlockScan) (p : BlockTag → Bool) :
    s.opened.any (fun b => p b.tag) = s.outline.opened.any fun b => p b.1 := by
  simp [outline, List.any_map, Function.comp_def]

/-- A marker changes the outline in a way that neither the outline's origin nor the marker's position
matters to. -/
theorem outline_step {s s' : BlockScan} (h : s.outline = s'.outline) (m : Marker)
    (line start stop start' stop' : Nat) :
    (s.step m line start stop).outline = (s'.step m line start' stop').outline := by
  have hopened : s.outline.opened = s'.outline.opened := congrArg Outline.opened h
  have hissues : s.issues = s'.issues := congrArg Outline.issues h
  have hregions : s.outline.regions = s'.outline.regions := congrArg Outline.regions h
  unfold step
  cases m.opens with
  | true =>
    simp only [any_opened s BlockTag.isMarkup, any_opened s' BlockTag.isMarkup, hopened, if_true]
    split <;> simp_all [outline, report]
  | false =>
    cases hs : s.opened with
    | nil =>
      have hs' : s'.opened = [] := by simpa [outline, hs] using hopened
      simp_all [outline, report]
    | cons b outer =>
      rw [outline, hs] at hopened
      obtain ⟨b', outer', hs', hb, houter⟩ := List.map_eq_cons_iff.1 hopened.symm
      obtain ⟨htag, hline⟩ := Prod.mk.inj hb
      simp only [hs', htag, Bool.false_eq_true, if_false]
      split
      · simp_all [outline, report]
      · by_cases hm : m.tag.isMarkup = true <;> simp_all [outline, Region.ofBounds]

theorem outline_lines {s s' : BlockScan} (h : s.outline = s'.outline) {o o' : Option Text}
    (ho : heredocView o = heredocView o') (line pos pos' : Nat) (ls : List Text) :
    (lines s o line pos ls).outline = (lines s' o' line pos' ls).outline := by
  induction ls generalizing s s' o o' line pos pos' with
  | nil => exact h
  | cons l ls ih =>
    have hafter := heredocView_after ho l
    have hnone : o.isNone = o'.isNone := by
      rw [← Option.not_isSome, ← Option.not_isSome, isSome_of_heredocView ho]
    have hnone' : (heredocAfter o l).isNone = (heredocAfter o' l).isNone := by
      rw [← Option.not_isSome, ← Option.not_isSome, isSome_of_heredocView hafter]
    simp only [lines]
    refine ih ?_ hafter _ _ _
    rw [hnone, hnone']
    split
    · split
      · exact outline_step h _ _ _ _ _ _
      · exact h
    · exact h

theorem finish_eq_of_outline {s s' : BlockScan} (h : s.outline = s'.outline) :
    s.finish.1 = s'.finish.1 ∧
      s.finish.2.map (fun r => (r.kind, r.line)) = s'.finish.2.map fun r => (r.kind, r.line) := by
  have hopened : s.outline.opened = s'.outline.opened := congrArg Outline.opened h
  have hfinish (u : BlockScan) : u.finish.1 = u.outline.issues ++ u.outline.opened.reverse.map fun b =>
      .onLine .error ("BEGIN_" ++ b.1.name ++ " without matching END") b.2 := by
    simp [finish, outline, ← List.map_reverse, Function.comp_def]
  exact ⟨by rw [hfinish, hfinish, h], congrArg Outline.regions h⟩

end BlockScan
end ProblemLint
