import ProblemLint.Release.Project
import ProblemLint.Proofs.Trimming

/-! Version assignments in a project file. An assignment starts a line, but the blanks and the quoted text in it may go
on over several lines, so that it can end in or behind the line of another one. Even then the first assignment stays the
first when it is replaced: if an earlier one reached into the new assignment, it would have reached into the old one as
far as its first quote mark, and have ended there. -/

namespace ProblemLint.Release

open Text (IsGap)

/-! ### Templates -/

theorem tokens_plain {t : Text} (h : '\\' ∉ t) : Pattern.tokens t = .ok (t.map .plain) := by
  induction t with
  | nil => rfl
  | cons c t ih =>
    obtain ⟨hc, ht⟩ := not_or.1 (List.mem_cons.not.1 h)
    rw [Pattern.tokens.eq_4 c t (fun heq => absurd heq.symm hc) (fun _ _ heq _ => absurd heq.symm hc), ih ht]
    rfl

theorem pieces_plain (t : Text) (s : Pattern.Reader) {fuel : Nat} (hfuel : t.length < fuel) :
    ∃ s', (Pattern.Template.pieces fuel).run { s with rest := t.map .plain } = .ok (t.map .char, s') := by
  induction t generalizing fuel with
  | nil =>
    obtain ⟨n, rfl⟩ := Nat.exists_eq_add_of_lt hfuel
    exact ⟨_, rfl⟩
  | cons c t ih =>
    obtain ⟨n, rfl⟩ := Nat.exists_eq_add_of_lt hfuel
    obtain ⟨s', hs'⟩ := @ih (t.length + 1 + n) (by omega)
    have hstep : (Pattern.Template.pieces ((c :: t).length + n + 1)).run { s with rest := (c :: t).map .plain } =
        (Pattern.Template.pieces ((c :: t).length + n)).run { s with rest := t.map .plain } >>= fun x =>
          .ok (.char c :: x.1, x.2) := rfl
    refine ⟨s', ?_⟩
    rw [hstep, List.length_cons, hs']
    rfl

theorem exists_template {t : Text} (h : '\\' ∉ t) :
    ∃ ps, Pattern.Template.read t = .ok ps ∧ ∀ found, Pattern.Template.fill ps found = t := by
  refine ⟨t.map .char, ?_, fun found => ?_⟩
  · obtain ⟨s, hs⟩ := pieces_plain t { rest := t.map .plain } (Nat.lt_succ_self _)
    have hread : Pattern.Template.read t = Pattern.tokens t >>= fun ks =>
        (Pattern.Template.pieces (t.length + 1)).run { rest := ks } >>= fun x => .ok x.1 := rfl
    rw [hread, tokens_plain h]
    exact (congrArg (· >>= fun x => .ok x.1) hs)
  · rw [Pattern.Template.fill, List.flatMap_map]
    exact List.flatMap_singleton' t

/-! ### Assignments -/

def keyword : Text := "version".toList

def written (g g' q : Text) : Text := keyword ++ (g ++ '=' :: (g' ++ '"' :: (q ++ ['"'])))

/-- The word, an equals sign and a quoted text that is not empty, with blanks between them. -/
def IsAssignment (w : Text) : Prop := ∃ g g' q, IsGap g ∧ IsGap g' ∧ q ≠ [] ∧ '"' ∉ q ∧ w = written g g' q

theorem written_append (g g' q r : Text) :
    written g g' q ++ r = keyword ++ (g ++ '=' :: (g' ++ '"' :: (q ++ '"' :: r))) := by
  simp only [written, List.append_assoc, List.cons_append, List.nil_append]

theorem afterAssignment?_written {g g' q : Text} (hg : IsGap g) (hg' : IsGap g') (hq : q ≠ []) (hquote : '"' ∉ q)
    (r : Text) : afterAssignment? (written g g' q ++ r) = some r := by
  have hword : Text.after? "version".toList (written g g' q ++ r) =
      some (g ++ '=' :: (g' ++ '"' :: (q ++ '"' :: r))) := Text.after?_eq_some_iff.2 (written_append g g' q r)
  have hfirst : (g ++ '=' :: (g' ++ '"' :: (q ++ '"' :: r))).dropWhile Text.isBlank = _ :=
    dropWhile_append_stop hg rfl
  have hsecond : (g' ++ '"' :: (q ++ '"' :: r)).dropWhile Text.isBlank = _ := dropWhile_append_stop hg' rfl
  obtain ⟨c, q', rfl⟩ := List.exists_cons_of_ne_nil hq
  simp only [afterAssignment?, hword, Option.bind_eq_bind, Option.bind_some, hfirst, hsecond,
    Text.takeWhile_ne_append hquote, Text.dropWhile_ne_append hquote]

theorem afterAssignment?_eq_some_iff {t r : Text} : afterAssignment? t = some r ↔ ∃ w, IsAssignment w ∧ t = w ++ r := by
  constructor
  · intro h
    simp only [afterAssignment?, Option.bind_eq_bind, Option.bind_eq_some_iff, Text.after?_eq_some_iff] at h
    obtain ⟨u, rfl, h⟩ := h
    split at h
    · next u' hfirst =>
      split at h
      · next v hsecond =>
        split at h
        · next c q r' htake hdrop =>
          cases h
          have hu := List.takeWhile_append_dropWhile (p := Text.isBlank) (l := u)
          have hu' := List.takeWhile_append_dropWhile (p := Text.isBlank) (l := u')
          have hv := List.takeWhile_append_dropWhile (p := (· != '"')) (l := v)
          rw [hfirst, ← hu', hsecond, ← hv, htake, hdrop] at hu
          refine ⟨written (u.takeWhile Text.isBlank) (u'.takeWhile Text.isBlank) (c :: q), ?_, ?_⟩
          · refine ⟨_, _, _, fun _ => List.mem_takeWhile_imp, fun _ => List.mem_takeWhile_imp, List.cons_ne_nil c q,
              fun hmem => ?_, rfl⟩
            rw [← htake] at hmem
            simpa using List.mem_takeWhile_imp hmem
          · exact (congrArg (keyword ++ ·) hu.symm).trans (written_append _ _ _ r).symm
        · cases h
      · cases h
    · cases h
  · rintro ⟨w, ⟨g, g', q, hg, hg', hq, hquote, rfl⟩, rfl⟩
    exact afterAssignment?_written hg hg' hq hquote r

theorem IsAssignment.head?_append {w : Text} (h : IsAssignment w) (b : Text) : (w ++ b).head? = some 'v' := by
  obtain ⟨g, g', q, -, -, -, -, rfl⟩ := h
  rw [written_append]
  exact (List.head?_append_of_ne_nil keyword (by decide)).trans (by decide)

/-! ### The first assignment -/

structure AssignmentAt (t a w b : Text) : Prop where
  text_eq : t = a ++ (w ++ b)
  starts_line : a = [] ∨ a.getLast? = some '\n'
  assigns : IsAssignment w

/-- The first assignment of a text that starts a line. -/
structure FirstAssignment (t a w b : Text) : Prop extends AssignmentAt t a w b where
  first : ∀ {a' w' b'}, AssignmentAt t a' w' b' → a.length ≤ a'.length

theorem exists_first {t : Text} (h : ∃ a w b, AssignmentAt t a w b) : ∃ a w b, FirstAssignment t a w b := by
  classical
  have hlength : ∃ n a w b, AssignmentAt t a w b ∧ a.length = n := by
    obtain ⟨a, w, b, h⟩ := h
    exact ⟨a.length, a, w, b, h, rfl⟩
  obtain ⟨a, w, b, hat, hn⟩ := Nat.find_spec hlength
  refine ⟨a, w, b, hat, fun {a' w' b'} hat' => ?_⟩
  rw [hn]
  exact Nat.find_min' hlength ⟨a', w', b', hat', rfl⟩

/-- Whether a line starts behind a text, before which one starts or not. -/
def lineStarts (start : Bool) : Text → Bool
  | [] => start
  | c :: a => lineStarts (c == '\n') a

theorem lineStarts_iff {a : Text} : lineStarts true a = true ↔ a = [] ∨ a.getLast? = some '\n' := by
  have hcons (start : Bool) (c : Char) (a : Text) :
      lineStarts start (c :: a) = true ↔ (c :: a).getLast? = some '\n' := by
    induction a generalizing start c with
    | nil => simp [lineStarts]
    | cons d a ih => rw [lineStarts, ih, List.getLast?_cons_cons]
  cases a with
  | nil => simp [lineStarts]
  | cons c a => rw [hcons]; simp

theorem setVersion?_eq (f : Text → Text) {start : Bool} {a w b : Text} (hstart : lineStarts start a = true)
    (hw : IsAssignment w)
    (hfirst : ∀ a' w' b', a ++ (w ++ b) = a' ++ (w' ++ b') → lineStarts start a' = true → IsAssignment w' →
      a.length ≤ a'.length) :
    setVersion? f start (a ++ (w ++ b)) = some (a ++ (f w ++ b)) := by
  induction a generalizing start with
  | nil =>
    obtain rfl : start = true := hstart
    have hafter : afterAssignment? (w ++ b) = some b := afterAssignment?_eq_some_iff.2 ⟨w, hw, rfl⟩
    cases htext : w ++ b with
    | nil => exact absurd (hw.head?_append b) (by rw [htext]; simp)
    | cons c r =>
      have htake : (c :: r).take (r.length + 1 - b.length) = w := by
        rw [← htext, ← List.length_cons (a := c), ← htext, List.length_append, Nat.add_sub_cancel, List.take_left]
      rw [htext] at hafter
      simp only [List.nil_append, setVersion?, if_true, hafter, htake]
  | cons c a ih =>
    have hnone : (if start then afterAssignment? (c :: (a ++ (w ++ b))) else none) = none := by
      cases hafter : (if start then afterAssignment? (c :: (a ++ (w ++ b))) else none) with
      | none => rfl
      | some r =>
        -- an assignment at the very start would be an earlier one
        rw [Option.ite_none_right_eq_some] at hafter
        obtain ⟨w', hw', heq⟩ := afterAssignment?_eq_some_iff.1 hafter.2
        exact absurd (hfirst [] w' r heq hafter.1 hw') (by simp)
    have hrest : setVersion? f (c == '\n') (a ++ (w ++ b)) = some (a ++ (f w ++ b)) := by
      refine ih hstart fun a' w' b' heq hline hw' => ?_
      exact Nat.le_of_succ_le_succ (hfirst (c :: a') w' b' (congrArg (c :: ·) heq) hline hw')
    simp only [List.cons_append, setVersion?, hnone, hrest, Option.map_some]

theorem FirstAssignment.setVersion?_eq {t a w b : Text} (h : FirstAssignment t a w b) (f : Text → Text) :
    setVersion? f true t = some (a ++ (f w ++ b)) := by
  rw [h.text_eq]
  refine Release.setVersion?_eq f (lineStarts_iff.2 h.starts_line) h.assigns fun a' w' b' heq hline hw' => ?_
  exact h.first ⟨h.text_eq.trans heq, lineStarts_iff.1 hline, hw'⟩

/-! ### Replacing the first assignment -/

/-- A part of an assignment that cannot end with a line, before which a new word does not start, lies in the lines before
that word or reaches behind them. -/
theorem exists_behind_part {u r z s : Text} (heq : u ++ r = z ++ s) (hz : z.getLast? = some '\n')
    (hs : s.head? = some 'v') (hu : '\n' ∉ u ∨ (u.getLast? ≠ some '\n' ∧ 'v' ∉ u)) :
    ∃ z', z = u ++ z' ∧ r = z' ++ s ∧ z'.getLast? = some '\n' := by
  have hmem : '\n' ∈ z := List.mem_of_getLast? hz
  rcases List.append_eq_append_iff.1 heq with ⟨z', rfl, hr⟩ | ⟨x, rfl, hsx⟩
  · refine ⟨z', rfl, hr, ?_⟩
    cases z' with
    | nil =>
      rw [List.append_nil] at hz hmem
      rcases hu with hu | ⟨hu, -⟩
      · exact absurd hmem hu
      · exact absurd hz hu
    | cons c z' => rwa [List.getLast?_append_of_ne_nil _ (List.cons_ne_nil c z')] at hz
  · rcases hu with hu | ⟨hlast, hv⟩
    · exact absurd (List.mem_append_left x hmem) hu
    · cases x with
      | nil =>
        rw [List.append_nil] at hlast
        exact absurd hz hlast
      | cons c x =>
        obtain rfl : c = 'v' := by simpa [hsx] using hs
        exact absurd (List.mem_append_right z List.mem_cons_self) hv

/-- Blanks and the sign behind them cannot. -/
theorem gap_part {g : Text} (hg : IsGap g) {d : Char} (hd : d ≠ '\n') (hv : d ≠ 'v') :
    (g ++ [d]).getLast? ≠ some '\n' ∧ 'v' ∉ g ++ [d] := by
  have hgap : 'v' ∉ g := hg.not_mem rfl
  simp [hd, hgap, Ne.symm hv]

/-- If lines start an assignment when a new word follows them, they start one when another assignment follows. -/
theorem IsAssignment.exists_before {w' b' z s w : Text} (hw' : IsAssignment w') (heq : w' ++ b' = z ++ s)
    (hz : z.getLast? = some '\n') (hs : s.head? = some 'v') (hw : IsAssignment w) (b : Text) :
    ∃ w'' b'', IsAssignment w'' ∧ z ++ (w ++ b) = w'' ++ b'' := by
  obtain ⟨g, g', q, hg, hg', hq, hquote, rfl⟩ := hw'
  rw [written_append] at heq
  obtain ⟨z₁, rfl, heq₁, hz₁⟩ := exists_behind_part heq hz hs (.inl (by decide))
  rw [List.append_cons] at heq₁
  obtain ⟨z₂, rfl, heq₂, hz₂⟩ := exists_behind_part heq₁ hz₁ hs (.inr (gap_part hg (by decide) (by decide)))
  rw [List.append_cons] at heq₂
  obtain ⟨z₃, rfl, heq₃, hz₃⟩ := exists_behind_part heq₂ hz₂ hs (.inr (gap_part hg' (by decide) (by decide)))
  by_cases hlt : q.length < z₃.length
  · -- it ends before the word
    obtain ⟨v, rfl, -⟩ := Text.split_within heq₃ hlt
    refine ⟨written g g' q, v ++ (w ++ b), ⟨g, g', q, hg, hg', hq, hquote, rfl⟩, ?_⟩
    rw [written_append]
    simp only [List.append_assoc, List.cons_append, List.nil_append]
  · -- its quoted text goes on, now up to the first quote mark of the other assignment
    obtain ⟨y, rfl⟩ : z₃ <+: q := List.prefix_of_prefix_length_le ⟨s, heq₃.symm⟩ (List.prefix_append q _) (by omega)
    obtain ⟨k, k', p, hk, hk', -, -, rfl⟩ := hw
    refine ⟨written g g' (z₃ ++ (keyword ++ (k ++ '=' :: k'))), p ++ '"' :: b, ⟨g, g', _, hg, hg', ?_, ?_, rfl⟩, ?_⟩
    · rintro hnil
      rw [(List.append_eq_nil_iff.1 hnil).1] at hz₃
      cases hz₃
    · have hkeyword : '"' ∉ keyword := by decide
      have hkquote : '"' ∉ k := hk.not_mem rfl
      have hkquote' : '"' ∉ k' := hk'.not_mem rfl
      have hzquote : '"' ∉ z₃ := fun hmem => hquote (List.mem_append_left y hmem)
      simp [hkeyword, hkquote, hkquote', hzquote]
    · rw [written_append, written_append]
      simp only [List.append_assoc, List.cons_append, List.nil_append]

/-- The first assignment stays the first when another one is put in its place. -/
theorem FirstAssignment.replace {t a w b w₂ : Text} (h : FirstAssignment t a w b) (hw₂ : IsAssignment w₂) :
    FirstAssignment (a ++ (w₂ ++ b)) a w₂ b := by
  refine ⟨⟨rfl, h.starts_line, hw₂⟩, fun {a' w' b'} hat => ?_⟩
  by_contra hlt
  obtain ⟨z, rfl⟩ : a' <+: a :=
    List.prefix_of_prefix_length_le ⟨w' ++ b', hat.text_eq.symm⟩ (List.prefix_append a _) (by omega)
  have hne : z ≠ [] := by
    rintro rfl
    simp at hlt
  have hz : z.getLast? = some '\n' := by
    have hlast := h.starts_line.resolve_left (by simp [hne])
    rwa [List.getLast?_append_of_ne_nil _ hne] at hlast
  have heq : w' ++ b' = z ++ (w₂ ++ b) := by
    have htext := hat.text_eq
    rw [List.append_assoc] at htext
    exact (List.append_cancel_left htext).symm
  obtain ⟨w'', b'', hw'', hold⟩ := hat.assigns.exists_before heq hz (hw₂.head?_append b) h.assigns b
  -- so the old text had an earlier assignment
  have hearlier : AssignmentAt t a' w'' b'' := by
    refine ⟨?_, hat.starts_line, hw''⟩
    rw [h.text_eq, List.append_assoc, hold]
  exact hlt (h.first hearlier)

/-! ### The assignment of a version -/

theorem assignment_eq (v : Text) : assignment v = written [' '] [' '] v := by
  have hstart : "version = \"".toList = keyword ++ [' ', '=', ' ', '"'] := rfl
  calc assignment v = "version = \"".toList ++ v ++ ['"'] := rfl
    _ = written [' '] [' '] v := by
      rw [hstart]
      simp only [written, List.append_assoc, List.cons_append, List.nil_append]

theorem isAssignment_assignment {v : Text} (hne : v ≠ []) (hquote : '"' ∉ v) : IsAssignment (assignment v) := by
  have hgap : IsGap [' '] := List.forall_mem_singleton.2 rfl
  exact ⟨[' '], [' '], v, hgap, hgap, hne, hquote, assignment_eq v⟩

theorem not_mem_assignment {c : Char} {v : Text} (hc : c ∉ keyword ++ [' ', '=', '"']) (hv : c ∉ v) :
    c ∉ assignment v := by
  rw [assignment_eq, written]
  simp_all

end ProblemLint.Release
