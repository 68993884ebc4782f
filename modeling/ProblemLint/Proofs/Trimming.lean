import ProblemLint.Proofs.Texts
import ProblemLint.Text.Blank
import Mathlib.Data.List.DropRight
import Mathlib.Tactic

/-! Trimming. A trimmed text stays as it is when it is trimmed again, and blanks after a text do not
matter. All other characters are kept. -/

namespace ProblemLint.Text

theorem dropEndWhile_eq (p : Char → Bool) (t : Text) : dropEndWhile p t = t.rdropWhile p := by
  induction t with
  | nil => rfl
  | cons c r ih =>
    simp only [dropEndWhile, ih, List.rdropWhile, List.reverse_cons, List.dropWhile_append,
      List.isEmpty_iff]
    cases h : r.reverse.dropWhile p with
    | nil => cases hc : p c <;> simp [List.dropWhile, hc]
    | cons d u => simp

theorem trimEnd_prefix (t : Text) : List.IsPrefix (trimEnd t) t := by
  rw [trimEnd, dropEndWhile_eq]
  exact List.rdropWhile_prefix _ _

theorem trimStart_suffix (t : Text) : List.IsSuffix (trimStart t) t := List.dropWhile_suffix _

theorem trimEnd_trimEnd (t : Text) : trimEnd (trimEnd t) = trimEnd t := by
  simp only [trimEnd, dropEndWhile_eq, List.rdropWhile_idempotent]

theorem trimEnd_append_blank {c : Char} (hc : isBlank c = true) (t : Text) :
    trimEnd (t ++ [c]) = trimEnd t := by
  simp only [trimEnd, dropEndWhile_eq]
  exact List.rdropWhile_concat_pos _ _ _ hc

theorem trimEnd_append_blanks {g : Text} (h : ∀ c ∈ g, isBlank c = true) (t : Text) : trimEnd (t ++ g) = trimEnd t := by
  induction g generalizing t with
  | nil => rw [List.append_nil]
  | cons c g ih =>
    obtain ⟨hc, hg⟩ := List.forall_mem_cons.1 h
    rw [List.append_cons, ih hg, trimEnd_append_blank hc]

theorem not_isBlank_of_trimStart {t r : Text} {c : Char} (h : trimStart t = c :: r) : isBlank c = false := by
  have := List.head?_dropWhile_not isBlank t
  rw [← trimStart, h] at this
  exact this

/-- What is left after trimming at the start has no blank in front, also after trimming at the end. -/
theorem trimStart_trim (t : Text) : trimStart (trim t) = trim t := by
  unfold trim
  cases h : trimEnd (trimStart t) with
  | nil => rfl
  | cons c r =>
    obtain ⟨u, hu⟩ := trimEnd_prefix (trimStart t)
    rw [h] at hu
    have hc : isBlank c = false := not_isBlank_of_trimStart hu.symm
    simp [trimStart, hc]

theorem trim_trim (t : Text) : trim (trim t) = trim t := by
  rw [trim, trimStart_trim, trim, trimEnd_trimEnd]

/-- Nothing is left of white space only. -/
theorem trim_eq_nil_iff {t : Text} : trim t = [] ↔ isAllBlank t = true := by
  rw [trim, trimEnd, dropEndWhile_eq, List.rdropWhile_eq_nil_iff, isAllBlank, List.all_eq_true]
  constructor
  · intro h
    -- what is left at the start would have to begin with a blank
    have hstart : trimStart t = [] := by
      cases hstart : trimStart t with
      | nil => rfl
      | cons c r =>
        have hc := h c (by simp [hstart])
        rw [not_isBlank_of_trimStart hstart] at hc
        cases hc
    exact List.dropWhile_eq_nil_iff.1 hstart
  · intro h c hc
    exact h c ((trimStart_suffix t).subset hc)

theorem trimStart_of_trim {t : Text} (h : trim t = t) : trimStart t = t := by
  rw [← h, trimStart_trim]

theorem trimEnd_of_trim {t : Text} (h : trim t = t) : trimEnd t = t := by
  rw [← h, trim, trimEnd_trimEnd]

/-- A text without blanks at its ends is trimmed. -/
theorem trim_eq_self {t : Text} (hstart : t.head?.any isBlank = false) (hend : t.getLast?.any isBlank = false) :
    trim t = t := by
  have hdrop : trimStart t = t := by
    cases t with
    | nil => rfl
    | cons c r => exact List.dropWhile_cons_of_neg (by simpa using hstart)
  rw [trim, hdrop, trimEnd, dropEndWhile_eq, List.rdropWhile_eq_self_iff]
  intro hne
  simpa [List.getLast?_eq_some_getLast hne] using hend

/-- A blank after a trimmed text is trimmed away. -/
theorem trim_append_blank {t : Text} (h : trim t = t) {c : Char} (hc : isBlank c = true) :
    trim (t ++ [c]) = t := by
  cases t with
  | nil => simp [trim, trimStart, hc, trimEnd, dropEndWhile]
  | cons d r =>
    have hd : isBlank d = false := not_isBlank_of_trimStart (trimStart_of_trim h)
    have hstart : trimStart (d :: r ++ [c]) = d :: r ++ [c] := by simp [trimStart, hd]
    rw [trim, hstart, trimEnd_append_blank hc, trimEnd_of_trim h]

theorem trimEnd_append {a b : Text} (h : trimEnd b ≠ []) : trimEnd (a ++ b) = a ++ trimEnd b := by
  induction a with
  | nil => rfl
  | cons c a ih =>
    rw [trimEnd, List.cons_append, dropEndWhile, ← trimEnd, ih]
    split
    · next hnil => exact absurd (List.append_eq_nil_iff.1 hnil).2 h
    · rfl

theorem trimEnd_cons {c : Char} (hc : isBlank c = false) (r : Text) : trimEnd (c :: r) = c :: trimEnd r := by
  rw [trimEnd, dropEndWhile, ← trimEnd]
  split
  · next hnil => rw [hc, hnil, if_neg Bool.false_ne_true]
  · rfl

theorem trim_append_singleton {c : Char} (hc : isBlank c = true) (t : Text) : trim (t ++ [c]) = trim t := by
  unfold trim trimStart
  rw [List.dropWhile_append]
  split
  · next hnil => rw [List.isEmpty_iff.1 hnil, List.dropWhile_cons_of_pos hc, List.dropWhile_nil]
  · exact trimEnd_append_blank hc _

/-! ### What stays -/

theorem count_trimEnd {c : Char} (hc : isBlank c = false) (t : Text) : (trimEnd t).count c = t.count c := by
  induction t with
  | nil => rfl
  | cons d r ih =>
    rw [trimEnd, dropEndWhile, ← trimEnd]
    split
    · next hnil =>
      rw [hnil] at ih
      split
      · next hd =>
        have hne : d ≠ c := by
          rintro rfl
          rw [hc] at hd
          cases hd
        rw [List.count_cons_of_ne hne, ← ih]
      · rw [List.count_cons, List.count_cons, ← ih]
    · rw [List.count_cons, List.count_cons, ih]

theorem count_trim {c : Char} (hc : isBlank c = false) (t : Text) : (trim t).count c = t.count c := by
  have hstart : (t.takeWhile isBlank).count c = 0 := by
    rw [List.count_eq_zero]
    intro hmem
    have := List.mem_takeWhile_imp hmem
    rw [hc] at this
    cases this
  conv_rhs => rw [← List.takeWhile_append_dropWhile (p := isBlank) (l := t)]
  rw [trim, count_trimEnd hc, trimStart, List.count_append, hstart, Nat.zero_add]

theorem mem_of_mem_trimEnd {c : Char} {t : Text} (h : c ∈ trimEnd t) : c ∈ t := ( trimEnd_prefix t).subset h

theorem mem_of_mem_trim {c : Char} {t : Text} (h : c ∈ trim t) : c ∈ t :=
  (trimStart_suffix t).subset (mem_of_mem_trimEnd h)

theorem mem_trimEnd {c : Char} {t : Text} (h : c ∈ t) (hc : isBlank c = false) : c ∈ trimEnd t := by
  rw [← List.count_pos_iff, count_trimEnd hc]
  exact List.count_pos_iff.2 h

theorem mem_trim {c : Char} {t : Text} (h : c ∈ t) (hc : isBlank c = false) : c ∈ trim t := by
  rw [← List.count_pos_iff, count_trim hc]
  exact List.count_pos_iff.2 h

theorem exists_not_blank {t : Text} (h : trim t ≠ []) : ∃ c ∈ t, isBlank c = false := by
  obtain ⟨c, r, hcons⟩ := List.exists_cons_of_ne_nil h
  refine ⟨c, mem_of_mem_trim (hcons ▸ List.mem_cons_self), ?_⟩
  exact not_isBlank_of_trimStart ((trimStart_trim t).trans hcons)

/-! ### White space only -/

/-- White space only. -/
def IsGap (g : Text) : Prop := ∀ c ∈ g, isBlank c = true

theorem IsGap.append {g g' : Text} (h : IsGap g) (h' : IsGap g') : IsGap (g ++ g') :=
  List.forall_mem_append.2 ⟨h, h'⟩

theorem IsGap.not_mem {g : Text} (h : IsGap g) {c : Char} (hc : isBlank c = false) : c ∉ g := by
  intro hmem
  rw [h c hmem] at hc
  cases hc

theorem IsGap.trimStart_append {g r : Text} (h : IsGap g) (hr : r.head?.any isBlank = false) :
    trimStart (g ++ r) = r := dropWhile_append_stop h hr

theorem exists_gap (t : Text) : ∃ g, IsGap g ∧ t = g ++ trimStart t :=
  ⟨t.takeWhile isBlank, fun _ => List.mem_takeWhile_imp, List.takeWhile_append_dropWhile.symm⟩

theorem head?_trimStart_eq_some_iff {c : Char} (hc : isBlank c = false) {t : Text} :
    (trimStart t).head? = some c ↔ ∃ gap r, IsGap gap ∧ t = gap ++ c :: r := by
  constructor
  · intro h
    obtain ⟨r, hr⟩ := List.head?_eq_some_iff.1 h
    obtain ⟨gap, hgap, ht⟩ := exists_gap t
    exact ⟨gap, r, hgap, hr ▸ ht⟩
  · rintro ⟨gap, r, hgap, rfl⟩
    rw [hgap.trimStart_append (by simpa using hc), List.head?_cons]

end ProblemLint.Text
