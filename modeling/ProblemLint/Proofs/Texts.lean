import ProblemLint.Text.Basic
import Mathlib.Data.List.TakeWhile
import Mathlib.Tactic

/-! Parts of texts: what is cut off at a character or a position, where a text is found in another one, and how two cuts
of one text lie to each other. -/

namespace ProblemLint

/-! ### Up to a character -/

theorem takeWhile_append_stop {p : Char → Bool} {w r : Text} (hw : ∀ c ∈ w, p c = true)
    (hr : r.head?.any p = false) : (w ++ r).takeWhile p = w := by
  rw [List.takeWhile_append_of_pos hw]
  cases r with
  | nil => simp
  | cons c r =>
    have hc : p c = false := hr
    simp [hc]

theorem dropWhile_append_stop {p : Char → Bool} {w r : Text} (hw : ∀ c ∈ w, p c = true)
    (hr : r.head?.any p = false) : (w ++ r).dropWhile p = r := by
  have hsplit := List.takeWhile_append_dropWhile (p := p) (l := w ++ r)
  rw [takeWhile_append_stop hw hr] at hsplit
  exact List.append_cancel_left hsplit

theorem head?_dropWhile_any (p : Char → Bool) (t : Text) : (t.dropWhile p).head?.any p = false := by
  rw [← List.find?_not_eq_head?_dropWhile]
  cases h : List.find? (fun c => !p c) t with
  | none => rfl
  | some c => simpa using List.find?_some h

/-- The longest part of a text whose characters satisfy `p`, by what is at its end. -/
theorem takeWhile_eq_iff {p : Char → Bool} {t w : Text} (hw : ∀ c ∈ w, p c = true) :
    t.takeWhile p = w ↔ t.take w.length = w ∧ t[w.length]?.any p = false := by
  constructor
  · rintro rfl
    have hdrop := @List.drop_left _ (t.takeWhile p) (t.dropWhile p)
    rw [List.takeWhile_append_dropWhile] at hdrop
    refine ⟨(List.prefix_iff_eq_take.1 (List.takeWhile_prefix p)).symm, ?_⟩
    rw [← List.head?_drop, hdrop, head?_dropWhile_any]
  · rintro ⟨htake, hnext⟩
    have hsplit := List.take_append_drop w.length t
    rw [htake] at hsplit
    rw [← hsplit, takeWhile_append_stop hw (by rwa [List.head?_drop])]

theorem drop_of_getElem? {t : Text} {i : Nat} {c : Char} (h : t[i]? = some c) : t.drop i = c :: t.drop (i + 1) := by
  obtain ⟨hi, rfl⟩ := List.getElem?_eq_some_iff.1 h
  exact List.drop_eq_getElem_cons hi

namespace Text

theorem takeWhile_ne_append {c : Char} {u r : Text} (h : c ∉ u) : (u ++ c :: r).takeWhile (· != c) = u :=
  takeWhile_append_stop (fun d hd => by simpa using fun hdc : d = c => h (hdc ▸ hd)) (by simp)

theorem dropWhile_ne_append {c : Char} {u r : Text} (h : c ∉ u) : (u ++ c :: r).dropWhile (· != c) = c :: r :=
  dropWhile_append_stop (fun d hd => by simpa using fun hdc : d = c => h (hdc ▸ hd)) (by simp)

theorem dropWhile_ne_eq_cons_iff {c : Char} {t r : Text} :
    t.dropWhile (· != c) = c :: r ↔ c ∉ t.takeWhile (· != c) ∧ t = t.takeWhile (· != c) ++ c :: r := by
  constructor
  · intro h
    refine ⟨fun hmem => ?_, ?_⟩
    · simpa using List.mem_takeWhile_imp hmem
    · rw [← h, List.takeWhile_append_dropWhile]
  · rintro ⟨-, h⟩
    have hsplit := List.takeWhile_append_dropWhile (p := (· != c)) (l := t)
    exact List.append_cancel_left (hsplit.trans h)

/-! ### Positions -/

/-- The character before a position of a text. -/
def before? (t : Text) (pos : Nat) : Option Char := (t.take pos).getLast?

theorem before?_succ {t : Text} {pos : Nat} (h : pos < t.length) : t.before? (pos + 1) = t[pos]? := by
  rw [before?, List.take_add_one, List.getElem?_eq_getElem h, Option.toList_some, List.getLast?_concat]

theorem before?_drop {t : Text} {start pos : Nat} (hpos : 0 < pos) (hle : start + pos ≤ t.length) :
    before? (t.drop start) pos = t.before? (start + pos) := by
  obtain ⟨n, rfl⟩ := Nat.exists_eq_add_of_lt hpos
  rw [Nat.zero_add, ← Nat.add_assoc, before?_succ (by rw [List.length_drop]; omega), before?_succ (by omega),
    List.getElem?_drop]

theorem mem_take_drop {t : Text} {pos start size : Nat} {c : Char} (h : t[pos]? = some c) (hle : start ≤ pos)
    (hlt : pos < start + size) : c ∈ (t.drop start).take size := by
  refine List.mem_of_getElem? (i := pos - start) ?_
  rw [List.getElem?_take_of_lt (by omega), List.getElem?_drop, Nat.add_sub_cancel' hle, h]

theorem slice_natCast (t : Text) (a b : Nat) : slice t a b = (t.drop a).take (b - a) := by
  have hclamp (i : Nat) : clamp t.length i = min i t.length := by
    rw [clamp, if_neg (by omega), Int.toNat_natCast]
  simp only [slice, hclamp]
  rcases Nat.le_total t.length a with ha | ha
  · rw [List.drop_eq_nil_of_le ha, List.drop_eq_nil_of_le (by omega), List.take_nil, List.take_nil]
  · rw [Nat.min_eq_left ha]
    rcases Nat.le_total t.length b with hb | hb
    · rw [List.take_of_length_le (by simp; omega), List.take_of_length_le (by simp; omega)]
    · rw [Nat.min_eq_left hb]

theorem mem_of_mem_slice {c : Char} {t : Text} {i j : Int} (h : c ∈ slice t i j) : c ∈ t :=
  List.mem_of_mem_drop (List.mem_of_mem_take h)

theorem eq_take_append {t u : Text} {p : Nat} (h : t.drop p = u) : t = t.take p ++ u := by
  rw [← h, List.take_append_drop]

theorem readFrom?_natCast (t : Text) (n : Nat) : readFrom? t n = some (t.drop n) := by
  rw [readFrom?, if_pos (Int.natCast_nonneg n), Int.toNat_natCast]

/-- A position that counts from the end is one in the text that is written twice. -/
theorem readFrom?_of_neg {t : Text} {i : Int} (hlow : -t.length ≤ i) (hneg : i < 0) :
    readFrom? t i = readFrom? (t ++ t) (i + t.length) := by
  rw [readFrom?, if_neg (by omega), if_pos (by omega), readFrom?, if_pos (by omega),
    List.drop_append_of_le_length (by omega)]

/-- Behind the first character that is read, reading goes on from the next position. -/
theorem readFrom?_succ {t r : Text} {c : Char} {i : Int} (h : readFrom? t i = some (c :: r)) :
    readFrom? t (i + 1) = some r := by
  have hnat {u : Text} {n : Nat} (h : readFrom? u n = some (c :: r)) : readFrom? u (n + 1 : Nat) = some r := by
    rw [readFrom?_natCast, Option.some_inj] at h ⊢
    rw [← List.drop_drop, h]
    rfl
  rcases lt_or_ge i 0 with hneg | hpos
  · have hlow : -t.length ≤ i := by
      by_contra hlow
      rw [readFrom?, if_neg (by omega), if_neg (by omega)] at h
      cases h
    obtain ⟨n, hn⟩ := Int.eq_ofNat_of_zero_le (show 0 ≤ i + t.length by omega)
    rw [readFrom?_of_neg hlow hneg, hn] at h
    have hnext := hnat h
    rcases lt_or_ge (i + 1) 0 with hneg' | hpos'
    · rwa [readFrom?_of_neg (by omega) hneg', show i + 1 + t.length = (n + 1 : Nat) by omega]
    · -- the last character was read, and the text begins once more
      obtain rfl : i = -1 := by omega
      have hlast : n + 1 = t.length := by omega
      rwa [readFrom?_natCast, hlast, List.drop_left] at hnext
  · obtain ⟨n, rfl⟩ := Int.eq_ofNat_of_zero_le hpos
    exact hnat h

/-! ### Two cuts of one text -/

/-- A character that is not in the first part of a text stands in the second one. -/
theorem split_behind {u v p q : Text} {c : Char} (h : u ++ c :: v = p ++ q) (hc : c ∉ p) :
    ∃ u', u = p ++ u' ∧ q = u' ++ c :: v := by
  rcases List.append_eq_append_iff.1 h with ⟨w, rfl, hw⟩ | ⟨w, rfl, hw⟩
  · cases w with
    | nil => exact ⟨[], by simp, by simpa using hw.symm⟩
    | cons d w =>
      obtain ⟨rfl, -⟩ := List.cons.inj hw
      exact absurd (List.mem_append_right u List.mem_cons_self) hc
  · exact ⟨w, rfl, hw⟩

/-- A character that stands in the first part of a text. -/
theorem split_within {u v p q : Text} {c : Char} (h : u ++ c :: v = p ++ q) (hlt : u.length < p.length) :
    ∃ v', p = u ++ c :: v' ∧ v = v' ++ q := by
  rcases List.append_eq_append_iff.1 h with ⟨w, rfl, hw⟩ | ⟨w, rfl, -⟩
  · cases w with
    | nil =>
      rw [List.append_nil] at hlt
      exact absurd hlt (Nat.lt_irrefl _)
    | cons d w =>
      obtain ⟨rfl, rfl⟩ := List.cons.inj hw
      exact ⟨w, rfl, rfl⟩
  · rw [List.length_append] at hlt
    omega

/-- A character that is not in the second part of a text stands in the first one. -/
theorem split_before {u v p q : Text} {c : Char} (h : u ++ c :: v = p ++ q) (hc : c ∉ q) :
    ∃ v', p = u ++ c :: v' ∧ v = v' ++ q := by
  refine split_within h (Nat.lt_of_not_le fun hle => hc ?_)
  rcases List.append_eq_append_iff.1 h with ⟨w, rfl, hw⟩ | ⟨w, rfl, hw⟩
  · rw [List.length_append] at hle
    obtain rfl : w = [] := List.eq_nil_of_length_eq_zero (by omega)
    rw [List.nil_append] at hw
    exact hw ▸ List.mem_cons_self
  · exact hw ▸ List.mem_append_right w List.mem_cons_self

/-! ### Texts in texts -/

theorem after?_eq_some_iff {lead t r : Text} : after? lead t = some r ↔ t = lead ++ r := by
  rw [after?, List.isPrefixOf?_eq_some_iff_append_eq, eq_comm]

theorem after?_cons (c : Char) (r : Text) : after? [c] (c :: r) = some r := after?_eq_some_iff.2 rfl

theorem find?_eq_none {needle t : Text} (h : find? needle t = none) : ¬ List.IsInfix needle t := by
  induction t with
  | nil =>
    rw [find?] at h
    rw [List.infix_nil]
    rintro rfl
    simp at h
  | cons c r ih =>
    rw [find?] at h
    rw [List.infix_cons_iff, not_or]
    split at h
    · cases h
    · next hlead =>
      exact ⟨fun hlead' => hlead (List.isPrefixOf_iff_prefix.2 hlead'), ih (Option.map_eq_none_iff.1 h)⟩

theorem find?_eq_some {needle t : Text} {n : Nat} (h : find? needle t = some n) : List.IsPrefix needle (t.drop n) := by
  induction t generalizing n with
  | nil =>
    rw [find?] at h
    split at h
    · next hempty =>
      rw [List.isEmpty_iff.1 hempty]
      exact List.nil_prefix
    · cases h
  | cons c r ih =>
    rw [find?] at h
    split at h
    · next hlead =>
      cases h
      exact List.isPrefixOf_iff_prefix.1 hlead
    · obtain ⟨m, hm, rfl⟩ := Option.map_eq_some_iff.1 h
      exact ih hm

theorem isSome_find?_iff {needle t : Text} : (find? needle t).isSome = true ↔ List.IsInfix needle t := by
  cases hfound : find? needle t with
  | none => exact iff_of_false (by decide) (find?_eq_none hfound)
  | some n => exact iff_of_true rfl ((find?_eq_some hfound).isInfix.trans (List.drop_suffix n t).isInfix)

end Text

/-! ### Sorted names -/

theorem mem_eraseReps_iff {n : String} {names : List String} : n ∈ names.eraseReps ↔ n ∈ names := by
  -- the loop keeps the name that it holds, those ahead of it and those that it has put down
  have hloop (a : String) (l acc : List String) :
      n ∈ List.eraseRepsBy.loop (· == ·) a l acc ↔ n = a ∨ n ∈ l ∨ n ∈ acc := by
    induction l generalizing a acc with
    | nil => simp [List.eraseRepsBy.loop, or_comm]
    | cons b l ih =>
      unfold List.eraseRepsBy.loop
      split
      · next heq =>
        obtain rfl : a = b := beq_iff_eq.1 heq
        rw [ih, List.mem_cons]
        tauto
      · rw [ih, List.mem_cons, List.mem_cons]
        tauto
  cases names with
  | nil => exact Iff.rfl
  | cons a l =>
    have hnames := hloop a l []
    rwa [or_iff_left List.not_mem_nil, ← List.mem_cons] at hnames

theorem mem_sortedNames_iff {n : String} {names : List String} : n ∈ sortedNames names ↔ n ∈ names :=
  mem_eraseReps_iff.trans (List.mergeSort_perm names _).mem_iff

end ProblemLint
