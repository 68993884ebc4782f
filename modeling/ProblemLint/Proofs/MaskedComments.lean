import ProblemLint.Proofs.Quotes

/-! Comments and masks. The search for a comment and the mask of a line follow the quotes of the line each for itself: the
search asks for quote marks first, the mask asks first whether it is in quotes. Both go on as the quote machine does, so
they agree: a comment starts at the first number sign that the mask leaves open, so that nothing is left to strip in a
stripped line, and its mask is that of the line as far as it goes. -/

namespace ProblemLint

/-- A number sign that the mask leaves open, for a reader that starts with given flags. -/
def OpenSign (f : QuoteFlags) (l : Text) (i : Nat) : Prop := l[i]? = some '#' ∧ (maskFrom f l)[i]? = some false

theorem openSign_zero {s : QuoteState} {c : Char} {r : Text} :
    OpenSign s.flags (c :: r) 0 ↔ (s.inCode && c == '#') = true := by
  simp only [OpenSign, maskFrom_step, List.getElem?_cons_zero, Option.some.injEq, Bool.and_eq_true, beq_iff_eq]
  constructor
  · rintro ⟨rfl, hmask⟩
    exact ⟨by simpa [QuoteState.masks, isMark] using hmask, rfl⟩
  · rintro ⟨hcode, rfl⟩
    simp [QuoteState.masks, isMark, hcode]

theorem openSign_succ {s : QuoteState} {c : Char} {r : Text} {i : Nat} :
    OpenSign s.flags (c :: r) (i + 1) ↔ OpenSign (s.step c).flags r i := by
  simp only [OpenSign, maskFrom_step, List.getElem?_cons_succ]

theorem commentFrom?_of_openSign {s : QuoteState} {l : Text} {n : Nat} (hopen : OpenSign s.flags l n)
    (hfirst : ∀ i < n, ¬ OpenSign s.flags l i) : commentFrom? s.flags l = some n := by
  induction l generalizing s n with
  | nil => simp [OpenSign] at hopen
  | cons c r ih =>
    cases n with
    | zero => rw [commentFrom?_step, if_pos (openSign_zero.1 hopen)]
    | succ n =>
      have hcode : ¬ (s.inCode && c == '#') = true := fun h => hfirst 0 n.succ_pos (openSign_zero.2 h)
      have hrest : ∀ i < n, ¬ OpenSign (s.step c).flags r i := fun i hi h =>
        hfirst (i + 1) (Nat.succ_lt_succ hi) (openSign_succ.2 h)
      rw [commentFrom?_step, if_neg hcode, ih (openSign_succ.1 hopen) hrest]
      rfl

theorem commentFrom?_of_no_openSign {s : QuoteState} {l : Text} (h : ∀ i, ¬ OpenSign s.flags l i) :
    commentFrom? s.flags l = none := by
  induction l generalizing s with
  | nil => rfl
  | cons c r ih =>
    have hcode : ¬ (s.inCode && c == '#') = true := fun hsign => h 0 (openSign_zero.2 hsign)
    rw [commentFrom?_step, if_neg hcode, ih fun i hi => h (i + 1) (openSign_succ.2 hi)]
    rfl

/-! ### What is left of a line -/

theorem commentFrom?_cut {s : QuoteState} {l : Text} {n : Nat} (h : commentFrom? s.flags l = some n) {e : Text}
    (he : '#' ∉ e) : commentFrom? s.flags (l.take n ++ e) = none := by
  induction l generalizing s n with
  | nil => cases h
  | cons c r ih =>
    rw [commentFrom?_step] at h
    split at h
    · cases h
      exact commentFrom?_eq_none he
    · next hcode =>
      obtain ⟨m, hm, rfl⟩ := Option.map_eq_some_iff.1 h
      rw [List.take_succ_cons, List.cons_append, commentFrom?_step, if_neg hcode, ih hm]
      rfl

/-- Up to the cut the mask stays, and a line feed in the place of the number sign is open as that was. -/
theorem maskFrom_cut {s : QuoteState} {l : Text} {n : Nat} (h : commentFrom? s.flags l = some n) {e : Text}
    (he : e = [] ∨ e = ['\n']) : maskFrom s.flags (l.take n ++ e) = (maskFrom s.flags l).take (l.take n ++ e).length := by
  induction l generalizing s n with
  | nil => cases h
  | cons c r ih =>
    rw [commentFrom?_step] at h
    split at h
    · next hcode =>
      cases h
      rw [Bool.and_eq_true_iff, beq_iff_eq] at hcode
      obtain ⟨hcode, rfl⟩ := hcode
      have hopen {c : Char} (hc : isMark c = false) : s.masks c = false := by simp [QuoteState.masks, hcode, hc]
      rcases he with rfl | rfl
      · rfl
      · rw [List.take_zero, List.nil_append, maskFrom_step, maskFrom_step, hopen rfl, hopen rfl]
        rfl
    · obtain ⟨m, hm, rfl⟩ := Option.map_eq_some_iff.1 h
      rw [List.take_succ_cons, List.cons_append, List.length_cons, maskFrom_step, maskFrom_step,
        List.take_succ_cons, ih hm]

theorem maskFrom_append (f : QuoteFlags) (a b : Text) : (maskFrom f (a ++ b)).take a.length = maskFrom f a := by
  induction a generalizing f with
  | nil => rfl
  | cons c a ih =>
    simp only [List.cons_append, List.length_cons, maskFrom]
    cases f.byPlace? c with
    | none => rw [List.take_succ_cons, ih]
    | some f => rw [List.take_succ_cons, ih]

theorem stripComment_cases (l : Text) :
    (commentFrom? {} l = none ∧ stripComment l = l) ∨
      ∃ n e, commentFrom? {} l = some n ∧ (e = [] ∨ e = ['\n']) ∧ stripComment l = l.take n ++ e := by
  unfold stripComment
  split
  · next h => exact .inl ⟨h, rfl⟩
  · next n h => exact .inr ⟨n, _, h, by split <;> simp, rfl⟩

theorem stripComment_of_none {l : Text} (h : commentFrom? {} l = none) : stripComment l = l := by
  rw [stripComment, h]

theorem commentFrom?_stripComment (l : Text) : commentFrom? {} (stripComment l) = none := by
  rcases stripComment_cases l with ⟨hnone, hstrip⟩ | ⟨n, e, hsome, he, hstrip⟩
  · rw [hstrip, hnone]
  · rw [hstrip]
    refine commentFrom?_cut (s := {}) hsome ?_
    rcases he with rfl | rfl <;> decide

theorem mask_stripComment (l : Text) : mask (stripComment l) = (mask l).take (stripComment l).length := by
  rcases stripComment_cases l with ⟨-, hstrip⟩ | ⟨n, e, hsome, he, hstrip⟩
  · have hall := maskFrom_append {} l []
    rw [List.append_nil] at hall
    rw [hstrip, mask, hall]
  · rw [hstrip]
    exact maskFrom_cut (s := {}) hsome he

/-- A line without open number signs is stripped to itself, and another one is cut before the first of them, but keeps a
line feed at its end. What is left is stripped to itself, and every part from its start on is masked as in the line. -/
theorem stripComment_cuts (l : Text) :
    ((∀ i, ¬ OpenSign {} l i) → stripComment l = l) ∧
      (∀ i, OpenSign {} l i → (∀ j < i, ¬ OpenSign {} l j) →
        stripComment l = l.take i ++ if l.getLast? = some '\n' then ['\n'] else []) ∧
      stripComment (stripComment l) = stripComment l ∧
      ∀ w, w <+: stripComment l → mask w = (mask l).take w.length := by
  refine ⟨fun h => stripComment_of_none (commentFrom?_of_no_openSign (s := {}) h), ?_, ?_, ?_⟩
  · intro i hopen hfirst
    have hcut : commentFrom? {} l = some i := commentFrom?_of_openSign (s := {}) hopen hfirst
    rw [stripComment, hcut]
    simp only [Text.endsWithNewline, beq_iff_eq]
  · exact stripComment_of_none (commentFrom?_stripComment l)
  · rintro w ⟨r, hr⟩
    have hlength : w.length ≤ (stripComment l).length := by rw [← hr, List.length_append]; omega
    calc mask w = (mask (stripComment l)).take w.length := by rw [← hr, mask, mask, maskFrom_append]
      _ = (mask l).take w.length := by rw [mask_stripComment, List.take_take, Nat.min_eq_left hlength]

/-- A number sign in quotes behind a hidden quote mark, a hidden one outside of quotes, and then a comment. -/
theorem stripComment_cuts_hidden :
    (OpenSign {} "'\\'#' \\# # a'\n".toList 9 ∧ ∀ j < 9, ¬ OpenSign {} "'\\'#' \\# # a'\n".toList j) ∧
      stripComment "'\\'#' \\# # a'\n".toList = "'\\'#' \\# \n".toList := by
  have hopen : OpenSign {} "'\\'#' \\# # a'\n".toList 9 := ⟨rfl, rfl⟩
  have hfirst : ∀ j < 9, ¬ OpenSign {} "'\\'#' \\# # a'\n".toList j := by unfold OpenSign; decide
  exact ⟨⟨hopen, hfirst⟩, (stripComment_cuts _).2.1 9 hopen hfirst⟩

end ProblemLint
