import ProblemLint.Proofs.Matching
import ProblemLint.Proofs.Occurrences

/-! Patterns that leave no choice. A literal text is there or not, and a run that must end before a character of another
kind is as long as it can be. A pattern made of such parts only recognises something: whether it matches at a place, and
how many characters it takes, depends on the character before and the text from there on. Its matches are then the
occurrences of what it recognises. -/

namespace ProblemLint

namespace Cursor

theorem skip_passed (n : Nat) (c : Cursor) : (c.skip n).passed = (c.after.take n).reverse ++ c.passed := by
  induction n generalizing c with
  | zero => rfl
  | succ n ih =>
    obtain ⟨passed, pos, after⟩ := c
    cases after with
    | nil => rfl
    | cons x r =>
      rw [skip, ih]
      simp

theorem skip_after (n : Nat) (c : Cursor) : (c.skip n).after = c.after.drop n := by
  induction n generalizing c with
  | zero => rfl
  | succ n ih =>
    obtain ⟨passed, pos, after⟩ := c
    cases after with
    | nil => rfl
    | cons x r => exact ih ⟨x :: passed, pos + 1, r⟩

theorem skip_pos {n : Nat} {c : Cursor} (h : n ≤ c.after.length) : (c.skip n).pos = c.pos + n := by
  induction n generalizing c with
  | zero => rfl
  | succ n ih =>
    obtain ⟨passed, pos, after⟩ := c
    cases after with
    | nil => simp at h
    | cons x r =>
      rw [skip, ih (Nat.le_of_succ_le_succ h), Nat.add_assoc, Nat.add_comm 1]

theorem skip_add (m n : Nat) (c : Cursor) : c.skip (m + n) = (c.skip m).skip n := by
  induction m generalizing c with
  | zero => rw [Nat.zero_add, skip]
  | succ m ih =>
    obtain ⟨passed, pos, after⟩ := c
    rw [Nat.add_right_comm]
    cases after with
    | nil => cases n <;> rfl
    | cons x r => exact ih ⟨x :: passed, pos + 1, r⟩

/-- If a test fails at every place where a run could go on, only the end of the run is left to try. -/
theorem findSome?_reachFrom {β : Type} {accept : Char → Bool} {f : Cursor → Option β}
    (hf : ∀ e x r, e.after = x :: r → accept x = true → f e = none) {seen : List Cursor}
    (hseen : ∀ e ∈ seen, f e = none) (passed : Text) (pos : Nat) (after : Text) :
    (reachFrom accept seen passed pos none after).findSome? f =
      f (skip (after.takeWhile accept).length ⟨passed, pos, after⟩) := by
  have hlast (e : Cursor) {seen : List Cursor} (hseen : ∀ e ∈ seen, f e = none) : (e :: seen).findSome? f = f e := by
    rw [List.findSome?_cons]
    cases he : f e with
    | none => exact List.findSome?_eq_none_iff.2 hseen
    | some b => rfl
  induction after generalizing seen passed pos with
  | nil => exact hlast _ hseen
  | cons x r ih =>
    unfold reachFrom
    by_cases hx : accept x = true
    · rw [if_pos (by simpa using hx), List.takeWhile_cons_of_pos hx]
      exact ih (List.forall_mem_cons.2 ⟨hf _ x r rfl hx, hseen⟩) (x :: passed) (pos + 1)
    · rw [if_neg (by simpa using hx), List.takeWhile_cons_of_neg hx]
      exact hlast _ hseen

end Cursor

namespace Pattern

variable {size : Nat} {c : Cursor} {cs : Captures} {k : Rest}

theorem attempt_literal (s : Text) :
    attempt size (literal s) c cs k = if List.IsPrefix s c.after then k (c.skip s.length) cs else none := by
  induction s generalizing c with
  | nil => rw [if_pos List.nil_prefix]; rfl
  | cons x s ih =>
    obtain ⟨passed, pos, after⟩ := c
    cases after with
    | nil =>
      rw [if_neg (by simp)]
      rfl
    | cons y r =>
      rw [show literal (x :: s) = .seq (.one (· == x)) (literal s) from rfl]
      by_cases hxy : x = y
      · subst hxy
        simp [attempt, Cursor.step?, ih, List.cons_prefix_cons, Cursor.skip]
      · simp [attempt, Cursor.step?, List.cons_prefix_cons, hxy, Ne.symm hxy]

/-- A run as long as possible leaves no choice, if what comes after it cannot begin with one of its characters. -/
theorem attempt_many {accept : Char → Bool} (hk : ∀ e x r, e.after = x :: r → accept x = true → k e cs = none) :
    attempt size (many accept) c cs k = k (c.skip (c.after.takeWhile accept).length) cs := by
  show (Cursor.reachFrom accept [] c.passed c.pos none c.after).findSome? (k · cs) = _
  exact Cursor.findSome?_reachFrom hk (by simp) c.passed c.pos c.after

/-! ### Recognisers -/

/-- The pattern matches just where a number of characters is recognised, and takes as many, one or more. -/
structure Recognises (p : Pattern) (length? : Option Char → Text → Option Nat) : Prop where
  matchAt? : ∀ size c, p.matchAt? size false c =
    (length? c.before c.after).map fun n => (⟨c.pos, c.pos + n, c.after.take n, []⟩, c.skip n)
  bounds : ∀ before u n, length? before u = some n → 0 < n ∧ n ≤ u.length

/-- A pattern that leaves no choice, whatever comes after it, recognises something. -/
theorem Recognises.of_attempt {p : Pattern} {length? : Option Char → Text → Option Nat}
    (hattempt : ∀ size c cs k, attempt size p c cs k = (length? c.before c.after).bind fun n => k (c.skip n) cs)
    (hbounds : ∀ before u n, length? before u = some n → 0 < n ∧ n ≤ u.length) : p.Recognises length? := by
  refine ⟨fun size c => ?_, hbounds⟩
  rw [Pattern.matchAt?, hattempt]
  cases hn : length? c.before c.after with
  | none => rfl
  | some n =>
    have hpos := Cursor.skip_pos (hbounds c.before c.after n hn).2
    simp [hpos]

/-- A recogniser of lengths, as the scan for occurrences takes it: it gives the length itself. -/
def lengthFound (length? : Option Char → Text → Option Nat) (before : Option Char) (u : Text) : Option (Nat × Nat) :=
  (length? before u).map fun n => (n, n)

def SpottedAt (length? : Option Char → Text → Option Nat) (t : Text) (pos : Nat) : Prop :=
  (length? (t.before? pos) (t.drop pos)).isSome = true

theorem occurrencesFrom_cursor {α : Type} (find : Option Char → Text → Option (α × Nat)) {n : Nat} {c : Cursor}
    (h : n ≤ c.after.length) :
    occurrencesFrom find n c.before c.pos c.after =
      occurrencesFrom find 0 (c.skip n).before (c.skip n).pos (c.skip n).after := by
  induction n generalizing c with
  | zero => rfl
  | succ n ih =>
    obtain ⟨passed, pos, after⟩ := c
    cases after with
    | nil => simp at h
    | cons x r => exact ih (c := ⟨x :: passed, pos + 1, r⟩) (Nat.le_of_succ_le_succ h)

namespace Recognises

variable {p : Pattern} {length? : Option Char → Text → Option Nat} (h : p.Recognises length?)

include h

theorem length?_nil (before : Option Char) : length? before [] = none := by
  cases hn : length? before [] with
  | none => rfl
  | some n =>
    obtain ⟨hpos, hle⟩ := h.bounds before [] n hn
    simp at hle
    omega

theorem searchFrom?_eq_none {passed : Text} {pos : Nat} {u : Text}
    (hnone : searchFrom? size p false passed pos u = none) :
    occurrencesFrom (lengthFound length?) 0 passed.head? pos u = [] := by
  induction u generalizing passed pos with
  | nil => rfl
  | cons x r ih =>
    unfold searchFrom? at hnone
    split at hnone
    · cases hnone
    · next hhere =>
      rw [h.matchAt?, Option.map_eq_none_iff] at hhere
      have hfind : lengthFound length? passed.head? (x :: r) = none := by
        rw [lengthFound, Option.map_eq_none_iff]
        exact hhere
      rw [occurrencesFrom, hfind]
      exact ih hnone

theorem searchFrom?_eq_some {passed : Text} {pos : Nat} {u : Text} {m : Match} {c' : Cursor}
    (hsome : searchFrom? size p false passed pos u = some (m, c')) :
    ∃ n, 0 < n ∧ m.stop = m.start + n ∧ c'.after.length < u.length ∧
      occurrencesFrom (lengthFound length?) 0 passed.head? pos u =
        (m.start, n) :: occurrencesFrom (lengthFound length?) 0 c'.before c'.pos c'.after := by
  induction u generalizing passed pos with
  | nil =>
    rw [searchFrom?, h.matchAt?, h.length?_nil] at hsome
    cases hsome
  | cons x r ih =>
    unfold searchFrom? at hsome
    split at hsome
    · next hhere =>
      rw [h.matchAt?] at hhere
      obtain ⟨n, hn, hm⟩ := Option.map_eq_some_iff.1 hhere
      cases hsome
      cases hm
      obtain ⟨hpos, hle⟩ := h.bounds _ _ n hn
      obtain ⟨n, rfl⟩ : ∃ k, n = k + 1 := ⟨n - 1, by omega⟩
      have hfind : lengthFound length? passed.head? (x :: r) = some (n + 1, n + 1) := by
        rw [lengthFound, Option.map_eq_some_iff]
        exact ⟨n + 1, hn, rfl⟩
      have hrest := occurrencesFrom_cursor (lengthFound length?) (c := ⟨x :: passed, pos + 1, r⟩)
        (Nat.le_of_succ_le_succ hle)
      refine ⟨n + 1, hpos, rfl, ?_, ?_⟩
      · rw [Cursor.skip_after, List.length_drop]
        simp only [List.length_cons]
        omega
      · rw [occurrencesFrom, hfind]
        exact congrArg (_ :: ·) hrest
    · next hhere =>
      rw [h.matchAt?, Option.map_eq_none_iff] at hhere
      have hfind : lengthFound length? passed.head? (x :: r) = none := by
        rw [lengthFound, Option.map_eq_none_iff]
        exact hhere
      obtain ⟨n, hpos, hstop, hlt, hrest⟩ := ih hsome
      refine ⟨n, hpos, hstop, hlt.trans (Nat.lt_succ_self _), ?_⟩
      rw [occurrencesFrom, hfind]
      exact hrest

theorem matchesFrom_eq {fuel : Nat} {c : Cursor} (hfuel : c.after.length < fuel) :
    (matchesFrom size p fuel false c).map (fun m => (m.start, m.stop)) =
      (occurrencesFrom (lengthFound length?) 0 c.before c.pos c.after).map fun x => (x.1, x.1 + x.2) := by
  induction fuel generalizing c with
  | zero => omega
  | succ fuel ih =>
    unfold matchesFrom
    split
    · next hnone =>
      rw [Cursor.before, h.searchFrom?_eq_none hnone]
      rfl
    · next m c' hsome =>
      obtain ⟨n, hpos, hstop, hlt, hrest⟩ := h.searchFrom?_eq_some hsome
      have hmoved : (m.start == m.stop) = false := by
        rw [beq_eq_false_iff_ne]
        omega
      rw [Cursor.before, hrest, List.map_cons, List.map_cons, hmoved, ih (by omega), hstop]

theorem findAll_eq (t : Text) :
    (p.findAll t).map (fun m => (m.start, m.stop)) =
      (occurrences (lengthFound length?) t).map fun x => (x.1, x.1 + x.2) :=
  h.matchesFrom_eq (c := Cursor.ofText t) (by show t.length < _; omega)

theorem foundAt_iff {t : Text} {pos a n : Nat} :
    FoundAt (lengthFound length?) t pos a n ↔ a = n ∧ length? (t.before? pos) (t.drop pos) = some n := by
  rw [FoundAt, lengthFound, Option.map_eq_some_iff]
  constructor
  · rintro ⟨-, m, hm, hmn⟩
    cases hmn
    exact ⟨rfl, hm⟩
  · rintro ⟨rfl, ha⟩
    obtain ⟨hpos, hle⟩ := h.bounds _ _ a ha
    rw [List.length_drop] at hle
    exact ⟨by omega, a, ha, rfl⟩

theorem length?_of_mem_findAll {t : Text} {m : Match} (hm : m ∈ p.findAll t) :
    ∃ n, length? (t.before? m.start) (t.drop m.start) = some n ∧ m.stop = m.start + n := by
  have hmem : (m.start, m.stop) ∈ (p.findAll t).map fun m => (m.start, m.stop) := List.mem_map_of_mem hm
  rw [h.findAll_eq, List.mem_map] at hmem
  obtain ⟨x, hx, heq⟩ := hmem
  obtain ⟨hstart, hstop⟩ := Prod.mk.inj heq
  obtain ⟨n, hfound⟩ := foundAt_of_mem_occurrences hx
  obtain ⟨hn, hlength⟩ := h.foundAt_iff.1 hfound
  exact ⟨n, hstart ▸ hlength, by omega⟩

theorem starts_eq (t : Text) :
    (p.findAll t).map (·.start) = (occurrences (lengthFound length?) t).map (·.1) := by
  have hpairs := congrArg (List.map Prod.fst) (h.findAll_eq t)
  rwa [List.map_map, List.map_map] at hpairs

theorem pairwise_starts (t : Text) : ((p.findAll t).map (·.start)).Pairwise (· < ·) := by
  rw [h.starts_eq, List.pairwise_map]
  exact (pairwise_occurrences t).imp fun hxy => hxy.1

/-- If nothing is recognised within what is recognised, then the search misses nothing. -/
theorem mem_starts_iff {t : Text} (hinside : ∀ i n j, length? (t.before? i) (t.drop i) = some n → i < j → j < i + n →
    ¬ SpottedAt length? t j) {i : Nat} : i ∈ (p.findAll t).map (·.start) ↔ SpottedAt length? t i := by
  rw [h.starts_eq, List.mem_map]
  constructor
  · rintro ⟨x, hx, rfl⟩
    obtain ⟨n, hfound⟩ := foundAt_of_mem_occurrences hx
    exact Option.isSome_iff_exists.2 ⟨n, (h.foundAt_iff.1 hfound).2⟩
  · intro hi
    obtain ⟨n, hn⟩ := Option.isSome_iff_exists.1 hi
    rcases mem_occurrences_or_covered (h.foundAt_iff.2 ⟨rfl, hn⟩) with hmem | ⟨x, -, m, hcover, hlt, hlt'⟩
    · exact ⟨(i, n), hmem, rfl⟩
    · exact absurd hi (hinside x.1 m i (h.foundAt_iff.1 hcover).2 hlt hlt')

/-- The search from a position on finds nothing or the first place where something is recognised. -/
theorem searchAfter?_cases {t : Text} {pos : Nat} (hpos : pos ≤ t.length) :
    (p.searchAfter? t pos = none ∧ ∀ i, pos ≤ i → ¬ SpottedAt length? t i) ∨
      ∃ m, p.searchAfter? t pos = some m ∧ pos ≤ m.start ∧ SpottedAt length? t m.start ∧
        ∀ i, pos ≤ i → i < m.start → ¬ SpottedAt length? t i := by
  have hbefore : (Cursor.skip pos (Cursor.ofText t)).passed.head? = (t.take pos).getLast? := by
    rw [Cursor.skip_passed, Cursor.ofText, List.append_nil, List.head?_reverse]
  have hplace : (Cursor.skip pos (Cursor.ofText t)).pos = (t.take pos).length := by
    rw [Cursor.skip_pos hpos, Cursor.ofText, Nat.zero_add, List.length_take_of_le hpos]
  have hafter : (Cursor.skip pos (Cursor.ofText t)).after = t.drop pos := Cursor.skip_after pos _
  -- what is recognised further on is listed, or starts in what a listed occurrence covers
  have hlisted {i : Nat} (hi : pos ≤ i) (hspotted : SpottedAt length? t i) :
      ∃ x ∈ occurrencesFrom (lengthFound length?) 0 (t.take pos).getLast? (t.take pos).length (t.drop pos),
        x.1 ≤ i := by
    obtain ⟨n, hn⟩ := Option.isSome_iff_exists.1 hspotted
    have hfound := h.foundAt_iff.2 ⟨rfl, hn⟩
    rw [← List.take_append_drop pos t] at hfound
    have hle : (t.take pos).length + 0 ≤ i := by rwa [List.length_take_of_le hpos]
    rcases mem_or_covered hfound hle with hmem | ⟨x, hx, -, -, hlt, -⟩
    · exact ⟨_, hmem, le_rfl⟩
    · exact ⟨x, hx, hlt.le⟩
  cases hsearch : searchFrom? (t.length + 1) p false (Cursor.skip pos (Cursor.ofText t)).passed
      (Cursor.skip pos (Cursor.ofText t)).pos (Cursor.skip pos (Cursor.ofText t)).after with
  | none =>
    refine .inl ⟨congrArg (Option.map Prod.fst) hsearch, fun i hi hspotted => ?_⟩
    obtain ⟨x, hx, -⟩ := hlisted hi hspotted
    have hnone := h.searchFrom?_eq_none hsearch
    rw [hbefore, hplace, hafter] at hnone
    rw [hnone] at hx
    cases hx
  | some y =>
    obtain ⟨m, c'⟩ := y
    obtain ⟨n, -, -, -, hlist⟩ := h.searchFrom?_eq_some hsearch
    rw [hbefore, hplace, hafter] at hlist
    have hpairwise := @pairwise_occurrencesFrom _ (lengthFound length?) 0 (t.take pos) (t.drop pos)
    rw [hlist, List.pairwise_cons] at hpairwise
    obtain ⟨hle, k, hfound⟩ := foundAt_of_mem (hlist ▸ List.mem_cons_self)
    rw [List.length_take_of_le hpos] at hle
    rw [List.take_append_drop] at hfound
    refine .inr ⟨m, congrArg (Option.map Prod.fst) hsearch, hle, ?_, fun i hi hlt hspotted => ?_⟩
    · exact Option.isSome_iff_exists.2 ⟨k, (h.foundAt_iff.1 hfound).2⟩
    · obtain ⟨x, hx, hxi⟩ := hlisted hi hspotted
      rw [hlist] at hx
      rcases List.mem_cons.1 hx with rfl | hx
      · omega
      · have := (hpairwise.1 x hx).1
        omega

end Recognises

end Pattern
end ProblemLint
