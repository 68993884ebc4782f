import ProblemLint.Proofs.Texts
import ProblemLint.Source.Scan

/-! Occurrences in a text. What a recogniser finds at a position depends on the text alone, not on the scan. The scan
lists positions at which something is found, from left to right and without overlap; whatever is found elsewhere starts
in what a listed occurrence covers. -/

namespace ProblemLint

section

variable {α : Type} {find : Option Char → Text → Option (α × Nat)}

/-- The recogniser finds `a` at a position of a text and takes `n` characters there. -/
def FoundAt (find : Option Char → Text → Option (α × Nat)) (t : Text) (pos : Nat) (a : α) (n : Nat) : Prop :=
  pos < t.length ∧ find (t.before? pos) (t.drop pos) = some (a, n)

theorem FoundAt.unique {t : Text} {pos : Nat} {a b : α} {m n : Nat} (h : FoundAt find t pos a m)
    (h' : FoundAt find t pos b n) : a = b ∧ m = n := by
  have hsame := h.2.symm.trans h'.2
  simpa using hsame

theorem foundAt_here {done r : Text} {c : Char} {a : α} {n : Nat} :
    FoundAt find (done ++ c :: r) done.length a n ↔ find done.getLast? (c :: r) = some (a, n) := by
  simp [FoundAt, Text.before?]

theorem concat_append (done r : Text) (c : Char) : done ++ [c] ++ r = done ++ c :: r := by simp

/-- After one more character: the induction hypothesis for a scan that has read `done`. -/
theorem occurrencesFrom_concat (skip : Nat) (done r : Text) (c : Char) :
    occurrencesFrom find skip (some c) (done.length + 1) r =
      occurrencesFrom find skip (done ++ [c]).getLast? (done ++ [c]).length r := by
  simp

/-- A listed occurrence is found at its position, which no earlier one covers. -/
theorem foundAt_of_mem {skip : Nat} {done r : Text} {x : Nat × α}
    (h : x ∈ occurrencesFrom find skip done.getLast? done.length r) :
    done.length + skip ≤ x.1 ∧ ∃ n, FoundAt find (done ++ r) x.1 x.2 n := by
  induction r generalizing skip done with
  | nil => cases h
  | cons c r ih =>
    have later {m : Nat} (hx : x ∈ occurrencesFrom find m (some c) (done.length + 1) r) :
        done.length + 1 + m ≤ x.1 ∧ ∃ n, FoundAt find (done ++ c :: r) x.1 x.2 n := by
      rw [occurrencesFrom_concat] at hx
      have hrest := ih hx
      rwa [concat_append, List.length_append, List.length_singleton] at hrest
    cases skip with
    | succ k =>
      obtain ⟨hle, hfound⟩ := later h
      exact ⟨by omega, hfound⟩
    | zero =>
      simp only [occurrencesFrom] at h
      split at h
      · next a n hhere =>
        rcases List.mem_cons.1 h with rfl | h
        · exact ⟨le_rfl, n, foundAt_here.2 hhere⟩
        · obtain ⟨hle, hfound⟩ := later h
          exact ⟨by omega, hfound⟩
      · obtain ⟨hle, hfound⟩ := later h
        exact ⟨by omega, hfound⟩

theorem pairwise_occurrencesFrom (skip : Nat) (done r : Text) :
    (occurrencesFrom find skip done.getLast? done.length r).Pairwise fun x y =>
      x.1 < y.1 ∧ ∀ n, FoundAt find (done ++ r) x.1 x.2 n → x.1 + n ≤ y.1 := by
  induction r generalizing skip done with
  | nil => exact .nil
  | cons c r ih =>
    have later (m : Nat) : (occurrencesFrom find m (some c) (done.length + 1) r).Pairwise fun x y =>
        x.1 < y.1 ∧ ∀ n, FoundAt find (done ++ c :: r) x.1 x.2 n → x.1 + n ≤ y.1 := by
      rw [occurrencesFrom_concat, ← concat_append]
      exact ih m (done ++ [c])
    cases skip with
    | succ k => exact later k
    | zero =>
      simp only [occurrencesFrom]
      split
      · next a n hhere =>
        refine .cons (fun y hy => ?_) (later _)
        rw [occurrencesFrom_concat] at hy
        obtain ⟨hle, -⟩ := foundAt_of_mem hy
        rw [List.length_append, List.length_singleton] at hle
        refine ⟨by omega, fun m hm => ?_⟩
        obtain ⟨-, rfl⟩ := hm.unique (foundAt_here.2 hhere)
        omega
      · exact later 0

/-- What is found is listed, unless it starts in what a listed occurrence covers. -/
theorem mem_or_covered {skip p n : Nat} {a : α} {done r : Text} (h : FoundAt find (done ++ r) p a n)
    (hle : done.length + skip ≤ p) :
    (p, a) ∈ occurrencesFrom find skip done.getLast? done.length r ∨
      ∃ x ∈ occurrencesFrom find skip done.getLast? done.length r, ∃ m,
        FoundAt find (done ++ r) x.1 x.2 m ∧ x.1 < p ∧ p < x.1 + m := by
  induction r generalizing skip done with
  | nil =>
    have hlt := h.1
    rw [List.append_nil] at hlt
    omega
  | cons c r ih =>
    have later {m : Nat} (hm : done.length + 1 + m ≤ p) :
        (p, a) ∈ occurrencesFrom find m (some c) (done.length + 1) r ∨
          ∃ x ∈ occurrencesFrom find m (some c) (done.length + 1) r, ∃ k,
            FoundAt find (done ++ c :: r) x.1 x.2 k ∧ x.1 < p ∧ p < x.1 + k := by
      rw [← concat_append] at h ⊢
      rw [occurrencesFrom_concat]
      exact ih h (by simpa using hm)
    cases skip with
    | succ k => exact later (by omega)
    | zero =>
      simp only [occurrencesFrom]
      split
      · next b m hhere =>
        have hfound : FoundAt find (done ++ c :: r) done.length b m := foundAt_here.2 hhere
        rcases Nat.eq_or_lt_of_le hle with heq | hlt
        · have heq : done.length = p := heq
          subst heq
          obtain ⟨rfl, -⟩ := h.unique hfound
          exact .inl List.mem_cons_self
        · by_cases hcovered : p < done.length + m
          · exact .inr ⟨_, List.mem_cons_self, m, hfound, hlt, hcovered⟩
          · rcases later (m := m - 1) (by omega) with hmem | ⟨x, hx, hcover⟩
            · exact .inl (List.mem_cons_of_mem _ hmem)
            · exact .inr ⟨x, List.mem_cons_of_mem _ hx, hcover⟩
      · next hhere =>
        refine later ?_
        rcases Nat.eq_or_lt_of_le hle with heq | hlt
        · have heq : done.length = p := heq
          subst heq
          rw [foundAt_here.1 h] at hhere
          cases hhere
        · omega

/-! ### Parts of a text -/

theorem occurrencesFrom_skip (find : Option Char → Text → Option (α × Nat)) (a : Text) (before : Option Char)
    (pos : Nat) (t : Text) :
    ∃ before', occurrencesFrom find a.length before pos (a ++ t) =
      occurrencesFrom find 0 before' (pos + a.length) t := by
  induction a generalizing before pos with
  | nil => exact ⟨before, rfl⟩
  | cons c a ih =>
    obtain ⟨before', h⟩ := ih (some c) (pos + 1)
    refine ⟨before', ?_⟩
    rw [List.length_cons, List.cons_append, occurrencesFrom, h]
    congr 1
    omega

theorem occurrencesFrom_found {a t : Text} {x : α} {before : Option Char} (ha : a ≠ [])
    (h : find before (a ++ t) = some (x, a.length)) (pos : Nat) :
    ∃ before', occurrencesFrom find 0 before pos (a ++ t) =
      (pos, x) :: occurrencesFrom find 0 before' (pos + a.length) t := by
  cases a with
  | nil => exact absurd rfl ha
  | cons c a =>
    obtain ⟨before', hskip⟩ := occurrencesFrom_skip find a (some c) (pos + 1) t
    refine ⟨before', ?_⟩
    rw [List.cons_append] at h ⊢
    rw [occurrencesFrom, h]
    simp only [List.length_cons, Nat.add_sub_cancel, hskip]
    congr 2
    omega

theorem occurrencesFrom_pass {a t : Text} (h : ∀ u v, u ++ v = a → v ≠ [] → ∀ before, find before (v ++ t) = none)
    (before : Option Char) (pos : Nat) :
    ∃ before', occurrencesFrom find 0 before pos (a ++ t) =
      occurrencesFrom find 0 before' (pos + a.length) t := by
  induction a generalizing before pos with
  | nil => exact ⟨before, rfl⟩
  | cons c a ih =>
    have hrest : ∀ u v, u ++ v = a → v ≠ [] → ∀ before, find before (v ++ t) = none := by
      intro u v huv
      exact h (c :: u) v (congrArg (c :: ·) huv)
    obtain ⟨before', hpass⟩ := ih hrest (some c) (pos + 1)
    refine ⟨before', ?_⟩
    have hhere : find before (c :: (a ++ t)) = none := h [] (c :: a) rfl (List.cons_ne_nil c a) before
    rw [List.cons_append, occurrencesFrom, hhere]
    simp only [hpass, List.length_cons]
    congr 1
    omega

theorem occurrencesFrom_nil {t : Text} (h : ∀ c ∈ t, ∀ before r, find before (c :: r) = none) (before : Option Char) (pos : Nat) :
    occurrencesFrom find 0 before pos t = [] := by
  induction t generalizing before pos with
  | nil => rfl
  | cons c t ih =>
    obtain ⟨hc, ht⟩ := List.forall_mem_cons.1 h
    rw [occurrencesFrom, hc]
    exact ih ht (some c) (pos + 1)

theorem occurrencesFrom_succ (skip : Nat) (before : Option Char) (pos : Nat) (t : Text) :
    occurrencesFrom find skip before (pos + 1) t =
      (occurrencesFrom find skip before pos t).map fun x => (x.1 + 1, x.2) := by
  induction t generalizing skip before pos with
  | nil => rfl
  | cons c r ih =>
    cases skip with
    | succ n => exact ih n (some c) (pos + 1)
    | zero =>
      simp only [occurrencesFrom]
      split
      · rw [List.map_cons, ih]
      · exact ih 0 (some c) (pos + 1)

theorem occurrencesFrom_before {before before' : Option Char} (h : ∀ t, find before t = find before' t)
    (pos : Nat) (t : Text) : occurrencesFrom find 0 before pos t = occurrencesFrom find 0 before' pos t := by
  cases t with
  | nil => rfl
  | cons c r => simp only [occurrencesFrom, h]

/-! ### The occurrences of a whole text -/

theorem foundAt_of_mem_occurrences {t : Text} {x : Nat × α} (h : x ∈ occurrences find t) :
    ∃ n, FoundAt find t x.1 x.2 n :=
  (@foundAt_of_mem α find 0 [] t x h).2

theorem pairwise_occurrences (t : Text) :
    (occurrences find t).Pairwise fun x y => x.1 < y.1 ∧ ∀ n, FoundAt find t x.1 x.2 n → x.1 + n ≤ y.1 :=
  pairwise_occurrencesFrom 0 [] t

theorem mem_occurrences_or_covered {t : Text} {p n : Nat} {a : α} (h : FoundAt find t p a n) :
    (p, a) ∈ occurrences find t ∨
      ∃ x ∈ occurrences find t, ∃ m, FoundAt find t x.1 x.2 m ∧ x.1 < p ∧ p < x.1 + m :=
  @mem_or_covered α find 0 p n a [] t h (Nat.zero_le p)

theorem le_of_mem_occurrences {t : Text} {x y : Nat × α} {n : Nat} (hx : x ∈ occurrences find t)
    (hy : y ∈ occurrences find t) (hlt : x.1 < y.1) (hn : FoundAt find t x.1 x.2 n) : x.1 + n ≤ y.1 := by
  obtain ⟨i, hi, rfl⟩ := List.mem_iff_getElem.1 hx
  obtain ⟨j, hj, rfl⟩ := List.mem_iff_getElem.1 hy
  have hpairwise := List.pairwise_iff_getElem.1 (@pairwise_occurrences α find t)
  rcases Nat.lt_trichotomy i j with hij | rfl | hij
  · exact (hpairwise i j hi hj hij).2 n hn
  · exact absurd hlt (Nat.lt_irrefl _)
  · exact absurd hlt (hpairwise j i hj hi hij).1.not_gt

/-- If what is found starts with a character that it does not have again, then all that is found is listed. -/
theorem mem_occurrences_iff_of_starts (starts : Char → Bool)
    (hfind : ∀ before u a n, find before u = some (a, n) →
      ∃ c w r, u = c :: (w ++ r) ∧ n = w.length + 1 ∧ starts c = true ∧ ∀ d ∈ w, starts d = false) {t : Text} {p : Nat}
    {a : α} : (p, a) ∈ occurrences find t ↔ ∃ n, FoundAt find t p a n := by
  refine ⟨foundAt_of_mem_occurrences, ?_⟩
  rintro ⟨n, hfound⟩
  rcases mem_occurrences_or_covered hfound with hmem | ⟨x, -, m, hcover, hlt, hlt'⟩
  · exact hmem
  · obtain ⟨i, rfl⟩ : ∃ i, p = x.1 + (i + 1) := Nat.exists_eq_add_of_lt hlt
    obtain ⟨c, w, r, hdrop, -, hc, -⟩ := hfind _ _ _ _ hfound.2
    obtain ⟨c', w', r', hdrop', rfl, -, hrest⟩ := hfind _ _ _ _ hcover.2
    have hmem : c ∈ w' := by
      rw [← List.drop_drop, hdrop', List.drop_succ_cons, List.drop_append_of_le_length (by omega)] at hdrop
      have hne : w'.drop i ≠ [] := by simp; omega
      obtain ⟨d, v, hv⟩ := List.exists_cons_of_ne_nil hne
      rw [hv, List.cons_append, List.cons.injEq] at hdrop
      exact List.mem_of_mem_drop (hdrop.1 ▸ hv ▸ List.mem_cons_self)
    exact absurd ((hrest c hmem).symm.trans hc) Bool.false_ne_true

end

end ProblemLint
