import ProblemLint.Proofs.Quotes
import ProblemLint.Proofs.Texts

/-! The depth of delimiters in program text. A text is read up to the closer that brings the depth back to zero, which
is the first place where it is zero again; what comes after that place does not matter. -/

namespace ProblemLint

variable {opener closer : Char}

/-- What a character adds to the depth. Only delimiters in code count, not those in quotes or behind a backslash. -/
def QuoteState.weight (opener closer : Char) (s : QuoteState) (c : Char) : Int :=
  if s.inCode then if c = opener then 1 else if c = closer then -1 else 0 else 0

def depthFrom (opener closer : Char) (s : QuoteState) : Text → Int
  | [] => 0
  | c :: r => s.weight opener closer c + depthFrom opener closer (s.step c) r

/-- A closer behind the text brings the depth to zero, and nothing does so before. -/
structure ClosedBehind (opener closer : Char) (s : QuoteState) (depth : Int) (inner : Text) : Prop where
  closed : depth + depthFrom opener closer s (inner ++ [closer]) = 0
  opened : ∀ k ≤ inner.length, depth + depthFrom opener closer s (inner.take k) ≠ 0

theorem QuoteState.weight_cases (opener closer : Char) (s : QuoteState) (c : Char) :
    (s.weight opener closer c = -1 ∧ c = closer) ∨ 0 ≤ s.weight opener closer c := by
  unfold weight
  split_ifs with hcode hopener hcloser
  · exact .inr (by decide)
  · exact .inl ⟨rfl, hcloser⟩
  · exact .inr le_rfl
  · exact .inr le_rfl

namespace ClosedBehind

variable {s : QuoteState} {depth : Int}

theorem nil_iff : ClosedBehind opener closer s depth [] ↔
    depth ≠ 0 ∧ depth + s.weight opener closer closer = 0 := by
  constructor
  · intro h
    have hclosed := h.closed
    have hopened := h.opened 0 le_rfl
    simp only [depthFrom, List.nil_append, List.take_nil, add_zero] at hclosed hopened
    exact ⟨hopened, hclosed⟩
  · rintro ⟨hopened, hclosed⟩
    constructor
    · simpa [depthFrom] using hclosed
    · intro k _
      simpa [depthFrom] using hopened

theorem cons_iff {c : Char} {inner : Text} : ClosedBehind opener closer s depth (c :: inner) ↔
    depth ≠ 0 ∧ ClosedBehind opener closer (s.step c) (depth + s.weight opener closer c) inner := by
  constructor
  · intro h
    refine ⟨by simpa [depthFrom] using h.opened 0 (Nat.zero_le _), ?_, ?_⟩
    · rw [add_assoc]
      exact h.closed
    · intro k hk
      rw [add_assoc]
      exact h.opened (k + 1) (Nat.succ_le_succ hk)
  · rintro ⟨hdepth, h⟩
    constructor
    · rw [List.cons_append, depthFrom, ← add_assoc]
      exact h.closed
    · intro k hk
      cases k with
      | zero => simpa [depthFrom] using hdepth
      | succ k =>
        rw [List.take_succ_cons, depthFrom, ← add_assoc]
        exact h.opened k (Nat.le_of_succ_le_succ hk)

end ClosedBehind

section

variable [PlainDelimiters opener closer]

theorem closeFrom_weight {depth : Int} (hdepth : 0 < depth) (s : QuoteState) (c : Char) (r : Text) :
    closeFrom opener closer s.flags depth (c :: r) =
      if depth + s.weight opener closer c = 0 then some 0
      else (closeFrom opener closer (s.step c).flags (depth + s.weight opener closer c) r).map (· + 1) := by
  simp only [closeFrom_step, QuoteState.weight, Bool.and_eq_true, beq_iff_eq]
  by_cases hcode : s.inCode = true
  · simp only [hcode, true_and, if_true]
    by_cases hopener : c = opener
    · rw [if_pos hopener, if_pos hopener, if_neg (by omega)]
    · rw [if_neg hopener, if_neg hopener]
      by_cases hcloser : c = closer
      · simp only [if_pos hcloser]
        rfl
      · simp only [if_neg hcloser, add_zero]
        rw [if_neg (by omega)]
  · simp only [hcode, Bool.false_eq_true, false_and, if_false, add_zero]
    rw [if_neg (by omega)]

theorem closeFrom_eq_some_iff {s : QuoteState} {depth : Int} (hdepth : 0 < depth) {t : Text} {n : Nat} :
    closeFrom opener closer s.flags depth t = some n ↔
      ∃ inner rest, t = inner ++ closer :: rest ∧ inner.length = n ∧
        ClosedBehind opener closer s depth inner := by
  induction t generalizing s depth n with
  | nil => simp [closeFrom]
  | cons c r ih =>
    rw [closeFrom_weight hdepth]
    have hweight := s.weight_cases opener closer c
    by_cases hzero : depth + s.weight opener closer c = 0
    · rw [if_pos hzero]
      obtain rfl : c = closer := by
        rcases hweight with ⟨-, h⟩ | h
        · exact h
        · omega
      constructor
      · rintro ⟨⟩
        exact ⟨[], r, rfl, rfl, ClosedBehind.nil_iff.2 ⟨by omega, hzero⟩⟩
      · rintro ⟨inner, rest, ht, rfl, hclosed⟩
        cases inner with
        | nil => rfl
        | cons b inner =>
          -- the depth is zero already behind the first character
          obtain ⟨rfl, -⟩ := List.cons.inj ht
          exact absurd hzero (by simpa [depthFrom] using (ClosedBehind.cons_iff.1 hclosed).2.opened 0 (Nat.zero_le _))
    · rw [if_neg hzero, Option.map_eq_some_iff]
      have hpos : 0 < depth + s.weight opener closer c := by omega
      constructor
      · rintro ⟨m, hm, rfl⟩
        obtain ⟨inner, rest, rfl, rfl, hclosed⟩ := (ih hpos).1 hm
        exact ⟨c :: inner, rest, rfl, rfl, ClosedBehind.cons_iff.2 ⟨by omega, hclosed⟩⟩
      · rintro ⟨inner, rest, ht, rfl, hclosed⟩
        cases inner with
        | nil =>
          obtain ⟨rfl, -⟩ := List.cons.inj ht
          exact absurd (ClosedBehind.nil_iff.1 hclosed).2 hzero
        | cons b inner =>
          obtain ⟨rfl, rfl⟩ := List.cons.inj ht
          exact ⟨inner.length, (ih hpos).2 ⟨inner, rest, rfl, rfl, (ClosedBehind.cons_iff.1 hclosed).2⟩, rfl⟩

theorem delimited?_opener (r : Text) :
    delimited? opener closer (opener :: r) =
      (closeFrom opener closer (QuoteState.step {} opener).flags 1 r).map fun n => (r.take n, r.drop (n + 1)) := by
  have hopen : closeFrom opener closer {} 0 (opener :: r) =
      (closeFrom opener closer (QuoteState.step {} opener).flags 1 r).map (· + 1) := by
    rw [← QuoteState.flags_start, closeFrom_step, if_pos (by simp [QuoteState.inCode])]
    rfl
  rw [delimited?, if_pos (beq_self_eq_true opener), hopen, Option.map_map]
  rfl

/-- What is between delimiters depends on nothing that follows the closer. -/
theorem delimited?_eq_some_iff {t inner rest : Text} :
    delimited? opener closer t = some (inner, rest) ↔
      t = opener :: (inner ++ closer :: rest) ∧
        ClosedBehind opener closer (QuoteState.step {} opener) 1 inner := by
  cases t with
  | nil => simp [delimited?]
  | cons c r =>
    by_cases hc : c = opener
    · subst hc
      rw [delimited?_opener, Option.map_eq_some_iff]
      constructor
      · rintro ⟨n, hn, hr⟩
        obtain ⟨inner', rest', rfl, rfl, hclosed⟩ := (closeFrom_eq_some_iff Int.one_pos).1 hn
        obtain ⟨rfl, rfl⟩ : inner' = inner ∧ rest' = rest := by simpa using hr
        exact ⟨rfl, hclosed⟩
      · rintro ⟨ht, hclosed⟩
        obtain ⟨-, rfl⟩ := List.cons.inj ht
        refine ⟨inner.length, (closeFrom_eq_some_iff Int.one_pos).2 ⟨inner, rest, rfl, rfl, hclosed⟩, ?_⟩
        simp
    · rw [delimited?, if_neg (by simpa using hc)]
      simp [hc]

end

/-! ### Delimiters by their positions -/

/-- An opener and its closer in a text: the place before `stop` is the first one behind which the depth is zero
again. -/
structure Delimits (opener closer : Char) (t : Text) (start stop : Nat) (inner : Text) : Prop where
  start_lt : start < stop
  opener_at : t[start]? = some opener
  closer_at : t[stop - 1]? = some closer
  inner_eq : inner = Text.slice t (start + 1) (stop - 1)
  closed : depthFrom opener closer {} (Text.slice t start stop) = 0
  opened : ∀ i : Nat, start ≤ i → i + 1 < stop → depthFrom opener closer {} (Text.slice t start (i + 1)) ≠ 0

theorem depthFrom_opener (t : Text) :
    depthFrom opener closer {} (opener :: t) = 1 + depthFrom opener closer (QuoteState.step {} opener) t := by
  simp [depthFrom, QuoteState.weight, QuoteState.inCode]

theorem closedBehind_iff {t inner rest : Text} {start : Nat}
    (ht : t.drop start = opener :: (inner ++ closer :: rest)) :
    ClosedBehind opener closer (QuoteState.step {} opener) 1 inner ↔
      depthFrom opener closer {} (Text.slice t start (start + inner.length + 2 : Nat)) = 0 ∧
        ∀ i : Nat, start ≤ i → i + 1 < start + inner.length + 2 →
          depthFrom opener closer {} (Text.slice t start (i + 1)) ≠ 0 := by
  have hwhole : Text.slice t start (start + inner.length + 2 : Nat) = opener :: (inner ++ [closer]) := by
    have hsize : start + inner.length + 2 - start = inner.length + 1 + 1 := by omega
    rw [Text.slice_natCast, ht, hsize, List.take_succ_cons, List.take_length_add_append]
    rfl
  have hpart (i : Nat) (hi : start ≤ i) (hstop : i + 1 < start + inner.length + 2) :
      Text.slice t start (i + 1) = opener :: inner.take (i - start) := by
    have hslice := Text.slice_natCast t start (i + 1)
    rw [ht, Nat.succ_sub hi, List.take_succ_cons, List.take_append_of_le_length (by omega)] at hslice
    exact hslice
  rw [hwhole, depthFrom_opener]
  constructor
  · intro h
    refine ⟨h.closed, ?_⟩
    intro i hi hstop
    rw [hpart i hi hstop, depthFrom_opener]
    exact h.opened (i - start) (by omega)
  · rintro ⟨hclosed, hopened⟩
    refine ⟨hclosed, ?_⟩
    intro k hk
    have hdepth := hopened (start + k) (by omega) (by omega)
    rwa [hpart _ (by omega) (by omega), depthFrom_opener, Nat.add_sub_cancel_left] at hdepth

theorem delimits_iff [PlainDelimiters opener closer] {t inner : Text} {start stop : Nat} : Delimits opener closer t start stop inner ↔
    ∃ rest, delimited? opener closer (t.drop start) = some (inner, rest) ∧ stop = start + inner.length + 2 := by
  simp only [delimited?_eq_some_iff]
  constructor
  · intro h
    have hopener := drop_of_getElem? h.opener_at
    have hcloser := drop_of_getElem? h.closer_at
    have hlt : stop - 1 < t.length := (List.getElem?_eq_some_iff.1 h.closer_at).1
    have hstop : start + 1 < stop := by
      -- behind the opener the depth is one
      rcases Nat.eq_or_lt_of_le h.start_lt with heq | hlt
      · have hone := h.closed
        rw [← heq, Text.slice_natCast, hopener, Nat.succ_sub le_rfl, Nat.sub_self, List.take_succ_cons,
          List.take_zero, depthFrom_opener, depthFrom] at hone
        omega
      · exact hlt
    have hinner : inner = (t.drop (start + 1)).take (stop - 1 - (start + 1)) := by
      have hslice := Text.slice_natCast t (start + 1) (stop - 1)
      rw [Nat.cast_sub (by omega)] at hslice
      exact h.inner_eq.trans hslice
    have hlength : stop = start + inner.length + 2 := by
      rw [hinner, List.length_take, List.length_drop]
      omega
    have hrest : t.drop (start + 1) = inner ++ t.drop (stop - 1) := by
      have hsplit := List.take_append_drop (stop - 1 - (start + 1)) (t.drop (start + 1))
      rw [← hinner, List.drop_drop, Nat.add_sub_cancel' (by omega)] at hsplit
      exact hsplit.symm
    have ht : t.drop start = opener :: (inner ++ closer :: t.drop stop) := by
      rw [hopener, hrest, hcloser, Nat.sub_add_cancel (by omega)]
    refine ⟨t.drop stop, ⟨ht, (closedBehind_iff ht).2 ?_⟩, hlength⟩
    rw [← hlength]
    exact ⟨h.closed, h.opened⟩
  · rintro ⟨rest, ⟨ht, hclosed⟩, rfl⟩
    obtain ⟨hclosed, hopened⟩ := (closedBehind_iff ht).1 hclosed
    have hget (k : Nat) : t[start + k]? = (opener :: (inner ++ closer :: rest))[k]? := by
      rw [← ht, List.getElem?_drop]
    refine ⟨by omega, hget 0, ?_, ?_, hclosed, hopened⟩
    · show t[start + (inner.length + 1)]? = some closer
      rw [hget, List.getElem?_cons_succ, List.getElem?_append_right le_rfl, Nat.sub_self]
      rfl
    · have hslice := Text.slice_natCast t (start + 1) (start + 1 + inner.length)
      rw [Nat.add_sub_cancel_left, ← List.drop_drop, ht, List.drop_succ_cons, List.drop_zero, List.take_left] at hslice
      have hstop : ((start + inner.length + 2 : Nat) : Int) - 1 = (start + 1 + inner.length : Nat) := by omega
      rw [hstop]
      exact hslice.symm

end ProblemLint
