import Mathlib.Combinatorics.Enumerative.DyckWord
import ProblemLint.Proofs.Pairing

/-! Brackets of one kind: items with one tag, so that a closing bracket ends the innermost open one or fits nothing.
The well nested brackets are those that make a Dyck word. The stack pairs the brackets with a Dyck word between them,
and those that it leaves over have no partner. -/

namespace ProblemLint

/-- A bracket: whether it opens, and the position of its first character. -/
structure PlacedBracket where
  opens : Bool
  pos : Nat
  deriving DecidableEq

instance : Tagged PlacedBracket Unit := ⟨PlacedBracket.opens, fun _ => ()⟩

namespace PlacedBracket

variable {bs : List PlacedBracket}

/-! ### Dyck words -/

def step (b : PlacedBracket) : DyckStep := if b.opens then .U else .D

/-- The brackets are well nested. -/
def Balanced (bs : List PlacedBracket) : Prop := ∃ w : DyckWord, w.toList = bs.map step

theorem opens_of_step_eq_up {b : PlacedBracket} (h : b.step = .U) : b.opens = true := by
  by_contra hb
  rw [step, if_neg hb] at h
  cases h

theorem opens_of_step_eq_down {b : PlacedBracket} (h : b.step = .D) : b.opens = false := by
  by_contra hb
  rw [step, if_pos (by simpa using hb)] at h
  cases h

theorem balanced_of_wellNested (h : WellNested bs) : Balanced bs := by
  induction h with
  | nil => exact ⟨0, rfl⟩
  | @pair a b inner rest hfits _ _ ihinner ihrest =>
    obtain ⟨v, hv⟩ := ihinner
    obtain ⟨w, hw⟩ := ihrest
    have ha : a.step = .U := if_pos hfits.opener
    have hb : b.step = .D := if_neg (by rw [show b.opens = false from hfits.closer]; exact Bool.false_ne_true)
    refine ⟨v.nest + w, ?_⟩
    show [.U] ++ v.toList ++ [.D] ++ w.toList = _
    simp [hv, hw, ha, hb]

/-- A Dyck word is empty or begins with a step up, and the step down that returns from it splits the rest. -/
theorem wellNested_of_balanced (h : Balanced bs) : WellNested bs := by
  obtain ⟨w, hw⟩ := h
  induction hsize : w.semilength using Nat.strong_induction_on generalizing w bs with
  | h size ih =>
    by_cases hzero : w = 0
    · subst hzero
      rw [List.map_eq_nil_iff.1 hw.symm]
      exact .nil
    · have hsplit := congrArg DyckWord.toList (DyckWord.nest_insidePart_add_outsidePart hzero)
      rw [hw] at hsplit
      have hword : bs.map step = .U :: w.insidePart.toList ++ .D :: w.outsidePart.toList := by
        rw [← hsplit]
        show [.U] ++ w.insidePart.toList ++ [.D] ++ w.outsidePart.toList = _
        simp
      obtain ⟨front, back, rfl, hfront, hback⟩ := List.map_eq_append_iff.1 hword
      obtain ⟨a, inner, rfl, ha, hinner⟩ := List.map_eq_cons_iff.1 hfront
      obtain ⟨b, rest, rfl, hb, hrest⟩ := List.map_eq_cons_iff.1 hback
      refine .pair ⟨opens_of_step_eq_up ha, opens_of_step_eq_down hb, rfl⟩ ?_ ?_
      · exact ih _ (hsize ▸ DyckWord.semilength_insidePart_lt hzero) _ hinner.symm rfl
      · exact ih _ (hsize ▸ DyckWord.semilength_outsidePart_lt hzero) _ hrest.symm rfl

theorem balanced_iff_wellNested : Balanced bs ↔ WellNested bs := ⟨wellNested_of_balanced, balanced_of_wellNested⟩

/-- Inside of a pair, every closing bracket fits. -/
theorem balanced_iff_settled : Balanced bs ↔ Settled (some ()) bs := by
  rw [balanced_iff_wellNested]
  refine ⟨fun h => h.settled _, fun h => ?_⟩
  generalize haround : some () = around at h
  induction h with
  | nil => exact .nil
  | stray _ hne _ _ => exact absurd haround.symm hne
  | pair hfits _ _ ihinner ihrest => exact .pair hfits (ihinner rfl) (ihrest haround)

/-! ### Which brackets belong together -/

/-- Brackets at two positions belong together: the first opens, the second closes, and those between them are well
nested. -/
def Matched (bs : List PlacedBracket) (p q : Nat) : Prop :=
  ∃ before inner after, bs = before ++ ⟨true, p⟩ :: inner ++ ⟨false, q⟩ :: after ∧ Balanced inner

/-- One of the brackets belongs together with none of the others. -/
def Unmatched (bs : List PlacedBracket) (b : PlacedBracket) : Prop :=
  b ∈ bs ∧ ∀ p q, Matched bs p q → b ≠ ⟨true, p⟩ ∧ b ≠ ⟨false, q⟩

theorem matched_iff {q : Pair PlacedBracket} :
    ProblemLint.Matched bs q ↔
      Matched bs q.opener.pos q.closer.pos ∧ q.opener.opens = true ∧ q.closer.opens = false := by
  constructor
  · rintro ⟨before, inner, after, hbs, hfits, hinner⟩
    have hopener : q.opener.opens = true := hfits.opener
    have hcloser : q.closer.opens = false := hfits.closer
    refine ⟨⟨before, inner, after, ?_, balanced_iff_settled.2 hinner⟩, hopener, hcloser⟩
    rw [← hopener, ← hcloser]
    exact hbs
  · rintro ⟨⟨before, inner, after, hbs, hinner⟩, hopener, hcloser⟩
    rw [← hopener, ← hcloser] at hbs
    exact ⟨before, inner, after, hbs, ⟨hopener, hcloser, rfl⟩, balanced_iff_settled.1 hinner⟩

def openedAt (s : Pairing PlacedBracket) : List Nat := s.opened.map (·.pos)

def straysAt (s : Pairing PlacedBracket) : List Nat := s.strays.map (·.pos)

theorem balanced_iff (bs : List PlacedBracket) :
    Balanced bs ↔ openedAt (.ofItems bs) = [] ∧ straysAt (.ofItems bs) = [] := by
  rw [balanced_iff_wellNested, Pairing.wellNested_iff, openedAt, straysAt, List.map_eq_nil_iff, List.map_eq_nil_iff]

section

variable {s : Pairing PlacedBracket}

theorem read_stray (h : openedAt s = []) {q : Nat} : s.read ⟨false, q⟩ = { s with strays := ⟨false, q⟩ :: s.strays } :=
  Pairing.read_stray rfl (by simp [Pairing.around, List.map_eq_nil_iff.1 h])

theorem read_closer {p : Nat} {outer : List Nat} (h : openedAt s = p :: outer) (q : Nat) :
    ∃ b rest, b.pos = p ∧ rest.map (·.pos) = outer ∧
      s.read ⟨false, q⟩ = { s with opened := rest, pairs := ⟨b, ⟨false, q⟩⟩ :: s.pairs } := by
  obtain ⟨b, rest, hopened, hb, hrest⟩ := List.map_eq_cons_iff.1 h
  exact ⟨b, rest, hb, hrest, Pairing.read_closer hopened rfl rfl⟩

end

variable (hbs : bs.Pairwise fun b c => b.pos < c.pos)

include hbs

theorem nodup_of_pairwise : bs.Nodup := hbs.imp fun hlt heq => absurd (congrArg pos heq) (Nat.ne_of_lt hlt)

/-- The closing brackets that fit nothing are those without a partner. -/
theorem mem_straysAt_iff (q : Nat) : q ∈ straysAt (.ofItems bs) ↔ Unmatched bs ⟨false, q⟩ := by
  simp only [straysAt, List.mem_map, Pairing.mem_strays_iff (nodup_of_pairwise hbs), matched_iff]
  constructor
  · rintro ⟨⟨opens, pos⟩, ⟨⟨hmem, rfl⟩, hno⟩, rfl⟩
    refine ⟨hmem, fun p q hmatched => ⟨by simp, ?_⟩⟩
    exact hno ⟨⟨true, p⟩, ⟨false, q⟩⟩ ⟨hmatched, rfl, rfl⟩
  · rintro ⟨hmem, hno⟩
    refine ⟨⟨false, q⟩, ⟨⟨hmem, rfl⟩, ?_⟩, rfl⟩
    rintro r ⟨hmatched, -, hcloser⟩ heq
    exact (hno _ _ hmatched).2 (by rw [heq, ← hcloser])

theorem mem_openedAt_iff (p : Nat) : p ∈ openedAt (.ofItems bs) ↔ Unmatched bs ⟨true, p⟩ := by
  simp only [openedAt, List.mem_map, Pairing.mem_opened_iff (nodup_of_pairwise hbs), matched_iff]
  constructor
  · rintro ⟨⟨opens, pos⟩, ⟨⟨hmem, rfl⟩, hno⟩, rfl⟩
    refine ⟨hmem, fun p q hmatched => ⟨?_, by simp⟩⟩
    exact hno ⟨⟨true, p⟩, ⟨false, q⟩⟩ ⟨hmatched, rfl, rfl⟩
  · rintro ⟨hmem, hno⟩
    refine ⟨⟨true, p⟩, ⟨⟨hmem, rfl⟩, ?_⟩, rfl⟩
    rintro r ⟨hmatched, hopener, -⟩ heq
    exact (hno _ _ hmatched).1 (by rw [heq, ← hopener])

theorem straysAt_reverse_pairwise : (straysAt (.ofItems bs)).reverse.Pairwise (· < ·) := by
  rw [straysAt, ← List.map_reverse, List.pairwise_map]
  exact hbs.sublist (Pairing.sorts_ofItems bs).strays_sublist

theorem openedAt_reverse_pairwise : (openedAt (.ofItems bs)).reverse.Pairwise (· < ·) := by
  rw [openedAt, ← List.map_reverse, List.pairwise_map]
  exact hbs.sublist (Pairing.sorts_ofItems bs).opened_sublist

end PlacedBracket
end ProblemLint
