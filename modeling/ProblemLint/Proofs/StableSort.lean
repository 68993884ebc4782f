import ProblemLint.Issue
import Mathlib.Data.Char
import Mathlib.Tactic

/-! Sorting issues. The order by line and message is total and transitive, and the sort is stable, so it
commutes with every choice of issues: choosing from the sorted list is sorting what is chosen. -/

namespace ProblemLint

section

variable {α : Type} {le : α → α → Bool}

/-- A list is cut in one way into a part of which something holds and a part of which it does not. -/
theorem append_split_unique {q : α → Prop} {l₁ l₂ m₁ m₂ : List α} (h : l₁ ++ l₂ = m₁ ++ m₂)
    (hl₁ : ∀ a ∈ l₁, q a) (hl₂ : ∀ a ∈ l₂, ¬ q a) (hm₁ : ∀ a ∈ m₁, q a) (hm₂ : ∀ a ∈ m₂, ¬ q a) :
    l₁ = m₁ ∧ l₂ = m₂ := by
  induction l₁ generalizing m₁ with
  | nil =>
    cases m₁ with
    | nil => exact ⟨rfl, h⟩
    | cons b m₁ =>
      have hmem : b ∈ l₂ := by simp [show l₂ = b :: (m₁ ++ m₂) from h]
      exact absurd (hm₁ b List.mem_cons_self) (hl₂ b hmem)
  | cons a l₁ ih =>
    cases m₁ with
    | nil =>
      have hmem : a ∈ m₂ := by simp [show m₂ = a :: (l₁ ++ l₂) from h.symm]
      exact absurd (hl₁ a List.mem_cons_self) (hm₂ a hmem)
    | cons b m₁ =>
      obtain ⟨rfl, htail⟩ := List.cons.inj h
      obtain ⟨rfl, rfl⟩ := ih htail (fun c hc => hl₁ c (List.mem_cons_of_mem a hc))
        fun c hc => hm₁ c (List.mem_cons_of_mem a hc)
      exact ⟨rfl, rfl⟩

/-- Where the first element goes: after those that come before it, and before all others. -/
theorem mergeSort_cons_split (trans : ∀ a b c, le a b → le b c → le a c) (total : ∀ a b, le a b || le b a)
    (a : α) (l : List α) : ∃ l₁ l₂, (a :: l).mergeSort le = l₁ ++ a :: l₂ ∧ l.mergeSort le = l₁ ++ l₂ ∧
      (∀ b ∈ l₁, le a b = false) ∧ ∀ b ∈ l₂, ¬ le a b = false := by
  obtain ⟨l₁, l₂, hcons, htail, hbefore⟩ := List.mergeSort_cons trans total a l
  have hsorted := List.pairwise_mergeSort trans total (a :: l)
  rw [hcons] at hsorted
  have hafter := (List.pairwise_cons.1 (List.pairwise_append.1 hsorted).2.1).1
  exact ⟨l₁, l₂, hcons, htail, fun b hb => by simpa using hbefore b hb,
    fun b hb => by simpa using hafter b hb⟩

theorem filter_mergeSort (trans : ∀ a b c, le a b → le b c → le a c) (total : ∀ a b, le a b || le b a)
    (p : α → Bool) (l : List α) : (l.mergeSort le).filter p = (l.filter p).mergeSort le := by
  induction l with
  | nil => simp
  | cons a l ih =>
    obtain ⟨l₁, l₂, hcons, htail, hbefore, hafter⟩ := mergeSort_cons_split trans total a l
    rw [htail, List.filter_append] at ih
    by_cases ha : p a = true
    · obtain ⟨m₁, m₂, kcons, ktail, kbefore, kafter⟩ := mergeSort_cons_split trans total a (l.filter p)
      rw [ktail] at ih
      obtain ⟨h₁, h₂⟩ := append_split_unique ih (fun b hb => hbefore b (List.mem_of_mem_filter hb))
        (fun b hb => hafter b (List.mem_of_mem_filter hb)) kbefore kafter
      rw [List.filter_cons_of_pos ha, kcons, hcons, List.filter_append, List.filter_cons_of_pos ha, h₁, h₂]
    · rw [List.filter_cons_of_neg ha, hcons, List.filter_append, List.filter_cons_of_neg ha, ih]

end

namespace Text

theorem le_total (a b : Text) : (le a b || le b a) = true := by
  induction a generalizing b with
  | nil => simp [le]
  | cons x a ih =>
    cases b with
    | nil => simp [le]
    | cons y b =>
      by_cases hxy : x = y
      · simpa [le, hxy] using ih b
      · rcases lt_or_gt_of_ne hxy with h | h <;> simp [le, hxy, Ne.symm hxy, h]

theorem le_trans {a b c : Text} (hab : le a b = true) (hbc : le b c = true) : le a c = true := by
  induction a generalizing b c with
  | nil => simp [le]
  | cons x a ih =>
    cases b with
    | nil => simp [le] at hab
    | cons y b =>
      cases c with
      | nil => simp [le] at hbc
      | cons z c =>
        simp only [le, beq_iff_eq] at hab hbc ⊢
        split_ifs at hab hbc ⊢ <;> grind

end Text

namespace Issue

theorem le_total (a b : Issue) : (le a b || le b a) = true := by
  have hmessage := Text.le_total a.message b.message
  simp only [le, sortKey, beq_iff_eq]
  split_ifs <;> grind

theorem le_trans (a b c : Issue) (hab : le a b = true) (hbc : le b c = true) : le a c = true := by
  have hmessage := @Text.le_trans a.message b.message c.message
  simp only [le, sortKey, beq_iff_eq] at hab hbc ⊢
  split_ifs at hab hbc ⊢ <;> grind

theorem sort_filter (p : Issue → Bool) (issues : List Issue) :
    (sort issues).filter p = sort (issues.filter p) :=
  filter_mergeSort le_trans le_total p issues

end Issue
end ProblemLint
