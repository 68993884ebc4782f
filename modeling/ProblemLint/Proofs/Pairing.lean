import Mathlib.Data.List.Perm.Basic
import Mathlib.Tactic

/-! Items that open and close, read with a stack. A closing item ends the innermost open one if their tags agree, and is
passed over otherwise. `Matched` says without the stack when two items belong together: what stands between them is
settled, that is, made of pairs and of closing items that do not fit. The stack finds just these pairs, it leaves
nothing over just if the items are well nested, and its pairs do not cross. -/

namespace ProblemLint

/-- Items that open or close, with tags that have to agree. -/
class Tagged (α : Type) (τ : outParam Type) where
  opens : α → Bool
  tag : α → τ

open Tagged (opens tag)

variable {α τ : Type} [Tagged α τ]

/-- The first item opens, and the second one can close it. -/
structure Fits (a b : α) : Prop where
  opener : opens a = true
  closer : opens b = false
  tag_eq : tag b = tag a

/-! ### Lists of items -/

/-- Every item that opens is closed by one that fits, and pairs do not overlap. -/
inductive WellNested : List α → Prop where
  | nil : WellNested []
  | pair {a b : α} {inner rest : List α} : Fits a b → WellNested inner → WellNested rest →
    WellNested (a :: inner ++ b :: rest)

/-- Pairs, and closing items that do not fit the pair around them; `around` is the tag of the innermost one. -/
inductive Settled : Option τ → List α → Prop where
  | nil {around : Option τ} : Settled around []
  | stray {around : Option τ} {a : α} {rest : List α} : opens a = false → around ≠ some (tag a) →
    Settled around rest → Settled around (a :: rest)
  | pair {around : Option τ} {a b : α} {inner rest : List α} : Fits a b → Settled (some (tag a)) inner →
    Settled around rest → Settled around (a :: inner ++ b :: rest)

def openers (as : List α) : Nat := as.countP opens

def closers (as : List α) : Nat := as.countP fun a => !opens a

@[simp] theorem openers_nil : openers ([] : List α) = 0 := rfl

@[simp] theorem closers_nil : closers ([] : List α) = 0 := rfl

@[simp] theorem openers_append (as bs : List α) : openers (as ++ bs) = openers as + openers bs := List.countP_append

@[simp] theorem closers_append (as bs : List α) : closers (as ++ bs) = closers as + closers bs := List.countP_append

@[simp] theorem openers_cons (a : α) (as : List α) : openers (a :: as) = openers as + if opens a then 1 else 0 :=
  List.countP_cons ..

@[simp] theorem closers_cons (a : α) (as : List α) : closers (a :: as) = closers as + if opens a then 0 else 1 := by
  cases h : opens a <;> simp [closers, h]

namespace Settled

variable {around : Option τ} {as bs : List α}

theorem append (has : Settled around as) (hbs : Settled around bs) : Settled around (as ++ bs) := by
  induction has with
  | nil => exact hbs
  | stray ha hne _ ih => exact .stray ha hne (ih hbs)
  | pair hfits hinner _ _ ih =>
    rw [List.append_assoc, List.cons_append]
    exact .pair hfits hinner (ih hbs)

theorem openers_le_closers (h : Settled around as) : openers as ≤ closers as := by
  induction h with
  | nil => exact le_rfl
  | stray ha _ _ ih =>
    simp only [openers_cons, closers_cons, ha, Bool.false_eq_true, if_false]
    omega
  | pair hfits _ _ ihinner ihrest =>
    simp only [List.cons_append, openers_cons, closers_cons, openers_append, closers_append, hfits.opener,
      hfits.closer, Bool.false_eq_true, if_false, if_true]
    omega

/-- Without a closing item to spare, nothing is passed over. -/
theorem wellNested (h : Settled around as) (hcount : closers as ≤ openers as) : WellNested as := by
  induction h with
  | nil => exact .nil
  | stray ha _ hrest _ =>
    have hle := hrest.openers_le_closers
    simp only [openers_cons, closers_cons, ha, Bool.false_eq_true, if_false] at hcount
    omega
  | pair hfits hinner hrest ihinner ihrest =>
    have hleinner := hinner.openers_le_closers
    have hlerest := hrest.openers_le_closers
    simp only [List.cons_append, openers_cons, closers_cons, openers_append, closers_append, hfits.opener,
      hfits.closer, Bool.false_eq_true, if_false, if_true] at hcount
    exact .pair hfits (ihinner (by omega)) (ihrest (by omega))

end Settled

namespace WellNested

variable {as : List α}

theorem settled (h : WellNested as) (around : Option τ) : Settled around as := by
  induction h generalizing around with
  | nil => exact .nil
  | pair hfits _ _ ihinner ihrest => exact .pair hfits (ihinner _) (ihrest _)

theorem closers_le_openers (h : WellNested as) : closers as ≤ openers as := by
  induction h with
  | nil => exact le_rfl
  | pair hfits _ _ ihinner ihrest =>
    simp only [List.cons_append, openers_cons, closers_cons, openers_append, closers_append, hfits.opener,
      hfits.closer, Bool.false_eq_true, if_false, if_true]
    omega

end WellNested

structure Pair (α : Type) where
  opener : α
  closer : α

/-- Two of the items fit, and those between them are settled. -/
def Matched (as : List α) (p : Pair α) : Prop :=
  ∃ before inner after, as = before ++ p.opener :: inner ++ p.closer :: after ∧ Fits p.opener p.closer ∧
    Settled (some (tag p.opener)) inner

theorem Matched.append {as : List α} {p : Pair α} (h : Matched as p) (bs : List α) : Matched (as ++ bs) p := by
  obtain ⟨before, inner, after, rfl, hfits, hinner⟩ := h
  exact ⟨before, inner, after ++ bs, by simp, hfits, hinner⟩

theorem Matched.mem {as : List α} {p : Pair α} (h : Matched as p) : p.opener ∈ as ∧ p.closer ∈ as := by
  obtain ⟨before, inner, after, rfl, -⟩ := h
  simp

/-! ### The stack -/

/-- Items as a stack sorts them: the open ones, innermost first; the closing ones that do not fit, and the pairs, both
latest first. -/
structure Pairing (α : Type) where
  opened : List α := []
  strays : List α := []
  pairs : List (Pair α) := []

namespace Pairing

def around (p : Pairing α) : Option τ := p.opened.head?.map tag

variable [DecidableEq τ]

def read (p : Pairing α) (a : α) : Pairing α :=
  if opens a then { p with opened := a :: p.opened }
  else
    match p.opened with
    | [] => { p with strays := a :: p.strays }
    | b :: outer =>
      if tag b = tag a then { p with opened := outer, pairs := ⟨b, a⟩ :: p.pairs }
      else { p with strays := a :: p.strays }

def ofItems (as : List α) : Pairing α := as.foldl read {}

theorem ofItems_concat (as : List α) (a : α) : ofItems (as ++ [a]) = (ofItems as).read a := by
  simp [ofItems]

section

variable {p : Pairing α} {a b : α} {outer : List α}

theorem read_opener (h : opens a = true) : p.read a = { p with opened := a :: p.opened } := if_pos h

theorem read_closer (hopened : p.opened = b :: outer) (ha : opens a = false) (htag : tag a = tag b) :
    p.read a = { p with opened := outer, pairs := ⟨b, a⟩ :: p.pairs } := by
  simp [read, ha, hopened, htag]

theorem read_stray (ha : opens a = false) (hne : p.around ≠ some (tag a)) :
    p.read a = { p with strays := a :: p.strays } := by
  rw [read, if_neg (by simp [ha])]
  cases hopened : p.opened with
  | nil => rfl
  | cons b outer => exact if_neg fun htag => hne (by simp [around, hopened, htag])

end

/-- What an item can be to those before it. -/
theorem reading_cases (p : Pairing α) (a : α) :
    opens a = true ∨ (∃ b outer, p.opened = b :: outer ∧ opens a = false ∧ tag a = tag b) ∨
      (opens a = false ∧ p.around ≠ some (tag a)) := by
  cases ha : opens a with
  | true => exact .inl rfl
  | false =>
    refine .inr ?_
    by_cases htop : p.around = some (tag a)
    · obtain ⟨b, hb, htag⟩ := Option.map_eq_some_iff.1 htop
      obtain ⟨outer, houter⟩ := List.head?_eq_some_iff.1 hb
      exact .inl ⟨b, outer, houter, rfl, htag.symm⟩
    · exact .inr ⟨rfl, htop⟩

/-- Where the open items stand among those read: after each of them, and before the first, everything is settled. -/
inductive Standing : List α → List α → Prop where
  | outside {as : List α} : Settled none as → Standing as []
  | inside {before inner outer : List α} {b : α} : Standing before outer → opens b = true →
    Settled (some (tag b)) inner → Standing (before ++ b :: inner) (b :: outer)

omit [DecidableEq τ] in
theorem Standing.append {as bs stack : List α} (h : Standing as stack) (hbs : Settled (stack.head?.map tag) bs) :
    Standing (as ++ bs) stack := by
  cases h with
  | outside has => exact .outside (has.append hbs)
  | inside hbefore hb hinner =>
    rw [List.append_assoc, List.cons_append]
    exact .inside hbefore hb (hinner.append hbs)

/-- The stack is right about the items read: its pairs belong together, each item is in one of its lists, and these are
in the order of the items. -/
structure Sorts (as : List α) (p : Pairing α) : Prop where
  standing : Standing as p.opened
  matched : ∀ q ∈ p.pairs, Matched as q
  openers : (as.filter opens).Perm (p.opened ++ p.pairs.map (·.opener))
  closers : (as.filter fun a => !opens a).Perm (p.strays ++ p.pairs.map (·.closer))
  opened_sublist : p.opened.reverse.Sublist as
  strays_sublist : p.strays.reverse.Sublist as
  pairs_sublist : (p.pairs.map (·.closer)).reverse.Sublist as

theorem filter_concat_of_neg {β : Type} {f : β → Bool} {x : β} (l : List β) (hx : f x = false) :
    (l ++ [x]).filter f = l.filter f := by
  rw [List.filter_append, List.filter_cons_of_neg (by simp [hx]), List.filter_nil, List.append_nil]

theorem perm_filter_concat {β : Type} {f : β → Bool} {x : β} {l m : List β} (h : (l.filter f).Perm m)
    (hx : f x = true) : ((l ++ [x]).filter f).Perm (x :: m) := by
  rw [List.filter_append, List.filter_cons_of_pos hx, List.filter_nil]
  exact (List.perm_append_singleton x _).trans (h.cons x)

section

variable {as : List α} {p : Pairing α} {a b : α} {outer : List α}

omit [DecidableEq τ]

theorem Sorts.opener (h : Sorts as p) (ha : opens a = true) : Sorts (as ++ [a]) { p with opened := a :: p.opened } := by
  have hmore := List.sublist_append_left as [a]
  refine ⟨.inside h.standing ha .nil, fun q hq => (h.matched q hq).append [a], ?_, ?_, ?_,
    h.strays_sublist.trans hmore, h.pairs_sublist.trans hmore⟩
  · exact perm_filter_concat h.openers ha
  · rw [filter_concat_of_neg as (by simp [ha])]
    exact h.closers
  · rw [List.reverse_cons]
    exact h.opened_sublist.append (List.Sublist.refl [a])

theorem Sorts.closer (h : Sorts as p) (hopened : p.opened = b :: outer) (ha : opens a = false) (htag : tag a = tag b) :
    Sorts (as ++ [a]) { p with opened := outer, pairs := ⟨b, a⟩ :: p.pairs } := by
  have hmore := List.sublist_append_left as [a]
  have hstanding := h.standing
  have hperm := h.openers
  have hsublist := h.opened_sublist
  rw [hopened] at hstanding hperm hsublist
  cases hstanding with
  | @inside before inner _ _ hbefore hb hinner =>
    have hfits : Fits b a := ⟨hb, ha, htag⟩
    refine ⟨?_, ?_, ?_, ?_, ?_, h.strays_sublist.trans hmore, ?_⟩
    · -- the pair that ends here is settled for the one around it
      rw [List.append_assoc]
      exact hbefore.append (.pair hfits hinner .nil)
    · exact List.forall_mem_cons.2 ⟨⟨before, inner, [], rfl, hfits, hinner⟩, fun q hq => (h.matched q hq).append [a]⟩
    · rw [filter_concat_of_neg _ ha]
      exact hperm.trans List.perm_middle.symm
    · exact (perm_filter_concat h.closers (by simp [ha])).trans List.perm_middle.symm
    · rw [List.reverse_cons] at hsublist
      exact ((List.sublist_append_left _ _).trans hsublist).trans hmore
    · rw [List.map_cons, List.reverse_cons]
      exact h.pairs_sublist.append (List.Sublist.refl [a])

theorem Sorts.stray (h : Sorts as p) (ha : opens a = false) (hne : p.around ≠ some (tag a)) :
    Sorts (as ++ [a]) { p with strays := a :: p.strays } := by
  have hmore := List.sublist_append_left as [a]
  refine ⟨h.standing.append (.stray ha hne .nil), fun q hq => (h.matched q hq).append [a], ?_, ?_,
    h.opened_sublist.trans hmore, ?_, h.pairs_sublist.trans hmore⟩
  · rw [filter_concat_of_neg as ha]
    exact h.openers
  · exact perm_filter_concat h.closers (by simp [ha])
  · rw [List.reverse_cons]
    exact h.strays_sublist.append (List.Sublist.refl [a])

end

theorem Sorts.read {as : List α} {p : Pairing α} (h : Sorts as p) (a : α) : Sorts (as ++ [a]) (p.read a) := by
  rcases p.reading_cases a with ha | ⟨b, outer, hopened, ha, htag⟩ | ⟨ha, hne⟩
  · rw [read_opener ha]
    exact h.opener ha
  · rw [read_closer hopened ha htag]
    exact h.closer hopened ha htag
  · rw [read_stray ha hne]
    exact h.stray ha hne

theorem sorts_ofItems (as : List α) : Sorts as (ofItems as) := by
  induction as using List.reverseRecOn with
  | nil => exact ⟨.outside .nil, by simp [ofItems], .nil, .nil, .slnil, .slnil, .slnil⟩
  | append_singleton as a ih =>
    rw [ofItems_concat]
    exact ih.read a

theorem openers_eq (as : List α) : openers as = (ofItems as).pairs.length + (ofItems as).opened.length := by
  have hlength := (sorts_ofItems as).openers.length_eq
  rw [← List.countP_eq_length_filter, List.length_append, List.length_map, Nat.add_comm] at hlength
  exact hlength

theorem closers_eq (as : List α) : closers as = (ofItems as).pairs.length + (ofItems as).strays.length := by
  have hlength := (sorts_ofItems as).closers.length_eq
  rw [← List.countP_eq_length_filter, List.length_append, List.length_map, Nat.add_comm] at hlength
  exact hlength

/-! ### What the stack finds -/

/-- Settled items leave the open ones as they are. -/
theorem opened_foldl_of_settled {around : Option τ} {as : List α} (h : Settled around as) {p : Pairing α}
    (hp : p.around = around) : (as.foldl read p).opened = p.opened := by
  induction h generalizing p with
  | nil => rfl
  | stray ha hne _ ih =>
    rw [List.foldl_cons, read_stray ha (hp ▸ hne)]
    exact ih hp
  | @pair around a b inner rest hfits _ _ ihinner ihrest =>
    have hopener := read_opener (p := p) hfits.opener
    have hinner := ihinner (p := p.read a) (by simp [hopener, Pairing.around])
    have hcloser := read_closer (hinner.trans (by rw [hopener])) hfits.closer hfits.tag_eq
    rw [List.foldl_append, List.foldl_cons, List.foldl_cons, ihrest]
    · rw [hcloser]
    · rw [Pairing.around, hcloser]
      exact hp

theorem pairs_subset_foldl (p : Pairing α) (as : List α) : p.pairs ⊆ (as.foldl read p).pairs := by
  induction as generalizing p with
  | nil => exact List.Subset.refl _
  | cons a as ih =>
    refine List.Subset.trans ?_ (ih (p.read a))
    rcases p.reading_cases a with ha | ⟨b, outer, hopened, ha, htag⟩ | ⟨ha, hne⟩
    · rw [read_opener ha]
      exact List.Subset.refl _
    · rw [read_closer hopened ha htag]
      exact List.subset_cons_self _ _
    · rw [read_stray ha hne]
      exact List.Subset.refl _

/-- Closing items that do not fit are never forgotten. -/
theorem strays_suffix_foldl (p : Pairing α) (as : List α) : List.IsSuffix p.strays (as.foldl read p).strays := by
  induction as generalizing p with
  | nil => exact List.suffix_refl _
  | cons a as ih =>
    refine List.IsSuffix.trans ?_ (ih (p.read a))
    rcases p.reading_cases a with ha | ⟨b, outer, hopened, ha, htag⟩ | ⟨ha, hne⟩
    · rw [read_opener ha]
    · rw [read_closer hopened ha htag]
    · rw [read_stray ha hne]
      exact List.suffix_cons _ _

theorem mem_pairs_of_matched {as : List α} {q : Pair α} (h : Matched as q) : q ∈ (ofItems as).pairs := by
  obtain ⟨before, inner, after, rfl, hfits, hinner⟩ := h
  simp only [ofItems, List.foldl_append, List.foldl_cons]
  apply pairs_subset_foldl
  have hopener := read_opener (p := ofItems before) hfits.opener
  have hopened := opened_foldl_of_settled hinner (p := (ofItems before).read q.opener) (by simp [hopener, around])
  rw [← ofItems, read_closer (hopened.trans (by rw [hopener])) hfits.closer hfits.tag_eq]
  exact List.mem_cons_self

theorem mem_pairs_iff {as : List α} {q : Pair α} : q ∈ (ofItems as).pairs ↔ Matched as q :=
  ⟨(sorts_ofItems as).matched q, mem_pairs_of_matched⟩

/-- Nothing is left open and nothing is passed over just if the items are well nested. -/
theorem wellNested_iff (as : List α) : WellNested as ↔ (ofItems as).opened = [] ∧ (ofItems as).strays = [] := by
  have hopeners := openers_eq as
  have hclosers := closers_eq as
  constructor
  · intro h
    have hopened : (ofItems as).opened = [] := opened_foldl_of_settled (h.settled none) rfl
    have hle := h.closers_le_openers
    rw [hopened, List.length_nil] at hopeners
    exact ⟨hopened, List.length_eq_zero_iff.1 (by omega)⟩
  · rintro ⟨hopened, hstrays⟩
    have hstanding := (sorts_ofItems as).standing
    rw [hopened] at hstanding hopeners
    rw [hstrays] at hclosers
    cases hstanding with
    | outside has => exact has.wellNested (by simp only [List.length_nil] at hopeners hclosers; omega)

/-! ### What the stack leaves over -/

theorem mem_left_iff_of_perm {β : Type} {l a b : List β} (h : l.Perm (a ++ b)) (hl : l.Nodup) (x : β) :
    x ∈ a ↔ x ∈ l ∧ x ∉ b := by
  have hdisjoint := List.disjoint_of_nodup_append (h.nodup_iff.1 hl)
  rw [h.mem_iff, List.mem_append]
  constructor
  · intro ha
    exact ⟨.inl ha, hdisjoint ha⟩
  · rintro ⟨ha | hb, hnot⟩
    · exact ha
    · exact absurd hb hnot

theorem mem_opened_iff {as : List α} (has : as.Nodup) (a : α) :
    a ∈ (ofItems as).opened ↔ (a ∈ as ∧ opens a = true) ∧ ∀ q, Matched as q → a ≠ q.opener := by
  rw [mem_left_iff_of_perm (sorts_ofItems as).openers (has.filter _), List.mem_filter, List.mem_map]
  simp only [mem_pairs_iff, not_exists, not_and, eq_comm]

theorem mem_strays_iff {as : List α} (has : as.Nodup) (a : α) :
    a ∈ (ofItems as).strays ↔ (a ∈ as ∧ opens a = false) ∧ ∀ q, Matched as q → a ≠ q.closer := by
  rw [mem_left_iff_of_perm (sorts_ofItems as).closers (has.filter _), List.mem_filter, List.mem_map,
    Bool.not_eq_true']
  simp only [mem_pairs_iff, not_exists, not_and, eq_comm]

/-! ### How pairs lie -/

/-- How the open items and the pairs lie when each item goes from `lo` up to `hi`; all of them end at a position or
before it. -/
structure Layered (lo hi : α → Nat) (pos : Nat) (p : Pairing α) : Prop where
  opened_le : ∀ a ∈ p.opened, hi a ≤ pos
  pairs_le : ∀ q ∈ p.pairs, hi q.opener ≤ lo q.closer ∧ hi q.closer ≤ pos
  stacked : p.opened.Pairwise fun a outer => hi outer ≤ lo a
  /-- A pair lies before an open item or after it. -/
  apart : ∀ q ∈ p.pairs, ∀ a ∈ p.opened, hi q.closer ≤ lo a ∨ hi a ≤ lo q.opener
  /-- A pair that is closed later lies after an earlier one or around it. -/
  ordered : p.pairs.Pairwise fun q q' =>
    hi q'.closer ≤ lo q.closer ∧ (hi q'.closer ≤ lo q.opener ∨ hi q.opener ≤ lo q'.opener)

section

variable {lo hi : α → Nat} {pos : Nat} {p : Pairing α} {a b : α} {outer : List α}

omit [Tagged α τ] [DecidableEq τ]

theorem Layered.mono {pos' : Nat} (h : Layered lo hi pos p) (hle : pos ≤ pos') : Layered lo hi pos' p where
  opened_le a ha := (h.opened_le a ha).trans hle
  pairs_le q hq := ⟨(h.pairs_le q hq).1, (h.pairs_le q hq).2.trans hle⟩
  stacked := h.stacked
  apart := h.apart
  ordered := h.ordered

theorem Layered.opener (h : Layered lo hi (lo a) p) (ha : lo a ≤ hi a) :
    Layered lo hi (hi a) { p with opened := a :: p.opened } where
  opened_le := List.forall_mem_cons.2 ⟨le_rfl, (h.mono ha).opened_le⟩
  pairs_le := (h.mono ha).pairs_le
  stacked := .cons h.opened_le h.stacked
  apart q hq := List.forall_mem_cons.2 ⟨.inl (h.pairs_le q hq).2, h.apart q hq⟩
  ordered := h.ordered

theorem Layered.closer (h : Layered lo hi (lo a) p) (hopened : p.opened = b :: outer) (ha : lo a ≤ hi a) :
    Layered lo hi (hi a) { p with opened := outer, pairs := ⟨b, a⟩ :: p.pairs } := by
  have hmono := h.mono ha
  have hle := h.opened_le
  have hle' := hmono.opened_le
  have hstacked := h.stacked
  rw [hopened, List.forall_mem_cons] at hle hle'
  rw [hopened, List.pairwise_cons] at hstacked
  have hb : b ∈ p.opened := hopened ▸ List.mem_cons_self
  refine ⟨hle'.2, List.forall_mem_cons.2 ⟨⟨hle.1, le_rfl⟩, hmono.pairs_le⟩, hstacked.2, ?_, ?_⟩
  · intro q hq c hc
    rcases List.mem_cons.1 hq with rfl | hq
    · exact .inr (hstacked.1 c hc)
    · exact h.apart q hq c (hopened ▸ List.mem_cons_of_mem b hc)
  · apply List.Pairwise.cons _ h.ordered
    intro q hq
    exact ⟨(h.pairs_le q hq).2, h.apart q hq b hb⟩

end

section

variable {lo hi : α → Nat} {pos : Nat} {p : Pairing α}

theorem Layered.read {a : α} (h : Layered lo hi (lo a) p) (ha : lo a ≤ hi a) : Layered lo hi (hi a) (p.read a) := by
  rcases p.reading_cases a with hopens | ⟨b, outer, hopened, hcloses, htag⟩ | ⟨hcloses, hne⟩
  · rw [read_opener hopens]
    exact h.opener ha
  · rw [read_closer hopened hcloses htag]
    exact h.closer hopened ha
  · rw [read_stray hcloses hne]
    have hmono := h.mono ha
    exact ⟨hmono.opened_le, hmono.pairs_le, hmono.stacked, hmono.apart, hmono.ordered⟩

theorem Layered.foldl {as : List α} (h : Layered lo hi pos p) (hle : ∀ a ∈ as, pos ≤ lo a)
    (hsize : ∀ a, lo a ≤ hi a) (has : as.Pairwise fun a b => hi a ≤ lo b) :
    ∃ pos', Layered lo hi pos' (as.foldl Pairing.read p) := by
  induction as generalizing pos p with
  | nil => exact ⟨pos, h⟩
  | cons a as ih =>
    rw [List.pairwise_cons] at has
    exact ih ((h.mono (hle a List.mem_cons_self)).read (hsize a)) has.1 has.2

end

/-- Items that do not overlap leave pairs that do not cross. -/
theorem layered_ofItems {lo hi : α → Nat} (hsize : ∀ a, lo a ≤ hi a) {as : List α}
    (has : as.Pairwise fun a b => hi a ≤ lo b) : ∃ pos, Layered lo hi pos (ofItems as) := by
  have hempty : Layered lo hi 0 ({} : Pairing α) := ⟨by simp, by simp, .nil, by simp, .nil⟩
  exact hempty.foldl (fun a _ => Nat.zero_le (lo a)) hsize has

end Pairing
end ProblemLint
