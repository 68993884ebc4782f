import ProblemLint.Check.Wrapper
import Mathlib.Data.List.TakeWhile
import Mathlib.Tactic

/-! Tag wrappers in single-quoted literals. One walk over the text has the regions of markup that it has not passed yet,
sorted by their start, and looks at the first of them only. That is enough, however the regions overlap or nest: a region
that was dropped lies behind the walk, and no other region starts before the first one. So the walk knows of every
position whether it is in a region, and reports wrappers outside of all regions only. -/

namespace ProblemLint

def Document.inMarkup (d : Document) (pos : Nat) : Bool := d.regions.any (·.holds pos)

namespace Check.StyleQuote

/-- The state after one more character, if it is known which positions lie in regions. There, reading starts anew
at every character; a comment, however, runs on to the end of its line. -/
def State.next (held : Nat → Bool) (s : State) (pos : Nat) (c : Char) : State :=
  if s ≠ .comment ∧ held pos = true then .code else s.step c

def State.behind (held : Nat → Bool) (s : State) (pos : Nat) : Text → State
  | [] => s
  | c :: r => behind held (s.next held pos c) (pos + 1) r

def State.InSingle (s : State) : Prop := ∃ escaped, s = .quoted '\'' escaped

/-- A wrapper at a position is a fault: it is outside of all regions and in a single-quoted literal, and one of its
payloads has a bare single quote. -/
structure FaultAt (held : Nat → Bool) (s : State) (pos : Nat) (t : Text) : Prop where
  outside : held pos = false
  single : s.InSingle
  breaks : breaksQuote t = true

theorem FaultAt.lt_length {held : Nat → Bool} {s : State} {pos p : Nat} {t : Text}
    (h : FaultAt held s pos (t.drop p)) : p < t.length := by
  by_contra hle
  have hbreaks := h.breaks
  rw [List.drop_eq_nil_of_le (Nat.le_of_not_lt hle)] at hbreaks
  cases hbreaks

/-! ### The regions that are ahead -/

/-- From a position on, the regions that are left hold what all regions hold. -/
structure Ahead (held : Nat → Bool) (regions : List (Int × Int)) (pos : Nat) : Prop where
  sorted : regions.Pairwise fun x y => x.1 ≤ y.1
  held_iff : ∀ p, pos ≤ p → (held p = true ↔ ∃ x ∈ regions, x.1 ≤ p ∧ p < x.2)

variable {held : Nat → Bool} {regions : List (Int × Int)} {pos : Nat}

namespace Ahead

theorem succ (h : Ahead held regions pos) : Ahead held regions (pos + 1) :=
  ⟨h.sorted, fun p hp => h.held_iff p (by omega)⟩

theorem dropWhile (h : Ahead held regions pos) : Ahead held (regions.dropWhile fun x => x.2 ≤ (pos : Int)) pos := by
  refine ⟨h.sorted.sublist (List.dropWhile_sublist _), fun p hp => ?_⟩
  rw [h.held_iff p hp]
  constructor
  · rintro ⟨x, hx, hlow, hhigh⟩
    rw [← List.takeWhile_append_dropWhile (p := fun x => x.2 ≤ (pos : Int)) (l := regions), List.mem_append] at hx
    rcases hx with hx | hx
    · have := List.mem_takeWhile_imp hx
      simp only [decide_eq_true_eq] at this
      omega
    · exact ⟨x, hx, hlow, hhigh⟩
  · rintro ⟨x, hx, hlow, hhigh⟩
    exact ⟨x, (List.dropWhile_sublist _).subset hx, hlow, hhigh⟩

/-- The first region tells whether the position lies in any, unless it ends before the position. -/
theorem held_eq (h : Ahead held regions pos) (hhead : ∀ x ∈ regions.head?, ¬ x.2 ≤ (pos : Int)) :
    held pos = regions.head?.any fun x => x.1 ≤ (pos : Int) := by
  rw [Bool.eq_iff_iff, h.held_iff pos le_rfl]
  cases regions with
  | nil => simp
  | cons y rest =>
    have hstop : ¬ y.2 ≤ (pos : Int) := hhead y rfl
    have hfirst := (List.pairwise_cons.1 h.sorted).1
    simp only [List.head?_cons, Option.any_some, decide_eq_true_eq]
    constructor
    · rintro ⟨x, hx, hlow, -⟩
      rcases List.mem_cons.1 hx with rfl | hx
      · exact hlow
      · exact (hfirst x hx).trans hlow
    · intro hlow
      exact ⟨y, List.mem_cons_self, hlow, by omega⟩

end Ahead

/-! ### The walk -/

/-- One step of the walk: it drops regions, changes its state, and reports the position just if there is a fault. -/
theorem faultsFrom_step (h : Ahead held regions pos) (s : State) (c : Char) (r : Text) :
    ∃ regions', Ahead held regions' (pos + 1) ∧
      (FaultAt held s pos (c :: r) ∧
          faultsFrom regions s pos (c :: r) = pos :: faultsFrom regions' (s.next held pos c) (pos + 1) r ∨
        ¬ FaultAt held s pos (c :: r) ∧
          faultsFrom regions s pos (c :: r) = faultsFrom regions' (s.next held pos c) (pos + 1) r) := by
  by_cases hcomment : s = .comment
  · subst hcomment
    refine ⟨regions, h.succ, .inr ⟨?_, ?_⟩⟩
    · rintro ⟨-, ⟨escaped, hsingle⟩, -⟩
      cases hsingle
    · simp [faultsFrom, State.next]
  · set rest := regions.dropWhile fun x => x.2 ≤ (pos : Int) with hrest
    have hcode : (s == State.comment) = false := by simpa using hcomment
    have hheld : held pos = rest.head?.any fun x => x.1 ≤ (pos : Int) := by
      refine h.dropWhile.held_eq fun x hx => ?_
      have hstop := List.head?_dropWhile_not (fun x => decide (x.2 ≤ (pos : Int))) regions
      rw [Option.mem_def.1 hx] at hstop
      simpa using hstop
    refine ⟨rest, h.dropWhile.succ, ?_⟩
    simp only [faultsFrom, hcode, Bool.false_eq_true, if_false, ← hrest, ← hheld, State.next]
    cases hpos : held pos with
    | true =>
      refine .inr ⟨fun hfault => ?_, by simp [hcomment]⟩
      rw [hfault.outside] at hpos
      cases hpos
    | false =>
      simp only [Bool.false_eq_true, if_false, and_false]
      split
      · next escaped =>
        split
        · next hbreaks => exact .inl ⟨⟨hpos, ⟨escaped, rfl⟩, hbreaks⟩, rfl⟩
        · next hbreaks => exact .inr ⟨fun hfault => hbreaks hfault.breaks, rfl⟩
      · next hsingle =>
        refine .inr ⟨?_, rfl⟩
        rintro ⟨-, ⟨escaped, hs⟩, -⟩
        exact hsingle escaped hs

theorem mem_faultsFrom_iff (h : Ahead held regions pos) {s : State} {t : Text} {p : Nat} :
    p ∈ faultsFrom regions s pos t ↔
      ∃ u v, t = u ++ v ∧ p = pos + u.length ∧ FaultAt held (s.behind held pos u) p v := by
  induction t generalizing regions s pos with
  | nil =>
    constructor
    · intro hp
      cases hp
    · rintro ⟨u, v, huv, -, hfault⟩
      rw [(List.append_eq_nil_iff.1 huv.symm).2] at hfault
      cases hfault.breaks
  | cons c r ih =>
    obtain ⟨regions', hahead, hstep⟩ := faultsFrom_step h s c r
    have hhere : (∃ u v, c :: r = u ++ v ∧ p = pos + u.length ∧ FaultAt held (s.behind held pos u) p v) ↔
        (p = pos ∧ FaultAt held s pos (c :: r)) ∨
          ∃ u v, r = u ++ v ∧ p = pos + 1 + u.length ∧ FaultAt held ((s.next held pos c).behind held (pos + 1) u) p v := by
      constructor
      · rintro ⟨_ | ⟨d, u⟩, v, huv, rfl, hfault⟩
        · obtain rfl : c :: r = v := huv
          exact .inl ⟨rfl, hfault⟩
        · obtain ⟨rfl, rfl⟩ := List.cons.inj huv
          exact .inr ⟨u, v, rfl, by rw [List.length_cons]; omega, hfault⟩
      · rintro (⟨rfl, hfault⟩ | ⟨u, v, rfl, rfl, hfault⟩)
        · exact ⟨[], c :: r, rfl, rfl, hfault⟩
        · exact ⟨c :: u, v, rfl, by rw [List.length_cons]; omega, hfault⟩
    rw [hhere, ← ih hahead]
    rcases hstep with ⟨hfault, heq⟩ | ⟨hfault, heq⟩
    · rw [heq, List.mem_cons, and_iff_left hfault]
    · rw [heq, or_iff_right fun hp => hfault hp.2]

theorem pairwise_faultsFrom (h : Ahead held regions pos) (s : State) (t : Text) :
    (faultsFrom regions s pos t).Pairwise (· < ·) := by
  induction t generalizing regions s pos with
  | nil => exact .nil
  | cons c r ih =>
    obtain ⟨regions', hahead, ⟨-, heq⟩ | ⟨-, heq⟩⟩ := faultsFrom_step h s c r
    · rw [heq]
      refine .cons (fun p hp => ?_) (ih hahead _)
      obtain ⟨u, v, -, rfl, -⟩ := (mem_faultsFrom_iff hahead).1 hp
      omega
    · rw [heq]
      exact ih hahead _

/-! ### The check -/

theorem holds_iff {r : Region} {pos : Int} :
    r.holds pos = true ↔ ∃ x, r.bounds? = some x ∧ x.1 ≤ pos ∧ pos < x.2 := by
  unfold Region.holds
  cases r.bounds? with
  | none => simp
  | some x => simp

theorem ahead_orderedRegions (d : Document) : Ahead d.inMarkup (orderedRegions d) 0 := by
  constructor
  · unfold orderedRegions
    refine (List.pairwise_mergeSort ?_ ?_ _).imp ?_
    · intro x y z hxy hyz
      simp only [Bool.or_eq_true, Bool.and_eq_true, decide_eq_true_eq, beq_iff_eq] at hxy hyz ⊢
      omega
    · intro x y
      simp only [Bool.or_eq_true, Bool.and_eq_true, decide_eq_true_eq, beq_iff_eq]
      omega
    · intro x y hxy
      simp only [Bool.or_eq_true, Bool.and_eq_true, decide_eq_true_eq, beq_iff_eq] at hxy
      omega
  · intro p _
    have hmem (x : Int × Int) : x ∈ orderedRegions d ↔ (∃ r ∈ d.regions, r.bounds? = some x) ∧ x.1 < x.2 := by
      rw [orderedRegions, (List.mergeSort_perm _ _).mem_iff, List.mem_filter, List.mem_filterMap, decide_eq_true_eq]
    simp only [Document.inMarkup, List.any_eq_true, holds_iff, hmem]
    constructor
    · rintro ⟨r, hr, x, hx, hlow, hhigh⟩
      exact ⟨x, ⟨⟨r, hr, hx⟩, by omega⟩, hlow, hhigh⟩
    · rintro ⟨x, ⟨⟨r, hr, hx⟩, -⟩, hlow, hhigh⟩
      exact ⟨r, hr, x, hx, hlow, hhigh⟩

/-- The check returns for every text and all regions, in whatever order and however they overlap. It reports the faults
of the text, each once and in order, and none of them lies in a region. -/
theorem run_outside_markup (d : Document) : ∃ places : List Nat,
    styleStringQuotes.run d = .ok ⟨places.map fun (p : Nat) => .onLine .error message (d.lineOf p), d⟩ ∧
      places.Pairwise (· < ·) ∧
      (∀ p ∈ places, p < d.text.length ∧ ∀ r ∈ d.regions, ∀ a b, r.start = some a → r.stop = some b →
        ¬ (a ≤ (p : Int) ∧ (p : Int) < b)) ∧
      ∀ p, p ∈ places ↔ FaultAt d.inMarkup (State.behind d.inMarkup .code 0 (d.text.take p)) p (d.text.drop p) := by
  have hahead := ahead_orderedRegions d
  have hplaces (p : Nat) : p ∈ faultsFrom (orderedRegions d) .code 0 d.text ↔
      FaultAt d.inMarkup (State.behind d.inMarkup .code 0 (d.text.take p)) p (d.text.drop p) := by
    rw [mem_faultsFrom_iff hahead]
    constructor
    · rintro ⟨u, v, htext, rfl, hfault⟩
      rwa [htext, Nat.zero_add, List.take_left, List.drop_left, ← Nat.zero_add u.length]
    · intro hfault
      refine ⟨d.text.take p, d.text.drop p, (List.take_append_drop p d.text).symm, ?_, hfault⟩
      rw [List.length_take, Nat.zero_add, Nat.min_eq_left hfault.lt_length.le]
  refine ⟨faultsFrom (orderedRegions d) .code 0 d.text, rfl, pairwise_faultsFrom hahead .code d.text, ?_, hplaces⟩
  intro p hp
  have hfault := (hplaces p).1 hp
  refine ⟨hfault.lt_length, fun r hr a b ha hb hin => ?_⟩
  have hholds : r.holds p = true := holds_iff.2 ⟨(a, b), by simp [Region.bounds?, ha, hb], hin⟩
  have hheld : d.inMarkup p = true := List.any_eq_true.2 ⟨r, hr, hholds⟩
  rw [hfault.outside] at hheld
  cases hheld

-- a region that ends late is not forgotten for a nested one
example : faultsFrom [(0, 14), (2, 4), (3, 15)] .code 0 "'[<a>]\x7b['b']\x7d' '[<a>]\x7b['b']\x7d'".toList = [16] := by
  decide

end Check.StyleQuote
end ProblemLint
