import ProblemLint.Markup.Math
import ProblemLint.Proofs.Occurrences

/-! Mathematics in markup, by its delimiters. From left to right, an opener that has a closer of its kind behind it
starts a span, which ends with the first such closer; openers in a span are passed over, and so are those without a
closer. -/

namespace ProblemLint

/-- The two ways to delimit mathematics. -/
inductive MathKind where
  | backtick
  | colon
  deriving DecidableEq, Repr

namespace MathKind

def opener : MathKind → Text
  | backtick => ['[', '`']
  | colon => ['[', ':']

/-- What closes mathematics. Between a colon and the bracket there may be one more character. -/
inductive IsCloser : MathKind → Text → Prop
  | backtick : IsCloser backtick ['`', ']']
  | colon : IsCloser colon [':', ']']
  | modified (c : Char) : IsCloser colon [':', c, ']']

def OpensAt (k : MathKind) (t : Text) (pos : Nat) : Prop := k.opener <+: t.drop pos

/-- A closer starts at a position of a text and ends before another one. -/
def ClosesAt (k : MathKind) (t : Text) (pos stop : Nat) : Prop :=
  ∃ w, k.IsCloser w ∧ w <+: t.drop pos ∧ stop = pos + w.length

/-- Of the closers from a position on, the one that starts first and ends first ends before `stop`. -/
def FirstClose (k : MathKind) (t : Text) (start stop : Nat) : Prop :=
  ∃ pos, start ≤ pos ∧ k.ClosesAt t pos stop ∧
    ∀ pos' stop', start ≤ pos' → k.ClosesAt t pos' stop' → pos ≤ pos' ∧ stop ≤ stop'

variable {k : MathKind}

theorem IsCloser.length {w : Text} (h : k.IsCloser w) : 2 ≤ w.length ∧ w.length ≤ 3 := by
  cases h <;> simp

theorem ClosesAt.stop_le {t : Text} {pos stop : Nat} (h : k.ClosesAt t pos stop) :
    pos + 2 ≤ stop ∧ stop ≤ t.length := by
  obtain ⟨w, hw, hprefix, rfl⟩ := h
  have hsize := hw.length
  have hle := hprefix.length_le
  rw [List.length_drop] at hle
  omega

theorem ClosesAt.last {t : Text} {pos stop : Nat} (h : k.ClosesAt t pos stop) : t[stop - 1]? = some ']' := by
  obtain ⟨w, hw, ⟨r, hr⟩, rfl⟩ := h
  have hget (i : Nat) : t[pos + i]? = (w ++ r)[i]? := by rw [hr, List.getElem?_drop]
  cases hw with
  | backtick => exact hget 1
  | colon => exact hget 1
  | modified c => exact hget 2

theorem OpensAt.first {t : Text} {pos : Nat} (h : k.OpensAt t pos) : t[pos]? = some '[' := by
  obtain ⟨r, hr⟩ := h
  have hget : t[pos + 0]? = (k.opener ++ r)[0]? := by rw [hr, List.getElem?_drop]
  cases k with
  | backtick => exact hget
  | colon => exact hget

theorem closesAt_cons_succ {c : Char} {t : Text} {pos stop : Nat} :
    k.ClosesAt (c :: t) (pos + 1) (stop + 1) ↔ k.ClosesAt t pos stop := by
  simp only [ClosesAt, List.drop_succ_cons, Nat.add_right_comm pos 1, Nat.add_right_cancel_iff]

theorem closesAt_drop {t : Text} {start pos stop : Nat} :
    k.ClosesAt (t.drop start) pos stop ↔ k.ClosesAt t (start + pos) (start + stop) := by
  simp only [ClosesAt, List.drop_drop, Nat.add_assoc, Nat.add_left_cancel_iff]

theorem FirstClose.of_drop {t : Text} {start stop : Nat} (h : k.FirstClose (t.drop start) 0 stop) :
    k.FirstClose t start (start + stop) := by
  obtain ⟨pos, -, hcloses, hfirst⟩ := h
  refine ⟨start + pos, Nat.le_add_right start pos, closesAt_drop.1 hcloses, ?_⟩
  intro pos' stop' hle hcloses'
  obtain ⟨hstop, -⟩ := hcloses'.stop_le
  obtain ⟨i, rfl⟩ := Nat.exists_eq_add_of_le hle
  obtain ⟨j, rfl⟩ := Nat.exists_eq_add_of_le (show start ≤ stop' by omega)
  obtain ⟨hpos, hstop⟩ := hfirst i j (Nat.zero_le i) (closesAt_drop.2 hcloses')
  exact ⟨Nat.add_le_add_left hpos start, Nat.add_le_add_left hstop start⟩

/-! ### The search for a closer -/

def closerSize? : MathKind → Text → Option Nat
  | .backtick, '`' :: ']' :: _ => some 2
  | .colon, ':' :: ']' :: _ => some 2
  | .colon, ':' :: _ :: ']' :: _ => some 3
  | _, _ => none

def close? : MathKind → Text → Option Nat
  | .backtick => backtickClose?
  | .colon => colonClose?

/-- A bracket right behind the colon is taken before a later one. -/
theorem closerSize?_eq_some {t : Text} {n : Nat} (h : k.closerSize? t = some n) :
    k.ClosesAt t 0 n ∧ ∀ stop, k.ClosesAt t 0 stop → n ≤ stop := by
  unfold closerSize? at h
  split at h
  · cases h
    exact ⟨⟨_, .backtick, ⟨_, rfl⟩, rfl⟩, fun stop hstop => hstop.stop_le.1⟩
  · cases h
    exact ⟨⟨_, .colon, ⟨_, rfl⟩, rfl⟩, fun stop hstop => hstop.stop_le.1⟩
  · next c r hc =>
    cases h
    refine ⟨⟨_, .modified c, ⟨_, rfl⟩, rfl⟩, ?_⟩
    rintro stop ⟨w, hw, hprefix, rfl⟩
    cases hw with
    | colon =>
      have hbracket : ']' = c := by simpa using hprefix
      exact absurd hbracket.symm hc
    | modified d => exact le_rfl
  · cases h

theorem closerSize?_eq_none {t : Text} (h : k.closerSize? t = none) (stop : Nat) : ¬ k.ClosesAt t 0 stop := by
  rintro ⟨w, hw, ⟨r, hr⟩, -⟩
  rw [List.drop_zero] at hr
  subst hr
  cases hw with
  | backtick => cases h
  | colon => cases h
  | modified c =>
    unfold closerSize? at h
    split at h <;> simp_all

theorem close?_nil (k : MathKind) : k.close? [] = none := by
  cases k <;> rfl

theorem close?_cons (k : MathKind) (c : Char) (t : Text) :
    k.close? (c :: t) = (k.closerSize? (c :: t)).or ((k.close? t).map (· + 1)) := by
  cases k with
  | backtick =>
    show backtickClose? (c :: t) = _
    rw [backtickClose?.eq_def, closerSize?.eq_def]
    split <;> simp_all [close?]
  | colon =>
    show colonClose? (c :: t) = _
    rw [colonClose?.eq_def, closerSize?.eq_def]
    split <;> simp_all [close?]

theorem close?_eq_some {t : Text} {n : Nat} (h : k.close? t = some n) : k.FirstClose t 0 n := by
  induction t generalizing n with
  | nil =>
    rw [close?_nil] at h
    cases h
  | cons c t ih =>
    rw [close?_cons] at h
    cases hhere : k.closerSize? (c :: t) with
    | some m =>
      rw [hhere] at h
      cases h
      obtain ⟨hcloses, hleast⟩ := closerSize?_eq_some hhere
      refine ⟨0, le_rfl, hcloses, fun pos' stop' _ hcloses' => ⟨Nat.zero_le pos', ?_⟩⟩
      cases pos' with
      | zero => exact hleast stop' hcloses'
      | succ i =>
        -- a closer has three characters at most, and one that starts later ends behind the third
        obtain ⟨w, hw, -, rfl⟩ := hcloses
        have hsize := hw.length
        have hstop := hcloses'.stop_le.1
        omega
    | none =>
      rw [hhere, Option.none_or] at h
      obtain ⟨m, hm, rfl⟩ := Option.map_eq_some_iff.1 h
      obtain ⟨pos, -, hcloses, hfirst⟩ := ih hm
      refine ⟨pos + 1, Nat.zero_le _, closesAt_cons_succ.2 hcloses, ?_⟩
      intro pos' stop' _ hcloses'
      cases pos' with
      | zero => exact absurd hcloses' (closerSize?_eq_none hhere stop')
      | succ i =>
        obtain ⟨j, rfl⟩ : ∃ j, stop' = j + 1 := ⟨stop' - 1, by have := hcloses'.stop_le.1; omega⟩
        obtain ⟨hpos, hstop⟩ := hfirst i j (Nat.zero_le i) (closesAt_cons_succ.1 hcloses')
        exact ⟨Nat.succ_le_succ hpos, Nat.succ_le_succ hstop⟩

theorem close?_eq_none {t : Text} (h : k.close? t = none) (pos stop : Nat) : ¬ k.ClosesAt t pos stop := by
  induction t generalizing pos stop with
  | nil =>
    intro hcloses
    have hstop := hcloses.stop_le
    rw [List.length_nil] at hstop
    omega
  | cons c t ih =>
    rw [close?_cons, Option.or_eq_none_iff, Option.map_eq_none_iff] at h
    intro hcloses
    cases pos with
    | zero => exact closerSize?_eq_none h.1 stop hcloses
    | succ i =>
      obtain ⟨j, rfl⟩ : ∃ j, stop = j + 1 := ⟨stop - 1, by have := hcloses.stop_le.1; omega⟩
      exact ih h.2 i j (closesAt_cons_succ.1 hcloses)

end MathKind

/-! ### The spans -/

theorem mathSize?_opener (k : MathKind) (r : Text) : mathSize? (k.opener ++ r) = (k.close? r).map (· + 2) := by
  cases k <;> rfl

theorem mathSize?_eq_some {t : Text} {n : Nat} (h : mathSize? t = some n) :
    ∃ (k : MathKind) (r : Text) (m : Nat), t = k.opener ++ r ∧ k.close? r = some m ∧ n = m + 2 := by
  unfold mathSize? at h
  split at h
  · next r =>
    obtain ⟨m, hm, rfl⟩ := Option.map_eq_some_iff.1 h
    exact ⟨.backtick, r, m, rfl, hm, rfl⟩
  · next r =>
    obtain ⟨m, hm, rfl⟩ := Option.map_eq_some_iff.1 h
    exact ⟨.colon, r, m, rfl, hm, rfl⟩
  · cases h

/-- Mathematics of a kind that takes a text from a position up to another one: its opener, and what follows up to the
first closer. -/
structure MathKind.Delimits (k : MathKind) (t : Text) (pos stop : Nat) : Prop where
  opens : k.OpensAt t pos
  closes : k.FirstClose t (pos + 2) stop

/-- The recogniser of mathematics for a scan that lists occurrences, each with its size. -/
def mathAt? (_before : Option Char) (t : Text) : Option (Nat × Nat) := (mathSize? t).map fun n => (n, n)

theorem mathSpansFrom_eq (skip : Nat) (before : Option Char) (pos : Nat) (t : Text) :
    mathSpansFrom skip pos t =
      (occurrencesFrom mathAt? skip before pos t).map fun x => ⟨x.1, (x.1 + x.2 : Nat)⟩ := by
  induction t generalizing skip before pos with
  | nil => rfl
  | cons c r ih =>
    cases skip with
    | succ n => exact ih n (some c) (pos + 1)
    | zero =>
      cases hsize : mathSize? (c :: r) with
      | none =>
        simp only [mathSpansFrom, occurrencesFrom, mathAt?, hsize]
        exact ih 0 (some c) (pos + 1)
      | some n =>
        simp only [mathSpansFrom, occurrencesFrom, mathAt?, hsize]
        exact congrArg _ (ih (n - 1) (some c) (pos + 1))

theorem mem_mathSpans_iff {t : Text} {s : Span} :
    s ∈ mathSpans t ↔ ∃ x ∈ occurrences mathAt? t, s = ⟨x.1, (x.1 + x.2 : Nat)⟩ := by
  rw [mathSpans, mathSpansFrom_eq 0 none, List.mem_map]
  constructor
  · rintro ⟨x, hx, rfl⟩
    exact ⟨x, hx, rfl⟩
  · rintro ⟨x, hx, rfl⟩
    exact ⟨x, hx, rfl⟩

theorem delimits_of_foundAt {t : Text} {pos a n : Nat} (h : FoundAt mathAt? t pos a n) :
    a = n ∧ ∃ k : MathKind, k.Delimits t pos (pos + n) := by
  obtain ⟨-, hfound⟩ := h
  obtain ⟨size, hsize, heq⟩ := Option.map_eq_some_iff.1 hfound
  cases heq
  obtain ⟨k, r, m, hdrop, hm, rfl⟩ := mathSize?_eq_some hsize
  have hrest : t.drop (pos + 2) = r := by
    rw [← List.drop_drop, hdrop]
    cases k <;> rfl
  have hclose := MathKind.close?_eq_some hm
  rw [← hrest] at hclose
  refine ⟨rfl, k, ⟨r, hdrop.symm⟩, ?_⟩
  have hfirst := hclose.of_drop
  rwa [show pos + 2 + m = pos + (m + 2) by omega] at hfirst

/-- An opener with a closer behind it is found by the recogniser. -/
theorem foundAt_of_opensAt {k : MathKind} {t : Text} {pos : Nat} (h : k.OpensAt t pos) :
    (∃ n, FoundAt mathAt? t pos n n) ∨ ∀ pos' stop', pos + 2 ≤ pos' → ¬ k.ClosesAt t pos' stop' := by
  obtain ⟨r, hr⟩ := h
  have hrest : t.drop (pos + 2) = r := by
    rw [← List.drop_drop, ← hr]
    cases k <;> rfl
  have hlt : pos < t.length := by
    by_contra hle
    rw [List.drop_eq_nil_of_le (by omega)] at hr
    cases k <;> cases hr
  cases hclose : k.close? r with
  | some m =>
    refine .inl ⟨m + 2, hlt, ?_⟩
    rw [mathAt?, ← hr, mathSize?_opener, hclose]
    rfl
  | none =>
    refine .inr fun pos' stop' hle hcloses => ?_
    obtain ⟨hstop, -⟩ := hcloses.stop_le
    obtain ⟨i, rfl⟩ := Nat.exists_eq_add_of_le hle
    obtain ⟨j, rfl⟩ := Nat.exists_eq_add_of_le (show pos + 2 ≤ stop' by omega)
    rw [← hrest] at hclose
    exact MathKind.close?_eq_none hclose i j (MathKind.closesAt_drop.2 hcloses)

/-- Spans of mathematics come one after the other and lie in their text. Each takes an opener and what follows up to the
first closer of its kind; an opener that starts no span lies in an earlier one or has no closer behind it. -/
theorem mathSpans_account (t : Text) :
    (mathSpans t).Pairwise (fun s s' => s.start < s'.start ∧ s.stop ≤ s'.start) ∧
      (∀ s ∈ mathSpans t, ∃ pos stop : Nat, s = ⟨pos, stop⟩ ∧ pos < stop ∧ stop ≤ t.length ∧
        ∃ k : MathKind, k.Delimits t pos stop) ∧
      ∀ (k : MathKind) (pos : Nat), k.OpensAt t pos →
        (∃ s ∈ mathSpans t, s.start = pos) ∨
          (∃ s ∈ mathSpans t, s.start < pos ∧ pos + 2 ≤ s.stop) ∨
          ∀ pos' stop', pos + 2 ≤ pos' → ¬ k.ClosesAt t pos' stop' := by
  refine ⟨?_, ?_, ?_⟩
  · rw [mathSpans, mathSpansFrom_eq 0 none, List.pairwise_map]
    apply (pairwise_occurrences t).imp_of_mem
    intro x y hx _ hxy
    obtain ⟨n, hn⟩ := foundAt_of_mem_occurrences hx
    obtain ⟨rfl, -⟩ := delimits_of_foundAt hn
    have hle := hxy.2 _ hn
    exact ⟨Int.ofNat_lt.2 hxy.1, Int.ofNat_le.2 hle⟩
  · intro s hs
    obtain ⟨x, hx, rfl⟩ := mem_mathSpans_iff.1 hs
    obtain ⟨n, hn⟩ := foundAt_of_mem_occurrences hx
    obtain ⟨rfl, k, hdelimits⟩ := delimits_of_foundAt hn
    obtain ⟨pos, hle, hcloses, -⟩ := hdelimits.closes
    obtain ⟨hstop, hlength⟩ := hcloses.stop_le
    exact ⟨x.1, x.1 + x.2, rfl, by omega, hlength, k, hdelimits⟩
  · intro k pos hopens
    rcases foundAt_of_opensAt hopens with ⟨n, hfound⟩ | hnone
    · rcases mem_occurrences_or_covered hfound with hmem | ⟨x, hx, m, hcover, hlt, hlt'⟩
      · exact .inl ⟨_, mem_mathSpans_iff.2 ⟨_, hmem, rfl⟩, rfl⟩
      · -- a span ends with a closing bracket, so that an opener in it does not reach beyond its end
        obtain ⟨rfl, k', hdelimits⟩ := delimits_of_foundAt hcover
        obtain ⟨pos', -, hcloses, -⟩ := hdelimits.closes
        have hlast : pos ≠ x.1 + x.2 - 1 := by
          rintro rfl
          have hbracket := hcloses.last
          rw [hopens.first] at hbracket
          cases hbracket
        refine .inr (.inl ⟨_, mem_mathSpans_iff.2 ⟨x, hx, rfl⟩, Int.ofNat_lt.2 hlt, ?_⟩)
        show (pos : Int) + 2 ≤ (x.1 + x.2 : Nat)
        omega
    · exact .inr (.inr hnone)

/-- The first opener has no closer of its kind; a colon behind an opener closes nothing by itself, and a closer may have
a character in its middle. -/
example : mathSpans "[` [: [` :] [:]x:*]:]".toList = [⟨3, 11⟩, ⟨12, 19⟩] := by decide

end ProblemLint
