import ProblemLint.Pattern.Matcher
import Mathlib.Tactic

/-! Where matches lie. Every way to match a pattern ends at or after the place where it began, and after that place
if the pattern takes characters at all. So matches lie in their text one after the other, and there is fuel for all
of them. What a pattern takes on its way can be read off the pattern, part by part. -/

namespace ProblemLint

/-- A later place in the same text. -/
structure Cursor.Reaches (c c' : Cursor) : Prop where
  le : c.pos ≤ c'.pos
  total : c'.pos + c'.after.length = c.pos + c.after.length

namespace Cursor

theorem Reaches.refl (c : Cursor) : c.Reaches c := ⟨le_rfl, rfl⟩

theorem Reaches.trans {a b c : Cursor} (h : a.Reaches b) (h' : b.Reaches c) : a.Reaches c :=
  ⟨h.le.trans h'.le, h'.total.trans h.total⟩

theorem reaches_step (passed : Text) (pos : Nat) (x : Char) (r : Text) :
    Reaches ⟨passed, pos, x :: r⟩ ⟨x :: passed, pos + 1, r⟩ := by
  constructor
  · exact Nat.le_succ pos
  · simp only [List.length_cons]
    omega

theorem reaches_of_step? {accept : Char → Bool} {c c' : Cursor} (h : c.step? accept = some c') :
    c.Reaches c' ∧ c'.pos = c.pos + 1 := by
  obtain ⟨passed, pos, after⟩ := c
  cases after with
  | nil => cases h
  | cons x r =>
    simp only [step?] at h
    split at h
    · cases h
      exact ⟨reaches_step passed pos x r, rfl⟩
    · cases h

theorem reaches_of_expect? {small : Char → Char} {t : Text} {c c' : Cursor} (h : c.expect? small t = some c') :
    c.Reaches c' := by
  induction t generalizing c with
  | nil =>
    cases h
    exact .refl _
  | cons x t ih =>
    obtain ⟨b, hb, h⟩ := Option.bind_eq_some_iff.1 h
    exact (reaches_of_step? hb).1.trans (ih h)

theorem reaches_of_exactly? {accept : Char → Bool} {n : Nat} {c c' : Cursor}
    (h : c.exactly? accept n = some c') : c.Reaches c' ∧ c'.pos = c.pos + n := by
  induction n generalizing c with
  | zero =>
    cases h
    exact ⟨.refl _, rfl⟩
  | succ n ih =>
    obtain ⟨b, hb, h⟩ := Option.bind_eq_some_iff.1 h
    obtain ⟨hcb, hpos⟩ := reaches_of_step? hb
    obtain ⟨hbc, hpos'⟩ := ih h
    exact ⟨hcb.trans hbc, by omega⟩

theorem reaches_of_mem_reachFrom {accept : Char → Bool} {start : Cursor} {seen : List Cursor}
    (hseen : ∀ e ∈ seen, start.Reaches e) {passed : Text} {pos : Nat} {most : Option Nat} {after : Text}
    (hhere : start.Reaches ⟨passed, pos, after⟩) :
    ∀ e ∈ reachFrom accept seen passed pos most after, start.Reaches e := by
  induction after generalizing seen passed pos most with
  | nil => exact List.forall_mem_cons.2 ⟨hhere, hseen⟩
  | cons x r ih =>
    unfold reachFrom
    split
    · exact ih (List.forall_mem_cons.2 ⟨hhere, hseen⟩) (hhere.trans (reaches_step _ _ _ _))
    · exact List.forall_mem_cons.2 ⟨hhere, hseen⟩

theorem reaches_of_mem_reach {accept : Char → Bool} {most : Option Nat} {c : Cursor} :
    ∀ e ∈ c.reach accept most, c.Reaches e :=
  reaches_of_mem_reachFrom (by simp) (.refl c)

end Cursor

namespace Pattern

/-- The pattern takes at least one character, in whichever way it matches. -/
def consumes : Pattern → Bool
  | .one _ => true
  | .run _ least _ _ => 0 < least
  | .seq a b => a.consumes || b.consumes
  | .alt a b | .ifKept _ a b => a.consumes && b.consumes
  | .repeated body least _ _ => 0 < least && body.consumes
  | .group _ body | .only body => body.consumes
  | .nothing | .again _ _ | .here _ | .ahead _ _ | .behind _ _ _ => false

/-- What succeeds after a body succeeds at a later place, beyond the first one if the body `moves`. -/
def Leads (moves : Bool) (body : Cursor → Captures → Rest → Way) : Prop :=
  ∀ c cs k r, body c cs k = some r →
    ∃ c' cs', c.Reaches c' ∧ (moves = true → c.pos < c'.pos) ∧ k c' cs' = some r

theorem Leads.weaken {moves : Bool} {body : Cursor → Captures → Rest → Way} (h : Leads moves body) :
    Leads false body := by
  intro c cs k r hr
  obtain ⟨c', cs', hreach, -, hk⟩ := h c cs k r hr
  exact ⟨c', cs', hreach, by simp, hk⟩

theorem Leads.exactly {moves : Bool} {body : Cursor → Captures → Rest → Way} (h : Leads moves body) (n : Nat) :
    Leads (0 < n && moves) (Pattern.exactly body n) := by
  induction n with
  | zero =>
    intro c cs k r hr
    exact ⟨c, cs, .refl c, by simp, hr⟩
  | succ n ih =>
    intro c cs k r hr
    obtain ⟨b, bs, hcb, hlt, hr⟩ := h c cs _ r hr
    obtain ⟨e, es, hbe, -, hk⟩ := ih b bs k r hr
    refine ⟨e, es, hcb.trans hbe, fun hm => ?_, hk⟩
    simp only [Bool.and_eq_true] at hm
    exact (hlt hm.2).trans_le hbe.le

theorem Leads.upTo {body : Cursor → Captures → Rest → Way} (h : Leads false body) (longest : Bool)
    (fuel : Nat) (most : Option Nat) : Leads false (Pattern.upTo body longest fuel most) := by
  induction fuel generalizing most with
  | zero =>
    intro c cs k r hr
    exact ⟨c, cs, .refl c, by simp, hr⟩
  | succ fuel ih =>
    intro c cs k r hr
    have hfurther {r : Cursor × Captures} (hr : (body c cs fun c' cs' =>
        if c'.pos == c.pos then k c' cs' else Pattern.upTo body longest fuel (most.map (· - 1)) c' cs' k) = some r) :
        ∃ c' cs', c.Reaches c' ∧ (false = true → c.pos < c'.pos) ∧ k c' cs' = some r := by
      obtain ⟨b, bs, hcb, -, hr⟩ := h c cs _ r hr
      split at hr
      · exact ⟨b, bs, hcb, by simp, hr⟩
      · obtain ⟨e, es, hbe, -, hk⟩ := ih _ b bs k r hr
        exact ⟨e, es, hcb.trans hbe, by simp, hk⟩
    have hstay {r : Cursor × Captures} (hr : k c cs = some r) :
        ∃ c' cs', c.Reaches c' ∧ (false = true → c.pos < c'.pos) ∧ k c' cs' = some r :=
      ⟨c, cs, .refl c, by simp, hr⟩
    simp only [Pattern.upTo] at hr
    split at hr
    · exact hstay hr
    · split at hr
      · rcases (Option.orElse_eq_some _ _ _).1 hr with hr | ⟨-, hr⟩
        · exact hfurther hr
        · exact hstay hr
      · rcases (Option.orElse_eq_some _ _ _).1 hr with hr | ⟨-, hr⟩
        · exact hstay hr
        · exact hfurther hr

/-- Matching a pattern leads to a later place, and beyond the first one if the pattern consumes. -/
theorem leads_attempt (size : Nat) (p : Pattern) : Leads p.consumes (attempt size p) := by
  induction p with
  | nothing =>
    intro c cs k r hr
    exact ⟨c, cs, .refl c, by simp [consumes], hr⟩
  | one accept =>
    intro c cs k r hr
    simp only [attempt] at hr
    split at hr
    · next c' hc' =>
      obtain ⟨hreach, hpos⟩ := Cursor.reaches_of_step? hc'
      exact ⟨c', cs, hreach, fun _ => by omega, hr⟩
    · cases hr
  | run accept least most longest =>
    intro c cs k r hr
    simp only [attempt] at hr
    split at hr
    · cases hr
    · next b hb =>
      obtain ⟨hcb, hpos⟩ := Cursor.reaches_of_exactly? hb
      obtain ⟨e, he, hk⟩ := List.exists_of_findSome?_eq_some hr
      have hbe : b.Reaches e := by
        split at he
        · exact Cursor.reaches_of_mem_reach e he
        · exact Cursor.reaches_of_mem_reach e (List.mem_reverse.1 he)
      refine ⟨e, cs, hcb.trans hbe, fun hm => ?_, hk⟩
      have hleast : 0 < least := by simpa [consumes] using hm
      have := hbe.le
      omega
  | seq a b iha ihb =>
    intro c cs k r hr
    obtain ⟨d, ds, hcd, hlt, hr⟩ := iha c cs _ r hr
    obtain ⟨e, es, hde, hlt', hk⟩ := ihb d ds k r hr
    refine ⟨e, es, hcd.trans hde, fun hm => ?_, hk⟩
    rcases Bool.or_eq_true_iff.1 hm with hm | hm
    · exact (hlt hm).trans_le hde.le
    · exact hcd.le.trans_lt (hlt' hm)
  | alt a b iha ihb =>
    intro c cs k r hr
    simp only [attempt] at hr
    split at hr
    · next hr' =>
      obtain ⟨c', cs', hreach, hlt, hk⟩ := iha c cs k _ hr'
      exact ⟨c', cs', hreach, fun hm => hlt (Bool.and_eq_true_iff.1 hm).1, hk.trans hr⟩
    · obtain ⟨c', cs', hreach, hlt, hk⟩ := ihb c cs k r hr
      exact ⟨c', cs', hreach, fun hm => hlt (Bool.and_eq_true_iff.1 hm).2, hk⟩
  | repeated body least most longest ih =>
    intro c cs k r hr
    obtain ⟨d, ds, hcd, hlt, hr⟩ := ih.exactly least c cs _ r hr
    obtain ⟨e, es, hde, -, hk⟩ := ih.weaken.upTo longest size _ d ds k r hr
    exact ⟨e, es, hcd.trans hde, fun hm => (hlt hm).trans_le hde.le, hk⟩
  | group n body ih =>
    intro c cs k r hr
    obtain ⟨c', cs', hreach, hlt, hk⟩ := ih c _ _ r hr
    exact ⟨c', _, hreach, hlt, hk⟩
  | again n small =>
    intro c cs k r hr
    simp only [attempt] at hr
    split at hr
    · cases hr
    · split at hr
      · next c' hc' => exact ⟨c', cs, Cursor.reaches_of_expect? hc', by simp [consumes], hr⟩
      · cases hr
  | here test =>
    intro c cs k r hr
    simp only [attempt] at hr
    split at hr
    · exact ⟨c, cs, .refl c, by simp [consumes], hr⟩
    · cases hr
  | ahead positive body ih | behind positive width body ih =>
    intro c cs k r hr
    simp only [attempt] at hr
    split at hr
    · split at hr
      · exact ⟨c, _, .refl c, by simp [consumes], hr⟩
      · cases hr
    · split at hr
      · cases hr
      · exact ⟨c, cs, .refl c, by simp [consumes], hr⟩
  | only body ih =>
    intro c cs k r hr
    simp only [attempt] at hr
    split at hr
    · next c' cs' hbody =>
      obtain ⟨d, ds, hreach, hlt, hd⟩ := ih c cs _ _ hbody
      cases hd
      exact ⟨c', cs', hreach, hlt, hr⟩
    · cases hr
  | ifKept n yes no ihy ihn =>
    intro c cs k r hr
    simp only [attempt] at hr
    split at hr
    · obtain ⟨c', cs', hreach, hlt, hk⟩ := ihy c cs k r hr
      exact ⟨c', cs', hreach, fun hm => hlt (Bool.and_eq_true_iff.1 hm).1, hk⟩
    · obtain ⟨c', cs', hreach, hlt, hk⟩ := ihn c cs k r hr
      exact ⟨c', cs', hreach, fun hm => hlt (Bool.and_eq_true_iff.1 hm).2, hk⟩

/-! ### Matches in a text -/

variable {size : Nat} {p : Pattern}

theorem matchAt?_some {advance : Bool} {c c' : Cursor} {m : Match} (h : matchAt? size p advance c = some (m, c')) :
    m.start = c.pos ∧ m.stop = c'.pos ∧ c.Reaches c' ∧ (p.consumes = true → c.pos < c'.pos) := by
  obtain ⟨⟨d, ds⟩, hd, hm⟩ := Option.map_eq_some_iff.1 h
  obtain ⟨e, es, hreach, hlt, he⟩ := leads_attempt size p c [] _ _ hd
  cases hm
  split at he
  · cases he
  · cases he
    exact ⟨rfl, rfl, hreach, hlt⟩

theorem searchFrom?_some {advance : Bool} {passed : Text} {pos : Nat} {t : Text} {m : Match} {c' : Cursor}
    (h : searchFrom? size p advance passed pos t = some (m, c')) :
    ∃ c, Cursor.Reaches ⟨passed, pos, t⟩ c ∧ m.start = c.pos ∧ m.stop = c'.pos ∧ c.Reaches c' ∧
      (p.consumes = true → c.pos < c'.pos) := by
  induction t generalizing advance passed pos with
  | nil => exact ⟨_, .refl _, matchAt?_some h⟩
  | cons x r ih =>
    unfold searchFrom? at h
    split at h
    · next hm =>
      cases h
      exact ⟨_, .refl _, matchAt?_some hm⟩
    · obtain ⟨c, hreach, hc⟩ := ih h
      exact ⟨c, (Cursor.reaches_step passed pos x r).trans hreach, hc⟩

/-- Matches lie within their text, one after the other. -/
theorem mem_matchesFrom {fuel : Nat} {advance : Bool} {c : Cursor} {m : Match}
    (h : m ∈ matchesFrom size p fuel advance c) :
    c.pos ≤ m.start ∧ m.start ≤ m.stop ∧ m.stop ≤ c.pos + c.after.length ∧
      (p.consumes = true → m.start < m.stop) := by
  induction fuel generalizing advance c with
  | zero => cases h
  | succ fuel ih =>
    unfold matchesFrom at h
    split at h
    · cases h
    · next m' c' hsearch =>
      obtain ⟨b, hcb, hstart, hstop, hbc, hlt⟩ := searchFrom?_some hsearch
      have htotal := hcb.total
      have htotal' := hbc.total
      have hle := hcb.le
      have hle' := hbc.le
      dsimp only at htotal hle
      rcases List.mem_cons.1 h with rfl | h
      · refine ⟨by omega, by omega, by omega, fun hp => ?_⟩
        have := hlt hp
        omega
      · obtain ⟨h1, h2, h3, h4⟩ := ih h
        exact ⟨by omega, h2, by omega, h4⟩

theorem mem_findAll {t : Text} {m : Match} (h : m ∈ p.findAll t) :
    m.start ≤ m.stop ∧ m.stop ≤ t.length ∧ (p.consumes = true → m.start < m.stop) := by
  obtain ⟨-, hle, hstop, hlt⟩ := mem_matchesFrom h
  exact ⟨hle, by simpa [Cursor.ofText] using hstop, hlt⟩

/-- For a pattern that consumes, more fuel than characters is enough. -/
theorem matchesFrom_fuel (hp : p.consumes = true) {fuel fuel' : Nat} {c : Cursor} (h : c.after.length < fuel)
    (h' : c.after.length < fuel') : matchesFrom size p fuel false c = matchesFrom size p fuel' false c := by
  induction fuel generalizing fuel' c with
  | zero => omega
  | succ fuel ih =>
    obtain ⟨fuel', rfl⟩ : ∃ n, fuel' = n + 1 := ⟨fuel' - 1, by omega⟩
    unfold matchesFrom
    split
    · rfl
    · next m c' hsearch =>
      obtain ⟨b, hcb, hstart, hstop, hbc, hlt⟩ := searchFrom?_some hsearch
      have hmoved := hlt hp
      have htotal := hcb.total
      have htotal' := hbc.total
      have hle := hcb.le
      dsimp only at htotal hle
      have hne : (m.start == m.stop) = false := by
        rw [beq_eq_false_iff_ne]
        omega
      rw [hne]
      exact congrArg (m :: ·) (ih (by omega) (by omega))

end Pattern

/-! ### What a match takes -/

namespace Cursor

theorem taken_of_step? {accept : Char → Bool} {c c' : Cursor} (h : c.step? accept = some c') :
    ∃ x, c.after = x :: c'.after ∧ accept x = true := by
  obtain ⟨passed, pos, after⟩ := c
  cases after with
  | nil => cases h
  | cons x r =>
    simp only [step?] at h
    split at h
    · next hx =>
      cases h
      exact ⟨x, rfl, hx⟩
    · cases h

theorem taken_of_exactly? {accept : Char → Bool} {n : Nat} {c c' : Cursor} (h : c.exactly? accept n = some c') :
    ∃ w, c.after = w ++ c'.after ∧ w.length = n ∧ ∀ x ∈ w, accept x = true := by
  induction n generalizing c with
  | zero =>
    cases h
    exact ⟨[], rfl, rfl, by simp⟩
  | succ n ih =>
    obtain ⟨b, hb, h⟩ := Option.bind_eq_some_iff.1 h
    obtain ⟨x, hx, haccept⟩ := taken_of_step? hb
    obtain ⟨w, hw, hlength, hall⟩ := ih h
    exact ⟨x :: w, by rw [hx, hw, List.cons_append], by rw [List.length_cons, hlength],
      List.forall_mem_cons.2 ⟨haccept, hall⟩⟩

theorem taken_of_mem_reachFrom {accept : Char → Bool} {total : Text} {seen : List Cursor}
    (hseen : ∀ e ∈ seen, ∃ w, total = w ++ e.after ∧ ∀ x ∈ w, accept x = true) {w passed : Text} {pos : Nat}
    {most : Option Nat} {after : Text} (htotal : total = w ++ after) (hw : ∀ x ∈ w, accept x = true) :
    ∀ e ∈ reachFrom accept seen passed pos most after, ∃ w, total = w ++ e.after ∧ ∀ x ∈ w, accept x = true := by
  induction after generalizing seen w passed pos most with
  | nil => exact List.forall_mem_cons.2 ⟨⟨w, htotal, hw⟩, hseen⟩
  | cons x r ih =>
    unfold reachFrom
    split
    · next hx =>
      refine ih (List.forall_mem_cons.2 ⟨⟨w, htotal, hw⟩, hseen⟩) (w := w ++ [x]) (by simpa using htotal) ?_
      exact List.forall_mem_append.2 ⟨hw, List.forall_mem_singleton.2 (Bool.and_eq_true_iff.1 hx).2⟩
    · exact List.forall_mem_cons.2 ⟨⟨w, htotal, hw⟩, hseen⟩

theorem taken_of_mem_reach {accept : Char → Bool} {most : Option Nat} {c : Cursor} :
    ∀ e ∈ c.reach accept most, ∃ w, c.after = w ++ e.after ∧ ∀ x ∈ w, accept x = true :=
  taken_of_mem_reachFrom (by simp) (List.nil_append _).symm (by simp)

end Cursor

namespace Pattern

/-- What succeeds after a body succeeds behind a text of a certain form, which the body takes. -/
def Takes (body : Cursor → Captures → Rest → Way) (form : Text → Prop) : Prop :=
  ∀ c cs k r, body c cs k = some r → ∃ w c' cs', c.after = w ++ c'.after ∧ form w ∧ k c' cs' = some r

theorem takes_one (size : Nat) (accept : Char → Bool) :
    Takes (attempt size (.one accept)) fun w => ∃ x, w = [x] ∧ accept x = true := by
  intro c cs k r hr
  simp only [attempt] at hr
  split at hr
  · next c' hc' =>
    obtain ⟨x, hx, haccept⟩ := Cursor.taken_of_step? hc'
    exact ⟨[x], c', cs, hx, ⟨x, rfl, haccept⟩, hr⟩
  · cases hr

theorem takes_run (size : Nat) (accept : Char → Bool) (least : Nat) (most : Option Nat) (longest : Bool) :
    Takes (attempt size (.run accept least most longest)) fun w =>
      least ≤ w.length ∧ ∀ x ∈ w, accept x = true := by
  intro c cs k r hr
  simp only [attempt] at hr
  split at hr
  · cases hr
  · next b hb =>
    obtain ⟨w, hw, hlength, hall⟩ := Cursor.taken_of_exactly? hb
    obtain ⟨e, he, hk⟩ := List.exists_of_findSome?_eq_some hr
    obtain ⟨v, hv, hall'⟩ : ∃ v, b.after = v ++ e.after ∧ ∀ x ∈ v, accept x = true := by
      split at he
      · exact Cursor.taken_of_mem_reach e he
      · exact Cursor.taken_of_mem_reach e (List.mem_reverse.1 he)
    refine ⟨w ++ v, e, cs, by rw [hw, hv, List.append_assoc], ⟨?_, List.forall_mem_append.2 ⟨hall, hall'⟩⟩, hk⟩
    rw [List.length_append, hlength]
    exact Nat.le_add_right least v.length

theorem Takes.seq {size : Nat} {p q : Pattern} {form form' : Text → Prop} (hp : Takes (attempt size p) form)
    (hq : Takes (attempt size q) form') :
    Takes (attempt size (p ++ q)) fun w => ∃ u v, w = u ++ v ∧ form u ∧ form' v := by
  intro c cs k r hr
  obtain ⟨u, d, ds, hu, hform, hr⟩ := hp c cs _ r hr
  obtain ⟨v, e, es, hv, hform', hk⟩ := hq d ds k r hr
  exact ⟨u ++ v, e, es, by rw [hu, hv, List.append_assoc], ⟨u, v, rfl, hform, hform'⟩, hk⟩

/-- Where a pattern is found, there is a text that it takes. -/
theorem taken_of_occursIn {p : Pattern} {form : Text → Prop} (hp : ∀ size, Takes (attempt size p) form) {t : Text}
    (h : p.occursIn t = true) : ∃ a w b, t = a ++ w ++ b ∧ form w := by
  have hsearch {size : Nat} {advance : Bool} {passed : Text} {pos : Nat} {t : Text} {x : Match × Cursor}
      (hx : searchFrom? size p advance passed pos t = some x) : ∃ a w b, t = a ++ w ++ b ∧ form w := by
    have hmatch {advance : Bool} {c : Cursor} {x : Match × Cursor} (hx : matchAt? size p advance c = some x) :
        ∃ a w b, c.after = a ++ w ++ b ∧ form w := by
      obtain ⟨y, hy, -⟩ := Option.map_eq_some_iff.1 hx
      obtain ⟨w, e, -, hw, hform, -⟩ := hp size c [] _ y hy
      exact ⟨[], w, e.after, hw, hform⟩
    induction t generalizing advance passed pos with
    | nil => exact hmatch hx
    | cons d r ih =>
      unfold searchFrom? at hx
      split at hx
      · next hm => exact hmatch hm
      · obtain ⟨a, w, b, rfl, hform⟩ := ih hx
        exact ⟨d :: a, w, b, rfl, hform⟩
  obtain ⟨m, hm⟩ := Option.isSome_iff_exists.1 h
  obtain ⟨x, hx, -⟩ := Option.map_eq_some_iff.1 hm
  exact hsearch hx

end Pattern

end ProblemLint
