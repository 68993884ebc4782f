import ProblemLint.Pattern.Reader
import ProblemLint.Proofs.Matching

/-! Matches below a line feed. A line feed before a text moves its matches by one position and changes nothing else,
for patterns that tell the start of a text from the start of a later line in no way, and that do not match at the
line feed itself. -/

namespace ProblemLint

/-- A place in a text, as a place of that text with a line feed before it. -/
def Cursor.lowered (c : Cursor) : Cursor := ⟨c.passed ++ ['\n'], c.pos + 1, c.after⟩

def Capture.lowered (g : Capture) : Capture := { g with start := g.start + 1 }

def Match.lowered (m : Match) : Match :=
  { m with start := m.start + 1, stop := m.stop + 1, captures := m.captures.map Capture.lowered }

namespace Match

@[simp] theorem start_lowered (m : Match) : m.lowered.start = m.start + 1 := rfl

@[simp] theorem stop_lowered (m : Match) : m.lowered.stop = m.stop + 1 := rfl

@[simp] theorem text_lowered (m : Match) : m.lowered.text = m.text := rfl

@[simp] theorem group_lowered (m : Match) (n : Nat) : m.lowered.group n = m.group n := by
  unfold group capture? lowered
  rw [List.find?_map, Option.map_map]
  rfl

end Match

namespace Cursor

theorem step?_lowered (accept : Char → Bool) (c : Cursor) :
    c.lowered.step? accept = (c.step? accept).map lowered := by
  obtain ⟨passed, pos, after⟩ := c
  cases after with
  | nil => rfl
  | cons x r =>
    simp only [step?, lowered]
    split <;> rfl

theorem expect?_lowered (small : Char → Char) (t : Text) (c : Cursor) :
    c.lowered.expect? small t = (c.expect? small t).map lowered := by
  induction t generalizing c with
  | nil => rfl
  | cons x t ih =>
    simp only [expect?, step?_lowered]
    cases c.step? (small · == small x) with
    | none => rfl
    | some c' => exact ih c'

theorem exactly?_lowered (accept : Char → Bool) (n : Nat) (c : Cursor) :
    c.lowered.exactly? accept n = (c.exactly? accept n).map lowered := by
  induction n generalizing c with
  | zero => rfl
  | succ n ih =>
    simp only [exactly?, step?_lowered]
    cases c.step? accept with
    | none => rfl
    | some c' => exact ih c'

theorem reachFrom_lowered (accept : Char → Bool) (seen : List Cursor) (passed : Text) (pos : Nat)
    (most : Option Nat) (after : Text) :
    reachFrom accept (seen.map lowered) (passed ++ ['\n']) (pos + 1) most after =
      (reachFrom accept seen passed pos most after).map lowered := by
  induction after generalizing seen passed pos most with
  | nil => rfl
  | cons x r ih =>
    unfold reachFrom
    split
    · exact ih (⟨passed, pos, x :: r⟩ :: seen) (x :: passed) (pos + 1) _
    · rfl

theorem reach_lowered (accept : Char → Bool) (most : Option Nat) (c : Cursor) :
    c.lowered.reach accept most = (c.reach accept most).map lowered :=
  reachFrom_lowered accept [] c.passed c.pos most c.after

theorem skip_lowered (n : Nat) (c : Cursor) : skip n c.lowered = (skip n c).lowered := by
  induction n generalizing c with
  | zero => rfl
  | succ n ih =>
    obtain ⟨passed, pos, after⟩ := c
    cases after with
    | nil => rfl
    | cons x r => exact ih ⟨x :: passed, pos + 1, r⟩

end Cursor

namespace Captures

theorem find?_lowered (cs : Captures) (n : Nat) :
    Captures.find? (cs.map Capture.lowered) n = (Captures.find? cs n).map Capture.lowered := List.find?_map

theorem reopen_lowered (cs : Captures) (n pos : Nat) :
    Captures.reopen (cs.map Capture.lowered) n (pos + 1) = (Captures.reopen cs n pos).map Capture.lowered := by
  unfold Captures.reopen
  rw [List.filter_map]
  congr 1
  refine List.filter_congr fun g _ => ?_
  have hiff : pos + 1 ≤ g.start + 1 + g.text.length ↔ pos ≤ g.start + g.text.length := by omega
  simp only [Function.comp, Capture.lowered, hiff]

theorem keep_lowered (cs : Captures) (n : Nat) (first last : Cursor) :
    Captures.keep (cs.map Capture.lowered) n first.lowered last.lowered =
      (Captures.keep cs n first last).map Capture.lowered := by
  simp only [Captures.keep, Cursor.lowered, Capture.lowered, List.map_cons, Nat.add_sub_add_right]

end Captures

namespace Pattern

/-- The pattern does not tell the start of a text from the place after a line feed. -/
def Movable : Pattern → Prop
  | .nothing | .one _ | .run _ _ _ _ | .again _ _ => True
  | .seq a b | .alt a b | .ifKept _ a b => a.Movable ∧ b.Movable
  | .group _ body | .only body | .ahead _ body => body.Movable
  | .here test => ∀ after, test none after = test (some '\n') after
  | .repeated _ _ _ _ | .behind _ _ _ => False

def Way.lowered (w : Way) : Way := w.map fun x => (x.1.lowered, x.2.map Capture.lowered)

theorem before_lowered {test : Option Char → Text → Bool} (h : ∀ after, test none after = test (some '\n') after)
    (c : Cursor) : test c.lowered.before c.after = test c.before c.after := by
  obtain ⟨passed, pos, after⟩ := c
  cases passed with
  | nil => exact (h after).symm
  | cons x r => rfl

theorem findSome?_lowered {k k' : Cursor → Way} (h : ∀ c, k' c.lowered = (k c).lowered) (ends : List Cursor) :
    (ends.map Cursor.lowered).findSome? k' = Way.lowered (ends.findSome? k) := by
  induction ends with
  | nil => rfl
  | cons e ends ih =>
    rw [List.map_cons, List.findSome?_cons, List.findSome?_cons, h e]
    cases k e with
    | none => exact ih
    | some x => rfl

/-- Matching a movable pattern below a line feed is matching it, one position further. -/
theorem attempt_lowered {p : Pattern} (hp : p.Movable) (size size' : Nat) (c : Cursor) (cs : Captures) {k k' : Rest}
    (hk : ∀ c cs, k' c.lowered (cs.map Capture.lowered) = (k c cs).lowered) :
    attempt size' p c.lowered (cs.map Capture.lowered) k' = (attempt size p c cs k).lowered := by
  induction p generalizing c cs k k' with
  | nothing => exact hk c cs
  | one accept =>
    simp only [attempt, Cursor.step?_lowered]
    cases c.step? accept with
    | none => rfl
    | some c' => exact hk c' cs
  | run accept least most longest =>
    simp only [attempt, Cursor.exactly?_lowered]
    cases c.exactly? accept least with
    | none => rfl
    | some c' =>
      simp only [Option.map_some, Cursor.reach_lowered, ← List.map_reverse, ← apply_ite]
      exact findSome?_lowered (fun e => hk e cs) _
  | seq a b iha ihb => exact iha hp.1 c cs fun c' cs' => ihb hp.2 c' cs' hk
  | alt a b iha ihb =>
    simp only [attempt, iha hp.1 c cs hk, ihb hp.2 c cs hk]
    cases attempt size a c cs k with
    | none => rfl
    | some x => rfl
  | repeated body least most longest ih => cases hp
  | group n body ih =>
    simp only [attempt]
    have hreopen := Captures.reopen_lowered cs n c.pos
    rw [show c.lowered.pos = c.pos + 1 from rfl, hreopen]
    refine ih hp c _ fun c' cs' => ?_
    rw [Captures.keep_lowered]
    exact hk c' _
  | again n small =>
    simp only [attempt, Captures.find?_lowered]
    cases Captures.find? cs n with
    | none => rfl
    | some g =>
      simp only [Option.map_some, Capture.lowered, Cursor.expect?_lowered]
      cases c.expect? small g.text with
      | none => rfl
      | some c' => exact hk c' cs
  | here test =>
    simp only [attempt]
    rw [show c.lowered.after = c.after from rfl, before_lowered hp]
    split
    · exact hk c cs
    · rfl
  | ahead positive body ih =>
    have hbody : attempt size' body c.lowered (cs.map Capture.lowered) (fun c' cs' => some (c', cs')) =
        Way.lowered (attempt size body c cs fun c' cs' => some (c', cs')) := ih hp c cs fun _ _ => rfl
    simp only [attempt, hbody]
    cases attempt size body c cs fun c' cs' => some (c', cs') with
    | none =>
      cases positive with
      | true => rfl
      | false => exact hk c cs
    | some x =>
      cases positive with
      | true => exact hk c x.2
      | false => rfl
  | behind positive width body ih => cases hp
  | only body ih =>
    have hbody : attempt size' body c.lowered (cs.map Capture.lowered) (fun c' cs' => some (c', cs')) =
        Way.lowered (attempt size body c cs fun c' cs' => some (c', cs')) := ih hp c cs fun _ _ => rfl
    simp only [attempt, hbody]
    cases attempt size body c cs fun c' cs' => some (c', cs') with
    | none => rfl
    | some x => exact hk x.1 x.2
  | ifKept n yes no ihy ihn =>
    simp only [attempt, Captures.find?_lowered, Option.isSome_map]
    split
    · exact ihy hp.1 c cs hk
    · exact ihn hp.2 c cs hk

section

variable {p : Pattern} (hp : p.Movable) (size size' : Nat)

include hp

theorem matchAt?_lowered (advance : Bool) (c : Cursor) :
    matchAt? size' p advance c.lowered =
      (matchAt? size p advance c).map fun x => (x.1.lowered, x.2.lowered) := by
  have hattempt : attempt size' p c.lowered []
      (fun c' cs => if advance && c'.pos == c.lowered.pos then none else some (c', cs)) =
      Way.lowered (attempt size p c [] fun c' cs => if advance && c'.pos == c.pos then none else some (c', cs)) := by
    refine attempt_lowered hp size size' c [] fun c' cs => ?_
    have hpos : (c'.lowered.pos == c.lowered.pos) = (c'.pos == c.pos) := by
      rw [Bool.eq_iff_iff, beq_iff_eq, beq_iff_eq]
      exact Nat.add_right_cancel_iff
    rw [hpos]
    split <;> rfl
  rw [matchAt?, matchAt?, hattempt, Way.lowered, Option.map_map, Option.map_map]
  congr 1
  funext x
  simp only [Function.comp, Match.lowered, Cursor.lowered, Nat.add_sub_add_right]

theorem searchFrom?_lowered (advance : Bool) (passed : Text) (pos : Nat) (t : Text) :
    searchFrom? size' p advance (passed ++ ['\n']) (pos + 1) t =
      (searchFrom? size p advance passed pos t).map fun x => (x.1.lowered, x.2.lowered) := by
  induction t generalizing advance passed pos with
  | nil => exact matchAt?_lowered hp size size' advance ⟨passed, pos, []⟩
  | cons x r ih =>
    have hhere := matchAt?_lowered hp size size' advance ⟨passed, pos, x :: r⟩
    simp only [Cursor.lowered] at hhere
    unfold searchFrom?
    rw [hhere]
    cases matchAt? size p advance ⟨passed, pos, x :: r⟩ with
    | none => exact ih false (x :: passed) (pos + 1)
    | some m => rfl

theorem matchesFrom_lowered (fuel : Nat) (advance : Bool) (c : Cursor) :
    matchesFrom size' p fuel advance c.lowered = (matchesFrom size p fuel advance c).map Match.lowered := by
  induction fuel generalizing advance c with
  | zero => rfl
  | succ fuel ih =>
    have hsearch := searchFrom?_lowered hp size size' advance c.passed c.pos c.after
    unfold matchesFrom
    rw [show c.lowered.passed = c.passed ++ ['\n'] from rfl, show c.lowered.pos = c.pos + 1 from rfl,
      show c.lowered.after = c.after from rfl, hsearch]
    cases searchFrom? size p advance c.passed c.pos c.after with
    | none => rfl
    | some x =>
      have hempty : (x.1.lowered.start == x.1.lowered.stop) = (x.1.start == x.1.stop) := by
        rw [Bool.eq_iff_iff, beq_iff_eq, beq_iff_eq]
        exact Nat.add_right_cancel_iff
      simp only [Option.map_some, List.map_cons, hempty, ih]

end

/-! ### Movable patterns -/

@[simp] theorem movable_append (a b : Pattern) : (a ++ b).Movable ↔ a.Movable ∧ b.Movable := Iff.rfl

@[simp] theorem movable_one (accept : Char → Bool) : (one accept).Movable := trivial

@[simp] theorem movable_run (accept : Char → Bool) (least : Nat) (most : Option Nat) (longest : Bool) :
    (run accept least most longest).Movable := trivial

@[simp] theorem movable_group (n : Nat) (p : Pattern) : (group n p).Movable ↔ p.Movable := Iff.rfl

@[simp] theorem movable_optional (p : Pattern) : (optional p).Movable ↔ p.Movable := and_iff_left trivial

@[simp] theorem movable_literal (t : Text) : (literal t).Movable := by
  induction t with
  | nil => trivial
  | cons c t ih => exact ⟨trivial, ih⟩

@[simp] theorem movable_text (s : String) : (text s).Movable := movable_literal _

@[simp] theorem movable_anyCase (s : String) : (anyCase s).Movable := by
  unfold anyCase
  induction s.toList with
  | nil => trivial
  | cons c t ih => exact ⟨trivial, ih⟩

theorem movable_firstOf {ps : List Pattern} (h : ∀ p ∈ ps, p.Movable) : (firstOf ps).Movable := by
  fun_induction firstOf ps with
  | case1 => exact fun _ => rfl
  | case2 p => exact h p List.mem_cons_self
  | case3 p ps _ ih =>
    obtain ⟨hp, hps⟩ := List.forall_mem_cons.1 h
    exact ⟨hp, ih hps⟩

@[simp] theorem movable_words (ws : List String) : (words ws).Movable :=
  movable_firstOf (List.forall_mem_map.2 fun w _ => movable_text w)

@[simp] theorem movable_wordsAnyCase (ws : List String) : (wordsAnyCase ws).Movable :=
  movable_firstOf (List.forall_mem_map.2 fun w _ => movable_anyCase w)

@[simp] theorem movable_oneOf (s : String) : (oneOf s).Movable := trivial

@[simp] theorem movable_many (accept : Char → Bool) : (many accept).Movable := trivial

@[simp] theorem movable_atLeastOne (accept : Char → Bool) : (atLeastOne accept).Movable := trivial

@[simp] theorem movable_blanks : blanks.Movable := trivial

@[simp] theorem movable_name : name.Movable := ⟨trivial, trivial⟩

theorem movable_edgeOf {isWord : Char → Bool} (h : isWord '\n' = false) : (edgeOf isWord).Movable := by
  intro after
  simp [h]

@[simp] theorem movable_wordEdge : wordEdge.Movable := movable_edgeOf (by decide)

@[simp] theorem movable_lineStart : lineStart.Movable := fun _ => rfl

/-! ### Written patterns -/

namespace Written

/-- The written pattern takes one character. -/
def isOne : Written → Bool
  | .code _ | .oneOf _ _ | .any => true
  | _ => false

/-- What is written stands for a movable pattern: repetitions are of single characters, and no look is behind. -/
def isMovable : Written → Bool
  | .nothing | .code _ | .oneOf _ _ | .any | .again _ _ => true
  | .edge e => e == .word || e == .lineEnd || e == .theEnd
  | .seq a b | .alt a b | .ifKept _ a b => a.isMovable && b.isMovable
  | .repeated _ _ _ body => body.isOne
  | .group _ _ _ body | .only body => body.isMovable
  | .look isAhead _ body => isAhead && body.isMovable

theorem meaning_of_isOne {w : Written} (h : w.isOne = true) (f : Flags) :
    ∃ accept, w.meaning f = .ok (.one accept) := by
  fun_cases isOne w with
  | case1 => exact ⟨_, rfl⟩
  | case2 negated ms =>
    unfold meaning
    split <;> simp_all
  | case3 => exact ⟨_, rfl⟩
  | case4 => simp_all [isOne]

theorem exists_of_bind_ok {α β ε : Type} {x : Except ε α} {f : α → Except ε β} {b : β} (h : x.bind f = .ok b) :
    ∃ a, x = .ok a ∧ f a = .ok b := by
  cases x with
  | error e => cases h
  | ok a => exact ⟨a, rfl, h⟩

theorem movable_meaning {w : Written} (h : w.isMovable = true) {f : Flags} {p : Pattern}
    (hp : w.meaning f = .ok p) : p.Movable := by
  induction w generalizing f p with
  | nothing | code n | any | again n w =>
    cases hp
    trivial
  | oneOf negated ms =>
    obtain ⟨accept, haccept⟩ := meaning_of_isOne (w := .oneOf negated ms) rfl f
    rw [haccept] at hp
    cases hp
    trivial
  | edge e =>
    cases hp
    cases e with
    | word => exact movable_edgeOf (by cases f.ascii <;> decide)
    | lineEnd =>
      show (if f.multiline then Pattern.lineEnd else Pattern.finish).Movable
      split <;> exact fun _ => rfl
    | theEnd => exact fun _ => rfl
    | lineStart | start | noWord => cases h
  | seq a b iha ihb | alt a b iha ihb | ifKept n a b iha ihb =>
    obtain ⟨ha, hb⟩ := Bool.and_eq_true_iff.1 h
    obtain ⟨q, hq, hp⟩ := exists_of_bind_ok hp
    obtain ⟨r, hr, hp⟩ := exists_of_bind_ok hp
    cases hp
    exact ⟨iha ha hq, ihb hb hr⟩
  | repeated least most greed body ih =>
    obtain ⟨accept, haccept⟩ := meaning_of_isOne h f
    simp only [meaning, haccept, bind, Except.bind] at hp
    split at hp
    · cases hp
    · cases hp
      cases greed <;> trivial
  | group number on off body ih =>
    obtain ⟨q, hq, hp⟩ := exists_of_bind_ok hp
    cases hp
    have hq' : q.Movable := ih h hq
    cases number <;> exact hq'
  | look isAhead positive body ih =>
    obtain ⟨hahead, hbody⟩ := Bool.and_eq_true_iff.1 h
    subst hahead
    obtain ⟨q, hq, hp⟩ := exists_of_bind_ok hp
    cases hp
    have hq' : q.Movable := ih hbody hq
    exact hq'
  | only body ih =>
    obtain ⟨q, hq, hp⟩ := exists_of_bind_ok hp
    cases hp
    have hq' : q.Movable := ih h hq
    exact hq'

theorem movable_searched {w : Written} (h : w.isMovable = true) {f : Flags} {p : Pattern}
    (hp : w.searched f = .ok p) : p.Movable := by
  obtain ⟨q, hq, hp⟩ := exists_of_bind_ok hp
  have hq' := movable_meaning h hq
  split at hp
  · cases hp
    split
    · exact ⟨fun _ => rfl, hq'⟩
    · exact hq'
  · cases hp
    exact hq'

end Written

/-- What a written pattern is read as, before it becomes a pattern to search for. -/
def written (t : Text) : Except PatternError (Written × Flags) := do
  let (w, s) ← Reading.whole.run { rest := ← tokens t }
  .ok (w, s.flags)

theorem movable_read {t : Text} (h : ((written t).toOption.any fun x => x.1.isMovable) = true) {p : Pattern}
    (hp : read t = .ok p) : p.Movable := by
  obtain ⟨ks, hks, hp⟩ := Written.exists_of_bind_ok hp
  obtain ⟨⟨w, s⟩, hw, hp⟩ := Written.exists_of_bind_ok hp
  have hwritten : written t = .ok (w, s.flags) := by
    simp only [written, bind, Except.bind, hks, hw]
  rw [hwritten] at h
  exact Written.movable_searched h hp

/-! ### The line feed itself -/

/-- At a line feed the pattern takes no character, in whichever way it matches there. -/
def stays : Pattern → Bool
  | .nothing | .here _ | .ahead _ _ | .behind _ _ _ => true
  | .one accept | .run accept _ _ _ => !accept '\n'
  | .seq a b | .alt a b | .ifKept _ a b => a.stays && b.stays
  | .group _ body | .only body => body.stays
  | .repeated _ _ _ _ | .again _ _ => false

/-- The pattern does not match at a line feed. -/
def rejects : Pattern → Bool
  | .one accept => !accept '\n'
  | .run accept least _ _ => 0 < least && !accept '\n'
  | .seq a b => a.rejects || (a.stays && b.rejects)
  | .alt a b | .ifKept _ a b => a.rejects && b.rejects
  | .group _ body | .only body => body.rejects
  | .ahead positive body => positive && body.rejects
  | .nothing | .here _ | .behind _ _ _ | .repeated _ _ _ _ | .again _ _ => false

theorem step?_newline {accept : Char → Bool} (h : accept '\n' = false) {c : Cursor} {r : Text}
    (hc : c.after = '\n' :: r) : c.step? accept = none := by
  simp [Cursor.step?, hc, h]

theorem reach_newline {accept : Char → Bool} (h : accept '\n' = false) (most : Option Nat) {c : Cursor} {r : Text}
    (hc : c.after = '\n' :: r) : c.reach accept most = [c] := by
  obtain ⟨passed, pos, after⟩ := c
  obtain rfl : after = '\n' :: r := hc
  simp [Cursor.reach, Cursor.reachFrom, h]

theorem exactly?_newline {accept : Char → Bool} (h : accept '\n' = false) {n : Nat} {c c' : Cursor} {r : Text}
    (hc : c.after = '\n' :: r) (hn : c.exactly? accept n = some c') : n = 0 ∧ c' = c := by
  cases n with
  | zero => exact ⟨rfl, (Option.some.inj hn).symm⟩
  | succ n => simp [Cursor.exactly?, step?_newline h hc] at hn

theorem attempt_of_stays {size : Nat} {p : Pattern} (hp : p.stays = true) {c : Cursor} {r : Text}
    (hc : c.after = '\n' :: r) {cs : Captures} {k : Rest} {x : Cursor × Captures}
    (h : attempt size p c cs k = some x) : ∃ cs', k c cs' = some x := by
  induction p generalizing cs k x with
  | nothing => exact ⟨cs, h⟩
  | one accept =>
    have haccept : accept '\n' = false := by simpa [stays] using hp
    simp [attempt, step?_newline haccept hc] at h
  | run accept least most longest =>
    have haccept : accept '\n' = false := by simpa [stays] using hp
    simp only [attempt] at h
    split at h
    · cases h
    · next c' hc' =>
      obtain ⟨-, rfl⟩ := exactly?_newline haccept hc hc'
      rw [reach_newline haccept _ hc] at h
      refine ⟨cs, ?_⟩
      cases longest <;> simpa using h
  | seq a b iha ihb =>
    obtain ⟨ha, hb⟩ := Bool.and_eq_true_iff.1 hp
    obtain ⟨cs', h⟩ := iha ha h
    exact ihb hb h
  | alt a b iha ihb =>
    obtain ⟨ha, hb⟩ := Bool.and_eq_true_iff.1 hp
    simp only [attempt] at h
    split at h
    · next h' => exact iha ha (h'.trans h)
    · exact ihb hb h
  | repeated body least most longest ih => cases hp
  | group n body ih =>
    obtain ⟨cs', h⟩ := ih hp h
    exact ⟨_, h⟩
  | again n small => cases hp
  | here test =>
    simp only [attempt] at h
    split at h
    · exact ⟨cs, h⟩
    · cases h
  | ahead positive body ih | behind positive width body ih =>
    simp only [attempt] at h
    split at h
    · split at h
      · exact ⟨_, h⟩
      · cases h
    · split at h
      · cases h
      · exact ⟨cs, h⟩
  | only body ih =>
    simp only [attempt] at h
    split at h
    · next c' cs' hbody =>
      obtain ⟨ds, hd⟩ := ih hp hbody
      cases hd
      exact ⟨_, h⟩
    · cases h
  | ifKept n yes no ihy ihn =>
    obtain ⟨hy, hn⟩ := Bool.and_eq_true_iff.1 hp
    simp only [attempt] at h
    split at h
    · exact ihy hy h
    · exact ihn hn h

theorem attempt_of_rejects {size : Nat} {p : Pattern} (hp : p.rejects = true) {c : Cursor} {r : Text}
    (hc : c.after = '\n' :: r) (cs : Captures) (k : Rest) : attempt size p c cs k = none := by
  induction p generalizing cs k with
  | one accept =>
    have haccept : accept '\n' = false := by simpa [rejects] using hp
    simp [attempt, step?_newline haccept hc]
  | run accept least most longest =>
    have haccept : 0 < least ∧ accept '\n' = false := by simpa [rejects] using hp
    simp only [attempt]
    cases hn : c.exactly? accept least with
    | none => rfl
    | some c' =>
      have := (exactly?_newline haccept.2 hc hn).1
      omega
  | seq a b iha ihb =>
    rcases Bool.or_eq_true_iff.1 hp with ha | hab
    · exact iha ha cs _
    · obtain ⟨ha, hb⟩ := Bool.and_eq_true_iff.1 hab
      by_contra hne
      obtain ⟨x, hx⟩ := Option.ne_none_iff_exists'.1 hne
      obtain ⟨cs', hb'⟩ := attempt_of_stays ha hc hx
      rw [ihb hb] at hb'
      cases hb'
  | alt a b iha ihb =>
    obtain ⟨ha, hb⟩ := Bool.and_eq_true_iff.1 hp
    simp only [attempt, iha ha, ihb hb]
  | group n body ih => exact ih hp _ _
  | ahead positive body ih =>
    obtain ⟨hpositive, hbody⟩ := Bool.and_eq_true_iff.1 hp
    simp only [attempt, ih hbody, hpositive, if_true]
  | only body ih => simp only [attempt, ih hp]
  | ifKept n yes no ihy ihn =>
    obtain ⟨hy, hn⟩ := Bool.and_eq_true_iff.1 hp
    simp only [attempt, ihy hy, ihn hn, ite_self]
  | nothing | here | behind | repeated | again => cases hp

/-! ### Whole texts -/

/-- A pattern finds the same in a text when a line feed is put before it. -/
structure Steady (p : Pattern) : Prop where
  movable : p.Movable
  rejects : p.rejects = true

theorem Steady.searchFrom?_newline {p : Pattern} (hp : p.Steady) (size size' : Nat) (t : Text) :
    searchFrom? size' p false [] 0 ('\n' :: t) =
      (searchFrom? size p false [] 0 t).map fun x => (x.1.lowered, x.2.lowered) := by
  have hfirst : matchAt? size' p false ⟨[], 0, '\n' :: t⟩ = none := by
    rw [matchAt?, attempt_of_rejects hp.rejects rfl]
    rfl
  rw [searchFrom?, hfirst]
  exact searchFrom?_lowered hp.movable size size' false [] 0 t

theorem Steady.search?_newline {p : Pattern} (hp : p.Steady) (t : Text) :
    p.search? ('\n' :: t) = (p.search? t).map Match.lowered := by
  rw [search?, search?, hp.searchFrom?_newline (t.length + 1), Option.map_map, Option.map_map]
  rfl

theorem Steady.occursIn_newline {p : Pattern} (hp : p.Steady) (t : Text) : p.occursIn ('\n' :: t) = p.occursIn t := by
  rw [occursIn, occursIn, hp.search?_newline, Option.isSome_map]

theorem searchAfter?_newline {p : Pattern} (hp : p.Movable) (t : Text) (pos : Nat) :
    p.searchAfter? ('\n' :: t) (pos + 1) = (p.searchAfter? t pos).map Match.lowered := by
  have hskip : Cursor.skip (pos + 1) (Cursor.ofText ('\n' :: t)) = (Cursor.skip pos (Cursor.ofText t)).lowered :=
    Cursor.skip_lowered pos (Cursor.ofText t)
  unfold searchAfter?
  simp only [hskip]
  rw [show (Cursor.skip pos (Cursor.ofText t)).lowered.passed = (Cursor.skip pos (Cursor.ofText t)).passed ++ ['\n']
    from rfl, show (Cursor.skip pos (Cursor.ofText t)).lowered.pos = (Cursor.skip pos (Cursor.ofText t)).pos + 1
    from rfl, searchFrom?_lowered hp (t.length + 1), Option.map_map, Option.map_map]
  rfl

theorem Steady.findAll_newline {p : Pattern} (hp : p.Steady) (hconsumes : p.consumes = true) (t : Text) :
    p.findAll ('\n' :: t) = (p.findAll t).map Match.lowered := by
  -- the first search passes over the line feed, whatever the fuel
  have hstart (size fuel : Nat) : matchesFrom size p (fuel + 1) false (Cursor.ofText ('\n' :: t)) =
      matchesFrom size p (fuel + 1) false (Cursor.ofText t).lowered := by
    unfold matchesFrom
    have hleft := hp.searchFrom?_newline size size t
    have hright := searchFrom?_lowered hp.movable size size false [] 0 t
    simp only [Cursor.ofText, Cursor.lowered]
    rw [hleft, hright]
  unfold findAll
  rw [hstart, matchesFrom_lowered hp.movable (t.length + 1)]
  congr 1
  refine matchesFrom_fuel hconsumes ?_ ?_ <;> simp only [Cursor.ofText, List.length_cons] <;> omega

end Pattern
end ProblemLint
