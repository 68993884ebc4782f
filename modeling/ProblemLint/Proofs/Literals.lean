import ProblemLint.Check.Wrapper
import ProblemLint.Proofs.Occurrences
import ProblemLint.Proofs.PlainCode
import ProblemLint.Proofs.SoundIssues

/-! Literals of a line, read in two ways. A reader that keeps track of quotes takes the character behind a backslash as
it is; the search for literals knows backslashes in pairs only, and takes the character behind a pair as it is. Both
read the same literals in a line just if each literal that is tracked has its backslashes in such pairs and no hidden
quote mark starts what looks like a literal. -/

namespace ProblemLint

namespace QuoteState

theorem inCode_iff {s : QuoteState} : s.inCode = true ↔ s = {} := by
  obtain ⟨quote, escaped⟩ := s
  cases quote <;> cases escaped <;> simp [inCode]

theorem step_quote_of_quiet {s : QuoteState} {c : Char} (h : s.escaped = true ∨ c = '\\') :
    (s.step c).quote = s.quote := by
  by_cases hescaped : s.escaped = true
  · simp [step, hescaped]
  · simp [step, hescaped, h.resolve_left hescaped]

theorem step_of_closes {s : QuoteState} {c : Char} (hs : s.quote ≠ .outside) (h : (s.step c).quote = .outside) :
    s.step c = {} := by
  by_cases hquiet : s.escaped = true ∨ c = '\\'
  · rw [step_quote_of_quiet hquiet] at h
    exact absurd h hs
  · obtain ⟨hescaped, hslash⟩ := not_or.1 hquiet
    obtain ⟨quote, escaped⟩ := s
    obtain rfl : escaped = false := by simpa using hescaped
    cases quote with
    | outside => exact absurd rfl hs
    | single =>
      by_cases hmark : c = '\''
      · simp [step, hmark]
      · simp [step, hslash, hmark] at h
    | double =>
      by_cases hmark : c = '"'
      · simp [step, hmark]
      · simp [step, hslash, hmark] at h

theorem exists_close {s : QuoteState} {t : Text} (hs : s.quote ≠ .outside) (h : (s.behind t).quote = .outside) :
    ∃ u v, t = u ++ v ∧ (∀ k < u.length, (s.behind (u.take k)).quote ≠ .outside) ∧ s.behind u = {} := by
  induction t generalizing s with
  | nil => exact absurd h hs
  | cons c t ih =>
    by_cases hc : (s.step c).quote = .outside
    · refine ⟨[c], t, rfl, ?_, step_of_closes hs hc⟩
      intro k hk
      obtain rfl : k = 0 := by simpa using hk
      exact hs
    · obtain ⟨u, v, rfl, hinside, hclose⟩ := ih hc h
      refine ⟨c :: u, v, rfl, ?_, hclose⟩
      intro k hk
      cases k with
      | zero => exact hs
      | succ k => exact hinside k (Nat.lt_of_succ_lt_succ hk)

end QuoteState

open QuoteState (behind behind_append)

/-! ### Tracked literals -/

def QuotesClosed (t : Text) : Prop := (behind {} t).quote = .outside

/-- A literal as it is tracked: from a quote mark up to where the quotes are closed for the first time. -/
structure Quoted (w : Text) : Prop where
  opens : ∃ q r, w = q :: r ∧ IsQuoteMark q
  inside : ∀ k, 0 < k → k < w.length → (behind {} (w.take k)).quote ≠ .outside
  closes : behind {} w = {}

/-- A tracked literal at a position of a text, where code is read. -/
def QuotedAt (t : Text) (pos : Nat) (w : Text) : Prop :=
  ∃ a b, t = a ++ (w ++ b) ∧ a.length = pos ∧ (behind {} a).inCode = true ∧ Quoted w

theorem Quoted.length_pos {w : Text} (h : Quoted w) : 0 < w.length := by
  obtain ⟨q, r, rfl, -⟩ := h.opens
  exact Nat.succ_pos r.length

theorem Quoted.length_le {w w' b b' : Text} (h : Quoted w) (h' : Quoted w') (heq : w ++ b = w' ++ b') :
    w'.length ≤ w.length := by
  by_contra hlt
  obtain ⟨v, rfl⟩ : w <+: w' := List.prefix_of_prefix_length_le ⟨b, heq⟩ (List.prefix_append w' b') (by omega)
  apply h'.inside w.length h.length_pos (by omega)
  rw [List.take_left, h.closes]

theorem Quoted.unique {w w' b b' : Text} (h : Quoted w) (h' : Quoted w') (heq : w ++ b = w' ++ b') : w = w' :=
  (List.append_inj heq (Nat.le_antisymm (h'.length_le h heq.symm) (h.length_le h' heq))).1

/-- A quote mark in code starts a tracked literal, if the quotes are closed. -/
theorem exists_quoted {q : Char} {t : Text} (hq : IsQuoteMark q) (h : QuotesClosed (q :: t)) :
    ∃ w r, q :: t = w ++ r ∧ Quoted w := by
  obtain ⟨u, v, rfl, hinside, hclose⟩ := QuoteState.exists_close (QuoteState.step_mark hq) h
  refine ⟨q :: u, v, rfl, ⟨q, u, rfl, hq⟩, ?_, hclose⟩
  intro k hpos hk
  obtain ⟨j, rfl⟩ := Nat.exists_eq_succ_of_ne_zero hpos.ne'
  exact hinside j (Nat.lt_of_succ_lt_succ hk)

/-- A piece of a line that is read as code on both sides: a character of no account, a hidden one with its backslash,
or a literal. -/
inductive Piece : Text → Prop
  | plain {c : Char} (hmark : ¬ IsQuoteMark c) (hslash : c ≠ '\\') : Piece [c]
  | hidden (c : Char) : Piece ['\\', c]
  | literal {w : Text} (hw : Quoted w) : Piece w

theorem Piece.behind_eq {x : Text} (h : Piece x) : behind {} x = {} := by
  cases h with
  | plain hmark hslash => exact QuoteState.step_of_plain hmark hslash
  | hidden c => rfl
  | literal hw => exact hw.closes

theorem Piece.length_pos {x : Text} (h : Piece x) : 0 < x.length := by
  cases h with
  | plain hmark hslash => exact Nat.one_pos
  | hidden c => exact Nat.two_pos
  | literal hw => exact hw.length_pos

theorem exists_piece {t : Text} (h : QuotesClosed t) : t = [] ∨ t = ['\\'] ∨ ∃ x r, t = x ++ r ∧ Piece x := by
  cases t with
  | nil => exact .inl rfl
  | cons c t =>
    by_cases hmark : IsQuoteMark c
    · obtain ⟨w, r, heq, hw⟩ := exists_quoted hmark h
      exact .inr (.inr ⟨w, r, heq, .literal hw⟩)
    · by_cases hslash : c = '\\'
      · subst hslash
        cases t with
        | nil => exact .inr (.inl rfl)
        | cons c t => exact .inr (.inr ⟨['\\', c], t, rfl, .hidden c⟩)
      · exact .inr (.inr ⟨[c], t, rfl, .plain hmark hslash⟩)

theorem QuotesClosed.of_append {x r : Text} (hx : behind {} x = {}) (h : QuotesClosed (x ++ r)) : QuotesClosed r := by
  rwa [QuotesClosed, behind_append, hx] at h

theorem quotedAt_append_iff {x r w : Text} {i : Nat} (hx : behind {} x = {}) :
    QuotedAt (x ++ r) (x.length + i) w ↔ QuotedAt r i w := by
  constructor
  · rintro ⟨a, b, ht, hlength, hcode, hw⟩
    obtain ⟨a', rfl⟩ : x <+: a := List.prefix_of_prefix_length_le ⟨r, ht⟩ (List.prefix_append a _) (by omega)
    rw [List.append_assoc] at ht
    rw [List.length_append] at hlength
    rw [behind_append, hx] at hcode
    exact ⟨a', b, List.append_cancel_left ht, by omega, hcode, hw⟩
  · rintro ⟨a, b, rfl, rfl, hcode, hw⟩
    refine ⟨x ++ a, b, by simp, by simp, ?_, hw⟩
    rwa [behind_append, hx]

theorem Quoted.eq_nil_of_code {x a v : Text} {q : Char} (h : Quoted x) (hsplit : x = a ++ q :: v)
    (hcode : behind {} a = {}) : a = [] := by
  by_contra hne
  apply h.inside a.length (List.length_pos_iff.2 hne) (by rw [hsplit]; simp)
  rw [hsplit, List.take_left, hcode]

/-- A piece with a quote mark is a literal, or the mark is hidden in it. -/
theorem Piece.quoted_or_hidden {x a v : Text} {q : Char} (hx : Piece x) (hsplit : x = a ++ q :: v)
    (hq : IsQuoteMark q) : Quoted x ∨ behind {} a = { escaped := true } := by
  cases hx with
  | plain hmark hslash =>
    cases a with
    | nil =>
      obtain ⟨rfl, -⟩ := List.cons.inj hsplit
      exact absurd hq hmark
    | cons d a => simp at hsplit
  | hidden c =>
    cases a with
    | nil =>
      obtain ⟨rfl, -⟩ := List.cons.inj hsplit
      rcases hq with hq | hq <;> cases hq
    | cons d a =>
      obtain ⟨rfl, hrest⟩ := List.cons.inj hsplit
      cases a with
      | nil => exact .inr rfl
      | cons d a => simp at hrest
  | literal hw => exact .inl hw

/-- A tracked literal starts a piece, and is all of it, or it stands behind the piece. -/
theorem quotedAt_piece_iff {x r w : Text} {i : Nat} (hx : Piece x) :
    QuotedAt (x ++ r) i w ↔ (i = 0 ∧ w = x ∧ Quoted x) ∨ ∃ j, i = x.length + j ∧ QuotedAt r j w := by
  constructor
  · intro h
    by_cases hle : x.length ≤ i
    · obtain ⟨j, rfl⟩ := Nat.exists_eq_add_of_le hle
      exact .inr ⟨j, rfl, (quotedAt_append_iff hx.behind_eq).1 h⟩
    · left
      obtain ⟨a, b, heq, rfl, hcode, hw⟩ := h
      obtain ⟨q, s, rfl, hq⟩ := hw.opens
      obtain ⟨v, hsplit, -⟩ := Text.split_within heq.symm (Nat.lt_of_not_le hle)
      rw [QuoteState.inCode_iff] at hcode
      rcases hx.quoted_or_hidden hsplit hq with hx | hhidden
      · obtain rfl := hx.eq_nil_of_code hsplit hcode
        exact ⟨rfl, hw.unique hx heq.symm, hx⟩
      · rw [hcode] at hhidden
        cases hhidden
  · rintro (⟨rfl, rfl, hw⟩ | ⟨j, rfl, hw⟩)
    · exact ⟨[], r, rfl, rfl, rfl, hw⟩
    · exact (quotedAt_append_iff hx.behind_eq).2 hw

/-! ### The search for literals -/

/-- What stands between the quote marks of a literal that is found: characters other than the mark and the backslash,
and pairs of backslashes, each with the character behind it. -/
inductive PairedBody (q : Char) : Text → Prop
  | nil : PairedBody q []
  | plain {c : Char} {r : Text} (hmark : c ≠ q) (hslash : c ≠ '\\') (hr : PairedBody q r) : PairedBody q (c :: r)
  | pair {c : Char} {r : Text} (hc : c ≠ '\n') (hr : PairedBody q r) : PairedBody q ('\\' :: '\\' :: c :: r)

def PairedLiteral (w : Text) : Prop := ∃ q body, IsQuoteMark q ∧ PairedBody q body ∧ w = q :: (body ++ [q])

theorem literalClose?_eq_some_iff {q : Char} (hq : q ≠ '\\') {t : Text} {n : Nat} :
    literalClose? q t = some n ↔ ∃ body r, t = body ++ q :: r ∧ PairedBody q body ∧ n = body.length + 1 := by
  constructor
  · intro h
    fun_induction literalClose? q t generalizing n with
    | case1 => cases h
    | case2 c r hc => cases h
    | case3 c r hc ih =>
      obtain ⟨m, hm, rfl⟩ := Option.map_eq_some_iff.1 h
      obtain ⟨body, s, rfl, hbody, rfl⟩ := ih hm
      exact ⟨_, s, rfl, .pair (by simpa using hc) hbody, by simp⟩
    | case4 c r _ hc =>
      cases h
      exact ⟨[], r, by simpa using hc, .nil, rfl⟩
    | case5 c r _ _ hc => cases h
    | case6 c r _ hmark hc ih =>
      obtain ⟨m, hm, rfl⟩ := Option.map_eq_some_iff.1 h
      obtain ⟨body, s, rfl, hbody, rfl⟩ := ih hm
      exact ⟨_, s, rfl, .plain (by simpa using hmark) (by simpa using hc) hbody, by simp⟩
  · rintro ⟨body, r, rfl, hbody, rfl⟩
    induction hbody with
    | nil => simp [literalClose?, hq]
    | plain hmark hslash hr ih => simp [literalClose?, hmark, hslash, ih]
    | pair hc hr ih => simp [literalClose?, hc, ih]

theorem literalAt?_eq_some_iff {before : Option Char} {t w : Text} {n : Nat} :
    literalAt? before t = some (w, n) ↔ PairedLiteral w ∧ w.length = n ∧ ∃ r, t = w ++ r := by
  have hne {q : Char} (hq : IsQuoteMark q) : q ≠ '\\' := by
    rintro rfl
    rcases hq with hq | hq <;> cases hq
  constructor
  · intro h
    cases t with
    | nil => cases h
    | cons q t =>
      simp only [literalAt?, Bool.or_eq_true, beq_iff_eq, Option.ite_none_right_eq_some, Option.map_eq_some_iff,
        Prod.mk.injEq] at h
      obtain ⟨hq, m, hm, rfl, rfl⟩ := h
      obtain ⟨body, r, rfl, hbody, rfl⟩ := (literalClose?_eq_some_iff (hne hq)).1 hm
      have htake : (body ++ q :: r).take (body.length + 1) = body ++ [q] := by simp [List.take_append]
      rw [htake]
      exact ⟨⟨q, body, hq, hbody, rfl⟩, by simp, r, by simp⟩
  · rintro ⟨⟨q, body, hq, hbody, rfl⟩, rfl, r, rfl⟩
    have hclose := (literalClose?_eq_some_iff (hne hq)).2 ⟨body, r, rfl, hbody, rfl⟩
    have hmark : (q == '\'' || q == '"') = true := by simpa [IsQuoteMark] using hq
    simp [literalAt?, hmark, hclose, List.take_append]

theorem PairedLiteral.opens {w : Text} (h : PairedLiteral w) : ∃ q r, w = q :: r ∧ IsQuoteMark q := by
  obtain ⟨q, body, hq, -, rfl⟩ := h
  exact ⟨q, body ++ [q], rfl, hq⟩

theorem foundAt_literalAt?_iff {t w : Text} {p n : Nat} :
    FoundAt literalAt? t p w n ↔ PairedLiteral w ∧ w.length = n ∧ ∃ a b, t = a ++ (w ++ b) ∧ a.length = p := by
  constructor
  · rintro ⟨hlt, hfind⟩
    obtain ⟨hw, hn, b, hdrop⟩ := literalAt?_eq_some_iff.1 hfind
    refine ⟨hw, hn, t.take p, b, ?_, List.length_take_of_le hlt.le⟩
    rw [← hdrop, List.take_append_drop]
  · rintro ⟨hw, rfl, a, b, rfl, rfl⟩
    constructor
    · obtain ⟨q, r, rfl, -⟩ := hw.opens
      simp
    · rw [List.drop_left]
      exact literalAt?_eq_some_iff.2 ⟨hw, rfl, b, rfl⟩

/-! ### Where both agree -/

/-- The search finds the literals that are tracked. -/
def LiteralsTracked (t : Text) : Prop := ∀ p w, (p, w) ∈ occurrences literalAt? t ↔ QuotedAt t p w

/-- A hidden quote mark outside of literals starts what looks like a literal. -/
def HasHiddenLiteral (t : Text) : Prop :=
  ∃ a w b, t = a ++ (w ++ b) ∧ behind {} a = { escaped := true } ∧ PairedLiteral w

/-- A closed text with backslashes as the search expects them. -/
structure PairedOnly (t : Text) : Prop where
  closed : QuotesClosed t
  literals : ∀ p w, QuotedAt t p w → PairedLiteral w
  hidden : ¬ HasHiddenLiteral t

theorem PairedOnly.of_append {x r : Text} (hx : behind {} x = {}) (h : PairedOnly (x ++ r)) : PairedOnly r where
  closed := h.closed.of_append hx
  literals p w hw := h.literals (x.length + p) w ((quotedAt_append_iff hx).2 hw)
  hidden := by
    rintro ⟨a, w, b, rfl, ha, hw⟩
    apply h.hidden
    refine ⟨x ++ a, w, b, by simp, ?_, hw⟩
    rw [behind_append, hx, ha]

theorem Piece.literalAt?_eq_none {x r u v : Text} (hx : Piece x) (h : PairedOnly (x ++ r)) (hq : ¬ Quoted x)
    (huv : u ++ v = x) (hv : v ≠ []) (before : Option Char) : literalAt? before (v ++ r) = none := by
  rw [Option.eq_none_iff_forall_ne_some]
  rintro ⟨w, n⟩ hfind
  obtain ⟨hw, -, b, heq⟩ := literalAt?_eq_some_iff.1 hfind
  obtain ⟨c, v, rfl⟩ := List.exists_cons_of_ne_nil hv
  obtain ⟨q, s, rfl, hmark⟩ := hw.opens
  obtain ⟨rfl, -⟩ := List.cons.inj heq
  have hhidden := (hx.quoted_or_hidden huv.symm hmark).resolve_left hq
  apply h.hidden
  exact ⟨u, _, b, by rw [← huv, List.append_assoc, heq], hhidden, hw⟩

theorem mem_occurrencesFrom_piece_iff {x r : Text} (hx : Piece x) (h : PairedOnly (x ++ r)) (before : Option Char)
    (pos : Nat) :
    ∃ before', ∀ y, y ∈ occurrencesFrom literalAt? 0 before pos (x ++ r) ↔
      (y = (pos, x) ∧ Quoted x) ∨ y ∈ occurrencesFrom literalAt? 0 before' (pos + x.length) r := by
  by_cases hq : Quoted x
  · have hpaired : PairedLiteral x := h.literals 0 x ⟨[], r, rfl, rfl, rfl, hq⟩
    have hhere : literalAt? before (x ++ r) = some (x, x.length) :=
      literalAt?_eq_some_iff.2 ⟨hpaired, rfl, r, rfl⟩
    obtain ⟨before', hfound⟩ := occurrencesFrom_found (List.length_pos_iff.1 hq.length_pos) hhere pos
    refine ⟨before', fun y => ?_⟩
    rw [hfound, List.mem_cons, and_iff_left hq]
  · obtain ⟨before', hpass⟩ := occurrencesFrom_pass (fun _ _ => hx.literalAt?_eq_none h hq) before pos
    refine ⟨before', fun y => ?_⟩
    rw [hpass]
    simp [hq]

theorem QuotedAt.exists_mark {t w : Text} {i : Nat} (h : QuotedAt t i w) : ∃ q ∈ t, IsQuoteMark q := by
  obtain ⟨a, b, rfl, -, -, hw⟩ := h
  obtain ⟨q, r, rfl, hq⟩ := hw.opens
  exact ⟨q, by simp, hq⟩

/-- The search lists the tracked literals. One piece is read after the other, and behind each the text is as before. -/
theorem PairedOnly.mem_occurrencesFrom_iff {t : Text} (h : PairedOnly t) (before : Option Char) (pos : Nat)
    (y : Nat × Text) :
    y ∈ occurrencesFrom literalAt? 0 before pos t ↔ ∃ i, y.1 = pos + i ∧ QuotedAt t i y.2 := by
  induction hsize : t.length using Nat.strong_induction_on generalizing t before pos with
  | _ n ih =>
    subst hsize
    rcases exists_piece h.closed with rfl | rfl | ⟨x, r, rfl, hx⟩
    · refine ⟨fun hy => absurd hy List.not_mem_nil, ?_⟩
      rintro ⟨i, -, hy⟩
      obtain ⟨q, hq, -⟩ := hy.exists_mark
      cases hq
    · refine ⟨fun hy => absurd hy List.not_mem_nil, ?_⟩
      rintro ⟨i, -, hy⟩
      obtain ⟨q, hq, hmark⟩ := hy.exists_mark
      obtain rfl := List.mem_singleton.1 hq
      rcases hmark with hmark | hmark <;> cases hmark
    · have hlt : r.length < (x ++ r).length := by
        have hpos := hx.length_pos
        rw [List.length_append]
        omega
      obtain ⟨before', hmem⟩ := mem_occurrencesFrom_piece_iff hx h before pos
      rw [hmem, ih r.length hlt (h.of_append hx.behind_eq) before' (pos + x.length) rfl]
      constructor
      · rintro (⟨rfl, hq⟩ | ⟨j, hj, hy⟩)
        · exact ⟨0, rfl, (quotedAt_piece_iff hx).2 (.inl ⟨rfl, rfl, hq⟩)⟩
        · exact ⟨x.length + j, by omega, (quotedAt_piece_iff hx).2 (.inr ⟨j, rfl, hy⟩)⟩
      · rintro ⟨i, hi, hy⟩
        rcases (quotedAt_piece_iff hx).1 hy with ⟨rfl, hw, hq⟩ | ⟨j, rfl, hrest⟩
        · exact .inl ⟨Prod.ext hi hw, hq⟩
        · exact .inr ⟨j, by omega, hrest⟩

theorem PairedOnly.literalsTracked {t : Text} (h : PairedOnly t) : LiteralsTracked t := by
  intro p w
  have hlisted := h.mem_occurrencesFrom_iff none 0 (p, w)
  simpa [occurrences] using hlisted

/-- In a tracked literal, all but the start is read in quotes. -/
theorem QuotedAt.inside {t a r w : Text} {p : Nat} (h : QuotedAt t p w) (ht : t = a ++ r) (hlt : p < a.length)
    (hlt' : a.length < p + w.length) : (behind {} a).quote ≠ .outside := by
  obtain ⟨d, b, heq, rfl, hcode, hw⟩ := h
  rw [ht] at heq
  obtain ⟨v, rfl⟩ : d <+: a := List.prefix_of_prefix_length_le ⟨w ++ b, heq.symm⟩ (List.prefix_append a r) hlt.le
  rw [List.length_append] at hlt hlt'
  rw [List.append_assoc] at heq
  obtain ⟨v', rfl⟩ : v <+: w :=
    List.prefix_of_prefix_length_le ⟨r, List.append_cancel_left heq⟩ (List.prefix_append w b) (by omega)
  rw [behind_append, QuoteState.inCode_iff.1 hcode]
  have hinside := hw.inside v.length (by omega) (by omega)
  rwa [List.take_left] at hinside

theorem LiteralsTracked.pairedLiteral {t w : Text} {p : Nat} (h : LiteralsTracked t) (hw : QuotedAt t p w) :
    PairedLiteral w := by
  obtain ⟨n, hfound⟩ := foundAt_of_mem_occurrences ((h p w).2 hw)
  exact (foundAt_literalAt?_iff.1 hfound).1

theorem LiteralsTracked.not_hidden {t : Text} (h : LiteralsTracked t) : ¬ HasHiddenLiteral t := by
  rintro ⟨a, w, b, ht, ha, hw⟩
  have hfound : FoundAt literalAt? t a.length w w.length := foundAt_literalAt?_iff.2 ⟨hw, rfl, a, b, ht, rfl⟩
  rcases mem_occurrences_or_covered hfound with hmem | ⟨⟨p, w'⟩, hmem, n, hcover, hlt, hlt'⟩
  · obtain ⟨d, b', heq, hlength, hcode, -⟩ := (h _ _).1 hmem
    obtain ⟨rfl, -⟩ := List.append_inj (heq.symm.trans ht) hlength
    rw [ha] at hcode
    cases hcode
  · obtain ⟨-, rfl, -⟩ := foundAt_literalAt?_iff.1 hcover
    apply ((h _ _).1 hmem).inside ht hlt hlt'
    rw [ha]

theorem literalsTracked_iff {t : Text} (hclosed : QuotesClosed t) :
    LiteralsTracked t ↔ (∀ p w, QuotedAt t p w → PairedLiteral w) ∧ ¬ HasHiddenLiteral t := by
  constructor
  · intro h
    exact ⟨fun p w hw => h.pairedLiteral hw, h.not_hidden⟩
  · rintro ⟨hliterals, hhidden⟩
    exact PairedOnly.literalsTracked ⟨hclosed, hliterals, hhidden⟩

/-! ### Lines without backslashes -/

theorem escaped_behind {s : QuoteState} {t : Text} (hs : s.escaped = false) (ht : '\\' ∉ t) :
    (s.behind t).escaped = false := by
  induction t generalizing s with
  | nil => exact hs
  | cons c t ih =>
    rw [List.mem_cons, not_or] at ht
    apply ih _ ht.2
    obtain ⟨quote, escaped⟩ := s
    obtain rfl : escaped = false := hs
    cases quote <;> simp only [QuoteState.step] <;> split_ifs <;> simp_all

theorem pairedBody_of_close {q : Char} {u : Text} (hq : IsQuoteMark q) (hslash : '\\' ∉ u)
    (hinside : ∀ k < u.length, ((QuoteState.step {} q).behind (u.take k)).quote ≠ .outside)
    (hclose : (QuoteState.step {} q).behind u = {}) : ∃ body, u = body ++ [q] ∧ PairedBody q body := by
  induction u with
  | nil =>
    apply absurd _ (QuoteState.step_mark hq)
    exact congrArg QuoteState.quote hclose
  | cons c u ih =>
    rw [List.mem_cons, not_or] at hslash
    have hstep := QuoteState.step_in_quotes hq (Ne.symm hslash.1)
    by_cases hc : c = q
    · -- the mark closes, so nothing stands behind it
      subst hc
      rw [if_pos rfl] at hstep
      cases u with
      | nil => exact ⟨[], rfl, .nil⟩
      | cons d u =>
        apply absurd _ (hinside 1 (by simp))
        exact congrArg QuoteState.quote hstep
    · rw [if_neg hc] at hstep
      have hlater (v : Text) : (QuoteState.step {} q).behind (c :: v) = (QuoteState.step {} q).behind v :=
        congrArg (behind · v) hstep
      obtain ⟨body, rfl, hbody⟩ := ih hslash.2
        (fun k hk => hlater _ ▸ hinside (k + 1) (Nat.succ_lt_succ hk)) (hlater u ▸ hclose)
      exact ⟨c :: body, rfl, .plain hc (Ne.symm hslash.1) hbody⟩

theorem Quoted.pairedLiteral {w : Text} (h : Quoted w) (hslash : '\\' ∉ w) : PairedLiteral w := by
  obtain ⟨q, u, rfl, hq⟩ := h.opens
  obtain ⟨body, rfl, hbody⟩ := pairedBody_of_close hq (fun hu => hslash (List.mem_cons_of_mem q hu))
    (fun k hk => h.inside (k + 1) (Nat.succ_pos k) (Nat.succ_lt_succ hk)) h.closes
  exact ⟨q, body, hq, hbody, rfl⟩

theorem literalsTracked_of_no_backslash {t : Text} (hclosed : QuotesClosed t) (hslash : '\\' ∉ t) :
    LiteralsTracked t := by
  refine (literalsTracked_iff hclosed).2 ⟨?_, ?_⟩
  · rintro p w ⟨a, b, rfl, -, -, hw⟩
    exact hw.pairedLiteral fun h => hslash (by simp [h])
  · rintro ⟨a, w, b, rfl, ha, -⟩
    have hescaped := escaped_behind (s := {}) rfl fun h => hslash (List.mem_append_left (w ++ b) h)
    rw [ha] at hescaped
    cases hescaped

/-! ### The warning about tag wrappers -/

theorem stripComment_eq_self {t : Text} (h : '#' ∉ t) : stripComment t = t := by
  rw [stripComment, ← QuoteState.flags_start, commentFrom?_eq_none h]

theorem numberedLines_unique {t l l' : Text} {n : Nat} (h : (n, l) ∈ numberedLines t) (h' : (n, l') ∈ numberedLines t) :
    l = l' := by
  simp only [numberedLines, List.mem_mapIdx, Prod.mk.injEq] at h h'
  obtain ⟨i, hi, rfl, rfl⟩ := h
  obtain ⟨j, hj, hij, rfl⟩ := h'
  obtain rfl : j = i := Nat.succ.inj hij
  rfl

namespace Check

def HasWrapperToken (w : Text) : Prop := ∃ token ∈ wrapperTokens, Text.includes w token = true

theorem wrapperWarning_inj {n m : Nat} (h : wrapperWarning n = wrapperWarning m) : n = m := by
  simpa [wrapperWarning, Issue.onLine] using h

theorem mem_found_wrapperInString_iff {d : Document} {n : Nat} {l : Text} (hl : (n, l) ∈ numberedLines d.code)
    (hcomment : '#' ∉ l) :
    wrapperWarning n ∈ wrapperInString.found d ↔ ∃ p w, (p, w) ∈ occurrences literalAt? l ∧ HasWrapperToken w := by
  simp only [wrapperInString, found_reporting, codeLines, List.mem_flatMap, List.mem_map, List.mem_filter,
    List.any_eq_true, Prod.exists]
  constructor
  · rintro ⟨n', l', ⟨m, u, hu, heq⟩, p, w, ⟨hw, htoken⟩, hwarning⟩
    obtain ⟨rfl, rfl⟩ := Prod.mk.inj heq
    obtain rfl : m = n := wrapperWarning_inj hwarning
    obtain rfl : u = l := numberedLines_unique hu hl
    rw [stripComment_eq_self hcomment] at hw
    exact ⟨p, w, hw, htoken⟩
  · rintro ⟨p, w, hw, htoken⟩
    refine ⟨n, stripComment l, ⟨n, l, hl, rfl⟩, p, w, ⟨?_, htoken⟩, rfl⟩
    rwa [stripComment_eq_self hcomment]

end Check

/-- What the search for literals makes of a line without a comment in which all quotes are closed. It finds the tracked
literals just if these have their backslashes in pairs and no hidden quote mark starts what looks like one; this is so
on every line without a backslash. Where it is so, the line is warned about just if a tracked literal has a part of a
tag wrapper. -/
theorem literals_account {l : Text} (hcomment : '#' ∉ l) (hclosed : QuotesClosed l) :
    (LiteralsTracked l ↔ (∀ p w, QuotedAt l p w → PairedLiteral w) ∧ ¬ HasHiddenLiteral l) ∧
      ('\\' ∉ l → LiteralsTracked l) ∧
      (LiteralsTracked l → ∀ d n, (n, l) ∈ numberedLines d.code →
        (Check.wrapperWarning n ∈ Check.wrapperInString.found d ↔
          ∃ p w, QuotedAt l p w ∧ Check.HasWrapperToken w)) := by
  refine ⟨literalsTracked_iff hclosed, literalsTracked_of_no_backslash hclosed, ?_⟩
  intro htracked d n hl
  rw [Check.mem_found_wrapperInString_iff hl hcomment]
  constructor
  · rintro ⟨p, w, hw, htoken⟩
    exact ⟨p, w, (htracked p w).1 hw, htoken⟩
  · rintro ⟨p, w, hw, htoken⟩
    exact ⟨p, w, (htracked p w).2 hw, htoken⟩

/-- A wrapper behind a mark of the other kind, before a literal with such a mark. -/
theorem wrapper_line_warned :
    '#' ∉ "$x = '\"[<' . \"it's\";".toList ∧ QuotesClosed "$x = '\"[<' . \"it's\";".toList ∧
      LiteralsTracked "$x = '\"[<' . \"it's\";".toList ∧
      ∀ d n, (n, "$x = '\"[<' . \"it's\";".toList) ∈ numberedLines d.code →
        Check.wrapperWarning n ∈ Check.wrapperInString.found d := by
  have hcomment : '#' ∉ "$x = '\"[<' . \"it's\";".toList := by decide
  have hclosed : QuotesClosed "$x = '\"[<' . \"it's\";".toList := rfl
  obtain ⟨-, hplain, hwarned⟩ := literals_account hcomment hclosed
  have htracked := hplain (by decide)
  refine ⟨hcomment, hclosed, htracked, ?_⟩
  intro d n hl
  refine (hwarned htracked d n hl).2 ⟨5, "'\"[<'".toList, ?_, "[<", by decide, by decide⟩
  exact (htracked _ _).1 (by decide)

/-- A mark behind a single backslash ends the search in a literal, and the rest of the literal is taken for one. -/
theorem hidden_mark_not_warned :
    '#' ∉ "$x = '[< \\' a';".toList ∧ QuotesClosed "$x = '[< \\' a';".toList ∧
      QuotedAt "$x = '[< \\' a';".toList 5 "'[< \\' a'".toList ∧ Check.HasWrapperToken "'[< \\' a'".toList ∧
      occurrences literalAt? "$x = '[< \\' a';".toList = [(10, "' a'".toList)] ∧
      ∀ d n, (n, "$x = '[< \\' a';".toList) ∈ numberedLines d.code →
        Check.wrapperWarning n ∉ Check.wrapperInString.found d := by
  have hcomment : '#' ∉ "$x = '[< \\' a';".toList := by decide
  have hfound : occurrences literalAt? "$x = '[< \\' a';".toList = [(10, "' a'".toList)] := by decide
  refine ⟨hcomment, rfl, ⟨"$x = ".toList, [';'], rfl, rfl, rfl, ?_⟩, ⟨"[<", by decide, by decide⟩, hfound, ?_⟩
  · refine ⟨⟨'\'', _, rfl, .inl rfl⟩, ?_, rfl⟩
    intro k hpos hk
    have hk : k < 9 := hk
    interval_cases k <;> decide
  · intro d n hl hwarning
    obtain ⟨p, w, hw, token, htoken, hin⟩ := (Check.mem_found_wrapperInString_iff hl hcomment).1 hwarning
    rw [hfound, List.mem_singleton] at hw
    obtain ⟨-, rfl⟩ := Prod.mk.inj hw
    revert token
    decide

end ProblemLint
