import ProblemLint.Proofs.Laminar
import ProblemLint.Proofs.Newlines

/-! Two ways to number lines. The scans for blocks and heredocs count the lines that all eleven breaks make; the
line of a position counts line feeds. A break is stray if it is neither a line feed nor the carriage return before
one: the first way counts it and the second does not. So the line that a region records is ahead of the line of
its first position by the stray breaks before that position. -/

namespace ProblemLint

namespace Text

/-- Whether a position holds a break that is neither a line feed nor the carriage return before one. -/
def isStrayBreak (t : Text) (i : Nat) : Bool :=
  t[i]?.any fun c => isLineBreak c && c != '\n' && !(c == '\r' && t[i + 1]? == some '\n')

def strayBreaks (t : Text) (pos : Nat) : Nat := (List.range pos).countP (isStrayBreak t)

@[simp] theorem strayBreaks_zero (t : Text) : strayBreaks t 0 = 0 := rfl

theorem strayBreaks_cons_succ (c : Char) (r : Text) (pos : Nat) :
    strayBreaks (c :: r) (pos + 1) = strayBreaks r pos + if isStrayBreak (c :: r) 0 then 1 else 0 := by
  simp only [strayBreaks, List.range_succ_eq_map, List.countP_cons, List.countP_map]
  congr 1

theorem strayBreaks_eq_zero_iff {t : Text} {pos : Nat} :
    strayBreaks t pos = 0 ↔ ∀ i < pos, isStrayBreak t i = false := by
  simp [strayBreaks, List.countP_eq_zero]

theorem lineStart_number {t : Text} {k : Nat} (hk : k < (lines t).length) :
    (t.take (lineStart (lines t) k)).count '\n' + strayBreaks t (lineStart (lines t) k) = k := by
  fun_induction lines t generalizing k with
  | case1 => simp at hk
  | case2 r ih =>
    cases k with
    | zero => simp
    | succ k =>
      have hrest := ih (by simpa using hk)
      have hreturn : isStrayBreak ('\r' :: '\n' :: r) 0 = false := rfl
      have hfeed : isStrayBreak ('\n' :: r) 0 = false := rfl
      rw [lineStart_cons_succ, List.length_cons, List.length_singleton, Nat.add_comm 2]
      simp only [List.take_succ_cons, List.count_cons, strayBreaks_cons_succ, hreturn, hfeed]
      simp only [Bool.false_eq_true, if_false, beq_self_eq_true, if_true, Char.reduceBEq]
      omega
  | case3 c r hpair hc ih =>
    cases k with
    | zero => simp
    | succ k =>
      have hrest := ih (by simpa using hk)
      -- the break counts once, as a line feed or as a stray one
      have hstray : isStrayBreak (c :: r) 0 = (c != '\n') := by
        have hnext : (c == '\r' && r[0]? == some '\n') = false := by
          cases r with
          | nil => simp
          | cons d r => simpa using fun h h' => hpair r h (by rw [h'])
        simp only [isStrayBreak, List.getElem?_cons_zero, List.getElem?_cons_succ, Option.any_some, hc, hnext,
          Bool.true_and, Bool.not_false, Bool.and_true]
      rw [lineStart_cons_succ, List.length_singleton, Nat.add_comm 1]
      simp only [List.take_succ_cons, List.count_cons, strayBreaks_cons_succ, hstray]
      by_cases hfeed : c = '\n' <;> simp [hfeed] <;> omega
  | case4 c r _ hc hnil ih =>
    have hzero : k = 0 := by simpa using hk
    subst hzero
    simp
  | case5 c r _ hc l ls hcons ih =>
    cases k with
    | zero => simp
    | succ k =>
      have hrest := ih (k := k + 1) (by simpa [hcons] using hk)
      have hstray : isStrayBreak (c :: r) 0 = false := by simp [isStrayBreak, hc]
      have hfeed : (c == '\n') = false := by simpa using ne_newline_of_not_break hc
      have hstart : lineStart ((c :: l) :: ls) (k + 1) = lineStart (lines r) (k + 1) + 1 := by
        rw [hcons, lineStart_cons_succ, lineStart_cons_succ, List.length_cons]
        omega
      rw [hstart]
      simpa [List.take_succ_cons, List.count_cons, strayBreaks_cons_succ, hstray, hfeed] using hrest

end Text

theorem lineOf_lineStart {t : Text} {k : Nat} (hk : k < (Text.lines t).length) :
    (NewlineIndex.ofText t).lineOf (Text.lineStart (Text.lines t) k : Nat) +
      Text.strayBreaks t (Text.lineStart (Text.lines t) k) = k + 1 := by
  have hnumber := Text.lineStart_number hk
  rw [NewlineIndex.lineOf_ofText, Int.toNat_natCast]
  omega

/-- The region starts with a line of the text, and that line has the number `n` among all lines, counted
from 1. -/
def Region.StartsLine (t : Text) (r : Region) (n : Nat) : Prop :=
  ∃ k < (Text.lines t).length, ∃ stop, r.Spans (Text.lineStart (Text.lines t) k) stop ∧ n = k + 1

theorem blocks_startsLine {t : Text} : ∀ r ∈ (blocks t).2, r.StartsLine t (r.line + 1) := by
  intro r hr
  obtain ⟨q, hq, rfl⟩ := exists_pair_of_mem_blocks hr
  obtain ⟨honLines, -⟩ := region_onLines hq
  exact ⟨_, Nat.lt_of_le_of_lt honLines.le honLines.lt, _, honLines.spans, rfl⟩

theorem heredocLines_startsLine {t : Text} {read rest : List Text} (hlines : Text.lines t = read ++ rest)
    {opened : Option OpenHeredoc}
    (hopened : ∀ o ∈ opened, ∃ k ≤ read.length, o.start = Text.lineStart (Text.lines t) k ∧ o.line = k + 1) :
    ∀ r ∈ (heredocLines opened (read.length + 1) read.flatten.length rest).2, r.StartsLine t r.line := by
  induction rest generalizing read opened with
  | nil =>
    intro r hr
    simp only [heredocLines] at hr
    split at hr <;> [(split at hr <;> cases hr); cases hr]
  | cons l rest ih =>
    -- the induction goes on after one more line
    have ih {opened : Option OpenHeredoc} (h : ∀ o ∈ opened, ∃ k ≤ read.length + 1,
        o.start = Text.lineStart (Text.lines t) k ∧ o.line = k + 1) :
        ∀ r ∈ (heredocLines opened (read.length + 1 + 1) (read.flatten.length + l.length) rest).2,
          r.StartsLine t r.line := by
      have hnext := @ih (read ++ [l]) (by simp [hlines]) opened (by simpa using h)
      simpa using hnext
    cases opened with
    | none =>
      refine ih fun o ho => ⟨read.length + 1, le_rfl, ?_⟩
      obtain ⟨w, -, rfl⟩ := Option.map_eq_some_iff.1 ho
      rw [hlines, lineStart_concat]
      exact ⟨rfl, rfl⟩
    | some o =>
      by_cases hl : Text.trim l = o.terminator
      · obtain ⟨k, hk, hstart, hline⟩ := hopened o rfl
        have hlt : k < (Text.lines t).length := by
          rw [hlines, List.length_append, List.length_cons]
          omega
        have hregion : (Region.ofBounds o.start read.flatten.length "HEREDOC_PGML" o.line).StartsLine t o.line :=
          ⟨k, hlt, read.flatten.length, hstart ▸ Region.spans_ofBounds o.start _ _ _, hline⟩
        have hrest := @ih none (by simp)
        simp only [heredocLines, hl, beq_self_eq_true, if_true]
        split
        · exact List.forall_mem_cons.2 ⟨hregion, hrest⟩
        · exact hrest
      · simp only [heredocLines, beq_iff_eq, hl, if_false]
        refine ih fun o' ho' => ?_
        obtain ⟨k, hk, hplace⟩ := hopened o' ho'
        exact ⟨k, Nat.le_succ_of_le hk, hplace⟩

theorem markupHeredocs_startsLine {t : Text} : ∀ r ∈ (markupHeredocs t).2, r.StartsLine t r.line :=
  @heredocLines_startsLine t [] (Text.lines t) rfl none (by simp)

/-- The number `n` of the line with which a region starts is the line of its first position, but for the stray
breaks before that position; so the two are equal just if there are none. -/
def Region.NumberedAs (d : Document) (r : Region) (n : Nat) : Prop :=
  ∃ start stop, r.Spans start stop ∧ n = d.lineOf start + Text.strayBreaks d.text start ∧
    (n = d.lineOf start ↔ ∀ i < start, Text.isStrayBreak d.text i = false)

theorem Region.StartsLine.numberedAs {d : Document} (hd : d.newlines = .ofText d.text) {r : Region} {n : Nat}
    (h : r.StartsLine d.text n) : r.NumberedAs d n := by
  obtain ⟨k, hk, stop, hspans, rfl⟩ := h
  have hline : d.lineOf (Text.lineStart (Text.lines d.text) k : Nat) +
      Text.strayBreaks d.text (Text.lineStart (Text.lines d.text) k) = k + 1 := by
    rw [Document.lineOf, hd]
    exact lineOf_lineStart hk
  refine ⟨_, stop, hspans, hline.symm, ?_⟩
  rw [← Text.strayBreaks_eq_zero_iff]
  omega

/-- The lines that the scans for blocks and for heredocs note are those of the position index if and only if no
stray break lies before the region; otherwise they are too large by the number of these. A block notes the line
of its marker, a heredoc the line of its body. -/
theorem region_line_iff (t : Text) (path : Option Text) (blockRules : List BlockRule)
    (macroRules : List MacroRule) (version : Option Text) :
    let d := Document.ofText t path blockRules macroRules version
    (∀ r ∈ d.blockRegions, r.NumberedAs d (r.line + 1)) ∧ ∀ r ∈ d.heredocRegions, r.NumberedAs d r.line := by
  intro d
  constructor
  · exact fun r hr => (blocks_startsLine r hr).numberedAs rfl
  · exact fun r hr => (markupHeredocs_startsLine r hr).numberedAs rfl

/-- After a form feed, a block is noted one line too late. -/
theorem region_line_off :
    ¬ ∀ t : Text, let d := Document.ofText t none BlockRule.standard MacroRule.standard none
      (∀ r ∈ d.blockRegions, ∀ start stop, r.Spans start stop → r.line + 1 = d.lineOf start) ∧
        ∀ r ∈ d.heredocRegions, ∀ start stop, r.Spans start stop → r.line = d.lineOf start := by
  intro h
  set t : Text := "\x0cBEGIN_PGML\nEND_PGML\n".toList
  have hnoted := (h t).1 (Region.ofBounds 12 12 "BEGIN_PGML" 2) (List.mem_singleton.2 rfl) 12 12 rfl
  have hline : (NewlineIndex.ofText t).lineOf (12 : ℕ) = 2 := NewlineIndex.lineOf_ofText t (12 : ℕ)
  have hfalse : 2 + 1 = 2 := hnoted.trans hline
  omega

end ProblemLint
