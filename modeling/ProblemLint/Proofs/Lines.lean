import ProblemLint.Text.Lines
import Mathlib.Data.List.Forall2
import Mathlib.Data.List.NodupEquivFin
import Mathlib.Tactic

/-! Lines with all eleven breaks against line feeds. Cutting a text into lines loses nothing, and a line
feed only ever ends a line. `Thinned s t` says that `s` is `t` with some characters other than line feeds
left out: then the texts between line feeds correspond one to one, and every character keeps its line. -/

namespace ProblemLint.Text

theorem lines_flatten (t : Text) : (lines t).flatten = t := by
  fun_induction lines t with
  | case1 => rfl
  | case2 r ih => simp [ih]
  | case3 c r _ _ ih => simp [ih]
  | case4 c r _ _ hnil ih => simpa [hnil] using ih
  | case5 c r _ _ l ls hcons ih => simpa [hcons] using ih

theorem ne_newline_of_not_break {c : Char} (h : ¬ isLineBreak c = true) : c ≠ '\n' := by
  rintro rfl
  exact h rfl

theorem not_break_of_all {c : Text} (h : (c.all fun x => !isLineBreak x) = true) :
    ∀ x ∈ c, isLineBreak x = false := by
  simpa using h

/-- A line feed can only be the last character of a line. -/
theorem newline_not_mem_dropLast (t : Text) : ∀ l ∈ lines t, '\n' ∉ l.dropLast := by
  fun_induction lines t with
  | case1 => simp
  | case2 r ih => simpa using ih
  | case3 c r _ _ ih => simpa using ih
  | case4 c r _ _ hnil ih => simp
  | case5 c r _ hb l ls hcons ih =>
    intro m hm
    rw [hcons] at ih
    rcases List.mem_cons.1 hm with rfl | hm
    · cases l with
      | nil => simp
      | cons d l =>
        rw [List.dropLast_cons_of_ne_nil (by simp), List.mem_cons, not_or]
        exact ⟨(ne_newline_of_not_break hb).symm, ih _ (by simp)⟩
    · exact ih m (by simp [hm])

theorem lines_cons_of_break {c : Char} {r : Text} (hc : isLineBreak c = true)
    (hpair : ∀ r', c = '\r' → r = '\n' :: r' → False) : lines (c :: r) = [c] :: lines r := by
  rw [lines.eq_3 c r hpair, if_pos hc]

theorem lines_cons_of_not_break {c : Char} (hc : isLineBreak c = false) (r : Text) :
    lines (c :: r) =
      match lines r with
      | [] => [[c]]
      | l :: ls => (c :: l) :: ls := by
  have hpair : ∀ r', c = '\r' → r = '\n' :: r' → False := by
    rintro r' rfl
    simp [isLineBreak] at hc
  exact (lines.eq_3 c r hpair).trans (if_neg (by simp [hc]))

/-- A text without breaks and a line feed after it are a line. -/
theorem lines_line {body : Text} (h : ∀ c ∈ body, isLineBreak c = false) (rest : Text) :
    lines (body ++ '\n' :: rest) = (body ++ ['\n']) :: lines rest := by
  induction body with
  | nil => exact lines_cons_of_break rfl (fun _ h => absurd h (by decide))
  | cons c body ih =>
    rw [List.cons_append, lines_cons_of_not_break (h c List.mem_cons_self),
      ih fun d hd => h d (List.mem_cons_of_mem c hd)]
    rfl

theorem endsLine_tail {c : Char} {r : Text} (h : c :: r = [] ∨ (c :: r).getLast? = some '\n') :
    r = [] ∨ r.getLast? = some '\n' := by
  cases r with
  | nil => exact .inl rfl
  | cons d r => simpa using h

theorem join_singleton (sep : String) (a : Text) : join sep [a] = a := List.intercalate_singleton

theorem join_cons_cons (sep : String) (a b : Text) (ts : List Text) :
    join sep (a :: b :: ts) = a ++ (sep.toList ++ join sep (b :: ts)) := by
  rw [join, List.intercalate_cons_cons, List.append_assoc, ← join]

/-- A text that is empty or ends with a line feed is cut into lines whatever follows it. -/
theorem lines_append {a : Text} (h : a = [] ∨ a.getLast? = some '\n') (b : Text) :
    lines (a ++ b) = lines a ++ lines b := by
  fun_induction lines a with
  | case1 => rfl
  | case2 r ih =>
    simp [lines, ih (endsLine_tail (endsLine_tail h))]
  | case3 c r hpair hc ih =>
    have hpair' : ∀ r', c = '\r' → r ++ b = '\n' :: r' → False := by
      rintro r' rfl hr'
      cases r with
      | nil => simp at h
      | cons d r => exact hpair r rfl (by rw [(List.cons.inj hr').1])
    rw [List.cons_append, lines_cons_of_break hc hpair', ih (endsLine_tail h),
      List.cons_append]
  | case4 c r _ hc hnil ih =>
    -- a text without lines is empty, so that `c` would be the last character
    have hr : r = [] := by rw [← lines_flatten r, hnil, List.flatten_nil]
    subst hr
    exact absurd (by simpa using h) (ne_newline_of_not_break hc)
  | case5 c r _ hc l ls hcons ih =>
    rw [List.cons_append, lines_cons_of_not_break (by simpa using hc), ih (endsLine_tail h), hcons]
    rfl

theorem join_concat {body : List Text} (hbody : body ≠ []) :
    join "\n" body ++ ['\n'] = (body.map (· ++ ['\n'])).flatten := by
  induction body with
  | nil => exact absurd rfl hbody
  | cons l body ih =>
    cases body with
    | nil => simp [join]
    | cons m body =>
      rw [join_cons_cons, List.append_assoc, List.append_assoc, ih (List.cons_ne_nil m body)]
      simp

theorem lines_map_concat {body : List Text} (hbreak : ∀ l ∈ body, ∀ c ∈ l, isLineBreak c = false)
    (rest : Text) :
    lines ((body.map (· ++ ['\n'])).flatten ++ rest) = body.map (· ++ ['\n']) ++ lines rest := by
  induction body with
  | nil => rfl
  | cons l body ih =>
    have hline := lines_line (hbreak l List.mem_cons_self) ((body.map (· ++ ['\n'])).flatten ++ rest)
    rw [ih fun m hm => hbreak m (List.mem_cons_of_mem l hm)] at hline
    simpa using hline

/-! ### Where lines start -/

theorem ne_nil_of_mem_lines (t : Text) : ∀ l ∈ lines t, l ≠ [] := by
  fun_induction lines t with
  | case1 => simp
  | case2 r ih => simpa using ih
  | case3 c r _ _ ih => simpa using ih
  | case4 c r _ _ hnil ih => simp
  | case5 c r _ _ l ls hcons ih =>
    rw [hcons] at ih
    intro m hm
    rcases List.mem_cons.1 hm with rfl | hm
    · exact List.cons_ne_nil c l
    · exact ih m (List.mem_cons_of_mem l hm)

/-- The position at which a line starts, by its number counted from zero. -/
def lineStart (ls : List Text) (k : ℕ) : ℕ := (ls.take k).flatten.length

@[simp] theorem lineStart_zero (ls : List Text) : lineStart ls 0 = 0 := rfl

@[simp] theorem lineStart_cons_succ (l : Text) (ls : List Text) (k : ℕ) :
    lineStart (l :: ls) (k + 1) = l.length + lineStart ls k := by
  simp [lineStart]

theorem lineStart_length_append (ls ms : List Text) : lineStart (ls ++ ms) ls.length = ls.flatten.length := by
  rw [lineStart, List.take_left]

theorem lineStart_mono (ls : List Text) : Monotone (lineStart ls) := by
  intro i j hij
  exact ((List.take_prefix_take_left hij).flatten).length_le

theorem lineStart_le_length (t : Text) (k : ℕ) : lineStart (lines t) k ≤ t.length := by
  conv_rhs => rw [← lines_flatten t]
  exact ((List.take_prefix k (lines t)).flatten).length_le

/-- No line is empty, so that the lines of a text start at different positions. -/
theorem lineStart_lt {t : Text} {i j : ℕ} (hij : i < j) (hj : j ≤ (lines t).length) :
    lineStart (lines t) i < lineStart (lines t) j := by
  have hi : i < (lines t).length := by omega
  have hpos : 0 < (lines t)[i].length := List.length_pos_iff.2 (ne_nil_of_mem_lines t _ (List.getElem_mem hi))
  have hstep : lineStart (lines t) (i + 1) = lineStart (lines t) i + (lines t)[i].length := by
    rw [lineStart, List.take_succ_eq_append_getElem hi, List.flatten_append, List.length_append]
    simp [lineStart]
  have hle : lineStart (lines t) (i + 1) ≤ lineStart (lines t) j := lineStart_mono _ hij
  omega

/-! ### Numbers of lines -/

theorem lines_newline_cons (r : Text) : lines ('\n' :: r) = ['\n'] :: lines r :=
  lines_cons_of_break rfl fun _ h => absurd h (by decide)

theorem length_lines_cons_of_not_break {c : Char} (hc : isLineBreak c = false) (r : Text) :
    (lines (c :: r)).length = max 1 (lines r).length := by
  rw [lines_cons_of_not_break hc]
  cases lines r <;> simp

theorem length_lines_le_cons (c : Char) (r : Text) : (lines r).length ≤ (lines (c :: r)).length := by
  by_cases hc : isLineBreak c = true
  · by_cases hpair : ∃ r', c = '\r' ∧ r = '\n' :: r'
    · obtain ⟨r', rfl, rfl⟩ := hpair
      simp [lines_newline_cons, lines]
    · rw [lines_cons_of_break hc fun r' h h' => hpair ⟨r', h, h'⟩]
      exact Nat.le_succ _
  · rw [length_lines_cons_of_not_break (by simpa using hc)]
    exact Nat.le_max_right _ _

/-! ### Texts with characters left out -/

/-- `s` is `t` without some of its characters, none of them a line feed. -/
inductive Thinned : Text → Text → Prop where
  | nil : Thinned [] []
  | keep (c : Char) {s t : Text} : Thinned s t → Thinned (c :: s) (c :: t)
  | drop {c : Char} {s t : Text} : c ≠ '\n' → Thinned s t → Thinned s (c :: t)

namespace Thinned

theorem refl (t : Text) : Thinned t t := by
  induction t with
  | nil => exact nil
  | cons c t ih => exact ih.keep c

theorem of_not_mem {t : Text} (h : '\n' ∉ t) : Thinned [] t := by
  induction t with
  | nil => exact nil
  | cons c t ih =>
    rw [List.mem_cons, not_or] at h
    exact drop (fun e => h.1 e.symm) (ih h.2)

theorem append {s s' t t' : Text} (h : Thinned s t) (h' : Thinned s' t') : Thinned (s ++ s') (t ++ t') := by
  induction h with
  | nil => exact h'
  | keep c _ ih => exact ih.keep c
  | drop hc _ ih => exact ih.drop hc

theorem trans {s t u : Text} (h : Thinned s t) (h' : Thinned t u) : Thinned s u := by
  induction h' generalizing s with
  | nil => exact h
  | keep c h' ih =>
    cases h with
    | keep _ h => exact (ih h).keep c
    | drop hc h => exact (ih h).drop hc
  | drop hc _ ih => exact (ih h).drop hc

theorem sublist {s t : Text} (h : Thinned s t) : List.Sublist s t := by
  induction h with
  | nil => exact .slnil
  | keep c _ ih => exact ih.cons_cons c
  | drop _ _ ih => exact ih.cons _

theorem count_newline {s t : Text} (h : Thinned s t) : s.count '\n' = t.count '\n' := by
  induction h with
  | nil => rfl
  | keep c _ ih => simp [List.count_cons, ih]
  | drop hc _ ih => simp [ih, hc]

/-- Leaving characters out makes no new lines: a pair of breaks may become one, and never the reverse. -/
theorem length_lines_le {s t : Text} (h : Thinned s t) : (lines s).length ≤ (lines t).length := by
  induction h with
  | nil => exact le_rfl
  | @keep c s t h ih =>
    by_cases hc : isLineBreak c = true
    · by_cases hpair : ∃ s', c = '\r' ∧ s = '\n' :: s'
      · obtain ⟨s', rfl, rfl⟩ := hpair
        have heq : (lines ('\r' :: '\n' :: s')).length = (lines ('\n' :: s')).length := by
          simp [lines_newline_cons, lines]
        rw [heq]
        exact ih.trans (length_lines_le_cons _ t)
      · -- then the line feed of such a pair would have been left out of `t`
        have hpair' : ∀ t', c = '\r' → t = '\n' :: t' → False := by
          rintro t' rfl rfl
          cases h with
          | keep _ h => exact hpair ⟨_, rfl, rfl⟩
          | drop hne h => exact hne rfl
        rw [lines_cons_of_break hc fun s' h h' => hpair ⟨s', h, h'⟩, lines_cons_of_break hc hpair']
        exact Nat.succ_le_succ ih
    · rw [length_lines_cons_of_not_break (by simpa using hc), length_lines_cons_of_not_break (by simpa using hc)]
      exact max_le_max_left 1 ih
  | drop _ _ ih => exact ih.trans (length_lines_le_cons _ _)

end Thinned

theorem splitOn_ne_nil (sep : Char) (t : Text) : splitOn sep t ≠ [] := by
  cases t with
  | nil => simp [splitOn]
  | cons c r => unfold splitOn; split <;> [simp; (split <;> simp)]

/-- The texts between line feeds lose characters and nothing else. -/
theorem Thinned.splitOn {s t : Text} (h : Thinned s t) :
    List.Forall₂ List.Sublist (splitOn '\n' s) (splitOn '\n' t) := by
  induction h with
  | nil => exact .cons .slnil .nil
  | @keep c s t _ ih =>
    obtain ⟨l, ls, hs⟩ := List.exists_cons_of_ne_nil (splitOn_ne_nil '\n' s)
    obtain ⟨m, ms, ht⟩ := List.exists_cons_of_ne_nil (splitOn_ne_nil '\n' t)
    rw [hs, ht] at ih
    obtain ⟨hlm, htail⟩ := List.forall₂_cons.1 ih
    simp only [Text.splitOn, hs, ht]
    split
    · exact .cons .slnil (.cons hlm htail)
    · exact .cons (hlm.cons_cons c) htail
  | @drop c s t hc _ ih =>
    obtain ⟨m, ms, ht⟩ := List.exists_cons_of_ne_nil (splitOn_ne_nil '\n' t)
    obtain ⟨l, ls, hs⟩ := List.exists_cons_of_ne_nil (splitOn_ne_nil '\n' s)
    rw [hs, ht] at ih
    obtain ⟨hlm, htail⟩ := List.forall₂_cons.1 ih
    have hne : (c == '\n') = false := by simpa using hc
    simp only [Text.splitOn, ht, hs, hne]
    exact .cons (hlm.cons c) htail

/-! ### Where a character comes from -/

/-- `origin` reads `s` off `t`: it gives, in increasing order, the positions of `t` whose characters are
those of `s`; positions after the end go to positions after the end. -/
def ReadsOff (s t : Text) (origin : ℕ ↪o ℕ) : Prop := ∀ p, s[p]? = t[origin p]?

theorem Thinned.exists_readsOff {s t : Text} (h : Thinned s t) : ∃ origin, ReadsOff s t origin :=
  List.sublist_iff_exists_orderEmbedding_getElem?_eq.1 h.sublist

namespace ReadsOff

variable {s t : Text} {origin : ℕ ↪o ℕ}

theorem take_sublist (h : ReadsOff s t origin) (p : ℕ) : List.Sublist (s.take p) (t.take (origin p)) := by
  refine List.sublist_of_orderEmbedding_getElem?_eq origin fun i => ?_
  simp only [List.getElem?_take, OrderEmbedding.lt_iff_lt, h i]

theorem drop_sublist (h : ReadsOff s t origin) (p : ℕ) : List.Sublist (s.drop p) (t.drop (origin p)) := by
  have hmono : StrictMono fun i => origin (p + i) - origin p := by
    intro i j hij
    have hi : origin p ≤ origin (p + i) := origin.monotone (by omega)
    have hj : origin (p + i) < origin (p + j) := origin.strictMono (by omega)
    show origin (p + i) - origin p < origin (p + j) - origin p
    omega
  refine List.sublist_of_orderEmbedding_getElem?_eq (OrderEmbedding.ofStrictMono _ hmono) fun i => ?_
  have hi : origin p ≤ origin (p + i) := origin.monotone (by omega)
  simp only [List.getElem?_drop, OrderEmbedding.coe_ofStrictMono, Nat.add_sub_cancel' hi, h (p + i)]

/-- Whichever characters were left out, as many line feeds lie before a character as before its origin. -/
theorem count_take (h : ReadsOff s t origin) (hcount : s.count '\n' = t.count '\n') (p : ℕ) :
    (s.take p).count '\n' = (t.take (origin p)).count '\n' := by
  have htake := (h.take_sublist p).count_le '\n'
  have hdrop := (h.drop_sublist p).count_le '\n'
  have hs : (s.take p).count '\n' + (s.drop p).count '\n' = s.count '\n' := by
    rw [← List.count_append, List.take_append_drop]
  have ht : (t.take (origin p)).count '\n' + (t.drop (origin p)).count '\n' = t.count '\n' := by
    rw [← List.count_append, List.take_append_drop]
  omega

theorem le_origin (origin : ℕ ↪o ℕ) (p : ℕ) : p ≤ origin p := origin.strictMono.le_apply

end ReadsOff

end ProblemLint.Text
