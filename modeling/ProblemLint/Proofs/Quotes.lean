import Mathlib.Tactic
import ProblemLint.Source.Comment

/-! One machine behind all readers of program text. It knows in which quotes it is and whether a backslash came just
before. A reader's flags are never in a combination that the machine has no state for, and whatever the reader asks
first, its flags go on as the machine does, and it takes a character for code just if the machine does. -/

namespace ProblemLint

inductive Quote where
  | outside
  | single
  | double
  deriving DecidableEq, Repr, Inhabited

/-- Where a reader of program text stands: in which quotes, and whether after a backslash. -/
structure QuoteState where
  quote : Quote := .outside
  escaped : Bool := false
  deriving DecidableEq, Repr, Inhabited

namespace QuoteState

def step (s : QuoteState) (c : Char) : QuoteState :=
  if s.escaped then { s with escaped := false }
  else if c == '\\' then { s with escaped := true }
  else
    match s.quote with
    | .outside =>
      if c == '\'' then { s with quote := .single }
      else if c == '"' then { s with quote := .double }
      else s
    | .single => if c == '\'' then { s with quote := .outside } else s
    | .double => if c == '"' then { s with quote := .outside } else s

/-- The next character is neither quoted nor escaped. -/
def inCode (s : QuoteState) : Bool := !s.escaped && s.quote == .outside

end QuoteState

/-- A backslash or a quote mark. -/
def isMark (c : Char) : Bool := c == '\\' || c == '\'' || c == '"'

def IsQuoteMark (c : Char) : Prop := c = '\'' ∨ c = '"'

namespace QuoteState

variable {s : QuoteState} {c : Char}

theorem isMark_iff : isMark c = true ↔ c = '\\' ∨ c = '\'' ∨ c = '"' := by
  simp [isMark, or_assoc]

theorem step_of_inCode (hcode : s.inCode = true) (hc : isMark c = false) : s.step c = s := by
  simp_all [inCode, isMark, step]

theorem escaped_of_step_eq (h : s.step c = s) : s.escaped = false := by
  obtain ⟨quote, escaped⟩ := s
  cases escaped with
  | false => rfl
  | true => simp [step] at h

theorem step_mark {q : Char} (hq : IsQuoteMark q) : (step {} q).quote ≠ .outside := by
  rcases hq with rfl | rfl <;> decide

theorem step_of_plain {c : Char} (hmark : ¬ IsQuoteMark c) (hslash : c ≠ '\\') : step {} c = {} := by
  obtain ⟨hsingle, hdouble⟩ := not_or.1 hmark
  simp [step, hslash, hsingle, hdouble]

/-- In quotes without a backslash, the mark closes and all else stays as it is. -/
theorem step_in_quotes {q c : Char} (hq : IsQuoteMark q) (hslash : c ≠ '\\') :
    (step {} q).step c = if c = q then {} else step {} q := by
  by_cases hclose : c = q
  · subst hclose
    rw [if_pos rfl]
    rcases hq with rfl | rfl <;> rfl
  · rw [if_neg hclose]
    rcases hq with rfl | rfl <;> simp [step, hslash, hclose]

/-! ### Texts -/

/-- The state behind a text. -/
def behind (s : QuoteState) (t : Text) : QuoteState := t.foldl step s

theorem behind_append (s : QuoteState) (t u : Text) : s.behind (t ++ u) = (s.behind t).behind u := List.foldl_append

/-- The characters of a text that are read as code. -/
def codeFrom (s : QuoteState) : Text → Text
  | [] => []
  | c :: r => if s.inCode then c :: codeFrom (s.step c) r else codeFrom (s.step c) r

theorem codeFrom_cons (c : Char) (r : Text) : codeFrom {} (c :: r) = c :: codeFrom (step {} c) r := rfl

theorem codeFrom_append (s : QuoteState) (a b : Text) :
    s.codeFrom (a ++ b) = s.codeFrom a ++ (s.behind a).codeFrom b := by
  induction a generalizing s with
  | nil => rfl
  | cons c a ih =>
    rw [List.cons_append, codeFrom, codeFrom, ih]
    split <;> rfl

theorem mem_codeFrom {s : QuoteState} {v w : Text} {c : Char} (h : (s.behind v).inCode = true) :
    c ∈ s.codeFrom (v ++ c :: w) := by
  rw [codeFrom_append, codeFrom, if_pos h]
  simp

/-! ### Flags -/

/-- The flags of a reader that stands there. -/
def flags (s : QuoteState) : QuoteFlags := ⟨s.quote == .single, s.quote == .double, s.escaped⟩

@[simp] theorem flags_start : ({} : QuoteState).flags = {} := rfl

/-- A reader that asks for the mark first passes over the characters that change the machine's state. -/
theorem byMark?_flags (s : QuoteState) (c : Char) :
    s.flags.byMark? c = if s.step c = s then none else some (s.step c).flags := by
  obtain ⟨quote, escaped⟩ := s
  by_cases hc : isMark c = true
  · rcases isMark_iff.1 hc with rfl | rfl | rfl <;> cases quote <;> cases escaped <;> rfl
  · simp only [isMark_iff, not_or] at hc
    cases quote <;> cases escaped <;> simp [QuoteFlags.byMark?, flags, step, hc]

/-- The character belongs to a literal or an escape. -/
def masks (s : QuoteState) (c : Char) : Bool := !s.inCode || isMark c

theorem step_of_not_masks (h : s.masks c = false) : s.step c = s := by
  simp only [masks, Bool.or_eq_false_iff, Bool.not_eq_false'] at h
  exact step_of_inCode h.1 h.2

/-- A reader that asks for the place first passes over all but the code. -/
theorem byPlace?_flags (s : QuoteState) (c : Char) :
    s.flags.byPlace? c = if s.masks c then some (s.step c).flags else none := by
  obtain ⟨quote, escaped⟩ := s
  by_cases hc : isMark c = true
  · rcases isMark_iff.1 hc with rfl | rfl | rfl <;> cases quote <;> cases escaped <;> rfl
  · rw [masks, Bool.eq_false_of_not_eq_true hc]
    simp only [isMark_iff, not_or] at hc
    cases quote <;> cases escaped <;> simp [QuoteFlags.byPlace?, flags, step, inCode, hc]

theorem byMark?_cases (s : QuoteState) (c : Char) :
    (s.flags.byMark? c = none ∧ s.step c = s ∧ s.flags.outside = s.inCode) ∨
      (s.flags.byMark? c = some (s.step c).flags ∧ (s.inCode = true → isMark c = true)) := by
  rw [byMark?_flags]
  by_cases h : s.step c = s
  · refine .inl ⟨if_pos h, h, ?_⟩
    have hescaped := escaped_of_step_eq h
    obtain ⟨quote, escaped⟩ := s
    cases hescaped
    cases quote <;> rfl
  · refine .inr ⟨if_neg h, fun hcode => ?_⟩
    by_contra hc
    exact h (step_of_inCode hcode (Bool.eq_false_of_not_eq_true hc))

theorem byPlace?_cases (s : QuoteState) (c : Char) :
    (s.flags.byPlace? c = none ∧ s.step c = s ∧ s.inCode = true) ∨
      (s.flags.byPlace? c = some (s.step c).flags ∧ (s.inCode = true → isMark c = true)) := by
  rw [byPlace?_flags]
  cases h : s.masks c with
  | false => exact .inl ⟨rfl, step_of_not_masks h, by simp_all [masks]⟩
  | true => exact .inr ⟨rfl, fun hcode => by simpa [masks, hcode] using h⟩

end QuoteState

/-! ### Readers -/

/-- Delimiters that are neither quote marks nor backslashes, so that no reader takes them for such. -/
class PlainDelimiters (opener closer : Char) : Prop where
  opener_plain : isMark opener = false
  closer_plain : isMark closer = false

instance : PlainDelimiters '(' ')' := ⟨rfl, rfl⟩

instance : PlainDelimiters '{' '}' := ⟨rfl, rfl⟩

section

variable (s : QuoteState) (c : Char)

theorem not_code_and_beq {s : QuoteState} {c d : Char} (h : s.inCode = true → isMark c = true) (hd : isMark d = false) :
    (s.inCode && c == d) = false := by
  by_contra hcode
  rw [Bool.not_eq_false, Bool.and_eq_true_iff, beq_iff_eq] at hcode
  obtain ⟨hcode, rfl⟩ := hcode
  rw [h hcode] at hd
  cases hd

theorem commentFrom?_step (r : Text) :
    commentFrom? s.flags (c :: r) =
      if s.inCode && c == '#' then some 0 else (commentFrom? (s.step c).flags r).map (· + 1) := by
  rcases s.byMark?_cases c with ⟨hnone, hstep, hout⟩ | ⟨hsome, hmark⟩
  · simp only [commentFrom?, hnone, hstep, hout]
  · have hsign : (s.inCode && c == '#') = false := not_code_and_beq hmark rfl
    simp only [commentFrom?, hsome, hsign, Bool.false_eq_true, if_false]

theorem commentFrom?_cons {s : QuoteState} {c : Char} (h : s.inCode = true → c ≠ '#') (t : Text) :
    commentFrom? s.flags (c :: t) = (commentFrom? (s.step c).flags t).map (· + 1) := by
  rw [commentFrom?_step, if_neg]
  intro hcut
  simp only [Bool.and_eq_true, beq_iff_eq] at hcut
  exact h hcut.1 hcut.2

theorem commentFrom?_eq_none {s : QuoteState} {t : Text} (h : '#' ∉ t) : commentFrom? s.flags t = none := by
  induction t generalizing s with
  | nil => rfl
  | cons c t ih =>
    rw [List.mem_cons, not_or] at h
    rw [commentFrom?_cons fun _ => Ne.symm h.1, ih h.2, Option.map_none]

theorem terminatorFrom?_step (d : Char) (r : Text) :
    terminatorFrom? s.flags (c :: d :: r) =
      if s.inCode && c == '<' && d == '<' then terminatorAfter r else terminatorFrom? (s.step c).flags (d :: r) := by
  rcases s.byMark?_cases c with ⟨hnone, hstep, hout⟩ | ⟨hsome, hmark⟩
  · simp only [terminatorFrom?, hnone, hstep, hout]
  · have hopen : (s.inCode && c == '<') = false := not_code_and_beq hmark rfl
    simp only [terminatorFrom?, hsome, hopen, Bool.false_and, Bool.false_eq_true, if_false]

theorem terminatorFrom?_cons {s : QuoteState} {c : Char} (h : s.inCode = true → c ≠ '<') (t : Text) :
    terminatorFrom? s.flags (c :: t) = terminatorFrom? (s.step c).flags t := by
  cases t with
  | nil => rfl
  | cons d r =>
    rw [terminatorFrom?_step, if_neg]
    intro hopen
    simp only [Bool.and_eq_true, beq_iff_eq] at hopen
    exact h hopen.1.1 hopen.1.2

theorem closeFrom_step {opener closer : Char} [PlainDelimiters opener closer] (depth : Int) (r : Text) :
    closeFrom opener closer s.flags depth (c :: r) =
      if s.inCode && c == opener then (closeFrom opener closer (s.step c).flags (depth + 1) r).map (· + 1)
      else if s.inCode && c == closer then
        if depth - 1 == 0 then some 0 else (closeFrom opener closer (s.step c).flags (depth - 1) r).map (· + 1)
      else (closeFrom opener closer (s.step c).flags depth r).map (· + 1) := by
  rcases s.byMark?_cases c with ⟨hnone, hstep, hout⟩ | ⟨hsome, hmark⟩
  · simp only [closeFrom, hnone, hstep, hout]
  · have hopener : (s.inCode && c == opener) = false := not_code_and_beq hmark (PlainDelimiters.opener_plain closer)
    have hcloser : (s.inCode && c == closer) = false := not_code_and_beq hmark (PlainDelimiters.closer_plain opener)
    simp only [closeFrom, hsome, hopener, hcloser, Bool.false_eq_true, if_false]

theorem closeFrom_cons {opener closer c : Char} [PlainDelimiters opener closer] {s : QuoteState}
    (h : s.inCode = true → c ≠ opener ∧ c ≠ closer) (depth : Int) (t : Text) :
    closeFrom opener closer s.flags depth (c :: t) = (closeFrom opener closer (s.step c).flags depth t).map (· + 1) := by
  rw [closeFrom_step, if_neg, if_neg]
  all_goals
    intro hc
    simp only [Bool.and_eq_true, beq_iff_eq] at hc
  · exact (h hc.1).2 hc.2
  · exact (h hc.1).1 hc.2

theorem maskFrom_step (r : Text) : maskFrom s.flags (c :: r) = s.masks c :: maskFrom (s.step c).flags r := by
  have hpass := s.byPlace?_flags c
  cases h : s.masks c with
  | false =>
    rw [h, if_neg Bool.false_ne_true] at hpass
    simp only [maskFrom, hpass, QuoteState.step_of_not_masks h]
  | true =>
    rw [h, if_pos rfl] at hpass
    simp only [maskFrom, hpass]

end

end ProblemLint
