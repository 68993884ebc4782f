import ProblemLint.Check
import ProblemLint.Proofs.CommentText
import ProblemLint.Proofs.LineTexts

/-! Program text without surprises: every literal ends on its line and holds no escape, and outside of literals
there are only characters of one kind. A reader that keeps track of quotes passes over such text as if it were not
there, whatever stands in the literals; so comments and heredocs are not found in it, and parentheses are. -/

namespace ProblemLint

/-- A character that may stand in a literal: no quote, no backslash and no line break. -/
def isLiteralChar (c : Char) : Bool := c != '\'' && c != '"' && c != '\\' && !Text.isLineBreak c

theorem isLiteralChar_iff {c : Char} :
    isLiteralChar c = true ↔ c ≠ '\'' ∧ c ≠ '"' ∧ c ≠ '\\' ∧ Text.isLineBreak c = false := by
  simp [isLiteralChar, and_assoc]

/-- Text with closed literals whose characters outside of literals satisfy a condition. -/
inductive PlainCode (p : Char → Prop) : Text → Prop where
  | nil : PlainCode p []
  | code {c : Char} {t : Text} (hc : p c) (ht : PlainCode p t) : PlainCode p (c :: t)
  | literal {q : Char} {body t : Text} (hq : q = '\'' ∨ q = '"') (hbody : ∀ c ∈ body, isLiteralChar c = true)
      (ht : PlainCode p t) : PlainCode p (q :: (body ++ q :: t))

/-- A character outside of literals that starts nothing: at most it ends a line, as a line feed. -/
def IsQuiet (c : Char) : Prop := isInert c = true ∨ c = '\n'

/-- A character outside of literals that starts neither a literal nor a comment. -/
def KeepsCode (c : Char) : Prop := QuoteState.step {} c = {} ∧ c ≠ '#'

def IsFlat (c : Char) : Prop := IsQuiet c ∧ c ≠ '(' ∧ c ≠ ')'

theorem step_of_quiet {c : Char} (h : IsQuiet c) : QuoteState.step {} c = {} := by
  rcases h with h | rfl
  · exact step_of_inert h
  · rfl

namespace PlainCode

variable {p q : Char → Prop} {s t : Text}

theorem of_forall (h : ∀ c ∈ t, p c) : PlainCode p t := by
  induction t with
  | nil => exact nil
  | cons c t ih => exact code (h c List.mem_cons_self) (ih fun d hd => h d (List.mem_cons_of_mem c hd))

theorem append (hs : PlainCode p s) (ht : PlainCode p t) : PlainCode p (s ++ t) := by
  induction hs with
  | nil => exact ht
  | code hc _ ih => exact code hc ih
  | literal hq hbody _ ih =>
    rw [List.cons_append, List.append_assoc]
    exact literal hq hbody ih

theorem mono (h : ∀ c, p c → q c) (ht : PlainCode p t) : PlainCode q t := by
  induction ht with
  | nil => exact nil
  | code hc _ ih => exact code (h _ hc) ih
  | literal hq hbody _ ih => exact literal hq hbody ih

/-- Between its quotes a literal is not read as code, and its characters leave the state as it is. -/
theorem exists_quoted {quote : Char} (hquote : quote = '\'' ∨ quote = '"') :
    ∃ s : QuoteState, QuoteState.step {} quote = s ∧ s.inCode = false ∧ s.step quote = {} ∧
      ∀ c, isLiteralChar c = true → s.step c = s := by
  rcases hquote with rfl | rfl
  · refine ⟨⟨.single, false⟩, rfl, rfl, rfl, fun c hc => ?_⟩
    simp [QuoteState.step, isLiteralChar_iff.1 hc]
  · refine ⟨⟨.double, false⟩, rfl, rfl, rfl, fun c hc => ?_⟩
    simp [QuoteState.step, isLiteralChar_iff.1 hc]

/-- A reader that takes one step for each character, unless it finds a special one in code, passes over plain code and
is in code after it. -/
theorem passes {α : Type} {f : QuoteState → Nat → Text → α} (hp : ∀ c, p c → QuoteState.step {} c = {})
    (hf : ∀ s n c t, (s.inCode = true → p c ∨ c = '\'' ∨ c = '"') →
      f s n (c :: t) = f (s.step c) (n + 1) t)
    (hs : PlainCode p s) (n : Nat) (t : Text) : f {} n (s ++ t) = f {} (n + s.length) t := by
  induction hs generalizing n with
  | nil => rfl
  | @code c r hc _ ih =>
    rw [List.cons_append, hf _ _ _ _ fun _ => .inl hc, hp c hc, ih, List.length_cons]
    congr 1
    omega
  | @literal quote body r hquote hbody _ ih =>
    obtain ⟨s, hopen, hcode, hclose, hkeep⟩ := exists_quoted hquote
    have hinside {c : Char} : s.inCode = true → p c ∨ c = '\'' ∨ c = '"' := by simp [hcode]
    have hrun (m : Nat) : f s m (body ++ quote :: (r ++ t)) = f {} (m + body.length + 1) (r ++ t) := by
      induction body generalizing m with
      | nil => rw [List.nil_append, hf _ _ _ _ hinside, hclose, List.length_nil, Nat.add_zero]
      | cons c body ihbody =>
        rw [List.cons_append, hf _ _ _ _ hinside, hkeep c (hbody c List.mem_cons_self),
          ihbody fun d hd => hbody d (List.mem_cons_of_mem c hd), List.length_cons]
        congr 1
        omega
    rw [List.cons_append, List.append_assoc, List.cons_append, hf _ _ _ _ fun _ => .inr hquote, hopen, hrun, ih]
    congr 1
    simp only [List.length_cons, List.length_append]
    omega

end PlainCode

/-! ### Lines -/

/-- Plain code line by line: no literal goes on in the next line. -/
inductive PlainLines (p : Char → Prop) : Text → Prop where
  | last {l : Text} (hl : PlainCode p l) (hbreak : ∀ c ∈ l, Text.isLineBreak c = false) : PlainLines p l
  | line {l r : Text} (hl : PlainCode p l) (hbreak : ∀ c ∈ l, Text.isLineBreak c = false) (hr : PlainLines p r) :
      PlainLines p (l ++ '\n' :: r)

theorem PlainLines.append_left {p : Char → Prop} {a t : Text} (ha : PlainCode p a)
    (hbreak : ∀ c ∈ a, Text.isLineBreak c = false) (ht : PlainLines p t) : PlainLines p (a ++ t) := by
  cases ht with
  | last hl hbreak' => exact .last (ha.append hl) (List.forall_mem_append.2 ⟨hbreak, hbreak'⟩)
  | line hl hbreak' hr =>
    rw [← List.append_assoc]
    exact .line (ha.append hl) (List.forall_mem_append.2 ⟨hbreak, hbreak'⟩) hr

theorem PlainCode.byLines {p : Char → Prop} {t : Text} (hp : ∀ c, p c → IsQuiet c) (ht : PlainCode p t) :
    PlainLines p t := by
  induction ht with
  | nil => exact .last .nil (by simp)
  | @code c r hc _ ih =>
    rcases hp c hc with hinert | rfl
    · exact ih.append_left (.code hc .nil) (List.forall_mem_singleton.2 (not_break_of_inert hinert))
    · exact .line .nil (by simp) ih
  | @literal quote body r hquote hbody _ ih =>
    have hbreak : ∀ c ∈ quote :: (body ++ [quote]), Text.isLineBreak c = false := by
      have hedge : Text.isLineBreak quote = false := by rcases hquote with rfl | rfl <;> rfl
      have hinside : ∀ c ∈ body, Text.isLineBreak c = false := fun c hc => (isLiteralChar_iff.1 (hbody c hc)).2.2.2
      exact List.forall_mem_cons.2
        ⟨hedge, List.forall_mem_append.2 ⟨hinside, List.forall_mem_singleton.2 hedge⟩⟩
    have hjoin : quote :: (body ++ quote :: r) = quote :: (body ++ [quote]) ++ r := by simp
    rw [hjoin]
    exact ih.append_left (.literal hquote hbody .nil) hbreak

theorem plain_of_mem_lines {t : Text} (ht : PlainLines IsQuiet t) :
    ∀ l ∈ Text.lines t, PlainCode IsQuiet l ∧ PlainCode IsQuiet (Text.withoutBreak l) := by
  induction ht with
  | @last l hl hbreak =>
    by_cases hne : l = []
    · simp [hne, Text.lines]
    · rw [Text.lines_last hne hbreak, List.forall_mem_singleton, Text.withoutBreak_last hbreak]
      exact ⟨hl, hl⟩
  | line hl hbreak _ ih =>
    rw [Text.lines_line hbreak, List.forall_mem_cons, Text.withoutBreak_concat hbreak]
    exact ⟨⟨hl.append (.code (.inr rfl) .nil), hl⟩, ih⟩

/-! ### Comments and heredocs -/

section

variable {t : Text}

theorem ne_of_quiet {c : Char} (h : IsQuiet c ∨ c = '\'' ∨ c = '"') : c ≠ '#' ∧ c ≠ '<' := by
  constructor
  all_goals
    rintro rfl
    rcases h with (h | h) | h | h <;> cases h

theorem keepsCode_of_quiet {c : Char} (h : IsQuiet c) : KeepsCode c := ⟨step_of_quiet h, (ne_of_quiet (.inl h)).1⟩

theorem commentFrom?_of_plain (ht : PlainCode KeepsCode t) : commentFrom? {} t = none := by
  have hne {c : Char} (h : KeepsCode c ∨ c = '\'' ∨ c = '"') : c ≠ '#' := by
    rcases h with h | rfl | rfl
    · exact h.2
    · decide
    · decide
  have hpass := ht.passes (f := fun s n r => (commentFrom? s.flags r).map (· + n)) (fun _ hc => hc.1) (by
    intro s n c r hc
    rw [commentFrom?_cons fun hcode => hne (hc hcode), Option.map_map]
    congr 1
    funext m
    simp only [Function.comp_apply]
    omega) 0 []
  simpa [commentFrom?] using hpass

theorem stripComment_of_plain (ht : PlainCode KeepsCode t) : stripComment t = t := by
  rw [stripComment, commentFrom?_of_plain ht]

theorem terminator?_append_of_plain (ht : PlainCode IsQuiet t) (r : Text) : terminator? (t ++ r) = terminator? r :=
  ht.passes (f := fun s _ r => terminatorFrom? s.flags r) (fun _ hc => step_of_quiet hc)
    (fun _ _ _ r hc => terminatorFrom?_cons (fun hcode => (ne_of_quiet (hc hcode)).2) r) 0 r

theorem terminator?_of_plain (ht : PlainCode IsQuiet t) : terminator? t = none := by
  have hpass := terminator?_append_of_plain ht []
  rw [List.append_nil] at hpass
  exact hpass

theorem stripComments_of_plain (ht : PlainCode IsQuiet t) : stripComments t = t := by
  have hlines := fun l hl => (plain_of_mem_lines (ht.byLines fun _ hc => hc) l hl).1
  have hkeep (ls : List Text) (hls : ∀ l ∈ ls, PlainCode IsQuiet l) : stripCommentLines none ls = ls.flatten := by
    induction ls with
    | nil => rfl
    | cons l ls ih =>
      obtain ⟨hl, hls⟩ := List.forall_mem_cons.1 hls
      have hkeep := stripComment_of_plain (hl.mono fun _ => keepsCode_of_quiet)
      simp [stripCommentLines, hkeep, heredocAfter, terminator?_of_plain hl, ih hls]
  rw [stripComments, hkeep _ hlines, Text.lines_flatten]

theorem stripHeredocs_of_plain (ht : PlainCode IsQuiet t) : stripHeredocs t = t := by
  have hlines := fun l hl => (plain_of_mem_lines (ht.byLines fun _ hc => hc) l hl).1
  have hkeep (ls : List Text) (hls : ∀ l ∈ ls, PlainCode IsQuiet l) : stripHeredocLines none ls = ls.flatten := by
    induction ls with
    | nil => rfl
    | cons l ls ih =>
      obtain ⟨hl, hls⟩ := List.forall_mem_cons.1 hls
      simp [stripHeredocLines, heredocAfter, terminator?_of_plain hl, ih hls]
  rw [stripHeredocs, hkeep _ hlines, Text.lines_flatten]

theorem map_codeLines_of_plain (ht : PlainCode IsQuiet t) : (codeLines t).map (·.2) = Text.lineTexts t := by
  have hkeep : ∀ l ∈ Text.lineTexts t, stripComment l = l := by
    intro l hl
    obtain ⟨line, hline, rfl⟩ := List.mem_map.1 hl
    have hplain := (plain_of_mem_lines (ht.byLines fun _ hc => hc) line hline).2
    exact stripComment_of_plain (hplain.mono fun _ => keepsCode_of_quiet)
  have hmap : (codeLines t).map (·.2) = (Text.lineTexts t).map stripComment :=
    List.ext_getElem (by simp [codeLines, numberedLines]) fun i _ _ => by simp [codeLines, numberedLines]
  rw [hmap, List.map_congr_left hkeep, List.map_id']

end

/-! ### Parentheses -/

theorem ne_of_flat {c : Char} (h : IsFlat c ∨ c = '\'' ∨ c = '"') : c ≠ '(' ∧ c ≠ ')' := by
  rcases h with h | rfl | rfl
  · exact h.2
  · decide
  · decide

/-- Parentheses in literals do not count: behind flat code the first one that closes is found. -/
theorem closeFrom_of_flat {a : Text} (ha : PlainCode IsFlat a) (r : Text) :
    closeFrom '(' ')' {} 1 (a ++ ')' :: r) = some a.length := by
  have hstep (c : Char) (hc : IsFlat c) : QuoteState.step {} c = {} := step_of_quiet hc.1
  have hpass := ha.passes (f := fun s n r => (closeFrom '(' ')' s.flags 1 r).map (· + n)) hstep (by
    intro s n c r hc
    rw [closeFrom_cons fun hcode => ne_of_flat (hc hcode), Option.map_map]
    congr 1
    funext m
    simp only [Function.comp_apply]
    omega) 0 (')' :: r)
  have hclose : closeFrom '(' ')' {} 1 (')' :: r) = some 0 := rfl
  simpa [hclose] using hpass

end ProblemLint
