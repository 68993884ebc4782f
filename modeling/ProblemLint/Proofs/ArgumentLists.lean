import ProblemLint.Check.Signature
import ProblemLint.Proofs.Delimiters
import ProblemLint.Proofs.Lines
import ProblemLint.Proofs.Trimming

/-! Argument lists of calls. Three counters follow the parentheses, brackets and braces of the code and know nothing of
their order. In a well nested text each group brings them back to where they were, so between its delimiters they are
never all zero, and no comma or parenthesis there is taken for the end of an argument. Arguments that are written with
commas between them are therefore read back as they are, up to blanks around them. -/

namespace ProblemLint

namespace Check.Signature

def IsBracket (c : Char) : Prop := c ∈ ['(', ')', '[', ']', '{', '}']

instance : DecidablePred IsBracket := fun c => inferInstanceAs (Decidable (c ∈ _))

inductive Encloses : Char → Char → Prop
  | paren : Encloses '(' ')'
  | bracket : Encloses '[' ']'
  | brace : Encloses '{' '}'

/-- Brackets of three kinds, well nested among other characters. -/
inductive Nested : Text → Prop
  | nil : Nested []
  | plain {c : Char} {v : Text} (hc : ¬ IsBracket c) (hv : Nested v) : Nested (c :: v)
  | group {o c : Char} {u v : Text} (h : Encloses o c) (hu : Nested u) (hv : Nested v) : Nested (o :: (u ++ c :: v))

/-- A text that can stand as one of several arguments: its quotes are closed and no backslash is left over, and its code
is well nested and has no comma outside of its brackets. -/
structure IsArgument (a : Text) : Prop where
  closed : QuoteState.behind {} a = {}
  nested : Nested (QuoteState.codeFrom {} a)
  inner_commas : ∀ u v, QuoteState.codeFrom {} a = u ++ ',' :: v → ¬ Nested u

/-! ### Depths -/

namespace Depth

theorem step_of_not_isBracket (d : Depth) {c : Char} (h : ¬ IsBracket c) : d.step c = d := by
  simp only [IsBracket, List.mem_cons, List.not_mem_nil, or_false, not_or] at h
  obtain ⟨h₁, h₂, h₃, h₄, h₅, h₆⟩ := h
  unfold step
  split <;> first | rfl | contradiction

theorem step_encloses {d : Depth} (hd : 0 ≤ d.paren) {o c : Char} (h : Encloses o c) :
    d.step o ≠ {} ∧ 0 ≤ (d.step o).paren ∧ (d.step o).step c = d := by
  obtain ⟨p, b, e⟩ := d
  replace hd : 0 ≤ p := hd
  cases h with
  | paren => exact ⟨fun h => by simp [step] at h; omega, by simp [step]; omega, by simp [step]⟩
  | bracket => exact ⟨fun h => by simp [step] at h, hd, rfl⟩
  | brace => exact ⟨fun h => by simp [step] at h, hd, rfl⟩

/-- Reading code from a depth on, no comma and no closing parenthesis is met on the outermost level. -/
def Quiet (d : Depth) : Text → Prop
  | [] => True
  | c :: r => (d = {} → c ≠ ')' ∧ c ≠ ',') ∧ Quiet (d.step c) r

theorem quiet_append {d : Depth} {u v : Text} (hu : d.Quiet u) (hv : (u.foldl step d).Quiet v) : d.Quiet (u ++ v) := by
  induction u generalizing d with
  | nil => exact hv
  | cons c u ih => exact ⟨hu.1, ih hu.2 hv⟩

theorem foldl_nested {w : Text} (h : Nested w) {d : Depth} (hd : 0 ≤ d.paren) : w.foldl step d = d := by
  induction h generalizing d with
  | nil => rfl
  | plain hc _ ih => rw [List.foldl_cons, step_of_not_isBracket d hc, ih hd]
  | group h _ _ ihu ihv =>
    obtain ⟨-, hd', hback⟩ := step_encloses hd h
    rw [List.foldl_cons, List.foldl_append, ihu hd', List.foldl_cons, hback, ihv hd]

theorem not_nested_of_depth {w : Text} (h : ∀ k < w.length, w[k]? = some ',' → (w.take k).foldl step {} ≠ {})
    {u v : Text} (huv : w = u ++ ',' :: v) : ¬ Nested u := by
  intro hu
  subst huv
  refine h u.length (by simp) (by simp) ?_
  rw [List.take_left]
  exact foldl_nested hu le_rfl

/-- A well nested text is quiet inside of brackets; on the outermost level its commas have to be in brackets of its
own. -/
theorem quiet_nested {w : Text} (h : Nested w) {d : Depth} (hd : 0 ≤ d.paren)
    (hcomma : d = {} → ∀ u v, w = u ++ ',' :: v → ¬ Nested u) : d.Quiet w := by
  induction h generalizing d with
  | nil => trivial
  | @plain c r hc _ ih =>
    refine ⟨fun h0 => ⟨?_, ?_⟩, ?_⟩
    · rintro rfl
      exact hc (by decide)
    · rintro rfl
      exact hcomma h0 [] r rfl .nil
    · rw [step_of_not_isBracket d hc]
      refine ih hd fun h0 u v huv hu => hcomma h0 (c :: u) v ?_ (.plain hc hu)
      rw [huv, List.cons_append]
  | @group o c inner r h hinner _ ihinner ihr =>
    obtain ⟨hne, hd', hback⟩ := step_encloses hd h
    refine ⟨fun _ => by cases h <;> decide, ?_⟩
    -- the level between the brackets is not the outermost one, whatever `d` is
    refine quiet_append (ihinner hd' fun h0 => absurd h0 hne) ?_
    rw [foldl_nested hinner hd']
    refine ⟨fun h0 => absurd h0 hne, ?_⟩
    rw [hback]
    refine ihr hd fun h0 u v huv hu => hcomma h0 (o :: (inner ++ c :: u)) v ?_ (.group h hinner hu)
    rw [huv]
    simp

end Depth

/-! ### Reading -/

theorem argumentsFrom?_cons {s : QuoteState} {d : Depth} {c : Char}
    (h : s.inCode = true → d = {} → c ≠ ')' ∧ c ≠ ',') (done : List Text) (current : Text) (pos : Nat) (r : Text) :
    argumentsFrom? s.flags d done current pos (c :: r) =
      argumentsFrom? (s.step c).flags (if s.inCode then d.step c else d) done (c :: current) (pos + 1) r := by
  rcases s.byPlace?_cases c with ⟨hnone, hstep, hcode⟩ | ⟨hsome, hmark⟩
  · have hclose : ¬ (d == {} && c == ')') = true := by
      simp only [Bool.and_eq_true, beq_iff_eq, not_and]
      exact fun h0 => (h hcode h0).1
    have hcomma : ¬ (d == {} && c == ',') = true := by
      simp only [Bool.and_eq_true, beq_iff_eq, not_and]
      exact fun h0 => (h hcode h0).2
    simp only [argumentsFrom?, hnone, hstep, hcode, if_true, if_neg hclose, if_neg hcomma]
  · have hdepth : (if s.inCode then d.step c else d) = d := by
      split
      · next hcode => rcases QuoteState.isMark_iff.1 (hmark hcode) with rfl | rfl | rfl <;> rfl
      · rfl
    simp only [argumentsFrom?, hsome, hdepth]

theorem argumentsFrom?_quiet {s : QuoteState} {d : Depth} {a : Text} (h : d.Quiet (s.codeFrom a)) (done : List Text)
    (current : Text) (pos : Nat) (r : Text) :
    argumentsFrom? s.flags d done current pos (a ++ r) =
      argumentsFrom? (s.behind a).flags ((s.codeFrom a).foldl Depth.step d) done (a.reverse ++ current) (pos + a.length)
        r := by
  induction a generalizing s d current pos with
  | nil => rfl
  | cons c a ih =>
    by_cases hcode : s.inCode = true
    · rw [QuoteState.codeFrom, if_pos hcode] at h ⊢
      rw [List.cons_append, argumentsFrom?_cons fun _ => h.1, if_pos hcode, ih h.2]
      simp [QuoteState.behind, Nat.add_comm, Nat.add_left_comm]
    · rw [QuoteState.codeFrom, if_neg hcode] at h ⊢
      rw [List.cons_append, argumentsFrom?_cons fun h0 => absurd h0 hcode, if_neg hcode, ih h]
      simp [QuoteState.behind, Nat.add_comm, Nat.add_left_comm]

theorem IsArgument.argumentsFrom?_append {a : Text} (h : IsArgument a) (done : List Text) (pos : Nat) (r : Text) :
    argumentsFrom? {} {} done [] pos (a ++ r) = argumentsFrom? {} {} done a.reverse (pos + a.length) r := by
  have hquiet : Depth.Quiet {} (QuoteState.codeFrom {} a) := Depth.quiet_nested h.nested le_rfl fun _ => h.inner_commas
  rw [← QuoteState.flags_start, argumentsFrom?_quiet hquiet, h.closed, Depth.foldl_nested h.nested le_rfl, List.append_nil]

theorem argumentsFrom?_join {args : List Text} (hne : args ≠ []) (h : ∀ a ∈ args, IsArgument a) {done : List Text}
    (hblank : done = [] → ∀ a, args = [a] → Text.isAllBlank a = false) (pos : Nat) (rest : Text) :
    argumentsFrom? {} {} done [] pos (Text.join "," args ++ ')' :: rest) =
      some (done ++ args.map Text.trim, pos + (Text.join "," args).length) := by
  induction args generalizing done pos with
  | nil => exact absurd rfl hne
  | cons a args ih =>
    have ha := h a List.mem_cons_self
    cases args with
    | nil =>
      have hkept : ¬ (done.isEmpty && (Text.trim a).isEmpty) = true := by
        rw [Bool.and_eq_true, List.isEmpty_iff, List.isEmpty_iff, Text.trim_eq_nil_iff, not_and]
        intro hdone
        simp [hblank hdone a rfl]
      have hclose (current : Text) (pos : Nat) : argumentsFrom? {} {} done current pos (')' :: rest) =
          some (if done.isEmpty && (Text.trim current.reverse).isEmpty then []
            else done ++ [Text.trim current.reverse], pos) := rfl
      rw [Text.join_singleton, ha.argumentsFrom?_append, hclose, List.reverse_reverse, if_neg hkept]
      rfl
    | cons b args =>
      have hjoin : Text.join "," (a :: b :: args) = a ++ ',' :: Text.join "," (b :: args) := Text.join_cons_cons _ _ _ _
      have hcomma (current : Text) (pos : Nat) (r : Text) : argumentsFrom? {} {} done current pos (',' :: r) =
          argumentsFrom? {} {} (done ++ [Text.trim current.reverse]) [] (pos + 1) r := rfl
      rw [hjoin, List.append_assoc, ha.argumentsFrom?_append, List.cons_append, hcomma, List.reverse_reverse,
        ih (List.cons_ne_nil b args) fun c hc => h c (List.mem_cons_of_mem a hc)]
      · simp only [List.map_cons, List.append_assoc, List.singleton_append, List.length_append, List.length_cons]
        congr 2
        omega
      · intro hdone
        simp at hdone

/-- Arguments written with commas between them in parentheses are read back, each without the blanks around it, together
with the position of the closing parenthesis, whatever stands before and behind the parentheses. One argument alone must
not be blank: that is a call without arguments. -/
theorem arguments?_join {args : List Text} (hne : args ≠ []) (h : ∀ a ∈ args, IsArgument a)
    (hblank : ∀ a, args = [a] → Text.isAllBlank a = false) (before rest : Text) :
    arguments? (before ++ '(' :: (Text.join "," args ++ ')' :: rest)) before.length =
      some (args.map Text.trim, (before.length : Int) + 1 + (Text.join "," args).length) := by
  have hread : Text.readFrom? (before ++ '(' :: (Text.join "," args ++ ')' :: rest)) (before.length + 1) =
      some (Text.join "," args ++ ')' :: rest) := by
    have := Text.readFrom?_natCast (before ++ '(' :: (Text.join "," args ++ ')' :: rest)) (before.length + 1)
    rw [Nat.cast_add, Nat.cast_one] at this
    rw [this]
    simp
  have hargs : argumentsFrom? {} {} [] [] 0 (Text.join "," args ++ ')' :: rest) =
      some (args.map Text.trim, (Text.join "," args).length) := by
    rw [argumentsFrom?_join hne h fun _ => hblank, List.nil_append, Nat.zero_add]
  simp only [arguments?, hread, Option.bind_eq_bind, Option.bind_some, hargs]

/-- Commas in brackets, in quotes and behind a backslash do not divide arguments, nor does a quoted parenthesis end
them. -/
theorem arguments?_hidden_commas :
    arguments? "y = f([1,(2)], '),' ,x\\,) + g(".toList 5 =
      some (["[1,(2)]".toList, "'),'".toList, "x\\,".toList], 24) := by
  have hnested : IsArgument "[1,(2)]".toList := by
    refine ⟨by decide, ?_, fun u v => Depth.not_nested_of_depth (by decide)⟩
    exact .group (u := "1,(2)".toList) (v := []) .bracket
      (.plain (by decide) (.plain (by decide)
        (.group (u := "2".toList) (v := []) .paren (.plain (by decide) .nil) .nil))) .nil
  have hquoted : IsArgument " '),' ".toList := by
    refine ⟨by decide, ?_, fun u v => Depth.not_nested_of_depth (by decide)⟩
    exact .plain (by decide) (.plain (by decide) (.plain (by decide) .nil))
  have hescaped : IsArgument "x\\,".toList := by
    refine ⟨by decide, ?_, fun u v => Depth.not_nested_of_depth (by decide)⟩
    exact .plain (by decide) (.plain (by decide) .nil)
  exact arguments?_join (List.cons_ne_nil _ _)
    (List.forall_mem_cons.2 ⟨hnested, List.forall_mem_cons.2 ⟨hquoted, List.forall_mem_singleton.2 hescaped⟩⟩)
    (fun a ha => by cases ha) "y = f".toList " + g(".toList

end Check.Signature
end ProblemLint
