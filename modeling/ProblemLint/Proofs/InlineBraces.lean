import ProblemLint.Check.Inline
import ProblemLint.Proofs.Brackets
import ProblemLint.Proofs.Newlines

/-! Braces of inline code. Those outside of quotes and comments are read with a stack, and one issue at most is
reported: the first closing brace without a partner, or else the innermost one that is left open. A comment that runs
to the end of the code keeps the latter from being reported, and nothing else does. -/

namespace ProblemLint.Check.Brace

namespace State

/-- The state after one more character. In quotes, a backslash hides the next character; a comment ends with its
line. -/
def step (s : State) (c : Char) : State :=
  match s with
  | .code =>
    if c == '#' then .comment
    else if c == '\'' || c == '"' then .quoted c false
    else .code
  | .comment => if c == '\n' then .code else .comment
  | .quoted q escaped =>
    if escaped then .quoted q false
    else if c == '\\' then .quoted q true
    else if c == q then .code
    else .quoted q false

def behind (s : State) (t : Text) : State := t.foldl step s

end State

def ofChar? (pos : Nat) : Char → Option PlacedBracket
  | '{' => some ⟨true, pos⟩
  | '}' => some ⟨false, pos⟩
  | _ => none

/-- What a character is to a reader: a brace if it stands in code. -/
def read? (s : State) (pos : Nat) (c : Char) : Option PlacedBracket := if s = .code then ofChar? pos c else none

/-- The braces outside of quotes and comments in a text that starts at a position and is read from a state on. -/
def allFrom (s : State) (pos : Nat) : Text → List PlacedBracket
  | [] => []
  | c :: r => (read? s pos c).toList ++ allFrom (s.step c) (pos + 1) r

def all (code : Text) : List PlacedBracket := allFrom .code 0 code

def EndsInComment (code : Text) : Prop := State.behind .code code = .comment

instance (code : Text) : Decidable (EndsInComment code) := inferInstanceAs (Decidable (_ = _))

theorem pos_of_read? {s : State} {pos : Nat} {c : Char} {b : PlacedBracket} (h : read? s pos c = some b) :
    b.pos = pos := by
  unfold read? at h
  split at h
  · unfold ofChar? at h
    split at h <;> cases h <;> rfl
  · cases h

theorem le_of_mem_allFrom {s : State} {pos : Nat} {t : Text} {b : PlacedBracket} (h : b ∈ allFrom s pos t) :
    pos ≤ b.pos := by
  induction t generalizing s pos with
  | nil => cases h
  | cons c r ih =>
    rcases List.mem_append.1 h with h | h
    · exact (pos_of_read? (Option.mem_toList.1 h)).ge
    · exact Nat.le_of_succ_le (ih h)

theorem pairwise_allFrom (s : State) (pos : Nat) (t : Text) :
    (allFrom s pos t).Pairwise fun b c => b.pos < c.pos := by
  induction t generalizing s pos with
  | nil => exact .nil
  | cons c r ih =>
    apply List.pairwise_append.2
    refine ⟨?_, ih _ _, ?_⟩
    · cases read? s pos c <;> simp
    · intro b hb b' hb'
      rw [pos_of_read? (Option.mem_toList.1 hb)]
      exact le_of_mem_allFrom hb'

theorem pairwise_all (code : Text) : (all code).Pairwise fun b c => b.pos < c.pos := pairwise_allFrom .code 0 code

/-! ### The scan -/

theorem faultFrom?_pass {s : State} {pos : Nat} {c : Char} (h : read? s pos c = none) (opened : List Nat) (r : Text) :
    faultFrom? s opened pos (c :: r) = faultFrom? (s.step c) opened (pos + 1) r := by
  cases s with
  | comment => rfl
  | quoted q escaped => rfl
  | code =>
    have hnone : ofChar? pos c = none := by simpa [read?] using h
    unfold ofChar? at hnone
    simp only [faultFrom?, State.step]
    split at hnone
    · cases hnone
    · cases hnone
    · split <;> simp_all

theorem read?_cases (s : State) (pos : Nat) (c : Char) :
    read? s pos c = none ∨ (s = .code ∧ c = '{') ∨ (s = .code ∧ c = '}') := by
  unfold read?
  split
  · next hs =>
    unfold ofChar?
    split
    · exact .inr (.inl ⟨hs, rfl⟩)
    · exact .inr (.inr ⟨hs, rfl⟩)
    · exact .inl rfl
  · exact .inl rfl

/-- The scan reads the braces with a stack. It stops at the first closing brace that fits nothing; otherwise, what is
left open at the end counts, unless that is the end of a comment. -/
theorem faultFrom?_eq (s : State) {u : Pairing PlacedBracket} (hu : u.strays = []) (pos : Nat) (t : Text) :
    faultFrom? s (PlacedBracket.openedAt u) pos t =
      ((PlacedBracket.straysAt ((allFrom s pos t).foldl Pairing.read u)).getLast?.map Fault.closed).or
        (if s.behind t = .comment then none
          else (PlacedBracket.openedAt ((allFrom s pos t).foldl Pairing.read u)).head?.map Fault.opened) := by
  induction t generalizing s u pos with
  | nil => by_cases hs : s = .comment <;> simp [faultFrom?, allFrom, State.behind, PlacedBracket.straysAt, hu, hs]
  | cons c r ih =>
    rcases read?_cases s pos c with hnone | ⟨rfl, rfl⟩ | ⟨rfl, rfl⟩
    · rw [faultFrom?_pass hnone, allFrom, hnone]
      exact ih (s.step c) hu (pos + 1)
    · exact ih (u := u.read ⟨true, pos⟩) .code hu (pos + 1)
    · cases hopened : PlacedBracket.openedAt u with
      | nil =>
        -- whatever is read later, this brace stays the first of its kind
        obtain ⟨more, hmore⟩ := Pairing.strays_suffix_foldl (u.read ⟨false, pos⟩) (allFrom .code (pos + 1) r)
        rw [PlacedBracket.read_stray hopened, hu] at hmore
        have hlast : (PlacedBracket.straysAt ((allFrom .code pos ('}' :: r)).foldl Pairing.read u)).getLast? =
            some pos := by
          show (PlacedBracket.straysAt
            ((allFrom .code (pos + 1) r).foldl Pairing.read (u.read ⟨false, pos⟩))).getLast? = some pos
          rw [PlacedBracket.read_stray hopened, hu, PlacedBracket.straysAt, ← hmore, List.map_append]
          exact List.getLast?_concat
        rw [hlast]
        rfl
      | cons p outer =>
        obtain ⟨b, rest, rfl, rfl, hread⟩ := PlacedBracket.read_closer hopened pos
        have hnext := ih (u := u.read ⟨false, pos⟩) .code (by rw [hread, hu]) (pos + 1)
        rw [show PlacedBracket.openedAt (u.read ⟨false, pos⟩) = rest.map (·.pos) by rw [hread]; rfl] at hnext
        exact hnext

/-! ### Faults -/

/-- The first closing brace without a partner. -/
def FirstStray (bs : List PlacedBracket) (q : Nat) : Prop :=
  PlacedBracket.Unmatched bs ⟨false, q⟩ ∧ ∀ q' < q, ¬ PlacedBracket.Unmatched bs ⟨false, q'⟩

/-- The innermost of the braces that are left open at the end, where each closing brace has a partner. -/
def InnermostOpen (bs : List PlacedBracket) (p : Nat) : Prop :=
  (∀ q, ¬ PlacedBracket.Unmatched bs ⟨false, q⟩) ∧ PlacedBracket.Unmatched bs ⟨true, p⟩ ∧
    ∀ p' > p, ¬ PlacedBracket.Unmatched bs ⟨true, p'⟩

/-- The first element of a list in strict order is the one that nothing in the list comes before. -/
theorem head?_eq_some_iff_of_pairwise {r : Nat → Nat → Prop} (hr : ∀ a b, r a b → ¬ r b a) {l : List Nat}
    (hl : l.Pairwise r) {a : Nat} : l.head? = some a ↔ a ∈ l ∧ ∀ b, r b a → b ∉ l := by
  cases l with
  | nil => simp
  | cons c l =>
    have hfirst := (List.pairwise_cons.1 hl).1
    rw [List.head?_cons, Option.some_inj]
    constructor
    · rintro rfl
      refine ⟨List.mem_cons_self, ?_⟩
      intro b hb hmem
      rcases List.mem_cons.1 hmem with rfl | hmem
      · exact hr b b hb hb
      · exact hr b c hb (hfirst b hmem)
    · rintro ⟨hmem, hleast⟩
      rcases List.mem_cons.1 hmem with rfl | hmem
      · rfl
      · exact absurd List.mem_cons_self (hleast c (hfirst a hmem))

section

variable {bs : List PlacedBracket} (hbs : bs.Pairwise fun b c => b.pos < c.pos)

include hbs

theorem getLast?_strays_iff {q : Nat} :
    (PlacedBracket.straysAt (.ofItems bs)).getLast? = some q ↔ FirstStray bs q := by
  have hordered := PlacedBracket.straysAt_reverse_pairwise hbs
  rw [← List.head?_reverse, head?_eq_some_iff_of_pairwise (fun _ _ => Nat.lt_asymm) hordered]
  simp only [List.mem_reverse, PlacedBracket.mem_straysAt_iff hbs]
  rfl

theorem strays_eq_nil_iff :
    PlacedBracket.straysAt (.ofItems bs) = [] ↔ ∀ q, ¬ PlacedBracket.Unmatched bs ⟨false, q⟩ := by
  simp only [List.eq_nil_iff_forall_not_mem, PlacedBracket.mem_straysAt_iff hbs]

theorem head?_opened_iff {p : Nat} (hstrays : PlacedBracket.straysAt (.ofItems bs) = []) :
    (PlacedBracket.openedAt (.ofItems bs)).head? = some p ↔ InnermostOpen bs p := by
  have hordered := List.pairwise_reverse.1 (PlacedBracket.openedAt_reverse_pairwise hbs)
  rw [head?_eq_some_iff_of_pairwise (fun _ _ => Nat.lt_asymm) hordered]
  simp only [PlacedBracket.mem_openedAt_iff hbs]
  exact (and_iff_right ((strays_eq_nil_iff hbs).1 hstrays)).symm

theorem not_balanced_iff :
    ¬ PlacedBracket.Balanced bs ↔ (∃ q, FirstStray bs q) ∨ ∃ p, InnermostOpen bs p := by
  rw [PlacedBracket.balanced_iff]
  constructor
  · intro h
    by_cases hstrays : PlacedBracket.straysAt (.ofItems bs) = []
    · obtain ⟨p, outer, hopened⟩ := List.exists_cons_of_ne_nil fun hopened => h ⟨hopened, hstrays⟩
      exact .inr ⟨p, (head?_opened_iff hbs hstrays).1 (by rw [hopened, List.head?_cons])⟩
    · exact .inl ⟨_, (getLast?_strays_iff hbs).1 (List.getLast?_eq_some_getLast hstrays)⟩
  · rintro (⟨q, hq⟩ | ⟨p, hp⟩) ⟨hopened, hstrays⟩
    · rw [← getLast?_strays_iff hbs, hstrays] at hq
      cases hq
    · rw [← head?_opened_iff hbs hstrays, hopened] at hp
      cases hp

end

/-! ### Issues -/

section

variable {code : Text} (offset : Int) (newlines : NewlineIndex)

theorem faultFrom?_code (code : Text) :
    faultFrom? .code [] 0 code =
      ((PlacedBracket.straysAt (.ofItems (all code))).getLast?.map Fault.closed).or
        (if EndsInComment code then none
          else (PlacedBracket.openedAt (.ofItems (all code))).head?.map Fault.opened) :=
  faultFrom?_eq .code (u := {}) rfl 0 code

theorem issues_of_firstStray {q : Nat} (h : FirstStray (all code) q) :
    issues code offset newlines =
      [.onLine .error "PGML inline code has unbalanced '\x7d' brace" (newlines.lineOf (offset + q))] := by
  have hfault : faultFrom? .code [] 0 code = some (.closed q) := by
    rw [faultFrom?_code, (getLast?_strays_iff (pairwise_all _)).2 h]
    rfl
  rw [issues, hfault]

theorem faultFrom?_of_no_stray (h : ∀ q, ¬ PlacedBracket.Unmatched (all code) ⟨false, q⟩) :
    faultFrom? .code [] 0 code =
      if EndsInComment code then none
      else (PlacedBracket.openedAt (.ofItems (all code))).head?.map Fault.opened := by
  rw [faultFrom?_code, (strays_eq_nil_iff (pairwise_all _)).2 h]
  rfl

theorem issues_of_innermostOpen {p : Nat} (h : InnermostOpen (all code) p) (hend : ¬ EndsInComment code) :
    issues code offset newlines =
      [.onLine .error "PGML inline code has unclosed '\x7b' brace" (newlines.lineOf (offset + p))] := by
  have hstrays := (strays_eq_nil_iff (pairwise_all _)).2 h.1
  have hfault : faultFrom? .code [] 0 code = some (.opened p) := by
    rw [faultFrom?_of_no_stray h.1, if_neg hend, (head?_opened_iff (pairwise_all _) hstrays).2 h]
    rfl
  rw [issues, hfault]

theorem issues_of_endsInComment (h : ∀ q, ¬ PlacedBracket.Unmatched (all code) ⟨false, q⟩)
    (hend : EndsInComment code) : issues code offset newlines = [] := by
  rw [issues, faultFrom?_of_no_stray h, if_pos hend]

theorem issues_of_balanced (h : PlacedBracket.Balanced (all code)) : issues code offset newlines = [] := by
  obtain ⟨hopened, hstrays⟩ := (PlacedBracket.balanced_iff _).1 h
  rw [issues, faultFrom?_code, hstrays, hopened]
  simp

end

/-- What is reported about the braces of a piece of code that lie outside of quotes and comments: the first closing one
without a partner, or else the innermost one that is left open, each on its line; and nothing if they are well nested.
The only exception is a comment at the end, before which a brace may stay open. So there are no issues just if the
braces are well nested, unless that exception applies. -/
theorem issues_account (code : Text) (offset : Int) (newlines : NewlineIndex) :
    let braces := all code
    let line := fun (p : Nat) => newlines.lineOf (offset + p)
    let reported := issues code offset newlines
    (∀ q, FirstStray braces q →
        reported = [.onLine .error "PGML inline code has unbalanced '\x7d' brace" (line q)]) ∧
      (∀ p, InnermostOpen braces p → ¬ EndsInComment code →
        reported = [.onLine .error "PGML inline code has unclosed '\x7b' brace" (line p)]) ∧
      (∀ p, InnermostOpen braces p → EndsInComment code → reported = []) ∧
      (PlacedBracket.Balanced braces → reported = []) ∧
      (¬ PlacedBracket.Balanced braces ↔ (∃ q, FirstStray braces q) ∨ ∃ p, InnermostOpen braces p) ∧
      ((reported = [] ↔ PlacedBracket.Balanced braces) ↔ ¬ (EndsInComment code ∧ ∃ p, InnermostOpen braces p)) ∧
      ∀ whole : Text, newlines = .ofText whole → ∀ p, line p = 1 + (whole.take (offset + p).toNat).count '\n' := by
  intro braces line reported
  have hfaulty := not_balanced_iff (pairwise_all code)
  refine ⟨fun q hq => issues_of_firstStray offset newlines hq,
    fun p hp hend => issues_of_innermostOpen offset newlines hp hend,
    fun p hp hend => issues_of_endsInComment offset newlines hp.1 hend,
    issues_of_balanced offset newlines, hfaulty, ?_, ?_⟩
  · constructor
    · rintro hiff ⟨hend, p, hp⟩
      exact hfaulty.2 (.inr ⟨p, hp⟩) (hiff.1 (issues_of_endsInComment offset newlines hp.1 hend))
    · intro hseen
      refine ⟨fun hnil => ?_, issues_of_balanced offset newlines⟩
      by_contra hbalanced
      rcases hfaulty.1 hbalanced with ⟨q, hq⟩ | ⟨p, hp⟩
      · rw [show reported = _ from issues_of_firstStray offset newlines hq] at hnil
        cases hnil
      · rw [show reported = _ from
          issues_of_innermostOpen offset newlines hp fun hend => hseen ⟨hend, p, hp⟩] at hnil
        cases hnil
  · rintro whole rfl p
    exact NewlineIndex.lineOf_ofText whole (offset + p)

/-- A comment behind an open brace hides it, and the same comment with a line feed does not. -/
theorem open_brace_before_comment :
    ¬ PlacedBracket.Balanced (all "\x7b # c".toList) ∧ InnermostOpen (all "\x7b # c".toList) 0 ∧
      issues "\x7b # c".toList 0 (.ofText "\x7b # c".toList) = [] ∧
      issues "\x7b # c\n".toList 0 (.ofText "\x7b # c\n".toList) =
        [.onLine .error "PGML inline code has unclosed '\x7b' brace" 1] := by
  have hbraces : all "\x7b # c".toList = [⟨true, 0⟩] := by decide
  have hopen : InnermostOpen (all "\x7b # c".toList) 0 := by
    apply (head?_opened_iff (pairwise_all _) _).1
    · rw [hbraces]
      rfl
    · rw [hbraces]
      rfl
  refine ⟨(not_balanced_iff (pairwise_all _)).2 (.inr ⟨0, hopen⟩), hopen, rfl, ?_⟩
  exact congrArg (fun n => [Issue.onLine .error "PGML inline code has unclosed '\x7b' brace" n])
    (NewlineIndex.lineOf_ofText _ _)

end ProblemLint.Check.Brace
