import ProblemLint.Markup.Bracket
import ProblemLint.Proofs.Brackets
import ProblemLint.Proofs.InlineExemption

/-! Square brackets without a partner. Outside of inline code, blanks and mathematics, the brackets that no backslash
hides are read with a stack. So each of those that has no partner is reported on its line, first the closing ones and
then the opening ones, and nothing is reported just if the brackets are well nested. -/

namespace ProblemLint

/-- Whether the character behind a text is hidden by a backslash. A backslash that is itself hidden hides nothing, so
what counts is whether the text ends in an odd number of them. -/
def Text.hidesNext (t : Text) : Bool := (t.reverse.takeWhile (· == '\\')).length % 2 == 1

theorem Text.hidesNext_concat (t : Text) (c : Char) : hidesNext (t ++ [c]) = (c == '\\' && !hidesNext t) := by
  unfold hidesNext
  rw [List.reverse_append, List.reverse_singleton, List.singleton_append, List.takeWhile_cons]
  by_cases hc : c = '\\'
  · simp only [hc, beq_self_eq_true, if_true, List.length_cons, Bool.true_and]
    rw [Bool.eq_iff_iff, beq_iff_eq, Bool.not_eq_true', beq_eq_false_iff_ne]
    omega
  · simp [hc]

namespace SquareBracket

def ofChar? (pos : Nat) : Char → Option PlacedBracket
  | '[' => some ⟨true, pos⟩
  | ']' => some ⟨false, pos⟩
  | _ => none

def at? (t : Text) (pos : Nat) : Option PlacedBracket :=
  if Text.hidesNext (t.take pos) then none else t[pos]?.bind (ofChar? pos)

/-- The brackets of a text that are not hidden, in text order. -/
def all (t : Text) : List PlacedBracket := (List.range t.length).filterMap (at? t)

theorem pos_of_ofChar? {pos : Nat} {c : Char} {b : PlacedBracket} (h : ofChar? pos c = some b) : b.pos = pos := by
  unfold ofChar? at h
  split at h
  · cases h
    rfl
  · cases h
    rfl
  · cases h

theorem pos_of_at? {t : Text} {pos : Nat} {b : PlacedBracket} (h : at? t pos = some b) : b.pos = pos := by
  unfold at? at h
  split at h
  · cases h
  · obtain ⟨c, -, hc⟩ := Option.bind_eq_some_iff.1 h
    exact pos_of_ofChar? hc

theorem pairwise_all (t : Text) : (all t).Pairwise fun b c => b.pos < c.pos := by
  apply List.pairwise_lt_range.filterMap
  intro i j hij b hb c hc
  rw [pos_of_at? hb, pos_of_at? hc]
  exact hij

/-- The brackets of the second part of a text, which is read up to it. -/
def allFrom (done rest : Text) : List PlacedBracket :=
  (List.range' done.length rest.length).filterMap (at? (done ++ rest))

theorem allFrom_cons (done : Text) (c : Char) (r : Text) :
    allFrom done (c :: r) =
      (if Text.hidesNext done then none else ofChar? done.length c).toList ++ allFrom (done ++ [c]) r := by
  have hat : at? (done ++ c :: r) done.length = if Text.hidesNext done then none else ofChar? done.length c := by
    simp [at?]
  unfold allFrom
  rw [List.length_cons, List.range'_succ, List.filterMap_cons, hat, List.append_assoc, List.singleton_append,
    List.length_append, List.length_singleton]
  split <;> simp_all

end SquareBracket

/-! ### The scan -/

namespace BracketScan

def ofStack (s : Pairing PlacedBracket) : BracketScan := ⟨PlacedBracket.openedAt s, PlacedBracket.straysAt s⟩

theorem read_ofStack (s : Pairing PlacedBracket) {done : Text} (hdone : Text.hidesNext done = false) (rest : Text) :
    read (ofStack s) done.length rest = ofStack ((SquareBracket.allFrom done rest).foldl Pairing.read s) := by
  generalize hu : ofStack s = u
  generalize hpos : done.length = pos
  fun_induction read u pos rest generalizing s done with
  | case1 u pos c r ih =>
    have hslash : Text.hidesNext (done ++ ['\\']) = true := by rw [Text.hidesNext_concat, hdone]; rfl
    have hnext : Text.hidesNext (done ++ ['\\'] ++ [c]) = false := by rw [Text.hidesNext_concat, hslash]; simp
    rw [SquareBracket.allFrom_cons, SquareBracket.allFrom_cons, hdone, hslash]
    exact ih s hnext hu (by simp [hpos])
  | case2 u pos r ih =>
    have hnext : Text.hidesNext (done ++ ['[']) = false := by rw [Text.hidesNext_concat]; rfl
    rw [SquareBracket.allFrom_cons, hdone, hpos]
    subst hu
    exact ih (s.read ⟨true, pos⟩) hnext rfl (by simp [hpos])
  | case3 u pos r hopened ih =>
    have hnext : Text.hidesNext (done ++ [']']) = false := by rw [Text.hidesNext_concat]; rfl
    rw [SquareBracket.allFrom_cons, hdone, hpos]
    subst hu
    refine ih (s.read ⟨false, pos⟩) hnext ?_ (by simp [hpos])
    rw [PlacedBracket.read_stray hopened]
    rfl
  | case4 u pos r p outer hopened ih =>
    have hnext : Text.hidesNext (done ++ [']']) = false := by rw [Text.hidesNext_concat]; rfl
    rw [SquareBracket.allFrom_cons, hdone, hpos]
    subst hu
    obtain ⟨b, rest, rfl, rfl, hread⟩ := PlacedBracket.read_closer hopened pos
    refine ih (s.read ⟨false, pos⟩) hnext ?_ (by simp [hpos])
    rw [hread]
    rfl
  | case5 u pos c r hescape hopen hclose ih =>
    have hnone : SquareBracket.ofChar? pos c = none := by
      unfold SquareBracket.ofChar?
      split
      · exact absurd rfl hopen
      · exact absurd rfl hclose
      · rfl
    rw [SquareBracket.allFrom_cons, hdone, hpos, hnone]
    by_cases hc : c = '\\'
    · -- a backslash at the end of the text hides nothing
      cases r with
      | nil =>
        exact hu.symm
      | cons d r => exact absurd rfl (hescape d r hc)
    · have hnext : Text.hidesNext (done ++ [c]) = false := by rw [Text.hidesNext_concat]; simp [hc]
      exact ih s hnext hu (by simp [hpos])
  | case6 u pos => exact hu.symm

theorem read_eq (t : Text) : read {} 0 t = ofStack (.ofItems (SquareBracket.all t)) := by
  have hstart : Text.hidesNext [] = false := rfl
  rw [SquareBracket.all, List.range_eq_range']
  exact read_ofStack {} hstart t

end BracketScan

/-! ### Issues -/

theorem mathSpansFrom_start_nonneg {skip pos : Nat} {t : Text} {s : Span} (h : s ∈ mathSpansFrom skip pos t) :
    0 ≤ s.start := by
  induction t generalizing skip pos with
  | nil => cases h
  | cons c r ih =>
    unfold mathSpansFrom at h
    split at h
    · exact ih h
    · split at h
      · rcases List.mem_cons.1 h with rfl | h
        · exact Int.natCast_nonneg pos
        · exact ih h
      · exact ih h

theorem blankOut_masks (t : Text) {inline blanks : List Span} (h : ∀ s ∈ inline ++ blanks, 0 ≤ s.start) :
    Span.blankOut (inline ++ blanks ++ mathSpans t) t =
      t.mapIdx fun i c => if Span.anyHolds (inline ++ blanks ++ mathSpans t) i then ' ' else c := by
  have hall : ∀ s ∈ inline ++ blanks ++ mathSpans t, 0 ≤ s.start := by
    intro s hs
    rcases List.mem_append.1 hs with hs | hs
    · exact h s hs
    · exact mathSpansFrom_start_nonneg hs
  rw [Span.blankOut, Span.wrapped_of_nonneg _ hall]

/-- Of the square brackets that are left of a text without its inline code, its blanks and its mathematics, and that
no backslash hides, those without a partner are reported: the closing ones in text order, then the opening ones in
text order, each on its own line. So nothing is reported just if the brackets are well nested. -/
theorem bracketIssues_unmatched (t : Text) (offset : Int) (newlines : NewlineIndex) {inline blanks : List Span}
    (h : ∀ s ∈ inline ++ blanks, 0 ≤ s.start) :
    let left : Text := t.mapIdx fun i c => if Span.anyHolds (inline ++ blanks ++ mathSpans t) i then ' ' else c
    let brackets := SquareBracket.all left
    let line := fun (p : Nat) => newlines.lineOf (offset + p)
    let issues := bracketIssues t offset newlines inline blanks
    (issues = [] ↔ PlacedBracket.Balanced brackets) ∧
      (∃ closers openers : List Nat, closers.Pairwise (· < ·) ∧ openers.Pairwise (· < ·) ∧
        (∀ q, q ∈ closers ↔ PlacedBracket.Unmatched brackets ⟨false, q⟩) ∧
        (∀ p, p ∈ openers ↔ PlacedBracket.Unmatched brackets ⟨true, p⟩) ∧
        issues = closers.map (fun q => .onLine .warning "PGML bracket close ] without matching [" (line q)) ++
          openers.map fun p => .onLine .warning "PGML bracket open [ without matching ]" (line p)) ∧
      ∀ whole : Text, newlines = .ofText whole →
        ∀ p, line p = 1 + (whole.take (offset + p).toNat).count '\n' := by
  intro left brackets line issues
  have hincreasing : brackets.Pairwise fun b c => b.pos < c.pos := SquareBracket.pairwise_all left
  have hissues : issues =
      (PlacedBracket.straysAt (.ofItems brackets)).reverse.map
          (fun q => .onLine .warning "PGML bracket close ] without matching [" (line q)) ++
        (PlacedBracket.openedAt (.ofItems brackets)).reverse.map fun p =>
          .onLine .warning "PGML bracket open [ without matching ]" (line p) := by
    simp only [issues, bracketIssues, blankOut_masks t h, BracketScan.read_eq]
    rfl
  refine ⟨?_, ⟨_, _, PlacedBracket.straysAt_reverse_pairwise hincreasing,
    PlacedBracket.openedAt_reverse_pairwise hincreasing, ?_, ?_, hissues⟩, ?_⟩
  · rw [hissues, PlacedBracket.balanced_iff]
    simp [and_comm]
  · intro q
    rw [List.mem_reverse]
    exact PlacedBracket.mem_straysAt_iff hincreasing q
  · intro p
    rw [List.mem_reverse]
    exact PlacedBracket.mem_openedAt_iff hincreasing p
  · rintro whole rfl p
    exact NewlineIndex.lineOf_ofText whole (offset + p)

/-- Apart from its blank, its mathematics and its inline code, this text has a bracket too much on either line, and one
after a backslash. -/
def sampleBrackets : Text := "] [_] \\[ [`]`] [@ ] @]\n[".toList

theorem sampleBrackets_unmatched :
    let issues := bracketIssues sampleBrackets 0 (.ofText sampleBrackets) [⟨15, 22⟩] [⟨2, 5⟩]
    (∀ s ∈ [(⟨15, 22⟩ : Span)] ++ [⟨2, 5⟩], 0 ≤ s.start) ∧
      .onLine .warning "PGML bracket close ] without matching [" 1 ∈ issues ∧
      .onLine .warning "PGML bracket open [ without matching ]" 2 ∈ issues := by
  intro issues
  have hspans : ∀ s ∈ [(⟨15, 22⟩ : Span)] ++ [⟨2, 5⟩], 0 ≤ s.start := by simp
  obtain ⟨-, ⟨closers, openers, -, -, hclosers, hopeners, hissues⟩, hline⟩ :=
    bracketIssues_unmatched sampleBrackets 0 (.ofText sampleBrackets) hspans
  have hcloser : 0 ∈ closers :=
    (hclosers 0).2 ((PlacedBracket.mem_straysAt_iff (SquareBracket.pairwise_all _) 0).1 (by decide))
  have hopener : 23 ∈ openers :=
    (hopeners 23).2 ((PlacedBracket.mem_openedAt_iff (SquareBracket.pairwise_all _) 23).1 (by decide))
  have hreported : issues = _ := hissues
  refine ⟨hspans, ?_, ?_⟩
  · rw [hreported]
    apply List.mem_append_left
    exact List.mem_map.2 ⟨0, hcloser, by rw [hline _ rfl]; rfl⟩
  · rw [hreported]
    apply List.mem_append_right
    exact List.mem_map.2 ⟨23, hopener, by rw [hline _ rfl]; rfl⟩

end ProblemLint
