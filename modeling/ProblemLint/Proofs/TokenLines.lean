import ProblemLint.Check.Legacy
import ProblemLint.Check.Structure
import ProblemLint.Proofs.Newlines
import ProblemLint.Proofs.Stripping

/-! Lines of tokens. Five checks look for tokens in the program without comments and heredoc bodies, and
number their lines by the line feeds of the whole text. A position of the program is at most the position of
the text that its character comes from, so the number is never too large; it is the token's line exactly if no
line feed of the text lies between the two positions. -/

namespace ProblemLint

open Text (ReadsOff)

theorem Issue.line?_onLine (severity : Severity) (message : String) (line : Nat) :
    (Issue.onLine severity message line).line? = some (line : ℤ) := by
  simp [Issue.line?, Issue.get?, Fields.get?, Issue.onLine, Value.int?]

theorem Issue.line?_general (severity : Severity) (message : String) :
    (Issue.general severity message).line? = none := by
  simp [Issue.line?, Issue.get?, Fields.get?, Issue.general]

/-- The lines of a position and of the place that its character comes from differ by the line feeds between
the two. -/
theorem count_take_origin {s t : Text} {origin : ℕ ↪o ℕ} (h : ReadsOff s t origin)
    (hcount : s.count '\n' = t.count '\n') (p : ℕ) :
    (s.take p).count '\n' = (t.take p).count '\n' + ((t.take (origin p)).drop p).count '\n' := by
  have hle : min p (origin p) = p := min_eq_left (ReadsOff.le_origin origin p)
  calc (s.take p).count '\n' = (t.take (origin p)).count '\n' := h.count_take hcount p
    _ = ((t.take (origin p)).take p).count '\n' + ((t.take (origin p)).drop p).count '\n' := by
      rw [← List.count_append, List.take_append_drop]
    _ = (t.take p).count '\n' + ((t.take (origin p)).drop p).count '\n' := by rw [List.take_take, hle]

namespace Check

def pairTokens (d : Document) : List Match :=
  match (emptyCall "DOCUMENT").findAll d.code, (emptyCall "ENDDOCUMENT").findAll d.code with
  | s :: ss, e :: es => if ss.length = es.length ∧ e.start < s.start then [e] else []
  | s :: _, [] => [s]
  | [], e :: _ => [e]
  | [], [] => []

/-- The checks that look for tokens in a program, with the tokens that their issues with a line are about, in
the order of these. -/
def tokenChecks : List (Check × (Document → List Match)) :=
  [ (documentPairs, pairTokens)
  , (answerRule, fun d => (functionCall "ans_rule").findAll d.code)
  , (breakVariable, fun d => (Pattern.text "$BR" ++ Pattern.wordEdge).findAll d.code)
  , (oldAnswerCheckers, fun d => (callOf (Pattern.words oldCheckers)).findAll d.code)
  , (solutionHintMacros, fun d => (callOf (Pattern.wordsAnyCase ["SOLUTION", "HINT"])).findAll d.code) ]

def AtToken (d : Document) (m : Match) (i : Issue) : Prop := i.line? = some (d.lineOf m.start : ℤ)

theorem matchIssues_atToken (d : Document) (p : Pattern) (t : Text) (severity : Severity)
    (message : Match → String) :
    List.Forall₂ (AtToken d) (p.findAll t) ((matchIssues d p t severity message).filter (·.line?.isSome)) := by
  have hline (m : Match) : AtToken d m (.onLine severity (message m) (d.lineOf m.start)) :=
    Issue.line?_onLine _ _ _
  rw [matchIssues, List.filter_eq_self.2 (by simp [Issue.line?_onLine])]
  induction p.findAll t with
  | nil => exact .nil
  | cons m ms ih => exact .cons (hline m) ih

theorem documentPairs_atToken (d : Document) :
    List.Forall₂ (AtToken d) (pairTokens d) ((documentPairIssues d).filter (·.line?.isSome)) := by
  have hline (severity : Severity) (message : String) (m : Match) :
      List.Forall₂ (AtToken d) [m]
        ([Issue.onLine severity message (d.lineOf m.start)].filter (·.line?.isSome)) := by
    rw [List.filter_eq_self.2 (by simp [Issue.line?_onLine])]
    exact .cons (Issue.line?_onLine _ _ _) .nil
  unfold pairTokens documentPairIssues
  cases (emptyCall "DOCUMENT").findAll d.code with
  | nil =>
    cases (emptyCall "ENDDOCUMENT").findAll d.code with
    | nil => exact .nil
    | cons e es => exact hline _ _ e
  | cons s ss =>
    cases (emptyCall "ENDDOCUMENT").findAll d.code with
    | nil => exact hline _ _ s
    | cons e es =>
      simp only [List.map_cons, List.length_cons, List.length_map, bne_iff_ne, ne_eq,
        Nat.add_right_cancel_iff]
      by_cases hlen : ss.length = es.length
      · by_cases hpos : e.start < s.start
        · simpa only [hlen, hpos, Nat.cast_lt, not_true, and_self, if_true, if_false] using hline _ _ e
        · simp [hlen, hpos]
      · simp [hlen, Issue.line?_general]

theorem tokenChecks_atToken (d : Document) : ∀ c ∈ tokenChecks, ∃ issues,
    c.1.run d = .ok ⟨issues, d⟩ ∧ List.Forall₂ (AtToken d) (c.2 d) (issues.filter (·.line?.isSome)) := by
  intro c hc
  simp only [tokenChecks, List.mem_cons, List.not_mem_nil, or_false] at hc
  rcases hc with rfl | rfl | rfl | rfl | rfl
  · exact ⟨_, rfl, documentPairs_atToken d⟩
  all_goals exact ⟨_, rfl, matchIssues_atToken d _ _ _ _⟩

/-- The five checks report the line of each token that they find if and only if no line feed of the text lies
between the token's position in the program and the place in the text that the token comes from. Otherwise
the reported line is too small. -/
theorem token_line_iff (t : Text) (path : Option Text) (blockRules : List BlockRule)
    (macroRules : List MacroRule) (version : Option Text) :
    let d := Document.ofText t path blockRules macroRules version
    (∃ origin, ReadsOff d.code t origin) ∧ ∀ origin, ReadsOff d.code t origin → ∀ c ∈ tokenChecks, ∃ issues,
      c.1.run d = .ok ⟨issues, d⟩ ∧
        List.Forall₂
          (fun m i => ∃ reported : ℕ, i.line? = some (reported : ℤ) ∧
            let line := 1 + (d.code.take m.start).count '\n'
            line = 1 + (t.take (origin m.start)).count '\n' ∧ reported ≤ line ∧
              (reported = line ↔ '\n' ∉ (t.take (origin m.start)).drop m.start))
          (c.2 d) (issues.filter (·.line?.isSome)) := by
  intro d
  have hthin : Text.Thinned d.code t := thinned_code t
  refine ⟨hthin.exists_readsOff, fun origin horigin c hc => ?_⟩
  obtain ⟨issues, hrun, hissues⟩ := tokenChecks_atToken d c hc
  refine ⟨issues, hrun, hissues.imp fun m i hi => ?_⟩
  have hline := horigin.count_take hthin.count_newline m.start
  have hsplit := count_take_origin horigin hthin.count_newline m.start
  have hreported : d.lineOf m.start = 1 + (t.take m.start).count '\n' := NewlineIndex.lineOf_ofText t m.start
  refine ⟨d.lineOf m.start, hi, by rw [hline], by omega, ?_⟩
  rw [← List.count_eq_zero]
  omega

/-- After a comment, a token is reported one line too early. -/
theorem token_line_off :
    ¬ ∀ t : Text, let d := Document.ofText t none BlockRule.standard MacroRule.standard none
      ∀ c ∈ tokenChecks, ∀ issues, c.1.run d = .ok ⟨issues, d⟩ →
        List.Forall₂ (fun m i => i.line? = some ((1 + (d.code.take m.start).count '\n' : ℕ) : ℤ))
          (c.2 d) (issues.filter (·.line?.isSome)) := by
  intro h
  set t : Text := "#\n$BR".toList
  set d := Document.ofText t none BlockRule.standard MacroRule.standard none with hd
  have hfound : (Pattern.text "$BR" ++ Pattern.wordEdge).findAll d.code = [⟨1, 4, "$BR".toList, []⟩] := rfl
  have hlines := h t (breakVariable, fun d => (Pattern.text "$BR" ++ Pattern.wordEdge).findAll d.code)
    (by simp [tokenChecks]) _ rfl
  have hreported : d.lineOf (1 : ℕ) = 1 := NewlineIndex.lineOf_ofText t (1 : ℕ)
  simp only [← hd, matchIssues, hfound, List.map_cons, List.map_nil, hreported] at hlines
  rw [List.filter_eq_self.2 (by simp [Issue.line?_onLine])] at hlines
  simp only [List.forall₂_cons, Issue.line?_onLine, List.forall₂_nil_right_iff, and_true] at hlines
  revert hlines
  decide

end Check
end ProblemLint
