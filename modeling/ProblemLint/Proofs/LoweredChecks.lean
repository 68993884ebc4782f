import ProblemLint.Proofs.LoweredDocument
import ProblemLint.Proofs.Runs

/-! Checks of a document one line further down. Every standard check but the one of the header finds in it what it
found before, one line further down: a check that reads line by line finds nothing in the new first line, a check that
looks for a pattern finds no match at the new line feed, and a check of markup meets the same regions. -/

namespace ProblemLint

/-- A reading of a text that starts one line and one position further down. -/
def Reading.lowered (r : Reading) : Reading := { r with start := r.start + 1, issues := r.issues.map Issue.lowered }

/-! ### Lines -/

theorem lineTexts_newline (t : Text) : Text.lineTexts ('\n' :: t) = [] :: Text.lineTexts t := by
  unfold Text.lineTexts
  rw [Text.lines_newline_cons, List.map_cons]
  rfl

theorem numberedLines_newline (t : Text) :
    numberedLines ('\n' :: t) = (1, []) :: (numberedLines t).map fun x => (x.1 + 1, x.2) := by
  unfold numberedLines
  rw [lineTexts_newline, List.mapIdx_cons]
  congr 1
  refine List.ext_getElem? fun i => ?_
  simp [Function.comp_def]

theorem codeLines_newline (t : Text) :
    codeLines ('\n' :: t) = (1, []) :: (codeLines t).map fun x => (x.1 + 1, x.2) := by
  have hfirst : stripComment [] = [] := by decide
  unfold codeLines
  rw [numberedLines_newline, List.map_cons, List.map_map, List.map_map]
  simp only [hfirst]
  rfl

section

variable {lines lines' : List (Nat × Text)} (hlines : lines' = (1, []) :: lines.map fun x => (x.1 + 1, x.2))

include hlines

/-- Issues that are found line by line, none of them in an empty line. -/
theorem flatMap_lines_lowered {f : Nat × Text → List Issue} (hempty : f (1, []) = [])
    (hstep : ∀ n l, f (n + 1, l) = (f (n, l)).map Issue.lowered) :
    lines'.flatMap f = (lines.flatMap f).map Issue.lowered := by
  rw [hlines, List.flatMap_cons, hempty, List.nil_append, List.flatMap_map, List.map_flatMap]
  exact List.flatMap_congr fun x _ => hstep x.1 x.2

theorem lineIssues_lowered {test : Text → Bool} (hempty : test [] = false) (message : String) :
    Check.lineIssues lines' test message = (Check.lineIssues lines test message).map Issue.lowered := by
  unfold Check.lineIssues
  rw [hlines, List.filter_cons_of_neg (by simp [hempty]), List.filter_map, List.map_map, List.map_map]
  rfl

theorem filterMap_lines_lowered {f : Nat × Text → Option Issue} (hempty : f (1, []) = none)
    (hstep : ∀ n l, f (n + 1, l) = (f (n, l)).map Issue.lowered) :
    lines'.filterMap f = (lines.filterMap f).map Issue.lowered := by
  rw [hlines, List.filterMap_cons_none hempty, List.filterMap_map, List.map_filterMap]
  exact List.filterMap_congr fun x _ => hstep x.1 x.2

end

theorem eraseDupsBy_map {α β : Type} {same : α → α → Bool} {same' : β → β → Bool} {f : α → β}
    (h : ∀ a b, same' (f a) (f b) = same a b) (l : List α) :
    (l.map f).eraseDupsBy same' = (l.eraseDupsBy same).map f := by
  induction hn : l.length using Nat.strong_induction_on generalizing l with
  | _ n ih =>
    cases l with
    | nil => rfl
    | cons a l =>
      have hle := List.length_filter_le (fun b => decide (same b a = false)) l
      rw [List.length_cons] at hn
      rw [List.map_cons, List.eraseDupsBy_cons, List.eraseDupsBy_cons, List.map_cons, List.filter_map]
      congr 1
      rw [← ih _ (by omega) _ rfl]
      congr 2
      refine List.filter_congr fun b _ => ?_
      simp [h]

namespace Check

/-! ### Checks of single lines -/

variable {d : Document}

theorem styleIssues_newline (t : Text) :
    HtmlPolicy.styleIssues ('\n' :: t) = (HtmlPolicy.styleIssues t).map Issue.lowered := by
  unfold HtmlPolicy.styleIssues
  refine filterMap_lines_lowered (numberedLines_newline t) (by decide) fun n l => ?_
  dsimp only
  split <;> rfl

theorem wrapperIssues_newline (t : Text) :
    HtmlPolicy.wrapperIssues ('\n' :: t) = (HtmlPolicy.wrapperIssues t).map Issue.lowered := by
  unfold HtmlPolicy.wrapperIssues
  refine flatMap_lines_lowered (numberedLines_newline t) (by decide) fun n l => ?_
  simp only [List.map_filterMap, Option.map_map]
  rfl

theorem modesIssues_newline (t : Text) (find : Text → List Nat) (message : String) :
    modesIssues ('\n' :: t) find message = (modesIssues t find message).map Issue.lowered := by
  have hfirst (t : Text) : Modes.callAt? none ('\n' :: t) = none := by
    have hname : Text.after? "MODES".toList ('\n' :: t) = none := after?_newline (by decide) _ t
    simp only [Modes.callAt?, hname]
    rfl
  have hbefore (t : Text) : Modes.callAt? (some '\n') t = Modes.callAt? none t := by
    simp only [Modes.callAt?, Option.any_some, Option.any_none, isWord_newline]
  have hcalls : Modes.calls ('\n' :: t) = (Modes.calls t).map fun x => (x.1 + 1, x.2) := by
    unfold Modes.calls
    rw [occurrences_newline hfirst hbefore, List.filterMap_map, List.map_filterMap]
    refine List.filterMap_congr fun x _ => ?_
    obtain ⟨pos, call⟩ := x
    cases call with
    | none => rfl
    | some c => simp only [Function.comp, Option.map_some, Nat.add_right_comm]
  unfold modesIssues
  rw [hcalls, List.flatMap_map, List.map_flatMap]
  refine List.flatMap_congr fun x _ => ?_
  rw [List.map_map]
  refine List.map_congr_left fun pos _ => ?_
  have hline := NewlineIndex.lineOf_newline t (Int.natCast_nonneg (x.1 + pos))
  rw [show ((x.1 + pos : Nat) : Int) + 1 = ((x.1 + 1 + pos : Nat) : Int) by omega] at hline
  simp only [Function.comp, hline, Issue.lowered_onLine]

theorem includeIssues_lowered : includeIssues d.lowered = (includeIssues d).map Issue.lowered := by
  have hempty : includeCall.occursIn [] = false := by decide
  have hpayload : (outsideMacroCalls false (Text.lineTexts ('\n' :: d.text))).any isPayload =
      (outsideMacroCalls false (Text.lineTexts d.text)).any isPayload := by
    rw [lineTexts_newline]
    rfl
  have hincluded : ((codeLines ('\n' :: d.text)).filter fun x => includeCall.occursIn x.2).map (·.1) =
      (((codeLines d.text).filter fun x => includeCall.occursIn x.2).map (·.1)).map (· + 1) := by
    rw [codeLines_newline, List.filter_cons_of_neg (by simp [hempty]), List.filter_map, List.map_map, List.map_map]
    rfl
  unfold includeIssues
  simp only [Document.text_lowered, hincluded, hpayload]
  cases ((codeLines d.text).filter fun x => includeCall.occursIn x.2).map (·.1) with
  | nil => rfl
  | cons first rest =>
    simp only [List.map_cons, List.map_append, List.map_map]
    split <;> rfl

theorem signatures_newline (t : Text) : Signature.issues ('\n' :: t) = (Signature.issues t).map Issue.lowered := by
  have hissue (n : Nat) (l : Text) (m : Match) :
      Signature.issue? (n + 1) l m = (Signature.issue? n l m).map Issue.lowered := by
    unfold Signature.issue?
    dsimp only
    split
    · rfl
    · split
      · rfl
      · cases Signature.known.find? (·.name == String.ofList (m.group 1)) with
        | none => rfl
        | some a =>
          cases Signature.arguments? l (m.stop - 1 : Nat) with
          | none => rfl
          | some x =>
            simp only [bind, Option.bind]
            split
            · rfl
            · cases Signature.arityProblem? a x.1 <;> rfl
  unfold Signature.issues
  refine flatMap_lines_lowered (numberedLines_newline t) (by decide) fun n l => ?_
  simp only [List.map_filterMap, ← hissue]

theorem lengthIssues_succ (n : Nat) (l : Text) : lengthIssues (n + 1) l = (lengthIssues n l).map Issue.lowered := by
  unfold lengthIssues
  dsimp only
  split
  · rfl
  · split
    · rfl
    · split <;> rfl

theorem unseededIssues_succ (n : Nat) (l : Text) :
    unseededIssues (n + 1) l = (unseededIssues n l).map Issue.lowered := by
  unfold unseededIssues
  simp only [List.map_flatMap, List.map_map]
  rfl

theorem garbledText_lowered : garbledText.found d.lowered = (garbledText.found d).map Issue.lowered := by
  simp only [garbledText, found_reporting]
  refine filterMap_lines_lowered (numberedLines_newline d.code) (by decide) fun n l => ?_
  simp only [Option.map_map]
  rfl

theorem wrapperInString_lowered : wrapperInString.found d.lowered = (wrapperInString.found d).map Issue.lowered := by
  simp only [wrapperInString, found_reporting]
  refine flatMap_lines_lowered (codeLines_newline d.code) (by decide) fun n l => ?_
  simp only [List.map_map]
  rfl

namespace LoadMacros

def OpenCall.lowered (c : OpenCall) : OpenCall := { c with line := c.line + 1 }

def Scan.lowered (s : Scan) : Scan :=
  ⟨s.issues.map Issue.lowered, s.opened.map OpenCall.lowered, s.wanting.map (· + 1)⟩

theorem listIssues_succ (block : Text) (n : Nat) :
    listIssues block (n + 1) = (listIssues block n).map Issue.lowered := by
  have hnote (found : Bool) (message : String) :
      (if found then [Issue.onLine .error message (n + 1)] else []) =
        (if found then [Issue.onLine .error message n] else []).map Issue.lowered := by
    cases found <;> rfl
  simp only [listIssues, hnote, List.map_append]

theorem inside_lowered (s : Scan) (call : OpenCall) (n : Nat) (t : Text) :
    s.lowered.inside call.lowered (n + 1) t = (s.inside call n t).lowered := by
  unfold Scan.inside
  rw [show call.lowered.depth = call.depth from rfl, show call.lowered.lines = call.lines from rfl]
  split
  · rfl
  · simp only [Scan.lowered, listIssues_succ, List.map_append, Option.map_none]
    split <;> rfl

theorem code_lowered (s : Scan) (n : Nat) (t : Text) : s.lowered.code (n + 1) t = (s.code n t).lowered := by
  unfold Scan.code
  cases hopened : s.opened with
  | some call =>
    have hopened' : s.lowered.opened = some call.lowered := by simp [Scan.lowered, hopened]
    simp only [hopened']
    exact inside_lowered s call n t
  | none =>
    have hopened' : s.lowered.opened = none := by simp [Scan.lowered, hopened]
    simp only [hopened']
    split
    · exact inside_lowered s ⟨n, 1, []⟩ n _
    · rfl

theorem line_lowered (s : Scan) (n : Nat) (t : Text) : s.lowered.line (n + 1, t) = (s.line (n, t)).lowered := by
  simp only [Scan.line]
  cases hwanting : s.wanting with
  | none =>
    have hwanting' : s.lowered.wanting = none := by simp [Scan.lowered, hwanting]
    simp only [hwanting']
    exact code_lowered s n t
  | some m =>
    have hwanting' : s.lowered.wanting = some (m + 1) := by simp [Scan.lowered, hwanting]
    simp only [hwanting']
    split
    · rfl
    · rfl
    · rw [← code_lowered]
      simp [Scan.lowered]

theorem issues_newline (t : Text) : issues ('\n' :: t) = (issues t).map Issue.lowered := by
  have hfirst : Scan.line {} (1, []) = {} := by
    have hparen : openParen? [] = none := by decide
    simp only [Scan.line, Scan.code, hparen]
  have hscan (s : Scan) (lines : List (Nat × Text)) :
      (lines.map fun x => (x.1 + 1, x.2)).foldl Scan.line s.lowered = (lines.foldl Scan.line s).lowered := by
    induction lines generalizing s with
    | nil => rfl
    | cons x lines ih =>
      rw [List.map_cons, List.foldl_cons, List.foldl_cons, line_lowered]
      exact ih _
  unfold issues
  rw [codeLines_newline, List.foldl_cons, hfirst]
  have hrest := hscan {} (codeLines t)
  rw [show Scan.lowered {} = {} from rfl] at hrest
  rw [hrest]
  simp only [Scan.lowered, List.map_append]
  cases ((codeLines t).foldl Scan.line {}).opened <;> rfl

end LoadMacros

theorem htmlAssigned_newline (tags : List String) (t : Text) :
    HtmlVariable.assigned tags ('\n' :: t) = (HtmlVariable.assigned tags t).map fun x => (x.1, x.2 + 1) := by
  have hempty : (HtmlVariable.assignment tags).search? [] = none := rfl
  have hfound : ((codeLines ('\n' :: t)).filterMap fun x =>
        ((HtmlVariable.assignment tags).search? x.2).map fun m => (m.group 1, x.1)) =
      ((codeLines t).filterMap fun x =>
        ((HtmlVariable.assignment tags).search? x.2).map fun m => (m.group 1, x.1)).map
          fun x => (x.1, x.2 + 1) := by
    rw [codeLines_newline, List.filterMap_cons_none (by simp [hempty]), List.filterMap_map, List.map_filterMap]
    refine List.filterMap_congr fun x _ => ?_
    simp only [Function.comp, Option.map_map]
    rfl
  exact (congrArg (List.eraseDupsBy fun a b : Text × Nat => a.1 == b.1) hfound).trans
    (eraseDupsBy_map (fun _ _ => rfl) _)

/-! ### Matches in the whole text -/

/-- A pattern that takes characters, and finds the same in a text when a line feed is put before it. -/
structure Marking (p : Pattern) : Prop extends p.Steady where
  consumes : p.consumes = true

theorem Marking.findAll {p : Pattern} (hp : Marking p) (t : Text) :
    p.findAll ('\n' :: t) = (p.findAll t).map Match.lowered := hp.findAll_newline hp.consumes t

variable (hd : d.Regular)

theorem marking_emptyCall : ∀ name ∈ ["DOCUMENT", "ENDDOCUMENT"], Marking (emptyCall name) := by
  have hrejects : ∀ name ∈ ["DOCUMENT", "ENDDOCUMENT"], (emptyCall name).rejects = true ∧
      (emptyCall name).consumes = true := by decide
  intro name hname
  obtain ⟨hrejects, hconsumes⟩ := hrejects name hname
  exact ⟨⟨by simp [emptyCall, functionCall], hrejects⟩, hconsumes⟩

section

include hd

theorem lineOf_match_lowered (m : Match) : d.lowered.lineOf (m.lowered.start : Nat) = d.lineOf m.start + 1 :=
  Document.lineOf_lowered hd (Int.natCast_nonneg m.start)

theorem matchIssues_lowered {p : Pattern} (hp : Marking p) (t : Text) (severity : Severity)
    {message : Match → String} (hmessage : ∀ m, message m.lowered = message m) :
    matchIssues d.lowered p ('\n' :: t) severity message =
      (matchIssues d p t severity message).map Issue.lowered := by
  unfold matchIssues
  rw [hp.findAll, List.map_map, List.map_map]
  refine List.map_congr_left fun m _ => ?_
  simp only [Function.comp, hmessage, lineOf_match_lowered hd, Issue.lowered_onLine]

theorem legacy_lowered : ∀ c ∈ [textBlocks, answerRule, breakVariable, oldAnswerCheckers, solutionHintMacros],
    c.found d.lowered = (c.found d).map Issue.lowered := by
  simp only [List.forall_mem_cons, textBlocks, answerRule, breakVariable, oldAnswerCheckers, solutionHintMacros,
    found_reporting]
  refine ⟨matchIssues_lowered hd ⟨⟨?_, by decide⟩, by decide⟩ _ _ ?_,
    matchIssues_lowered hd ⟨⟨?_, by decide⟩, by decide⟩ _ _ ?_,
    matchIssues_lowered hd ⟨⟨?_, by decide⟩, by decide⟩ _ _ ?_,
    matchIssues_lowered hd ⟨⟨?_, by decide⟩, by decide⟩ _ _ ?_,
    matchIssues_lowered hd ⟨⟨?_, by decide⟩, by decide⟩ _ _ ?_, by simp⟩
  all_goals simp only [lineWord, functionCall, callOf, Pattern.movable_append, Pattern.movable_lineStart,
    Pattern.movable_many, Pattern.movable_text, Pattern.movable_wordEdge, Pattern.movable_blanks,
    Pattern.movable_group, Pattern.movable_words, Pattern.movable_wordsAnyCase, Match.group_lowered,
    and_self, implies_true]

theorem documentPairs_lowered : documentPairIssues d.lowered = (documentPairIssues d).map Issue.lowered := by
  have hline (m : Match) : d.lowered.lineOf ((m.start + 1 : Nat) : Int) = d.lineOf m.start + 1 :=
    lineOf_match_lowered hd m
  have hstarts := (marking_emptyCall "DOCUMENT" (by simp)).findAll d.code
  have hends := (marking_emptyCall "ENDDOCUMENT" (by simp)).findAll d.code
  unfold documentPairIssues
  rw [Document.code_lowered, hstarts, hends]
  cases (emptyCall "DOCUMENT").findAll d.code with
  | nil =>
    cases (emptyCall "ENDDOCUMENT").findAll d.code with
    | nil => rfl
    | cons e es => simp only [List.map_nil, List.map_cons, Match.start_lowered, hline, Issue.lowered_onLine]
  | cons s ss =>
    cases (emptyCall "ENDDOCUMENT").findAll d.code with
    | nil => simp only [List.map_nil, List.map_cons, Match.start_lowered, hline, Issue.lowered_onLine]
    | cons e es =>
      have hiff : ((e.start + 1 : Nat) : Int) < ((s.start + 1 : Nat) : Int) ↔ (e.start : Int) < s.start := by omega
      simp only [List.map_cons, List.length_cons, List.length_map, Match.start_lowered, hline, hiff]
      split
      · rfl
      · split <;> rfl

omit hd in
theorem holds_lowered (r : Region) (pos : Nat) : r.lowered.holds ((pos + 1 : Nat) : Int) = r.holds pos := by
  obtain ⟨start, stop, kind, line⟩ := r
  cases start with
  | none => rfl
  | some a =>
    cases stop with
    | none => rfl
    | some b =>
      simp [Region.holds, Region.bounds?, Region.lowered]

theorem htmlPolicy_lowered : HtmlPolicy.issues d.lowered = (HtmlPolicy.issues d).map Issue.lowered := by
  have hclass : Marking ignoreClass := ⟨⟨by simp [ignoreClass], by decide⟩, by decide⟩
  have htag : Marking (tagStart (Pattern.text "<") HtmlPolicy.tagName) :=
    ⟨⟨by simp [tagStart, HtmlPolicy.tagName], by decide⟩, by decide⟩
  have hescaped : Marking (tagStart (Pattern.text "&lt;") HtmlPolicy.tagName) :=
    ⟨⟨by simp [tagStart, HtmlPolicy.tagName], by decide⟩, by decide⟩
  have hrule (m : Match) : HtmlPolicy.rule? m.lowered = HtmlPolicy.rule? m := by
    unfold HtmlPolicy.rule?
    rw [Match.group_lowered]
  have hblock (m : Match) :
      d.lowered.blockRegions.any (·.holds (m.lowered.start : Nat)) = d.blockRegions.any (·.holds m.start) := by
    rw [Document.blockRegions_lowered, List.any_map]
    congr 1
    funext r
    exact holds_lowered r m.start
  unfold HtmlPolicy.issues
  simp only [List.map_append]
  refine congrArg₂ _ (congrArg₂ _ (congrArg₂ _ (congrArg₂ _ ?_ ?_) ?_) ?_) ?_
  · exact styleIssues_newline d.code
  · exact matchIssues_lowered hd hclass d.code _ fun _ => rfl
  · exact wrapperIssues_newline d.code
  · rw [Document.code_lowered, htag.findAll, List.filterMap_map, List.map_filterMap]
    refine List.filterMap_congr fun m _ => ?_
    simp only [Function.comp, hrule, hblock, lineOf_match_lowered hd]
    cases HtmlPolicy.rule? m with
    | none => rfl
    | some r =>
      simp only [bind, Option.bind]
      split <;> rfl
  · rw [Document.code_lowered, hescaped.findAll, List.filterMap_map, List.map_filterMap]
    refine List.filterMap_congr fun m _ => ?_
    simp only [Function.comp, hrule, lineOf_match_lowered hd]
    cases HtmlPolicy.rule? m <;> rfl

omit hd in
theorem callsAfter_newline (t : Text) (pos : Nat) :
    AnswerStyle.callsAfter ('\n' :: t) (pos + 1) = (AnswerStyle.callsAfter t pos).map (· + 1) := by
  have hmovable : (lineCall "ENDDOCUMENT").Movable := by simp [lineCall, lineWord]
  have hstop : (((lineCall "ENDDOCUMENT").searchAfter? ('\n' :: t) (pos + 1)).map (·.start)).getD
        ('\n' :: t).length - (pos + 1) =
      (((lineCall "ENDDOCUMENT").searchAfter? t pos).map (·.start)).getD t.length - pos := by
    rw [Pattern.searchAfter?_newline hmovable]
    cases (lineCall "ENDDOCUMENT").searchAfter? t pos <;> exact Nat.add_sub_add_right _ 1 _
  unfold AnswerStyle.callsAfter
  simp only [hstop, List.drop_succ_cons, List.map_map]
  refine List.map_congr_left fun m _ => ?_
  simp only [Function.comp]
  omega

omit hd in
theorem seedVariation_lowered : seedVariation.found d.lowered = (seedVariation.found d).map Issue.lowered := by
  have hdocument := (marking_emptyCall "DOCUMENT" (by simp)).occursIn_newline d.code
  have hempty : usesSeed [] = false := by decide
  have hseed : ((codeLines ('\n' :: d.code)).any fun x => usesSeed x.2) =
      (codeLines d.code).any fun x => usesSeed x.2 := by
    rw [codeLines_newline, List.any_cons, List.any_map, hempty, Bool.false_or]
    rfl
  simp only [seedVariation, found_reporting, Document.code_lowered, hdocument]
  rw [hseed]
  split <;> rfl

theorem answerStyle_lowered : AnswerStyle.issues d.lowered = (AnswerStyle.issues d).map Issue.lowered := by
  have hend : Marking (lineWord "END_PGML" ++ Pattern.wordEdge) :=
    ⟨⟨by simp [lineWord], by decide⟩, by decide⟩
  have hpositions : d.lowered.newlines.positions.toList = 0 :: d.newlines.positions.toList.map (· + 1) := by
    rw [hd.newlines]
    exact NewlineIndex.positions_newline d.text
  -- on a text of one line the check says nothing, so that the first line feed of a text matters
  have hbroken : d.newlines.positions.toList.isEmpty = false := by
    have hlength := NewlineIndex.length_positionsFrom 0 d.text
    have hcount := List.count_pos_iff.2 hd.broken
    rw [hd.newlines, List.isEmpty_eq_false_iff_exists_mem]
    exact List.exists_mem_of_length_pos (by simpa [NewlineIndex.ofText, hlength] using hcount)
  have hcount (pos : Nat) : (d.lowered.newlines.positions.toList.takeWhile (· < pos + 1)).length =
      (d.newlines.positions.toList.takeWhile (· < pos)).length + 1 := by
    rw [hpositions, List.takeWhile_cons_of_pos (by simp), List.takeWhile_map, List.length_cons, List.length_map]
    simp only [Function.comp_def, Nat.add_lt_add_iff_right]
  have hempty : d.lowered.newlines.positions.toList.isEmpty = false := by rw [hpositions]; rfl
  unfold AnswerStyle.issues
  simp only [hempty, hbroken, Bool.false_eq_true, if_false]
  rw [Document.text_lowered, hend.findAll, List.flatMap_map, List.map_flatMap]
  refine List.flatMap_congr fun m _ => ?_
  rw [Match.stop_lowered, callsAfter_newline, List.map_map, List.map_map]
  refine List.map_congr_left fun pos _ => ?_
  have hline (n : Nat) : (1 + ((n + 1 : Nat) : Int)) = 1 + n + 1 := by omega
  simp only [Function.comp, hcount, hline]
  rfl

theorem blobPayloads_lowered : blobPayloads.found d.lowered = (blobPayloads.found d).map Issue.lowered := by
  have hblob : Marking blob := ⟨⟨by simp [blob], by decide⟩, by decide⟩
  simp only [blobPayloads, found_reporting, List.map_append]
  refine congrArg₂ _ (matchIssues_lowered hd hblob d.text _ fun _ => rfl) ?_
  refine flatMap_lines_lowered (codeLines_newline d.text) (by decide) fun n l => ?_
  unfold blobMarkerIssues
  simp only [List.map_append]
  split <;> split <;> rfl

/-! ### Regions of markup -/

theorem blockMatchIssues_lowered (p : Pattern) (message : Match → String) {a : Int} (ha : 0 ≤ a) (t : Text) :
    blockMatchIssues d.lowered p message (a + 1) t = (blockMatchIssues d p message a t).map Issue.lowered := by
  unfold blockMatchIssues
  rw [List.map_map]
  refine List.map_congr_left fun m _ => ?_
  simp only [Function.comp, Document.lineOf_lowered_nat hd ha, Issue.lowered_onLine]

theorem forbiddenTags_lowered : forbiddenTags.found d.lowered = (forbiddenTags.found d).map Issue.lowered := by
  simp only [forbiddenTags, found_reporting]
  refine Document.flatMap_blockTexts_lowered hd fun i a t ha => ?_
  exact blockMatchIssues_lowered hd _ _ ha t

theorem divTags_lowered : divTags.found d.lowered = (divTags.found d).map Issue.lowered := by
  simp only [divTags, found_reporting]
  refine Document.flatMap_blockTexts_lowered hd fun i a t ha => ?_
  simp only [List.map_append, blockMatchIssues_lowered hd _ _ ha t]
  rw [Document.version_lowered]
  split <;> rfl

theorem inlineMarkers_lowered : inlineMarkers.found d.lowered = (inlineMarkers.found d).map Issue.lowered := by
  show (d.lowered.regionTexts.map _).flatMap _ = ((d.regionTexts.map _).flatMap _).map _
  rw [List.flatMap_map, List.flatMap_map]
  refine Document.flatMap_regionTexts_lowered hd fun i a t ha => ?_
  simp only [Document.readInline_lowered hd ha]

theorem blanks_lowered : blanks.found d.lowered = (blanks.found d).map Issue.lowered := by
  show (d.lowered.regionTexts.map _).flatMap _ = ((d.regionTexts.map _).flatMap _).map _
  rw [List.flatMap_map, List.flatMap_map]
  refine Document.flatMap_regionTexts_lowered hd fun i a t ha => ?_
  simp only [Document.inlineSpansOf_lowered hd i ha, Document.answerBlanks_lowered hd ha, List.map_append]

theorem hazards_lowered : Hazard.issues d.lowered = (Hazard.issues d).map Issue.lowered := by
  unfold Hazard.issues
  refine Document.flatMap_regionTexts_lowered hd fun i a t ha => ?_
  have hinline := Document.inlineSpansOf_nonneg hd i t a
  simp only [Document.inlineSpansOf_lowered hd i ha, List.map_append, Hazard.regionIssues,
    Document.lineOf_lowered_nat hd ha, List.map_filterMap, Option.map_map, List.map_map]
  refine congrArg₂ _ rfl (congrArg₂ _ (congrArg₂ _ rfl ?_) rfl)
  refine List.map_congr_left fun s hs => ?_
  rw [Document.lineOf_lowered_add hd ha (hinline s (List.mem_of_mem_filter hs))]
  rfl

theorem inlineModes_lowered : InlineModes.issues d.lowered = (InlineModes.issues d).map Issue.lowered := by
  unfold InlineModes.issues
  refine Document.flatMap_regionTexts_lowered hd fun i a t ha => ?_
  have hinline := Document.inlineSpansOf_nonneg hd i t a
  simp only [Document.inlineSpansOf_lowered hd i ha, List.map_append, List.map_filterMap, Option.map_map]
  refine congrArg₂ _ rfl (List.filterMap_congr fun s hs => ?_)
  rw [Document.lineOf_lowered_add hd ha (hinline s hs)]
  rfl

theorem inlineCode_lowered {find find' : Int → Text → List Issue}
    (h : ∀ offset code, 0 ≤ offset → find' (offset + 1) code = (find offset code).map Issue.lowered) :
    inlineCodeIssues d.lowered find' = (inlineCodeIssues d find).map Issue.lowered := by
  unfold inlineCodeIssues
  refine Document.flatMap_blockTexts_lowered hd fun i a t ha => ?_
  have hinline := Document.inlineSpansOf_nonneg hd i t a
  simp only [Document.inlineSpansOf_lowered hd i ha, List.map_append, List.map_flatMap]
  refine congrArg₂ _ rfl (List.flatMap_congr fun s hs => ?_)
  have hstart := hinline s (List.mem_of_mem_filter hs)
  rw [← h _ _ (by omega)]
  congr 1
  omega

theorem nested_lowered {offset : Int} (ho : 0 ≤ offset) (code : Text) :
    Nested.issues d.lowered (offset + 1) code = (Nested.issues d offset code).map Issue.lowered := by
  have hcolumn (p : Nat) : d.lowered.newlines.columnOf (offset + 1 + p) = d.newlines.columnOf (offset + p) := by
    rw [show offset + 1 + (p : Int) = offset + p + 1 by omega]
    exact Document.columnOf_lowered hd (by omega)
  simp only [Nested.issues, Document.newlines_lineOf_lowered hd ho, hcolumn, List.map_append, List.map_filterMap,
    Option.map_map, List.map_map]
  rfl

theorem braces_lowered {offset : Int} (ho : 0 ≤ offset) (code : Text) :
    Brace.issues code (offset + 1) d.lowered.newlines = (Brace.issues code offset d.newlines).map Issue.lowered := by
  unfold Brace.issues
  simp only [Document.newlines_lineOf_lowered hd ho]
  split <;> rfl

theorem htmlInText_lowered : HtmlInText.issues d.lowered = (HtmlInText.issues d).map Issue.lowered := by
  unfold HtmlInText.issues
  refine Document.flatMap_blockTexts_lowered hd fun i a t ha => ?_
  simp only [Document.lineOf_lowered_nat hd ha, List.map_append, List.map_filterMap, Option.map_map]
  rfl

theorem escapedModes_lowered : EscapedModes.issues d.lowered = (EscapedModes.issues d).map Issue.lowered := by
  have hassignment : Marking EscapedModes.assignment :=
    ⟨⟨by simp [EscapedModes.assignment], by decide⟩, by decide⟩
  have hnames : (EscapedModes.assignment.findAll d.lowered.code).map (·.group 1) =
      (EscapedModes.assignment.findAll d.code).map (·.group 1) := by
    rw [Document.code_lowered, hassignment.findAll, List.map_map]
    simp [Function.comp_def]
  unfold EscapedModes.issues
  simp only [hnames]
  split
  · rfl
  · refine Document.flatMap_blockTexts_lowered hd fun i a t ha => ?_
    simp only [Document.lineOf_lowered_nat hd ha, List.map_map]
    rfl

theorem wrapperTex_lowered : WrapperTex.issues d.lowered = (WrapperTex.issues d).map Issue.lowered := by
  unfold WrapperTex.issues
  refine Document.flatMap_blockTexts_lowered hd fun i a t ha => ?_
  simp only [Document.inlineSpansOf_lowered hd i ha, Document.lineOf_lowered_nat hd ha, List.map_append,
    List.map_flatMap, List.map_map]
  rfl

theorem emphasis_lowered : Emphasis.issues d.lowered = (Emphasis.issues d).map Issue.lowered := by
  unfold Emphasis.issues
  refine Document.flatMap_blockTexts_lowered hd fun i a t ha => ?_
  simp only [Document.inlineSpansOf_lowered hd i ha, Document.lineOf_lowered_nat hd ha, List.map_append, List.map_map,
    Document.answerBlanks_lowered hd ha, Document.blankSpans_lowered]
  cases SpanTable.at? d.blankSpans i with
  | none => rfl
  | some spans => rfl

theorem brackets_lowered : brackets.found d.lowered = (brackets.found d).map Issue.lowered := by
  show d.lowered.regionTexts.flatMap _ = (d.regionTexts.flatMap _).map _
  refine Document.flatMap_regionTexts_lowered hd fun i a t ha => ?_
  simp only [Document.inlineSpansOf_lowered hd i ha, bracketIssues, Document.newlines_lineOf_lowered hd ha,
    List.map_append, List.map_map]
  rfl

/-! ### Variables with web markup -/

theorem blockReadings_lowered : d.lowered.blockTexts.map d.lowered.reading =
    (d.blockTexts.map d.reading).map Reading.lowered := by
  rw [Document.blockTexts_lowered hd, List.map_map, List.map_map]
  refine List.map_congr_left fun x hx => ?_
  have ha := Document.blockTexts_nonneg hd x hx
  simp only [Function.comp, Document.reading, Document.inlineSpansOf_lowered hd x.1 ha, Reading.lowered]

omit hd in
theorem afterAll_lowered (names : List (Text × Nat)) {keep : List (Text × List Span) → Text × Nat → Bool}
    (hkeep : ∀ blocks name line, keep blocks (name, line + 1) = keep blocks (name, line)) (message : Text → String)
    (rs : List Reading) :
    afterAll (names.map fun x => (x.1, x.2 + 1)) keep message (rs.map Reading.lowered) =
      (afterAll names keep message rs).map Issue.lowered := by
  have htexts : (rs.map Reading.lowered).map (fun r => (r.text, r.inline)) = rs.map fun r => (r.text, r.inline) := by
    rw [List.map_map]
    rfl
  have hnames (blocks : List (Text × List Span)) : (names.map fun x => (x.1, x.2 + 1)).filter (keep blocks) =
      (names.filter (keep blocks)).map fun x => (x.1, x.2 + 1) := by
    rw [List.filter_map]
    congr 1
    exact List.filter_congr fun x _ => hkeep blocks x.1 x.2
  unfold afterAll
  rw [List.isEmpty_map, htexts, hnames]
  split
  · rfl
  · rw [List.map_append, List.flatMap_map, List.map_flatMap, List.map_map, List.map_map]
    rfl

theorem spanInterpolation_lowered :
    spanInterpolation.found d.lowered = (spanInterpolation.found d).map Issue.lowered := by
  obtain ⟨_, hrun⟩ := spanInterpolation_fromReadings.run_eq d
  obtain ⟨_, hrun'⟩ := spanInterpolation_fromReadings.run_eq d.lowered
  have hnames : SpanVariable.assigned d.lowered.text =
      (SpanVariable.assigned d.text).map fun x => (x.1, x.2 + 1) := htmlAssigned_newline _ _
  rw [found_of_run hrun, found_of_run hrun', blockReadings_lowered hd, hnames]
  exact afterAll_lowered _ (fun _ _ _ => rfl) _ _

theorem htmlPassthrough_lowered :
    htmlPassthrough.found d.lowered = (htmlPassthrough.found d).map Issue.lowered := by
  obtain ⟨_, hrun⟩ := htmlPassthrough_fromReadings.run_eq d
  obtain ⟨_, hrun'⟩ := htmlPassthrough_fromReadings.run_eq d.lowered
  have hnames : Passthrough.assigned d.lowered.text =
      (Passthrough.assigned d.text).map fun x => (x.1, x.2 + 1) := htmlAssigned_newline _ _
  rw [found_of_run hrun, found_of_run hrun', blockReadings_lowered hd, hnames]
  exact afterAll_lowered _ (fun _ _ _ => rfl) _ _

/-! ### Literals outside of markup -/

namespace StyleQuote

def shifted (x : Int × Int) : Int × Int := (x.1 + 1, x.2 + 1)

omit hd in
theorem faultsFrom_succ (regions : List (Int × Int)) (s : State) (pos : Nat) (t : Text) :
    faultsFrom (regions.map shifted) s (pos + 1) t = (faultsFrom regions s pos t).map (· + 1) := by
  induction t generalizing regions s pos with
  | nil => rfl
  | cons c r ih =>
    have hdrop : (regions.map shifted).dropWhile (fun x => x.2 ≤ ((pos + 1 : Nat) : Int)) =
        (regions.dropWhile fun x => x.2 ≤ (pos : Int)).map shifted := by
      rw [List.dropWhile_map]
      congr 2
      funext x
      simp [shifted]
    have hhead (rest : List (Int × Int)) : ((rest.map shifted).head?.any fun x => x.1 ≤ ((pos + 1 : Nat) : Int)) =
        rest.head?.any fun x => x.1 ≤ (pos : Int) := by
      cases rest with
      | nil => rfl
      | cons x rest => simp [shifted]
    simp only [faultsFrom]
    split
    · exact ih _ _ _
    · rw [hdrop, hhead]
      split
      · exact ih _ _ _
      · rw [ih]
        split
        · split <;> rfl
        · rfl

omit hd in
theorem bounds?_lowered (r : Region) : r.lowered.bounds? = r.bounds?.map shifted := by
  obtain ⟨start, stop, kind, line⟩ := r
  cases start <;> cases stop <;> rfl

omit hd in
theorem orderedRegions_lowered (d : Document) : orderedRegions d.lowered = (orderedRegions d).map shifted := by
  have hbounds : (d.lowered.regions.filterMap Region.bounds?).filter (fun x => x.1 < x.2) =
      ((d.regions.filterMap Region.bounds?).filter fun x => x.1 < x.2).map shifted := by
    rw [Document.regions_lowered, List.filterMap_map,
      show Region.bounds? ∘ Region.lowered = fun r => r.bounds?.map shifted from funext bounds?_lowered,
      ← List.map_filterMap, List.filter_map]
    congr 1
    refine List.filter_congr fun x _ => ?_
    simp [shifted]
  unfold orderedRegions
  rw [List.map_mergeSort (s := fun x y => decide (x.1 < y.1) || (x.1 == y.1 && decide (x.2 ≤ y.2)))]
  · exact congrArg (List.mergeSort · _) hbounds
  · intro x _ y _
    have hbeq : (x.1 + 1 == y.1 + 1) = (x.1 == y.1) := by
      rw [Bool.eq_iff_iff, beq_iff_eq, beq_iff_eq]
      omega
    simp [shifted, hbeq]

theorem orderedRegions_bounds : ∀ x ∈ orderedRegions d, 0 ≤ x.1 ∧ x.1 < x.2 := by
  intro x hx
  obtain ⟨hx, hlt⟩ := List.mem_filter.1 ((List.mergeSort_perm _ _).mem_iff.1 hx)
  obtain ⟨r, hr, hbounds⟩ := List.mem_filterMap.1 hx
  obtain ⟨a, b, hspans⟩ := hd.regions r hr
  cases hspans.symm.trans hbounds
  exact ⟨Int.natCast_nonneg a, of_decide_eq_true hlt⟩

theorem faults_newline : faultsFrom (orderedRegions d.lowered) .code 0 ('\n' :: d.text) =
    (faultsFrom (orderedRegions d) .code 0 d.text).map (· + 1) := by
  have hbounds : ∀ x ∈ orderedRegions d.lowered, 0 < x.1 ∧ 0 < x.2 := by
    rw [orderedRegions_lowered]
    intro x hx
    obtain ⟨y, hy, rfl⟩ := List.mem_map.1 hx
    have := orderedRegions_bounds hd y hy
    simp only [shifted]
    omega
  have hdrop : (orderedRegions d.lowered).dropWhile (fun x => x.2 ≤ ((0 : Nat) : Int)) = orderedRegions d.lowered := by
    rw [List.dropWhile_eq_self_iff]
    intro h
    have := hbounds _ (List.getElem_mem h)
    simpa using this.2
  have hhead : ((orderedRegions d.lowered).head?.any fun x => x.1 ≤ ((0 : Nat) : Int)) = false := by
    cases hregions : orderedRegions d.lowered with
    | nil => rfl
    | cons x rest =>
      have := hbounds x (hregions ▸ List.mem_cons_self)
      simpa using this.1
  have hcode : (State.code == State.comment) = false := rfl
  simp only [faultsFrom, hcode, hdrop, hhead, Bool.false_eq_true, if_false]
  rw [orderedRegions_lowered]
  exact faultsFrom_succ _ _ 0 d.text

theorem issues_lowered : issues d.lowered = (issues d).map Issue.lowered := by
  unfold issues
  rw [Document.text_lowered, faults_newline hd, List.map_map, List.map_map]
  refine List.map_congr_left fun pos _ => ?_
  have hline : d.lowered.lineOf ((pos + 1 : Nat) : Int) = d.lineOf pos + 1 :=
    Document.lineOf_lowered hd (Int.natCast_nonneg pos)
  simp only [Function.comp, hline, Issue.lowered_onLine]

end StyleQuote

end

/-! ### Rules -/

theorem steady_read_standard {r : MacroRule} (hr : r ∈ MacroRule.standard) {p : Pattern}
    (hp : Pattern.read r.pattern.toList = .ok p) : p.Steady := by
  have hmovable : (MacroRule.standard.all fun r =>
      (Pattern.written r.pattern.toList).toOption.any fun x => x.1.isMovable) = true := by decide +kernel
  have hrejects : (MacroRule.standard.all fun r =>
      (Pattern.read r.pattern.toList).toOption.all fun p => p.rejects) = true := by decide +kernel
  refine ⟨Pattern.movable_read (List.all_eq_true.1 hmovable r hr) hp, ?_⟩
  have h := List.all_eq_true.1 hrejects r hr
  rw [hp] at h
  exact h

theorem macroRuleIssue?_lowered (d : Document) {r : MacroRule} (hr : r ∈ MacroRule.standard) :
    macroRuleIssue? d.lowered r = macroRuleIssue? d r := by
  have hfallback : dropDownFallback.Steady := ⟨by simp [dropDownFallback], by decide⟩
  unfold macroRuleIssue?
  cases hp : Pattern.read r.pattern.toList with
  | error e => rfl
  | ok p =>
    have hpattern := (steady_read_standard hr hp).occursIn_newline d.code
    rw [Document.code_lowered, Document.version_lowered, Document.macrosLoaded_lowered]
    simp only [bind, Except.bind, hpattern, hfallback.occursIn_newline]

/-- Issues of rules are about the whole file. -/
theorem lowered_macroRuleIssue {d : Document} {r : MacroRule} {i : Issue}
    (h : macroRuleIssue? d r = .ok (some i)) : i.lowered = i := by
  simp only [macroRuleIssue?, bind, Except.bind, pure, Except.pure] at h
  repeat' split at h
  all_goals cases h
  all_goals rfl

theorem mapM_congr_of_mem {α β ε : Type} {f g : α → Except ε β} {l : List α} (h : ∀ a ∈ l, f a = g a) :
    l.mapM f = l.mapM g := by
  induction l with
  | nil => rfl
  | cons a l ih =>
    obtain ⟨ha, hl⟩ := List.forall_mem_cons.1 h
    rw [List.mapM_cons, List.mapM_cons, ha, ih hl]

theorem macroRules_lowered (hrules : d.StandardRules) :
    macroRules.found d.lowered = (macroRules.found d).map Issue.lowered := by
  have hdocument := (marking_emptyCall "DOCUMENT" (by simp)).occursIn_newline d.code
  have hmapM : d.macroRules.mapM (macroRuleIssue? d.lowered) = d.macroRules.mapM (macroRuleIssue? d) := by
    rw [hrules.macros]
    exact mapM_congr_of_mem fun r hr => macroRuleIssue?_lowered d hr
  rw [macroRules, found_attempting_eq, found_attempting_eq]
  simp only [Document.code_lowered, Document.macrosLoaded_lowered,
    Document.macroRules_lowered, hdocument, hmapM]
  split
  · cases hfound : d.macroRules.mapM (macroRuleIssue? d) with
    | error e => rfl
    | ok found =>
      have hgeneral : ∀ i ∈ found.filterMap (·), i.lowered = i := by
        intro i hi
        obtain ⟨r, hr⟩ := exists_of_mem_mapM hfound hi
        exact lowered_macroRuleIssue hr
      exact ((List.map_congr_left hgeneral).trans (List.map_id' _)).symm
  · rfl

theorem blockRules_lowered (hrules : d.StandardRules) :
    blockRules.found d.lowered = (blockRules.found d).map Issue.lowered := by
  rw [blockRules, found_attempting_eq, found_attempting_eq]
  simp only [Document.blockRules_lowered, hrules.blocks]
  rfl

/-! ### All checks -/

section

include hd

theorem fileChecks_lowered :
    ∀ c ∈ fileChecks, c.id ≠ headerTags.id → c.found d.lowered = (c.found d).map Issue.lowered := by
  have hlegacy := legacy_lowered hd
  simp only [List.forall_mem_cons] at hlegacy
  obtain ⟨htext, hrule, hbreak, hcheckers, hmacros, -⟩ := hlegacy
  simp only [fileChecks, List.forall_mem_cons, modesTexPayload, modesHtmlPlainText, labelDots, hardSpaces, texColors,
    found_reporting]
  refine ⟨fun _ => rfl, fun _ => rfl, fun _ => documentPairs_lowered hd, fun h => absurd rfl h,
    fun _ => includeIssues_lowered, fun _ => ?required, fun _ => LoadMacros.issues_newline d.text,
    fun _ => ?stability, fun _ => seedVariation_lowered, fun _ => signatures_newline d.code,
    fun _ => modesIssues_newline d.code _ _, fun _ => modesIssues_newline d.code _ _, fun _ => ?length,
    fun _ => blobPayloads_lowered hd, fun _ => ?labels, fun _ => answerStyle_lowered hd, fun _ => htext,
    fun _ => ?spaces, fun _ => garbledText_lowered, fun _ => ?colors, fun _ => htmlPolicy_lowered hd,
    fun _ => forbiddenTags_lowered hd, fun _ => divTags_lowered hd, fun _ => wrapperInString_lowered,
    fun _ => StyleQuote.issues_lowered hd, fun _ => hrule, fun _ => hbreak, fun _ => hcheckers, fun _ => hmacros,
    by simp⟩
  case required =>
    rw [requiredMacros, found_reporting, found_reporting, Document.usesMarkup_lowered, Document.macrosLoaded_lowered]
    split <;> rfl
  case stability => exact flatMap_lines_lowered (codeLines_newline d.code) (by decide) unseededIssues_succ
  case length => exact flatMap_lines_lowered (codeLines_newline d.text) (by decide) lengthIssues_succ
  case labels => exact lineIssues_lowered (codeLines_newline d.text) (by decide) _
  case spaces => exact lineIssues_lowered (numberedLines_newline d.code) (by decide) _
  case colors => exact lineIssues_lowered (numberedLines_newline d.code) (by decide) _

theorem inlineChecks_lowered : ∀ c ∈ inlineChecks, c.found d.lowered = (c.found d).map Issue.lowered := by
  simp only [inlineChecks, List.forall_mem_cons, inlineSyntax, inlineBraces, found_reporting]
  exact ⟨hazards_lowered hd, inlineModes_lowered hd, inlineCode_lowered hd fun _ code ho => nested_lowered hd ho code,
    inlineCode_lowered hd fun _ code ho => braces_lowered hd ho code, htmlInText_lowered hd,
    spanInterpolation_lowered hd, htmlPassthrough_lowered hd, wrapperTex_lowered hd, escapedModes_lowered hd, by simp⟩

theorem blankChecks_lowered : ∀ c ∈ blankChecks, c.found d.lowered = (c.found d).map Issue.lowered := by
  simp only [blankChecks, List.forall_mem_cons]
  refine ⟨emphasis_lowered hd, brackets_lowered hd, ?_, by simp⟩
  show List.map _ _ = (List.map _ _).map _
  rw [List.map_map]
  rfl

/-- Every check but that of the header finds the same one line further down. -/
theorem found_lowered (hrules : d.StandardRules) {c : Check} (hc : c ∈ standard) (hheader : c.id ≠ headerTags.id) :
    c.found d.lowered = (c.found d).map Issue.lowered := by
  have hmem := standard_subset hc
  simp only [List.mem_append, List.mem_cons, List.not_mem_nil, or_false] at hmem
  rcases hmem with (((hfile | hrule) | hin) | hbl) | rfl | rfl
  · exact fileChecks_lowered hd c hfile hheader
  · simp only [ruleChecks, List.mem_cons, List.not_mem_nil, or_false] at hrule
    rcases hrule with rfl | rfl
    · exact blockRules_lowered hrules
    · exact macroRules_lowered hrules
  · exact inlineChecks_lowered hd c hin
  · exact blankChecks_lowered hd c hbl
  · exact inlineMarkers_lowered hd
  · exact blanks_lowered hd

end

end Check
end ProblemLint
