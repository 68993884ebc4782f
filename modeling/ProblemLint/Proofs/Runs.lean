import ProblemLint.Proofs.Selection

/-! Runs of any standard checks over a file with the standard rules, in any order and with any notes to begin
with. Such a run never fails: each check reports what it finds with the notes that it meets, and hands the notes
on, as they are or rewritten. -/

namespace ProblemLint

/-- The document is to be checked by the standard rules. -/
structure Document.StandardRules (d : Document) : Prop where
  blocks : d.blockRules = BlockRule.standard
  macros : d.macroRules = MacroRule.standard

namespace Check

theorem found_attempting_eq (id title : String) (find : Document → Except PatternError (List Issue)) (d : Document) :
    (attempting id title find).found d = (find d).toOption.getD [] := by
  cases hfind : find d <;> simp [found, attempting, hfind, Except.map, Except.toOption]

def renoted (c : Check) (d : Document) (n : Notes) : Notes := (c.noted (d.withNotes n)).notes

theorem renoted_inlineMarkers (d : Document) (n : Notes) :
    inlineMarkers.renoted d n = { n with inline := (fullNotes d).inline } := rfl

variable {d : Document}

theorem run_other (hd : d.StandardRules) {c : Check} (hc : c ∈ standard) (hinline : c ≠ inlineMarkers)
    (hblanks : c ≠ blanks) {n n' : Notes} (h : SameNotes c.id n n') :
    c.run (d.withNotes n) = .ok ⟨c.found (d.withNotes n'), d.withNotes n⟩ :=
  run_of_sameNotes hc hinline hblanks hd.blocks hd.macros h

theorem SameNotes.refl (id : String) (n : Notes) : SameNotes id n n := ⟨fun _ => rfl, fun _ => ⟨rfl, rfl⟩⟩

theorem renoted_other (hd : d.StandardRules) {c : Check} (hc : c ∈ standard) (hinline : c ≠ inlineMarkers)
    (hblanks : c ≠ blanks) (n : Notes) : c.renoted d n = n := by
  rw [renoted, noted, run_other hd hc hinline hblanks (.refl _ n)]
  rfl

/-- One check of a run. -/
theorem run_withNotes (hd : d.StandardRules) {c : Check} (hc : c ∈ standard) (n : Notes) :
    c.run (d.withNotes n) = .ok ⟨c.found (d.withNotes n), d.withNotes (c.renoted d n)⟩ := by
  by_cases hinline : c = inlineMarkers
  · subst hinline
    rfl
  by_cases hblanks : c = blanks
  · subst hblanks
    rfl
  · rw [renoted_other hd hc hinline hblanks, run_other hd hc hinline hblanks (.refl _ n)]

def notesThrough (d : Document) (n : Notes) (S : List Check) : Notes := S.foldl (fun n c => c.renoted d n) n

/-- The issues that checks report, one after the other, each with the name of its check. -/
def issuesThrough (d : Document) (n : Notes) : List Check → List Issue
  | [] => []
  | c :: S => (c.found (d.withNotes n)).map (·.tag c.id) ++ issuesThrough d (c.renoted d n) S

theorem runChecks_withNotes (hd : d.StandardRules) {S : List Check} (hS : S ⊆ standard) (n : Notes) :
    runChecks (d.withNotes n) S = .ok ⟨issuesThrough d n S, d.withNotes (notesThrough d n S)⟩ := by
  induction S generalizing n with
  | nil => rfl
  | cons c S ih =>
    obtain ⟨hc, hS⟩ := List.cons_subset.1 hS
    simp only [runChecks, run_withNotes hd hc, bind, Except.bind, ih hS]
    rfl

theorem runSorted_withNotes (hd : d.StandardRules) {S : List Check} (hS : S ⊆ standard) (n : Notes) :
    runSorted (d.withNotes n) S =
      .ok ⟨Issue.sort (issuesThrough d n S), d.withNotes (notesThrough d n S)⟩ := by
  simp only [runSorted, runChecks_withNotes hd hS, bind, Except.bind]

/-- Every issue of a run is what a check of the run finds with some notes. -/
theorem exists_of_mem_issuesThrough {S : List Check} {n : Notes} {i : Issue} (hi : i ∈ issuesThrough d n S) :
    ∃ c ∈ S, ∃ m, ∃ j ∈ c.found (d.withNotes m), i = j.tag c.id := by
  induction S generalizing n with
  | nil => cases hi
  | cons c S ih =>
    rcases List.mem_append.1 hi with hi | hi
    · obtain ⟨j, hj, rfl⟩ := List.mem_map.1 hi
      exact ⟨c, List.mem_cons_self, n, j, hj, rfl⟩
    · obtain ⟨c', hc', h⟩ := ih hi
      exact ⟨c', List.mem_cons_of_mem c hc', h⟩

theorem notesThrough_inline (hd : d.StandardRules) {S : List Check} (hS : S ⊆ standard) (n : Notes) :
    (notesThrough d n S).inline =
      if inlineMarkers.id ∈ S.map (·.id) then (fullNotes d).inline else n.inline := by
  induction S generalizing n with
  | nil => simp [notesThrough]
  | cons c S ih =>
    obtain ⟨hc, hS⟩ := List.cons_subset.1 hS
    have hstep : (notesThrough d n (c :: S)).inline = (notesThrough d (c.renoted d n) S).inline := rfl
    rw [hstep, ih hS]
    by_cases hinline : c = inlineMarkers
    · subst hinline
      simp [renoted_inlineMarkers]
    have hid : inlineMarkers.id ≠ c.id := fun h => hinline (eq_of_id_eq hc inlineMarkers_mem h.symm)
    have hkeep : (c.renoted d n).inline = n.inline := by
      by_cases hblanks : c = blanks
      · subst hblanks
        rfl
      · rw [renoted_other hd hc hinline hblanks]
    simp [hkeep, hid]

theorem issuesThrough_append (n : Notes) (S S' : List Check) :
    issuesThrough d n (S ++ S') = issuesThrough d n S ++ issuesThrough d (notesThrough d n S) S' := by
  induction S generalizing n with
  | nil => rfl
  | cons c S ih => rw [List.cons_append, issuesThrough, issuesThrough, ih, List.append_assoc]; rfl

theorem sublist_standard (ids : List String) : (standard.filter fun c => ids.contains c.id).Sublist standard :=
  List.filter_sublist

/-! ### Files -/

open Selection (document)

theorem standardRules_document (version path : Option Text) (text : Text) :
    (document version path text).StandardRules := ⟨rfl, rfl⟩

/-- A file that has just been read has no notes. -/
theorem document_withNotes (version path : Option Text) (text : Text) :
    (document version path text).withNotes {} = document version path text := rfl

theorem isFrom_of_mem_issuesThrough {S : List Check} (hS : S ⊆ standard) {version path : Option Text} {text : Text}
    {n : Notes} {i : Issue} (hi : i ∈ issuesThrough (document version path text) n S) (id : String)
    (hid : id ∉ S.map (·.id)) : i.isFrom id = false := by
  obtain ⟨c, hc, m, j, hj, rfl⟩ := exists_of_mem_issuesThrough hi
  rw [(Selection.found_plain (hS hc) version path text m j hj).isFrom_tag, beq_eq_false_iff_ne]
  rintro rfl
  exact hid (List.mem_map_of_mem hc)

/-- What a check contributes to a run is what it finds with the notes that the checks before it have left. -/
theorem filter_issuesThrough {before after : List Check} {c : Check}
    (hS : (before ++ c :: after).Sublist standard) (version path : Option Text) (text : Text) (n : Notes) :
    (issuesThrough (document version path text) n (before ++ c :: after)).filter (Issue.isFrom c.id) =
      (c.found ((document version path text).withNotes
        (notesThrough (document version path text) n before))).map (·.tag c.id) := by
  set d := document version path text
  have hnodup := (hS.map (·.id)).nodup nodup_standard_ids
  rw [List.map_append, List.map_cons, List.nodup_append] at hnodup
  obtain ⟨-, hafter, hbefore⟩ := hnodup
  have hsubset := hS.subset
  rw [issuesThrough_append, issuesThrough, List.filter_append, List.filter_append]
  rw [List.filter_eq_nil_iff.2 ?_, List.filter_eq_self.2 ?_, List.filter_eq_nil_iff.2 ?_]
  · simp
  · intro i hi
    rw [isFrom_of_mem_issuesThrough (fun c' hc' => hsubset (by simp [hc'])) hi c.id (List.nodup_cons.1 hafter).1]
    exact Bool.false_ne_true
  · intro i hi
    obtain ⟨j, hj, rfl⟩ := List.mem_map.1 hi
    rw [(Selection.found_plain (hsubset (by simp)) version path text _ j hj).isFrom_tag, beq_self_eq_true]
  · intro i hi
    rw [isFrom_of_mem_issuesThrough (fun c' hc' => hsubset (by simp [hc'])) hi c.id
      fun hmem => hbefore _ hmem _ List.mem_cons_self rfl]
    exact Bool.false_ne_true

theorem lint_standard {S : List Check} (hS : S ⊆ standard) (version path : Option Text) (text : Text) :
    lint { checks := S, version } path text =
      .ok (Issue.attachExcerpts text (Issue.sort (issuesThrough (document version path text) {} S))
        excerptWindow) := by
  have hrun := runSorted_withNotes (standardRules_document version path text) hS {}
  rw [document_withNotes] at hrun
  rw [document] at hrun
  simp only [lint, hrun, bind, Except.bind, document]

end Check
end ProblemLint
