import ProblemLint.Lint
import ProblemLint.Proofs.SoundIssues
import ProblemLint.Proofs.StableSort

/-! Runs of some of the standard checks. Whatever else is selected and in whatever order the checks run, a check
reports the same issues, as long as the checks that leave notes run before those that read them. -/

namespace ProblemLint

namespace Fields

theorem get?_set_self (fs : Fields) (key : String) (v : Value) : get? (set fs key v) key = some v := by
  by_cases h : fs.any (·.1 == key) = true
  · have hmap : get? (fs.map fun f => if f.1 == key then (key, v) else f) key = some v := by
      induction fs with
      | nil => simp at h
      | cons f fs ih =>
        by_cases hf : f.1 = key
        · simp [get?, hf]
        · have hrest := ih (by simpa [hf] using h)
          simpa [get?, hf] using hrest
    rw [set, if_pos h, hmap]
  · rw [set, if_neg h]
    have hnone : fs.find? (·.1 == key) = none := by
      rw [List.find?_eq_none]
      exact fun f hf hkey => h (List.any_eq_true.2 ⟨f, hf, hkey⟩)
    simp [get?, List.find?_append, hnone]

theorem get?_set_of_ne {key key' : String} (h : key' ≠ key) (fs : Fields) (v : Value) :
    get? (set fs key v) key' = get? fs key' := by
  have hmap : get? (fs.map fun f => if f.1 == key then (key, v) else f) key' = get? fs key' := by
    induction fs with
    | nil => rfl
    | cons f fs ih =>
      by_cases hf : f.1 = key
      · have hf' : f.1 ≠ key' := fun e => h (e.symm.trans hf)
        simpa [get?, hf, h.symm] using ih
      · by_cases hf' : f.1 = key'
        · simp [get?, hf', h]
        · simpa [get?, hf, hf'] using ih
  rw [set]
  split
  · exact hmap
  · simp [get?, List.find?_append, h.symm]

end Fields

namespace Issue

theorem get?_set_of_ne {key key' : String} (h : key' ≠ key) (i : Issue) (v : Value) :
    (i.set key v).get? key' = i.get? key' := Fields.get?_set_of_ne h _ _

theorem get?_set_self (i : Issue) (key : String) (v : Value) : (i.set key v).get? key = some v :=
  Fields.get?_set_self _ _ _

def isFrom (id : String) (i : Issue) : Bool :=
  match i.get? "plugin" with
  | some (.str s) => s == id
  | _ => false

theorem Plain.isFrom_tag {i : Issue} (h : i.Plain) (id id' : String) :
    (i.tag id).isFrom id' = (id == id') := by
  have htag : (i.tag id).get? "plugin" = some (.str id) := by
    rw [tag, h.untagged]
    exact Fields.get?_set_self _ _ _
  rw [isFrom, htag]

theorem isFrom_set_excerpt (id : String) (i : Issue) (v : Value) :
    (i.set "excerpt" v).isFrom id = i.isFrom id := by
  have hget : (i.set "excerpt" v).get? "plugin" = i.get? "plugin" :=
    Fields.get?_set_of_ne (by decide) _ _
  rw [isFrom, isFrom, hget]

theorem attachExcerpts_filter (text : Text) (issues : List Issue) (window : Int) (id : String) :
    (attachExcerpts text issues window).filter (isFrom id) =
      attachExcerpts text (issues.filter (isFrom id)) window := by
  simp only [attachExcerpts, List.filter_map]
  congr 2
  funext i
  simp only [Function.comp]
  split
  · exact isFrom_set_excerpt _ _ _
  · rfl

end Issue

namespace Check

/-! ### Notes along a run -/

/-- The notes on a document after the checks with the given identifiers have run. -/
def notesAfter (d : Document) (ids : List String) : Notes where
  inline := if inlineMarkers.id ∈ ids then (fullNotes d).inline else none
  names := if blanks.id ∈ ids then (fullNotes d).names else none
  blanks := if blanks.id ∈ ids then (fullNotes d).blanks else none

theorem nodup_standard_ids : (standard.map (·.id)).Nodup := by decide +kernel

theorem eq_of_id_eq {c c' : Check} (hc : c ∈ standard) (hc' : c' ∈ standard) (h : c.id = c'.id) : c = c' :=
  List.inj_on_of_nodup_map nodup_standard_ids hc hc' h

theorem inlineMarkers_mem : inlineMarkers ∈ standard := by simp [standard]

theorem blanks_mem : blanks ∈ standard := by simp [standard]

/-- One check of a run whose notes are there: it reports what it would on all notes. -/
theorem run_notesAfter {c : Check} (hc : c ∈ standard) {d : Document}
    (hblockRules : d.blockRules = BlockRule.standard) (hmacroRules : d.macroRules = MacroRule.standard)
    {ids : List String} (hinline : c.id ∈ inlineReaders → inlineMarkers.id ∈ ids)
    (hblanks : c.id ∈ blankReaders → blanks.id ∈ ids) :
    c.run (d.withNotes (notesAfter d ids)) =
      .ok ⟨c.found (d.withNotes (fullNotes d)), d.withNotes (notesAfter d (ids ++ [c.id]))⟩ := by
  have hne : blanks.id ≠ inlineMarkers.id := by decide
  by_cases hcin : c = inlineMarkers
  · subst hcin
    rw [run_inlineMarkers]
    simp [notesAfter, hne]
  by_cases hcbl : c = blanks
  · subst hcbl
    have hnoted : inlineMarkers.id ∈ ids := hinline (by decide)
    rw [run_blanks d (by simp [notesAfter, hnoted])]
    simp [notesAfter, hne.symm]
  · have hidin : inlineMarkers.id ≠ c.id := fun h => hcin (eq_of_id_eq hc inlineMarkers_mem h.symm)
    have hidbl : blanks.id ≠ c.id := fun h => hcbl (eq_of_id_eq hc blanks_mem h.symm)
    have hsame : SameNotes c.id (notesAfter d ids) (fullNotes d) := by
      constructor
      · intro h
        simp [notesAfter, hinline h]
      · intro h
        simp [notesAfter, hblanks h]
    rw [run_of_sameNotes hc hcin hcbl hblockRules hmacroRules hsame]
    simp [notesAfter, hidin, hidbl]

end Check

/-! ### Selections -/

/-- A list of distinct standard checks in which the checks that leave notes stand before those that read
them. -/
structure Selection (S : List Check) : Prop where
  standard : S ⊆ Check.standard
  nodup : (S.map (·.id)).Nodup
  inline : ∀ i : Fin S.length, S[i].id ∈ Check.inlineReaders → Check.inlineMarkers.id ∈ (S.take i).map (·.id)
  blanks : ∀ i : Fin S.length, S[i].id ∈ Check.blankReaders → Check.blanks.id ∈ (S.take i).map (·.id)

namespace Selection

theorem all : Selection Check.standard where
  standard := List.Subset.refl _
  nodup := Check.nodup_standard_ids
  inline := by decide +kernel
  blanks := by decide +kernel

def document (version path : Option Text) (text : Text) : Document :=
  .ofText text path BlockRule.standard MacroRule.standard version

/-- The issues that selected checks report on a document with all notes, each with the name of its check. -/
def issues (S : List Check) (d : Document) : List Issue :=
  S.flatMap fun c => (c.found (d.withNotes (Check.fullNotes d))).map (·.tag c.id)

variable {S : List Check}

/-- The rest of a run after some of its checks. -/
theorem runChecks_append (hS : Selection S) {d : Document} (hblockRules : d.blockRules = BlockRule.standard)
    (hmacroRules : d.macroRules = MacroRule.standard) {done rest : List Check} (h : S = done ++ rest) :
    runChecks (d.withNotes (Check.notesAfter d (done.map (·.id)))) rest =
      .ok ⟨issues rest d, d.withNotes (Check.notesAfter d (S.map (·.id)))⟩ := by
  induction rest generalizing done with
  | nil =>
    obtain rfl : S = done := by simpa using h
    rfl
  | cons c rest ih =>
    subst h
    -- the place of `c` is the number of checks before it
    have hlt : done.length < (done ++ c :: rest).length := by simp
    have hinline := hS.inline ⟨done.length, hlt⟩
    have hblanks := hS.blanks ⟨done.length, hlt⟩
    simp only [Fin.getElem_fin, List.getElem_append_right (Nat.le_refl _), Nat.sub_self, List.getElem_cons_zero,
      List.take_left] at hinline hblanks
    have hc : c ∈ Check.standard := hS.standard (by simp)
    have hrest := @ih (done ++ [c]) (by simp)
    rw [List.map_append, List.map_singleton] at hrest
    rw [runChecks, Check.run_notesAfter hc hblockRules hmacroRules hinline hblanks]
    simp only [bind, Except.bind, hrest, issues, List.flatMap_cons]

/-- A run of selected checks over a file succeeds, with the issues that each of them reports on all notes. -/
theorem lint_eq (hS : Selection S) (version path : Option Text) (text : Text) :
    lint { checks := S, version } path text =
      .ok (Issue.attachExcerpts text (Issue.sort (issues S (document version path text))) excerptWindow) := by
  -- a file that has just been read has no notes
  have hrun : runChecks (document version path text) S =
      .ok ⟨issues S (document version path text),
        (document version path text).withNotes (Check.notesAfter (document version path text) (S.map (·.id)))⟩ :=
    hS.runChecks_append (d := document version path text) rfl rfl (List.nil_append S).symm
  rw [document] at hrun
  simp only [lint, runSorted, hrun, document, bind, Except.bind]

theorem found_plain {c : Check} (hc : c ∈ Check.standard) (version path : Option Text) (text : Text) (n : Notes) :
    AllPlain (c.found ((document version path text).withNotes n)) :=
  Check.found_plain hc text path _ _ version n

theorem flatMap_of_id (hnodup : (S.map (·.id)).Nodup) {c : Check} (hc : c ∈ S) (f : Check → List Issue) :
    (S.flatMap fun c' => if c'.id = c.id then f c' else []) = f c := by
  induction S with
  | nil => simp at hc
  | cons a S ih =>
    rw [List.map_cons, List.nodup_cons] at hnodup
    rw [List.flatMap_cons]
    rcases List.mem_cons.1 hc with rfl | hmem
    · have hother : (S.flatMap fun c' => if c'.id = c.id then f c' else []) = [] := by
        refine List.flatMap_eq_nil_iff.2 fun c' hc' => if_neg fun h => hnodup.1 ?_
        exact List.mem_map.2 ⟨c', hc', h⟩
      rw [if_pos rfl, hother, List.append_nil]
    · have hne : a.id ≠ c.id := fun h => hnodup.1 (h ▸ List.mem_map_of_mem hmem)
      rw [if_neg hne, List.nil_append, ih hnodup.2 hmem]

theorem issues_filter (hS : Selection S) {c : Check} (hc : c ∈ S) (version path : Option Text) (text : Text) :
    (issues S (document version path text)).filter (Issue.isFrom c.id) =
      issues [c] (document version path text) := by
  set d := document version path text
  set f : Check → List Issue := fun c' => (c'.found (d.withNotes (Check.fullNotes d))).map (·.tag c'.id)
  have hfilter : ∀ c' ∈ S, (f c').filter (Issue.isFrom c.id) = if c'.id = c.id then f c' else [] := by
    intro c' hc'
    have hfrom : ∀ i ∈ f c', i.isFrom c.id = (c'.id == c.id) := by
      intro i hi
      obtain ⟨j, hj, rfl⟩ := List.mem_map.1 hi
      exact (found_plain (hS.standard hc') version path text _ j hj).isFrom_tag c'.id c.id
    by_cases hid : c'.id = c.id
    · rw [if_pos hid]
      exact List.filter_eq_self.2 fun i hi => by rw [hfrom i hi, beq_iff_eq, hid]
    · rw [if_neg hid]
      exact List.filter_eq_nil_iff.2 fun i hi => by rw [hfrom i hi, beq_iff_eq]; exact hid
  calc (S.flatMap f).filter (Issue.isFrom c.id)
      = S.flatMap fun c' => (f c').filter (Issue.isFrom c.id) := List.filter_flatMap
    _ = S.flatMap fun c' => if c'.id = c.id then f c' else [] := List.flatMap_congr hfilter
    _ = f c := flatMap_of_id hS.nodup hc f
    _ = issues [c] d := (List.flatMap_singleton f c).symm

theorem exists_isFrom (hS : Selection S) (version path : Option Text) (text : Text) {i : Issue}
    (hi : i ∈ Issue.attachExcerpts text (Issue.sort (issues S (document version path text))) excerptWindow) :
    ∃ c ∈ S, i.isFrom c.id = true := by
  obtain ⟨j, hj, hji⟩ := List.mem_map.1 hi
  obtain ⟨c, hc, hj⟩ := List.mem_flatMap.1 ((List.mergeSort_perm _ _).mem_iff.1 hj)
  obtain ⟨k, hk, rfl⟩ := List.mem_map.1 hj
  have hplain := found_plain (hS.standard hc) version path text _ k hk
  have hfrom : (k.tag c.id).isFrom c.id = true := by rw [hplain.isFrom_tag, beq_self_eq_true]
  refine ⟨c, hc, ?_⟩
  subst hji
  split
  · rw [Issue.isFrom_set_excerpt, hfrom]
  · exact hfrom

end Selection

/-- Checks do not interfere. A run of all checks succeeds, and so does a run of any selection; each issue of the
latter carries the name of a selected check, and the issues with the name of one are, in order, those of the
full run. -/
theorem lint_selection_agrees (version path : Option Text) (text : Text) :
    ∃ all, lint { checks := Check.standard, version } path text = .ok all ∧
      ∀ S, Selection S → ∃ found, lint { checks := S, version } path text = .ok found ∧
        (∀ i ∈ found, ∃ c ∈ S, i.isFrom c.id = true) ∧
        ∀ c ∈ S, found.filter (Issue.isFrom c.id) = all.filter (Issue.isFrom c.id) := by
  refine ⟨_, Selection.all.lint_eq version path text, fun S hS => ?_⟩
  refine ⟨_, hS.lint_eq version path text, fun i hi => hS.exists_isFrom version path text hi, fun c hc => ?_⟩
  have hc' : c ∈ Check.standard := hS.standard hc
  rw [Issue.attachExcerpts_filter, Issue.attachExcerpts_filter, Issue.sort_filter, Issue.sort_filter,
    hS.issues_filter hc, Selection.all.issues_filter hc']

/-- Four checks, one of them before its place among all, and a bracket that is not closed. -/
theorem lint_selection_agrees_bracket :
    Selection [Check.lineLength, Check.inlineMarkers, Check.blanks, Check.brackets] ∧
      ∃ all found,
        lint { checks := Check.standard } none "BEGIN_PGML\n[x\nEND_PGML\n".toList = .ok all ∧
        lint { checks := [Check.lineLength, Check.inlineMarkers, Check.blanks, Check.brackets] } none
          "BEGIN_PGML\n[x\nEND_PGML\n".toList = .ok found ∧
        (found.filter (Issue.isFrom Check.brackets.id)).length = 1 ∧
        found.filter (Issue.isFrom Check.brackets.id) = all.filter (Issue.isFrom Check.brackets.id) := by
  have hS : Selection [Check.lineLength, Check.inlineMarkers, Check.blanks, Check.brackets] :=
    ⟨by simp [Check.standard], by decide, by decide, by decide⟩
  have hcount : (lint { checks := [Check.lineLength, Check.inlineMarkers, Check.blanks, Check.brackets] } none
      "BEGIN_PGML\n[x\nEND_PGML\n".toList).toOption.map
        (fun found => (found.filter (Issue.isFrom Check.brackets.id)).length) = some 1 := by
    decide +kernel
  obtain ⟨all, hall, hselected⟩ := lint_selection_agrees none none "BEGIN_PGML\n[x\nEND_PGML\n".toList
  obtain ⟨found, hfound, -, hfilter⟩ := hselected _ hS
  refine ⟨hS, all, found, hall, hfound, ?_, hfilter Check.brackets (by simp)⟩
  rw [hfound] at hcount
  exact Option.some.inj hcount

end ProblemLint
