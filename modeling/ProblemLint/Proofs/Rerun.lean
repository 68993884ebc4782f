import ProblemLint.Proofs.Runs

/-! Running the same checks a second time over the same document. The first run leaves notes, and its names stay on
the issues that the document holds; the second one starts with both. In the standard order a check that reads notes
never stands before the one that writes them, so each check meets the same notes in both runs. -/

namespace ProblemLint

theorem Issue.tag_tag (id id' : String) (i : Issue) : (i.tag id).tag id' = i.tag id := by
  have hnamed {i : Issue} {s : String} (h : i.get? "plugin" = some (.str s)) : i.tag id' = i := by
    rw [tag, h]
  have hset : (i.set "plugin" (.str id)).get? "plugin" = some (.str id) := Fields.get?_set_self _ _ _
  cases hplugin : i.get? "plugin" with
  | none => rw [show i.tag id = i.set "plugin" (.str id) by rw [tag, hplugin], hnamed hset]
  | some v =>
    cases v with
    | null => rw [show i.tag id = i.set "plugin" (.str id) by rw [tag, hplugin], hnamed hset]
    | _ => rw [show i.tag id = i by rw [tag, hplugin]]; rw [tag, hplugin]

namespace Check

/-! ### The order of checks -/

/-- The later check writes no notes that the earlier one reads. -/
def InOrder (earlier later : Check) : Prop :=
  (earlier.id ∈ inlineReaders → later.id ≠ inlineMarkers.id) ∧ (earlier.id ∈ blankReaders → later.id ≠ blanks.id)

theorem standard_inOrder : standard.Pairwise InOrder := by
  have hids : (standard.map (·.id)).Pairwise fun a b =>
      (a ∈ inlineReaders → b ≠ inlineMarkers.id) ∧ (a ∈ blankReaders → b ≠ blanks.id) := by
    decide
  rwa [List.pairwise_map] at hids

/-- Notes that agree, except for those that one of the given checks will write. -/
structure Agree (n n' : Notes) (rest : List Check) : Prop where
  inline : n.inline = n'.inline ∨ inlineMarkers ∈ rest
  blanks : (n.names = n'.names ∧ n.blanks = n'.blanks) ∨ blanks ∈ rest

section

variable {d : Document} {n n' : Notes} {c : Check} {rest : List Check}

theorem Agree.sameNotes (h : Agree n n' (c :: rest)) (horder : ∀ later ∈ rest, InOrder c later) :
    SameNotes c.id n n' := by
  constructor
  · intro hreads
    rcases h.inline with heq | hmem
    · exact heq
    · rcases List.mem_cons.1 hmem with rfl | hmem
      · exact absurd hreads (by decide)
      · exact absurd rfl ((horder _ hmem).1 hreads)
  · intro hreads
    rcases h.blanks with heq | hmem
    · exact heq
    · rcases List.mem_cons.1 hmem with rfl | hmem
      · exact absurd hreads (by decide)
      · exact absurd rfl ((horder _ hmem).2 hreads)

theorem inlineMarkers_ne_blanks : inlineMarkers ≠ blanks := by
  intro h
  have hid : inlineMarkers.id = blanks.id := by rw [h]
  revert hid
  decide

theorem blanks_congr (d : Document) (h : n.inline = n'.inline) :
    blanks.found (d.withNotes n) = blanks.found (d.withNotes n') ∧
      (blanks.renoted d n).names = (blanks.renoted d n').names ∧
      (blanks.renoted d n).blanks = (blanks.renoted d n').blanks := by
  obtain ⟨inline, names, spans⟩ := n
  obtain rfl : inline = n'.inline := h
  exact ⟨rfl, rfl, rfl⟩

theorem found_congr (hd : d.StandardRules) (hc : c ∈ standard) (h : SameNotes c.id n n') :
    c.found (d.withNotes n) = c.found (d.withNotes n') := by
  by_cases hinline : c = inlineMarkers
  · subst hinline
    rfl
  by_cases hblanks : c = blanks
  · subst hblanks
    exact (blanks_congr d (h.inline (by decide))).1
  · exact found_of_run (run_other hd hc hinline hblanks h)

theorem agree_renoted (hd : d.StandardRules) (hc : c ∈ standard) (h : Agree n n' (c :: rest))
    (hsame : SameNotes c.id n n') : Agree (c.renoted d n) (c.renoted d n') rest := by
  by_cases hinline : c = inlineMarkers
  · subst hinline
    refine ⟨.inl rfl, ?_⟩
    rcases h.blanks with heq | hmem
    · exact .inl heq
    · exact .inr ((List.mem_cons.1 hmem).resolve_left inlineMarkers_ne_blanks.symm)
  by_cases hblanks : c = blanks
  · subst hblanks
    have heq := hsame.inline (by decide)
    exact ⟨.inl heq, .inl (blanks_congr d heq).2⟩
  · rw [renoted_other hd hc hinline hblanks, renoted_other hd hc hinline hblanks]
    refine ⟨h.inline.imp_right fun hmem => ?_, h.blanks.imp_right fun hmem => ?_⟩
    · exact (List.mem_cons.1 hmem).resolve_left (Ne.symm hinline)
    · exact (List.mem_cons.1 hmem).resolve_left (Ne.symm hblanks)

/-- Two runs of the same checks whose notes agree in this way report the same and end with the same notes. -/
theorem through_congr (hd : d.StandardRules) (hrest : rest ⊆ standard) (horder : rest.Pairwise InOrder)
    (h : Agree n n' rest) :
    issuesThrough d n rest = issuesThrough d n' rest ∧ notesThrough d n rest = notesThrough d n' rest := by
  induction rest generalizing n n' with
  | nil =>
    -- nothing is left to be written
    obtain ⟨hinline | hmem, ⟨hnames, hspans⟩ | hmem⟩ := h
    · exact ⟨rfl, Notes.ext hinline hnames hspans⟩
    all_goals cases hmem
  | cons c rest ih =>
    obtain ⟨hc, hrest⟩ := List.cons_subset.1 hrest
    obtain ⟨hfirst, horder⟩ := List.pairwise_cons.1 horder
    have hsame := h.sameNotes hfirst
    obtain ⟨hissues, hnotes⟩ := ih hrest horder (agree_renoted hd hc h hsame)
    exact ⟨by rw [issuesThrough, issuesThrough, found_congr hd hc hsame, hissues], hnotes⟩

theorem agree_notesThrough (hd : d.StandardRules) (hrest : rest ⊆ standard) (n : Notes) :
    Agree n (notesThrough d n rest) rest := by
  induction rest generalizing n with
  | nil => exact ⟨.inl rfl, .inl ⟨rfl, rfl⟩⟩
  | cons c rest ih =>
    obtain ⟨hc, hrest⟩ := List.cons_subset.1 hrest
    have hnext := ih hrest (c.renoted d n)
    by_cases hinline : c = inlineMarkers
    · subst hinline
      exact ⟨.inr List.mem_cons_self, hnext.blanks.imp_right (List.mem_cons_of_mem _)⟩
    by_cases hblanks : c = blanks
    · subst hblanks
      exact ⟨hnext.inline.imp_right (List.mem_cons_of_mem _), .inr List.mem_cons_self⟩
    · rw [renoted_other hd hc hinline hblanks] at hnext
      have hthrough : notesThrough d n (c :: rest) = notesThrough d n rest := by
        rw [notesThrough, List.foldl_cons, renoted_other hd hc hinline hblanks]
        rfl
      rw [hthrough]
      exact ⟨hnext.inline.imp_right (List.mem_cons_of_mem _), hnext.blanks.imp_right (List.mem_cons_of_mem _)⟩

end

/-! ### Issues that a document holds -/

/-- The document after a run of checks, apart from its notes. The issues that it holds are handed on as they are, so
that the names which the run gives to issues stay on them. -/
def handedOn (S : List Check) (d : Document) : Document :=
  { d with
    markerIssues := if blockMarkers.id ∈ S.map (·.id) then d.markerIssues.map (·.tag blockMarkers.id)
      else d.markerIssues
    heredocIssues := if heredocs.id ∈ S.map (·.id) then d.heredocIssues.map (·.tag heredocs.id)
      else d.heredocIssues }

theorem found_handedOn {c : Check} (hc : c ∈ standard) (hmarkers : c ≠ blockMarkers) (hheredocs : c ≠ heredocs)
    (S : List Check) (d : Document) (n : Notes) :
    c.found ((handedOn S d).withNotes n) = c.found (d.withNotes n) := by
  have hmem := standard_subset hc
  simp only [List.mem_append, List.mem_cons, List.not_mem_nil, or_false] at hmem
  rcases hmem with (((hfile | hrule) | hin) | hbl) | rfl | rfl
  · simp only [fileChecks, List.mem_cons, List.not_mem_nil, or_false] at hfile
    rcases hfile with rfl | rfl | hfile
    · exact absurd rfl hmarkers
    · exact absurd rfl hheredocs
    rcases hfile with rfl | rfl | rfl | rfl | rfl | rfl | rfl | rfl | rfl | rfl | rfl | rfl | rfl | rfl | rfl
      | rfl | rfl | rfl | rfl | rfl | rfl | rfl | rfl | rfl | rfl | rfl | rfl
    all_goals rfl
  · simp only [ruleChecks, List.mem_cons, List.not_mem_nil, or_false] at hrule
    rcases hrule with rfl | rfl
    · rw [blockRules, found_attempting_eq, found_attempting_eq]
      rfl
    · rw [macroRules, found_attempting_eq, found_attempting_eq]
      rfl
  · simp only [inlineChecks, List.mem_cons, List.not_mem_nil, or_false] at hin
    rcases hin with rfl | rfl | rfl | rfl | rfl | rfl | rfl | rfl | rfl
    all_goals rfl
  · simp only [blankChecks, List.mem_cons, List.not_mem_nil, or_false] at hbl
    rcases hbl with rfl | rfl | rfl
    all_goals rfl
  · rfl
  · rfl

theorem map_tag_map_tag (id : String) (issues : List Issue) :
    (issues.map (·.tag id)).map (·.tag id) = issues.map (·.tag id) := by
  rw [List.map_map]
  exact List.map_congr_left fun i _ => i.tag_tag id id

theorem map_tag_found_handedOn {c : Check} (hc : c ∈ standard) (S : List Check) (d : Document) (n : Notes) :
    (c.found ((handedOn S d).withNotes n)).map (·.tag c.id) = (c.found (d.withNotes n)).map (·.tag c.id) := by
  by_cases hmarkers : c = blockMarkers
  · subst hmarkers
    show (if _ then _ else _ : List Issue).map (·.tag blockMarkers.id) = d.markerIssues.map (·.tag blockMarkers.id)
    split
    · exact map_tag_map_tag _ _
    · rfl
  by_cases hheredocs : c = heredocs
  · subst hheredocs
    show (if _ then _ else _ : List Issue).map (·.tag heredocs.id) = d.heredocIssues.map (·.tag heredocs.id)
    split
    · exact map_tag_map_tag _ _
    · rfl
  · rw [found_handedOn hc hmarkers hheredocs]

theorem renoted_handedOn {d : Document} (hd : d.StandardRules) {c : Check} (hc : c ∈ standard) (S : List Check)
    (n : Notes) : c.renoted (handedOn S d) n = c.renoted d n := by
  by_cases hinline : c = inlineMarkers
  · subst hinline
    rfl
  by_cases hblanks : c = blanks
  · subst hblanks
    rfl
  · have hd' : (handedOn S d).StandardRules := ⟨hd.blocks, hd.macros⟩
    rw [renoted_other hd hc hinline hblanks, renoted_other hd' hc hinline hblanks]

theorem through_handedOn {d : Document} (hd : d.StandardRules) (S : List Check) {rest : List Check}
    (hrest : rest ⊆ standard) (n : Notes) :
    issuesThrough (handedOn S d) n rest = issuesThrough d n rest ∧
      notesThrough (handedOn S d) n rest = notesThrough d n rest := by
  induction rest generalizing n with
  | nil => exact ⟨rfl, rfl⟩
  | cons c rest ih =>
    obtain ⟨hc, hrest⟩ := List.cons_subset.1 hrest
    obtain ⟨hissues, hnotes⟩ := ih hrest (c.renoted d n)
    refine ⟨?_, ?_⟩
    · rw [issuesThrough, issuesThrough, map_tag_found_handedOn hc, renoted_handedOn hd hc, hissues]
    · simp only [notesThrough, List.foldl_cons, renoted_handedOn hd hc]
      exact hnotes

/-! ### The second run -/

open Selection (document)

/-- Checks in their standard order that run a second time, over the document which their first run leaves, report the
same issues and leave the same notes, whether or not the issues that the document holds have kept their names. -/
theorem rerun_same {S : List Check} (hS : S.Sublist standard) (version path : Option Text) (text : Text) :
    ∃ first, runSorted (document version path text) S = .ok first ∧
      ∀ d, d = first.document ∨ d = handedOn S first.document →
        ∃ second, runSorted d S = .ok second ∧ second.issues = first.issues ∧
          second.document.notes = first.document.notes := by
  set d := document version path text
  have hd : d.StandardRules := standardRules_document version path text
  have hsubset : S ⊆ standard := hS.subset
  obtain ⟨hissues, hnotes⟩ :=
    through_congr hd hsubset (standard_inOrder.sublist hS) (agree_notesThrough hd hsubset {})
  refine ⟨_, runSorted_withNotes hd hsubset {}, fun d' hd' => ?_⟩
  rcases hd' with rfl | rfl
  · refine ⟨_, runSorted_withNotes hd hsubset _, ?_, hnotes.symm⟩
    rw [← hissues]
  · obtain ⟨hissues', hnotes'⟩ := through_handedOn hd S hsubset (notesThrough d {} S)
    have hd'' : (handedOn S d).StandardRules := ⟨hd.blocks, hd.macros⟩
    refine ⟨_, runSorted_withNotes hd'' hsubset _, ?_, ?_⟩
    · rw [hissues', ← hissues]
    · exact hnotes'.trans hnotes.symm

/-- A block with a marker that closes nothing, a blank without an answer and a bracket without a partner. -/
def strayMarker : Text := "END_TEXT\nBEGIN_PGML\n[_] [\nEND_PGML\n".toList

/-- Three issues, the first of which the document holds itself. The notes on blanks are there before the second run
only, and nobody notes the inline code. -/
theorem rerun_same_strayMarker : [blockMarkers, blanks, brackets].Sublist standard ∧
    ∃ first, runSorted (document none none strayMarker) [blockMarkers, blanks, brackets] = .ok first ∧
      ∃ second, runSorted (handedOn [blockMarkers, blanks, brackets] first.document)
          [blockMarkers, blanks, brackets] = .ok second ∧
        first.issues.length = 3 ∧ second.issues = first.issues ∧
        second.document.notes = first.document.notes ∧ first.document.notes.blanks.isSome = true := by
  have hS : [blockMarkers, blanks, brackets].Sublist standard :=
    sublist_standard ["block_markers", "pgml_blanks", "pgml_brackets"]
  obtain ⟨first, hfirst, hsecond⟩ := rerun_same hS none none strayMarker
  obtain ⟨second, hrun, hissues, hnotes⟩ := hsecond _ (.inr rfl)
  have hfound : ((runChecks (document none none strayMarker) [blockMarkers, blanks, brackets]).toOption.map
      fun r => (r.issues.length, r.document.notes.blanks.isSome)) = some (3, true) := by
    decide
  have hcount : first.issues.length = 3 ∧ first.document.notes.blanks.isSome = true := by
    cases hchecks : runChecks (document none none strayMarker) [blockMarkers, blanks, brackets] with
    | error e => simp [hchecks, Except.toOption] at hfound
    | ok found =>
      obtain rfl : { found with issues := Issue.sort found.issues } = first := by
        simpa [runSorted, hchecks, bind, Except.bind] using hfirst
      simpa [hchecks, Except.toOption, Issue.sort, List.length_mergeSort] using hfound
  exact ⟨hS, first, hfirst, second, hrun, hcount.1, hissues, hnotes, hcount.2⟩

end Check
end ProblemLint
