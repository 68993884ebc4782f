import ProblemLint.Proofs.InlineNotes
import ProblemLint.Proofs.Newlines
import ProblemLint.Proofs.Rerun

/-! Web markup in inline code. Two checks of web markup are to pass over what starts in inline code. They go by the
notes on it, and unlike the other checks they do not read a block again where there are none. So they pass over
inline code in the runs that note it, and in no other. -/

namespace ProblemLint

namespace Issue

theorem attachExcerpts_of_no_column (text : Text) {issues : List Issue} (h : ∀ i ∈ issues, i.column? = none)
    (window : Int) : attachExcerpts text issues window = issues := by
  unfold attachExcerpts
  refine (List.map_congr_left fun i hi => ?_).trans (List.map_id issues)
  have hexcerpt : i.excerpt? window (Text.lineTexts text).toArray = none := by
    unfold excerpt?
    cases i.line? <;> simp [h i hi]
  rw [hexcerpt]
  rfl

theorem Plain.column?_tag {i : Issue} (h : i.Plain) (id : String) : (i.tag id).column? = i.column? := by
  rw [tag, h.untagged, column?, column?, get?_set_of_ne (by decide)]

end Issue

theorem Span.wrapped_of_nonneg (size : Nat) {spans : List Span} (h : ∀ s ∈ spans, 0 ≤ s.start) :
    Span.wrapped size spans = spans := by
  unfold Span.wrapped
  induction spans with
  | nil => rfl
  | cons s spans ih =>
    obtain ⟨hs, h⟩ := List.forall_mem_cons.1 h
    rw [List.flatMap_cons, if_neg (Int.not_lt.2 hs), ih h]
    rfl

namespace Check

/-- A piece of web markup in a block, which is known by its first position and its text, with what is said about
it. -/
structure Hit where
  start : Int
  block : Text
  found : Match
  message : String

namespace Hit

def pos (h : Hit) : Int := h.start + h.found.start

def issue (d : Document) (h : Hit) : Issue := .onLine .warning h.message (d.lineOf h.pos)

def inCode (d : Document) (h : Hit) : Bool :=
  Span.anyHolds (inlineSpans h.block h.start d.newlines).2 h.found.start

end Hit

def tagHits (t : Text) : List (Match × String) :=
  let find := fun (p : Pattern) (message? : Match → Option String) =>
    (p.findAll t).filterMap fun m => (message? m).map fun message => (m, message)
  find HtmlInText.tag HtmlInText.tagMessage? ++ find HtmlInText.entity (some ∘ HtmlInText.entityMessage)
    ++ find ignoreClass fun _ => some HtmlInText.classMessage

def interpolationHits (code t : Text) : List (Match × String) :=
  let names := (EscapedModes.assignment.findAll code).map (·.group 1)
  ((EscapedModes.interpolation.findAll t).filter fun m => names.contains (m.group 1)).map fun m =>
    (m, EscapedModes.message (m.group 1))

/-- The checks that are to pass over inline code, with what they look for: in the text of a block, given
the code of the file. -/
def htmlChecks : List (Check × (Text → Text → List (Match × String))) :=
  [(htmlInText, fun _ => tagHits), (modesHtmlEscape, interpolationHits)]

def hits (find : Text → Text → List (Match × String)) (d : Document) : List Hit :=
  d.blockTexts.flatMap fun (_, start, t) => (find d.code t).map fun (m, message) => ⟨start, t, m, message⟩

/-- What a check still reports when something is known about the inline code of blocks. -/
def hitsOutside (known : Nat → List Span) (find : Text → Text → List (Match × String)) (d : Document) :
    List Hit :=
  d.blockTexts.flatMap fun (i, start, t) =>
    ((find d.code t).filter fun (m, _) => !Span.anyHolds (Span.wrapped t.length (known i)) m.start).map
      fun (m, message) => ⟨start, t, m, message⟩

theorem filterMap_filter_eq {α β : Type} (l : List Match) (keep : Match → Bool) (message? : Match → Option α)
    (report : Match → α → β) :
    (l.filter keep).filterMap (fun m => (message? m).map (report m)) =
      ((l.filterMap fun m => (message? m).map fun message => (m, message)).filter fun x => keep x.1).map
        fun x => report x.1 x.2 := by
  induction l with
  | nil => rfl
  | cons m l ih => cases hk : keep m <;> cases hm : message? m <;> simp [hk, hm, ih]

def knownInline (d : Document) (i : Nat) : List Span := (SpanTable.at? d.inlineSpans i).getD []

theorem htmlInText_found (d : Document) : htmlInText.found d =
    (hitsOutside (knownInline d) (fun _ => tagHits) d).map (Hit.issue d) := by
  show HtmlInText.issues d = _
  unfold HtmlInText.issues hitsOutside tagHits
  rw [List.map_flatMap]
  refine List.flatMap_congr fun x _ => ?_
  simp only [filterMap_filter_eq, List.filter_append, List.map_append, List.map_map]
  rfl

theorem modesHtmlEscape_found (d : Document) : modesHtmlEscape.found d =
    (hitsOutside (knownInline d) interpolationHits d).map (Hit.issue d) := by
  show EscapedModes.issues d = _
  simp only [EscapedModes.issues, hitsOutside, interpolationHits, List.map_flatMap]
  split
  · next hnames => simp [List.isEmpty_iff.1 hnames]
  · refine List.flatMap_congr fun x _ => ?_
    simp only [List.filter_map, List.filter_filter, List.map_map]
    rfl

theorem htmlChecks_found {p : Check × (Text → Text → List (Match × String))} (hp : p ∈ htmlChecks)
    (d : Document) : p.1.found d = (hitsOutside (knownInline d) p.2 d).map (Hit.issue d) := by
  rcases List.mem_pair.1 hp with rfl | rfl
  · exact htmlInText_found d
  · exact modesHtmlEscape_found d

theorem hitsOutside_unknown {known : Nat → List Span} (h : ∀ i, known i = [])
    (find : Text → Text → List (Match × String)) (d : Document) : hitsOutside known find d = hits find d := by
  simp [hitsOutside, hits, h, Span.wrapped, Span.anyHolds]

theorem hitsOutside_noted (find : Text → Text → List (Match × String)) (d : Document)
    (hregions : d.regions = d.blockRegions ++ d.heredocRegions) :
    hitsOutside (knownInline (inlineMarkers.noted d)) find d = (hits find d).filter fun h => !h.inCode d := by
  unfold hitsOutside hits
  rw [List.filter_flatMap]
  refine List.flatMap_congr fun x hx => ?_
  have hknown : knownInline (inlineMarkers.noted d) x.1 = (inlineSpans x.2.2 x.2.1 d.newlines).2 := by
    rw [knownInline, at?_noted (Document.getElem?_of_mem_blockTexts hregions hx)]
    rfl
  simp only [hknown, Span.wrapped_of_nonneg _ (inlineSpans_nonneg _ _ _), List.filter_map]
  rfl

/-- What such a check reports in a run: all that it looks for, less what is in inline code in case the run notes
that. -/
def reportedHits (S : List Check) (find : Text → Text → List (Match × String)) (d : Document) : List Hit :=
  if inlineMarkers.id ∈ S.map (·.id) then (hits find d).filter fun h => !h.inCode d else hits find d

theorem forall_reportedHits (S : List Check) (find : Text → Text → List (Match × String)) (d : Document) :
    (∀ h ∈ reportedHits S find d, h.inCode d = false) ↔
      inlineMarkers.id ∈ S.map (·.id) ∨ ∀ h ∈ hits find d, h.inCode d = false := by
  unfold reportedHits
  split
  · next hnotes => simp [hnotes]
  · next hnotes => simp only [hnotes, false_or]

/-- The marker check comes before those that read its notes, so what precedes such a check decides what it knows. -/
theorem inlineMarkers_mem_before {before after : List Check} {c : Check}
    (hS : (before ++ c :: after).Sublist standard) (hc : c.id ∈ inlineReaders) (hne : c.id ≠ inlineMarkers.id) :
    inlineMarkers.id ∈ before.map (·.id) ↔ inlineMarkers.id ∈ (before ++ c :: after).map (·.id) := by
  have horder := (List.pairwise_append.1 (standard_inOrder.sublist hS)).2.1
  have hafter : inlineMarkers.id ∉ after.map (·.id) := by
    intro hmem
    obtain ⟨c', hc', hid⟩ := List.mem_map.1 hmem
    exact (List.rel_of_pairwise_cons horder hc').1 hc hid
  rw [List.map_append, List.map_cons, List.mem_append, List.mem_cons]
  simp only [hne.symm, hafter, or_false]

open Selection (document)

theorem found_html {before after : List Check} {p : Check × (Text → Text → List (Match × String))}
    (hp : p ∈ htmlChecks) (hS : (before ++ p.1 :: after).Sublist standard) (version path : Option Text)
    (text : Text) :
    p.1.found ((document version path text).withNotes
        (notesThrough (document version path text) {} before)) =
      (reportedHits (before ++ p.1 :: after) p.2 (document version path text)).map
        (Hit.issue (document version path text)) := by
  set d := document version path text
  have hreads : p.1.id ∈ inlineReaders ∧ p.1.id ≠ inlineMarkers.id := by
    rcases List.mem_pair.1 hp with rfl | rfl <;> decide
  have hinline := notesThrough_inline (standardRules_document version path text)
    (fun c hc => hS.subset (List.mem_append_left _ hc)) {}
  have hknown : knownInline (d.withNotes (notesThrough d {} before)) =
      fun i => (SpanTable.at? (notesThrough d {} before).inline i).getD [] := rfl
  have hiff := inlineMarkers_mem_before hS hreads.1 hreads.2
  rw [htmlChecks_found hp, hknown, hinline, reportedHits]
  by_cases hnotes : inlineMarkers.id ∈ before.map (·.id)
  · rw [if_pos hnotes, if_pos (hiff.1 hnotes), ← hitsOutside_noted p.2 d rfl]
    rfl
  · rw [if_neg hnotes, if_neg fun h => hnotes (hiff.2 h), ← hitsOutside_unknown (fun _ => rfl) p.2 d]
    rfl

theorem attachExcerpts_hits (text : Text) (d : Document) (id : String) (hs : List Hit) :
    Issue.attachExcerpts text (Issue.sort (hs.map fun h => (h.issue d).tag id)) excerptWindow =
      Issue.sort (hs.map fun h => (h.issue d).tag id) := by
  refine Issue.attachExcerpts_of_no_column text (fun i hi => ?_) excerptWindow
  obtain ⟨h, -, rfl⟩ := List.mem_map.1 ((List.mergeSort_perm _ _).mem_iff.1 hi)
  exact (Issue.Plain.onLine _ _ _).column?_tag id

/-- A check of web markup reports what it looks for, each piece on its own line; pieces in inline code are among
them unless the run notes inline code or there are none. -/
theorem lint_html_exempts_iff {S : List Check} (hS : S.Sublist standard)
    {p : Check × (Text → Text → List (Match × String))} (hp : p ∈ htmlChecks) (hmem : p.1 ∈ S)
    (version path : Option Text) (text : Text) :
    ∃ found, lint { checks := S, version } path text = .ok found ∧
      found.filter (Issue.isFrom p.1.id) =
        Issue.sort ((reportedHits S p.2 (document version path text)).map fun h =>
          (h.issue (document version path text)).tag p.1.id) ∧
      ((∀ h ∈ reportedHits S p.2 (document version path text), h.inCode (document version path text) = false) ↔
        inlineMarkers.id ∈ S.map (·.id) ∨
          ∀ h ∈ hits p.2 (document version path text), h.inCode (document version path text) = false) := by
  refine ⟨_, lint_standard hS.subset version path text, ?_, forall_reportedHits S p.2 _⟩
  obtain ⟨before, after, rfl⟩ := List.append_of_mem hmem
  rw [Issue.attachExcerpts_filter, Issue.sort_filter, filter_issuesThrough hS, found_html hp hS, List.map_map]
  exact attachExcerpts_hits text _ _ _

theorem lint_html_exempts_iff_tags :
    ∃ found, lint { checks := [inlineMarkers, htmlInText] } none
        "BEGIN_PGML\n[@ '<b>' @] <i>\nEND_PGML\n".toList = .ok found ∧
      found.filter (Issue.isFrom htmlInText.id) =
        Issue.sort ((reportedHits [inlineMarkers, htmlInText] (fun _ => tagHits)
          (document none none "BEGIN_PGML\n[@ '<b>' @] <i>\nEND_PGML\n".toList)).map fun h =>
            (h.issue (document none none "BEGIN_PGML\n[@ '<b>' @] <i>\nEND_PGML\n".toList)).tag htmlInText.id) ∧
      (hits (fun _ => tagHits) (document none none "BEGIN_PGML\n[@ '<b>' @] <i>\nEND_PGML\n".toList)).map
          (·.found.text) = ["<b>".toList, "<i>".toList] ∧
      ∀ h ∈ reportedHits [inlineMarkers, htmlInText] (fun _ => tagHits)
          (document none none "BEGIN_PGML\n[@ '<b>' @] <i>\nEND_PGML\n".toList),
        h.inCode (document none none "BEGIN_PGML\n[@ '<b>' @] <i>\nEND_PGML\n".toList) = false := by
  obtain ⟨found, hlint, hfound, hiff⟩ := lint_html_exempts_iff
    (sublist_standard ["pgml_inline", "pgml_html_in_text"]) (p := (htmlInText, fun _ => tagHits))
    List.mem_cons_self (List.mem_cons_of_mem _ List.mem_cons_self) none none
    "BEGIN_PGML\n[@ '<b>' @] <i>\nEND_PGML\n".toList
  exact ⟨found, hlint, hfound, by decide, hiff.2 (.inl List.mem_cons_self)⟩

/-- Such a check alone passes over nothing. -/
theorem lint_html_alone {p : Check × (Text → Text → List (Match × String))} (hp : p ∈ htmlChecks)
    (version path : Option Text) (text : Text) :
    lint { checks := [p.1], version } path text =
      .ok (Issue.sort ((hits p.2 (document version path text)).map fun h =>
        (h.issue (document version path text)).tag p.1.id)) := by
  have hmem : p.1 ∈ standard ∧ inlineMarkers.id ∉ [p.1].map (·.id) := by
    rcases List.mem_pair.1 hp with rfl | rfl
    · exact ⟨(sublist_standard ["pgml_html_in_text"]).subset List.mem_cons_self, by decide⟩
    · exact ⟨(sublist_standard ["pgml_modes_html_escape"]).subset List.mem_cons_self, by decide⟩
  have hS : [p.1].Sublist standard := List.singleton_sublist.2 hmem.1
  have hfound : p.1.found ((document version path text).withNotes {}) =
      (hits p.2 (document version path text)).map (Hit.issue (document version path text)) := by
    have h := @found_html [] [] p hp hS version path text
    rwa [List.nil_append, reportedHits, if_neg hmem.2] at h
  rw [lint_standard hS.subset, issuesThrough, issuesThrough, List.append_nil, hfound, List.map_map]
  exact congrArg Except.ok (attachExcerpts_hits text _ _ _)

/-- Without the check that notes inline code, a tag is reported that stands nowhere but in inline code. -/
theorem tag_in_inline_code_reported :
    (hits (fun _ => tagHits) (document none none "BEGIN_PGML\n[@ '<b>' @]\nEND_PGML\n".toList)).map
        (fun h => h.inCode (document none none "BEGIN_PGML\n[@ '<b>' @]\nEND_PGML\n".toList)) = [true] ∧
      lint { checks := [htmlInText] } none "BEGIN_PGML\n[@ '<b>' @]\nEND_PGML\n".toList =
        .ok [(Issue.onLine .warning
          "Raw HTML <b> tag in PGML text will be stripped or mangled; use *bold* for bold text" 2).tag
            htmlInText.id] := by
  refine ⟨by decide, ?_⟩
  have hlint := lint_html_alone (p := (htmlInText, fun _ => tagHits)) List.mem_cons_self none none
    "BEGIN_PGML\n[@ '<b>' @]\nEND_PGML\n".toList
  have hhits : (hits (fun _ => tagHits) (document none none
        "BEGIN_PGML\n[@ '<b>' @]\nEND_PGML\n".toList)).map (fun h => (h.message, h.pos)) =
      [("Raw HTML <b> tag in PGML text will be stripped or mangled; use *bold* for bold text", 15)] := by
    decide
  have hline : (document none none "BEGIN_PGML\n[@ '<b>' @]\nEND_PGML\n".toList).lineOf 15 = 2 :=
    NewlineIndex.lineOf_ofText _ 15
  obtain ⟨h, hh, hmessage⟩ := List.map_eq_singleton_iff.1 hhits
  obtain ⟨hmessage, hpos⟩ := Prod.mk.inj hmessage
  rw [hlint, hh, List.map_singleton, Issue.sort, List.mergeSort_singleton, Hit.issue, hmessage, hpos, hline]

end Check
end ProblemLint
