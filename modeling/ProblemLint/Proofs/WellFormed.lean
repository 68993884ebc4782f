import ProblemLint.Proofs.Matching
import ProblemLint.Proofs.Runs

/-! What a run of the linter returns. Whatever the text and the selection, there is a result, every issue in it has
a severity, something to say, the name of a selected check, and a line of the text if any; and no look-up on the way
falls outside of the mask that it is made in. -/

namespace ProblemLint

namespace Issue

/-- An issue as the linter returns it: made by one of several checks, about a line up to a limit if about any. -/
structure WellFormed (ids : List String) (limit : Nat) (i : Issue) : Prop where
  severity : i.get? "severity" = some (.str "ERROR") ∨ i.get? "severity" = some (.str "WARNING")
  message : ∃ s, i.get? "message" = some (.str s) ∧ s ≠ ""
  plugin : ∃ id ∈ ids, i.get? "plugin" = some (.str id)
  line : ∀ v, i.get? "line" = some v → ∃ n : Int, v = .int n ∧ 1 ≤ n ∧ n ≤ limit

theorem Plain.severity {i : Issue} (h : i.Plain) :
    i.get? "severity" = some (.str "ERROR") ∨ i.get? "severity" = some (.str "WARNING") := by
  have hname : ∃ s : Severity, i.get? "severity" = some (.str s.name) := by
    cases h <;> exact ⟨_, rfl⟩
  obtain ⟨s, hs⟩ := hname
  cases s with
  | error => exact .inl hs
  | warning => exact .inr hs

theorem Plain.messageText {i : Issue} (h : i.Plain) : ∃ s, i.get? "message" = some (.str s) := by
  cases h <;> exact ⟨_, rfl⟩

theorem Plain.lineNumber {i : Issue} (h : i.Plain) {v : Value} (hv : i.get? "line" = some v) :
    ∃ n : Int, v = .int n := by
  cases h with
  | general => cases hv
  | onLine | atColumn | lineFirst => exact ⟨_, (Option.some.inj hv).symm⟩

theorem Sound.wellFormed_tag {limit : Nat} {i : Issue} (h : i.Sound limit) {ids : List String} {id : String}
    (hid : id ∈ ids) : (i.tag id).WellFormed ids limit := by
  have htag : i.tag id = i.set "plugin" (.str id) := by rw [tag, h.plain.untagged]
  rw [htag]
  refine ⟨?_, ?_, ⟨id, hid, get?_set_self _ _ _⟩, fun v hv => ?_⟩
  · rw [get?_set_of_ne (by decide)]
    exact h.plain.severity
  · obtain ⟨s, hs⟩ := h.plain.messageText
    refine ⟨s, by rwa [get?_set_of_ne (by decide)], ?_⟩
    rintro rfl
    exact h.message (by rw [Issue.message, hs]; rfl)
  · rw [get?_set_of_ne (by decide)] at hv
    obtain ⟨n, rfl⟩ := h.plain.lineNumber hv
    exact ⟨n, rfl, h.line n (by rw [line?, hv]; rfl)⟩

theorem WellFormed.set_excerpt {ids : List String} {limit : Nat} {i : Issue} (h : i.WellFormed ids limit)
    (v : Value) : (i.set "excerpt" v).WellFormed ids limit := by
  obtain ⟨hseverity, hmessage, hplugin, hline⟩ := h
  constructor
  · rwa [get?_set_of_ne (by decide)]
  · rwa [get?_set_of_ne (by decide)]
  · rwa [get?_set_of_ne (by decide)]
  · rwa [get?_set_of_ne (by decide)]

theorem wellFormed_attachExcerpts {ids : List String} {limit : Nat} {issues : List Issue}
    (h : ∀ i ∈ issues, i.WellFormed ids limit) (text : Text) (window : Int) :
    ∀ i ∈ attachExcerpts text issues window, i.WellFormed ids limit := by
  intro i hi
  obtain ⟨j, hj, rfl⟩ := List.mem_map.1 hi
  split
  · exact (h j hj).set_excerpt _
  · exact h j hj

end Issue

theorem length_maskFrom (f : QuoteFlags) (line : Text) : (maskFrom f line).length = line.length := by
  induction line generalizing f with
  | nil => rfl
  | cons c r ih =>
    simp only [maskFrom]
    split <;> rw [List.length_cons, List.length_cons, ih]

namespace Check

/-- The patterns whose matches are looked up in the mask of their line. -/
def maskedPatterns : List Pattern :=
  [functionCall "loadMacros", Signature.call, HtmlPolicy.wrapperTag]
    ++ unseeded.map (fun f => functionCall f.1) ++ seedUses

theorem start_lt_length_mask {p : Pattern} (hp : p ∈ maskedPatterns) {line : Text} {m : Match}
    (hm : m ∈ p.findAll line) : m.start < (mask line).length := by
  have hconsumes : ∀ p ∈ maskedPatterns, p.consumes = true := by decide
  obtain ⟨-, hstop, hlt⟩ := Pattern.mem_findAll hm
  rw [mask, length_maskFrom]
  exact (hlt (hconsumes p hp)).trans_le hstop

open Selection (document)

theorem wellFormed_issuesThrough {S : List Check} (hS : S ⊆ standard) (version path : Option Text) (text : Text)
    (n : Notes) :
    ∀ i ∈ issuesThrough (document version path text) n S, i.WellFormed (S.map (·.id)) (lineLimit text) := by
  intro i hi
  obtain ⟨c, hc, m, j, hj, rfl⟩ := exists_of_mem_issuesThrough hi
  have hsound := found_sound (ofText_within text path BlockRule.standard MacroRule.standard version m) (hS hc) j hj
  exact hsound.wellFormed_tag (List.mem_map_of_mem hc)

/-- Every run returns well-formed issues, and no mask is read beyond its end. -/
theorem lint_wellFormed {S : List Check} (hS : S ⊆ standard) (version path : Option Text) (text : Text) :
    (∃ found, lint { checks := S, version } path text = .ok found ∧
      ∀ i ∈ found, i.WellFormed (S.map (·.id)) (max (1 + text.count '\n') (Text.lines text).length)) ∧
    ∀ p ∈ maskedPatterns, ∀ line, ∀ m ∈ p.findAll line, m.start < (mask line).length := by
  refine ⟨⟨_, lint_standard hS version path text, Issue.wellFormed_attachExcerpts (fun i hi => ?_) _ _⟩,
    fun p hp line m hm => start_lt_length_mask hp hm⟩
  exact wellFormed_issuesThrough hS version path text {} i ((List.mergeSort_perm _ _).mem_iff.1 hi)

/-- One issue about the file and one about its second line. -/
theorem lint_wellFormed_answerRule :
    [seedVariation, answerRule] ⊆ standard ∧
      ∃ found, lint { checks := [seedVariation, answerRule] } none "DOCUMENT()\nans_rule(5)\n".toList = .ok found ∧
        found.length = 2 ∧ ∀ i ∈ found, i.WellFormed ["pgml_seed_variation", "pgml_ans_rule"] 3 := by
  have hS : [seedVariation, answerRule] ⊆ standard :=
    (sublist_standard ["pgml_seed_variation", "pgml_ans_rule"]).subset
  obtain ⟨⟨found, hfound, hall⟩, -⟩ := lint_wellFormed hS none none "DOCUMENT()\nans_rule(5)\n".toList
  refine ⟨hS, found, hfound, ?_, hall⟩
  have hissues : (issuesThrough (Selection.document none none "DOCUMENT()\nans_rule(5)\n".toList) {}
      [seedVariation, answerRule]).length = 2 := by
    decide
  rw [lint_standard hS] at hfound
  cases hfound
  rw [Issue.attachExcerpts, List.length_map, Issue.sort, List.length_mergeSort, hissues]

end Check
end ProblemLint
