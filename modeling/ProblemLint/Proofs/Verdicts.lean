import ProblemLint.Triage.Cautious
import ProblemLint.Triage.Sweep
import ProblemLint.Proofs.Encoding
import ProblemLint.Proofs.Trimming

/-! Two verdicts on an issue. The sweep and the cautious recheck go through the same evidence, each with tests of its
own that change nothing. Their verdicts differ in one case only, which the text of the file and the message decide: an
unassigned `$ans` in a file that has an `$answer`. -/

namespace ProblemLint

/-! ### Faultless files -/

namespace Utf8

theorem eq_map_ok_of_mapM {ps : List (Except Fault Char)} {t : Text} (h : (ps.mapM fun p => p) = .ok t) :
    ps = t.map .ok := by
  induction ps generalizing t with
  | nil =>
    cases h
    rfl
  | cons p ps ih =>
    rw [List.mapM_cons] at h
    cases p with
    | error f => cases h
    | ok c =>
      cases hrest : ps.mapM fun p => p with
      | error f =>
        rw [hrest] at h
        cases h
      | ok r =>
        rw [hrest] at h
        cases h
        rw [ih hrest, List.map_cons]

theorem readTextLeniently_eq {bs : Bytes} {t : Text} (h : readText bs = .ok t) : readTextLeniently bs = t := by
  rw [readText] at h
  cases hdecoded : decode bs with
  | error f =>
    rw [hdecoded] at h
    cases h
  | ok u =>
    rw [hdecoded] at h
    cases h
    have hpieces : decodeLeniently bs = u := by
      rw [decodeLeniently, eq_map_ok_of_mapM hdecoded, List.filterMap_map]
      exact List.filterMap_some
    rw [readTextLeniently, hpieces]

end Utf8

/-! ### Texts cut at a character -/

namespace Triage

open Text (IsGap)

/-! ### What the evidence shows -/

/-- The first variable that a text names: a word behind a dollar sign, and no dollar sign before has a word behind
it. -/
def FirstNamed (name t : Text) : Prop :=
  ∃ before rest, t = before ++ '$' :: (name ++ rest) ∧ name ≠ [] ∧ (∀ c ∈ name, Text.isWord c = true) ∧
    rest.head?.any Text.isWord = false ∧ ∀ u c v, before = u ++ '$' :: c :: v → Text.isWord c = false

theorem firstNamed_here {name r : Text} (h : r.head?.any Text.isWord = true) :
    FirstNamed name ('$' :: r) ↔ r.takeWhile Text.isWord = name := by
  constructor
  · rintro ⟨before, rest, ht, -, hword, hrest, hfirst⟩
    cases before with
    | nil =>
      rw [List.nil_append, List.cons.injEq] at ht
      rw [ht.2, takeWhile_append_stop hword hrest]
    | cons c before =>
      -- the dollar sign at the start would come first
      rw [List.cons_append, List.cons.injEq] at ht
      obtain ⟨rfl, rfl⟩ := ht
      cases before with
      | nil =>
        rw [List.nil_append, List.head?_cons, Option.any_some] at h
        exact absurd h (by decide)
      | cons d before =>
        rw [List.cons_append, List.head?_cons, Option.any_some, hfirst [] d before rfl] at h
        cases h
  · rintro rfl
    refine ⟨[], r.dropWhile Text.isWord, ?_, ?_, fun c hc => List.mem_takeWhile_imp hc, ?_, ?_⟩
    · rw [List.takeWhile_append_dropWhile, List.nil_append]
    · cases r with
      | nil => cases h
      | cons c r => simp [show Text.isWord c = true from h]
    · exact head?_dropWhile_any _ _
    · intro u c v hnil
      cases u <;> cases hnil

theorem firstNamed_later {name r : Text} {c : Char} (h : c = '$' → r.head?.any Text.isWord = false) :
    FirstNamed name (c :: r) ↔ FirstNamed name r := by
  constructor
  · rintro ⟨before, rest, ht, hne, hword, hrest, hfirst⟩
    cases before with
    | nil =>
      rw [List.nil_append, List.cons.injEq] at ht
      obtain ⟨rfl, rfl⟩ := ht
      obtain ⟨d, name, rfl⟩ := List.exists_cons_of_ne_nil hne
      have hd := h rfl
      rw [List.cons_append, List.head?_cons, Option.any_some, hword d List.mem_cons_self] at hd
      cases hd
    | cons b before =>
      rw [List.cons_append, List.cons.injEq] at ht
      refine ⟨before, rest, ht.2, hne, hword, hrest, fun u d v hbefore => hfirst (b :: u) d v ?_⟩
      rw [hbefore, List.cons_append]
  · rintro ⟨before, rest, rfl, hne, hword, hrest, hfirst⟩
    refine ⟨c :: before, rest, by rw [List.cons_append], hne, hword, hrest, ?_⟩
    intro u d v hbefore
    cases u with
    | nil =>
      rw [List.nil_append, List.cons.injEq] at hbefore
      obtain ⟨rfl, rfl⟩ := hbefore
      exact h rfl
    | cons b u =>
      rw [List.cons_append, List.cons.injEq] at hbefore
      exact hfirst u d v hbefore.2

theorem namedVariable?_eq_some_iff {name t : Text} : namedVariable? t = some name ↔ FirstNamed name t := by
  induction t with
  | nil =>
    refine iff_of_false nofun ?_
    rintro ⟨before, rest, h, -⟩
    simp at h
  | cons c r ih =>
    have hempty : (!(r.takeWhile Text.isWord).isEmpty) = r.head?.any Text.isWord := by
      cases r with
      | nil => rfl
      | cons d r => cases hd : Text.isWord d <;> simp [hd]
    rw [namedVariable?, hempty]
    by_cases hhere : c = '$' ∧ r.head?.any Text.isWord = true
    · obtain ⟨rfl, hword⟩ := hhere
      rw [if_pos (by simp [hword]), Option.some.injEq, firstNamed_here hword]
    · rw [if_neg (by simpa using hhere), ih, firstNamed_later]
      intro hc
      simpa [hc] using hhere

namespace Evidence

theorem somewhere_iff {p : Option Char → Text → Bool} {before : Option Char} {t : Text} :
    somewhere p before t = true ↔ ∃ u v, t = u ++ v ∧ v ≠ [] ∧ p (u.getLast?.or before) v = true := by
  induction t generalizing before with
  | nil => simp [somewhere]
  | cons c r ih =>
    rw [somewhere, Bool.or_eq_true, ih]
    constructor
    · rintro (h | ⟨u, v, rfl, hv, h⟩)
      · exact ⟨[], c :: r, rfl, by simp, h⟩
      · exact ⟨c :: u, v, rfl, hv, by rwa [List.getLast?_cons, Option.some_or, ← Option.or_some]⟩
    · rintro ⟨u, v, ht, hv, h⟩
      cases u with
      | nil => exact .inl (by rwa [ht])
      | cons d u =>
        rw [List.cons_append, List.cons.injEq] at ht
        obtain ⟨rfl, rfl⟩ := ht
        refine .inr ⟨u, v, rfl, hv, ?_⟩
        rwa [List.getLast?_cons, Option.some_or, ← Option.or_some] at h

/-- An element of an array is assigned: `$name[..] =`. -/
def ElementAssigned (name t : Text) : Prop :=
  ∃ before inner gap rest, t = before ++ ('$' :: name ++ '[' :: (inner ++ ']' :: (gap ++ '=' :: rest))) ∧
    inner ≠ [] ∧ ']' ∉ inner ∧ IsGap gap

/-- A list in parentheses that holds the name is assigned: `(.. $name ..) =`. -/
def ListAssigned (name t : Text) : Prop :=
  ∃ before left right gap rest,
    t = before ++ '(' :: (left ++ '$' :: name ++ right ++ ')' :: (gap ++ '=' :: rest)) ∧
      ')' ∉ left ∧ ')' ∉ right ∧ IsGap gap

theorem elementAssignmentAt_iff {name t : Text} {before : Option Char} :
    elementAssignmentAt name before t = true ↔
      ∃ inner gap rest, t = '$' :: name ++ '[' :: (inner ++ ']' :: (gap ++ '=' :: rest)) ∧
        inner ≠ [] ∧ ']' ∉ inner ∧ IsGap gap := by
  constructor
  · intro h
    simp only [elementAssignmentAt] at h
    split at h
    · next r hr =>
      split at h
      · next a inner rest hinner hrest =>
        obtain ⟨hmem, hcut⟩ := Text.dropWhile_ne_eq_cons_iff.1 hrest
        obtain ⟨gap, rest, hgap, rfl⟩ := (Text.head?_trimStart_eq_some_iff (by decide)).1 (beq_iff_eq.1 h)
        refine ⟨r.takeWhile (· != ']'), gap, rest, ?_, by simp [hinner], hmem, hgap⟩
        rw [← hcut, Text.after?_eq_some_iff.1 hr, List.append_assoc, List.singleton_append]
      · cases h
    · cases h
  · rintro ⟨inner, gap, rest, rfl, hne, hmem, hgap⟩
    obtain ⟨c, inner, rfl⟩ := List.exists_cons_of_ne_nil hne
    have hafter : Text.after? ('$' :: name ++ ['[']) ('$' :: name ++ '[' :: (c :: inner ++ ']' :: (gap ++ '=' :: rest))) =
        some (c :: inner ++ ']' :: (gap ++ '=' :: rest)) :=
      Text.after?_eq_some_iff.2 (by rw [List.append_assoc, List.singleton_append])
    simp only [elementAssignmentAt, hafter, Text.takeWhile_ne_append hmem, Text.dropWhile_ne_append hmem, beq_iff_eq]
    exact (Text.head?_trimStart_eq_some_iff (by decide)).2 ⟨gap, rest, hgap, rfl⟩

theorem listAssignmentAt_iff {name t : Text} (hname : ')' ∉ name) {before : Option Char} :
    listAssignmentAt name before t = true ↔
      ∃ left right gap rest, t = '(' :: (left ++ '$' :: name ++ right ++ ')' :: (gap ++ '=' :: rest)) ∧
        ')' ∉ left ∧ ')' ∉ right ∧ IsGap gap := by
  constructor
  · intro h
    simp only [listAssignmentAt] at h
    split at h
    · next r =>
      split at h
      · next rest hrest =>
        obtain ⟨hmem, hcut⟩ := Text.dropWhile_ne_eq_cons_iff.1 hrest
        rw [Bool.and_eq_true, beq_iff_eq] at h
        obtain ⟨left, right, hinner⟩ := Text.isSome_find?_iff.1 h.1
        obtain ⟨gap, rest, hgap, rfl⟩ := (Text.head?_trimStart_eq_some_iff (by decide)).1 h.2
        rw [← hinner] at hmem hcut
        simp only [List.mem_append, not_or] at hmem
        exact ⟨left, right, gap, rest, congrArg _ hcut, hmem.1.1, hmem.2, hgap⟩
      · cases h
    · cases h
  · rintro ⟨left, right, gap, rest, rfl, hleft, hright, hgap⟩
    have hmem : ')' ∉ left ++ '$' :: name ++ right := by simp [hleft, hname, hright]
    simp only [listAssignmentAt, Text.takeWhile_ne_append hmem, Text.dropWhile_ne_append hmem, Bool.and_eq_true,
      beq_iff_eq]
    exact ⟨Text.isSome_find?_iff.2 ⟨left, right, rfl⟩,
      (Text.head?_trimStart_eq_some_iff (by decide)).2 ⟨gap, rest, hgap, rfl⟩⟩

variable {e : Evidence} {t name : Text}

theorem assignsElement_iff (h : e.lenient = some t) : e.assignsElement name = true ↔ ElementAssigned name t := by
  simp only [assignsElement, holds, h, somewhere_iff, elementAssignmentAt_iff]
  constructor
  · rintro ⟨u, v, rfl, -, inner, gap, rest, rfl, hne, hmem, hgap⟩
    exact ⟨u, inner, gap, rest, rfl, hne, hmem, hgap⟩
  · rintro ⟨u, inner, gap, rest, rfl, hne, hmem, hgap⟩
    exact ⟨u, _, rfl, by simp, inner, gap, rest, rfl, hne, hmem, hgap⟩

theorem assignsInList_iff (h : e.lenient = some t) (hname : ')' ∉ name) :
    e.assignsInList name = true ↔ ListAssigned name t := by
  simp only [assignsInList, holds, h, somewhere_iff, listAssignmentAt_iff hname]
  constructor
  · rintro ⟨u, v, rfl, -, left, right, gap, rest, rfl, hleft, hright, hgap⟩
    exact ⟨u, left, right, gap, rest, rfl, hleft, hright, hgap⟩
  · rintro ⟨u, left, right, gap, rest, rfl, hleft, hright, hgap⟩
    exact ⟨u, _, rfl, by simp, left, right, gap, rest, rfl, hleft, hright, hgap⟩

theorem ofBytes_of_readText {bs : Bytes} (h : Utf8.readText bs = .ok t) : ofBytes (some bs) = ⟨some t, some t⟩ := by
  rw [ofBytes, Utf8.readTextLeniently_eq h, h]
  rfl

end Evidence

/-! ### Verdicts -/

/-- The judgement that a category of the sweep amounts to. -/
def Sweep.Category.judgement : Sweep.Category → Cautious.Judgement
  | .bug => .bug
  | .legacy => .legacy
  | .falsePositive => .doubtful

/-- The sweep asks much about a variable without assignment and always answers the same. -/
theorem categorizeVariable_eq (e : Evidence) (name : Text) : Sweep.categorizeVariable e name = .falsePositive := by
  unfold Sweep.categorizeVariable
  split_ifs <;> rfl

/-- All that matters to the recheck is whether the name is a slip for `$answer`. -/
theorem judgeVariable_eq (e : Evidence) (name : Text) :
    Cautious.judgeVariable e name =
      if name = "ans".toList ∧ e.assignsElement name = false ∧ e.assignsInList name = false ∧
          (e.strict.map (Text.includes · "$answer")).getD false = true then .bug
      else .doubtful := by
  by_cases hname : name = "ans".toList
  · have himplicit : isOneOf name implicitArrays = false := by
      rw [hname]
      decide
    simp only [Cautious.judgeVariable, himplicit, and_iff_right hname, beq_iff_eq.2 hname]
    cases e.assignsElement name <;> cases e.assignsInList name <;> simp
  · simp only [Cautious.judgeVariable, hname, beq_iff_eq, false_and, Bool.and_eq_true, if_false]
    split_ifs <;> rfl

/-- A variable `$ans` without assignment in a file that has an `$answer`. -/
structure Slip (t : Text) (i : Issue) : Prop where
  check : i.get? "plugin" = some (.str "pgml_blank_assignments")
  named : FirstNamed "ans".toList i.message
  answer : List.IsInfix "$answer".toList t
  noElement : ¬ Evidence.ElementAssigned "ans".toList t
  noList : ¬ Evidence.ListAssigned "ans".toList t

theorem comesFrom_iff {i : Issue} {check : String} :
    comesFrom i check = true ↔ i.get? "plugin" = some (.str check) := by
  rw [comesFrom]
  split
  · next s hs => rw [hs, beq_iff_eq, Option.some.injEq, Value.str.injEq]
  · next hs =>
    refine iff_of_false (by decide) fun h => ?_
    exact hs check h

theorem slip_iff {e : Evidence} {t : Text} (hlenient : e.lenient = some t) (hstrict : e.strict = some t) (i : Issue) :
    Slip t i ↔ comesFrom i "pgml_blank_assignments" = true ∧ namedVariable? i.message = some "ans".toList ∧
      e.assignsElement "ans".toList = false ∧ e.assignsInList "ans".toList = false ∧
        (e.strict.map (Text.includes · "$answer")).getD false = true := by
  have hanswered : (e.strict.map (Text.includes · "$answer")).getD false = true ↔ List.IsInfix "$answer".toList t := by
    rw [hstrict, Option.map_some, Option.getD_some, Text.includes, Text.isSome_find?_iff]
  rw [hanswered, comesFrom_iff, namedVariable?_eq_some_iff, ← Bool.not_eq_true, ← Bool.not_eq_true,
    Evidence.assignsElement_iff hlenient, Evidence.assignsInList_iff hlenient (by decide)]
  exact ⟨fun h => ⟨h.check, h.named, h.noElement, h.noList, h.answer⟩,
    fun ⟨hcheck, hnamed, helement, hlist, hanswer⟩ => ⟨hcheck, hnamed, hanswer, helement, hlist⟩⟩

theorem not_comesFrom {i : Issue} {check : String} (h : comesFrom i check = true) (other : String)
    (hne : check ≠ other) : comesFrom i other = false := by
  rw [← Bool.not_eq_true, comesFrom_iff, comesFrom_iff.1 h]
  simpa using hne

theorem categorize_eq_of_unassigned {e : Evidence} {i : Issue} (h : comesFrom i "pgml_blank_assignments" = true) :
    Sweep.categorize e i = .falsePositive := by
  simp only [Sweep.categorize, saysMissingAnswer, h, not_comesFrom h "pgml_blanks" (by decide),
    not_comesFrom h "document_pairs" (by decide), not_comesFrom h "block_markers" (by decide)]
  cases namedVariable? i.message with
  | none => rfl
  | some name => exact categorizeVariable_eq e name

theorem judge_eq_of_unassigned {e : Evidence} {i : Issue} (h : comesFrom i "pgml_blank_assignments" = true) :
    Cautious.judge e i =
      if namedVariable? i.message = some "ans".toList ∧ e.assignsElement "ans".toList = false ∧
          e.assignsInList "ans".toList = false ∧ (e.strict.map (Text.includes · "$answer")).getD false = true then .bug
      else .doubtful := by
  simp only [Cautious.judge, saysMissingAnswer, h, not_comesFrom h "pgml_blanks" (by decide),
    not_comesFrom h "document_pairs" (by decide), not_comesFrom h "block_markers" (by decide)]
  cases namedVariable? i.message with
  | none => rfl
  | some name =>
    refine (judgeVariable_eq e name).trans ?_
    by_cases hname : name = "ans".toList
    · rw [hname]
      simp only [true_and]
    · rw [if_neg fun hslip => hname hslip.1, if_neg fun hslip => hname (Option.some.inj hslip.1)]

/-- About the issues of all other checks there is no difference. -/
theorem judge_eq_of_other {e : Evidence} {i : Issue} (h : comesFrom i "pgml_blank_assignments" = false) :
    Cautious.judge e i = (Sweep.categorize e i).judgement := by
  simp only [Cautious.judge, Sweep.categorize, h, Bool.false_eq_true, if_false]
  split_ifs <;> rfl

/-- On a file that can be read the two verdicts on an issue agree, except on a slip for `$answer`, which only the
recheck takes for a bug. -/
theorem verdicts_agree_iff {bs : Bytes} {t : Text} (h : Utf8.readText bs = .ok t) (i : Issue) :
    (Cautious.judge (.ofBytes (some bs)) i = (Sweep.categorize (.ofBytes (some bs)) i).judgement ↔ ¬ Slip t i) ∧
    (Slip t i → Sweep.categorize (.ofBytes (some bs)) i = .falsePositive ∧
      Cautious.judge (.ofBytes (some bs)) i = .bug) := by
  rw [Evidence.ofBytes_of_readText h, slip_iff (e := ⟨some t, some t⟩) rfl rfl]
  by_cases hcheck : comesFrom i "pgml_blank_assignments" = true
  · rw [categorize_eq_of_unassigned hcheck, judge_eq_of_unassigned hcheck, and_iff_right hcheck]
    split
    · next hslip => exact ⟨iff_of_false nofun fun hnot => hnot hslip, fun _ => ⟨rfl, rfl⟩⟩
    · next hslip => exact ⟨iff_of_true rfl hslip, fun hnot => absurd hnot hslip⟩
  · rw [judge_eq_of_other (Bool.eq_false_iff.2 hcheck)]
    exact ⟨iff_of_true rfl fun hslip => hcheck hslip.1, fun hslip => absurd hslip.1 hcheck⟩

def unassignedIssue : Issue :=
  ⟨[("message", .str "PGML blank references $ans without assignment in file"), ("plugin", .str "pgml_blank_assignments")]⟩

def answerFile : Text := "$answer = f($ans);".toList

theorem verdicts_agree_iff_answer :
    Slip answerFile unassignedIssue ∧
      Sweep.categorize (.ofBytes (some (Utf8.encode answerFile))) unassignedIssue = .falsePositive ∧
      Cautious.judge (.ofBytes (some (Utf8.encode answerFile))) unassignedIssue = .bug := by
  have hslip : Slip answerFile unassignedIssue :=
    (slip_iff (e := ⟨some answerFile, some answerFile⟩) rfl rfl _).2 (by decide)
  exact ⟨hslip, (verdicts_agree_iff (Utf8.readText_encode (by decide)) _).2 hslip⟩

end Triage
end ProblemLint
