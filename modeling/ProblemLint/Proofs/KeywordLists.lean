import ProblemLint.Check.Header
import ProblemLint.Proofs.LineTexts
import ProblemLint.Proofs.Occurrences

/-! Keywords of a header. Keywords in quotes are found again one by one, whatever else they hold, so a header that
consists of them is judged by how many there are and by which of them repeat an earlier one. -/

namespace ProblemLint

/-! ### Sorted names -/

theorem pairwise_eraseReps_loop {a : String} {rest done : List String} (hdone : (a :: done).Pairwise (· > ·))
    (hrest : (a :: rest).Pairwise (· ≤ ·)) :
    (List.eraseRepsBy.loop (· == ·) a rest done).Pairwise (· < ·) := by
  induction rest generalizing a done with
  | nil =>
    rw [List.eraseRepsBy.loop]
    exact List.pairwise_reverse.2 hdone
  | cons b rest ih =>
    obtain ⟨hle, hsorted⟩ := List.pairwise_cons.1 hrest
    rw [List.eraseRepsBy.loop]
    split
    · exact ih hdone (List.pairwise_cons.2 ⟨fun c hc => hle c (List.mem_cons_of_mem b hc), hsorted.tail⟩)
    · next hne =>
      have hlt : a < b := by
        refine String.not_le.1 fun hge => ?_
        simp [String.le_antisymm (hle b List.mem_cons_self) hge] at hne
      refine ih (List.pairwise_cons.2 ⟨?_, hdone⟩) hsorted
      intro c hc
      rcases List.mem_cons.1 hc with rfl | hc
      · exact hlt
      · exact String.lt_trans ((List.pairwise_cons.1 hdone).1 c hc) hlt

theorem pairwise_sortedNames (names : List String) : (sortedNames names).Pairwise (· < ·) := by
  have hsorted : (names.mergeSort fun a b => a ≤ b).Pairwise (· ≤ ·) := by
    refine (List.pairwise_mergeSort ?_ ?_ names).imp fun h => of_decide_eq_true h
    · intro a b c hab hbc
      exact decide_eq_true (String.le_trans (of_decide_eq_true hab) (of_decide_eq_true hbc))
    · intro a b
      rw [Bool.or_eq_true, decide_eq_true_eq, decide_eq_true_eq]
      exact String.le_total a b
  unfold sortedNames List.eraseReps
  cases hlist : names.mergeSort fun a b => a ≤ b with
  | nil => exact List.Pairwise.nil
  | cons a rest =>
    rw [hlist] at hsorted
    exact pairwise_eraseReps_loop (List.pairwise_singleton _ _) hsorted

namespace Check.Header

/-! ### Quoted keywords -/

/-- A keyword that can be given in quotes. -/
structure IsKeyword (k : Text) : Prop where
  filled : ∃ c ∈ k, Text.isBlank c = false
  unquoted : ∀ c ∈ k, isQuote c = false
  inLine : ∀ c ∈ k, Text.isLineBreak c = false

def inQuotes (k : Text) : Text := '\'' :: (k ++ ['\''])

def quotedList (ks : List Text) : Text := Text.join "," (ks.map inQuotes)

def keywordLine (ks : List Text) : Text := "## KEYWORDS(".toList ++ (quotedList ks ++ [')'])

theorem quotedList_singleton (k : Text) : quotedList [k] = inQuotes k := by
  rw [quotedList, List.map_singleton, Text.join_singleton]

theorem quotedList_cons_cons (k l : Text) (ks : List Text) :
    quotedList (k :: l :: ks) = inQuotes k ++ ([','] ++ quotedList (l :: ks)) := by
  rw [quotedList, List.map_cons, List.map_cons, Text.join_cons_cons, ← List.map_cons, ← quotedList]
  rfl

theorem head?_quotedList {ks : List Text} (hne : ks ≠ []) : (quotedList ks).head? = some '\'' := by
  cases ks with
  | nil => exact absurd rfl hne
  | cons k ks =>
    cases ks with
    | nil => rfl
    | cons l ks =>
      rw [quotedList_cons_cons]
      rfl

theorem getLast?_quotedList {ks : List Text} (hne : ks ≠ []) : (quotedList ks).getLast? = some '\'' := by
  induction ks with
  | nil => exact absurd rfl hne
  | cons k ks ih =>
    cases ks with
    | nil =>
      rw [quotedList_singleton, inQuotes, ← List.cons_append, List.getLast?_concat]
    | cons l ks =>
      have hlast := ih (List.cons_ne_nil l ks)
      rw [quotedList_cons_cons, List.getLast?_append, List.getLast?_append, hlast]
      rfl

theorem quotedAt?_inQuotes {k : Text} (hk : ∀ c ∈ k, isQuote c = false) (before : Option Char) (rest : Text) :
    quotedAt? before (inQuotes k ++ rest) = some (k, (inQuotes k).length) := by
  have htake : (k ++ ['\''] ++ rest).takeWhile (!isQuote ·) = k := by
    rw [List.append_assoc]
    exact takeWhile_append_stop (fun c hc => by rw [hk c hc]; rfl) rfl
  have hlength : k.length < (k ++ ['\''] ++ rest).length := by simp
  rw [inQuotes, List.cons_append, quotedAt?]
  simp only [htake, hlength, decide_true]
  rw [if_pos (by decide), List.length_cons, List.length_append, List.length_singleton]

theorem occurrencesFrom_comma (before : Option Char) (pos : Nat) (rest : Text) :
    occurrencesFrom quotedAt? 0 before pos (',' :: rest) = occurrencesFrom quotedAt? 0 (some ',') (pos + 1) rest := rfl

/-- No quote of one keyword is taken together with a quote of the next. -/
theorem occurrencesFrom_quotedList {ks : List Text} (hks : ∀ k ∈ ks, IsKeyword k) (before : Option Char) (pos : Nat) :
    (occurrencesFrom quotedAt? 0 before pos (quotedList ks)).map (·.2) = ks := by
  induction ks generalizing before pos with
  | nil => rfl
  | cons k ks ih =>
    obtain ⟨hk, hks⟩ := List.forall_mem_cons.1 hks
    cases ks with
    | nil =>
      obtain ⟨before', hfound⟩ := occurrencesFrom_found (by simp [inQuotes]) (quotedAt?_inQuotes hk.unquoted before []) pos
      rw [quotedList_singleton, ← List.append_nil (inQuotes k), hfound]
      rfl
    | cons l ks =>
      obtain ⟨before', hfound⟩ := occurrencesFrom_found (by simp [inQuotes])
        (quotedAt?_inQuotes hk.unquoted before ([','] ++ quotedList (l :: ks))) pos
      rw [quotedList_cons_cons, hfound, List.map_cons, List.singleton_append, occurrencesFrom_comma, ih hks]

theorem IsKeyword.trim_ne_nil {k : Text} (hk : IsKeyword k) : Text.trim k ≠ [] := by
  obtain ⟨c, hc, hblank⟩ := hk.filled
  exact List.ne_nil_of_mem (Text.mem_trim hc hblank)

theorem keywordsOf_quotedList {ks : List Text} (hne : ks ≠ []) (hks : ∀ k ∈ ks, IsKeyword k) :
    keywordsOf (quotedList ks) = ks.map Text.trim := by
  have hquoted : ((occurrences quotedAt? (quotedList ks)).map fun x => Text.trim x.2).filter (!·.isEmpty) =
      ks.map Text.trim := by
    have hvalues : ((occurrences quotedAt? (quotedList ks)).map fun x => Text.trim x.2) = ks.map Text.trim := by
      have hfound := congrArg (List.map Text.trim) (occurrencesFrom_quotedList hks none 0)
      rwa [List.map_map] at hfound
    rw [hvalues, List.filter_eq_self]
    intro w hw
    obtain ⟨k, hk, rfl⟩ := List.mem_map.1 hw
    simpa using (hks k hk).trim_ne_nil
  have hfilled : (ks.map Text.trim).isEmpty = false := by simpa using hne
  rw [keywordsOf]
  simp only [hquoted, hfilled]
  rfl

/-! ### Repeated keywords -/

/-- How keywords are compared: without the blanks around them, and in small letters. -/
def keyOf (k : Text) : Text := Text.lower (Text.trim k)

/-- A keyword that comes after one of the same key. -/
def Repeats (ks : List Text) (k : Text) : Prop := ∃ u v, ks = u ++ k :: v ∧ keyOf k ∈ u.map keyOf

theorem exists_split_cons {y w : Text} {ws : List Text} {P : List Text → Prop} :
    (∃ u v, y :: ws = u ++ w :: v ∧ P u) ↔ (w = y ∧ P []) ∨ ∃ u v, ws = u ++ w :: v ∧ P (y :: u) := by
  constructor
  · rintro ⟨u, v, hws, h⟩
    rcases List.cons_eq_append_iff.1 hws with ⟨rfl, hhead⟩ | ⟨u, rfl, hrest⟩
    · exact .inl ⟨(List.cons.inj hhead).1, h⟩
    · exact .inr ⟨u, v, hrest, h⟩
  · rintro (⟨rfl, h⟩ | ⟨u, v, rfl, h⟩)
    · exact ⟨[], ws, rfl, h⟩
    · exact ⟨y :: u, v, rfl, h⟩

theorem mem_repeatedFrom_iff {seen ws : List Text} {w : Text} :
    w ∈ repeatedFrom seen ws ↔ ∃ u v, ws = u ++ w :: v ∧ Text.lower w ∈ seen ++ u.map Text.lower := by
  induction ws generalizing seen with
  | nil => simp [repeatedFrom]
  | cons y ws ih =>
    rw [exists_split_cons, List.map_nil, List.append_nil, repeatedFrom]
    simp only [List.contains_iff_mem]
    split
    · next hseen =>
      have hkeys (u : List Text) : Text.lower w ∈ seen ++ (y :: u).map Text.lower ↔
          Text.lower w ∈ seen ++ u.map Text.lower := by
        rw [List.map_cons, List.mem_append, List.mem_append, List.mem_cons]
        grind
      simp only [List.mem_cons, ih, hkeys]
      refine or_congr_left ⟨fun h => ⟨h, h ▸ hseen⟩, fun h => h.1⟩
    · next hseen =>
      have hkeys (u : List Text) : Text.lower w ∈ seen ++ (y :: u).map Text.lower ↔
          Text.lower w ∈ (Text.lower y :: seen) ++ u.map Text.lower := by
        simp only [List.map_cons, List.mem_append, List.mem_cons]
        grind
      simp only [ih, hkeys]
      refine (or_iff_right fun h => ?_).symm
      exact hseen (h.1 ▸ h.2)

theorem mem_repeatedFrom_map_trim_iff {ks : List Text} {w : Text} :
    w ∈ repeatedFrom [] (ks.map Text.trim) ↔ ∃ k, Repeats ks k ∧ w = Text.trim k := by
  rw [mem_repeatedFrom_iff]
  constructor
  · rintro ⟨u, v, hks, h⟩
    obtain ⟨u, r, rfl, rfl, hr⟩ := List.map_eq_append_iff.1 hks
    obtain ⟨k, v, rfl, rfl, rfl⟩ := List.map_eq_cons_iff.1 hr
    rw [List.nil_append, List.map_map] at h
    exact ⟨k, ⟨u, v, rfl, h⟩, rfl⟩
  · rintro ⟨k, ⟨u, v, rfl, h⟩, rfl⟩
    refine ⟨u.map Text.trim, v.map Text.trim, by rw [List.map_append, List.map_cons], ?_⟩
    rwa [List.nil_append, List.map_map]

theorem nodup_of_not_repeats {ks : List Text} (h : ∀ k, ¬ Repeats ks k) : (ks.map keyOf).Nodup := by
  induction ks using List.reverseRecOn with
  | nil => exact List.nodup_nil
  | append_singleton ks k ih =>
    have hks : (ks.map keyOf).Nodup := by
      apply ih
      rintro x ⟨u, v, rfl, hx⟩
      exact h x ⟨u, v ++ [k], by rw [List.append_assoc, List.cons_append], hx⟩
    have hk : keyOf k ∉ ks.map keyOf := fun hmem => h k ⟨ks, [], rfl, hmem⟩
    rw [List.map_append, List.map_singleton, ← List.concat_eq_append]
    exact hks.concat hk

theorem exists_repeats_iff {ks : List Text} : (∃ k, Repeats ks k) ↔ ¬ (ks.map keyOf).Nodup := by
  constructor
  · rintro ⟨k, u, v, rfl, h⟩ hnodup
    rw [List.map_append, List.map_cons, List.nodup_append] at hnodup
    exact hnodup.2.2 _ h _ List.mem_cons_self rfl
  · intro h
    by_contra hnone
    exact h (nodup_of_not_repeats (not_exists.1 hnone))

theorem mem_repeatedKeywords_iff {ks : List Text} {s : String} :
    s ∈ repeatedKeywords (ks.map Text.trim) ↔ ∃ k, Repeats ks k ∧ s = String.ofList (Text.trim k) := by
  rw [repeatedKeywords, mem_sortedNames_iff, List.mem_map]
  constructor
  · rintro ⟨w, hw, rfl⟩
    obtain ⟨k, hk, rfl⟩ := mem_repeatedFrom_map_trim_iff.1 hw
    exact ⟨k, hk, rfl⟩
  · rintro ⟨k, hk, rfl⟩
    exact ⟨Text.trim k, mem_repeatedFrom_map_trim_iff.2 ⟨k, hk, rfl⟩, rfl⟩

theorem repeatedKeywords_eq_nil_iff {ks : List Text} :
    repeatedKeywords (ks.map Text.trim) = [] ↔ (ks.map keyOf).Nodup := by
  rw [← not_iff_not, ← exists_repeats_iff, List.eq_nil_iff_forall_not_mem, not_forall]
  constructor
  · rintro ⟨s, hs⟩
    obtain ⟨k, hk, -⟩ := mem_repeatedKeywords_iff.1 (not_not.1 hs)
    exact ⟨k, hk⟩
  · rintro ⟨k, hk⟩
    exact ⟨_, not_not.2 (mem_repeatedKeywords_iff.2 ⟨k, hk, rfl⟩)⟩

/-! ### The header -/

/-- A line is all of the header: only blank lines stand before it, and the next line that is not blank does not belong
to the header. -/
def IsHeader (t : Text) (n : Nat) (line : Text) : Prop :=
  ∃ before after, Text.lineTexts t = before ++ line :: after ∧ n = before.length + 1 ∧
    (∀ l ∈ before, Text.isAllBlank l = true) ∧
    ∀ l, after.find? (fun l => !Text.isAllBlank l) = some l → Text.startsWith (Text.trimStart l) "##" = false

theorem isEmpty_trim (l : Text) : (Text.trim l).isEmpty = Text.isAllBlank l := by
  rw [Bool.eq_iff_iff, List.isEmpty_iff, Text.trim_eq_nil_iff]

theorem linesOf_eq (t : Text) :
    linesOf t = ((numberedLines t).filter fun x => !Text.isAllBlank x.2).takeWhile fun x =>
      Text.startsWith (Text.trimStart x.2) "##" := by
  simp only [← isEmpty_trim]
  rfl

theorem takeWhile_filter_eq_nil {p q : Text → Bool} {xs : List (Nat × Text)}
    (h : ∀ l, (xs.map (·.2)).find? p = some l → q l = false) :
    ((xs.filter fun x => p x.2).takeWhile fun x => q x.2) = [] := by
  have hfirst : (xs.filter fun x => p x.2).head?.map (·.2) = (xs.map (·.2)).find? p := by
    rw [List.head?_filter, List.find?_map]
    rfl
  cases hlist : xs.filter fun x => p x.2 with
  | nil => rfl
  | cons x rest =>
    rw [hlist, List.head?_cons, Option.map_some] at hfirst
    exact List.takeWhile_cons_of_neg (by simpa using h x.2 hfirst.symm)

theorem linesOf_of_isHeader {t : Text} {n : Nat} {line : Text} (h : IsHeader t n line)
    (hfilled : Text.isAllBlank line = false) (hline : Text.startsWith (Text.trimStart line) "##" = true) :
    linesOf t = [(n, line)] := by
  obtain ⟨before, after, ht, rfl, hbefore, hafter⟩ := h
  have hblank : (before.mapIdx fun i l => (i + 1, l)).filter (fun x => !Text.isAllBlank x.2) = [] := by
    rw [List.filter_eq_nil_iff]
    intro x hx
    obtain ⟨i, hi, rfl⟩ := List.mem_mapIdx.1 hx
    simp [hbefore _ (List.getElem_mem hi)]
  rw [linesOf_eq, numberedLines, ht, List.mapIdx_append, List.mapIdx_cons, List.filter_append, hblank, List.nil_append,
    List.filter_cons_of_pos (by simp [hfilled]), List.takeWhile_cons_of_pos (by exact hline),
    takeWhile_filter_eq_nil (p := fun l => !Text.isAllBlank l) (q := fun l => Text.startsWith (Text.trimStart l) "##"),
    Nat.zero_add]
  intro l hl
  refine hafter l ?_
  have htexts : (after.mapIdx fun i l => (i + 1 + before.length + 1, l)).map (·.2) = after := by
    refine List.ext_getElem (by simp) fun i _ _ => ?_
    rw [List.getElem_map, List.getElem_mapIdx]
  rwa [htexts] at hl

theorem getLast?_keywordLine (ks : List Text) : (keywordLine ks).getLast? = some ')' := by
  unfold keywordLine
  generalize "## KEYWORDS(".toList = lead
  rw [← List.append_assoc, List.getLast?_concat]

theorem keywordText?_keywordLine {ks : List Text} (hne : ks ≠ []) :
    keywordText? (keywordLine ks) = some (quotedList ks) := by
  have htrim : Text.trim (keywordLine ks) = keywordLine ks := by
    refine Text.trim_eq_self rfl ?_
    rw [getLast?_keywordLine]
    rfl
  have hmarks : Text.after? "##".toList (keywordLine ks) = some (" KEYWORDS(".toList ++ (quotedList ks ++ [')'])) :=
    Text.after?_eq_some_iff.2 rfl
  have htag : Text.after? "KEYWORDS".toList (Text.trimStart (" KEYWORDS(".toList ++ (quotedList ks ++ [')']))) =
      some ('(' :: (quotedList ks ++ [')'])) :=
    Text.after?_eq_some_iff.2 rfl
  have hopen : Text.after? ['('] (Text.trimStart ('(' :: (quotedList ks ++ [')']))) = some (quotedList ks ++ [')']) :=
    Text.after?_eq_some_iff.2 rfl
  have hlist : Text.trim (quotedList ks) = quotedList ks := by
    refine Text.trim_eq_self ?_ ?_
    · rw [head?_quotedList hne]
      rfl
    · rw [getLast?_quotedList hne]
      rfl
  simp only [keywordText?, htrim, hmarks, htag, hopen, bind, Option.bind_some, List.getLast?_concat, beq_self_eq_true,
    if_true, List.dropLast_concat, hlist]

theorem read_keywordLine {ks : List Text} (hne : ks ≠ []) (n : Nat) :
    Tags.read {} (n, keywordLine ks) =
      { issues :=
          if (keywordLine ks).any isSmartPunctuation then
            [.onLine .warning "Header contains smart quotes or non-ASCII punctuation" n]
          else []
        keywords := some (quotedList ks, n) } := by
  have hstart : Text.trimStart (keywordLine ks) = keywordLine ks := rfl
  have hdescription : Text.startsWith (keywordLine ks) "## DESCRIPTION" = false := rfl
  have hend : Text.startsWith (keywordLine ks) "## ENDDESCRIPTION" = false := rfl
  have hkeywords : Text.startsWith (keywordLine ks) "## KEYWORDS" = true := rfl
  have hsubject : tagValue? (keywordLine ks) "DBsubject" = none := rfl
  have hchapter : tagValue? (keywordLine ks) "DBchapter" = none := rfl
  have hdivision : tagValue? (keywordLine ks) "DBsection" = none := rfl
  by_cases hsmart : (keywordLine ks).any isSmartPunctuation = true
  · simp only [Tags.read, hstart, hdescription, hend, hkeywords, hsubject, hchapter, hdivision,
      keywordText?_keywordLine hne, hsmart, if_true]
    rfl
  · simp only [Tags.read, hstart, hdescription, hend, hkeywords, hsubject, hchapter, hdivision,
      keywordText?_keywordLine hne, hsmart]
    rfl

/-! ### Issues -/

def Reports (issues : List Issue) (m : String) : Prop := ∃ i ∈ issues, i.message = m.toList

theorem reports_append {xs ys : List Issue} {m : String} : Reports (xs ++ ys) m ↔ Reports xs m ∨ Reports ys m := by
  simp only [Reports, List.mem_append, or_and_right, exists_or]

theorem reports_onLine {severity : Severity} {m m' : String} {n : Nat} :
    Reports [.onLine severity m' n] m ↔ m = m' := by
  have hmessage : (Issue.onLine severity m' n).message = m'.toList := rfl
  simp only [Reports, List.mem_singleton, exists_eq_left, hmessage, String.toList_inj, eq_comm]

theorem not_reports_nil (m : String) : ¬ Reports [] m := by
  rintro ⟨i, hi, -⟩
  cases hi

theorem reports_ite {p : Prop} [Decidable p] {severity : Severity} {m m' : String} {n : Nat} :
    Reports (if p then [.onLine severity m' n] else []) m ↔ p ∧ m = m' := by
  split
  · next h => rw [reports_onLine, and_iff_right h]
  · next h => exact iff_of_false (not_reports_nil m) fun hp => h hp.1

def duplicatesTitle : String := "KEYWORDS contains duplicates: "

theorem reports_keywordIssues {ks : List Text} (hne : ks ≠ []) (hks : ∀ k ∈ ks, IsKeyword k) (n : Nat) (m : String) :
    Reports (keywordIssues (quotedList ks) n) m ↔
      (ks.length < 3 ∧ m = "KEYWORDS should include at least 3 entries") ∨
      (10 < ks.length ∧ m = "KEYWORDS should include at most 10 entries") ∨
      (¬ (ks.map keyOf).Nodup ∧
        m = duplicatesTitle ++ ", ".intercalate (repeatedKeywords (ks.map Text.trim))) := by
  have hfilled : (ks.map Text.trim).isEmpty = false := by simpa using hne
  simp only [keywordIssues, keywordsOf_quotedList hne hks, hfilled, List.length_map, Bool.false_eq_true, if_false,
    reports_append, reports_ite, or_assoc]
  refine or_congr_right (or_congr_right ?_)
  rw [← repeatedKeywords_eq_nil_iff]
  split
  · next h => exact iff_of_false (not_reports_nil m) fun hnot => hnot.1 h
  · next hnames => rw [reports_onLine, and_iff_right hnames, duplicatesTitle]

theorem ne_duplicates {m : String} (h : ¬ List.IsPrefix duplicatesTitle.toList m.toList) (names : String) :
    m ≠ duplicatesTitle ++ names := by
  rintro rfl
  rw [String.toList_append] at h
  exact h (List.prefix_append _ _)

/-- What may be reported about a header of keywords that has nothing to do with them. -/
def otherMessages : List String :=
  [ "Header contains smart quotes or non-ASCII punctuation", "Missing DESCRIPTION block in header"
  , "Missing DBsubject tag in header", "Missing DBchapter tag in header", "Missing DBsection tag in header" ]

/-- The keywords of a header that is one line are judged as their list is. -/
theorem reports_issues {ks : List Text} (hne : ks ≠ []) {t : Text} {n : Nat} (ht : IsHeader t n (keywordLine ks))
    {m : String} (hm : m ∉ otherMessages) :
    Reports (issues t) m ↔ Reports (keywordIssues (quotedList ks) n) m := by
  have hlines : linesOf t = [(n, keywordLine ks)] := linesOf_of_isHeader ht rfl rfl
  have hchapter : "Missing " ++ "DBchapter" ++ " tag in header" = "Missing DBchapter tag in header" := by decide
  have hdivision : "Missing " ++ "DBsection" ++ " tag in header" = "Missing DBsection tag in header" := by decide
  simp only [otherMessages, List.mem_cons, List.not_mem_nil, or_false, not_or] at hm
  rw [issues, hlines, List.foldl_cons, List.foldl_nil, read_keywordLine hne]
  simp only [Tags.descriptionIssues, subjectIssues, divisionIssues, reports_append, reports_ite, reports_onLine,
    hchapter, hdivision, hm, and_false, or_false, false_or]

section

variable {ks : List Text} {t : Text} {n : Nat}

/-- All other messages about keywords are about their number. -/
theorem reports_number_iff (hne : ks ≠ []) (hks : ∀ k ∈ ks, IsKeyword k) (ht : IsHeader t n (keywordLine ks)) {m : String}
    (hm : m ∉ otherMessages) (hstart : ¬ List.IsPrefix duplicatesTitle.toList m.toList) :
    Reports (issues t) m ↔
      (ks.length < 3 ∧ m = "KEYWORDS should include at least 3 entries") ∨
      (10 < ks.length ∧ m = "KEYWORDS should include at most 10 entries") := by
  rw [reports_issues hne ht hm, reports_keywordIssues hne hks]
  refine or_congr_right (or_iff_left fun h => ?_)
  exact ne_duplicates hstart _ h.2

/-- The message about repeated keywords is unlike all others. -/
theorem reports_duplicates_iff (hne : ks ≠ []) (hks : ∀ k ∈ ks, IsKeyword k) (ht : IsHeader t n (keywordLine ks))
    (names : String) :
    Reports (issues t) (duplicatesTitle ++ names) ↔
      ¬ (ks.map keyOf).Nodup ∧ names = ", ".intercalate (repeatedKeywords (ks.map Text.trim)) := by
  have hother : duplicatesTitle ++ names ∉ otherMessages := by
    intro hmem
    have hstart : ∀ m ∈ otherMessages, ¬ List.IsPrefix duplicatesTitle.toList m.toList := by decide
    exact ne_duplicates (hstart _ hmem) names rfl
  rw [reports_issues hne ht hother, reports_keywordIssues hne hks, String.append_right_inj]
  refine ⟨?_, fun h => .inr (.inr h)⟩
  rintro (h | h | h)
  · exact absurd h.2.symm (ne_duplicates (by decide) names)
  · exact absurd h.2.symm (ne_duplicates (by decide) names)
  · exact h

end

/-- What is reported about keywords. -/
structure KeywordReport (ks : List Text) (issues : List Issue) : Prop where
  wellFormed : ¬ Reports issues "KEYWORDS tag is malformed; expected KEYWORDS('k1','k2',...)"
  notMissing : ¬ Reports issues "Missing KEYWORDS tag in header"
  notEmpty : ¬ Reports issues "KEYWORDS tag is empty"
  few : Reports issues "KEYWORDS should include at least 3 entries" ↔ ks.length < 3
  many : Reports issues "KEYWORDS should include at most 10 entries" ↔ 10 < ks.length
  /-- Two keywords at different places have the same key. -/
  duplicates : (∃ names, Reports issues (duplicatesTitle ++ names)) ↔ ¬ (ks.map keyOf).Nodup
  /-- The names are those spellings that repeat an earlier keyword, in order and each once. -/
  spellings : ∀ names, Reports issues (duplicatesTitle ++ names) → ∃ words : List String,
    names = ", ".intercalate words ∧ words.Pairwise (· < ·) ∧
      ∀ w, w ∈ words ↔ ∃ k, Repeats ks k ∧ w = String.ofList (Text.trim k)

/-- A header of quoted keywords is well formed, and it is judged by their number and by those that repeat others. -/
theorem keywords_reported {ks : List Text} (hne : ks ≠ []) (hks : ∀ k ∈ ks, IsKeyword k) {d : Document} {n : Nat}
    (hd : IsHeader d.text n (keywordLine ks)) :
    ∃ issues, headerTags.run d = .ok ⟨issues, d⟩ ∧ KeywordReport ks issues := by
  have hnumber {m : String} (hm : m ∉ otherMessages) (hstart : ¬ List.IsPrefix duplicatesTitle.toList m.toList) :=
    reports_number_iff hne hks hd hm hstart
  have hduplicates := reports_duplicates_iff hne hks hd
  refine ⟨issues d.text, rfl, ?_, ?_, ?_, ?_, ?_, ?_, ?_⟩
  · rw [hnumber (by decide) (by decide)]
    simp
  · rw [hnumber (by decide) (by decide)]
    simp
  · rw [hnumber (by decide) (by decide)]
    simp
  · rw [hnumber (by decide) (by decide)]
    simp
  · rw [hnumber (by decide) (by decide)]
    simp
  · simp only [hduplicates, exists_and_left, exists_eq, and_true]
  · intro names h
    refine ⟨repeatedKeywords (ks.map Text.trim), ((hduplicates names).1 h).2, pairwise_sortedNames _, fun w => ?_⟩
    exact mem_repeatedKeywords_iff

/-- Two spellings of one keyword, and a keyword with parentheses and a comma. -/
def sampleKeywords : List Text := ["algebra".toList, " Algebra\t".toList, "f(x), g".toList]

/-- A document whose header gives them below an empty line. -/
def sampleDocument : Document where
  text := "\n## KEYWORDS('algebra',' Algebra\t','f(x), g')\n\nDOCUMENT();\n".toList

theorem keywords_reported_sample :
    ∃ issues, headerTags.run sampleDocument = .ok ⟨issues, sampleDocument⟩ ∧ KeywordReport sampleKeywords issues ∧
      ∃ names, Reports issues (duplicatesTitle ++ names) := by
  have hkeyword {k : Text} (hfilled : (k.any fun c => !Text.isBlank c) = true)
      (hplain : (k.all fun c => !isQuote c && !Text.isLineBreak c) = true) : IsKeyword k := by
    simp only [List.any_eq_true, List.all_eq_true, Bool.and_eq_true, Bool.not_eq_true'] at hfilled hplain
    exact ⟨hfilled, fun c hc => (hplain c hc).1, fun c hc => (hplain c hc).2⟩
  have hkeywords : ∀ k ∈ sampleKeywords, IsKeyword k := by
    refine List.forall_mem_cons.2 ⟨hkeyword rfl rfl, List.forall_mem_cons.2 ⟨hkeyword rfl rfl, ?_⟩⟩
    exact List.forall_mem_singleton.2 (hkeyword rfl rfl)
  have hheader : IsHeader sampleDocument.text 2 (keywordLine sampleKeywords) := by
    refine ⟨[[]], [[], "DOCUMENT();".toList], by decide, rfl, by decide, fun l hl => ?_⟩
    cases hl
    rfl
  obtain ⟨issues, hrun, hreport⟩ := keywords_reported (by decide) hkeywords hheader
  exact ⟨issues, hrun, hreport, hreport.duplicates.2 (by decide)⟩

end Check.Header
end ProblemLint
