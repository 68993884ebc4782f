import ProblemLint.Proofs.MacroScan

/-! Calls of `loadMacros` as they may be written: names in quotes, commas, and any layout between them. Two readers
see them: the check for the form of the call, which goes line by line, and the reader of the program, which looks for
the balanced call in the whole text. Every such call passes the first, and the second finds just the names in it. -/

namespace ProblemLint

open Check.LoadMacros (isSpacing isSmartQuote callText quotesMeet quotesMeet_quote quotesMeet_other quotesMeet_others
  quotesMeet_blanks not_quote_of_isBlank isSpacing_iff isBlank_of_spacing flat_of_spacing)

/-- Spaces, tabs and line feeds between the tokens of a call. -/
structure Spacing where
  text : Text
  spacing : ∀ c ∈ text, isSpacing c = true

/-- A character that may stand in a name: neither a quote of whatever form, nor a backslash or a line break. -/
def isNameText (c : Char) : Bool := isLiteralChar c && !isSmartQuote c

/-- The name of a file of macros in quotes: at least one character, and the ending. -/
structure MacroName where
  stem : Text
  ending : Text
  quote : Char
  stem_ne_nil : stem ≠ []
  stem_plain : ∀ c ∈ stem, isNameText c = true
  ending_eq : ending = ".pl".toList ∨ ending = ".pg".toList
  quote_eq : quote = '\'' ∨ quote = '"'

/-- A name with the layout around it. -/
structure MacroEntry where
  before : Spacing
  name : MacroName
  after : Spacing

/-- A call: its entries, of which there is at least one, perhaps a comma behind the last one with layout after it, and
the layout between the closing parenthesis and the semicolon. -/
structure MacroCall where
  first : MacroEntry
  others : List MacroEntry
  trailing : Option Spacing
  gap : Spacing

namespace MacroName

def path (n : MacroName) : Text := n.stem ++ n.ending

def text (n : MacroName) : Text := n.quote :: (n.path ++ [n.quote])

theorem path_plain (n : MacroName) : ∀ c ∈ n.path, isLiteralChar c = true ∧ isSmartQuote c = false := by
  have hending : ∀ c ∈ n.ending, isNameText c = true := by
    rcases n.ending_eq with h | h <;> rw [h] <;> exact List.all_eq_true.1 rfl
  intro c hc
  simpa [isNameText] using List.forall_mem_append.2 ⟨n.stem_plain, hending⟩ c hc

end MacroName

namespace MacroEntry

def text (e : MacroEntry) : Text := e.before.text ++ (e.name.text ++ e.after.text)

end MacroEntry

namespace MacroCall

def list (c : MacroCall) : Text :=
  c.first.text ++ (c.others.flatMap (',' :: ·.text) ++ c.trailing.elim [] (',' :: ·.text))

def text (c : MacroCall) : Text := callText c.list c.gap.text

def paths (c : MacroCall) : List Text := (c.first :: c.others).map (·.name.path)

/-- What holds of spacing, names and commas, and of texts that are put together, holds of the list. -/
theorem list_induction {P : Text → Prop} (hnil : P []) (happend : ∀ s t, P s → P t → P (s ++ t))
    (hspacing : ∀ l : Spacing, P l.text) (hname : ∀ n : MacroName, P n.text) (hcomma : P [',']) (c : MacroCall) :
    P c.list := by
  have hentry (e : MacroEntry) : P e.text := happend _ _ (hspacing _) (happend _ _ (hname _) (hspacing _))
  have hothers (es : List MacroEntry) : P (es.flatMap (',' :: ·.text)) := by
    induction es with
    | nil => exact hnil
    | cons e es ih => exact happend (',' :: e.text) _ (happend [','] _ hcomma (hentry e)) ih
  have htrailing : P (c.trailing.elim [] (',' :: ·.text)) := by
    cases c.trailing with
    | none => exact hnil
    | some l => exact happend [','] _ hcomma (hspacing l)
  exact happend _ _ (hentry c.first) (happend _ _ (hothers c.others) htrailing)

theorem flat_list (c : MacroCall) : PlainCode IsFlat c.list :=
  c.list_induction .nil (fun _ _ hs ht => hs.append ht)
    (fun l => .of_forall fun x hx => flat_of_spacing (l.spacing x hx))
    (fun n => .literal n.quote_eq (fun x hx => (n.path_plain x hx).1) .nil)
    (.code ⟨.inl rfl, by decide, by decide⟩ .nil)

theorem not_smart_list (c : MacroCall) : ∀ x ∈ c.list, isSmartQuote x = false := by
  refine c.list_induction (P := fun t => ∀ x ∈ t, isSmartQuote x = false) (by simp)
    (fun s t hs ht => List.forall_mem_append.2 ⟨hs, ht⟩) (fun l x hx => ?_) (fun n => ?_)
    (List.forall_mem_singleton.2 rfl)
  · rcases isSpacing_iff.1 (l.spacing x hx) with rfl | rfl | rfl <;> rfl
  · have hquote : isSmartQuote n.quote = false := by rcases n.quote_eq with h | h <;> rw [h] <;> rfl
    exact List.forall_mem_cons.2 ⟨hquote, List.forall_mem_append.2
      ⟨fun x hx => (n.path_plain x hx).2, List.forall_mem_singleton.2 hquote⟩⟩

end MacroCall

/-! ### The list is accepted -/

theorem Spacing.isBlank (l : Spacing) : ∀ c ∈ l.text, Text.isBlank c = true :=
  fun c hc => isBlank_of_spacing (l.spacing c hc)

theorem MacroName.not_quote (n : MacroName) : ∀ c ∈ n.path, c ≠ '\'' ∧ c ≠ '"' := by
  intro c hc
  obtain ⟨hsingle, hdouble, -⟩ := isLiteralChar_iff.1 (n.path_plain c hc).1
  exact ⟨hsingle, hdouble⟩

/-- Behind a name a quote is near, and none was near in it: its ending is not blank. -/
theorem quotesMeet_name (n : MacroName) (r : Text) : quotesMeet false (n.text ++ r) = quotesMeet true r := by
  have hfilled : n.path.all Text.isBlank = false := by
    have hending : n.ending.all Text.isBlank = false := by rcases n.ending_eq with h | h <;> rw [h] <;> rfl
    rw [MacroName.path, List.all_append, hending, Bool.and_false]
  rw [MacroName.text, List.cons_append, List.append_assoc, quotesMeet_quote n.quote_eq,
    Bool.false_or, quotesMeet_others n.not_quote, hfilled, Bool.and_false, List.singleton_append,
    quotesMeet_quote n.quote_eq, Bool.false_or]

theorem quotesMeet_entry (e : MacroEntry) (r : Text) : quotesMeet false (e.text ++ r) = quotesMeet true r := by
  rw [MacroEntry.text, List.append_assoc, quotesMeet_blanks e.before.isBlank, List.append_assoc,
    quotesMeet_name, quotesMeet_blanks e.after.isBlank]

theorem quotesMeet_comma (near : Bool) (r : Text) : quotesMeet near (',' :: r) = quotesMeet false r := by
  rw [quotesMeet_other (by decide)]
  cases near <;> rfl

theorem MacroCall.quotesMeet_list (c : MacroCall) : quotesMeet false c.list = false := by
  have hothers (es : List MacroEntry) (r : Text) :
      quotesMeet true (es.flatMap (',' :: ·.text) ++ r) = quotesMeet true r := by
    induction es with
    | nil => rfl
    | cons e es ih =>
      rw [List.flatMap_cons, List.append_assoc, List.cons_append, quotesMeet_comma, quotesMeet_entry, ih]
  rw [MacroCall.list, quotesMeet_entry, hothers]
  cases c.trailing with
  | none => rfl
  | some l =>
    rw [Option.elim, quotesMeet_comma, ← List.append_nil l.text, quotesMeet_blanks l.isBlank]
    rfl

theorem MacroCall.listIssues_eq_nil (c : MacroCall) (n : Nat) : Check.LoadMacros.listIssues c.list n = [] := by
  refine Check.LoadMacros.listIssues_eq_nil c.not_smart_list ⟨c.first.name.quote, ?_, ?_⟩ c.quotesMeet_list n
  · simp [MacroCall.list, MacroEntry.text, MacroName.text]
  · rcases c.first.name.quote_eq with h | h <;> rw [h] <;> rfl

/-! ### The names are found -/

/-- The names of files in a text. -/
def fileNames (t : Text) : List Text := (occurrences fileNameAt? t).map (·.2)

theorem fileNames_from (before : Option Char) (pos : Nat) (t : Text) :
    (occurrencesFrom fileNameAt? 0 before pos t).map (·.2) = fileNames t := by
  induction pos with
  | zero =>
    have hbefore (t : Text) : fileNameAt? before t = fileNameAt? none t := by cases t <;> rfl
    rw [occurrencesFrom_before hbefore]
    rfl
  | succ pos ih =>
    rw [occurrencesFrom_succ, List.map_map]
    exact ih

theorem fileNames_other {c : Char} (hc : c ≠ '\'' ∧ c ≠ '"') (t : Text) : fileNames (c :: t) = fileNames t := by
  have hnone : fileNameAt? none (c :: t) = none := by simp [fileNameAt?, hc]
  rw [← fileNames_from (some c) 1 t, fileNames, occurrences, occurrencesFrom, hnone]

theorem fileNames_spacing (l : Spacing) (t : Text) : fileNames (l.text ++ t) = fileNames t := by
  obtain ⟨a, ha⟩ := l
  induction a with
  | nil => rfl
  | cons c a ih =>
    obtain ⟨hc, ha⟩ := List.forall_mem_cons.1 ha
    rw [List.cons_append, fileNames_other (not_quote_of_isBlank (isBlank_of_spacing hc)), ih ha]

theorem MacroName.fileNameAt?_text (n : MacroName) (before : Option Char) (t : Text) :
    fileNameAt? before (n.text ++ t) = some (n.path, n.path.length + 2) := by
  have htake : (n.path ++ n.quote :: t).takeWhile (fun c => c != '\'' && c != '"') = n.path := by
    rw [List.takeWhile_append_of_pos fun c hc => by simpa using n.not_quote c hc, List.takeWhile_cons_of_neg,
      List.append_nil]
    rcases n.quote_eq with h | h <;> simp [h]
  have hquote : (n.quote == '\'' || n.quote == '"') = true := by simpa using n.quote_eq
  have hends : (Text.endsWith n.path ".pl" || Text.endsWith n.path ".pg") = true := by
    simp only [Text.endsWith, Bool.or_eq_true, List.isSuffixOf_iff_suffix]
    rcases n.ending_eq with h | h
    · exact .inl (h ▸ List.suffix_append n.stem n.ending)
    · exact .inr (h ▸ List.suffix_append n.stem n.ending)
  have hlength : 4 ≤ n.path.length := by
    have hstem := List.length_pos_iff.2 n.stem_ne_nil
    have hending : n.ending.length = 3 := by rcases n.ending_eq with h | h <;> rw [h] <;> rfl
    rw [MacroName.path, List.length_append]
    omega
  rw [MacroName.text, List.cons_append, List.append_assoc, List.singleton_append, fileNameAt?, if_pos hquote]
  simp only [htake, hends, Bool.and_true, List.length_append, List.length_cons]
  rw [if_pos]
  simp only [Bool.and_eq_true, decide_eq_true_eq]
  omega

theorem fileNames_name (n : MacroName) (t : Text) : fileNames (n.text ++ t) = n.path :: fileNames t := by
  have hfound := n.fileNameAt?_text none t
  have hcons : n.text ++ t = n.quote :: (n.path ++ [n.quote] ++ t) := rfl
  obtain ⟨before, hskip⟩ := occurrencesFrom_skip fileNameAt? (n.path ++ [n.quote]) (some n.quote) 1 t
  rw [List.length_append, List.length_singleton] at hskip
  rw [hcons] at hfound
  rw [fileNames, occurrences, hcons, occurrencesFrom, hfound]
  simp only [List.map_cons]
  rw [show n.path.length + 2 - 1 = n.path.length + 1 from rfl, hskip, fileNames_from]

theorem fileNames_entry (e : MacroEntry) (t : Text) : fileNames (e.text ++ t) = e.name.path :: fileNames t := by
  rw [MacroEntry.text, List.append_assoc, fileNames_spacing, List.append_assoc, fileNames_name, fileNames_spacing]

theorem fileNames_comma (t : Text) : fileNames (',' :: t) = fileNames t := fileNames_other (by decide) t

theorem MacroCall.fileNames_list (c : MacroCall) : fileNames c.list = c.paths := by
  have hothers (es : List MacroEntry) (t : Text) :
      fileNames (es.flatMap (',' :: ·.text) ++ t) = es.map (·.name.path) ++ fileNames t := by
    induction es with
    | nil => rfl
    | cons e es ih =>
      rw [List.flatMap_cons, List.append_assoc, List.cons_append, fileNames_comma, fileNames_entry, ih]
      rfl
  have htrailing : fileNames (c.trailing.elim [] (',' :: ·.text)) = [] := by
    cases c.trailing with
    | none => rfl
    | some l =>
      rw [Option.elim, fileNames_comma, ← List.append_nil l.text, fileNames_spacing]
      rfl
  rw [MacroCall.list, fileNames_entry, hothers, htrailing, List.append_nil]
  rfl

/-! ### The call is found -/

def loaders : List String := sortedNames ["loadMacros", "includePGproblem"]

theorem mem_loaders {n : String} : n ∈ loaders ↔ n = "loadMacros" ∨ n = "includePGproblem" := by
  rw [loaders, mem_sortedNames_iff, List.mem_cons, List.mem_singleton]

theorem nameAt?_callText (list gap : Text) : Call.nameAt? loaders none (callText list gap) = some "loadMacros" := by
  unfold Call.nameAt?
  rw [Option.any_none, if_neg Bool.false_ne_true]
  cases hfind : loaders.find? _ with
  | none => exact absurd rfl (List.find?_eq_none.1 hfind "loadMacros" (mem_loaders.2 (.inl rfl)))
  | some n =>
    rcases mem_loaders.1 (List.mem_of_find?_eq_some hfind) with rfl | rfl
    · rfl
    · cases List.find?_some hfind

theorem delimited?_list {list : Text} (hlist : PlainCode IsFlat list) (r : Text) :
    delimited? '(' ')' ('(' :: (list ++ ')' :: r)) = some (list, r) := by
  have hopen : closeFrom '(' ')' {} 0 ('(' :: (list ++ ')' :: r)) =
      (closeFrom '(' ')' {} 1 (list ++ ')' :: r)).map (· + 1) := rfl
  rw [delimited?, if_pos (by decide), hopen, closeFrom_of_flat hlist]
  simp

theorem at?_callText {list : Text} (hlist : PlainCode IsFlat list) (gap : Text) :
    Call.at? loaders none (callText list gap) =
      some (some ⟨"loadMacros", list, 10, 10 + list.length + 2⟩, 10 + list.length + 2) := by
  have hdrop : (callText list gap).drop "loadMacros".length = '(' :: (list ++ ')' :: (gap ++ [';'])) := rfl
  have hblanks : ('(' :: (list ++ ')' :: (gap ++ [';']))).takeWhile Text.isBlank = [] := rfl
  rw [Call.at?, nameAt?_callText, Option.map_some]
  simp only [hdrop, hblanks, List.length_nil, List.drop_zero, delimited?_list hlist]
  rfl

theorem at?_none {c : Char} (hc : c ≠ 'l' ∧ c ≠ 'i') (before : Option Char) (r : Text) :
    Call.at? loaders before (c :: r) = none := by
  have hname : Call.nameAt? loaders before (c :: r) = none := by
    unfold Call.nameAt?
    split
    · rfl
    · refine List.find?_eq_none.2 fun n hn => ?_
      have hafter : Text.after? n.toList (c :: r) = none := by
        rcases mem_loaders.1 hn with rfl | rfl
        · simp [Text.after?, List.isPrefixOf?, hc.1.symm]
        · simp [Text.after?, List.isPrefixOf?, hc.2.symm]
      rw [hafter]
      exact Bool.false_ne_true
  rw [Call.at?, hname, Option.map_none]

/-- The call is the only one in its text, and its arguments are the list. -/
theorem all_callText {list gap : Text} (hlist : PlainCode IsFlat list) (hgap : ∀ c ∈ gap, isSpacing c = true)
    (newlines : NewlineIndex) :
    ∃ start stop line, Call.all ["loadMacros", "includePGproblem"] newlines (callText list gap) =
      [⟨"loadMacros", list, start, stop, line⟩] := by
  -- what the call covers after its first letter
  let covered : Text := "oadMacros(".toList ++ (list ++ [')'])
  have hcons : callText list gap = 'l' :: (covered ++ (gap ++ [';'])) := by
    simp only [covered, List.append_assoc]
    rfl
  have hlength : covered.length = 10 + list.length + 2 - 1 := by
    simp only [covered, List.length_append, List.length_singleton]
    rw [show "oadMacros(".toList.length = 10 from rfl]
    omega
  have hend : ∀ c ∈ gap ++ [';'], ∀ before r, Call.at? loaders before (c :: r) = none := by
    refine List.forall_mem_append.2 ⟨fun c hc => at?_none ?_, List.forall_mem_singleton.2 (at?_none (by decide))⟩
    rcases isSpacing_iff.1 (hgap c hc) with rfl | rfl | rfl <;> decide
  obtain ⟨before, hskip⟩ := occurrencesFrom_skip (Call.at? loaders) covered (some 'l') 1 (gap ++ [';'])
  have hat := at?_callText hlist gap
  rw [hlength] at hskip
  rw [hcons] at hat
  have hfound : occurrences (Call.at? loaders) (callText list gap) =
      [(0, some ⟨"loadMacros", list, 10, 10 + list.length + 2⟩)] := by
    rw [occurrences, hcons, occurrencesFrom, hat]
    simp only
    rw [hskip, occurrencesFrom_nil hend]
  unfold Call.all
  rw [← loaders, hfound]
  exact ⟨_, _, _, rfl⟩

theorem loadedMacros_callText {list gap : Text} (hlist : PlainCode IsFlat list) (hgap : ∀ c ∈ gap, isSpacing c = true) :
    loadedMacros (callText list gap) =
      sortedNames ((fileNames list).map fun n => String.ofList (Text.lower (baseName n))) := by
  obtain ⟨start, stop, line, hcalls⟩ := all_callText hlist hgap (.ofText (callText list gap))
  rw [loadedMacros, hcalls, fileNames, List.map_map]
  simp only [List.filter_cons, beq_self_eq_true, if_true, List.filter_nil, List.flatMap_singleton]
  rfl

/-- Every well-formed call is accepted and read back: the check of its form has nothing to report, and the macros that
are taken for loaded are the base names of the names in the list, in lower case. -/
theorem MacroCall.accepted_and_read (c : MacroCall) (path : Option Text) (blockRules : List BlockRule)
    (macroRules : List MacroRule) (version : Option Text) :
    let d := Document.ofText c.text path blockRules macroRules version
    Check.loadMacros.run d = .ok ⟨[], d⟩ ∧
      ∀ m, m ∈ d.macrosLoaded ↔ ∃ p ∈ c.paths, m = String.ofList (Text.lower (baseName p)) := by
  intro d
  have hplain := Check.LoadMacros.plain_callText c.flat_list c.gap.spacing
  have hissues := Check.LoadMacros.issues_callText c.flat_list c.gap.spacing c.listIssues_eq_nil
  have hrun : Check.loadMacros.run d = .ok ⟨Check.LoadMacros.issues c.text, d⟩ := rfl
  have hloaded : d.macrosLoaded = sortedNames (c.paths.map fun n => String.ofList (Text.lower (baseName n))) := by
    have hread : d.macrosLoaded = loadedMacros (stripHeredocs (stripComments c.text)) := rfl
    rw [hread, MacroCall.text, stripComments_of_plain hplain, stripHeredocs_of_plain hplain,
      loadedMacros_callText c.flat_list c.gap.spacing, c.fileNames_list]
  constructor
  · rw [hrun, MacroCall.text, hissues]
  · intro m
    rw [hloaded, mem_sortedNames_iff, List.mem_map]
    simp only [eq_comm]

/-- A call over several lines, with code characters in its names and a comma behind the last one. -/
def sampleCall : MacroCall where
  first :=
    { before := ⟨"\n  ".toList, List.all_eq_true.1 rfl⟩
      name := ⟨"PGstandard".toList, ".pl".toList, '"', by decide, List.all_eq_true.1 rfl, .inl rfl, .inr rfl⟩
      after := ⟨[], List.all_eq_true.1 rfl⟩ }
  others :=
    [{ before := ⟨"\n\t".toList, List.all_eq_true.1 rfl⟩
       name := ⟨"lib/A (#1), <<B)".toList, ".pg".toList, '\'', by decide, List.all_eq_true.1 rfl, .inr rfl, .inl rfl⟩
       after := ⟨"\n".toList, List.all_eq_true.1 rfl⟩ }]
  trailing := some ⟨" \n".toList, List.all_eq_true.1 rfl⟩
  gap := ⟨"\n\n ".toList, List.all_eq_true.1 rfl⟩

theorem sampleCall_accepted_and_read :
    sampleCall.text = "loadMacros(\n  \"PGstandard.pl\",\n\t'lib/A (#1), <<B).pg'\n, \n)\n\n ;".toList ∧
      let d := Document.ofText sampleCall.text none [] [] none
      Check.loadMacros.run d = .ok ⟨[], d⟩ ∧
        ∀ m, m ∈ d.macrosLoaded ↔ m = "pgstandard.pl" ∨ m = "a (#1), <<b).pg" := by
  obtain ⟨hrun, hloaded⟩ := sampleCall.accepted_and_read none [] [] none
  have hpaths : sampleCall.paths = ["PGstandard.pl".toList, "lib/A (#1), <<B).pg".toList] := rfl
  have hfirst : String.ofList (Text.lower (baseName "PGstandard.pl".toList)) = "pgstandard.pl" := by decide
  have hsecond : String.ofList (Text.lower (baseName "lib/A (#1), <<B).pg".toList)) = "a (#1), <<b).pg" := by decide
  refine ⟨rfl, hrun, fun m => (hloaded m).trans ?_⟩
  simp only [hpaths, List.mem_cons, List.not_mem_nil, or_false, exists_eq_or_imp, exists_eq_left, hfirst, hsecond]

end ProblemLint
