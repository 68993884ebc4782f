import ProblemLint.Proofs.Assignments

/-! Assignments to lists. A list of any number of scalars in parentheses, with commas between them and white space
wherever it may stand, and an equals sign behind it, assigns its scalars and nothing else. -/

namespace ProblemLint.Variable

open Text (IsGap)

/-- A scalar of a list with the white space around it. -/
structure ListedScalar where
  before : Text
  name : Text
  after : Text
  before_gap : IsGap before
  isName : IsName name
  after_gap : IsGap after

/-- An assignment to a list of scalars, with white space before it, and what follows its equals sign. -/
structure ListAssignment where
  lead : Text
  first : ListedScalar
  others : List ListedScalar
  gap : Text
  rest : Text
  lead_gap : IsGap lead
  gap_gap : IsGap gap
  rest_plain : ∀ c ∈ ['$', '@', '%'], c ∉ rest

def ListedScalar.text (i : ListedScalar) : Text := i.before ++ '$' :: (i.name ++ i.after)

def closedList (i : ListedScalar) : List ListedScalar → Text
  | [] => i.text ++ [')']
  | j :: js => i.text ++ ',' :: closedList j js

namespace ListAssignment

variable (l : ListAssignment)

def text : Text := l.lead ++ '(' :: (closedList l.first l.others ++ (l.gap ++ '=' :: l.rest))

def names : List Text := (l.first :: l.others).map (·.name)

end ListAssignment

theorem isSeparator_of_isGap {g : Text} (h : IsGap g) : IsSeparator g :=
  ⟨g, [], h, List.forall_mem_nil _, .inl (List.append_nil g).symm⟩

theorem exists_scalarList (i : ListedScalar) (js : List ListedScalar) :
    ∃ w, ScalarList ((i :: js).map (·.name)) w ∧ closedList i js = i.before ++ w := by
  induction js generalizing i with
  | nil => exact ⟨_, .last i.isName (isSeparator_of_isGap i.after_gap), by simp [closedList, ListedScalar.text]⟩
  | cons j js ih =>
    obtain ⟨w, hw, htext⟩ := ih j
    have hs : IsSeparator (i.after ++ ',' :: j.before) := ⟨_, _, i.after_gap, j.before_gap, .inr rfl⟩
    exact ⟨_, .cons i.isName hs hw, by simp [closedList, ListedScalar.text, htext]⟩

/-- A sigil as a list has it, by what is before and after it: a dollar sign behind a comma or the opening parenthesis,
with a name and then a comma or the closing parenthesis behind it. -/
structure InList (u : Text) (c : Char) (v : Text) : Prop where
  dollar : c = '$'
  before : ∃ u' e g, u = u' ++ e :: g ∧ e ∈ ['(', ','] ∧ IsGap g
  after : ∃ n g d v', v = n ++ (g ++ d :: v') ∧ IsName n ∧ IsGap g ∧ d ∈ [',', ')']

theorem InList.append {u v : Text} {c : Char} (h : InList u c v) (p : Text) : InList (p ++ u) c v := by
  obtain ⟨u', e, g, rfl, he, hg⟩ := h.before
  exact ⟨h.dollar, ⟨p ++ u', e, g, by simp, he, hg⟩, h.after⟩

theorem ListedScalar.inList_or_behind {i : ListedScalar} {u v x : Text} {e d c : Char} (he : e ∈ ['(', ','])
    (hd : d ∈ [',', ')']) (hc : c ∈ ['$', '@', '%']) (h : u ++ c :: v = e :: (i.text ++ d :: x)) :
    InList u c v ∨ ∃ u', u = e :: i.text ++ u' ∧ d :: x = u' ++ c :: v := by
  obtain ⟨hname, hblank, -⟩ := sigil_plain hc
  have htext : u ++ c :: v = (e :: i.before) ++ ('$' :: (i.name ++ (i.after ++ d :: x))) := by
    rw [h, ListedScalar.text]
    simp
  have hfirst : c ∉ e :: i.before := by
    rw [List.mem_cons, not_or]
    refine ⟨?_, i.before_gap.not_mem hblank⟩
    rintro rfl
    revert hc
    rcases List.mem_pair.1 he with rfl | rfl <;> decide
  obtain ⟨u₁, rfl, hdollar⟩ := Text.split_behind htext hfirst
  cases u₁ with
  | nil =>
    obtain ⟨rfl, rfl⟩ := List.cons.inj hdollar
    left
    exact ⟨rfl, ⟨[], e, i.before, by simp, he, i.before_gap⟩, i.name, i.after, d, x, rfl, i.isName, i.after_gap, hd⟩
  | cons d' u₁ =>
    obtain ⟨rfl, hrest⟩ := List.cons.inj hdollar
    obtain ⟨u₂, rfl, hgap⟩ := Text.split_behind hrest.symm (i.isName.not_mem hname)
    obtain ⟨u₃, rfl, hbehind⟩ := Text.split_behind hgap.symm (i.after_gap.not_mem hblank)
    exact .inr ⟨u₃, by simp [ListedScalar.text], hbehind⟩

/-- Every sigil of a list belongs to one of its scalars. -/
theorem inList_of_closedList {i : ListedScalar} {js : List ListedScalar} {tail u v : Text} {e c : Char}
    (he : e ∈ ['(', ',']) (htail : ∀ c ∈ ['$', '@', '%'], c ∉ tail) (hc : c ∈ ['$', '@', '%'])
    (h : u ++ c :: v = e :: (closedList i js ++ tail)) : InList u c v := by
  induction js generalizing i e u with
  | nil =>
    have htext : u ++ c :: v = e :: (i.text ++ ')' :: tail) := by simpa [closedList] using h
    rcases i.inList_or_behind he (by simp) hc htext with hin | ⟨u', -, hbehind⟩
    · exact hin
    · have hmem : c ∈ ')' :: tail := hbehind ▸ List.mem_append_right u' List.mem_cons_self
      rcases List.mem_cons.1 hmem with rfl | hmem
      · exact absurd hc (by decide)
      · exact absurd hmem (htail c hc)
  | cons j js ih =>
    have htext : u ++ c :: v = e :: (i.text ++ ',' :: (closedList j js ++ tail)) := by simpa [closedList] using h
    rcases i.inList_or_behind he (by simp) hc htext with hin | ⟨u', rfl, hbehind⟩
    · exact hin
    · exact (ih (by simp) hbehind.symm).append _

/-- The sign behind a name and white space is the same in whichever way a text is cut. -/
theorem sign_unique {n m g g' r r' : Text} {c d : Char} (hn : IsName n) (hm : IsName m) (hg : IsGap g) (hg' : IsGap g')
    (hc : Text.isNameChar c = false ∧ Text.isBlank c = false) (hd : Text.isNameChar d = false ∧ Text.isBlank d = false)
    (h : n ++ (g ++ c :: r) = m ++ (g' ++ d :: r')) : c = d := by
  have hname := name?_append_gap hn hg hc.1 (r := r)
  rw [h, name?_append_gap hm hg' hd.1] at hname
  obtain ⟨-, hrest⟩ := Prod.mk.inj (Option.some.inj hname)
  have htrim := congrArg Text.trimStart hrest
  rw [hg.trimStart_append (by simpa using hc.2), hg'.trimStart_append (by simpa using hd.2)] at htrim
  exact (List.cons.inj htrim).1.symm

theorem InList.sign {u v n g r : Text} {c d : Char} (h : InList u c v) (hv : v = n ++ (g ++ d :: r)) (hn : IsName n)
    (hg : IsGap g) (hd : Text.isNameChar d = false ∧ Text.isBlank d = false) : d ∈ [',', ')'] := by
  obtain ⟨m, g', d', r', hv', hm, hg', hd'⟩ := h.after
  have hplain : Text.isNameChar d' = false ∧ Text.isBlank d' = false := by
    rcases List.mem_pair.1 hd' with rfl | rfl <;> decide
  rw [sign_unique hn hm hg hg' hd hplain (hv.symm.trans hv')]
  exact hd'

namespace ListAssignment

variable (l : ListAssignment)

theorem inList {u v : Text} {c : Char} (hc : c ∈ ['$', '@', '%']) (h : l.text = u ++ c :: v) : InList u c v := by
  have htail : ∀ c ∈ ['$', '@', '%'], c ∉ l.gap ++ '=' :: l.rest := by
    intro c hc
    obtain ⟨-, hblank, hequals⟩ := sigil_plain hc
    simp [l.gap_gap.not_mem hblank, hequals, l.rest_plain c hc]
  obtain ⟨-, hblank, -⟩ := sigil_plain hc
  obtain ⟨u', rfl, hrest⟩ := Text.split_behind h.symm (l.lead_gap.not_mem hblank)
  exact (inList_of_closedList (by simp) htail hc hrest.symm).append _

theorem declared_eq_nil {sigils : List Char} (hs : sigils ⊆ ['$', '@', '%']) :
    occurrences (declaredAt? sigils) l.text = [] := by
  rw [List.eq_nil_iff_forall_not_mem]
  rintro ⟨p, n⟩ hmem
  obtain ⟨k, hfound⟩ := foundAt_of_mem_occurrences hmem
  obtain ⟨w, g, c, r, hdrop, -, hw, -, hg, hc, -, -⟩ := declaredAt?_eq_some hfound.2
  have htext : l.text = l.text.take p ++ w ++ g ++ c :: (n ++ r) := (Text.eq_take_append hdrop).trans (by simp)
  obtain ⟨u, e, g', hu, he, hg'⟩ := (l.inList (hs hc) htext).before
  -- the last sign before the sigil is no letter, so that it is not the end of `my` or `our`
  have hplain : Text.isNameChar e = false ∧ Text.isBlank e = false := by
    rcases List.mem_pair.1 he with rfl | rfl <;> decide
  obtain ⟨v, hv, rfl⟩ := Text.split_before hu.symm (hg.not_mem hplain.2)
  obtain ⟨d, hlast, hd⟩ : ∃ d, (l.text.take p ++ w).getLast? = some d ∧ Text.isNameChar d = true := by
    rcases hw with rfl | rfl
    · exact ⟨'y', by simp, by decide⟩
    · exact ⟨'r', by simp, by decide⟩
  rw [hv, List.getLast?_append_cons, List.getLast?_eq_some_getLast (List.cons_ne_nil e v), Option.some_inj] at hlast
  rcases List.mem_cons.1 (hlast ▸ List.getLast_mem (List.cons_ne_nil e v)) with rfl | hmem
  · rw [hplain.1] at hd
    cases hd
  · have hblank := hg' d (List.mem_append_left g hmem)
    rw [Text.not_isBlank_of_isNameChar hd] at hblank
    cases hblank

theorem assigned_eq_nil {sigils : List Char} (hs : sigils ⊆ ['$', '@', '%']) :
    occurrences (assignedAt? sigils) l.text = [] := by
  rw [List.eq_nil_iff_forall_not_mem]
  rintro ⟨p, n⟩ hmem
  obtain ⟨k, hfound⟩ := foundAt_of_mem_occurrences hmem
  obtain ⟨c, g, r, hdrop, hc, hn, hg, -⟩ := assignedAt?_eq_some_iff.1 hfound.2
  have hsign := (l.inList (hs hc) (Text.eq_take_append hdrop)).sign rfl hn hg (by decide)
  exact absurd hsign (by decide)

theorem element_eq_nil {o c : Char} (hd : (o, c) ∈ elementDelimiters) : occurrences (elementAt? o c) l.text = [] := by
  rw [List.eq_nil_iff_forall_not_mem]
  rintro ⟨p, n⟩ hmem
  obtain ⟨k, hfound⟩ := foundAt_of_mem_occurrences hmem
  obtain ⟨g, inner, g', r, hdrop, hn, hg, -⟩ := (elementAt?_eq_some_iff hd).1 hfound.2
  obtain ⟨⟨hname, hblank, -⟩, -, -⟩ := delimiters_plain hd
  have hsign := (l.inList (by simp) (Text.eq_take_append hdrop)).sign rfl hn hg ⟨hname, hblank⟩
  revert hsign
  rcases List.mem_pair.1 hd with hd | hd <;> cases hd <;> decide

theorem listAt?_eq_none_of_head {c : Char} (hc : c ≠ '(') (before : Option Char) (t : Text) :
    listAt? before (c :: t) = none := by
  rw [Option.eq_none_iff_forall_ne_some]
  rintro ⟨ns, k⟩ h
  obtain ⟨g, w, g', r, ht, -⟩ := listAt?_eq_some_iff.1 h
  exact hc (List.cons.inj ht).1

theorem listAt?_eq_none_of_not_mem {t : Text} (ht : '$' ∉ t) (before : Option Char) : listAt? before t = none := by
  rw [Option.eq_none_iff_forall_ne_some]
  rintro ⟨ns, k⟩ h
  obtain ⟨g, w, g', r, rfl, -, hw, -⟩ := listAt?_eq_some_iff.1 h
  obtain ⟨w', rfl⟩ := hw.head
  exact ht (by simp)

theorem lists_eq : occurrences listAt? l.text = [(l.lead.length, l.names)] := by
  obtain ⟨w, hw, hclosed⟩ := exists_scalarList l.first l.others
  obtain ⟨whole, hwhole⟩ : ∃ a, a = '(' :: (l.first.before ++ (w ++ (l.gap ++ ['=']))) := ⟨_, rfl⟩
  have htext : l.text = l.lead ++ (whole ++ l.rest) := by
    rw [ListAssignment.text, hclosed, hwhole]
    simp
  have hfound (before : Option Char) : listAt? before (whole ++ l.rest) = some (l.names, whole.length) := by
    apply listAt?_eq_some_iff.2
    refine ⟨l.first.before, w, l.gap, l.rest, by simp [hwhole], l.first.before_gap, hw, l.gap_gap, ?_⟩
    simp [hwhole]
    omega
  have hlead : ∀ u v, u ++ v = l.lead → v ≠ [] → ∀ before, listAt? before (v ++ (whole ++ l.rest)) = none := by
    intro u v huv hv before
    cases v with
    | nil => exact absurd rfl hv
    | cons c v =>
      refine listAt?_eq_none_of_head ?_ before _
      rintro rfl
      exact l.lead_gap.not_mem rfl (huv ▸ List.mem_append_right u List.mem_cons_self)
  have hrest : ∀ u v, u ++ v = l.rest → v ≠ [] → ∀ before, listAt? before (v ++ []) = none := by
    intro u v huv _ before
    refine listAt?_eq_none_of_not_mem (fun hmem => ?_) before
    rw [List.append_nil] at hmem
    exact l.rest_plain '$' (by simp) (huv ▸ List.mem_append_right u hmem)
  obtain ⟨before, hpass⟩ := occurrencesFrom_pass hlead none 0
  obtain ⟨before', hlist⟩ := occurrencesFrom_found (by simp [hwhole]) (hfound before) (0 + l.lead.length)
  obtain ⟨before'', hend⟩ := occurrencesFrom_pass hrest before' (0 + l.lead.length + whole.length)
  rw [List.append_nil] at hend
  rw [occurrences, htext, hpass, hlist, hend, Nat.zero_add]
  rfl

end ListAssignment

/-- Of an assignment to a list, the names that are listed are those of the list, however many there are. -/
theorem assigned_listAssignment (l : ListAssignment) :
    assigned l.text = sortedNames (l.names.map String.ofList) ∧
      ∀ x, x ∈ assigned l.text ↔ x.toList ∈ l.names := by
  have hassigned : assigned l.text = sortedNames (l.names.map String.ofList) := by
    simp only [assigned, l.declared_eq_nil (show ['$'] ⊆ ['$', '@', '%'] by decide),
      l.declared_eq_nil (show ['@', '%'] ⊆ ['$', '@', '%'] by decide),
      l.assigned_eq_nil (show ['$'] ⊆ ['$', '@', '%'] by decide),
      l.assigned_eq_nil (show ['@', '%'] ⊆ ['$', '@', '%'] by decide),
      l.element_eq_nil (show ('[', ']') ∈ elementDelimiters by decide),
      l.element_eq_nil (show ('{', '}') ∈ elementDelimiters by decide), l.lists_eq]
    simp
  refine ⟨hassigned, fun x => ?_⟩
  rw [hassigned, mem_sortedNames_iff, List.mem_map]
  constructor
  · rintro ⟨n, hn, rfl⟩
    rwa [String.toList_ofList]
  · intro hx
    exact ⟨x.toList, hx, String.ofList_toList⟩

/-- Two scalars with a line break between them. One has the name of a declaring word, and another call follows. -/
def brokenList : ListAssignment where
  lead := [' ']
  first :=
    { before := [' ']
      name := "our".toList
      after := [' ']
      before_gap := List.all_eq_true.1 rfl
      isName := ⟨rfl, List.all_eq_true.1 rfl⟩
      after_gap := List.all_eq_true.1 rfl }
  others :=
    [{ before := ['\n']
       name := "x2".toList
       after := ['\t']
       before_gap := List.all_eq_true.1 rfl
       isName := ⟨rfl, List.all_eq_true.1 rfl⟩
       after_gap := List.all_eq_true.1 rfl }]
  gap := ['\t']
  rest := " my(f)".toList
  lead_gap := List.all_eq_true.1 rfl
  gap_gap := List.all_eq_true.1 rfl
  rest_plain := by
    simp only [List.forall_mem_cons]
    exact ⟨by decide, by decide, by decide, List.forall_mem_nil _⟩

theorem brokenList_assigned : assigned " ( $our ,\n$x2\t)\t= my(f)".toList = sortedNames ["our", "x2"] :=
  (assigned_listAssignment brokenList).1

end ProblemLint.Variable
