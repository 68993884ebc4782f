import ProblemLint.Proofs.Depth
import ProblemLint.Proofs.Names
import ProblemLint.Proofs.Newlines
import ProblemLint.Source.Call

/-! The calls of a text. A call stands at a position when a name, white space and balanced parentheses do, whatever is
around them. The calls that are listed are those that lie in no earlier one: a name without balanced parentheses is
passed over, and nothing can start in it, since a name must not follow a character of names. -/

namespace ProblemLint

theorem find?_eq_some_iff_of_unique {α : Type} {l : List α} {p : α → Bool} {Q : α → Prop}
    (hp : ∀ b ∈ l, p b = true ↔ Q b) (hQ : ∀ b c, Q b → Q c → b = c) {a : α} :
    l.find? p = some a ↔ a ∈ l ∧ Q a := by
  constructor
  · intro hfind
    have ha := List.mem_of_find?_eq_some hfind
    exact ⟨ha, (hp a ha).1 (List.find?_some hfind)⟩
  · rintro ⟨ha, hQa⟩
    obtain ⟨b, hfind⟩ := Option.isSome_iff_exists.1 (List.find?_isSome.2 ⟨a, ha, (hp a ha).2 hQa⟩)
    have hQb := (hp b (List.mem_of_find?_eq_some hfind)).1 (List.find?_some hfind)
    rw [hfind, hQ b a hQb hQa]

namespace Call

section

variable {names : List String}

/-- A name is found just if it is all of the characters of names that stand there. -/
theorem nameAt?_eq_some_iff (hnames : ∀ n ∈ names, ∀ c ∈ n.toList, Text.isNameChar c = true)
    {before : Option Char} {t : Text} {n : String} : nameAt? names before t = some n ↔
      before.any Text.isNameChar = false ∧ n ∈ names ∧ t.takeWhile Text.isNameChar = n.toList := by
  have halone : ∀ m ∈ names, (∃ r, Text.after? m.toList t = some r ∧ r.head?.any Text.isNameChar = false) ↔
      t.takeWhile Text.isNameChar = m.toList := by
    intro m hm
    constructor
    · rintro ⟨r, hafter, hr⟩
      rw [← List.append_eq_of_isPrefixOf?_eq_some hafter, takeWhile_append_stop (hnames m hm) hr]
    · intro h
      obtain ⟨htake, hnext⟩ := (takeWhile_eq_iff (hnames m hm)).1 h
      refine ⟨t.drop m.toList.length, ?_, by rwa [List.head?_drop]⟩
      have hsplit := List.take_append_drop m.toList.length t
      rwa [htake, ← List.isPrefixOf?_eq_some_iff_append_eq] at hsplit
  unfold nameAt?
  split
  · next hbefore => simp [hbefore]
  · next hbefore =>
    rw [find?_eq_some_iff_of_unique (Q := fun m => t.takeWhile Text.isNameChar = m.toList)]
    · simp [hbefore]
    · intro m hm
      rw [← halone m hm]
      cases Text.after? m.toList t <;> simp
    · intro m m' h h'
      exact String.toList_inj.1 (h.symm.trans h')

theorem at?_eq_some_some_iff {before : Option Char} {t : Text} {s : Shape} {n : Nat} :
    at? names before t = some (some s, n) ↔
      nameAt? names before t = some s.name ∧ s.name.length ≤ s.lead ∧
      (∀ c ∈ (t.drop s.name.length).take (s.lead - s.name.length), Text.isBlank c = true) ∧
      (∃ rest, delimited? '(' ')' (t.drop s.lead) = some (s.arguments, rest)) ∧
      s.size = s.lead + s.arguments.length + 2 ∧ n = s.size := by
  rw [at?, Option.map_eq_some_iff]
  constructor
  · rintro ⟨name, hname, h⟩
    simp only [] at h
    split at h
    · next arguments rest hd =>
      cases h
      refine ⟨hname, Nat.le_add_right _ _, ?_, ⟨rest, ?_⟩, rfl, rfl⟩
      · intro c hc
        rw [Nat.add_sub_cancel_left, ← List.prefix_iff_eq_take.1 (List.takeWhile_prefix _)] at hc
        exact List.mem_takeWhile_imp hc
      · rw [← List.drop_drop]
        exact hd
    · cases h
  · rintro ⟨hname, hle, hblank, ⟨rest, hd⟩, hsize, rfl⟩
    refine ⟨s.name, hname, ?_⟩
    have hdrop : (t.drop s.name.length).drop (s.lead - s.name.length) = t.drop s.lead := by
      rw [List.drop_drop, Nat.add_sub_cancel' hle]
    obtain ⟨ht, -⟩ := delimited?_eq_some_iff.1 hd
    have hblanks : (t.drop s.name.length).takeWhile Text.isBlank =
        (t.drop s.name.length).take (s.lead - s.name.length) := by
      have hsplit := List.take_append_drop (s.lead - s.name.length) (t.drop s.name.length)
      rw [hdrop, ht] at hsplit
      have hstop := takeWhile_append_stop hblank (r := '(' :: (s.arguments ++ ')' :: rest)) rfl
      rwa [hsplit] at hstop
    have hlength : ((t.drop s.name.length).take (s.lead - s.name.length)).length = s.lead - s.name.length := by
      have hlong := congrArg List.length ht
      simp only [List.length_drop, List.length_cons] at hlong
      rw [List.length_take, List.length_drop]
      omega
    simp only [hblanks, hlength, hdrop, hd, Nat.add_sub_cancel' hle, ← hsize]

theorem at?_eq_some_none (hnames : ∀ n ∈ names, ∀ c ∈ n.toList, Text.isNameChar c = true)
    {before : Option Char} {t : Text} {n : Nat} (h : at? names before t = some (none, n)) :
    ∀ c ∈ t.take n, Text.isNameChar c = true := by
  obtain ⟨name, hname, h⟩ := Option.map_eq_some_iff.1 h
  obtain ⟨-, hmem, hread⟩ := (nameAt?_eq_some_iff hnames).1 hname
  have htake := ((takeWhile_eq_iff (hnames name hmem)).1 hread).1
  have hn : n = name.toList.length := by
    simp only [] at h
    split at h
    · cases h
    · rw [String.length_toList]
      cases h
      rfl
  rw [hn, htake]
  exact hnames name hmem

end

/-! ### Calls by their positions -/

/-- A call as it stands in a text, with its name at position `p`: the name is no part of a longer one, and only white
space is between it and the opening parenthesis. -/
structure StandsAt (names : List String) (newlines : NewlineIndex) (t : Text) (p : Nat) (c : Call) : Prop where
  name_mem : c.name ∈ names
  name_at : Text.slice t p (p + c.name.length) = c.name.toList
  before : (t.before? p).any Text.isNameChar = false
  after : t[p + c.name.length]?.any Text.isNameChar = false
  name_le : p + c.name.length ≤ c.start
  gap : ∀ x ∈ Text.slice t (p + c.name.length) c.start, Text.isBlank x = true
  parens : Delimits '(' ')' t c.start c.stop c.arguments
  line : c.line = newlines.lineOf p

def Shape.call (newlines : NewlineIndex) (p : Nat) (s : Shape) : Call :=
  ⟨s.name, s.arguments, p + s.lead, p + s.size, newlines.lineOf p⟩

theorem mem_all {names : List String} {newlines : NewlineIndex} {t : Text} {c : Call} :
    c ∈ all names newlines t ↔
      ∃ p s, (p, some s) ∈ occurrences (at? (sortedNames names)) t ∧ s.call newlines p = c := by
  rw [all, List.mem_filterMap]
  constructor
  · rintro ⟨⟨p, shape?⟩, hmem, h⟩
    obtain ⟨s, rfl, hcall⟩ := Option.map_eq_some_iff.1 h
    exact ⟨p, s, hmem, hcall⟩
  · rintro ⟨p, s, hmem, rfl⟩
    exact ⟨(p, some s), hmem, rfl⟩

theorem StandsAt.exists_shape {names : List String} {newlines : NewlineIndex} {t : Text} {p : Nat} {c : Call}
    (h : StandsAt names newlines t p c) : ∃ s : Shape, s.call newlines p = c := by
  have hle := h.name_le
  have hlt := h.parens.start_lt
  refine ⟨⟨c.name, c.arguments, c.start - p, c.stop - p⟩, ?_⟩
  rw [Shape.call, Nat.add_sub_cancel' (by omega), Nat.add_sub_cancel' (by omega), ← h.line]

theorem StandsAt.lt_length {names : List String} {newlines : NewlineIndex} {t : Text} {p : Nat} {c : Call}
    (h : StandsAt names newlines t p c) : p < t.length := by
  have hparen := (List.getElem?_eq_some_iff.1 h.parens.opener_at).1
  have hle := h.name_le
  omega

section

variable {names : List String} (hnames : ∀ n ∈ names, n ≠ "" ∧ ∀ c ∈ n.toList, Text.isNameChar c = true)
include hnames

theorem sortedNames_chars : ∀ n ∈ sortedNames names, ∀ c ∈ n.toList, Text.isNameChar c = true := by
  intro n hn
  exact (hnames n (mem_sortedNames_iff.1 hn)).2

theorem foundAt_iff_standsAt (newlines : NewlineIndex) {t : Text} {p n : Nat} {s : Shape} :
    FoundAt (at? (sortedNames names)) t p (some s) n ↔
      n = s.size ∧ StandsAt names newlines t p (s.call newlines p) := by
  have hslice (a b : Nat) : Text.slice t (p + a) (p + b : Nat) = ((t.drop p).drop a).take (b - a) := by
    have h := Text.slice_natCast t (p + a) (p + b)
    rw [← List.drop_drop, Nat.add_sub_add_left] at h
    exact h
  have hparens : Delimits '(' ')' t (p + s.lead) (p + s.size) s.arguments ↔
      (∃ rest, delimited? '(' ')' ((t.drop p).drop s.lead) = some (s.arguments, rest)) ∧
        s.size = s.lead + s.arguments.length + 2 := by
    have hsize : p + s.size = p + s.lead + s.arguments.length + 2 ↔ s.size = s.lead + s.arguments.length + 2 := by
      omega
    rw [delimits_iff, List.drop_drop, hsize, exists_and_right]
  rw [FoundAt, at?_eq_some_some_iff, nameAt?_eq_some_iff (sortedNames_chars hnames), mem_sortedNames_iff]
  constructor
  · rintro ⟨hp, ⟨hbefore, hmem, hread⟩, hle, hblank, hd, hsize, rfl⟩
    obtain ⟨htake, hafter⟩ := (takeWhile_eq_iff (hnames _ hmem).2).1 hread
    rw [String.length_toList] at htake hafter
    refine ⟨rfl, hmem, ?_, hbefore, ?_, Nat.add_le_add_left hle p, ?_, hparens.2 ⟨hd, hsize⟩, rfl⟩
    · exact (hslice 0 s.name.length).trans htake
    · rwa [List.getElem?_drop] at hafter
    · intro x hx
      exact hblank x ((hslice s.name.length s.lead) ▸ hx)
  · rintro ⟨rfl, h⟩
    obtain ⟨hd, hsize⟩ := hparens.1 h.parens
    refine ⟨h.lt_length, ⟨h.before, h.name_mem, ?_⟩, Nat.le_of_add_le_add_left h.name_le, ?_, hd, hsize, rfl⟩
    · rw [takeWhile_eq_iff (hnames s.name h.name_mem).2, String.length_toList, List.getElem?_drop]
      exact ⟨(hslice 0 s.name.length).symm.trans h.name_at, h.after⟩
    · intro x hx
      exact h.gap x ((hslice s.name.length s.lead).symm ▸ hx)

theorem StandsAt.name_chars {newlines : NewlineIndex} {t : Text} {p : Nat} {c : Call}
    (h : StandsAt names newlines t p c) : ∀ x ∈ (t.drop p).take c.name.length, Text.isNameChar x = true := by
  have hslice := Text.slice_natCast t p (p + c.name.length)
  rw [Nat.add_sub_cancel_left] at hslice
  rw [← hslice]
  exact h.name_at ▸ (hnames c.name h.name_mem).2

/-- No call stands between the start of another one and its opening parenthesis: its name would be part of the other
name, or white space. -/
theorem StandsAt.start_lt {newlines : NewlineIndex} {t : Text} {p q : Nat} {c d : Call}
    (hc : StandsAt names newlines t q c) (hd : StandsAt names newlines t p d) (hlt : q < p) : c.start < p := by
  have hp := hd.lt_length
  have hbehind := Text.not_in_name (hc.name_chars hnames) hp.le hd.before hlt
  have hget : t[p]? = some t[p] := List.getElem?_eq_getElem hp
  have hname : Text.isNameChar t[p] = true := by
    have hpos : 0 < d.name.length := by
      rw [← String.length_toList]
      exact List.length_pos_of_ne_nil fun hnil => (hnames d.name hd.name_mem).1 (String.toList_eq_nil_iff.1 hnil)
    exact hd.name_chars hnames _ (Text.mem_take_drop hget le_rfl (by omega))
  by_contra hle
  rcases Nat.eq_or_lt_of_le (Nat.le_of_not_lt hle) with heq | hgap
  · have hparen := hc.parens.opener_at
    rw [← heq, hget, Option.some_inj] at hparen
    rw [hparen] at hname
    cases hname
  · have hslice : Text.slice t (q + c.name.length) c.start = _ := Text.slice_natCast t (q + c.name.length) c.start
    have hblank := hc.gap t[p] (hslice ▸ Text.mem_take_drop hget (by omega) (by omega))
    rw [Text.not_isBlank_of_isNameChar hname] at hblank
    cases hblank

end

/-- The calls that are listed stand in the text, one behind the other; a call that is not among them starts between
the parentheses of one that is. -/
theorem all_outermost {names : List String}
    (hnames : ∀ n ∈ names, n ≠ "" ∧ ∀ c ∈ n.toList, Text.isNameChar c = true) (newlines : NewlineIndex) (t : Text) :
    (∀ c ∈ all names newlines t, ∃ p, StandsAt names newlines t p c ∧
      (newlines = .ofText t → c.line = 1 + (t.take p).count '\n')) ∧
    (all names newlines t).Pairwise (fun c c' => ∃ p, StandsAt names newlines t p c' ∧ c.stop ≤ p) ∧
    ∀ p c, StandsAt names newlines t p c →
      c ∈ all names newlines t ∨ ∃ c' ∈ all names newlines t, c'.start < p ∧ p < c'.stop := by
  have hstands {p : Nat} {s : Shape} (h : (p, some s) ∈ occurrences (at? (sortedNames names)) t) :
      FoundAt (at? (sortedNames names)) t p (some s) s.size ∧ StandsAt names newlines t p (s.call newlines p) := by
    obtain ⟨n, hfound⟩ := foundAt_of_mem_occurrences h
    obtain ⟨rfl, hcall⟩ := (foundAt_iff_standsAt hnames newlines).1 hfound
    exact ⟨hfound, hcall⟩
  refine ⟨?_, ?_, ?_⟩
  · intro c hc
    obtain ⟨p, s, hmem, rfl⟩ := mem_all.1 hc
    refine ⟨p, (hstands hmem).2, ?_⟩
    rintro rfl
    exact NewlineIndex.lineOf_ofText t p
  · rw [all, List.pairwise_filterMap]
    apply (pairwise_occurrences t).imp_of_mem
    rintro ⟨p, shape?⟩ ⟨q, shape'?⟩ hx hy hxy c hc c' hc'
    obtain ⟨s, rfl, rfl⟩ := Option.map_eq_some_iff.1 hc
    obtain ⟨s', rfl, rfl⟩ := Option.map_eq_some_iff.1 hc'
    exact ⟨q, (hstands hy).2, hxy.2 s.size (hstands hx).1⟩
  · intro p c hc
    obtain ⟨s, rfl⟩ := hc.exists_shape
    have hfound := (foundAt_iff_standsAt hnames newlines).2 ⟨rfl, hc⟩
    rcases mem_occurrences_or_covered hfound with hmem | ⟨⟨q, shape?⟩, hmem, m, hm, hlt, hcovers⟩
    · exact .inl (mem_all.2 ⟨p, s, hmem, rfl⟩)
    · cases shape? with
      | none =>
        -- a name alone covers nothing but its own characters, and none of them can be before a name
        have hname := at?_eq_some_none (sortedNames_chars hnames) hm.2
        have hbehind := Text.not_in_name hname hfound.1.le hc.before hlt
        omega
      | some s' =>
        obtain ⟨rfl, hc'⟩ := (foundAt_iff_standsAt hnames newlines).1 hm
        exact .inr ⟨_, mem_all.2 ⟨q, s', hmem, rfl⟩, hc'.start_lt hnames hc hlt, hcovers⟩

/-- The outer call is listed, whatever is in it and behind it. -/
theorem all_outermost_nested :
    (∀ n ∈ ["f", "g"], n ≠ "" ∧ ∀ c ∈ n.toList, Text.isNameChar c = true) ∧
      ⟨"f", "g(')')".toList, 2, 10, 1⟩ ∈ all ["f", "g"] (.ofText "f (g(')')) g(".toList) "f (g(')')) g(".toList := by
  have hnames : ∀ n ∈ ["f", "g"], n ≠ "" ∧ ∀ c ∈ n.toList, Text.isNameChar c = true := by
    intro n hn
    rcases List.mem_pair.1 hn with rfl | rfl
    · exact ⟨by decide, List.all_eq_true.1 rfl⟩
    · exact ⟨by decide, List.all_eq_true.1 rfl⟩
  have hcall : StandsAt ["f", "g"] (.ofText "f (g(')')) g(".toList) "f (g(')')) g(".toList 0
      ⟨"f", "g(')')".toList, 2, 10, 1⟩ :=
    ⟨List.mem_cons_self, rfl, rfl, rfl, by decide, List.all_eq_true.1 rfl, delimits_iff.2 ⟨" g(".toList, rfl, rfl⟩,
      (NewlineIndex.lineOf_ofText _ 0).symm⟩
  refine ⟨hnames, ?_⟩
  rcases (all_outermost hnames _ _).2.2 0 _ hcall with hmem | ⟨c, -, hlt, -⟩
  · exact hmem
  · cases hlt

end Call
end ProblemLint
