import ProblemLint.Proofs.Names
import ProblemLint.Proofs.Trimming
import ProblemLint.Proofs.Occurrences

/-! Names that a program declares or assigns. Apart from declarations, a name is listed when a variable, an element of
one or a list of scalars has an equals sign behind it. The sign is not looked at any further, so that a comparison
counts as well. -/

namespace ProblemLint

namespace Variable

open Text (IsGap)

theorem afterEquals?_eq_some_iff {t r : Text} : afterEquals? t = some r ↔ ∃ g, IsGap g ∧ t = g ++ '=' :: r := by
  rw [afterEquals?, Text.after?_eq_some_iff]
  constructor
  · intro h
    obtain ⟨g, hg, ht⟩ := Text.exists_gap t
    exact ⟨g, hg, ht.trans (congrArg (g ++ ·) h)⟩
  · rintro ⟨g, hg, rfl⟩
    exact hg.trimStart_append rfl

theorem name?_append_gap {n g r : Text} {c : Char} (hn : IsName n) (hg : IsGap g) (hc : Text.isNameChar c = false) :
    name? (n ++ (g ++ c :: r)) = some (n, g ++ c :: r) := by
  refine name?_eq_some_iff.2 ⟨rfl, hn, ?_⟩
  apply Text.head?_append_plain
  · intro d hd
    exact Text.isNameChar_of_isBlank (hg d hd)
  · simpa using hc

/-! ### The recognisers -/

theorem assignedAt?_eq_some_iff {sigils : List Char} {before : Option Char} {t n : Text} {k : Nat} :
    assignedAt? sigils before t = some (n, k) ↔
      ∃ c g r, t = c :: (n ++ (g ++ '=' :: r)) ∧ c ∈ sigils ∧ IsName n ∧ IsGap g ∧ k = n.length + g.length + 2 := by
  have htaken (c : Char) (g r : Text) : taken (c :: (n ++ (g ++ '=' :: r))) r = n.length + g.length + 2 := by
    simp only [taken, List.length_cons, List.length_append]
    omega
  constructor
  · intro h
    unfold assignedAt? at h
    split at h
    · cases h
    · next c u =>
      split at h
      · next hc =>
        obtain ⟨⟨m, v⟩, hname, h⟩ := Option.bind_eq_some_iff.1 h
        obtain ⟨r, hequals, h⟩ := Option.bind_eq_some_iff.1 h
        obtain ⟨rfl, hm, -⟩ := name?_eq_some_iff.1 hname
        obtain ⟨g, hg, rfl⟩ := afterEquals?_eq_some_iff.1 hequals
        obtain ⟨rfl, rfl⟩ := Prod.mk.inj (Option.some.inj h)
        exact ⟨c, g, r, rfl, List.contains_iff_mem.1 hc, hm, hg, htaken c g r⟩
      · cases h
  · rintro ⟨c, g, r, rfl, hc, hn, hg, rfl⟩
    have hequals : afterEquals? (g ++ '=' :: r) = some r := afterEquals?_eq_some_iff.2 ⟨g, hg, rfl⟩
    rw [assignedAt?, if_pos (List.contains_iff_mem.2 hc), name?_append_gap hn hg (by decide), ← htaken c g r]
    show (afterEquals? (g ++ '=' :: r)).bind _ = _
    rw [hequals]
    rfl

theorem declaredAt?_eq_some {sigils : List Char} {before : Option Char} {t n : Text} {k : Nat}
    (h : declaredAt? sigils before t = some (n, k)) :
    ∃ w g c r, t = w ++ (g ++ c :: (n ++ r)) ∧ before.any Text.isWord = false ∧
      (w = "my".toList ∨ w = "our".toList) ∧ g ≠ [] ∧ IsGap g ∧ c ∈ sigils ∧ IsName n ∧
      r.head?.any Text.isNameChar = false := by
  unfold declaredAt? at h
  split at h
  · cases h
  · next hbefore =>
    obtain ⟨u, hlead, h⟩ := Option.bind_eq_some_iff.1 h
    obtain ⟨w, hw, rfl⟩ : ∃ w, (w = "my".toList ∨ w = "our".toList) ∧ t = w ++ u := by
      rcases (Option.orElse_eq_some _ _ _).1 hlead with hlead | ⟨-, hlead⟩
      · exact ⟨_, .inl rfl, Text.after?_eq_some_iff.1 hlead⟩
      · exact ⟨_, .inr rfl, Text.after?_eq_some_iff.1 hlead⟩
    obtain ⟨g, hg, hu⟩ := Text.exists_gap u
    dsimp only at h
    split at h
    · cases h
    · next hlength =>
      have hne : g ≠ [] := by
        rintro rfl
        rw [List.nil_append] at hu
        exact hlength (beq_iff_eq.2 (congrArg List.length hu.symm))
      split at h
      · cases h
      · next c b htrim =>
        split at h
        · next hc =>
          obtain ⟨⟨m, r⟩, hname, hfound⟩ := Option.bind_eq_some_iff.1 h
          obtain ⟨rfl, hm, hr⟩ := name?_eq_some_iff.1 hname
          obtain ⟨rfl, -⟩ := Prod.mk.inj (Option.some.inj hfound)
          rw [htrim] at hu
          subst hu
          exact ⟨w, g, c, r, rfl, Bool.eq_false_iff.2 hbefore, hw, hne, hg, List.contains_iff_mem.1 hc, hm, hr⟩
        · cases h

def elementDelimiters : List (Char × Char) := [('[', ']'), ('{', '}')]

theorem delimiters_plain {o c : Char} (h : (o, c) ∈ elementDelimiters) :
    (Text.isNameChar o = false ∧ Text.isBlank o = false ∧ o ≠ '$') ∧
      (Text.isNameChar c = false ∧ Text.isBlank c = false ∧ c ≠ '$') ∧ c ≠ o := by
  rcases List.mem_pair.1 h with h | h
  · cases h
    decide
  · cases h
    decide

theorem elementAt?_eq_some_iff {o c : Char} (hd : (o, c) ∈ elementDelimiters) {before : Option Char} {t n : Text}
    {k : Nat} : elementAt? o c before t = some (n, k) ↔
      ∃ g inner g' r, t = '$' :: (n ++ (g ++ o :: (inner ++ c :: (g' ++ '=' :: r)))) ∧ IsName n ∧ IsGap g ∧
        inner ≠ [] ∧ c ∉ inner ∧ IsGap g' ∧ k = n.length + g.length + inner.length + g'.length + 4 := by
  have htaken (g inner g' r : Text) : taken ('$' :: (n ++ (g ++ o :: (inner ++ c :: (g' ++ '=' :: r))))) r =
      n.length + g.length + inner.length + g'.length + 4 := by
    simp only [taken, List.length_cons, List.length_append]
    omega
  constructor
  · intro h
    obtain ⟨u, hdollar, h⟩ := Option.bind_eq_some_iff.1 h
    obtain ⟨⟨m, v⟩, hname, h⟩ := Option.bind_eq_some_iff.1 h
    obtain ⟨x, hopen, h⟩ := Option.bind_eq_some_iff.1 h
    dsimp only at h
    split at h
    · cases h
    · next hinner =>
      obtain ⟨y, hclose, h⟩ := Option.bind_eq_some_iff.1 h
      obtain ⟨r, hequals, hfound⟩ := Option.bind_eq_some_iff.1 h
      obtain ⟨g, hg, hv⟩ := Text.exists_gap v
      rw [Text.after?_eq_some_iff.1 hopen] at hv
      obtain ⟨g', hg', rfl⟩ := afterEquals?_eq_some_iff.1 hequals
      have hx : x = x.takeWhile (· != c) ++ c :: (g' ++ '=' :: r) := by
        have hsplit := List.take_append_drop (x.takeWhile (· != c)).length x
        rw [Text.after?_eq_some_iff.1 hclose, ← List.prefix_iff_eq_take.1 (List.takeWhile_prefix _)] at hsplit
        exact hsplit.symm
      obtain ⟨rfl, hm, -⟩ := name?_eq_some_iff.1 hname
      obtain rfl := Text.after?_eq_some_iff.1 hdollar
      obtain ⟨rfl, rfl⟩ := Prod.mk.inj (Option.some.inj hfound)
      refine ⟨g, x.takeWhile (· != c), g', r, ?_, hm, hg, ?_, ?_, hg', ?_⟩
      · rw [hv, ← hx]
        rfl
      · simpa using hinner
      · intro hmem
        simpa using List.mem_takeWhile_imp hmem
      · rw [← htaken g _ g' r, hv, ← hx]
        rfl
  · rintro ⟨g, inner, g', r, rfl, hn, hg, hinner, hc, hg', rfl⟩
    obtain ⟨⟨hname, hblank, -⟩, -, -⟩ := delimiters_plain hd
    have htrim : Text.trimStart (g ++ o :: (inner ++ c :: (g' ++ '=' :: r))) =
        o :: (inner ++ c :: (g' ++ '=' :: r)) := hg.trimStart_append (by simpa using hblank)
    have hequals : afterEquals? (g' ++ '=' :: r) = some r := afterEquals?_eq_some_iff.2 ⟨g', hg', rfl⟩
    simp only [elementAt?, Text.after?_cons, Option.bind_eq_bind, Option.bind_some, name?_append_gap hn hg hname, htrim,
      Text.takeWhile_ne_append hc, List.drop_left, hequals, htaken, List.isEmpty_eq_false_iff.2 hinner, Bool.false_eq_true, if_false]

/-! ### Lists of scalars -/

/-- What may stand between two scalars of a list: white space with at most one comma in it. -/
def IsSeparator (s : Text) : Prop := ∃ g g', IsGap g ∧ IsGap g' ∧ (s = g ++ g' ∨ s = g ++ ',' :: g')

/-- The scalars of a list with the closing parenthesis, as they are written. -/
inductive ScalarList : List Text → Text → Prop
  | last {n s : Text} (hn : IsName n) (hs : IsSeparator s) : ScalarList [n] ('$' :: (n ++ (s ++ [')'])))
  | cons {n s w : Text} {ns : List Text} (hn : IsName n) (hs : IsSeparator s) (hw : ScalarList ns w) :
    ScalarList (n :: ns) ('$' :: (n ++ (s ++ w)))

theorem ScalarList.head {ns : List Text} {w : Text} (h : ScalarList ns w) : ∃ w', w = '$' :: w' := by
  cases h with
  | last _ _ => exact ⟨_, rfl⟩
  | cons _ _ _ => exact ⟨_, rfl⟩

theorem IsSeparator.mem {s : Text} (h : IsSeparator s) {c : Char} (hc : c ∈ s) : Text.isBlank c = true ∨ c = ',' := by
  obtain ⟨g, g', hg, hg', rfl | rfl⟩ := h
  · exact .inl (hg.append hg' c hc)
  · rcases List.mem_append.1 hc with hc | hc
    · exact .inl (hg c hc)
    · rcases List.mem_cons.1 hc with rfl | hc
      · exact .inr rfl
      · exact .inl (hg' c hc)

theorem IsSeparator.isNameChar {s : Text} (h : IsSeparator s) {c : Char} (hc : c ∈ s) : Text.isNameChar c = false := by
  rcases h.mem hc with hblank | rfl
  · exact Text.isNameChar_of_isBlank hblank
  · rfl

theorem exists_separator (t : Text) :
    ∃ s, IsSeparator s ∧ t = s ++ Text.trimStart ((Text.after? [','] (Text.trimStart t)).getD (Text.trimStart t)) := by
  obtain ⟨g, hg, ht⟩ := Text.exists_gap t
  cases hcomma : Text.after? [','] (Text.trimStart t) with
  | none =>
    obtain ⟨g', hg', ht'⟩ := Text.exists_gap (Text.trimStart t)
    refine ⟨g ++ g', ⟨g, g', hg, hg', .inl rfl⟩, ?_⟩
    rw [Option.getD_none, List.append_assoc, ← ht', ← ht]
  | some r =>
    obtain ⟨g', hg', hr⟩ := Text.exists_gap r
    refine ⟨g ++ ',' :: g', ⟨g, g', hg, hg', .inr rfl⟩, ?_⟩
    rw [Option.getD_some, List.append_assoc, List.cons_append, ← hr]
    rw [Text.after?_eq_some_iff.1 hcomma] at ht
    exact ht

theorem trimStart_separator {s u : Text} (hs : IsSeparator s)
    (hu : u.head?.any (fun c => Text.isBlank c || c == ',') = false) :
    Text.trimStart ((Text.after? [','] (Text.trimStart (s ++ u))).getD (Text.trimStart (s ++ u))) = u := by
  have hblank : u.head?.any Text.isBlank = false := by
    cases u with
    | nil => rfl
    | cons c u => exact (Bool.or_eq_false_iff.1 hu).1
  obtain ⟨g, g', hg, hg', rfl | rfl⟩ := hs
  · have hcomma : Text.after? [','] u = none := by
      rw [Option.eq_none_iff_forall_ne_some]
      intro r hr
      rw [Text.after?_eq_some_iff.1 hr] at hu
      cases hu
    rw [(hg.append hg').trimStart_append hblank, hcomma]
    exact Text.IsGap.trimStart_append (g := []) (by simp [IsGap]) hblank
  · rw [List.append_assoc, List.cons_append, hg.trimStart_append rfl, Text.after?_cons, Option.getD_some]
    exact hg'.trimStart_append hblank

theorem listItems?_eq_some_iff {fuel : Nat} {t r : Text} {ns : List Text} :
    listItems? fuel t = some (ns, r) ↔ ns.length ≤ fuel ∧ ∃ w, ScalarList ns w ∧ t = w ++ r := by
  induction fuel generalizing t ns with
  | zero =>
    constructor
    · intro h
      cases h
    · rintro ⟨hle, w, hw, -⟩
      cases hw <;> exact absurd hle (by simp)
  | succ fuel ih =>
    constructor
    · intro h
      obtain ⟨u, hdollar, h⟩ := Option.bind_eq_some_iff.1 h
      obtain ⟨⟨n, v⟩, hname, h⟩ := Option.bind_eq_some_iff.1 h
      obtain ⟨s, hs, hv⟩ := exists_separator v
      obtain ⟨hu, hn, -⟩ := name?_eq_some_iff.1 hname
      have ht := Text.after?_eq_some_iff.1 hdollar
      dsimp only at h
      split at h
      · next x hclose =>
        obtain ⟨rfl, rfl⟩ := Prod.mk.inj (Option.some.inj h)
        rw [hclose] at hv
        refine ⟨by simp, _, .last hn hs, ?_⟩
        simp [ht, hu, hv]
      · obtain ⟨⟨ms, y⟩, hitems, h⟩ := Option.map_eq_some_iff.1 h
        obtain ⟨rfl, rfl⟩ := Prod.mk.inj h
        obtain ⟨hle, w, hw, hrest⟩ := ih.1 hitems
        rw [hrest] at hv
        refine ⟨Nat.succ_le_succ hle, _, .cons hn hs hw, ?_⟩
        simp [ht, hu, hv]
    · rintro ⟨hle, w, hw, rfl⟩
      cases hw with
      | @last n s hn hs =>
        have hname : name? (n ++ (s ++ ')' :: r)) = some (n, s ++ ')' :: r) :=
          name?_eq_some_iff.2 ⟨rfl, hn, Text.head?_append_plain (fun _ => hs.isNameChar) rfl⟩
        simp only [listItems?, List.cons_append, List.append_assoc, List.nil_append, Text.after?_cons,
          Option.bind_eq_bind, Option.bind_some, hname, trimStart_separator hs (u := ')' :: r) rfl]
      | @cons n s w ns hn hs hw =>
        obtain ⟨w', rfl⟩ := hw.head
        have hname : name? (n ++ (s ++ '$' :: (w' ++ r))) = some (n, s ++ '$' :: (w' ++ r)) :=
          name?_eq_some_iff.2 ⟨rfl, hn, Text.head?_append_plain (fun _ => hs.isNameChar) rfl⟩
        have hitems : listItems? fuel ('$' :: (w' ++ r)) = some (ns, r) :=
          ih.2 ⟨Nat.le_of_succ_le_succ hle, _, hw, rfl⟩
        simp only [listItems?, List.cons_append, List.append_assoc, Text.after?_cons, Option.bind_eq_bind,
          Option.bind_some, hname, trimStart_separator hs (u := '$' :: (w' ++ r)) rfl]
        show (listItems? fuel ('$' :: (w' ++ r))).map _ = _
        rw [hitems]
        rfl

theorem ScalarList.length_le {ns : List Text} {w : Text} (h : ScalarList ns w) : ns.length ≤ w.length := by
  induction h with
  | last _ _ => simp
  | cons _ _ _ ih =>
    simp only [List.length_cons, List.length_append]
    omega

theorem listAt?_eq_some_iff {before : Option Char} {t : Text} {ns : List Text} {k : Nat} :
    listAt? before t = some (ns, k) ↔
      ∃ g w g' r, t = '(' :: (g ++ (w ++ (g' ++ '=' :: r))) ∧ IsGap g ∧ ScalarList ns w ∧ IsGap g' ∧
        k = g.length + w.length + g'.length + 2 := by
  have htaken (g w g' r : Text) : taken ('(' :: (g ++ (w ++ (g' ++ '=' :: r)))) r =
      g.length + w.length + g'.length + 2 := by
    simp only [taken, List.length_cons, List.length_append]
    omega
  constructor
  · intro h
    obtain ⟨u, hopen, h⟩ := Option.bind_eq_some_iff.1 h
    obtain ⟨⟨ms, v⟩, hitems, h⟩ := Option.bind_eq_some_iff.1 h
    obtain ⟨r, hequals, hfound⟩ := Option.bind_eq_some_iff.1 h
    obtain ⟨g, hg, hu⟩ := Text.exists_gap u
    obtain ⟨-, w, hw, htrim⟩ := listItems?_eq_some_iff.1 hitems
    obtain ⟨g', hg', rfl⟩ := afterEquals?_eq_some_iff.1 hequals
    obtain rfl := Text.after?_eq_some_iff.1 hopen
    obtain ⟨rfl, rfl⟩ := Prod.mk.inj (Option.some.inj hfound)
    rw [htrim] at hu
    subst hu
    exact ⟨g, w, g', r, rfl, hg, hw, hg', htaken g w g' r⟩
  · rintro ⟨g, w, g', r, rfl, hg, hw, hg', rfl⟩
    have htrim : Text.trimStart (g ++ (w ++ (g' ++ '=' :: r))) = w ++ (g' ++ '=' :: r) := by
      obtain ⟨w', rfl⟩ := hw.head
      exact hg.trimStart_append rfl
    have hitems : listItems? (w ++ (g' ++ '=' :: r)).length (w ++ (g' ++ '=' :: r)) = some (ns, g' ++ '=' :: r) := by
      refine listItems?_eq_some_iff.2 ⟨?_, w, hw, rfl⟩
      rw [List.length_append]
      exact hw.length_le.trans (Nat.le_add_right _ _)
    have hequals : afterEquals? (g' ++ '=' :: r) = some r := afterEquals?_eq_some_iff.2 ⟨g', hg', rfl⟩
    simp only [listAt?, Text.after?_cons, Option.bind_eq_bind, Option.bind_some, htrim, hitems, hequals, htaken]

/-! ### What is listed -/

theorem mem_assigned_iff {t : Text} {x : String} : x ∈ assigned t ↔
    (∃ sigils ∈ [['$'], ['@', '%']], ∃ p, (p, x.toList) ∈ occurrences (declaredAt? sigils) t) ∨
      (∃ sigils ∈ [['$'], ['@', '%']], ∃ p, (p, x.toList) ∈ occurrences (assignedAt? sigils) t) ∨
      (∃ d ∈ elementDelimiters, ∃ p, (p, x.toList) ∈ occurrences (elementAt? d.1 d.2) t) ∨
      ∃ p ns, (p, ns) ∈ occurrences listAt? t ∧ x.toList ∈ ns := by
  have hname (find : Option Char → Text → Option (Text × Nat)) :
      x ∈ ((occurrences find t).map (·.2)).map String.ofList ↔ ∃ p, (p, x.toList) ∈ occurrences find t := by
    constructor
    · intro h
      obtain ⟨n, hn, rfl⟩ := List.mem_map.1 h
      obtain ⟨y, hy, rfl⟩ := List.mem_map.1 hn
      exact ⟨y.1, by simpa using hy⟩
    · rintro ⟨p, hp⟩
      exact List.mem_map.2 ⟨x.toList, List.mem_map.2 ⟨_, hp, rfl⟩, by simp⟩
  have hlists : x ∈ ((occurrences listAt? t).flatMap (·.2)).map String.ofList ↔
      ∃ p ns, (p, ns) ∈ occurrences listAt? t ∧ x.toList ∈ ns := by
    constructor
    · intro h
      obtain ⟨n, hn, rfl⟩ := List.mem_map.1 h
      obtain ⟨y, hy, hmem⟩ := List.mem_flatMap.1 hn
      exact ⟨y.1, y.2, hy, by simpa using hmem⟩
    · rintro ⟨p, ns, hp, hmem⟩
      exact List.mem_map.2 ⟨x.toList, List.mem_flatMap.2 ⟨_, hp, hmem⟩, by simp⟩
  simp only [assigned, mem_sortedNames_iff, List.map_append, List.mem_append, hname, hlists, elementDelimiters,
    List.mem_cons, List.not_mem_nil, or_false, exists_eq_or_imp, exists_eq_left, or_assoc]
  exact or_congr_right or_left_comm

theorem sigil_plain {c : Char} (h : c ∈ ['$', '@', '%']) :
    Text.isNameChar c = false ∧ Text.isBlank c = false ∧ c ≠ '=' := by
  simp only [List.mem_cons, List.not_mem_nil, or_false] at h
  rcases h with rfl | rfl | rfl <;> decide

theorem mem_occurrences_assignedAt?_iff {sigils : List Char} (hs : sigils ⊆ ['$', '@', '%']) {t n : Text} {p : Nat} :
    (p, n) ∈ occurrences (assignedAt? sigils) t ↔ ∃ k, FoundAt (assignedAt? sigils) t p n k := by
  apply mem_occurrences_iff_of_starts sigils.contains
  intro before u n k h
  obtain ⟨c, g, r, rfl, hc, hn, hg, rfl⟩ := assignedAt?_eq_some_iff.1 h
  refine ⟨c, n ++ (g ++ ['=']), r, by simp, by simp; omega, List.contains_iff_mem.2 hc, ?_⟩
  intro d hd
  rw [List.contains_eq_mem, decide_eq_false_iff_not]
  intro hsigil
  obtain ⟨hname, hblank, hequals⟩ := sigil_plain (hs hsigil)
  simp only [List.mem_append, List.mem_singleton] at hd
  rcases hd with hd | hd | hd
  · exact hn.not_mem hname hd
  · exact hg.not_mem hblank hd
  · exact hequals hd

theorem ScalarList.not_mem {ns : List Text} {w : Text} (h : ScalarList ns w) {c : Char}
    (hname : Text.isNameChar c = false) (hblank : Text.isBlank c = false) (hc : c ∉ ['$', ',', ')']) : c ∉ w := by
  simp only [List.mem_cons, List.not_mem_nil, or_false, not_or] at hc
  have hseparator {s : Text} (hs : IsSeparator s) : c ∉ s := by
    intro hmem
    rcases hs.mem hmem with h | h
    · rw [h] at hblank
      cases hblank
    · exact hc.2.1 h
  induction h with
  | last hn hs => simp [hc, hn.not_mem hname, hseparator hs]
  | cons hn hs _ ih => simp [hc, hn.not_mem hname, hseparator hs, ih]

theorem mem_occurrences_listAt?_iff {t : Text} {p : Nat} {ns : List Text} :
    (p, ns) ∈ occurrences listAt? t ↔ ∃ k, FoundAt listAt? t p ns k := by
  apply mem_occurrences_iff_of_starts (· == '(')
  intro before u ns k h
  obtain ⟨g, w, g', r, rfl, hg, hw, hg', rfl⟩ := listAt?_eq_some_iff.1 h
  refine ⟨'(', g ++ (w ++ (g' ++ ['='])), r, by simp, by simp; omega, rfl, ?_⟩
  intro d hd
  rw [beq_eq_false_iff_ne]
  rintro rfl
  simp only [List.mem_append, List.mem_singleton] at hd
  rcases hd with hd | hd | hd | hd
  · exact hg.not_mem rfl hd
  · exact hw.not_mem (by decide) rfl (by decide) hd
  · exact hg'.not_mem rfl hd
  · cases hd

/-- The text ends between the delimiters of an element. -/
def EndsInElement (o c : Char) (a : Text) : Prop :=
  ∃ b z g inner, a = b ++ '$' :: (z ++ (g ++ o :: inner)) ∧ IsName z ∧ IsGap g ∧ c ∉ inner

section

variable {o c : Char} (hd : (o, c) ∈ elementDelimiters)

include hd

theorem inside_of_covered {t v z : Text} {p q m : Nat} (h : FoundAt (elementAt? o c) t q z m)
    (hp : t.drop p = '$' :: v) (hlt : q < p) (hlt' : p < q + m) :
    ∃ b g inner, b.length = q ∧ t.take p = b ++ '$' :: (z ++ (g ++ o :: inner)) ∧ IsName z ∧ IsGap g ∧
      c ∉ inner := by
  obtain ⟨⟨-, -, ho⟩, ⟨-, -, hc⟩, -⟩ := delimiters_plain hd
  obtain ⟨g, inner, g', r, hdrop, hz, hg, -, hinner, hg', rfl⟩ := (elementAt?_eq_some_iff hd).1 h.2
  have hcut : t.drop q = (t.drop q).take (p - q) ++ '$' :: v := by
    rw [← hp, ← Nat.add_sub_cancel' hlt.le, ← List.drop_drop, Nat.add_sub_cancel_left, List.take_append_drop]
  obtain ⟨u, hu⟩ : ∃ u, (t.drop q).take (p - q) = '$' :: u := by
    rw [hdrop]
    exact ⟨_, List.take_cons (by omega)⟩
  have hsize : u.length + 1 + q = p := by
    have hlength := congrArg List.length hu
    have hbound := h.1
    have hbound' := congrArg List.length hp
    simp only [List.length_take, List.length_drop, List.length_cons] at hlength hbound'
    omega
  rw [hu, hdrop, List.cons_append, List.cons.injEq] at hcut
  obtain ⟨u₁, rfl, hname⟩ := Text.split_behind hcut.2.symm (hz.not_mem (by decide))
  obtain ⟨u₂, rfl, hgap⟩ := Text.split_behind hname.symm (hg.not_mem (by decide))
  obtain ⟨u₃, rfl, hrest⟩ := Text.split_behind (p := [o]) hgap.symm (by simpa using ho.symm)
  simp only [List.length_append, List.length_singleton] at hsize
  have hsplit : u₃ ++ '$' :: v = inner ++ c :: (g' ++ ['=']) ++ r := hrest.symm.trans (by simp)
  obtain ⟨w, hw, -⟩ := Text.split_within hsplit (by simp; omega)
  obtain ⟨w, rfl, -⟩ := Text.split_before hw.symm (by simp [hc.symm, hg'.not_mem (c := '$') rfl])
  refine ⟨t.take q, g, u₃, List.length_take_of_le h.1.le, ?_, hz, hg, fun hmem => hinner (List.mem_append_left _ hmem)⟩
  rw [← Nat.add_sub_cancel' hlt.le, List.take_add, hu]
  rfl

theorem foundAt_of_inside {t b z g inner n : Text} {p k : Nat} (ht : t.take p = b ++ '$' :: (z ++ (g ++ o :: inner)))
    (hz : IsName z) (hg : IsGap g) (hinner : c ∉ inner) (h : FoundAt (elementAt? o c) t p n k) :
    b.length < p ∧ ∃ m, FoundAt (elementAt? o c) t b.length z m ∧ b.length + m = p + k := by
  obtain ⟨-, ⟨hname, hblank, hdollar⟩, hne⟩ := delimiters_plain hd
  obtain ⟨g₁, inner₁, g', r, hdrop, hn, hg₁, -, hc, hg', rfl⟩ := (elementAt?_eq_some_iff hd).1 h.2
  have hp : p = b.length + (z.length + g.length + inner.length + 2) := by
    have hsize := congrArg List.length ht
    rw [List.length_take_of_le h.1.le] at hsize
    rw [hsize]
    simp
    omega
  obtain ⟨whole, hwhole⟩ : ∃ w, w = inner ++ '$' :: (n ++ (g₁ ++ o :: inner₁)) := ⟨_, rfl⟩
  have htext : t = b ++ '$' :: (z ++ (g ++ o :: (whole ++ c :: (g' ++ '=' :: r)))) := by
    rw [← List.take_append_drop p t, ht, hdrop, hwhole]
    simp
  refine ⟨by omega, z.length + g.length + whole.length + g'.length + 4, ?_, ?_⟩
  · rw [htext]
    refine foundAt_here.2 ((elementAt?_eq_some_iff hd).2 ⟨g, whole, g', r, rfl, hz, hg, ?_, ?_, hg', rfl⟩)
    · simp [hwhole]
    · simp [hwhole, hinner, hdollar, hn.not_mem hname, hg₁.not_mem hblank, hne, hc]
  · rw [hp, hwhole]
    simp
    omega

/-- Of elements that stand between the delimiters of each other, the outermost is listed. -/
theorem mem_occurrences_elementAt?_iff {t n : Text} {p : Nat} :
    (p, n) ∈ occurrences (elementAt? o c) t ↔
      (∃ k, FoundAt (elementAt? o c) t p n k) ∧ ¬ EndsInElement o c (t.take p) := by
  have hdollar {p k : Nat} {n : Text} (h : FoundAt (elementAt? o c) t p n k) : 0 < k ∧ ∃ v, t.drop p = '$' :: v := by
    obtain ⟨g, inner, g', r, hdrop, -, -, -, -, -, rfl⟩ := (elementAt?_eq_some_iff hd).1 h.2
    exact ⟨by omega, _, hdrop⟩
  constructor
  · intro hmem
    obtain ⟨k, hfound⟩ := foundAt_of_mem_occurrences hmem
    refine ⟨⟨k, hfound⟩, ?_⟩
    rintro ⟨b, z, g, inner, ht, hz, hg, hinner⟩
    obtain ⟨hlt, m, houter, hend⟩ := foundAt_of_inside hd ht hz hg hinner hfound
    -- the one around it, or what covers that one, is listed and ends at the same place
    obtain ⟨y, hy, m', hy', hle, hend'⟩ : ∃ y ∈ occurrences (elementAt? o c) t, ∃ m',
        FoundAt (elementAt? o c) t y.1 y.2 m' ∧ y.1 ≤ b.length ∧ y.1 + m' = p + k := by
      rcases mem_occurrences_or_covered houter with hlisted | ⟨y, hy, m', hcover, hlt, hlt'⟩
      · exact ⟨_, hlisted, m, houter, le_rfl, hend⟩
      · obtain ⟨v, hv⟩ := (hdollar houter).2
        obtain ⟨b', g', inner', hb', ht', hz', hg', hinner'⟩ := inside_of_covered hd hcover hv hlt hlt'
        obtain ⟨-, m'', hsame, hend'⟩ := foundAt_of_inside hd ht' hz' hg' hinner' houter
        rw [hb'] at hsame hend'
        obtain ⟨-, rfl⟩ := hcover.unique hsame
        exact ⟨y, hy, m', hcover, hlt.le, hend'.trans hend⟩
    have hapart := le_of_mem_occurrences hy hmem (by simp; omega) hy'
    have hpos := (hdollar hfound).1
    simp only at hapart
    omega
  · rintro ⟨⟨k, hfound⟩, hfree⟩
    rcases mem_occurrences_or_covered hfound with hmem | ⟨y, -, m, hcover, hlt, hlt'⟩
    · exact hmem
    · obtain ⟨v, hv⟩ := (hdollar hfound).2
      obtain ⟨b, g, inner, -, ht, hy, hg, hinner⟩ := inside_of_covered hd hcover hv hlt hlt'
      exact absurd ⟨b, y.2, g, inner, ht, hy, hg, hinner⟩ hfree

end

/-! ### Declarations and assignments -/

/-- A text declares a variable of a name: `my` or `our`, white space, and the name behind a sigil. -/
def DeclaredIn (n t : Text) : Prop :=
  ∃ a w g c r, t = a ++ (w ++ (g ++ c :: (n ++ r))) ∧ a.getLast?.any Text.isWord = false ∧
    (w = "my".toList ∨ w = "our".toList) ∧ g ≠ [] ∧ IsGap g ∧ c ∈ ['$', '@', '%'] ∧ IsName n ∧
    r.head?.any Text.isNameChar = false

/-- What is assigned to when a name gets a value, as it is written. -/
inductive Target (n : Text) : Text → Prop
  | whole {c : Char} (hc : c ∈ ['$', '@', '%']) (hn : IsName n) : Target n (c :: n)
  | element {o c : Char} {g inner : Text} (hd : (o, c) ∈ elementDelimiters) (hn : IsName n) (hg : IsGap g)
    (hinner : inner ≠ []) (hc : c ∉ inner) : Target n ('$' :: (n ++ (g ++ o :: inner)) ++ [c])
  | list {ns : List Text} {g w : Text} (hg : IsGap g) (hw : ScalarList ns w) (hn : n ∈ ns) : Target n ('(' :: (g ++ w))

/-- In a text, the target `w` stands behind `a`, with an equals sign behind it and then `rest`. -/
structure TargetAt (n t a w rest : Text) : Prop where
  target : Target n w
  text : ∃ g, IsGap g ∧ t = a ++ (w ++ (g ++ '=' :: rest))

/-- Whether an equals sign in front of the text is the first character of `==`, `=~` or `=>`. -/
def startsOperator (rest : Text) : Bool := rest.head?.any ['=', '~', '>'].contains

def AssignedIn (n t : Text) : Prop := ∃ a w rest, TargetAt n t a w rest ∧ startsOperator rest = false

/-- A target is reached by the scan unless it is an element that stands between the delimiters of another one. -/
def Reached (a w : Text) : Prop := ∀ d ∈ elementDelimiters, w.getLast? = some d.2 → ¬ EndsInElement d.1 d.2 a

/-- A target has a longer operator behind it that starts with an equals sign. -/
def ComparedIn (n t : Text) : Prop :=
  ∃ a w rest, TargetAt n t a w rest ∧ Reached a w ∧ startsOperator rest = true

theorem IsName.getLast {n : Text} (h : IsName n) : ∃ m c, n = m ++ [c] ∧ Text.isNameChar c = true := by
  rcases List.eq_nil_or_concat n with rfl | ⟨m, c, rfl⟩
  · cases h.start
  · exact ⟨m, c, by simp, h.chars c (by simp)⟩

theorem ScalarList.getLast {ns : List Text} {w : Text} (h : ScalarList ns w) : ∃ u, w = u ++ [')'] := by
  induction h with
  | @last n s _ _ => exact ⟨'$' :: (n ++ s), by simp⟩
  | @cons n s w _ _ _ _ ih =>
    obtain ⟨u, rfl⟩ := ih
    exact ⟨'$' :: (n ++ (s ++ u)), by simp⟩

theorem reached_of_last (a u : Text) {c : Char} (hc : Text.isNameChar c = true ∨ c = ')') : Reached a (u ++ [c]) := by
  intro d hd hlast
  rw [List.getLast?_concat, Option.some_inj] at hlast
  obtain ⟨-, ⟨hname, -, -⟩, -⟩ := delimiters_plain hd
  rcases hc with hc | rfl
  · rw [hlast, hname] at hc
    cases hc
  · rcases List.mem_pair.1 hd with rfl | rfl
    · cases hlast
    · cases hlast

theorem opener_unique {o o' c : Char} (h : (o, c) ∈ elementDelimiters) (h' : (o', c) ∈ elementDelimiters) : o' = o := by
  rcases List.mem_pair.1 h with h | h
  · cases h
    simpa [elementDelimiters] using h'
  · cases h
    simpa [elementDelimiters] using h'

theorem declaredIn_or_targetAt {t : Text} {x : String} (h : x ∈ assigned t) :
    DeclaredIn x.toList t ∨ ∃ a w rest, TargetAt x.toList t a w rest ∧ Reached a w := by
  have hsubset {sigils : List Char} (hs : sigils ∈ [['$'], ['@', '%']]) : sigils ⊆ ['$', '@', '%'] := by
    rcases List.mem_pair.1 hs with rfl | rfl <;> decide
  rcases mem_assigned_iff.1 h with ⟨sigils, hs, p, hmem⟩ | ⟨sigils, hs, p, hmem⟩ | ⟨d, hd, p, hmem⟩ | ⟨p, ns, hmem, hx⟩
  · obtain ⟨k, hfound⟩ := foundAt_of_mem_occurrences hmem
    obtain ⟨w, g, c, r, hdrop, hbefore, hw, hne, hg, hc, hn, hr⟩ := declaredAt?_eq_some hfound.2
    exact .inl ⟨t.take p, w, g, c, r, Text.eq_take_append hdrop, hbefore, hw, hne, hg, hsubset hs hc, hn, hr⟩
  · obtain ⟨k, hfound⟩ := foundAt_of_mem_occurrences hmem
    obtain ⟨c, g, r, hdrop, hc, hn, hg, -⟩ := assignedAt?_eq_some_iff.1 hfound.2
    obtain ⟨m, e, hlast, he⟩ := hn.getLast
    refine .inr ⟨t.take p, c :: x.toList, r, ⟨.whole (hsubset hs hc) hn, g, hg, Text.eq_take_append hdrop⟩, ?_⟩
    rw [show c :: x.toList = (c :: m) ++ [e] from congrArg (c :: ·) hlast]
    exact reached_of_last _ _ (.inl he)
  · obtain ⟨⟨k, hfound⟩, hfree⟩ := (mem_occurrences_elementAt?_iff hd).1 hmem
    obtain ⟨g, inner, g', r, hdrop, hn, hg, hinner, hc, hg', -⟩ := (elementAt?_eq_some_iff hd).1 hfound.2
    refine .inr ⟨t.take p, _, r, ⟨.element hd hn hg hinner hc, g', hg', ?_⟩, ?_⟩
    · exact (Text.eq_take_append hdrop).trans (by simp)
    · intro d' hd' hlast
      obtain ⟨o, c⟩ := d
      obtain ⟨o', c'⟩ := d'
      rw [List.getLast?_concat, Option.some_inj] at hlast
      obtain rfl : c = c' := hlast
      obtain rfl := opener_unique hd hd'
      exact hfree
  · obtain ⟨k, hfound⟩ := foundAt_of_mem_occurrences hmem
    obtain ⟨g, w, g', r, hdrop, hg, hw, hg', -⟩ := listAt?_eq_some_iff.1 hfound.2
    obtain ⟨u, rfl⟩ := hw.getLast
    refine .inr ⟨t.take p, _, r, ⟨.list hg hw hx, g', hg', ?_⟩, ?_⟩
    · exact (Text.eq_take_append hdrop).trans (by simp)
    · rw [← List.append_assoc, ← List.cons_append]
      exact reached_of_last _ _ (.inr rfl)

/-- Every target that the scan reaches is listed, whatever operator its equals sign belongs to. -/
theorem mem_assigned_of_targetAt {n t a w rest : Text} (h : TargetAt n t a w rest) (hreached : Reached a w) :
    String.ofList n ∈ assigned t := by
  obtain ⟨htarget, g', hg', rfl⟩ := h
  rw [mem_assigned_iff, String.toList_ofList]
  cases htarget with
  | @whole c hc hn =>
    obtain ⟨sigils, hs, hsubset, hmem⟩ :
        ∃ sigils ∈ [['$'], ['@', '%']], sigils ⊆ ['$', '@', '%'] ∧ c ∈ sigils := by
      simp only [List.mem_cons, List.not_mem_nil, or_false] at hc
      rcases hc with rfl | rfl | rfl
      · exact ⟨['$'], by simp, by decide, by simp⟩
      · exact ⟨['@', '%'], by simp, by decide, by simp⟩
      · exact ⟨['@', '%'], by simp, by decide, by simp⟩
    have hfound : assignedAt? sigils a.getLast? (c :: (n ++ (g' ++ '=' :: rest))) =
        some (n, n.length + g'.length + 2) :=
      assignedAt?_eq_some_iff.2 ⟨c, g', rest, rfl, hmem, hn, hg', rfl⟩
    exact .inr (.inl ⟨sigils, hs, _, (mem_occurrences_assignedAt?_iff hsubset).2 ⟨_, foundAt_here.2 hfound⟩⟩)
  | @element o c g inner hd hn hg hinner hc =>
    have hfound : elementAt? o c a.getLast? ('$' :: (n ++ (g ++ o :: (inner ++ c :: (g' ++ '=' :: rest))))) =
        some (n, n.length + g.length + inner.length + g'.length + 4) :=
      (elementAt?_eq_some_iff hd).2 ⟨g, inner, g', rest, rfl, hn, hg, hinner, hc, hg', rfl⟩
    have htext : a ++ ('$' :: (n ++ (g ++ o :: inner)) ++ [c] ++ (g' ++ '=' :: rest)) =
        a ++ '$' :: (n ++ (g ++ o :: (inner ++ c :: (g' ++ '=' :: rest)))) := by simp
    refine .inr (.inr (.inl ⟨(o, c), hd, a.length, ?_⟩))
    rw [htext]
    refine (mem_occurrences_elementAt?_iff hd).2 ⟨⟨_, foundAt_here.2 hfound⟩, ?_⟩
    rw [List.take_left]
    exact hreached (o, c) hd List.getLast?_concat
  | @list ns g w hg hw hn =>
    have hfound : listAt? a.getLast? ('(' :: (g ++ (w ++ (g' ++ '=' :: rest)))) =
        some (ns, g.length + w.length + g'.length + 2) :=
      listAt?_eq_some_iff.2 ⟨g, w, g', rest, rfl, hg, hw, hg', rfl⟩
    refine .inr (.inr (.inr ⟨a.length, ns, ?_, hn⟩))
    rw [List.cons_append, List.append_assoc]
    exact mem_occurrences_listAt?_iff.2 ⟨_, foundAt_here.2 hfound⟩

/-- A name that is listed is declared, or it is assigned up to the operator: a target of it has an equals sign behind
it. That sign is always one of an assignment just if each name that is compared is declared or assigned as well. -/
theorem assigned_sound_iff (t : Text) :
    (∀ x ∈ assigned t, DeclaredIn x.toList t ∨ ∃ a w rest, TargetAt x.toList t a w rest) ∧
      ((∀ x ∈ assigned t, DeclaredIn x.toList t ∨ AssignedIn x.toList t) ↔
        ∀ n, ComparedIn n t → DeclaredIn n t ∨ AssignedIn n t) := by
  refine ⟨?_, ?_, ?_⟩
  · intro x hx
    rcases declaredIn_or_targetAt hx with hdeclared | ⟨a, w, rest, htarget, -⟩
    · exact .inl hdeclared
    · exact .inr ⟨a, w, rest, htarget⟩
  · rintro hsound n ⟨a, w, rest, htarget, hreached, -⟩
    have hlisted := hsound _ (mem_assigned_of_targetAt htarget hreached)
    rwa [String.toList_ofList] at hlisted
  · intro hcompared x hx
    rcases declaredIn_or_targetAt hx with hdeclared | ⟨a, w, rest, htarget, hreached⟩
    · exact .inl hdeclared
    · cases hoperator : startsOperator rest with
      | false => exact .inr ⟨a, w, rest, htarget, hoperator⟩
      | true => exact hcompared _ ⟨a, w, rest, htarget, hreached, hoperator⟩

theorem TargetAt.getLast? {n t a w rest : Text} (h : TargetAt n t a w rest) :
    ∃ u, t = u ++ '=' :: rest ∧ u.getLast? ≠ some '=' := by
  obtain ⟨htarget, g, hg, rfl⟩ := h
  refine ⟨a ++ (w ++ g), by simp, ?_⟩
  rcases List.eq_nil_or_concat g with rfl | ⟨g, c, rfl⟩
  · obtain ⟨u, c, rfl, hc⟩ : ∃ u c, w = u ++ [c] ∧ c ≠ '=' := by
      cases htarget with
      | @whole c hc hn =>
        obtain ⟨m, e, rfl, he⟩ := hn.getLast
        exact ⟨c :: m, e, rfl, fun heq => absurd (heq ▸ he) (by decide)⟩
      | @element o c g inner hd _ _ _ _ =>
        refine ⟨_, c, rfl, ?_⟩
        rcases List.mem_pair.1 hd with hd | hd <;> cases hd <;> decide
      | @list ns g w _ hw _ =>
        obtain ⟨u, rfl⟩ := hw.getLast
        exact ⟨'(' :: (g ++ u), ')', by simp, by decide⟩
    rw [List.append_nil, ← List.append_assoc, List.getLast?_concat]
    simpa using hc
  · rw [List.concat_eq_append] at hg ⊢
    rw [← List.append_assoc, ← List.append_assoc, List.getLast?_concat]
    have hblank : Text.isBlank c = true := hg c (by simp)
    rintro ⟨⟩
    cases hblank

/-- A variable that is only compared is listed. -/
theorem compared_variable_listed :
    ∃ x ∈ assigned "$x == 1".toList,
      ¬ (DeclaredIn x.toList "$x == 1".toList ∨ AssignedIn x.toList "$x == 1".toList) := by
  have hname : IsName ['x'] := ⟨rfl, List.all_eq_true.1 rfl⟩
  have htarget : TargetAt ['x'] "$x == 1".toList [] ['$', 'x'] ['=', ' ', '1'] :=
    ⟨.whole (by simp) hname, [' '], List.all_eq_true.1 rfl, rfl⟩
  refine ⟨_, mem_assigned_of_targetAt htarget (reached_of_last [] ['$'] (.inl rfl)), ?_⟩
  rintro (⟨a, w, g, c, r, ht, -, hw, -⟩ | ⟨a, w, rest, h, hoperator⟩)
  · have hmem : ∀ d ∈ w, d ∈ "$x == 1".toList := by
      intro d hd
      rw [ht]
      exact List.mem_append_right a (List.mem_append_left _ hd)
    rcases hw with rfl | rfl
    · exact absurd (hmem 'm' (by decide)) (by decide)
    · exact absurd (hmem 'o' (by decide)) (by decide)
  · obtain ⟨u, ht, hlast⟩ := h.getLast?
    -- the first sign starts an operator, and the second one has a sign right before it
    have hsplit : u ++ '=' :: rest = ['$', 'x', ' '] ++ ['=', '=', ' ', '1'] := ht.symm
    obtain ⟨u, rfl, hsigns⟩ := Text.split_behind hsplit (by decide)
    cases u with
    | nil =>
      cases hsigns
      cases hoperator
    | cons d u =>
      obtain ⟨rfl, hsecond⟩ := List.cons.inj hsigns
      cases u with
      | nil => exact hlast rfl
      | cons e u =>
        have hsign : '=' ∈ [' ', '1'] := by
          rw [(List.cons.inj hsecond).2]
          exact List.mem_append_right u List.mem_cons_self
        exact absurd hsign (by decide)

end Variable
end ProblemLint
