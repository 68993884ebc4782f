import ProblemLint.Proofs.Selection

/-! Issues of a run. A run of any checks puts together what they report, in the order of the checks, gives every issue
without a name the name of its check, and sorts. Nothing is lost, added or repeated on the way, and issues that the
order does not tell apart stay as they were reported. -/

namespace ProblemLint

/-! ### Names -/

theorem Fields.erase_set (fs : Fields) (key : String) (v : Value) : erase (set fs key v) key = erase fs key := by
  have hmap : (fs.map fun f => if f.1 == key then (key, v) else f).filter (·.1 != key) = fs.filter (·.1 != key) := by
    induction fs with
    | nil => rfl
    | cons f fs ih =>
      by_cases hf : f.1 = key
      · simpa [hf] using ih
      · simpa [hf] using ih
  rw [set]
  split
  · exact hmap
  · simp [erase]

namespace Issue

/-- An issue does not say which check it comes from. -/
def Unnamed (i : Issue) : Prop := i.get? "plugin" = none ∨ i.get? "plugin" = some .null

/-- The issue `j` is the issue `i` of the check `id`, with the name of the check if it had none. -/
structure Named (id : String) (i j : Issue) : Prop where
  others : Fields.erase j.fields "plugin" = Fields.erase i.fields "plugin"
  given : i.Unnamed → j.get? "plugin" = some (.str id)
  kept : ¬ i.Unnamed → j = i

theorem tag_of_unnamed {i : Issue} (h : i.Unnamed) (id : String) : i.tag id = i.set "plugin" (.str id) := by
  rcases h with h | h
  · rw [tag, h]
  · rw [tag, h]

theorem tag_of_not_unnamed {i : Issue} (h : ¬ i.Unnamed) (id : String) : i.tag id = i := by
  rw [tag]
  split
  · next hnone => exact absurd (.inl hnone) h
  · next hnull => exact absurd (.inr hnull) h
  · rfl

theorem named_tag (id : String) (i : Issue) : Named id i (i.tag id) := by
  by_cases h : i.Unnamed
  · rw [tag_of_unnamed h]
    exact ⟨Fields.erase_set _ _ _, fun _ => get?_set_self _ _ _, fun hnot => absurd h hnot⟩
  · rw [tag_of_not_unnamed h]
    exact ⟨rfl, fun hunnamed => absurd hunnamed h, fun _ => rfl⟩

/-! ### Order -/

/-- What issues are ordered by: the line, which counts as the last one when it is missing or no integer, and the code
points of the message. -/
def rank (i : Issue) : ℤ ×ₗ List ℕ := toLex (i.line?.getD 1000000000, i.message.map Char.toNat)

end Issue

theorem Text.le_iff (a b : Text) : le a b = true ↔ a.map Char.toNat ≤ b.map Char.toNat := by
  induction a generalizing b with
  | nil =>
    cases b with
    | nil => simp [le]
    | cons y b => exact iff_of_true rfl (List.nil_lt_cons _ _).le
  | cons x a ih =>
    cases b with
    | nil => simp [le]
    | cons y b =>
      have hlt : x.toNat < y.toNat ↔ x < y := Iff.rfl
      rw [List.map_cons, List.map_cons, le_iff_lt_or_eq, List.cons_lt_cons_iff, List.cons.injEq, le]
      by_cases hxy : x = y
      · simp [hxy, ih, le_iff_lt_or_eq]
      · have hcode : x.toNat ≠ y.toNat := fun h => hxy (Char.toNat_inj.1 h)
        simp [hxy, hcode, hlt]

namespace Issue

theorem rank_eq (i : Issue) : i.rank = toLex (i.sortKey.1, i.sortKey.2.map Char.toNat) := rfl

theorem le_iff_rank_le (a b : Issue) : le a b = true ↔ a.rank ≤ b.rank := by
  rw [rank_eq, rank_eq, Prod.Lex.toLex_le_toLex, ← Text.le_iff, le]
  by_cases h : a.sortKey.1 = b.sortKey.1
  · simp [h]
  · simp [h]

theorem sort_perm (issues : List Issue) : (sort issues).Perm issues := List.mergeSort_perm issues le

theorem sort_ordered (issues : List Issue) : (sort issues).Pairwise fun a b => a.rank ≤ b.rank :=
  (List.pairwise_mergeSort le_trans le_total issues).imp fun h => (le_iff_rank_le _ _).1 h

theorem sort_of_ordered {issues : List Issue} (h : issues.Pairwise fun a b => a.rank ≤ b.rank) :
    sort issues = issues :=
  List.mergeSort_of_pairwise (h.imp fun h => (le_iff_rank_le _ _).2 h)

theorem filter_rank_sort (k : ℤ ×ₗ List ℕ) (issues : List Issue) :
    (sort issues).filter (fun i => i.rank = k) = issues.filter fun i => i.rank = k := by
  rw [sort_filter]
  refine sort_of_ordered (List.pairwise_of_forall_mem_list fun a ha b hb => ?_)
  rw [of_decide_eq_true (List.mem_filter.1 ha).2, of_decide_eq_true (List.mem_filter.1 hb).2]

end Issue

/-! ### Runs -/

/-- The checks run on a document one after the other, each on what the one before it leaves, and each returns: the
lists of issues that they report, with the names of the checks, and the document that the last one leaves. -/
inductive Returned : Document → List Check → List (String × List Issue) → Document → Prop
  | nil (d : Document) : Returned d [] [] d
  | cons {c : Check} {cs : List Check} {d d' : Document} {r : Report} {lists : List (String × List Issue)}
      (hfirst : c.run d = .ok r) (hrest : Returned r.document cs lists d') :
      Returned d (c :: cs) ((c.id, r.issues) :: lists) d'

def reported (lists : List (String × List Issue)) : List (String × Issue) :=
  lists.flatMap fun x => x.2.map fun i => (x.1, i)

theorem Returned.runChecks_eq {d d' : Document} {cs : List Check} {lists : List (String × List Issue)}
    (h : Returned d cs lists d') : runChecks d cs = .ok ⟨(reported lists).map fun x => x.2.tag x.1, d'⟩ := by
  induction h with
  | nil d => rfl
  | @cons c cs d d' r lists hfirst hrest ih =>
    simp only [runChecks, hfirst, ih, bind, Except.bind]
    simp [reported]

/-- What a run makes of the issues of its checks. -/
structure Collected (lists : List (String × List Issue)) (named sorted : List Issue) : Prop where
  /-- Each issue has the name of its check if it had none, and is otherwise as it was. -/
  names : List.Forall₂ (fun x j => Issue.Named x.1 x.2 j) (reported lists) named
  /-- None is lost, added or repeated. -/
  perm : sorted.Perm named
  ordered : sorted.Pairwise fun a b => a.rank ≤ b.rank
  /-- Those of one rank stay as they were reported, by check and then by place in its list. -/
  stable : ∀ k, sorted.filter (fun i => i.rank = k) = named.filter fun i => i.rank = k
  sort_eq : Issue.sort sorted = sorted

/-- A run of checks that return gives all the issues that they report, named and in order. -/
theorem runSorted_collects {d d' : Document} {checks : List Check} {lists : List (String × List Issue)}
    (h : Returned d checks lists d') :
    ∃ named sorted, runSorted d checks = .ok ⟨sorted, d'⟩ ∧ Collected lists named sorted := by
  have hrun := h.runChecks_eq
  set named := (reported lists).map fun x => x.2.tag x.1 with hnamed
  refine ⟨named, Issue.sort named, ?_, ?_⟩
  · simp only [runSorted, hrun, bind, Except.bind]
  · refine ⟨?_, Issue.sort_perm named, Issue.sort_ordered named, fun k => Issue.filter_rank_sort k named,
      Issue.sort_of_ordered (Issue.sort_ordered named)⟩
    rw [hnamed, List.forall₂_map_right_iff]
    exact List.forall₂_same.2 fun x _ => Issue.named_tag x.1 x.2

theorem returned_reporting (d : Document) (lists : List (String × List Issue)) :
    Returned d (lists.map fun x => .reporting x.1 "" fun _ => x.2) lists d := by
  induction lists with
  | nil => exact .nil d
  | cons x lists ih => exact .cons (r := ⟨x.2, d⟩) rfl ih

/-- Issues of one rank from two checks, with a name, without a line, and with a line that is no integer. -/
def mixedLists : List (String × List Issue) :=
  [ ("first", [⟨[("line", .str "2"), ("plugin", .null)]⟩, .onLine .error "b" 2])
  , ("second", [⟨[("message", .str "b"), ("plugin", .str "other"), ("line", .int 2)]⟩, .general .warning ""]) ]

theorem runSorted_collects_mixed :
    ∃ named sorted, runSorted {} (mixedLists.map fun x => .reporting x.1 "" fun _ => x.2) = .ok ⟨sorted, {}⟩ ∧
      Collected mixedLists named sorted :=
  runSorted_collects (returned_reporting {} mixedLists)

end ProblemLint
