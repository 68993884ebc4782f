import ProblemLint.Proofs.CollectedIssues
import ProblemLint.Proofs.LineTexts
import ProblemLint.Proofs.Newlines
import ProblemLint.Proofs.Occurrences

/-! Excerpts. Line and column of an issue come from a binary search among the line feeds, and the excerpt is cut from
the lines of the text. Where line feeds are the only breaks the two agree: the excerpt of an issue about a position is
a part of the line on which the position lies, and it shows the position unless there is a blank. -/

namespace ProblemLint

namespace Text

/-- The line of a text on which a position lies, with what stands before and after the line. -/
structure LineAt (t : Text) (p : Nat) (before l after : Text) : Prop where
  text_eq : t = before ++ (l ++ after)
  before_ends : before = [] ∨ before.getLast? = some '\n'
  no_newline : '\n' ∉ l
  after_starts : after = [] ∨ after.head? = some '\n'
  start_le : before.length ≤ p
  lt_stop : p < before.length + l.length

theorem exists_lineAt {t : Text} {p : Nat} {c : Char} (hp : t[p]? = some c) (hc : c ≠ '\n') :
    ∃ before l after, LineAt t p before l after := by
  induction t generalizing p with
  | nil => cases hp
  | cons d r ih =>
    cases p with
    | zero =>
      obtain rfl : d = c := by simpa using hp
      refine ⟨[], d :: r.takeWhile (· ≠ '\n'), r.dropWhile (· ≠ '\n'), ?_, .inl rfl, ?_, ?_, Nat.zero_le _, by simp⟩
      · rw [List.nil_append, List.cons_append, List.takeWhile_append_dropWhile]
      · intro hmem
        rcases List.mem_cons.1 hmem with h | h
        · exact hc h.symm
        · simpa using List.mem_takeWhile_imp h
      · have hhead := List.head?_dropWhile_not (fun x => decide (x ≠ '\n')) r
        cases hrest : r.dropWhile (fun x => decide (x ≠ '\n')) with
        | nil => exact .inl rfl
        | cons x rest =>
          rw [hrest] at hhead
          exact .inr (by simpa using hhead)
    | succ p =>
      obtain ⟨before, l, after, h⟩ := ih hp
      obtain ⟨rfl, hbefore, hl, hafter, hle, hlt⟩ := h
      by_cases hstart : before = [] ∧ d ≠ '\n'
      · -- the line begins one character earlier
        obtain ⟨rfl, hd⟩ := hstart
        refine ⟨[], d :: l, after, rfl, .inl rfl, ?_, hafter, Nat.zero_le _, ?_⟩
        · exact List.not_mem_cons_of_ne_of_not_mem (Ne.symm hd) hl
        · simpa using hlt
      · refine ⟨d :: before, l, after, rfl, .inr ?_, hl, hafter, ?_, ?_⟩
        · rcases hbefore with rfl | hbefore
          · simpa using hstart
          · rw [List.getLast?_cons, hbefore]
            rfl
        · rw [List.length_cons]
          omega
        · rw [List.length_cons]
          omega

namespace LineAt

variable {t : Text} {p : Nat} {before l after : Text}

theorem getElem?_line (h : LineAt t p before l after) : l[p - before.length]? = t[p]? := by
  have hlt := h.lt_stop
  have hle := h.start_le
  rw [h.text_eq, List.getElem?_append_right hle, List.getElem?_append_left (by omega)]

theorem take_eq (h : LineAt t p before l after) : t.take p = before ++ l.take (p - before.length) := by
  have hlt := h.lt_stop
  rw [h.text_eq, List.take_append, List.take_of_length_le h.start_le, List.take_append_of_le_length (by omega)]

theorem lineOf_eq (h : LineAt t p before l after) : (NewlineIndex.ofText t).lineOf p = before.count '\n' + 1 := by
  have hl : (l.take (p - before.length)).count '\n' = 0 :=
    List.count_eq_zero.2 fun hmem => h.no_newline (List.mem_of_mem_take hmem)
  rw [NewlineIndex.lineOf_ofText, Int.toNat_natCast, h.take_eq, List.count_append, hl]
  omega

theorem columnOf_eq (h : LineAt t p before l after) :
    (NewlineIndex.ofText t).columnOf p = ((p - before.length : Nat) : Int) + 1 := by
  have hlt := h.lt_stop
  have hle := h.start_le
  have hlength : (l.take (p - before.length)).length = p - before.length := by
    rw [List.length_take]
    omega
  have hcolumn := NewlineIndex.columnOf_ofText (u := l.take (p - before.length))
    (v := l.drop (p - before.length) ++ after) h.before_ends fun hmem => h.no_newline (List.mem_of_mem_take hmem)
  rwa [← List.append_assoc (List.take _ _), List.take_append_drop, ← h.text_eq, hlength, Nat.add_sub_cancel' hle] at hcolumn

end LineAt

theorem length_lineTexts {t : Text} (hbreak : ∀ c ∈ t, isLineBreak c = true → c = '\n')
    (hend : t = [] ∨ t.getLast? = some '\n') : (lineTexts t).length = t.count '\n' := by
  have hone : ∀ m ∈ lineTexts t, (List.count '\n' ∘ (· ++ ['\n'])) m = 1 := by
    intro m hm
    have hnot : '\n' ∉ m := fun hmem => absurd (not_break_of_mem_lineTexts hm '\n' hmem) (by decide)
    rw [Function.comp, List.count_append, List.count_eq_zero.2 hnot, List.count_singleton_self]
  have hflatten : ((lineTexts t).map (· ++ ['\n'])).flatten = t := by rw [map_lineTexts hbreak hend, lines_flatten]
  conv_rhs => rw [← hflatten, List.count_flatten, List.map_map, List.map_congr_left (g := fun _ => 1) hone]
  simp

theorem LineAt.getElem?_lineTexts {t : Text} {p : Nat} {before l after : Text} (h : LineAt t p before l after)
    (hbreak : ∀ c ∈ t, isLineBreak c = true → c = '\n') : (lineTexts t)[before.count '\n']? = some l := by
  have hlt := h.lt_stop
  have hle := h.start_le
  obtain ⟨rfl, hbefore, hl, hafter, -, -⟩ := h
  have hnot : ∀ c ∈ l, isLineBreak c = false := by
    intro c hc
    by_contra hcontra
    exact hl (hbreak c (by simp [hc]) (by simpa using hcontra) ▸ hc)
  have hfirst : ∃ rest, lineTexts (l ++ after) = l :: rest := by
    rcases hafter with rfl | hafter
    · refine ⟨[], ?_⟩
      rw [List.append_nil, lineTexts_last (fun hnil => ?_) hnot]
      rw [hnil, List.length_nil] at hlt
      omega
    · obtain ⟨rest, rfl⟩ := List.head?_eq_some_iff.1 hafter
      exact ⟨_, lineTexts_line hnot rest⟩
  obtain ⟨rest, hrest⟩ := hfirst
  have hlength := length_lineTexts (fun c hc => hbreak c (List.mem_append_left _ hc)) hbefore
  rw [lineTexts, lines_append hbefore, List.map_append, ← lineTexts, ← lineTexts, hrest, ← hlength,
    List.getElem?_append_right le_rfl, Nat.sub_self]
  rfl

end Text

/-! ### Excerpts -/

def ShowsAt (l : Text) (k : Nat) (part : Text) : Prop :=
  ∃ a b, l = a ++ (part ++ b) ∧ a.length ≤ k ∧ k < a.length + part.length

/-- Dots stand where a window of `w` characters on either side of the one behind `k` others leaves out something of a
line of a given size. -/
def dotted (w k size : Nat) (part : Text) : Text :=
  (if w < k then "...".toList else []) ++ (part ++ if k + w < size then "...".toList else [])

theorem showsAt_window {l : Text} {k w : Nat} {c : Char} (hk : l[k]? = some c) (hc : Text.isBlank c = false)
    (hw : 1 ≤ w) :
    ShowsAt l k (Text.trimStart ((l.drop (k - w)).take (min l.length (k + w) - (k - w)))) := by
  set window := (l.drop (k - w)).take (min l.length (k + w) - (k - w)) with hwindow
  have hlt : k < l.length := (List.getElem?_eq_some_iff.1 hk).1
  have hsize : window.length = min l.length (k + w) - (k - w) := by
    rw [hwindow, List.length_take, List.length_drop]
    omega
  have hat : window[k - (k - w)]? = some c := by
    rw [hwindow, List.getElem?_take_of_lt (by omega), List.getElem?_drop, Nat.add_sub_cancel' (Nat.sub_le k w), hk]
  have hsplit := List.takeWhile_append_dropWhile (p := Text.isBlank) (l := window)
  -- the character is not among the blanks in front
  have hblanks : (window.takeWhile Text.isBlank).length ≤ k - (k - w) := by
    by_contra hgt
    rw [← hsplit, List.getElem?_append_left (by omega)] at hat
    have := List.mem_takeWhile_imp (List.mem_of_getElem? hat)
    rw [hc] at this
    cases this
  have hlength := congrArg List.length hsplit
  rw [List.length_append] at hlength
  refine ⟨l.take (k - w) ++ window.takeWhile Text.isBlank, l.drop (min l.length (k + w)), ?_, ?_, ?_⟩
  · have hrest : l.drop (min l.length (k + w)) = (l.drop (k - w)).drop (min l.length (k + w) - (k - w)) := by
      rw [List.drop_drop, Nat.add_sub_cancel' (by omega)]
    rw [List.append_assoc, ← List.append_assoc (window.takeWhile _), Text.trimStart, hsplit, hrest, hwindow,
      List.take_append_drop, List.take_append_drop]
  · rw [List.length_append, List.length_take]
    omega
  · rw [List.length_append, List.length_take, Text.trimStart]
    omega

theorem ShowsAt.isEmpty_eq {l part : Text} {k : Nat} (h : ShowsAt l k part) : ¬ part.isEmpty = true := by
  obtain ⟨a, b, -, hle, hlt⟩ := h
  rw [List.isEmpty_iff]
  rintro rfl
  exact absurd hlt (Nat.not_lt.2 hle)

namespace Issue

theorem excerpt?_eq {i : Issue} {w n k : Nat} {ls : List Text} {l : Text} {c : Char} (hline : i.line? = some ((n : Int) + 1))
    (hcolumn : i.column? = some ((k : Int) + 1)) (hl : ls[n]? = some l) (hk : l[k]? = some c)
    (hc : Text.isBlank c = false) (hw : 1 ≤ w) :
    ∃ part, ShowsAt l k part ∧ part.length ≤ 2 * w ∧ i.excerpt? w ls.toArray = some (dotted w k l.length part) := by
  have hshows := showsAt_window hk hc hw
  refine ⟨_, hshows, ?_, ?_⟩
  · have hle := (Text.trimStart_suffix ((l.drop (k - w)).take (min l.length (k + w) - (k - w)))).length_le
    rw [List.length_take] at hle
    omega
  · have hn : n < ls.length := (List.getElem?_eq_some_iff.1 hl).1
    have hlt : k < l.length := (List.getElem?_eq_some_iff.1 hk).1
    have hnumber : ¬ (decide ((n : Int) + 1 < 1) || decide ((n : Int) + 1 > ls.toArray.size)) = true := by
      simp
      omega
    have htext : ls.toArray.getD ((n : Int) + 1 - 1).toNat [] = l := by simp [hl]
    have hfilled : ¬ l.isEmpty = true := by
      rw [List.isEmpty_iff]
      rintro rfl
      cases hlt
    have hat : max 0 (min (l.length : Int) ((k : Int) + 1 - 1)) = (k : Int) := by omega
    have hstart : max 0 ((k : Int) - w) = ((k - w : Nat) : Int) := by omega
    have hstop : min (l.length : Int) ((k : Int) + w) = ((min l.length (k + w) : Nat) : Int) := by omega
    have hleft : ((k - w : Nat) : Int) > 0 ↔ w < k := by omega
    have hright : ((min l.length (k + w) : Nat) : Int) < l.length ↔ k + w < l.length := by omega
    unfold excerpt?
    simp only [hline, hcolumn, bind, Option.bind_some, if_neg hnumber, htext, if_neg hfilled, hat, hstart, hstop,
      Text.slice_natCast, hleft, hright]
    rw [if_neg hshows.isEmpty_eq, dotted]
    split_ifs <;> simp

/-- The issue `j` is the issue `i` with an excerpt of a text. Nothing but the excerpt is new, and if `i` is about a
position that holds no blank, the excerpt shows this position, as a part of its line with dots where the window leaves
out something. -/
structure Excerpted (t : Text) (w : Nat) (i j : Issue) : Prop where
  others : Fields.erase j.fields "excerpt" = Fields.erase i.fields "excerpt"
  shown : ∀ (p : Nat) (c : Char), t[p]? = some c → Text.isBlank c = false →
    i.line? = some ((NewlineIndex.ofText t).lineOf p : Int) →
    i.column? = some ((NewlineIndex.ofText t).columnOf p) →
    ∃ before l after part, Text.LineAt t p before l after ∧
      ShowsAt l (p - before.length) part ∧ part.length ≤ 2 * w ∧
      j.get? "excerpt" = some (.str (String.ofList (dotted w (p - before.length) l.length part)))

/-- Where line feeds are the only breaks, every issue gets the excerpt that its line and column ask for. -/
theorem attachExcerpts_shows {t : Text} (hbreak : ∀ c ∈ t, Text.isLineBreak c = true → c = '\n') {w : Nat}
    (hw : 1 ≤ w) (issues : List Issue) : List.Forall₂ (Excerpted t w) issues (attachExcerpts t issues w) := by
  rw [attachExcerpts, List.forall₂_map_right_iff]
  refine List.forall₂_same.2 fun i _ => ⟨?_, ?_⟩
  · split
    · exact Fields.erase_set _ _ _
    · rfl
  · intro p c hp hc hline hcolumn
    have hnewline : c ≠ '\n' := by
      rintro rfl
      cases hc
    obtain ⟨before, l, after, hat⟩ := Text.exists_lineAt hp hnewline
    rw [hat.lineOf_eq, Nat.cast_succ] at hline
    rw [hat.columnOf_eq] at hcolumn
    obtain ⟨part, hshows, hlength, hexcerpt⟩ :=
      excerpt?_eq hline hcolumn (hat.getElem?_lineTexts hbreak) (hat.getElem?_line.trans hp) hc hw
    refine ⟨before, l, after, part, hat, hshows, hlength, ?_⟩
    rw [hexcerpt]
    exact get?_set_self _ _ _

/-- On the last of three lines, the window begins with a blank and leaves something out on both sides. -/
theorem attachExcerpts_shows_last_line :
    ∃ before l after part, Text.LineAt "a\n\n  bc de fg".toList 8 before l after ∧
      ShowsAt l (8 - before.length) part ∧ part.length ≤ 2 * 1 ∧
      (attachExcerpts "a\n\n  bc de fg".toList [.atColumn .error "" 3 6] (1 : Nat)).map (·.get? "excerpt") =
        [some (.str (String.ofList (dotted 1 (8 - before.length) l.length part)))] := by
  have hbreak : ∀ c ∈ "a\n\n  bc de fg".toList, Text.isLineBreak c = true → c = '\n' := by
    have hall : "a\n\n  bc de fg".toList.all (fun c => !Text.isLineBreak c || c == '\n') = true := rfl
    intro c hc
    simpa [imp_iff_not_or] using List.all_eq_true.1 hall c hc
  have hline : (NewlineIndex.ofText "a\n\n  bc de fg".toList).lineOf (8 : Nat) = 3 := NewlineIndex.lineOf_ofText _ _
  have hcolumn : (NewlineIndex.ofText "a\n\n  bc de fg".toList).columnOf (8 : Nat) = 6 :=
    NewlineIndex.columnOf_ofText (a := "a\n\n".toList) (u := "  bc ".toList) (v := "de fg".toList) (.inr rfl) (by decide)
  have h := attachExcerpts_shows hbreak le_rfl [.atColumn .error "" 3 6]
  generalize attachExcerpts _ _ _ = shown at h ⊢
  obtain _ | ⟨hissue, _ | _⟩ := h
  obtain ⟨before, l, after, part, hat, hshows, hlength, hexcerpt⟩ :=
    hissue.shown 8 'd' rfl rfl (by rw [hline]; rfl) (by rw [hcolumn]; rfl)
  exact ⟨before, l, after, part, hat, hshows, hlength, by rw [List.map_singleton, hexcerpt]⟩

end Issue

end ProblemLint
