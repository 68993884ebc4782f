import ProblemLint.Changelog.Edit
import ProblemLint.Proofs.LineTexts
import ProblemLint.Proofs.Scripts

/-! Commit messages on their way through the editor. The message is written with comments below it, and read back
without the lines that start with a number sign. All comments go, but so does every line of the message that starts
that way: the first item of a change may begin with the number of a ticket, and a heading of the first level is a
line of the body. The message comes back whole just if none of its lines starts with a number sign. -/

namespace ProblemLint

namespace Changelog

open Text (isLineBreak)

/-! ### Seed messages -/

theorem not_break_of_mem_addedLines {diff l : Text} (h : l ∈ addedLines diff) : ∀ c ∈ l, isLineBreak c = false := by
  obtain ⟨line, hline, hl⟩ := List.mem_filterMap.1 h
  have hbreak := Text.not_break_of_mem_lineTexts hline
  split at hl
  · next rest =>
    split at hl
    · cases hl
    · cases hl
      exact fun c hc => hbreak c (List.mem_cons_of_mem _ (Text.mem_of_mem_trimEnd hc))
  · cases hl

theorem not_break_of_mem_contentLines {added : List Text} (hadded : ∀ l ∈ added, ∀ c ∈ l, isLineBreak c = false) :
    ∀ l ∈ contentLines added, ∀ c ∈ l, isLineBreak c = false := by
  intro l hl c hc
  obtain ⟨line, hline, rfl⟩ := List.mem_map.1 (List.mem_filter.1 hl).1
  exact hadded line hline c (Text.mem_of_mem_trim hc)

theorem link?_subset {t label rest : Text} (h : link? t = some (label, rest)) : label ⊆ t ∧ rest ⊆ t := by
  unfold link? at h
  split at h
  · next r =>
    simp only at h
    split at h
    · next target htarget =>
      split at h
      · next after hafter =>
        split at h
        · cases h
        · cases h
          have hout : ']' :: '(' :: target ⊆ r := htarget ▸ (List.dropWhile_suffix _).subset
          have hin : ')' :: rest ⊆ target := hafter ▸ (List.dropWhile_suffix _).subset
          constructor
          · exact fun c hc => List.mem_cons_of_mem _ ((List.takeWhile_sublist _).subset hc)
          · intro c hc
            have htarget : c ∈ target := hin (List.mem_cons_of_mem _ hc)
            exact List.mem_cons_of_mem _ (hout (List.mem_cons_of_mem _ (List.mem_cons_of_mem _ htarget)))
      · cases h
    · cases h
  · cases h

theorem mem_of_mem_withoutLinks {c : Char} {t : Text} (h : c ∈ withoutLinks t) : c ∈ t := by
  unfold withoutLinks at h
  generalize t.length = fuel at h
  fun_induction withoutLinks.go fuel t with
  | case1 t => exact h
  | case2 => exact h
  | case3 fuel d r label rest hlink ih =>
    obtain ⟨hlabel, hrest⟩ := link?_subset hlink
    rcases List.mem_append.1 h with h | h
    · exact hlabel h
    · exact hrest (ih h)
  | case4 fuel d r hlink ih =>
    rcases List.mem_cons.1 h with rfl | h
    · exact List.mem_cons_self
    · exact List.mem_cons_of_mem d (ih h)

theorem mem_shortened {c : Char} {size : Nat} {t : Text} (h : c ∈ shortened size t) : c ∈ t ∨ c = '.' := by
  unfold shortened at h
  split at h
  · rcases List.mem_append.1 h with h | h
    · exact .inl (List.mem_of_mem_take h)
    · exact .inr (by simpa using h)
  · exact .inl h

theorem not_break_of_isDigit {c : Char} (h : c.isDigit = true) : isLineBreak c = false := by
  rw [Char.isDigit, Bool.and_eq_true, decide_eq_true_eq, decide_eq_true_eq] at h
  have hlow : 48 ≤ c.toNat := h.1
  have hhigh : c.toNat ≤ 57 := h.2
  simp only [isLineBreak, Bool.or_eq_false_iff, Bool.and_eq_false_iff, decide_eq_false_iff_not, beq_eq_false_iff_ne]
  omega

theorem not_break_of_mem_toString {n : Nat} : ∀ c ∈ (toString n).toList, isLineBreak c = false := by
  intro c hc
  rw [Nat.toString_eq_repr, Nat.toList_repr] at hc
  exact not_break_of_isDigit (Nat.isDigit_of_mem_toDigits (by omega) (by omega) hc)

theorem not_break_of_mem_itemText {line : Text} (h : ∀ c ∈ line, isLineBreak c = false) :
    ∀ c ∈ itemText line, isLineBreak c = false := by
  intro c hc
  rcases mem_shortened hc with hc | rfl
  · exact h c (List.mem_of_mem_drop (Text.mem_of_mem_trim (mem_of_mem_withoutLinks hc)))
  · rfl

theorem not_break_of_mem_subject {items : List Text} (h : ∀ l ∈ items, ∀ c ∈ l, isLineBreak c = false) :
    ∀ c ∈ subject items, isLineBreak c = false := by
  have hfirst : ∀ c ∈ ((items.head?).map itemText).getD [], isLineBreak c = false := by
    cases items with
    | nil => simp
    | cons l items => exact not_break_of_mem_itemText (h l List.mem_cons_self)
  intro c hc
  rcases mem_shortened hc with hc | rfl
  · split at hc
    · exact Text.not_break_of_all rfl c hc
    · split at hc
      · exact Text.not_break_of_all rfl c hc
      · exact hfirst c hc
    · next n _ =>
      -- the words around a number have no breaks, and neither has the number
      have hnumber {before after : String} {k : Nat} (hbefore : (before.toList.all fun x => !isLineBreak x) = true)
          (hafter : (after.toList.all fun x => !isLineBreak x) = true)
          (hc : c ∈ (before ++ toString k ++ after).toList) : isLineBreak c = false := by
        rw [String.toList_append, String.toList_append, List.mem_append, List.mem_append] at hc
        rcases hc with (hc | hc) | hc
        · exact Text.not_break_of_all hbefore c hc
        · exact not_break_of_mem_toString c hc
        · exact Text.not_break_of_all hafter c hc
      split at hc
      · exact hnumber rfl rfl hc
      · rcases List.mem_append.1 hc with hc | hc
        · exact hfirst c hc
        · exact hnumber rfl rfl hc
  · rfl

/-- The only breaks of a seed message are line feeds, and it ends with one. -/
theorem seedMessage_breaks {diff m : Text} (h : seedMessage diff = .ok (some m)) :
    (∀ c ∈ m, isLineBreak c = true → c = '\n') ∧ m.getLast? = some '\n' := by
  have hlines := not_break_of_mem_contentLines fun l (hl : l ∈ addedLines diff) => not_break_of_mem_addedLines hl
  have hsubject : ∀ c ∈ subject ((contentLines (addedLines diff)).filter isItem), isLineBreak c = true → c = '\n' := by
    intro c hc hbreak
    rw [not_break_of_mem_subject (fun l hl => hlines l (List.mem_filter.1 hl).1) c hc] at hbreak
    cases hbreak
  have hbody {n : Nat} : ∀ c ∈ Text.trim (Text.join "\n" ((contentLines (addedLines diff)).take n)),
      isLineBreak c = true → c = '\n' := by
    intro c hc hbreak
    rcases Text.mem_join (Text.mem_of_mem_trim hc) with hc | ⟨l, hl, hc⟩
    · exact hc
    · rw [hlines l (List.mem_of_mem_take hl) c hc] at hbreak
      cases hbreak
  unfold seedMessage at h
  split at h
  · cases h
  · simp only at h
    split at h
    · cases h
    · cases h
      unfold message
      simp only
      refine ⟨fun c hc => ?_, by split <;> exact List.getLast?_concat⟩
      split at hc
      · rcases List.mem_append.1 hc with hc | hc
        · exact hsubject c hc
        · exact fun _ => List.mem_singleton.1 hc
      · rcases List.mem_append.1 hc with hc | hc
        · rcases List.mem_append.1 hc with hc | hc
          · rcases List.mem_append.1 hc with hc | hc
            · exact hsubject c hc
            · exact fun _ => by simpa using hc
          · exact hbody c hc
        · exact fun _ => List.mem_singleton.1 hc

theorem exists_not_blank_of_mem_contentLines {diff l : Text} (h : l ∈ contentLines (addedLines diff)) :
    ∃ c ∈ l, Text.isBlank c = false := by
  obtain ⟨added, hadded, rfl⟩ := List.mem_map.1 (List.mem_filter.1 h).1
  obtain ⟨line, -, hline⟩ := List.mem_filterMap.1 hadded
  split at hline
  · next rest =>
    split at hline
    · cases hline
    · next hfilled =>
      cases hline
      simp only [Bool.or_eq_true, List.isEmpty_iff, not_or] at hfilled
      obtain ⟨c, hc, hblank⟩ := Text.exists_not_blank hfilled.2
      exact ⟨c, Text.mem_trim (Text.mem_trimEnd hc hblank) hblank, hblank⟩
  · cases hline

/-- A seed message is never blank: it has a line of the change in it, or words of its own. -/
theorem trim_seedMessage_ne_nil {diff m : Text} (h : seedMessage diff = .ok (some m)) : Text.trim m ≠ [] := by
  unfold seedMessage at h
  split at h
  · cases h
  · simp only at h
    split at h
    · cases h
    · cases h
      unfold message
      simp only
      cases hlines : contentLines (addedLines diff) with
      | nil => exact List.ne_nil_of_mem (Text.mem_trim (c := 'u') (by decide) rfl)
      | cons l ls =>
        obtain ⟨c, hc, hblank⟩ := exists_not_blank_of_mem_contentLines (hlines ▸ List.mem_cons_self)
        have hjoin : c ∈ Text.join "\n" ((l :: ls).take (max 1 bodyLimit.toNat)) := by
          rw [← List.count_pos_iff, Text.count_join (by rintro rfl; cases hblank)]
          exact Nat.add_pos_left (List.count_pos_iff.2 hc) _
        have hbody := Text.mem_trim hjoin hblank
        rw [if_neg (by simpa using List.ne_nil_of_mem hbody)]
        exact List.ne_nil_of_mem (Text.mem_trim (by simp [hbody]) hblank)

/-! ### Comments -/

theorem sum_filter_lt {ls : List Text} {f : Text → Nat} {p : Text → Bool} {l : Text} (hl : l ∈ ls)
    (hp : p l = false) (hf : 0 < f l) : ((ls.filter p).map f).sum < (ls.map f).sum := by
  obtain ⟨before, after, rfl⟩ := List.append_of_mem hl
  have hle (ls : List Text) : ((ls.filter p).map f).sum ≤ (ls.map f).sum :=
    (List.filter_sublist.map f).sum_le_sum fun _ _ => Nat.zero_le _
  have hbefore := hle before
  have hafter := hle after
  simp only [List.filter_append, List.filter_cons, hp, List.map_append, List.sum_append, List.map_cons,
    List.sum_cons, Bool.false_eq_true, if_false]
  omega

/-- Taking the comments out of a message leaves it as it is, up to blanks around it, just if none of its lines starts
with a number sign. -/
theorem withoutComments_eq_trim_iff {m : Text} (hbreak : ∀ c ∈ m, isLineBreak c = true → c = '\n')
    (hend : m.getLast? = some '\n') :
    withoutComments m = Text.trim m ↔ ∀ l ∈ Text.lineTexts m, l.head? ≠ some '#' := by
  have hjoin := Text.join_lineTexts hbreak hend
  have htrim : Text.trim m = Text.trim (Text.join "\n" (Text.lineTexts m)) := by
    conv_lhs => rw [← hjoin]
    exact Text.trim_append_singleton rfl _
  rw [withoutComments, htrim]
  constructor
  · intro heq l hl hhead
    -- a line that is left out takes its number sign with it
    have hcount := congrArg (List.count '#') heq
    rw [Text.count_trim rfl, Text.count_trim rfl, Text.count_join (by decide), Text.count_join (by decide)] at hcount
    have hpos : 0 < l.count '#' := List.count_pos_iff.2 (List.mem_of_mem_head? hhead)
    have hlt := sum_filter_lt (p := fun l => l.head? != some '#') hl (by simp [hhead]) hpos
    omega
  · intro hnone
    rw [List.filter_eq_self.2 fun l hl => by simpa using hnone l hl]

/-- Comments below a message are taken out, and nothing else with them. -/
theorem withoutComments_append {m comments : Text} (hm : m = [] ∨ m.getLast? = some '\n')
    (hcomments : ∀ l ∈ Text.lineTexts comments, l.head? = some '#') :
    withoutComments (m ++ '\n' :: comments) = withoutComments m := by
  have hlines : Text.lineTexts (m ++ '\n' :: comments) = Text.lineTexts m ++ [] :: Text.lineTexts comments := by
    rw [Text.lineTexts, Text.lines_append hm, Text.lines_newline_cons, List.map_append, List.map_cons]
    rfl
  have hgone : (Text.lineTexts comments).filter (fun l => l.head? != some '#') = [] := by
    rw [List.filter_eq_nil_iff]
    intro l hl
    simp [hcomments l hl]
  unfold withoutComments
  rw [hlines, List.filter_append, List.filter_cons_of_pos (by simp), hgone]
  generalize (Text.lineTexts m).filter (fun l => l.head? != some '#') = kept
  cases kept with
  | nil => rfl
  | cons l kept =>
    rw [Text.join_append_singleton, List.append_nil, ← Text.join_concat (List.cons_ne_nil l kept)]
    exact Text.trim_append_singleton rfl _

structure IsComment (l : Text) : Prop where
  head : l.head? = some '#'
  not_break : ∀ c ∈ l, isLineBreak c = false

theorem isComment_asComment {entry : Text} (h : ∀ c ∈ entry, isLineBreak c = false) : IsComment (asComment entry) := by
  refine ⟨rfl, fun c hc => ?_⟩
  rcases List.mem_cons.1 hc with rfl | hc
  · rfl
  · rcases List.mem_cons.1 hc with rfl | hc
    · rfl
    · exact h c hc

theorem IsComment.trimEnd {l : Text} (h : IsComment l) : IsComment (Text.trimEnd l) := by
  refine ⟨?_, fun c hc => h.not_break c (Text.mem_of_mem_trimEnd hc)⟩
  obtain ⟨r, rfl⟩ := List.head?_eq_some_iff.1 h.head
  rw [Text.trimEnd_cons rfl]
  rfl

theorem lineTexts_comments {ls : List Text} (hne : ls ≠ []) (hls : ∀ l ∈ ls, IsComment l) :
    ∀ l ∈ Text.lineTexts (Text.trimEnd (Text.join "\n" ls) ++ ['\n']), l.head? = some '#' := by
  obtain ⟨before, last, hconcat⟩ := (List.eq_nil_or_concat ls).resolve_left hne
  rw [List.concat_eq_append] at hconcat
  subst hconcat
  have hlast : IsComment (Text.trimEnd last) := (hls last (by simp)).trimEnd
  have hall : ∀ l ∈ before ++ [Text.trimEnd last], IsComment l := by
    intro l hl
    rcases List.mem_append.1 hl with hl | hl
    · exact hls l (List.mem_append_left _ hl)
    · exact List.mem_singleton.1 hl ▸ hlast
  have htrim : Text.trimEnd last ≠ [] := by
    intro hnil
    have hhead := hlast.head
    rw [hnil] at hhead
    cases hhead
  have hjoin : Text.trimEnd (Text.join "\n" (before ++ [last])) ++ ['\n'] =
      ((before ++ [Text.trimEnd last]).map (· ++ ['\n'])).flatten := by
    rw [Text.join_append_singleton, Text.trimEnd_append htrim]
    simp
  rw [hjoin, Text.lineTexts_map_concat fun l hl => (hall l hl).not_break]
  exact fun l hl => (hall l hl).head

theorem not_break_of_mem_statusEntry {code path : Text} (h : ∀ c ∈ path, isLineBreak c = false) :
    ∀ c ∈ statusEntry code path, isLineBreak c = false := by
  intro c hc
  have hlabel : ∀ c ∈ (statusLabel code).toList, isLineBreak c = false := by
    unfold statusLabel
    split <;> exact Text.not_break_of_all rfl
  rcases List.mem_append.1 hc with hc | hc
  · rcases List.mem_append.1 hc with hc | hc
    · exact hlabel c hc
    · exact Text.not_break_of_all rfl c hc
  · exact h c hc

theorem mem_of_mem_firstOfPath {seen : List Text} {entries : List (Char × Text)} {x : Char × Text}
    (h : x ∈ firstOfPath seen entries) : x ∈ entries := by
  fun_induction firstOfPath seen entries with
  | case1 => exact h
  | case2 seen code path rest _ ih => exact List.mem_cons_of_mem _ (ih h)
  | case3 seen code path rest _ ih =>
    rcases List.mem_cons.1 h with rfl | h
    · exact List.mem_cons_self
    · exact List.mem_cons_of_mem _ (ih h)

theorem changed?_subset {line : Text} {x : Char × Text} (h : changed? line = some x) : x.2 ⊆ line := by
  unfold changed? at h
  split at h
  · next index tree mark path =>
    obtain ⟨-, hx⟩ := Option.ite_none_left_eq_some.1 h
    cases hx
    exact fun c hc => List.mem_cons_of_mem _ (List.mem_cons_of_mem _ (List.mem_cons_of_mem _ hc))
  · cases h

theorem isComment_tracked {status : List Text} (h : ∀ l ∈ status, ∀ c ∈ l, isLineBreak c = false) :
    ∀ l ∈ trackedComments status, IsComment l := by
  intro l hl
  obtain ⟨x, hx, rfl⟩ := List.mem_map.1 hl
  obtain ⟨line, hline, hx⟩ := List.mem_filterMap.1 (mem_of_mem_firstOfPath hx)
  refine isComment_asComment (not_break_of_mem_statusEntry fun c hc => ?_)
  exact h line (List.mem_filter.1 hline).1 c (changed?_subset hx hc)

theorem isComment_untracked {status : List Text} (h : ∀ l ∈ status, ∀ c ∈ l, isLineBreak c = false) :
    ∀ l ∈ untrackedComments status, IsComment l := by
  intro l hl
  obtain ⟨path, hpath, rfl⟩ := List.mem_map.1 hl
  obtain ⟨line, hline, hpath⟩ := List.mem_filterMap.1 hpath
  have hsplit := List.isPrefixOf?_eq_some_iff_append_eq.1 hpath
  refine isComment_asComment fun c hc => h line hline c ?_
  rw [← hsplit]
  exact List.mem_append_right _ hc

theorem isComment_titled {title ls : List Text} (htitle : ∀ l ∈ title, IsComment l) (hls : ∀ l ∈ ls, IsComment l) :
    ∀ l ∈ titled title ls, IsComment l := by
  unfold titled
  split
  · simp
  · exact List.forall_mem_append.2 ⟨htitle, hls⟩

/-- The status of the repository is written in comment lines only. -/
theorem isComment_status {status : List Text} (h : ∀ l ∈ status, ∀ c ∈ l, isLineBreak c = false) :
    ∀ l ∈ statusComments status, IsComment l := by
  have hempty : IsComment ['#'] := ⟨rfl, Text.not_break_of_all rfl⟩
  have hchanges : IsComment "# Changes to be committed:".toList := ⟨rfl, Text.not_break_of_all rfl⟩
  have huntracked : IsComment "# Untracked files:".toList := ⟨rfl, Text.not_break_of_all rfl⟩
  refine List.forall_mem_cons.2 ⟨hempty, List.forall_mem_append.2 ⟨?_, ?_⟩⟩
  · exact isComment_titled (List.forall_mem_singleton.2 hchanges) (isComment_tracked h)
  · exact isComment_titled (List.forall_mem_cons.2 ⟨hempty, List.forall_mem_singleton.2 huntracked⟩)
      (isComment_untracked h)

theorem statusBlock_comments {status : List Text} (h : ∀ l ∈ status, ∀ c ∈ l, isLineBreak c = false) :
    ∀ l ∈ Text.lineTexts (statusBlock status), l.head? = some '#' := by
  unfold statusBlock
  split
  · simp [Text.lineTexts, Text.lines]
  · exact lineTexts_comments (List.cons_ne_nil _ _) (isComment_status h)

theorem break_of_mem_statusBlock {status : List Text} (h : ∀ l ∈ status, ∀ c ∈ l, isLineBreak c = false) :
    ∀ c ∈ statusBlock status, isLineBreak c = true → c = '\n' := by
  intro c hc hbreak
  unfold statusBlock at hc
  split at hc
  · cases hc
  · rcases List.mem_append.1 hc with hc | hc
    · rcases Text.mem_join (Text.mem_of_mem_trimEnd hc) with hc | ⟨l, hl, hc⟩
      · exact hc
      · rw [(isComment_status h l hl).not_break c hc] at hbreak
        cases hbreak
    · exact List.mem_singleton.1 hc

/-- What the editor is given: the message, and below it comments. -/
def draft (m : Text) (status : List Text) : Text := m ++ ['\n'] ++ messageHints ++ statusBlock status

theorem break_of_mem_draft {m : Text} (hm : ∀ c ∈ m, isLineBreak c = true → c = '\n') {status : List Text}
    (hstatus : ∀ l ∈ status, ∀ c ∈ l, isLineBreak c = false) :
    ∀ c ∈ draft m status, isLineBreak c = true → c = '\n' := by
  have hhints : ∀ c ∈ messageHints, isLineBreak c = true → c = '\n' := by
    have hall : (messageHints.all fun c => !isLineBreak c || c == '\n') = true := rfl
    intro c hc hbreak
    simpa [hbreak] using List.all_eq_true.1 hall c hc
  intro c hc
  rcases List.mem_append.1 hc with hc | hc
  · rcases List.mem_append.1 hc with hc | hc
    · rcases List.mem_append.1 hc with hc | hc
      · exact hm c hc
      · exact fun _ => List.mem_singleton.1 hc
    · exact hhints c hc
  · exact break_of_mem_statusBlock hstatus c hc

theorem withoutComments_draft {m : Text} (hm : m.getLast? = some '\n') {status : List Text}
    (hstatus : ∀ l ∈ status, ∀ c ∈ l, isLineBreak c = false) :
    withoutComments (draft m status) = withoutComments m := by
  have hhints : ∀ l ∈ Text.lineTexts messageHints, l.head? = some '#' := by
    have hall : ((Text.lineTexts messageHints).all fun l => l.head? == some '#') = true := rfl
    exact fun l hl => by simpa using List.all_eq_true.1 hall l hl
  have hcomments : ∀ l ∈ Text.lineTexts (messageHints ++ statusBlock status), l.head? = some '#' := by
    rw [Text.lineTexts, Text.lines_append (.inr rfl), List.map_append]
    exact List.forall_mem_append.2 ⟨hhints, statusBlock_comments hstatus⟩
  rw [draft, List.append_assoc, List.append_assoc, List.singleton_append]
  exact withoutComments_append (.inr hm) hcomments

/-! ### The way through the editor -/

open Script (outcome_bind_of_ok exists_of_outcome_bind outcome_writeText_scratch outcome_readText_scratch)

theorem not_break_of_mem_status {status : List Text} {h h' : Host} (hs : statusLines.outcome h = (.ok status, h')) :
    ∀ l ∈ status, ∀ c ∈ l, isLineBreak c = false := by
  obtain ⟨r, h₁, -, hs⟩ := exists_of_outcome_bind hs
  split at hs
  · cases hs
  · cases hs
    exact fun l hl => Text.not_break_of_mem_lineTexts (List.mem_filter.1 hl).1

theorem outcome_writeMessage {status : List Text} {h h' : Host} (hstatus : statusLines.outcome h = (.ok status, h'))
    (m : Text) : (writeMessage m true).outcome h =
      (.ok Host.scratchPath, { h' with scratch := some (Utf8.encode (draft m status)) }) := by
  have hblock : currentStatusBlock.outcome h = (.ok (statusBlock status), h') := by
    rw [currentStatusBlock, outcome_bind_of_ok hstatus]
    rfl
  unfold writeMessage
  simp only [if_true]
  rw [outcome_bind_of_ok hblock, pure_bind, outcome_bind_of_ok (outcome_writeText_scratch _ h')]
  rfl

theorem outcome_abort {h : Host} {bs : Bytes} (hscratch : h.scratch = some bs) (reason : String) :
    (abort reason).outcome h =
      (.ok none, { h with scratch := none, noted := h.noted ++ reason.toList ++ ['\n'] }) := by
  obtain ⟨tree, programs, settings, scratch, printed, noted, command⟩ := h
  cases hscratch
  rfl

/-- If the editor leaves the draft as it is, the message that comes back is the one that was given without its comment
lines; an empty one is not used. -/
theorem outcome_editMessage {m : Text} (hbreak : ∀ c ∈ m, isLineBreak c = true → c = '\n')
    (hend : m.getLast? = some '\n') {status : List Text} {h h' edited : Host}
    (hstatus : statusLines.outcome h = (.ok status, h'))
    (hedit : (editFile Host.scratchPath).outcome
      { h' with scratch := some (Utf8.encode (draft m status)) } = (.ok 0, edited))
    (hsame : edited.scratch = some (Utf8.encode (draft m status))) :
    (editMessage m).outcome h =
      if withoutComments m = [] then
        (.ok none, { edited with
          scratch := none, noted := edited.noted ++ "Empty commit message. Aborting.".toList ++ ['\n'] })
      else (.ok (some Host.scratchPath),
        { edited with scratch := some (Utf8.encode (withoutComments m ++ ['\n'])) }) := by
  have hlines := not_break_of_mem_status hstatus
  have hreturn : '\r' ∉ draft m status := fun hmem => absurd (break_of_mem_draft hbreak hlines _ hmem rfl) (by decide)
  unfold editMessage
  rw [outcome_bind_of_ok (outcome_writeMessage hstatus m), outcome_bind_of_ok hedit, if_neg (by decide),
    outcome_bind_of_ok (outcome_readText_scratch hreturn hsame)]
  simp only [withoutComments_draft hend hlines, List.isEmpty_iff]
  split
  · exact outcome_abort hsame _
  · rw [outcome_bind_of_ok (outcome_writeText_scratch _ edited)]
    rfl

/-- A message from a change is written as it is when it goes straight to the commit. Through an editor that leaves its
draft as it is, the same message comes back, up to blanks around it, if and only if none of its lines starts with a
number sign; otherwise these lines are lost. -/
theorem editMessage_keeps_iff {diff m : Text} (hm : seedMessage diff = .ok (some m)) {status : List Text}
    {h h' edited : Host} (hstatus : statusLines.outcome h = (.ok status, h'))
    (hedit : (editFile Host.scratchPath).outcome
      { h' with scratch := some (Utf8.encode (draft m status)) } = (.ok 0, edited))
    (hsame : edited.scratch = some (Utf8.encode (draft m status))) :
    (writeMessage m false).outcome h =
        (.ok Host.scratchPath, { h with scratch := some (Utf8.encode (m ++ ['\n'])) }) ∧
      (writeMessage m true).outcome h =
        (.ok Host.scratchPath, { h' with scratch := some (Utf8.encode (draft m status)) }) ∧
      ((∃ done, (editMessage m).outcome h = (.ok (some Host.scratchPath), done) ∧
          done.scratch = some (Utf8.encode (Text.trim m ++ ['\n']))) ↔
        ∀ l ∈ Text.lineTexts m, l.head? ≠ some '#') := by
  obtain ⟨hbreak, hend⟩ := seedMessage_breaks hm
  refine ⟨rfl, outcome_writeMessage hstatus m, ?_⟩
  rw [outcome_editMessage hbreak hend hstatus hedit hsame, ← withoutComments_eq_trim_iff hbreak hend]
  constructor
  · rintro ⟨done, hdone, hscratch⟩
    split at hdone
    · cases hdone
    · cases hdone
      exact List.append_cancel_right (Utf8.encode_injective (Option.some.inj hscratch))
  · intro hkept
    rw [hkept, if_neg (trim_seedMessage_ne_nil hm)]
    exact ⟨_, rfl, rfl⟩

/-- A repository with a change and a new file, and an editor that is left at once. -/
def sampleHost : Host where
  programs := [{ name := "git".toList, replies := [{ stdout := " M docs/CHANGELOG.md\n?? notes.txt\n".toList }] },
    { name := "nano".toList, replies := [{}] }]

theorem editMessage_keeps_item :
    seedMessage "+- Fix the [#12](u) parser\n+## Heading\n+  text".toList =
        .ok (some "Fix the #12 parser\n\n- Fix the [#12](u) parser\ntext\n".toList) ∧
      ∃ done, (editMessage "Fix the #12 parser\n\n- Fix the [#12](u) parser\ntext\n".toList).outcome sampleHost =
          (.ok (some Host.scratchPath), done) ∧
        done.scratch = some (Utf8.encode "Fix the #12 parser\n\n- Fix the [#12](u) parser\ntext\n".toList) := by
  have hm : seedMessage "+- Fix the [#12](u) parser\n+## Heading\n+  text".toList =
      .ok (some "Fix the #12 parser\n\n- Fix the [#12](u) parser\ntext\n".toList) := rfl
  exact ⟨hm, (editMessage_keeps_iff hm rfl rfl rfl).2.2.2 (by decide)⟩

/-- An item that starts with the number of a ticket gives the message a first line that the editor's way takes for a
comment. -/
theorem editMessage_loses_subject :
    ¬ ∀ (diff m : Text) (status : List Text) (h h' edited : Host), seedMessage diff = .ok (some m) →
      statusLines.outcome h = (.ok status, h') →
      (editFile Host.scratchPath).outcome
        { h' with scratch := some (Utf8.encode (draft m status)) } = (.ok 0, edited) →
      edited.scratch = some (Utf8.encode (draft m status)) →
      ∃ done, (editMessage m).outcome h = (.ok (some Host.scratchPath), done) ∧
        done.scratch = some (Utf8.encode (Text.trim m ++ ['\n'])) := by
  intro hall
  have hm : seedMessage "+- [#12](u) fix".toList = .ok (some "#12 fix\n\n- [#12](u) fix\n".toList) := rfl
  obtain ⟨hbreak, hend⟩ := seedMessage_breaks hm
  obtain ⟨done, hdone, hscratch⟩ := hall _ _ _ sampleHost _ _ hm rfl rfl rfl
  rw [outcome_editMessage hbreak hend rfl rfl rfl, if_neg (by decide)] at hdone
  cases hdone
  exact absurd (Utf8.encode_injective (Option.some.inj hscratch)) (by decide)

end Changelog

end ProblemLint
