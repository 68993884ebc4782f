import ProblemLint.Proofs.Blocks
import ProblemLint.Proofs.Quotes

/-! What the text of a comment can change. The cut at the number sign does not look at it, but the search
for a heredoc reads the whole line, so a comment with `<<` in it can open a heredoc. Two comments in the same
place make no difference, whatever follows, exactly if the heredocs that they open look the same to later
lines. -/

namespace ProblemLint

/-- A character that neither quotes nor escapes, starts no comment and no heredoc, and ends no line. -/
def isInert (c : Char) : Bool :=
  c != '\'' && c != '"' && c != '\\' && c != '#' && c != '<' && !Text.isLineBreak c

theorem step_of_inert {c : Char} (h : isInert c = true) : QuoteState.step {} c = {} := by
  simp [isInert] at h
  simp [QuoteState.step, h]

theorem not_break_of_inert {c : Char} (h : isInert c = true) : Text.isLineBreak c = false := by
  simp only [isInert, Bool.and_eq_true, Bool.not_eq_true'] at h
  exact h.2

theorem commentFrom?_inert {l : Text} (h : ∀ c ∈ l, isInert c = true) (rest : Text) :
    commentFrom? {} (l ++ '#' :: rest) = some l.length := by
  induction l with
  | nil => rfl
  | cons c l ih =>
    have hc := h c List.mem_cons_self
    have hne : c ≠ '#' := by
      rintro rfl
      cases hc
    rw [List.cons_append, ← QuoteState.flags_start, commentFrom?_step, step_of_inert hc, QuoteState.flags_start, ih fun d hd => h d (List.mem_cons_of_mem c hd)]
    simp [hne]

theorem stripComment_inert {l : Text} (h : ∀ c ∈ l, isInert c = true) (body : Text) :
    stripComment (l ++ '#' :: body ++ ['\n']) = l ++ ['\n'] := by
  have hend : Text.endsWithNewline (l ++ '#' :: body ++ ['\n']) = true := by
    simp only [Text.endsWithNewline, List.getLast?_concat, beq_self_eq_true]
  have hcut := commentFrom?_inert h (body ++ ['\n'])
  rw [← List.cons_append, ← List.append_assoc] at hcut
  simp only [stripComment, hcut, hend, if_true]
  rw [List.append_assoc l, List.take_left]

theorem terminator?_inert {l : Text} (h : ∀ c ∈ l, isInert c = true) (rest : Text) :
    terminator? (l ++ '#' :: rest) = terminator? rest := by
  unfold terminator?
  induction l with
  | nil => cases rest <;> rfl
  | cons c l ih =>
    have hc := h c List.mem_cons_self
    have hne : c ≠ '<' := by
      rintro rfl
      cases hc
    obtain ⟨d, r, hdr⟩ : ∃ d r, l ++ '#' :: rest = d :: r :=
      List.exists_cons_of_ne_nil (by simp)
    have ih := ih fun d hd => h d (List.mem_cons_of_mem c hd)
    rw [hdr] at ih
    rw [List.cons_append, hdr, ← QuoteState.flags_start, terminatorFrom?_step, step_of_inert hc, QuoteState.flags_start, ih]
    simp [hne]

/-! ### Two comments in the same place -/

/-- The analysis up to the scan for blocks comes to the same for two texts: the program without comments,
the issues about block markers, and the number and kinds of the regions of markup. -/
structure ReadAlike (t t' : Text) : Prop where
  uncommented : stripComments t = stripComments t'
  issues : (blocks t).1 = (blocks t').1
  kinds : (blocks t).2.map (·.kind) = (blocks t').2.map (·.kind)

section

variable {a l c c' : Text}

theorem lines_commented (ha : a = [] ∨ a.getLast? = some '\n') (hl : ∀ x ∈ l, isInert x = true)
    (hc : ∀ x ∈ c, Text.isLineBreak x = false) (b : Text) :
    Text.lines (a ++ l ++ '#' :: c ++ '\n' :: b) =
      Text.lines a ++ (l ++ '#' :: c ++ ['\n']) :: Text.lines b := by
  have hbreak : ∀ x ∈ l ++ '#' :: c, Text.isLineBreak x = false := by
    intro x hx
    simp only [List.mem_append, List.mem_cons] at hx
    rcases hx with hx | rfl | hx
    · exact not_break_of_inert (hl x hx)
    · rfl
    · exact hc x hx
  rw [List.append_assoc a l, List.append_assoc a, Text.lines_append ha, Text.lines_line hbreak]

theorem stripComments_commented (ha : a = [] ∨ a.getLast? = some '\n')
    (hopen : (Text.lines a).foldl heredocAfter none = none) (hl : ∀ x ∈ l, isInert x = true)
    (hc : ∀ x ∈ c, Text.isLineBreak x = false) (b : Text) :
    stripComments (a ++ l ++ '#' :: c ++ '\n' :: b) =
      stripComments a ++ (l ++ ['\n'] ++ stripCommentLines (terminator? (c ++ ['\n'])) (Text.lines b)) := by
  have hterm := terminator?_inert hl (c ++ ['\n'])
  rw [← List.cons_append, ← List.append_assoc] at hterm
  rw [stripComments, lines_commented ha hl hc, stripCommentLines_append, hopen, stripCommentLines,
    stripComment_inert hl, heredocAfter, hterm]
  rfl

/-- The scan after a line with a comment sees of the comment only the heredoc that it opens. -/
theorem outline_commented (s : BlockScan) (hl : ∀ x ∈ l, isInert x = true) (b : Text)
    (hview : heredocView (terminator? (c ++ ['\n'])) = heredocView (terminator? (c' ++ ['\n'])))
    (line pos : Nat) :
    (BlockScan.lines s none line pos ((l ++ '#' :: c ++ ['\n']) :: Text.lines b)).outline =
      (BlockScan.lines s none line pos ((l ++ '#' :: c' ++ ['\n']) :: Text.lines b)).outline := by
  have hterm (u : Text) : terminator? (l ++ '#' :: u ++ ['\n']) = terminator? (u ++ ['\n']) := by
    rw [List.append_assoc, List.cons_append, terminator?_inert hl]
  have hmark (u : Text) : Marker.ofLine? (l ++ '#' :: u ++ ['\n']) = Marker.ofLine? l := by
    rw [List.append_assoc, List.cons_append, Marker.ofLine?_append_cons (by decide) (by decide)]
  have hnone : (terminator? (c ++ ['\n'])).isNone = (terminator? (c' ++ ['\n'])).isNone := by
    rw [← Option.not_isSome, ← Option.not_isSome, isSome_of_heredocView hview]
  simp only [BlockScan.lines, heredocAfter, hterm, hmark, hnone]
  refine BlockScan.outline_lines ?_ hview _ _ _ _
  split
  · split
    · exact BlockScan.outline_step rfl _ _ _ _ _ _
    · rfl
  · rfl

theorem readAlike_of_view (ha : a = [] ∨ a.getLast? = some '\n')
    (hopen : (Text.lines a).foldl heredocAfter none = none) (hl : ∀ x ∈ l, isInert x = true)
    (hc : ∀ x ∈ c, Text.isLineBreak x = false) (hc' : ∀ x ∈ c', Text.isLineBreak x = false)
    (hview : heredocView (terminator? (c ++ ['\n'])) = heredocView (terminator? (c' ++ ['\n']))) (b : Text) :
    ReadAlike (a ++ l ++ '#' :: c ++ '\n' :: b) (a ++ l ++ '#' :: c' ++ '\n' :: b) := by
  have houtline : (BlockScan.lines {} none 1 0 (Text.lines (a ++ l ++ '#' :: c ++ '\n' :: b))).outline =
      (BlockScan.lines {} none 1 0 (Text.lines (a ++ l ++ '#' :: c' ++ '\n' :: b))).outline := by
    rw [lines_commented ha hl hc, lines_commented ha hl hc', BlockScan.lines_append,
      BlockScan.lines_append, hopen]
    exact outline_commented _ hl b hview _ _
  obtain ⟨hissues, hregions⟩ := BlockScan.finish_eq_of_outline houtline
  refine ⟨?_, hissues, ?_⟩
  · rw [stripComments_commented ha hopen hl hc, stripComments_commented ha hopen hl hc',
      stripCommentLines_congr hview]
  · simpa [blocks, Function.comp_def] using congrArg (List.map Prod.fst) hregions

/-! ### Comments that can be told apart -/

/-- A program that is its terminator and a number sign tells a heredoc from all others: where it closes, the
number sign starts a comment. -/
theorem stripCommentLines_probe {t t' : Text} (htrim : Text.trim t = t)
    (hbreak : ∀ x ∈ t, Text.isLineBreak x = false) (hne : t ≠ t') :
    stripCommentLines (some t) (Text.lines (t ++ ['\n', '#'])) ≠
      stripCommentLines (some t') (Text.lines (t ++ ['\n', '#'])) := by
  have hline : Text.trim (t ++ ['\n']) = t := Text.trim_append_blank htrim rfl
  have hclosed : heredocAfter (some t) (t ++ ['\n']) = none := by
    simp [heredocAfter, hline]
  have hopened : heredocAfter (some t') (t ++ ['\n']) = some t' := by
    simp [heredocAfter, hline, hne]
  rw [Text.lines_line hbreak ['#'], show Text.lines ['#'] = [['#']] from rfl]
  simp [stripCommentLines, hclosed, hopened, show stripComment ['#'] = [] from rfl]

theorem exists_probe {o o' : Option Text} (hview : heredocView o ≠ heredocView o')
    (ho : ∀ t ∈ o, ∀ x ∈ t, Text.isLineBreak x = false) (ho' : ∀ t ∈ o', ∀ x ∈ t, Text.isLineBreak x = false) :
    ∃ b, stripCommentLines o (Text.lines b) ≠ stripCommentLines o' (Text.lines b) := by
  have hhash (t : Text) :
      stripCommentLines none (Text.lines ['#']) ≠ stripCommentLines (some t) (Text.lines ['#']) := by
    rw [show Text.lines ['#'] = [['#']] from rfl]
    simp [stripCommentLines, show stripComment ['#'] = [] from rfl]
  cases o with
  | none =>
    cases o' with
    | none => exact absurd rfl hview
    | some t' => exact ⟨['#'], hhash t'⟩
  | some t =>
    cases o' with
    | none => exact ⟨['#'], (hhash t).symm⟩
    | some t' =>
      have hne : t ≠ t' := fun h => hview (h ▸ rfl)
      by_cases ht : Text.trim t = t
      · exact ⟨_, stripCommentLines_probe ht (ho t rfl) hne⟩
      · by_cases ht' : Text.trim t' = t'
        · exact ⟨_, (stripCommentLines_probe ht' (ho' t' rfl) hne.symm).symm⟩
        · exact absurd (by simp [heredocView, ht, ht']) hview

theorem not_break_of_terminator (hc : ∀ x ∈ c, Text.isLineBreak x = false) :
    ∀ t ∈ terminator? (c ++ ['\n']), ∀ x ∈ t, Text.isLineBreak x = false := by
  intro t ht x hx
  have hend : '\n' ∉ (c ++ ['\n']).dropLast := by
    rw [List.dropLast_concat]
    intro hmem
    cases hc _ hmem
  obtain ⟨hmem, hne⟩ := mem_terminator ht hend x hx
  rcases List.mem_append.1 hmem with hmem | hmem
  · exact hc x hmem
  · exact absurd (List.mem_singleton.1 hmem) hne

/-- Two comments in the same place, before which no heredoc is open, make no difference to any text after
them if and only if the heredocs that they open as if they were code look the same to later lines. -/
theorem readAlike_comment_iff (ha : a = [] ∨ a.getLast? = some '\n')
    (hopen : (Text.lines a).foldl heredocAfter none = none) (hl : ∀ x ∈ l, isInert x = true)
    (hc : ∀ x ∈ c, Text.isLineBreak x = false) (hc' : ∀ x ∈ c', Text.isLineBreak x = false) :
    (∀ b, ReadAlike (a ++ l ++ '#' :: c ++ '\n' :: b) (a ++ l ++ '#' :: c' ++ '\n' :: b)) ↔
      heredocView (terminator? (c ++ ['\n'])) = heredocView (terminator? (c' ++ ['\n'])) := by
  constructor
  · intro h
    by_contra hview
    obtain ⟨b, hb⟩ := exists_probe hview (not_break_of_terminator hc) (not_break_of_terminator hc')
    have hsame := (h b).uncommented
    rw [stripComments_commented ha hopen hl hc, stripComments_commented ha hopen hl hc'] at hsame
    exact hb (List.append_cancel_left (List.append_cancel_left hsame))
  · exact fun hview b => readAlike_of_view ha hopen hl hc hc' hview b

end

theorem readAlike_comment_todo :
    ReadAlike "$x = 1;\nBEGIN_PGML # todo\nhi\nEND_PGML\n".toList
      "$x = 1;\nBEGIN_PGML # 1 << 2\nhi\nEND_PGML\n".toList :=
  (@readAlike_comment_iff "$x = 1;\n".toList "BEGIN_PGML ".toList " todo".toList " 1 << 2".toList (.inr rfl)
    (by decide) (List.all_eq_true.1 rfl) (Text.not_break_of_all rfl) (Text.not_break_of_all rfl)).2 (by decide)
    "hi\nEND_PGML\n".toList

/-- A comment that names a heredoc opens it, and a later comment stays in the program. -/
theorem comment_text_matters :
    ¬ ∀ a l c c' b : Text, (a = [] ∨ a.getLast? = some '\n') →
      (Text.lines a).foldl heredocAfter none = none → (∀ x ∈ l, isInert x = true) →
      (∀ x ∈ c, Text.isLineBreak x = false) → (∀ x ∈ c', Text.isLineBreak x = false) →
      ReadAlike (a ++ l ++ '#' :: c ++ '\n' :: b) (a ++ l ++ '#' :: c' ++ '\n' :: b) := by
  intro h
  have hsame := (h [] [] " <<EOF".toList [] "# x\n".toList (.inl rfl) rfl (List.all_eq_true.1 rfl)
    (Text.not_break_of_all rfl) (Text.not_break_of_all rfl)).uncommented
  revert hsame
  decide

end ProblemLint
