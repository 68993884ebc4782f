import ProblemLint.Source.Comment
import ProblemLint.Proofs.Lines
import ProblemLint.Proofs.Trimming

/-! Open heredocs. Reading lines carries the terminator of the heredoc that is open. What later lines can
tell of it is less: a terminator with blanks around it is never met, so all of these are alike. A terminator
stands in one line and holds no break, so the line that closes it can be written down. -/

namespace ProblemLint

/-- What later lines can tell of an open heredoc: whether there is one, and its terminator unless blanks
around it keep every line from being it. -/
def heredocView (opened : Option Text) : Option (Option Text) :=
  opened.map fun t => if Text.trim t = t then some t else none

theorem isSome_of_heredocView {o o' : Option Text} (h : heredocView o = heredocView o') :
    o.isSome = o'.isSome := by
  cases o <;> cases o' <;> simp_all [heredocView]

theorem trim_eq_iff {t t' : Text} (h : heredocView (some t) = heredocView (some t')) (l : Text) :
    Text.trim l = t ↔ Text.trim l = t' := by
  simp only [heredocView, Option.map_some, Option.some.injEq] at h
  constructor
  · rintro rfl
    rw [if_pos (Text.trim_trim l)] at h
    split at h
    · exact Option.some.inj h
    · cases h
  · rintro rfl
    rw [if_pos (Text.trim_trim l)] at h
    split at h
    · exact (Option.some.inj h).symm
    · cases h

theorem heredocView_after {o o' : Option Text} (h : heredocView o = heredocView o') (l : Text) :
    heredocView (heredocAfter o l) = heredocView (heredocAfter o' l) := by
  cases o with
  | none =>
    cases o' with
    | none => rfl
    | some t' => simp [heredocView] at h
  | some t =>
    cases o' with
    | none => simp [heredocView] at h
    | some t' =>
      simp only [heredocAfter, beq_iff_eq]
      by_cases hl : Text.trim l = t
      · rw [if_pos hl, if_pos ((trim_eq_iff h l).1 hl)]
      · rw [if_neg hl, if_neg fun hl' => hl ((trim_eq_iff h l).2 hl')]
        exact h

theorem stripCommentLines_append (o : Option Text) (ls ms : List Text) :
    stripCommentLines o (ls ++ ms) =
      stripCommentLines o ls ++ stripCommentLines (ls.foldl heredocAfter o) ms := by
  induction ls generalizing o with
  | nil => rfl
  | cons l ls ih => simp only [List.cons_append, stripCommentLines, ih, List.foldl_cons, List.append_assoc]

theorem stripCommentLines_congr {o o' : Option Text} (h : heredocView o = heredocView o') (ls : List Text) :
    stripCommentLines o ls = stripCommentLines o' ls := by
  induction ls generalizing o o' with
  | nil => rfl
  | cons l ls ih => rw [stripCommentLines, stripCommentLines, isSome_of_heredocView h, ih (heredocView_after h l)]

/-! ### Terminators -/

/-- A terminator is what stands in quotes, or a word, at the start of a part of the text after `<<`. -/
theorem terminatorAfter_cases {t w : Text} (h : terminatorAfter t = some w) :
    ∃ q r, List.IsSuffix (q :: r) t ∧
      ((q = '\'' ∨ q = '"') ∧ q ∈ r ∧ w = r.takeWhile (· != q) ∨
        (Text.isLetter q = true ∨ q = '_') ∧ w = q :: r.takeWhile Text.isWord) := by
  simp only [terminatorAfter] at h
  split at h
  · cases h
  · next q r hq =>
    -- a dash may stand before the blanks
    have hsuf : List.IsSuffix (q :: r) t := by
      rw [← hq]
      refine (Text.trimStart_suffix _).trans ?_
      split
      · exact List.suffix_cons _ _
      · exact List.suffix_refl _
    refine ⟨q, r, hsuf, ?_⟩
    simp only [Bool.or_eq_true, beq_iff_eq, List.elem_eq_mem, decide_eq_true_eq] at h
    split_ifs at h with h1 h2 h3
    · exact .inl ⟨h1, h2, (Option.some.inj h).symm⟩
    · exact .inr ⟨h3, (Option.some.inj h).symm⟩

theorem terminatorFrom?_suffix {f : QuoteFlags} {t w : Text} (h : terminatorFrom? f t = some w) :
    ∃ r, List.IsSuffix r t ∧ terminatorAfter r = some w := by
  fun_induction terminatorFrom? f t with
  | case1 | case2 => cases h
  | case4 f c d r _ _ => exact ⟨r, (List.suffix_cons d r).trans (List.suffix_cons c _), h⟩
  | case3 f c d r _ _ ih | case5 f c d r _ _ ih =>
    obtain ⟨u, hu, hw⟩ := ih h
    exact ⟨u, hu.trans (List.suffix_cons c _), hw⟩

theorem isWord_newline : Text.isWord '\n' = false := by decide

theorem isLetter_newline : Text.isLetter '\n' = false := by decide

/-- A terminator holds characters of its line only, and not the line feed that ends it. -/
theorem mem_terminator {line w : Text} (h : terminator? line = some w) (hend : '\n' ∉ line.dropLast) :
    ∀ c ∈ w, c ∈ line ∧ c ≠ '\n' := by
  obtain ⟨t, ht, hw⟩ := terminatorFrom?_suffix h
  obtain ⟨q, r, hqr, hcases⟩ := terminatorAfter_cases hw
  have hsuf : List.IsSuffix (q :: r) line := hqr.trans ht
  rcases hcases with ⟨_, hmem, rfl⟩ | ⟨hq, rfl⟩
  · intro c hc
    refine ⟨hsuf.subset (List.mem_cons_of_mem q (List.takeWhile_subset _ hc)), ?_⟩
    rintro rfl
    -- the closing quote comes after the text in quotes, which therefore ends before the line does
    have hlt : (r.takeWhile (· != q)).length < r.length := by
      rw [← not_le]
      intro hle
      have hall := (List.takeWhile_prefix (· != q) (l := r)).eq_of_length_le hle
      rw [← hall] at hmem
      simpa using List.mem_takeWhile_imp hmem
    have hpre : List.IsPrefix (r.takeWhile (· != q)) r.dropLast :=
      List.prefix_of_prefix_length_le (List.takeWhile_prefix _) (List.dropLast_prefix r)
        (by rw [List.length_dropLast]; omega)
    obtain ⟨u, hu⟩ := (List.suffix_cons q r).trans hsuf
    have hr : r ≠ [] := List.ne_nil_of_mem hmem
    apply hend
    rw [← hu, List.dropLast_append_of_ne_nil hr]
    exact List.mem_append_right u (hpre.subset hc)
  · intro c hc
    rcases List.mem_cons.1 hc with rfl | hc
    · refine ⟨hsuf.subset List.mem_cons_self, ?_⟩
      rintro rfl
      simp [isLetter_newline] at hq
    · refine ⟨hsuf.subset (List.mem_cons_of_mem q (List.takeWhile_subset _ hc)), ?_⟩
      rintro rfl
      have := List.mem_takeWhile_imp hc
      simp [isWord_newline] at this

end ProblemLint
