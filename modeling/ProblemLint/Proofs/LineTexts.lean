import ProblemLint.Proofs.Lines
import ProblemLint.Proofs.Trimming

/-! Lines without their breaks. A text whose only breaks are line feeds is its lines joined with line feeds; trimming
takes nothing away but blanks, and joining adds nothing but line feeds, so that all other characters can be counted
line by line. -/

namespace ProblemLint

namespace Text

/-! ### Lines without their breaks -/

theorem not_break_of_mem_lineTexts {t l : Text} (h : l ∈ lineTexts t) : ∀ c ∈ l, isLineBreak c = false := by
  obtain ⟨line, -, rfl⟩ := List.mem_map.1 h
  intro c hc
  simpa using List.mem_takeWhile_imp hc

theorem withoutBreak_concat {l : Text} (h : ∀ c ∈ l, isLineBreak c = false) : withoutBreak (l ++ ['\n']) = l := by
  rw [withoutBreak, List.takeWhile_append_of_pos fun c hc => by rw [h c hc]; rfl]
  exact List.append_nil l

theorem lineTexts_line {l : Text} (hbreak : ∀ c ∈ l, isLineBreak c = false) (r : Text) :
    lineTexts (l ++ '\n' :: r) = l :: lineTexts r := by
  rw [lineTexts, lines_line hbreak, List.map_cons, withoutBreak_concat hbreak, lineTexts]

theorem lines_last {l : Text} (hne : l ≠ []) (hbreak : ∀ c ∈ l, isLineBreak c = false) : lines l = [l] := by
  induction l with
  | nil => exact absurd rfl hne
  | cons c r ih =>
    obtain ⟨hc, hr⟩ := List.forall_mem_cons.1 hbreak
    rw [lines_cons_of_not_break hc]
    cases r with
    | nil => rfl
    | cons d r => rw [ih (List.cons_ne_nil d r) hr]

theorem withoutBreak_last {l : Text} (hbreak : ∀ c ∈ l, isLineBreak c = false) : withoutBreak l = l :=
  List.takeWhile_eq_self_iff.2 fun c hc => by rw [hbreak c hc]; rfl

theorem lineTexts_last {l : Text} (hne : l ≠ []) (hbreak : ∀ c ∈ l, isLineBreak c = false) :
    lineTexts l = [l] := by
  rw [lineTexts, lines_last hne hbreak, List.map_singleton, withoutBreak_last hbreak]

theorem lineTexts_map_concat {ls : List Text} (h : ∀ l ∈ ls, ∀ c ∈ l, isLineBreak c = false) :
    lineTexts (ls.map (· ++ ['\n'])).flatten = ls := by
  induction ls with
  | nil => rfl
  | cons l ls ih =>
    obtain ⟨hl, hls⟩ := List.forall_mem_cons.1 h
    rw [List.map_cons, List.flatten_cons, List.append_assoc, List.singleton_append, lineTexts_line hl, ih hls]

/-- In a text whose only breaks are line feeds, and which ends with one, every line is its text and a line feed. -/
theorem map_lineTexts {t : Text} (hbreak : ∀ c ∈ t, isLineBreak c = true → c = '\n')
    (hend : t = [] ∨ t.getLast? = some '\n') : (lineTexts t).map (· ++ ['\n']) = lines t := by
  unfold lineTexts
  fun_induction lines t with
  | case1 => rfl
  | case2 r ih => exact absurd (hbreak '\r' (by simp) rfl) (by decide)
  | case3 c r _ hc ih =>
    obtain rfl := hbreak c List.mem_cons_self hc
    simpa [withoutBreak, hc] using ih (fun d hd => hbreak d (List.mem_cons_of_mem _ hd)) (endsLine_tail hend)
  | case4 c r _ hc hnil ih =>
    have hr : r = [] := by rw [← lines_flatten r, hnil, List.flatten_nil]
    subst hr
    exact absurd (by simpa using hend) (ne_newline_of_not_break hc)
  | case5 c r _ hc l ls hcons ih =>
    have hrest := ih (fun d hd => hbreak d (List.mem_cons_of_mem _ hd)) (endsLine_tail hend)
    rw [hcons] at hrest
    simpa [withoutBreak, hc] using hrest

theorem join_lineTexts {t : Text} (hbreak : ∀ c ∈ t, isLineBreak c = true → c = '\n')
    (hend : t.getLast? = some '\n') : join "\n" (lineTexts t) ++ ['\n'] = t := by
  have hlines := map_lineTexts hbreak (.inr hend)
  have hne : lineTexts t ≠ [] := by
    intro hnil
    rw [hnil, List.map_nil] at hlines
    rw [← lines_flatten t, ← hlines] at hend
    cases hend
  rw [join_concat hne, hlines, lines_flatten]

theorem join_append_singleton (ls : List Text) (l : Text) :
    join "\n" (ls ++ [l]) = (ls.map (· ++ ['\n'])).flatten ++ l := by
  induction ls with
  | nil => simp [join]
  | cons m ls ih =>
    obtain ⟨k, ks, hks⟩ := List.exists_cons_of_ne_nil (List.append_ne_nil_of_right_ne_nil ls (List.cons_ne_nil l []))
    rw [List.cons_append, hks, join_cons_cons, ← hks, ih]
    simp

theorem count_join {c : Char} (hc : c ≠ '\n') (ls : List Text) :
    (join "\n" ls).count c = (ls.map (List.count c)).sum := by
  induction ls with
  | nil => rfl
  | cons l ls ih =>
    cases ls with
    | nil => simp [join]
    | cons m ls =>
      rw [join_cons_cons, List.count_append, List.count_append, ih]
      simp [hc.symm]

theorem mem_join {c : Char} {ls : List Text} (h : c ∈ join "\n" ls) : c = '\n' ∨ ∃ l ∈ ls, c ∈ l := by
  by_cases hc : c = '\n'
  · exact .inl hc
  · rw [← List.count_pos_iff, count_join hc] at h
    obtain ⟨n, hn, hpos⟩ := List.exists_mem_ne_zero_of_sum_ne_zero (Nat.pos_iff_ne_zero.1 h)
    obtain ⟨l, hl, rfl⟩ := List.mem_map.1 hn
    exact .inr ⟨l, hl, List.count_pos_iff.1 (Nat.pos_of_ne_zero hpos)⟩

end Text

end ProblemLint
