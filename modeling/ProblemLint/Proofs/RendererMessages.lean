import ProblemLint.Renderer.Compare
import ProblemLint.Renderer.Explore
import ProblemLint.Proofs.LineTexts

/-! Two readings of the renderer. Comparing and exploring find the same messages under the same titles, though one cuts
and filters the lines and the other goes through them once. They part in one case: the renderer says that it has no
messages, and fails with a complaint. -/

namespace ProblemLint.Renderer

/-! ### Messages under titles -/

theorem collect_behind_title (lines : List Text) :
    Explore.collect true lines = (lines.filter fun l => Text.trim l != messagesTitle).filterMap messageLine? := by
  induction lines with
  | nil => rfl
  | cons l lines ih =>
    by_cases htitle : Text.trim l = messagesTitle
    · rw [Explore.collect, if_pos (beq_iff_eq.2 htitle), ih, List.filter_cons_of_neg (by simp [htitle])]
    · rw [Explore.collect, if_neg (by simpa using htitle), if_neg (by decide), ih,
        List.filter_cons_of_pos (by simp [htitle])]
      cases hmessage : messageLine? l with
      | none => rw [List.filterMap_cons_none hmessage, Option.toList_none, List.nil_append]
      | some m => rw [List.filterMap_cons_some hmessage, Option.toList_some, List.singleton_append]

theorem collect_before_title (lines : List Text) :
    Explore.collect false lines =
      Explore.collect true ((lines.dropWhile fun l => Text.trim l != messagesTitle).drop 1) := by
  induction lines with
  | nil => rfl
  | cons l lines ih =>
    by_cases htitle : Text.trim l = messagesTitle
    · rw [Explore.collect, if_pos (beq_iff_eq.2 htitle), List.dropWhile_cons_of_neg (by simp [htitle]),
        List.drop_one, List.tail_cons]
    · rw [Explore.collect, if_neg (by simpa using htitle), if_pos (by decide), ih,
        List.dropWhile_cons_of_pos (by simp [htitle])]

theorem listed_eq_collect (stdout : Text) :
    Compare.listed stdout =
      if noMessages ∈ Text.lineTexts stdout then [] else Explore.collect false (Text.lineTexts stdout) := by
  simp only [Compare.listed, List.contains_iff_mem]
  rw [collect_before_title, collect_behind_title]

/-! ### Complaints -/

theorem filledLines_ne_nil_iff (t : Text) :
    Text.filledLines t ≠ [] ↔ ∃ l ∈ Text.lineTexts t, ∃ c ∈ l, Text.isBlank c = false := by
  simp only [Text.filledLines, ne_eq, List.filter_eq_nil_iff, not_forall]
  refine exists_congr fun l => ?_
  rw [exists_prop]
  refine and_congr_right fun _ => ?_
  simp [Text.trim_eq_nil_iff, Text.isAllBlank]

/-- The renderer says that it has no messages, and fails with a complaint. -/
structure Contradicts (r : Reply) : Prop where
  noMessages : noMessages ∈ Text.lineTexts r.outText
  failed : r.code ≠ 0
  complaint : ∃ l ∈ Text.lineTexts r.errText, ∃ c ∈ l, Text.isBlank c = false

theorem explore_messages_eq (r : Reply) :
    Explore.messages r.outText r.errText r.code =
      if noMessages ∈ Text.lineTexts r.outText then [] else Compare.messages r := by
  simp only [Explore.messages, Compare.messages, listed_eq_collect, List.contains_iff_mem]
  by_cases hno : noMessages ∈ Text.lineTexts r.outText
  · rw [if_pos hno, if_pos hno]
  · rw [if_neg hno, if_neg hno, if_neg hno]
    cases Explore.collect false (Text.lineTexts r.outText) with
    | nil => rfl
    | cons m ms => rfl

theorem compare_messages_of_noMessages {r : Reply} (h : noMessages ∈ Text.lineTexts r.outText) :
    Compare.messages r = if r.code = 0 then [] else Text.filledLines r.errText := by
  simp [Compare.messages, listed_eq_collect, h]

/-- Exploring gives no messages when the renderer says that there are none, and otherwise what comparing gives; so the
two agree unless the renderer contradicts itself. -/
theorem messages_agree_iff (r : Reply) :
    (Explore.messages r.outText r.errText r.code =
      if noMessages ∈ Text.lineTexts r.outText then [] else Compare.messages r) ∧
    (Compare.messages r = Explore.messages r.outText r.errText r.code ↔ ¬ Contradicts r) := by
  refine ⟨explore_messages_eq r, ?_⟩
  rw [explore_messages_eq]
  by_cases hno : noMessages ∈ Text.lineTexts r.outText
  · rw [if_pos hno, compare_messages_of_noMessages hno]
    by_cases hcode : r.code = 0
    · exact iff_of_true (if_pos hcode) fun h => h.failed hcode
    · rw [if_neg hcode, ← not_iff_not, not_not, ← ne_eq, filledLines_ne_nil_iff]
      exact ⟨fun h => ⟨hno, hcode, h⟩, fun h => h.complaint⟩
  · rw [if_neg hno]
    exact iff_of_true rfl fun h => hno h.noMessages

def failedReply : Reply where
  stdout := "No lint messages detected.\n".toList
  stderr := "boom\n".toList
  code := 1

/-- One reading has no message there and the other has the complaint. -/
theorem messages_differ : ¬ ∀ r : Reply, Compare.messages r = Explore.messages r.outText r.errText r.code := by
  intro h
  have hcompare : Compare.messages failedReply = ["boom".toList] := by decide
  have hexplore : Explore.messages failedReply.outText failedReply.errText failedReply.code = [] := by decide
  have heq := h failedReply
  rw [hcompare, hexplore] at heq
  cases heq

end ProblemLint.Renderer
