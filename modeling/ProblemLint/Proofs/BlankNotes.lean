import ProblemLint.Proofs.InlineExemption
import ProblemLint.Proofs.InlinePairs
import ProblemLint.Proofs.Names
import Mathlib.Data.List.TakeWhile

/-! Brackets and the notes on blanks. The check of blanks notes all of them; without its notes the check of brackets
looks for those outside of inline code. That comes to the same: a blank holds no `@`, so one that starts in inline code
ends before the marker that closes it, and what it covers is covered by the inline code already. -/

namespace ProblemLint

namespace AnswerBlank

/-- A blank as it is written: underscores in brackets, with spaces or tabs on both sides. -/
structure Written where
  left : Text
  marks : Nat
  right : Text
  left_spaces : ∀ c ∈ left, isSpaceOrTab c = true
  right_spaces : ∀ c ∈ right, isSpaceOrTab c = true
  marks_pos : 0 < marks

def Written.text (b : Written) : Text := '[' :: (b.left ++ (List.replicate b.marks '_' ++ (b.right ++ [']'])))

theorem Written.text_ne_nil (b : Written) : b.text ≠ [] := List.cons_ne_nil _ _

theorem Written.mem_text {b : Written} {c : Char} (h : c ∈ b.text) :
    c = '[' ∨ c = ']' ∨ c = '_' ∨ isSpaceOrTab c = true := by
  simp only [text, List.mem_cons, List.mem_append, List.mem_replicate, List.not_mem_nil, or_false] at h
  rcases h with rfl | h | ⟨-, rfl⟩ | h | rfl
  · exact .inl rfl
  · exact .inr (.inr (.inr (b.left_spaces c h)))
  · exact .inr (.inr (.inl rfl))
  · exact .inr (.inr (.inr (b.right_spaces c h)))
  · exact .inr (.inl rfl)

theorem at?_text (b : Written) (before : Option Char) (rest : Text) :
    at? before (b.text ++ rest) = some (b.text.length, b.text.length) := by
  set marks := List.replicate b.marks '_'
  have hopen : Text.after? ['['] (b.text ++ rest) = some (b.left ++ (marks ++ (b.right ++ ']' :: rest))) := by
    simp [Written.text, Text.after?, List.isPrefixOf?, marks]
  have hmarks : (marks ++ (b.right ++ ']' :: rest)).head? = some '_' := by
    rw [List.head?_append_of_ne_nil _ (by simpa [marks] using b.marks_pos.ne'), List.head?_replicate,
      if_neg b.marks_pos.ne']
  have hleft := dropWhile_append_stop (r := marks ++ (b.right ++ ']' :: rest)) b.left_spaces (by rw [hmarks]; rfl)
  have hend : (b.right ++ ']' :: rest).head?.any (· == '_') = false := by
    cases hright : b.right with
    | nil => rfl
    | cons c right =>
      have hc := b.right_spaces c (hright ▸ List.mem_cons_self)
      rw [List.cons_append, List.head?_cons, Option.any_some, beq_eq_false_iff_ne]
      rintro rfl
      cases hc
  have htake := takeWhile_append_stop (w := marks) (fun c hc => by simpa using List.eq_of_mem_replicate hc) hend
  have hright := dropWhile_append_stop (r := ']' :: rest) b.right_spaces rfl
  have hclose : Text.after? [']'] (']' :: rest) = some rest := rfl
  have hfilled : marks.isEmpty = false := by
    simpa [marks] using b.marks_pos.ne'
  simp only [at?, hopen, hleft, htake, hfilled, List.drop_left, hright, hclose, bind, Option.bind_some,
    Bool.false_eq_true, if_false, List.length_append, Nat.add_sub_cancel]

theorem at?_eq_some_iff {before : Option Char} {t : Text} {size n : Nat} :
    at? before t = some (size, n) ↔
      ∃ (b : Written) (rest : Text), t = b.text ++ rest ∧ size = b.text.length ∧ n = b.text.length := by
  constructor
  · intro h
    obtain ⟨r, hopen, h⟩ := Option.bind_eq_some_iff.1 h
    obtain rfl : '[' :: r = t := List.append_eq_of_isPrefixOf?_eq_some hopen
    set r₁ := r.dropWhile isSpaceOrTab
    set marks := r₁.takeWhile (· == '_')
    set r₂ := r₁.drop marks.length
    simp only [] at h
    split_ifs at h with hempty
    · cases h
    obtain ⟨rest, hclose, h⟩ := Option.bind_eq_some_iff.1 h
    cases h
    have hmarks : marks = List.replicate marks.length '_' := by
      rw [List.eq_replicate_iff]
      exact ⟨rfl, fun c hc => by simpa using List.mem_takeWhile_imp hc⟩
    let b : Written :=
      { left := r.takeWhile isSpaceOrTab
        marks := marks.length
        right := r₂.takeWhile isSpaceOrTab
        left_spaces := fun c hc => List.mem_takeWhile_imp hc
        right_spaces := fun c hc => List.mem_takeWhile_imp hc
        marks_pos := by
          rw [List.length_pos_iff]
          exact fun hnil => hempty (List.isEmpty_iff.2 hnil) }
    have hread : '[' :: r = b.text ++ rest := by
      have hsplit : marks ++ r₂ = r₁ := List.prefix_iff_eq_append.1 (List.takeWhile_prefix _)
      have hrest : ']' :: rest = r₂.dropWhile isSpaceOrTab := List.append_eq_of_isPrefixOf?_eq_some hclose
      calc '[' :: r = '[' :: (r.takeWhile isSpaceOrTab ++ (marks ++ r₂)) := by
            rw [hsplit, List.takeWhile_append_dropWhile]
        _ = '[' :: (r.takeWhile isSpaceOrTab ++ (marks ++ (r₂.takeWhile isSpaceOrTab ++ ']' :: rest))) := by
            rw [hrest, List.takeWhile_append_dropWhile]
        _ = b.text ++ rest := by simp [Written.text, b, ← hmarks]
    refine ⟨b, rest, hread, ?_, ?_⟩ <;> rw [hread, List.length_append, Nat.add_sub_cancel]
  · rintro ⟨b, rest, rfl, rfl, rfl⟩
    exact at?_text b before rest

/-- A blank of a text starts with a bracket, and no marker of inline code starts or ends in it. -/
theorem mem_spans {t : Text} {b : Span} (h : b ∈ spans t) :
    ∃ p n : Nat, b = ⟨p, p + n⟩ ∧ t[p]? = some '[' ∧ '@' ∉ (t.drop p).take n := by
  obtain ⟨⟨p, n⟩, hx, rfl⟩ := List.mem_map.1 h
  obtain ⟨m, -, hfound⟩ := foundAt_of_mem_occurrences hx
  obtain ⟨b, rest, hdrop, rfl, -⟩ := at?_eq_some_iff.1 hfound
  refine ⟨p, b.text.length, rfl, ?_, ?_⟩
  · rw [← List.head?_drop, hdrop]
    rfl
  · rw [hdrop, List.take_left]
    intro hat
    rcases b.mem_text hat with h | h | h | h <;> exact absurd h (by decide)

end AnswerBlank

/-! ### Spans that add nothing -/

namespace Span

/-- A blank that starts in inline code ends before the marker that closes it. -/
theorem IsInlineCode.blank_stop_le {t : Text} {s b : Span} (hs : s.IsInlineCode t) (hb : b ∈ AnswerBlank.spans t)
    (hstart : s.holds b.start = true) : b.stop ≤ s.stop := by
  obtain ⟨p, q, -, hstop, -, hcloser⟩ := hs.markers
  obtain ⟨i, n, rfl, hopen, hat⟩ := AnswerBlank.mem_spans hb
  have hmarker : (t.drop q).take 2 = ['@', ']'] := InlineMarker.take_drop_of_mem_all hcloser
  have hchar (k : Nat) (hk : k < 2) : t[q + k]? = ['@', ']'][k]? := by
    rw [← hmarker, List.getElem?_take_of_lt hk, List.getElem?_drop]
  have hfirst : t[q]? = some '@' := hchar 0 (by omega)
  have hsecond : t[q + 1]? = some ']' := hchar 1 (by omega)
  simp only [holds, Bool.and_eq_true, decide_eq_true_eq, hstop] at hstart
  have hne : i ≠ q := by
    rintro rfl
    cases hopen.symm.trans hfirst
  have hne' : i ≠ q + 1 := by
    rintro rfl
    cases hopen.symm.trans hsecond
  have hshort : i + n ≤ q := by
    by_contra hlong
    exact hat (Text.mem_take_drop hfirst (by omega) (by omega))
  rw [hstop]
  show (i : Int) + n ≤ q + 2
  omega

theorem anyHolds_filter {outer spans : List Span}
    (h : ∀ s ∈ outer, ∀ b ∈ spans, s.holds b.start = true → b.stop ≤ s.stop) (pos : Int) :
    anyHolds (outer ++ spans) pos = anyHolds (outer ++ spans.filter fun b => !anyHolds outer b.start) pos := by
  rw [Bool.eq_iff_iff]
  simp only [anyHolds, List.any_append, Bool.or_eq_true, List.any_filter, List.any_eq_true, Bool.and_eq_true,
    Bool.not_eq_true', List.any_eq_false]
  constructor
  · rintro (hout | ⟨b, hb, hpos⟩)
    · exact .inl hout
    · by_cases hin : ∃ s ∈ outer, s.holds b.start = true
      · obtain ⟨s, hs, hstart⟩ := hin
        have hle := h s hs b hb hstart
        refine .inl ⟨s, hs, ?_⟩
        simp only [holds, Bool.and_eq_true, decide_eq_true_eq] at hpos hstart ⊢
        omega
      · push Not at hin
        exact .inr ⟨b, hb, by simpa using hin, hpos⟩
  · rintro (hout | ⟨b, hb, -, hpos⟩)
    · exact .inl hout
    · exact .inr ⟨b, hb, hpos⟩

theorem anyHolds_append (as bs : List Span) (pos : Int) :
    anyHolds (as ++ bs) pos = (anyHolds as pos || anyHolds bs pos) := List.any_append

theorem wrapped_append (size : Nat) (as bs : List Span) :
    wrapped size (as ++ bs) = wrapped size as ++ wrapped size bs := List.flatMap_append

end Span

/-- Blanks in inline code make no difference to what is left of a text. -/
theorem bracketIssues_filter (t : Text) (offset : Int) (newlines : NewlineIndex) {inline : List Span}
    (h : ∀ s ∈ inline, s.IsInlineCode t) :
    bracketIssues t offset newlines inline (AnswerBlank.spans t) =
      bracketIssues t offset newlines inline
        ((AnswerBlank.spans t).filter fun b => !Span.anyHolds inline b.start) := by
  have hinline : ∀ s ∈ inline, 0 ≤ s.start := by
    intro s hs
    obtain ⟨p, q, hstart, -⟩ := (h s hs).markers
    omega
  have hblanks : ∀ b ∈ AnswerBlank.spans t, 0 ≤ b.start := by
    intro b hb
    obtain ⟨p, n, rfl, -⟩ := AnswerBlank.mem_spans hb
    exact Int.natCast_nonneg p
  have hheld (pos : Int) :
      Span.anyHolds (Span.wrapped t.length (inline ++ AnswerBlank.spans t ++ mathSpans t)) pos =
        Span.anyHolds (Span.wrapped t.length (inline ++
          (AnswerBlank.spans t).filter (fun b => !Span.anyHolds inline b.start) ++ mathSpans t)) pos := by
    simp only [Span.wrapped_append, Span.wrapped_of_nonneg _ hinline, Span.wrapped_of_nonneg _ hblanks,
      Span.wrapped_of_nonneg _ (fun b hb => hblanks b (List.mem_of_mem_filter hb))]
    have hsame := Span.anyHolds_filter (fun s hs b hb => (h s hs).blank_stop_le hb) pos
    rw [Span.anyHolds_append _ (Span.wrapped _ _), hsame, ← Span.anyHolds_append]
  simp only [bracketIssues, Span.blankOut, hheld]

namespace Check

theorem blankSpansOf_noted {d : Document} {x : Nat × Int × Text} (hx : x ∈ d.regionTexts) (inline : List Span) :
    blankSpansOf (blanks.noted d) x.1 x.2.2 inline = AnswerBlank.spans x.2.2 := by
  have hnotes : SpanTable.at? (blanks.noted d).blankSpans x.1 = some (AnswerBlank.spans x.2.2) := by
    show SpanTable.at? (some (.ofSpans _)) x.1 = _
    simp only [SpanTable.at?_ofSpans, List.getElem?_map, Document.getElem?_of_mem_regionTexts hx, Option.map_some]
    rfl
  rw [blankSpansOf, hnotes]

theorem brackets_found {d : Document} {inline : Nat × Int × Text → List Span}
    (h : ∀ x ∈ d.regionTexts, d.inlineSpansOf x.1 x.2.2 x.2.1 = ([], inline x)) :
    brackets.found d = d.regionTexts.flatMap fun x =>
      bracketIssues x.2.2 x.2.1 d.newlines (inline x) (blankSpansOf d x.1 x.2.2 (inline x)) := by
  show d.regionTexts.flatMap _ = _
  apply List.flatMap_congr
  intro x hx
  simp only [h x hx, List.nil_append]

/-- After the check of inline markers, the check of brackets reports the same issues before and after the check of
blanks, though it passes over blanks in inline code by itself and these are noted too. -/
theorem brackets_same_after_blanks (t : Text) (path : Option Text) (blocks : List BlockRule)
    (macros : List MacroRule) (version : Option Text) :
    ∃ marked blanked before after,
      inlineMarkers.run (Document.ofText t path blocks macros version) = .ok marked ∧
      blanks.run marked.document = .ok blanked ∧
      marked.document.blankSpans = none ∧
      blanked.document.blankSpans =
        some (.ofSpans (marked.document.regionTexts.map fun x => AnswerBlank.spans x.2.2)) ∧
      brackets.run marked.document = .ok before ∧ brackets.run blanked.document = .ok after ∧
      before.issues = after.issues := by
  set d := Document.ofText t path blocks macros version
  set marked := inlineMarkers.noted d
  have hinline : ∀ x ∈ marked.regionTexts,
      marked.inlineSpansOf x.1 x.2.2 x.2.1 = ([], (inlineSpans x.2.2 x.2.1 d.newlines).2) := by
    intro x hx
    rw [Document.inlineSpansOf, at?_noted (d := d) (Document.getElem?_of_mem_regionTexts hx)]
  have hsame : brackets.found marked = brackets.found (blanks.noted marked) := by
    -- the notes on blanks change neither the regions nor their inline code
    rw [brackets_found hinline, brackets_found (d := blanks.noted marked) hinline]
    apply List.flatMap_congr
    intro x hx
    rw [blankSpansOf_noted hx]
    exact (bracketIssues_filter _ _ _ (inlineSpans_isInlineCode _ _ _)).symm
  refine ⟨⟨_, marked⟩, ⟨_, blanks.noted marked⟩, _, _, rfl, rfl, rfl, ?_, rfl, rfl, hsame⟩
  show some (SpanTable.ofSpans ((marked.regionTexts.map _).map _)) = _
  rw [List.map_map]
  rfl

/-- A blank that is noted, and passed over by a check that has no notes. -/
example :
    AnswerBlank.spans "[@ [_] @] [".toList = [⟨3, 6⟩] ∧
      ((AnswerBlank.spans "[@ [_] @] [".toList).filter fun b => !Span.anyHolds [⟨0, 9⟩] b.start) = [] := by
  decide

end Check
end ProblemLint
