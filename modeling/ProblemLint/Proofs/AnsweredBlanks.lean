import ProblemLint.Proofs.BlankNotes
import ProblemLint.Proofs.Delimiters
import ProblemLint.Proofs.Texts

/-! Markup in which every blank has its answer. Such markup is text, a blank, and the answer in braces, over and over.
However it is laid out, the reader of blanks finds the blanks and no others, takes the names of variables from the
payloads, and has nothing to say but that a payload is empty. -/

namespace ProblemLint

theorem flatMap_ite_singleton {α β γ : Type} (l : List α) (p : α → Bool) (b : β) (f : α → β → γ) :
    l.flatMap (fun a => (if p a then [b] else []).map (f a)) = (l.filter p).map fun a => f a b := by
  induction l with
  | nil => rfl
  | cons a l ih =>
    rw [List.flatMap_cons, ih]
    cases hp : p a <;> simp [hp]

/-- Text of markup in which no blank starts and which has no star. -/
structure PlainMarkup where
  text : Text
  no_bracket : '[' ∉ text
  no_star : '*' ∉ text

/-- A blank with the text before it and the answer behind it. The answer has white space before it, perhaps a star with
more white space, and a payload that the braces around it delimit. -/
structure AnsweredBlank where
  lead : PlainMarkup
  blank : AnswerBlank.Written
  gap : Text
  star : Option Text
  payload : Text
  gap_blank : ∀ c ∈ gap, Text.isBlank c = true
  star_blank : ∀ w ∈ star, ∀ c ∈ w, Text.isBlank c = true
  braced : bracedAt? ('{' :: (payload ++ ['}'])) 0 = some (payload, (payload.length : Int) + 2)
  no_blank : ∀ b : AnswerBlank.Written, ¬ b.text <:+: payload

namespace AnsweredBlank

def opening (s : AnsweredBlank) : Text := s.gap ++ (s.star.elim [] ('*' :: ·) ++ ['{'])

def text (s : AnsweredBlank) : Text := s.lead.text ++ (s.blank.text ++ (s.opening ++ (s.payload ++ ['}'])))

def layout (segments : List AnsweredBlank) (tail : PlainMarkup) : Text := segments.flatMap text ++ tail.text

/-- The segments with the positions of their blanks, when the first segment starts at a position. -/
def placed (pos : Nat) : List AnsweredBlank → List (Nat × AnsweredBlank)
  | [] => []
  | s :: segments => (pos + s.lead.text.length, s) :: placed (pos + s.text.length) segments

theorem map_placed (pos : Nat) (segments : List AnsweredBlank) : (placed pos segments).map (·.2) = segments := by
  induction segments generalizing pos with
  | nil => rfl
  | cons s segments ih => rw [placed, List.map_cons, ih]

theorem opening_plain (s : AnsweredBlank) : '[' ∉ s.opening := by
  have hblank {w : Text} (hw : ∀ c ∈ w, Text.isBlank c = true) : '[' ∉ w := by
    intro h
    exact absurd (hw _ h) (by decide)
  have hstar : '[' ∉ s.star.elim [] ('*' :: ·) := by
    cases hstar : s.star with
    | none => exact List.not_mem_nil
    | some w => simpa using hblank (s.star_blank w hstar)
  simpa [opening, hblank s.gap_blank] using hstar

theorem text_append (s : AnsweredBlank) (r : Text) :
    s.text ++ r = s.lead.text ++ (s.blank.text ++ (s.opening ++ (s.payload ++ '}' :: r))) := by
  simp [text]

theorem layout_cons (s : AnsweredBlank) (segments : List AnsweredBlank) (tail : PlainMarkup) :
    layout (s :: segments) tail = s.text ++ layout segments tail := by
  simp [layout]

end AnsweredBlank

/-! ### The blanks -/

namespace AnswerBlank

theorem at?_eq_none {t : Text} (h : ∀ (b : Written) (rest : Text), t ≠ b.text ++ rest) (before : Option Char) :
    at? before t = none := by
  rw [Option.eq_none_iff_forall_ne_some]
  rintro ⟨size, n⟩ hfound
  obtain ⟨b, rest, ht, -⟩ := at?_eq_some_iff.1 hfound
  exact h b rest ht

theorem occurrencesFrom_plain {a : Text} (ha : '[' ∉ a) (before : Option Char) (pos : Nat) (r : Text) :
    ∃ before', occurrencesFrom at? 0 before pos (a ++ r) = occurrencesFrom at? 0 before' (pos + a.length) r := by
  apply occurrencesFrom_pass
  intro u v huv hv
  apply at?_eq_none
  intro b rest h
  cases v with
  | nil => exact hv rfl
  | cons c v =>
    obtain ⟨rfl, -⟩ := List.cons.inj h
    exact ha (by rw [← huv]; simp)

theorem prefix_of_append_eq {u r b rest : Text} {c : Char} (h : u ++ c :: r = b ++ rest) (hc : c ∉ b) : b <+: u := by
  rcases List.append_eq_append_iff.1 h with ⟨a, rfl, ha⟩ | ⟨a, rfl, -⟩
  · cases a with
    | nil => simp
    | cons d a =>
      obtain ⟨rfl, -⟩ := List.cons.inj ha
      exact absurd (by simp) hc
  · exact List.prefix_append b a

/-- A payload without blanks is passed over with its brace: no blank reaches over the brace. -/
theorem occurrencesFrom_payload {a : Text} (ha : ∀ b : Written, ¬ b.text <:+: a) (before : Option Char) (pos : Nat)
    (r : Text) :
    ∃ before', occurrencesFrom at? 0 before pos (a ++ '}' :: r) =
      occurrencesFrom at? 0 before' (pos + a.length + 1) r := by
  have hnone : ∀ u v, u ++ v = a → v ≠ [] → ∀ before, at? before (v ++ '}' :: r) = none := by
    intro u v huv _
    apply at?_eq_none
    intro b rest h
    have hbrace : '}' ∉ b.text := by
      intro hmem
      rcases b.mem_text hmem with h | h | h | h <;> exact absurd h (by decide)
    apply ha b
    rw [← huv]
    exact (prefix_of_append_eq h hbrace).isInfix.trans (List.suffix_append u v).isInfix
  obtain ⟨before₁, hpayload⟩ := occurrencesFrom_pass hnone before pos
  obtain ⟨before₂, hbrace⟩ := occurrencesFrom_plain (a := ['}']) (by decide) before₁ (pos + a.length) r
  exact ⟨before₂, hpayload.trans hbrace⟩

end AnswerBlank

namespace AnsweredBlank

open AnswerBlank

theorem occurrencesFrom_text (s : AnsweredBlank) (before : Option Char) (pos : Nat) (r : Text) :
    ∃ before', occurrencesFrom at? 0 before pos (s.text ++ r) =
      (pos + s.lead.text.length, s.blank.text.length) :: occurrencesFrom at? 0 before' (pos + s.text.length) r := by
  obtain ⟨before₁, hlead⟩ := occurrencesFrom_plain s.lead.no_bracket before pos
    (s.blank.text ++ (s.opening ++ (s.payload ++ '}' :: r)))
  obtain ⟨before₂, hblank⟩ := occurrencesFrom_found s.blank.text_ne_nil
    (at?_text s.blank before₁ (s.opening ++ (s.payload ++ '}' :: r))) (pos + s.lead.text.length)
  obtain ⟨before₃, hopening⟩ := occurrencesFrom_plain s.opening_plain before₂
    (pos + s.lead.text.length + s.blank.text.length) (s.payload ++ '}' :: r)
  obtain ⟨before₄, hpayload⟩ := occurrencesFrom_payload s.no_blank before₃
    (pos + s.lead.text.length + s.blank.text.length + s.opening.length) r
  refine ⟨before₄, ?_⟩
  rw [text_append, hlead, hblank, hopening, hpayload]
  congr 2
  simp only [text, List.length_append, List.length_singleton]
  omega

/-- The blanks that are found are those of the segments. -/
theorem occurrencesFrom_layout (segments : List AnsweredBlank) (tail : PlainMarkup) (before : Option Char) (pos : Nat) :
    occurrencesFrom at? 0 before pos (layout segments tail) =
      (placed pos segments).map fun x => (x.1, x.2.blank.text.length) := by
  induction segments generalizing before pos with
  | nil =>
    obtain ⟨before', htail⟩ := occurrencesFrom_plain tail.no_bracket before pos []
    rw [List.append_nil] at htail
    exact htail
  | cons s segments ih =>
    obtain ⟨before', htext⟩ := s.occurrencesFrom_text before pos (layout segments tail)
    rw [layout_cons, htext, ih]
    rfl

theorem spans_layout (segments : List AnsweredBlank) (tail : PlainMarkup) :
    spans (layout segments tail) = (placed 0 segments).map fun x => ⟨x.1, x.1 + x.2.blank.text.length⟩ := by
  rw [spans, occurrences, occurrencesFrom_layout, List.map_map]
  rfl

/-! ### The answers -/

theorem afterStar_opening (s : AnsweredBlank) (r : Text) :
    afterStar (s.opening ++ r) = (s.star.isSome, '{' :: r) := by
  have htrim {w u : Text} (hw : ∀ c ∈ w, Text.isBlank c = true) (hu : u.head?.any Text.isBlank = false) :
      Text.trimStart (w ++ u) = u := dropWhile_append_stop hw hu
  rw [opening, List.append_assoc, List.append_assoc, List.singleton_append]
  cases hstar : s.star with
  | none => rw [afterStar, htrim s.gap_blank rfl]; rfl
  | some w =>
    rw [afterStar, htrim s.gap_blank rfl]
    show (true, Text.trimStart (w ++ '{' :: r)) = _
    rw [htrim (s.star_blank w hstar) rfl]
    rfl

theorem afterStar_plain {a r : Text} (ha : '*' ∉ a) (hr : r.head?.all (· == '[') = true) :
    (afterStar (a ++ r)).1 = false := by
  have hfirst : (Text.trimStart (a ++ r)).head? ≠ some '*' := by
    rw [Text.trimStart, ← List.find?_not_eq_head?_dropWhile, List.find?_append]
    intro h
    rcases Option.or_eq_some_iff.1 h with h | ⟨-, h⟩
    · exact ha (List.mem_of_find?_eq_some h)
    · cases r with
      | nil => cases h
      | cons c r =>
        obtain rfl : c = '[' := by simpa using hr
        cases h
  unfold afterStar
  split
  · next h =>
    rw [h] at hfirst
    exact absurd rfl hfirst
  · rfl

theorem afterStar_layout (segments : List AnsweredBlank) (tail : PlainMarkup) :
    (afterStar (layout segments tail)).1 = false := by
  cases segments with
  | nil =>
    have h := afterStar_plain (r := []) tail.no_star rfl
    rwa [List.append_nil] at h
  | cons s segments =>
    rw [layout_cons, text_append]
    exact afterStar_plain s.lead.no_star rfl

/-- An answer is found fault with only if its payload is empty. -/
theorem answer_opening (s : AnsweredBlank) {r : Text} (hr : (afterStar r).1 = false) :
    answer (s.opening ++ (s.payload ++ '}' :: r)) =
      (if Text.isAllBlank s.payload then [(.warning, "PGML blank spec is empty")] else [],
        Variable.dollarNames s.payload) := by
  have hbraced : delimitedAt? '{' '}' ('{' :: (s.payload ++ ['}'])) ((0 : Nat) : Int) = _ := s.braced
  obtain ⟨u, hu⟩ : ∃ u, afterStar r = (false, u) := ⟨(afterStar r).2, Prod.ext hr rfl⟩
  simp only [answer, afterStar_opening, delimited?_again hbraced r, hu, List.append_nil]

theorem drop_layout {segments : List AnsweredBlank} {done : Text} {x : Nat × AnsweredBlank}
    (hx : x ∈ placed done.length segments) (tail : PlainMarkup) :
    ∃ r, (done ++ layout segments tail).drop x.1 = x.2.blank.text ++ (x.2.opening ++ (x.2.payload ++ '}' :: r)) ∧
      (afterStar r).1 = false := by
  induction segments generalizing done with
  | nil => cases hx
  | cons s segments ih =>
    rw [layout_cons]
    rcases List.mem_cons.1 hx with rfl | hx
    · refine ⟨layout segments tail, ?_, afterStar_layout segments tail⟩
      rw [text_append, ← List.append_assoc, ← List.length_append, List.drop_left]
    · rw [← List.append_assoc]
      apply ih
      rwa [List.length_append]

section

variable {segments : List AnsweredBlank} {x : Nat × AnsweredBlank} (hx : x ∈ placed 0 segments) (tail : PlainMarkup)

include hx

theorem slice_layout :
    Text.slice (layout segments tail) x.1 (x.1 + x.2.blank.text.length) = x.2.blank.text := by
  obtain ⟨r, hr, -⟩ := @drop_layout segments [] x hx tail
  rw [List.nil_append] at hr
  have hslice := Text.slice_natCast (layout segments tail) x.1 (x.1 + x.2.blank.text.length)
  rw [Nat.add_sub_cancel_left, hr, List.take_left] at hslice
  exact hslice

theorem answer_layout :
    answer ((layout segments tail).drop (x.1 + x.2.blank.text.length)) =
      (if Text.isAllBlank x.2.payload then [(.warning, "PGML blank spec is empty")] else [],
        Variable.dollarNames x.2.payload) := by
  obtain ⟨r, hr, hstar⟩ := @drop_layout segments [] x hx tail
  rw [List.nil_append] at hr
  rw [← List.drop_drop, hr, List.drop_left, x.2.answer_opening hstar]

end

end AnsweredBlank

/-- Blanks with their answers are read back: the spans are those of the blanks, the names are those that the payloads
use, and an issue is raised for each payload that is empty, on the line of its blank. -/
theorem answerBlanks_layout (segments : List AnsweredBlank) (tail : PlainMarkup) (offset : Int)
    (newlines : NewlineIndex) :
    let t := AnsweredBlank.layout segments tail
    let placed := AnsweredBlank.placed 0 segments
    let read := answerBlanks t offset newlines []
    read.2.2 = placed.map (fun x => ⟨x.1, x.1 + x.2.blank.text.length⟩) ∧
      (∀ x ∈ placed, Text.slice t x.1 (x.1 + x.2.blank.text.length) = x.2.blank.text) ∧
      (∀ name : String, name ∈ read.2.1 ↔ ∃ s ∈ segments, Variable.UsedIn name.toList s.payload) ∧
      read.1 = (placed.filter fun x => Text.isAllBlank x.2.payload).map fun x =>
        .onLine .warning "PGML blank spec is empty" (newlines.lineOf (offset + x.1)) := by
  intro t placed read
  have hspans : AnswerBlank.spans t = placed.map fun x => ⟨x.1, x.1 + x.2.blank.text.length⟩ :=
    AnsweredBlank.spans_layout segments tail
  have hfound : ((AnswerBlank.spans t).filter fun s => !Span.anyHolds [] s.start).map (fun s =>
        (newlines.lineOf (offset + s.start), AnswerBlank.answer (t.drop s.stop.toNat))) =
      placed.map fun x => (newlines.lineOf (offset + x.1),
        (if Text.isAllBlank x.2.payload then [(.warning, "PGML blank spec is empty")] else [],
          Variable.dollarNames x.2.payload)) := by
    have hall : (fun s : Span => !Span.anyHolds [] s.start) = fun _ => true := rfl
    rw [hall, List.filter_true, hspans, List.map_map]
    apply List.map_congr_left
    intro x hx
    rw [← AnsweredBlank.answer_layout hx tail]
    rfl
  refine ⟨hspans, fun x hx => AnsweredBlank.slice_layout hx tail, ?_, ?_⟩
  · intro name
    have hsegments : placed.map (·.2) = segments := AnsweredBlank.map_placed 0 segments
    simp only [read, answerBlanks, hfound, mem_sortedNames_iff, List.flatMap_map, List.mem_flatMap, List.mem_map]
    rw [← hsegments]
    simp only [List.mem_map, Variable.mem_dollarNames_iff]
    constructor
    · rintro ⟨x, hx, n, hn, rfl⟩
      exact ⟨x.2, ⟨x, hx, rfl⟩, by rwa [String.toList_ofList]⟩
    · rintro ⟨_, ⟨x, hx, rfl⟩, hname⟩
      exact ⟨x, hx, name.toList, hname, String.ofList_toList⟩
  · simp only [read, answerBlanks, hfound, List.flatMap_map]
    exact flatMap_ite_singleton placed _ (Severity.warning, "PGML blank spec is empty") _

theorem AnswerBlank.Written.not_infix {b : AnswerBlank.Written} {a : Text} (ha : '_' ∉ a) : ¬ b.text <:+: a := by
  intro h
  have hmark : '_' ∈ b.text := by
    simp [text, b.marks_pos.ne']
  exact ha (h.subset hmark)

/-- A payload with a brace in quotes and with brackets, and behind it one that is empty and has a star. -/
def sampleAnswers : List AnsweredBlank :=
  [{ lead := ⟨"Find ".toList, by decide, by decide⟩
     blank := ⟨[], 3, [], by simp, by simp, by decide⟩
     gap := []
     star := none
     payload := "$f->\x7b'\x7d'\x7d + $x[0]".toList
     gap_blank := by simp
     star_blank := by simp
     braced := rfl
     no_blank := fun b => AnswerBlank.Written.not_infix (by decide) },
   { lead := ⟨"\nand ".toList, by decide, by decide⟩
     blank := ⟨" ".toList, 1, "\t".toList, List.all_eq_true.1 rfl, List.all_eq_true.1 rfl, by decide⟩
     gap := " ".toList
     star := some "\n".toList
     payload := " ".toList
     gap_blank := List.all_eq_true.1 rfl
     star_blank := by
       rintro w ⟨⟩
       exact List.all_eq_true.1 rfl
     braced := rfl
     no_blank := fun b => AnswerBlank.Written.not_infix (by decide) }]

/-- The text of these: `Find [___]{$f->{'}'} + $x[0]}`, and on the next two lines `and [ _ ] *` and `{ }.`. -/
def sampleMarkup : Text := "Find [___]\x7b$f->\x7b'\x7d'\x7d + $x[0]\x7d\nand [ _\t] *\n\x7b \x7d.".toList

theorem sampleAnswers_read :
    AnsweredBlank.layout sampleAnswers ⟨".".toList, by decide, by decide⟩ = sampleMarkup ∧
      let read := answerBlanks sampleMarkup 0 (.ofText sampleMarkup) []
      read.2.2 = [⟨5, 10⟩, ⟨34, 39⟩] ∧ "f" ∈ read.2.1 ∧ "x" ∈ read.2.1 ∧
        read.1 = [.onLine .warning "PGML blank spec is empty" 2] := by
  refine ⟨rfl, ?_⟩
  obtain ⟨hspans, -, hnames, hissues⟩ :=
    answerBlanks_layout sampleAnswers ⟨".".toList, by decide, by decide⟩ 0 (.ofText sampleMarkup)
  refine ⟨hspans, (hnames "f").2 ?_, (hnames "x").2 ?_, hissues.trans ?_⟩
  · exact ⟨_, List.mem_cons_self, [], "->\x7b'\x7d'\x7d + $x[0]".toList, rfl, ⟨rfl, List.all_eq_true.1 rfl⟩, rfl⟩
  · exact ⟨_, List.mem_cons_self, "$f->\x7b'\x7d'\x7d + ".toList, "[0]".toList, rfl, ⟨rfl, List.all_eq_true.1 rfl⟩, rfl⟩
  · have hline := NewlineIndex.lineOf_ofText sampleMarkup 34
    exact congrArg (fun line => [Issue.onLine .warning "PGML blank spec is empty" line]) hline

end ProblemLint
