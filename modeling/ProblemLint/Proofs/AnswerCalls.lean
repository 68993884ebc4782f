import Mathlib.Data.List.TakeWhile
import ProblemLint.Check.Legacy
import ProblemLint.Proofs.Newlines
import ProblemLint.Proofs.Recognisers
import ProblemLint.Proofs.SoundIssues

/-! Answer calls behind the ends of blocks. Each end of a block opens a window up to the next end of the document, and
the calls in it are reported. The windows of several blocks overlap, so a call is reported once for every block that
ends before it. The start of a window counts as the start of a line, so a call on the line of the end is reported too,
though it does not start a line of the file. -/

namespace ProblemLint.Check

/-! ### Words and calls at the start of a line -/

/-- What may stand before the first word of a line. -/
def isGap (c : Char) : Bool := c == ' ' || c == '\t'

theorem isBlank_of_isGap {c : Char} (h : isGap c = true) : Text.isBlank c = true := by
  rcases Bool.or_eq_true_iff.1 h with h | h
  · rw [eq_of_beq h]
    decide
  · rw [eq_of_beq h]
    decide

/-- A word whose first character is neither white space nor a parenthesis, and which has no line feed. -/
structure IsLineWord (w : Text) : Prop where
  start : ∃ c r, w = c :: r ∧ Text.isBlank c = false ∧ c ≠ '('
  newline_not_mem : '\n' ∉ w

def wordLength (w u : Text) : Nat := (u.takeWhile isGap).length + w.length

/-- How many characters a call takes up to its parenthesis, at the start of a line. -/
def callLength? (w u : Text) : Option Nat :=
  let n := wordLength w u + ((u.drop (wordLength w u)).takeWhile Text.isBlank).length
  if List.IsPrefix w (u.dropWhile isGap) ∧ (u.drop n).head? = some '(' then some (n + 1) else none

def edgedLength? (w u : Text) : Option Nat :=
  if List.IsPrefix w (u.dropWhile isGap) ∧ ((u.before? (wordLength w u)).any Text.isWord !=
      (u.drop (wordLength w u)).head?.any Text.isWord) = true then some (wordLength w u)
  else none

def lineLength? (length? : Text → Option Nat) (before : Option Char) (u : Text) : Option Nat :=
  if before.all (· == '\n') then length? u else none

theorem drop_length_takeWhile (p : Char → Bool) (u : Text) : u.drop (u.takeWhile p).length = u.dropWhile p := by
  have h : (u.takeWhile p ++ u.dropWhile p).drop (u.takeWhile p).length = u.dropWhile p := List.drop_left
  rwa [List.takeWhile_append_dropWhile] at h

theorem wordLength_bounds {w u : Text} (hw : IsLineWord w) (h : List.IsPrefix w (u.dropWhile isGap)) :
    0 < wordLength w u ∧ wordLength w u ≤ u.length := by
  obtain ⟨c, r, rfl, -⟩ := hw.start
  have hle := h.length_le
  have hlength := congrArg List.length (List.takeWhile_append_dropWhile (p := isGap) (l := u))
  rw [List.length_append] at hlength
  rw [wordLength]
  rw [List.length_cons] at hle ⊢
  omega

theorem take_wordLength {w u v : Text} (h : w ++ v = u.dropWhile isGap) :
    u.take (wordLength w u) = u.takeWhile isGap ++ w := by
  have hu : u.takeWhile isGap ++ (w ++ v) = u := by rw [h, List.takeWhile_append_dropWhile]
  have htake : (u.takeWhile isGap ++ (w ++ v)).take (wordLength w u) = u.takeWhile isGap ++ (w ++ v).take w.length :=
    List.take_length_add_append w.length
  rwa [hu, List.take_left] at htake

theorem takeWhile_dropWhile_append {p : Char → Bool} {a v : Text} (ha : ∀ c ∈ a, p c = true)
    (hv : ∀ c ∈ v.head?, p c = false) : (a ++ v).takeWhile p = a ∧ (a ++ v).dropWhile p = v := by
  rw [List.takeWhile_append_of_pos ha, List.dropWhile_append_of_pos ha]
  cases v with
  | nil => simp
  | cons c r => simp [hv c rfl]

theorem callLength?_eq_some_iff {w : Text} (hw : IsLineWord w) {u : Text} {n : Nat} :
    callLength? w u = some n ↔
      ∃ a b r, u = a ++ (w ++ (b ++ '(' :: r)) ∧ (∀ c ∈ a, isGap c = true) ∧ (∀ c ∈ b, Text.isBlank c = true) ∧
        n = a.length + w.length + b.length + 1 := by
  constructor
  · intro h
    rw [callLength?] at h
    split at h
    · next hcall =>
      obtain ⟨⟨v, hv⟩, hparen⟩ := hcall
      have hu : u = u.takeWhile isGap ++ (w ++ v) := by rw [hv, List.takeWhile_append_dropWhile]
      have hdrop : u.drop (wordLength w u) = v := by
        rw [wordLength, ← List.drop_drop, drop_length_takeWhile, ← hv, List.drop_left]
      rw [← List.drop_drop, hdrop, drop_length_takeWhile] at hparen
      rw [hdrop] at h
      obtain ⟨r, hr⟩ := List.head?_eq_some_iff.1 hparen
      refine ⟨u.takeWhile isGap, v.takeWhile Text.isBlank, r, ?_, fun c hc => List.mem_takeWhile_imp hc,
        fun c hc => List.mem_takeWhile_imp hc, ?_⟩
      · rw [← hr, List.takeWhile_append_dropWhile]
        exact hu
      · cases h
        rfl
    · cases h
  · rintro ⟨a, b, r, rfl, ha, hb, rfl⟩
    obtain ⟨x, s, rfl, hx, -⟩ := hw.start
    have hgap := takeWhile_dropWhile_append (v := x :: s ++ (b ++ '(' :: r)) ha fun c hc => by
      obtain rfl : x = c := by simpa using hc
      rw [← Bool.not_eq_true]
      exact fun h => Bool.false_ne_true (hx.symm.trans (isBlank_of_isGap h))
    have hblank := takeWhile_dropWhile_append (v := '(' :: r) hb (by simp; decide)
    have hlength : wordLength (x :: s) (a ++ (x :: s ++ (b ++ '(' :: r))) = a.length + (x :: s).length := by
      rw [wordLength, hgap.1]
    have hword : (a ++ (x :: s ++ (b ++ '(' :: r))).drop (a.length + (x :: s).length) = b ++ '(' :: r := by
      rw [← List.drop_drop, List.drop_left, List.drop_left]
    rw [callLength?]
    simp only [hlength, hword, hgap.2, hblank.1]
    rw [if_pos]
    refine ⟨List.prefix_append _ _, ?_⟩
    rw [← List.drop_drop, hword, List.drop_left]
    rfl

theorem callLength?_bounds {w : Text} (hw : IsLineWord w) {u : Text} {n : Nat} (h : callLength? w u = some n) :
    0 < n ∧ n ≤ u.length := by
  obtain ⟨a, b, r, rfl, -, -, rfl⟩ := (callLength?_eq_some_iff hw).1 h
  simp only [List.length_append, List.length_cons]
  omega

theorem edgedLength?_eq_some {w u : Text} {n : Nat} (h : edgedLength? w u = some n) :
    List.IsPrefix w (u.dropWhile isGap) ∧ n = wordLength w u := by
  rw [edgedLength?] at h
  split at h
  · next hword =>
    cases h
    exact ⟨hword.1, rfl⟩
  · cases h

theorem lineLength?_eq_some_iff {length? : Text → Option Nat} {before : Option Char} {u : Text} {n : Nat} :
    lineLength? length? before u = some n ↔ before.all (· == '\n') = true ∧ length? u = some n := by
  rw [lineLength?]
  split
  · next hstart => simp only [hstart, true_and]
  · next hstart => simp [hstart]

theorem guarded_bind {β : Type} {p q r : Prop} [Decidable p] [Decidable q] [Decidable r] (n : Nat)
    (f : Nat → Option β) :
    (if p then (if q ∧ r then some n else none) else none).bind f =
      if p ∧ q then if r then f n else none else none := by
  by_cases hp : p <;> by_cases hq : q <;> by_cases hr : r <;> simp [hp, hq, hr]

section

variable {size : Nat} {c : Cursor} {cs : Captures} {k : Pattern.Rest}

theorem attempt_lineWord {w : String} (hw : IsLineWord w.toList) :
    Pattern.attempt size (lineWord w) c cs k =
      if c.before.all (· == '\n') = true ∧ List.IsPrefix w.toList (c.after.dropWhile isGap) then
        k (c.skip (wordLength w.toList c.after)) cs
      else none := by
  obtain ⟨x, r, hx, hblank, -⟩ := hw.start
  show (if c.before.all (· == '\n') = true then Pattern.attempt size (Pattern.many isGap) c cs fun c' cs' =>
    Pattern.attempt size (Pattern.literal w.toList) c' cs' k else none) = _
  rw [Pattern.attempt_many, Pattern.attempt_literal, Cursor.skip_after, drop_length_takeWhile, ← Cursor.skip_add,
    ite_and]
  · rfl
  · intro e y s hafter hy
    rw [Pattern.attempt_literal, if_neg]
    rw [hx, hafter, List.cons_prefix_cons]
    rintro ⟨rfl, -⟩
    rw [isBlank_of_isGap hy] at hblank
    cases hblank

theorem attempt_paren : Pattern.attempt size (Pattern.text "(") c cs k =
    if c.after.head? = some '(' then k (c.skip 1) cs else none := by
  rw [show Pattern.text "(" = Pattern.literal ['('] from rfl, Pattern.attempt_literal]
  refine if_congr ?_ rfl rfl
  cases c.after with
  | nil => simp
  | cons x r => simp [List.cons_prefix_cons, eq_comm]

theorem attempt_lineCall {w : String} (hw : IsLineWord w.toList) :
    Pattern.attempt size (lineCall w) c cs k =
      (lineLength? (callLength? w.toList) c.before c.after).bind fun n => k (c.skip n) cs := by
  have hblanks (c' : Cursor) : (Pattern.attempt size Pattern.blanks c' cs fun c' cs' =>
      Pattern.attempt size (Pattern.text "(") c' cs' k) =
      Pattern.attempt size (Pattern.text "(") (c'.skip (c'.after.takeWhile Text.isBlank).length) cs k := by
    refine Pattern.attempt_many fun e x r hafter hx => ?_
    rw [attempt_paren, hafter, if_neg]
    rintro ⟨⟩
    cases hx
  show Pattern.attempt size (lineWord w) c cs (fun c' cs' => Pattern.attempt size Pattern.blanks c' cs' fun c' cs' =>
      Pattern.attempt size (Pattern.text "(") c' cs' k) = _
  rw [attempt_lineWord hw, hblanks, attempt_paren, ← Cursor.skip_add, ← Cursor.skip_add, Cursor.skip_after,
    Cursor.skip_after, lineLength?, callLength?, guarded_bind]

theorem attempt_lineWord_edge {w : String} (hw : IsLineWord w.toList) :
    Pattern.attempt size (lineWord w ++ Pattern.wordEdge) c cs k =
      (lineLength? (edgedLength? w.toList) c.before c.after).bind fun n => k (c.skip n) cs := by
  show Pattern.attempt size (lineWord w) c cs (fun c' cs' =>
    if (c'.before.any Text.isWord != c'.after.head?.any Text.isWord) = true then k c' cs' else none) = _
  rw [attempt_lineWord hw, lineLength?, edgedLength?, guarded_bind]
  refine ite_congr rfl (fun h => ?_) fun _ => rfl
  have hbefore : (c.skip (wordLength w.toList c.after)).before =
      Text.before? c.after (wordLength w.toList c.after) := by
    obtain ⟨hpos, hle⟩ := wordLength_bounds hw h.2
    rw [Cursor.before, Cursor.skip_passed, List.head?_append, List.head?_reverse, Text.before?,
      List.getLast?_eq_some_getLast (by rw [← List.length_pos_iff, List.length_take]; omega)]
    rfl
  rw [hbefore, Cursor.skip_after]

end

theorem recognises_lineCall {w : String} (hw : IsLineWord w.toList) :
    (lineCall w).Recognises (lineLength? (callLength? w.toList)) := by
  refine .of_attempt (fun _ _ _ _ => attempt_lineCall hw) fun before u n hn => ?_
  exact callLength?_bounds hw (lineLength?_eq_some_iff.1 hn).2

theorem recognises_lineWord_edge {w : String} (hw : IsLineWord w.toList) :
    (lineWord w ++ Pattern.wordEdge).Recognises (lineLength? (edgedLength? w.toList)) := by
  refine .of_attempt (fun _ _ _ _ => attempt_lineWord_edge hw) fun before u n hn => ?_
  obtain ⟨hword, rfl⟩ := edgedLength?_eq_some (lineLength?_eq_some_iff.1 hn).2
  exact wordLength_bounds hw hword

/-! ### Calls in a part of a text -/

theorem callLength?_inside {w w' : Text} (hw : IsLineWord w) (hw' : IsLineWord w') {u : Text} {n k : Nat}
    (h : callLength? w u = some n) (hk : k + 1 < n) (hbreak : u[k]? = some '\n') :
    callLength? w' (u.drop (k + 1)) = none := by
  obtain ⟨a, b, r, hu, ha, hb, rfl⟩ := (callLength?_eq_some_iff hw).1 h
  obtain ⟨hlt, hget⟩ := List.getElem?_eq_some_iff.1 hbreak
  -- the line feed stands in the white space before the parenthesis
  have hsplit : u.take k ++ '\n' :: u.drop (k + 1) = (a ++ w) ++ (b ++ '(' :: r) := by
    rw [← hget, List.getElem_cons_drop, List.take_append_drop, List.append_assoc]
    exact hu
  have hnewline : '\n' ∉ a ++ w := by
    rw [List.mem_append, not_or]
    exact ⟨fun hmem => absurd (ha _ hmem) (by decide), hw.newline_not_mem⟩
  obtain ⟨v, hv, hrest⟩ := Text.split_behind hsplit hnewline
  have hlength := congrArg List.length hv
  rw [List.length_take_of_le hlt.le, List.length_append, List.length_append] at hlength
  obtain ⟨b', rfl, hdrop⟩ := Text.split_within hrest.symm (by omega)
  obtain ⟨x, s, rfl, hblank, hparen⟩ := hw'.start
  cases hn : callLength? (x :: s) (u.drop (k + 1)) with
  | none => rfl
  | some m =>
    obtain ⟨a', b'', r', hu', ha', -, -⟩ := (callLength?_eq_some_iff hw').1 hn
    have hfirst := (takeWhile_dropWhile_append (a := b') (v := '(' :: r) (fun c hc => hb c (by simp [hc]))
      (by simp; decide)).2
    have hsecond := (takeWhile_dropWhile_append (v := x :: s ++ (b'' ++ '(' :: r'))
      (fun c hc => isBlank_of_isGap (ha' c hc)) (by simpa using hblank)).2
    rw [← hdrop, hu', hsecond] at hfirst
    exact absurd (List.cons.inj hfirst).1 hparen

theorem callLength?_take {w : Text} (hw : IsLineWord w) {u : Text} {k n : Nat} :
    callLength? w (u.take k) = some n ↔ callLength? w u = some n ∧ n ≤ k := by
  rw [callLength?_eq_some_iff hw, callLength?_eq_some_iff hw]
  constructor
  · rintro ⟨a, b, r, hu, ha, hb, rfl⟩
    refine ⟨⟨a, b, r ++ u.drop k, ?_, ha, hb, rfl⟩, ?_⟩
    · conv_lhs => rw [← List.take_append_drop k u, hu]
      simp
    · have hlength := congrArg List.length hu
      simp only [List.length_take, List.length_append, List.length_cons] at hlength
      omega
  · rintro ⟨⟨a, b, r, rfl, ha, hb, rfl⟩, hle⟩
    obtain ⟨j, rfl⟩ := Nat.exists_eq_add_of_le hle
    refine ⟨a, b, r.take j, ?_, ha, hb, rfl⟩
    have hsplit : a ++ (w ++ (b ++ '(' :: r)) = (a ++ w ++ b ++ ['(']) ++ r := by simp
    rw [hsplit, show a.length + w.length + b.length + 1 = (a ++ w ++ b ++ ['(']).length by simp; omega,
      List.take_length_add_append]
    simp

/-- A call stands at a position of a text, where a line starts. -/
def CallAt (w t : Text) (pos : Nat) : Prop := Pattern.SpottedAt (lineLength? (callLength? w)) t pos

theorem callAt_iff {w t : Text} {pos : Nat} :
    CallAt w t pos ↔ (t.before? pos).all (· == '\n') = true ∧ (callLength? w (t.drop pos)).isSome = true := by
  simp only [CallAt, Pattern.SpottedAt, Option.isSome_iff_exists, lineLength?_eq_some_iff, exists_and_left]

theorem lt_length_of_call {w t : Text} {pos : Nat} (hw : IsLineWord w)
    (h : (callLength? w (t.drop pos)).isSome = true) : pos < t.length := by
  obtain ⟨n, hn⟩ := Option.isSome_iff_exists.1 h
  have hbounds := callLength?_bounds hw hn
  rw [List.length_drop] at hbounds
  omega

/-- No call starts within what another one takes. -/
theorem not_callAt_inside {w w' t : Text} (hw : IsLineWord w) (hw' : IsLineWord w') {i j n : Nat}
    (h : callLength? w (t.drop i) = some n) (hlt : i < j) (hlt' : j < i + n) : ¬ CallAt w' t j := by
  intro hcall
  obtain ⟨hstart, hj⟩ := callAt_iff.1 hcall
  obtain ⟨k, rfl⟩ := Nat.exists_eq_add_of_lt hlt
  have hlength := lt_length_of_call hw' hj
  have hbreak : (t.drop i)[k]? = some '\n' := by
    rw [Text.before?_succ (by omega), List.getElem?_eq_getElem (by omega)] at hstart
    rw [List.getElem?_drop, List.getElem?_eq_getElem (by omega)]
    simpa using hstart
  have hnone := callLength?_inside hw hw' h (by omega) hbreak
  rw [List.drop_drop, ← Nat.add_assoc] at hnone
  rw [hnone] at hj
  cases hj

theorem mem_starts_lineCall {w : String} (hw : IsLineWord w.toList) {t : Text} {pos : Nat} :
    pos ∈ ((lineCall w).findAll t).map (·.start) ↔ CallAt w.toList t pos := by
  refine (recognises_lineCall hw).mem_starts_iff fun i n j hn hlt hlt' => ?_
  exact not_callAt_inside hw hw (lineLength?_eq_some_iff.1 hn).2 hlt hlt'

theorem isSome_of_take {w u : Text} (hw : IsLineWord w) {k : Nat} (h : (callLength? w (u.take k)).isSome = true) :
    (callLength? w u).isSome = true := by
  obtain ⟨n, hn⟩ := Option.isSome_iff_exists.1 h
  exact Option.isSome_iff_exists.2 ⟨n, ((callLength?_take hw).1 hn).1⟩

/-- A part of a text that starts within a line and ends where a call stands, or with the text. -/
structure IsWindow (final t : Text) (start stop : Nat) : Prop where
  le : start ≤ stop
  le_length : stop ≤ t.length
  within_line : (t.before? start).all (· == '\n') = false
  ends : stop = t.length ∨ CallAt final t stop

namespace IsWindow

variable {w final t : Text} {start stop : Nat} (h : IsWindow final t start stop) (hw : IsLineWord w)
  (hfinal : IsLineWord final)

include h hw

theorem lt_of_call (hcall : (callLength? w (t.drop start)).isSome = true) : start < stop := by
  refine Nat.lt_of_le_of_ne h.le fun heq => ?_
  subst heq
  rcases h.ends with hend | hend
  · exact absurd (lt_length_of_call hw hcall) (by omega)
  · exact Bool.false_ne_true (h.within_line.symm.trans (callAt_iff.1 hend).1)

include hfinal

/-- A call that starts before the end of the window is over by then. -/
theorem isSome_take {pos : Nat} (hpos : pos < stop) :
    (callLength? w ((t.drop pos).take (stop - pos))).isSome = true ↔ (callLength? w (t.drop pos)).isSome = true := by
  refine ⟨isSome_of_take hw, fun hcall => ?_⟩
  obtain ⟨n, hn⟩ := Option.isSome_iff_exists.1 hcall
  refine Option.isSome_iff_exists.2 ⟨n, (callLength?_take hw).2 ⟨hn, ?_⟩⟩
  by_contra hlong
  rcases h.ends with hend | hend
  · have hbounds := callLength?_bounds hw hn
    rw [List.length_drop] at hbounds
    omega
  · exact not_callAt_inside hw hfinal hn hpos (by omega) hend

/-- The calls of a window are those of the text, and one that stands at its start, in the middle of a line. -/
theorem callAt_iff_part {i : Nat} :
    CallAt w ((t.drop start).take (stop - start)) i ↔
      (i = 0 ∧ (callLength? w (t.drop start)).isSome = true) ∨ (0 < i ∧ start + i < stop ∧ CallAt w t (start + i)) := by
  rcases Nat.eq_zero_or_pos i with rfl | hi
  · rw [callAt_iff, List.drop_zero]
    constructor
    · rintro ⟨-, hcall⟩
      exact .inl ⟨rfl, isSome_of_take hw hcall⟩
    · rintro (⟨-, hcall⟩ | ⟨hpos, -⟩)
      · exact ⟨rfl, (h.isSome_take hw hfinal (h.lt_of_call hw hcall)).2 hcall⟩
      · exact absurd hpos (Nat.lt_irrefl 0)
  · by_cases hlt : start + i < stop
    · have hdrop : ((t.drop start).take (stop - start)).drop i = (t.drop (start + i)).take (stop - (start + i)) := by
        rw [List.drop_take, List.drop_drop, Nat.sub_add_eq]
      have hbefore : Text.before? ((t.drop start).take (stop - start)) i = t.before? (start + i) := by
        have hle := h.le_length
        rw [Text.before?, List.take_take, Nat.min_eq_left (by omega), ← Text.before?, Text.before?_drop hi (by omega)]
      rw [callAt_iff, hdrop, hbefore, h.isSome_take hw hfinal hlt, ← callAt_iff]
      simp [hi, hlt, hi.ne']
    · constructor
      · intro hcall
        have hcall := lt_length_of_call hw (callAt_iff.1 hcall).2
        rw [List.length_take] at hcall
        omega
      · rintro (⟨rfl, -⟩ | ⟨-, hlt', -⟩)
        · exact absurd hi (Nat.lt_irrefl 0)
        · exact absurd hlt' hlt

end IsWindow

/-! ### Answer calls -/

namespace AnswerStyle

theorem isLineWord_answer : IsLineWord "ANS".toList := ⟨⟨'A', "NS".toList, rfl, by decide, by decide⟩, by decide⟩

theorem isLineWord_endDocument : IsLineWord "ENDDOCUMENT".toList :=
  ⟨⟨'E', "NDDOCUMENT".toList, rfl, by decide, by decide⟩, by decide⟩

theorem isLineWord_endMarkup : IsLineWord "END_PGML".toList :=
  ⟨⟨'E', "ND_PGML".toList, rfl, by decide, by decide⟩, by decide⟩

def ends (t : Text) : List Match := (lineWord "END_PGML" ++ Pattern.wordEdge).findAll t

def calls (t : Text) : List Match := (lineCall "ANS").findAll t

def finals (t : Text) : List Match := (lineCall "ENDDOCUMENT").findAll t

/-- A call comes after the end of a block, and the document does not end between them. -/
def Reaches (t : Text) (e c : Match) : Prop :=
  e.stop ≤ c.start ∧ ∀ x ∈ finals t, x.start < e.stop ∨ c.start < x.start

instance (t : Text) (e c : Match) : Decidable (Reaches t e c) := inferInstanceAs (Decidable (_ ∧ _))

/-- The end of a block and an answer call stand on one line. -/
def Touches (t : Text) (e : Match) : Prop := ((lineCall "ANS").lead? (t.drop e.stop)).isSome = true

instance (t : Text) (e : Match) : Decidable (Touches t e) := inferInstanceAs (Decidable (_ = true))

theorem within_line_of_mem_ends {t : Text} {e : Match} (he : e ∈ ends t) :
    e.stop ≤ t.length ∧ (t.before? e.stop).all (· == '\n') = false := by
  obtain ⟨n, hn, hstop⟩ := (recognises_lineWord_edge isLineWord_endMarkup).length?_of_mem_findAll he
  obtain ⟨hword, rfl⟩ := edgedLength?_eq_some (lineLength?_eq_some_iff.1 hn).2
  obtain ⟨hpos, hle⟩ := wordLength_bounds isLineWord_endMarkup hword
  obtain ⟨v, hv⟩ := hword
  have hlength : (t.drop e.start).length = t.length - e.start := List.length_drop
  refine ⟨by omega, ?_⟩
  rw [hstop, ← Text.before?_drop hpos (by omega), Text.before?, take_wordLength hv, List.getLast?_append]
  rfl

theorem touches_iff {t : Text} {e : Match} :
    Touches t e ↔ (callLength? "ANS".toList (t.drop e.stop)).isSome = true := by
  rw [Touches, Pattern.lead?, (recognises_lineCall isLineWord_answer).matchAt?, Option.isSome_map, Option.isSome_map]
  rfl

theorem reaches_iff {t : Text} {e c : Match} :
    Reaches t e c ↔ e.stop ≤ c.start ∧ ∀ q, CallAt "ENDDOCUMENT".toList t q → q < e.stop ∨ c.start < q := by
  refine and_congr_right fun _ => ⟨fun h q hq => ?_, fun h x hx => ?_⟩
  · obtain ⟨x, hx, rfl⟩ := List.mem_map.1 ((mem_starts_lineCall isLineWord_endDocument).2 hq)
    exact h x hx
  · exact h x.start ((mem_starts_lineCall isLineWord_endDocument).1 (List.mem_map_of_mem hx))

/-- The calls behind the end of a block are looked for up to the first end of the document. -/
theorem exists_window {t : Text} {e : Match} (he : e ∈ ends t) :
    ∃ stop, IsWindow "ENDDOCUMENT".toList t e.stop stop ∧
      (∀ q, e.stop ≤ q → q < stop → ¬ CallAt "ENDDOCUMENT".toList t q) ∧
      callsAfter t e.stop = (((lineCall "ANS").findAll ((t.drop e.stop).take (stop - e.stop))).map (·.start)).map
        (e.stop + ·) := by
  obtain ⟨hle, hline⟩ := within_line_of_mem_ends he
  rcases (recognises_lineCall isLineWord_endDocument).searchAfter?_cases hle with ⟨hnone, hlater⟩ |
    ⟨m, hsome, hstart, hcall, hlater⟩
  · refine ⟨t.length, ⟨hle, le_rfl, hline, .inl rfl⟩, fun q hq _ => hlater q hq, ?_⟩
    rw [callsAfter, hnone, List.map_map]
    rfl
  · have hlt := lt_length_of_call isLineWord_endDocument (callAt_iff.1 hcall).2
    refine ⟨m.start, ⟨hstart, hlt.le, hline, .inr hcall⟩, hlater, ?_⟩
    rw [callsAfter, hsome, List.map_map]
    rfl

theorem callAt_of_mem_calls {t : Text} {c : Match} (hc : c ∈ calls t) : CallAt "ANS".toList t c.start :=
  (mem_starts_lineCall isLineWord_answer).1 (List.mem_map_of_mem hc)

/-- A call that is reached starts a line, so it does not start right behind the end of the block. -/
theorem lt_of_reaches {t : Text} {e c : Match} (he : e ∈ ends t) (hc : c ∈ calls t) (h : Reaches t e c) :
    e.stop < c.start := by
  refine Nat.lt_of_le_of_ne h.1 fun heq => ?_
  have hstart := (callAt_iff.1 (callAt_of_mem_calls hc)).1
  exact Bool.false_ne_true ((within_line_of_mem_ends he).2.symm.trans (heq ▸ hstart))

theorem mem_callsAfter {t : Text} {e : Match} (he : e ∈ ends t) {p : Nat} :
    p ∈ callsAfter t e.stop ↔ (Touches t e ∧ p = e.stop) ∨ ∃ c ∈ calls t, Reaches t e c ∧ c.start = p := by
  obtain ⟨stop, hwindow, hlater, hcalls⟩ := exists_window he
  have hmem {i : Nat} : i ∈ ((lineCall "ANS").findAll ((t.drop e.stop).take (stop - e.stop))).map (·.start) ↔ _ :=
    (mem_starts_lineCall isLineWord_answer).trans (hwindow.callAt_iff_part isLineWord_answer isLineWord_endDocument)
  rw [hcalls, List.mem_map]
  constructor
  · rintro ⟨i, hi, rfl⟩
    rcases hmem.1 hi with ⟨rfl, htouches⟩ | ⟨hpos, hlt, hcall⟩
    · exact .inl ⟨touches_iff.2 htouches, rfl⟩
    · obtain ⟨c, hc, hstart⟩ := List.mem_map.1 ((mem_starts_lineCall isLineWord_answer).2 hcall)
      refine .inr ⟨c, hc, reaches_iff.2 ⟨by omega, fun q hq => ?_⟩, hstart⟩
      by_contra hbetween
      exact hlater q (by omega) (by omega) hq
  · rintro (⟨htouches, rfl⟩ | ⟨c, hc, hreaches, rfl⟩)
    · exact ⟨0, hmem.2 (.inl ⟨rfl, touches_iff.1 htouches⟩), rfl⟩
    · have hcall := callAt_of_mem_calls hc
      have hstop : c.start < stop := by
        rcases hwindow.ends with hend | hend
        · exact hend ▸ lt_length_of_call isLineWord_answer (callAt_iff.1 hcall).2
        · exact ((reaches_iff.1 hreaches).2 stop hend).resolve_left hwindow.le.not_gt
      have hlt := lt_of_reaches he hc hreaches
      obtain ⟨i, hi⟩ := Nat.exists_eq_add_of_le hlt.le
      rw [hi] at hlt hstop hcall ⊢
      exact ⟨i, hmem.2 (.inr ⟨by omega, hstop, hcall⟩), rfl⟩

theorem pairwise_callsAfter {t : Text} {e : Match} (he : e ∈ ends t) : (callsAfter t e.stop).Pairwise (· < ·) := by
  obtain ⟨stop, -, -, hcalls⟩ := exists_window he
  rw [hcalls]
  exact List.pairwise_map.2 (((recognises_lineCall isLineWord_answer).pairwise_starts _).imp fun h => by omega)

/-- The calls that are found behind the end of a block: one on its line, and those that it reaches. -/
theorem callsAfter_eq {t : Text} {e : Match} (he : e ∈ ends t) :
    callsAfter t e.stop =
      (if Touches t e then [e.stop] else []) ++ ((calls t).filter (Reaches t e)).map (·.start) := by
  -- both sides are increasing, so that it is enough to compare their members
  refine (pairwise_callsAfter he).eq_of_mem_iff ?_ fun p => ?_
  · refine List.pairwise_append.2 ⟨by split <;> simp, ?_, fun a ha b hb => ?_⟩
    · exact ((recognises_lineCall isLineWord_answer).pairwise_starts t).sublist (List.filter_sublist.map _)
    · obtain ⟨c, hc, rfl⟩ := List.mem_map.1 hb
      obtain ⟨hc, hreaches⟩ := List.mem_filter.1 hc
      split at ha
      · rw [List.mem_singleton.1 ha]
        exact lt_of_reaches he hc (of_decide_eq_true hreaches)
      · cases ha
  · rw [mem_callsAfter he, List.mem_append]
    by_cases htouches : Touches t e <;> simp [htouches, and_assoc]

/-! ### Issues -/

def issueAt (t : Text) (pos : Nat) : Issue :=
  ⟨[("severity", .str Severity.warning.name), ("line", .int (1 + (t.take pos).count '\n')), ("message", .str message)]⟩

theorem length_takeWhile_lt {l : List Nat} (hl : l.Pairwise (· < ·)) (bound : Nat) :
    (l.takeWhile (· < bound)).length = l.countP (· < bound) := by
  induction l with
  | nil => rfl
  | cons p l ih =>
    obtain ⟨hp, hl⟩ := List.pairwise_cons.1 hl
    by_cases hb : p < bound
    · rw [List.takeWhile_cons_of_pos (by simpa using hb), List.countP_cons_of_pos (by simpa using hb), List.length_cons,
        ih hl]
    · have hzero : (p :: l).countP (· < bound) = 0 := by
        rw [List.countP_eq_zero]
        intro q hq
        rcases List.mem_cons.1 hq with rfl | hq
        · simpa using hb
        · have := hp q hq
          simp
          omega
      rw [List.takeWhile_cons_of_neg (by simpa using hb), hzero]
      rfl

theorem issues_eq {t : Text} {d : Document} (htext : d.text = t) (hnewlines : d.newlines = .ofText t) :
    issues d = if '\n' ∈ t then (ends t).flatMap fun e => (callsAfter t e.stop).map (issueAt t) else [] := by
  subst htext
  have hempty : d.newlines.positions.toList.isEmpty = true ↔ '\n' ∉ d.text := by
    rw [hnewlines, List.isEmpty_iff, ← List.length_eq_zero_iff]
    show (NewlineIndex.positionsFrom 0 d.text).length = 0 ↔ _
    rw [NewlineIndex.length_positionsFrom, List.count_eq_zero]
  have hline (pos : Nat) : (d.newlines.positions.toList.takeWhile (· < pos)).length = (d.text.take pos).count '\n' := by
    have hcount := NewlineIndex.countP_positionsFrom 0 pos d.text
    rw [Nat.zero_add] at hcount
    rw [hnewlines]
    exact (length_takeWhile_lt (NewlineIndex.positionsFrom_pairwise 0 d.text) pos).trans hcount
  unfold issues
  by_cases hbroken : '\n' ∈ d.text
  · rw [if_pos hbroken, if_neg fun h => hempty.1 h hbroken]
    simp only [hline]
    rfl
  · rw [if_neg hbroken, if_pos (hempty.2 hbroken)]

theorem countP_eq_sum {α : Type} (p : α → Bool) (l : List α) :
    l.countP p = (l.map fun a => if p a then 1 else 0).sum := by
  induction l with
  | nil => rfl
  | cons a l ih => rw [List.countP_cons, ih, List.map_cons, List.sum_cons, Nat.add_comm]

theorem sum_countP_comm {α β : Type} (r : α → β → Bool) (as : List α) (bs : List β) :
    (as.map fun a => bs.countP (r a)).sum = (bs.map fun b => as.countP (r · b)).sum := by
  induction as with
  | nil => simp
  | cons a as ih =>
    simp only [List.map_cons, List.sum_cons, List.countP_cons]
    rw [List.sum_map_add, ih, countP_eq_sum, Nat.add_comm]

theorem length_issues {t : Text} {d : Document} (htext : d.text = t) (hnewlines : d.newlines = .ofText t)
    (hbroken : '\n' ∈ t) :
    (issues d).length =
      ((calls t).map fun c => (ends t).countP (Reaches t · c)).sum + (ends t).countP (Touches t) := by
  have hlength {e : Match} (he : e ∈ ends t) : ((callsAfter t e.stop).map (issueAt t)).length =
      (calls t).countP (Reaches t e) + if decide (Touches t e) = true then 1 else 0 := by
    rw [List.length_map, callsAfter_eq he, List.length_append, List.length_map, ← List.countP_eq_length_filter,
      Nat.add_comm]
    by_cases htouches : Touches t e <;> simp [htouches]
  rw [issues_eq htext hnewlines, if_pos hbroken, List.length_flatMap, List.map_congr_left fun e => hlength,
    List.sum_map_add, sum_countP_comm fun e c => Reaches t e c, countP_eq_sum]

/-- On a file of more than one line, an answer call is reported once for every end of a block that reaches it, and once
more for an end of a block on its own line. So there are no more issues than calls if no call is reached twice and none
stands on the line of such an end. -/
theorem issues_per_end (t : Text) (path : Option Text) (blockRules : List BlockRule) (macroRules : List MacroRule)
    (version : Option Text) :
    let d := Document.ofText t path blockRules macroRules version
    answerStyle.found d =
        (if '\n' ∈ t then (ends t).flatMap fun e =>
          (if Touches t e then [issueAt t e.stop] else []) ++
            ((calls t).filter (Reaches t e)).map fun c => issueAt t c.start
        else []) ∧
      ('\n' ∈ t → (answerStyle.found d).length =
        ((calls t).map fun c => (ends t).countP (Reaches t · c)).sum + (ends t).countP (Touches t)) ∧
      ((∀ c ∈ calls t, (ends t).countP (Reaches t · c) ≤ 1) → (∀ e ∈ ends t, ¬ Touches t e) →
        (answerStyle.found d).length ≤ (calls t).length) := by
  intro d
  have hissues : answerStyle.found d = issues d := rfl
  refine ⟨?_, fun hbroken => ?_, fun hcalls hends => ?_⟩
  · rw [hissues, issues_eq (t := t) rfl rfl]
    refine if_congr Iff.rfl (List.flatMap_congr fun e he => ?_) rfl
    rw [callsAfter_eq he, List.map_append, List.map_map]
    congr 1
    split <;> rfl
  · rw [hissues, length_issues (t := t) rfl rfl hbroken]
  · by_cases hbroken : '\n' ∈ t
    · have htouches : (ends t).countP (Touches t) = 0 := by
        rw [List.countP_eq_zero]
        intro e he
        simpa using hends e he
      have hsum : ((calls t).map fun c => (ends t).countP (Reaches t · c)).sum ≤ (calls t).length := by
        refine (List.sum_le_card_nsmul _ 1 fun n hn => ?_).trans (by simp)
        obtain ⟨c, hc, rfl⟩ := List.mem_map.1 hn
        exact hcalls c hc
      rw [hissues, length_issues (t := t) rfl rfl hbroken, htouches]
      exact hsum
    · rw [hissues, issues_eq (t := t) rfl rfl, if_neg hbroken]
      exact Nat.zero_le _

/-- A call behind two blocks is reported twice. -/
theorem call_reported_twice :
    ¬ ∀ t : Text, (answerStyle.found (Document.ofText t none [] [] none)).length ≤
      ((lineCall "ANS").findAll t).length := by
  intro h
  have hle := h "BEGIN_PGML\nEND_PGML\nBEGIN_PGML\nEND_PGML\nANS($a);\n".toList
  revert hle
  decide

end AnswerStyle

end ProblemLint.Check
