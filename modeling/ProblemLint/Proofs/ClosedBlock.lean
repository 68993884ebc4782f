import ProblemLint.Proofs.Blocks
import ProblemLint.Proofs.Occurrences

/-! A block of markup with both of its markers. Its lines are text, but the scan looks for heredocs in them as in
a program: a line with `<<` and a word opens one, which can reach over the end of the block. The block is
recognised exactly if no heredoc is open after its last line. -/

namespace ProblemLint

def closedBlock (body : List Text) : Text :=
  "BEGIN_PGML".toList ++ '\n' :: (Text.join "\n" body ++ '\n' :: ("END_PGML".toList ++ ['\n']))

/-- The block has no issues and is the only region of markup, with all of its lines. -/
structure Recognised (body : List Text) : Prop where
  issues : (blocks (closedBlock body)).1 = []
  region : ∃ r, (blocks (closedBlock body)).2 = [r] ∧ ∃ a b, r.bounds? = some (a, b) ∧
    Text.slice (closedBlock body) a b = Text.join "\n" body ++ ['\n']

def heredocOver (body : List Text) : Option Text := (body.map (· ++ ['\n'])).foldl heredocAfter none

theorem lines_closedBlock {body : List Text} (hbody : body ≠ [])
    (hbreak : ∀ l ∈ body, ∀ c ∈ l, Text.isLineBreak c = false) :
    Text.lines (closedBlock body) =
      ("BEGIN_PGML".toList ++ ['\n']) :: (body.map (· ++ ['\n']) ++ ["END_PGML".toList ++ ['\n']]) := by
  have hjoin (rest : Text) : Text.join "\n" body ++ '\n' :: rest = (body.map (· ++ ['\n'])).flatten ++ rest := by
    rw [← Text.join_concat hbody]
    simp
  have hbegin : ∀ c ∈ "BEGIN_PGML".toList, Text.isLineBreak c = false := Text.not_break_of_all (by decide)
  have hend : ∀ c ∈ "END_PGML".toList, Text.isLineBreak c = false := Text.not_break_of_all (by decide)
  have hlast : Text.lines ("END_PGML".toList ++ ['\n']) = ["END_PGML".toList ++ ['\n']] := Text.lines_line hend []
  have hrest : Text.lines (Text.join "\n" body ++ '\n' :: ("END_PGML".toList ++ ['\n'])) =
      body.map (· ++ ['\n']) ++ ["END_PGML".toList ++ ['\n']] := by
    rw [hjoin, Text.lines_map_concat hbreak, hlast]
  exact (Text.lines_line hbegin _).trans (congrArg _ hrest)

theorem lines_begin (ls : List Text) :
    BlockScan.lines {} none 1 0 (("BEGIN_PGML".toList ++ ['\n']) :: ls) =
      BlockScan.lines { opened := [⟨.pgml, 11, 1⟩] } none 2 11 ls := by
  have hterminator : heredocAfter none ("BEGIN_PGML".toList ++ ['\n']) = none := by decide
  have hmarker : Marker.ofLine? ("BEGIN_PGML".toList ++ ['\n']) = some ⟨true, .pgml⟩ := by decide
  have hlength : ("BEGIN_PGML".toList ++ ['\n']).length = 11 := by decide
  simp only [BlockScan.lines, hterminator, hmarker, hlength]
  rfl

theorem lines_end (o : Option Text) (line pos : Nat) :
    BlockScan.lines { opened := [⟨.pgml, 11, 1⟩] } o line pos ["END_PGML".toList ++ ['\n']] =
      if o = none then { regions := [.ofBounds 11 pos "BEGIN_PGML" 1] } else { opened := [⟨.pgml, 11, 1⟩] } := by
  have hterminator : heredocAfter none ("END_PGML".toList ++ ['\n']) = none := by decide
  have hmarker : Marker.ofLine? ("END_PGML".toList ++ ['\n']) = some ⟨false, .pgml⟩ := by decide
  cases o with
  | none =>
    simp only [BlockScan.lines, hterminator, hmarker]
    rfl
  | some w => rfl

def closedBlockReport (body : List Text) : List Issue × List Region :=
  if heredocOver body = none then
    ([], [.ofBounds 11 (11 + (Text.join "\n" body ++ ['\n']).length) "BEGIN_PGML" 1])
  else ([.onLine .error "BEGIN_PGML without matching END" 1], [])

theorem blocks_closedBlock_of_ne_nil {body : List Text} (hbody : body ≠ [])
    (hbreak : ∀ l ∈ body, ∀ c ∈ l, Text.isLineBreak c = false) (hmark : ∀ l ∈ body, Marker.ofLine? l = none) :
    blocks (closedBlock body) = closedBlockReport body := by
  have hmark' : ∀ l ∈ body.map (· ++ ['\n']), Marker.ofLine? l = none := by
    intro l hl
    obtain ⟨m, hm, rfl⟩ := List.mem_map.1 hl
    rw [Marker.ofLine?_append_cons rfl rfl]
    exact hmark m hm
  rw [blocks, lines_closedBlock hbody hbreak, lines_begin, BlockScan.lines_append,
    BlockScan.lines_of_no_marker _ _ _ _ hmark', lines_end, ← Text.join_concat hbody, closedBlockReport, heredocOver]
  split <;> rfl

theorem blocks_closedBlock {body : List Text} (hbreak : ∀ l ∈ body, ∀ c ∈ l, Text.isLineBreak c = false)
    (hmark : ∀ l ∈ body, Marker.ofLine? l = none) : blocks (closedBlock body) = closedBlockReport body := by
  cases body with
  | nil =>
    -- a block of no lines is written like a block of one empty line
    have hreport : closedBlockReport [[]] = closedBlockReport [] := by
      have hover : heredocOver [[]] = none := by decide
      rw [closedBlockReport, if_pos hover]
      rfl
    have hline := blocks_closedBlock_of_ne_nil (List.cons_ne_nil [] []) (by simp) (by decide)
    exact hline.trans hreport
  | cons l body => exact blocks_closedBlock_of_ne_nil (List.cons_ne_nil l body) hbreak hmark

theorem slice_middle {a : Text} {n : Nat} (hn : a.length + 1 = n) (x y : Char) (b c : Text) :
    Text.slice (a ++ x :: (b ++ y :: c)) (n : Int) ((n + (b ++ [y]).length : Nat) : Int) = b ++ [y] := by
  have htext : a ++ x :: (b ++ y :: c) = (a ++ [x]) ++ ((b ++ [y]) ++ c) := by simp
  have hstart : (a ++ [x]).length = n := by simp [← hn]
  rw [Text.slice_natCast, htext, List.drop_left' hstart, Nat.add_sub_cancel_left, List.take_left]

/-- A block is recognised exactly if its lines leave no heredoc open; otherwise the only thing found is a block
that is not closed. -/
theorem recognised_iff {body : List Text} (hbreak : ∀ l ∈ body, ∀ c ∈ l, Text.isLineBreak c = false)
    (hmark : ∀ l ∈ body, Marker.ofLine? l = none) :
    (Recognised body ↔ heredocOver body = none) ∧
      (heredocOver body ≠ none →
        blocks (closedBlock body) = ([.onLine .error "BEGIN_PGML without matching END" 1], [])) := by
  have hblocks := blocks_closedBlock hbreak hmark
  rw [closedBlockReport] at hblocks
  refine ⟨⟨fun h => ?_, fun hnone => ?_⟩, fun hsome => ?_⟩
  · by_contra hsome
    rw [if_neg hsome] at hblocks
    have hissues := h.issues
    rw [hblocks] at hissues
    cases hissues
  · rw [if_pos hnone] at hblocks
    have hbegin : "BEGIN_PGML".toList.length + 1 = 11 := by decide
    exact ⟨congrArg Prod.fst hblocks, _, congrArg Prod.snd hblocks, _, _, rfl, slice_middle hbegin _ _ _ _⟩
  · rwa [if_neg hsome] at hblocks

/-- A heredoc that the lines of a block introduce and also end is text of the block. -/
theorem recognised_heredoc :
    Recognised ["cat <<EOF".toList, "EOF".toList, "gives 1 << 2".toList] := by
  have hbreak : ∀ l ∈ ["cat <<EOF".toList, "EOF".toList, "gives 1 << 2".toList],
      ∀ c ∈ l, Text.isLineBreak c = false := by
    simp only [List.forall_mem_cons, List.not_mem_nil, false_implies, implies_true, and_true]
    exact ⟨Text.not_break_of_all (by decide), Text.not_break_of_all (by decide), Text.not_break_of_all (by decide)⟩
  have hmark : ∀ l ∈ ["cat <<EOF".toList, "EOF".toList, "gives 1 << 2".toList], Marker.ofLine? l = none := by
    decide
  exact (recognised_iff hbreak hmark).1.2 (by decide)

/-- A word after a shift hides the end of the block. -/
theorem block_text_matters :
    ¬ ∀ body : List Text, (∀ l ∈ body, ∀ c ∈ l, Text.isLineBreak c = false) →
      (∀ l ∈ body, Marker.ofLine? l = none) → Recognised body := by
  intro h
  have hbreak : ∀ l ∈ ["a <<b".toList], ∀ c ∈ l, Text.isLineBreak c = false :=
    List.forall_mem_singleton.2 (Text.not_break_of_all (by decide))
  have hmark : ∀ l ∈ ["a <<b".toList], Marker.ofLine? l = none := by decide
  have hopen : heredocOver ["a <<b".toList] ≠ none := by decide
  have hissues := (h _ hbreak hmark).issues
  rw [blocks_closedBlock hbreak hmark, closedBlockReport, if_neg hopen] at hissues
  cases hissues

end ProblemLint
