import ProblemLint.Proofs.ClosedBlock
import ProblemLint.Proofs.MovedScans
import ProblemLint.Proofs.Names
import ProblemLint.Proofs.PlainCode

/-! A heredoc with its introducer, its body and the line that closes it, before other text. Whatever the lines of the
body are, they are kept where comments are taken out and left empty where heredocs are, they hold no markers of blocks,
and all that follows is read as if the file started with it. -/

namespace ProblemLint

/-- How a heredoc is introduced: by its word, with a dash before it, or in quotes. -/
inductive Introducer where
  | plain
  | dashed
  | single
  | double
  deriving DecidableEq, Repr

def Introducer.text (word : Text) : Introducer → Text
  | .plain => '<' :: '<' :: word
  | .dashed => '<' :: '<' :: '-' :: word
  | .single => '<' :: '<' :: '\'' :: (word ++ ['\''])
  | .double => '<' :: '<' :: '"' :: (word ++ ['"'])

/-- A heredoc: what stands before and behind the introducer on its line, the lines of the body, and the line that
closes it. The word is a name in ASCII. -/
structure ClosedHeredoc where
  lead : Text
  introducer : Introducer
  word : Text
  trail : Text
  body : List Text
  last : Text
  lead_inert : ∀ c ∈ lead, isInert c = true
  word_start : word.head?.any Text.isNameStart = true
  word_chars : ∀ c ∈ word, Text.isNameChar c = true
  trail_start : trail.head?.any Text.isWord = false
  trail_inert : ∀ c ∈ trail, isInert c = true ∨ c = '<'
  body_break : ∀ l ∈ body, ∀ c ∈ l, Text.isLineBreak c = false
  body_open : ∀ l ∈ body, Text.trim l ≠ word
  last_break : ∀ c ∈ last, Text.isLineBreak c = false
  last_closes : Text.trim last = word

/-! ### The introducer -/

/-- A name of a heredoc is read to its end, with or without a dash before it. -/
theorem terminatorAfter_word {word tail : Text} (hstart : word.head?.any Text.isNameStart = true)
    (hchars : ∀ c ∈ word, Text.isNameChar c = true) (htail : tail.head?.any Text.isWord = false) :
    terminatorAfter (word ++ tail) = some word ∧ terminatorAfter ('-' :: (word ++ tail)) = some word := by
  cases word with
  | nil => cases hstart
  | cons c w =>
    have hchar := hchars c List.mem_cons_self
    have hne : c ≠ '-' ∧ c ≠ '\'' ∧ c ≠ '"' := by
      refine ⟨?_, ?_, ?_⟩ <;> rintro rfl <;> cases hchar
    have htrim : Text.trimStart (c :: (w ++ tail)) = c :: (w ++ tail) :=
      List.dropWhile_cons_of_neg (by simp [Text.not_isBlank_of_isNameChar hchar])
    have hletter : (Text.isLetter c || c == '_') = true := Text.isLetter_of_isNameStart hstart
    have hword : (w ++ tail).takeWhile Text.isWord = w :=
      takeWhile_append_stop (fun d hd => Text.isWord_of_isNameChar (hchars d (List.mem_cons_of_mem c hd))) htail
    refine ⟨?_, ?_⟩
    · simp [terminatorAfter, hne, htrim, hletter, hword]
    · simp [terminatorAfter, hne, htrim, hletter, hword]

theorem terminatorAfter_quoted {q : Char} (hq : q = '\'' ∨ q = '"') {word : Text}
    (hchars : ∀ c ∈ word, Text.isNameChar c = true) (tail : Text) :
    terminatorAfter (q :: (word ++ q :: tail)) = some word := by
  have hquote : q ∉ word := by
    intro hmem
    have hchar := hchars q hmem
    rcases hq with rfl | rfl <;> cases hchar
  have hword : (word ++ q :: tail).takeWhile (· != q) = word := Text.takeWhile_ne_append hquote
  have htrim : Text.trimStart (q :: (word ++ q :: tail)) = q :: (word ++ q :: tail) := by
    rcases hq with rfl | rfl <;> rfl
  rcases hq with rfl | rfl
  · simp [terminatorAfter, htrim, hword]
  · simp [terminatorAfter, htrim, hword]

theorem isInert_of_isNameChar {c : Char} (h : Text.isNameChar c = true) : isInert c = true := by
  have hne (d : Char) (hd : Text.isNameChar d = false) : c ≠ d := by
    rintro rfl
    rw [h] at hd
    cases hd
  simp only [isInert, Bool.and_eq_true, bne_iff_ne, Bool.not_eq_true', Text.not_isLineBreak_of_isNameChar h, and_true]
  exact ⟨⟨⟨⟨hne _ rfl, hne _ rfl⟩, hne _ rfl⟩, hne _ rfl⟩, hne _ rfl⟩

/-! ### The body -/

theorem heredocAfter_open {word l : Text} (h : Text.trim l ≠ word) : heredocAfter (some word) l = some word := by
  simp [heredocAfter, h]

theorem heredocAfter_close {word l : Text} (h : Text.trim l = word) : heredocAfter (some word) l = none := by
  simp [heredocAfter, h]

section

variable {word : Text} {ls : List Text} (hls : ∀ l ∈ ls, Text.trim l ≠ word) {last : Text}
  (hlast : Text.trim last = word) (ms : List Text)
include hls hlast

theorem stripCommentLines_body :
    stripCommentLines (some word) (ls ++ last :: ms) = ls.flatten ++ (last ++ stripCommentLines none ms) := by
  induction ls with
  | nil =>
    rw [List.nil_append, stripCommentLines, heredocAfter_close hlast]
    rfl
  | cons l ls ih =>
    obtain ⟨hl, hls⟩ := List.forall_mem_cons.1 hls
    rw [List.cons_append, stripCommentLines, heredocAfter_open hl, ih hls, List.flatten_cons, List.append_assoc]
    rfl

theorem stripHeredocLines_body (hend : ∀ l ∈ ls, Text.endsWithNewline l = true)
    (hlastEnd : Text.endsWithNewline last = true) :
    stripHeredocLines (some word) (ls ++ last :: ms) =
      List.replicate (ls.length + 1) '\n' ++ stripHeredocLines none ms := by
  induction ls with
  | nil =>
    rw [List.nil_append, stripHeredocLines, heredocAfter_close hlast, hlastEnd]
    rfl
  | cons l ls ih =>
    obtain ⟨hl, hls⟩ := List.forall_mem_cons.1 hls
    obtain ⟨hlEnd, hend⟩ := List.forall_mem_cons.1 hend
    rw [List.cons_append, stripHeredocLines, heredocAfter_open hl, ih hls hend, hlEnd]
    rfl

/-- Markers in the body are text. -/
theorem BlockScan.lines_body (s : BlockScan) (line pos : Nat) :
    s.lines (some word) line pos (ls ++ last :: ms) =
      s.lines none (line + ls.length + 1) (pos + ls.flatten.length + last.length) ms := by
  induction ls generalizing line pos with
  | nil =>
    rw [List.nil_append, BlockScan.lines, heredocAfter_close hlast]
    rfl
  | cons l ls ih =>
    obtain ⟨hl, hls⟩ := List.forall_mem_cons.1 hls
    rw [List.cons_append, BlockScan.lines, heredocAfter_open hl]
    refine (ih hls (line + 1) (pos + l.length)).trans ?_
    rw [List.length_cons, List.flatten_cons, List.length_append]
    congr 1 <;> omega

theorem heredocLines_body (start first line pos : Nat) (isMarkup : Bool) :
    heredocLines (some ⟨word, start, first, isMarkup⟩) line pos (ls ++ last :: ms) =
      ((heredocLines none (line + ls.length + 1) (pos + ls.flatten.length + last.length) ms).1,
        (if isMarkup then [.ofBounds start (pos + ls.flatten.length) "HEREDOC_PGML" first] else []) ++
          (heredocLines none (line + ls.length + 1) (pos + ls.flatten.length + last.length) ms).2) := by
  induction ls generalizing line pos with
  | nil =>
    rw [List.nil_append, heredocLines]
    simp only [hlast, beq_self_eq_true, if_true, List.length_nil, List.flatten_nil, Nat.add_zero]
    cases isMarkup <;> rfl
  | cons l ls ih =>
    obtain ⟨hl, hls⟩ := List.forall_mem_cons.1 hls
    have hnot : (Text.trim l == word) = false := beq_eq_false_iff_ne.2 hl
    rw [List.cons_append, heredocLines]
    simp only [hnot, Bool.false_eq_true, if_false, ih hls, List.length_cons, List.flatten_cons, List.length_append]
    have hline : line + 1 + ls.length + 1 = line + (ls.length + 1) + 1 := by omega
    have hpos : pos + l.length + ls.flatten.length = pos + (l.length + ls.flatten.length) := by omega
    rw [hline, hpos]

end

namespace ClosedHeredoc

variable (h : ClosedHeredoc)

def head : Text := h.lead ++ (h.introducer.text h.word ++ (h.trail ++ ['\n']))

def bodyText : Text := (h.body.map (· ++ ['\n'])).flatten

def text : Text := h.head ++ (h.bodyText ++ (h.last ++ ['\n']))

def lineCount : Nat := h.body.length + 2

theorem terminator?_head : terminator? h.head = some h.word := by
  have hlead : PlainCode IsQuiet h.lead := .of_forall fun c hc => .inl (h.lead_inert c hc)
  have htail : (h.trail ++ ['\n']).head?.any Text.isWord = false := by
    cases htrail : h.trail with
    | nil => rfl
    | cons c t => simpa [htrail] using h.trail_start
  obtain ⟨hplain, hdashed⟩ := terminatorAfter_word h.word_start h.word_chars htail
  have hquoted {q : Char} (hq : q = '\'' ∨ q = '"') :
      terminatorAfter (q :: (h.word ++ [q] ++ (h.trail ++ ['\n']))) = some h.word := by
    rw [List.append_assoc]
    exact terminatorAfter_quoted hq h.word_chars _
  rw [head, terminator?_append_of_plain hlead]
  cases h.introducer with
  | plain => exact hplain
  | dashed => exact hdashed
  | single => exact hquoted (.inl rfl)
  | double => exact hquoted (.inr rfl)

/-- The line of the introducer holds no comment: number signs are not in it. -/
theorem stripComment_head : stripComment h.head = h.head := by
  have hinert {t : Text} (ht : ∀ c ∈ t, isInert c = true) : PlainCode KeepsCode t :=
    .of_forall fun c hc => keepsCode_of_quiet (.inl (ht c hc))
  have hangle : KeepsCode '<' := ⟨rfl, by decide⟩
  have hword : PlainCode KeepsCode h.word := hinert fun c hc => isInert_of_isNameChar (h.word_chars c hc)
  have hliteral : ∀ c ∈ h.word, isLiteralChar c = true := by
    intro c hc
    have hc := isInert_of_isNameChar (h.word_chars c hc)
    simp only [isInert, Bool.and_eq_true] at hc
    simp [isLiteralChar, hc]
  have hintroducer : PlainCode KeepsCode (h.introducer.text h.word) := by
    cases h.introducer with
    | plain => exact .code hangle (.code hangle hword)
    | dashed => exact .code hangle (.code hangle (.code ⟨rfl, by decide⟩ hword))
    | single => exact .code hangle (.code hangle (.literal (.inl rfl) hliteral .nil))
    | double => exact .code hangle (.code hangle (.literal (.inr rfl) hliteral .nil))
  have htrail : PlainCode KeepsCode h.trail := .of_forall fun c hc => by
    rcases h.trail_inert c hc with hc | rfl
    · exact keepsCode_of_quiet (.inl hc)
    · exact hangle
  exact stripComment_of_plain
    ((hinert h.lead_inert).append (hintroducer.append (htrail.append (.code ⟨rfl, by decide⟩ .nil))))

theorem lines_text_append (rest : Text) :
    Text.lines (h.text ++ rest) =
      h.head :: (h.body.map (· ++ ['\n']) ++ (h.last ++ ['\n']) :: Text.lines rest) := by
  have hword : ∀ c ∈ h.word, Text.isLineBreak c = false := fun c hc =>
    Text.not_isLineBreak_of_isNameChar (h.word_chars c hc)
  have hintroducer : ∀ c ∈ h.introducer.text h.word, Text.isLineBreak c = false := by
    have hangles {t : Text} (ht : ∀ c ∈ t, Text.isLineBreak c = false) :
        ∀ c ∈ '<' :: '<' :: t, Text.isLineBreak c = false :=
      List.forall_mem_cons.2 ⟨rfl, List.forall_mem_cons.2 ⟨rfl, ht⟩⟩
    cases h.introducer with
    | plain => exact hangles hword
    | dashed => exact hangles (List.forall_mem_cons.2 ⟨rfl, hword⟩)
    | single =>
      exact hangles (List.forall_mem_cons.2
        ⟨rfl, List.forall_mem_append.2 ⟨hword, List.forall_mem_singleton.2 rfl⟩⟩)
    | double =>
      exact hangles (List.forall_mem_cons.2
        ⟨rfl, List.forall_mem_append.2 ⟨hword, List.forall_mem_singleton.2 rfl⟩⟩)
  have htrail : ∀ c ∈ h.trail, Text.isLineBreak c = false := by
    intro c hc
    rcases h.trail_inert c hc with hc | rfl
    · exact not_break_of_inert hc
    · rfl
  have hfirst : ∀ c ∈ h.lead ++ (h.introducer.text h.word ++ h.trail), Text.isLineBreak c = false :=
    List.forall_mem_append.2 ⟨fun c hc => not_break_of_inert (h.lead_inert c hc),
      List.forall_mem_append.2 ⟨hintroducer, htrail⟩⟩
  have htext : h.text ++ rest =
      h.lead ++ (h.introducer.text h.word ++ h.trail) ++ '\n' :: (h.bodyText ++ (h.last ++ '\n' :: rest)) := by
    simp [text, head]
  rw [htext, Text.lines_line hfirst, bodyText, Text.lines_map_concat h.body_break, Text.lines_line h.last_break]
  simp [head]

theorem body_lines_open : ∀ l ∈ h.body.map (· ++ ['\n']), Text.trim l ≠ h.word := by
  intro l hl
  obtain ⟨m, hm, rfl⟩ := List.mem_map.1 hl
  rw [Text.trim_append_singleton rfl]
  exact h.body_open m hm

theorem last_line_closes : Text.trim (h.last ++ ['\n']) = h.word := by
  rw [Text.trim_append_singleton rfl]
  exact h.last_closes

theorem endsWithNewline_concat (l : Text) : Text.endsWithNewline (l ++ ['\n']) = true := by
  rw [Text.endsWithNewline, List.getLast?_concat, beq_self_eq_true]

theorem after_text : 1 + 1 + (h.body.map (· ++ ['\n'])).length + 1 = 1 + h.lineCount ∧
    0 + h.head.length + h.bodyText.length + (h.last ++ ['\n']).length = 0 + h.text.length := by
  simp only [List.length_map, lineCount, text, List.length_append]
  omega

theorem markupHeredocs_append (rest : Text) :
    markupHeredocs (h.text ++ rest) =
      ((markupHeredocs rest).1.map (Issue.moved h.lineCount),
        (if Text.includes h.word "PGML" || markupFunctions.occursIn h.head then
          [.ofBounds h.head.length (h.head.length + h.bodyText.length) "HEREDOC_PGML" 2] else []) ++
        (markupHeredocs rest).2.map (Region.moved h.text.length h.lineCount)) := by
  have hmoved := @heredocLines_moved h.text.length h.lineCount none (by simp) 1 0 (Text.lines rest)
  rw [markupHeredocs, lines_text_append, heredocLines, terminator?_head]
  simp only [Option.map_some]
  rw [heredocLines_body h.body_lines_open h.last_line_closes, ← bodyText, h.after_text.1, h.after_text.2]
  rw [Option.map_none] at hmoved
  rw [hmoved, Nat.zero_add]
  rfl

theorem blocks_append (rest : Text) :
    blocks (h.text ++ rest) = ((blocks rest).1.map (Issue.moved h.lineCount),
      (blocks rest).2.map (Region.moved h.text.length h.lineCount)) := by
  have hmoved := BlockScan.lines_moved h.text.length h.lineCount {} none 1 0 (Text.lines rest)
  rw [blocks, lines_text_append, BlockScan.lines, heredocAfter, terminator?_head]
  have hbody := BlockScan.lines_body h.body_lines_open h.last_line_closes (Text.lines rest) {} (1 + 1)
    (0 + h.head.length)
  rw [← bodyText, h.after_text.1, h.after_text.2] at hbody
  exact (congrArg BlockScan.finish (hbody.trans hmoved)).trans (BlockScan.finish_moved _ _ _)

/-- A heredoc before other text: comments are taken out of the rest only, the body is left with its line feeds only,
and what is found in the rest is found as far down as the heredoc is long. The body is a region of markup if the word
or its line names the markup, and no line of it is a marker. -/
theorem scans_append (rest : Text) :
    stripComments (h.text ++ rest) = h.text ++ stripComments rest ∧
      stripHeredocs (h.text ++ rest) =
        h.head ++ (List.replicate (h.body.length + 1) '\n' ++ stripHeredocs rest) ∧
      markupHeredocs (h.text ++ rest) =
        ((markupHeredocs rest).1.map (Issue.moved h.lineCount),
          (if Text.includes h.word "PGML" || markupFunctions.occursIn h.head then
            [.ofBounds h.head.length (h.head.length + h.bodyText.length) "HEREDOC_PGML" 2] else []) ++
          (markupHeredocs rest).2.map (Region.moved h.text.length h.lineCount)) ∧
      Text.slice (h.text ++ rest) h.head.length (h.head.length + h.bodyText.length : Nat) = h.bodyText ∧
      blocks (h.text ++ rest) = ((blocks rest).1.map (Issue.moved h.lineCount),
        (blocks rest).2.map (Region.moved h.text.length h.lineCount)) := by
  refine ⟨?_, ?_, h.markupHeredocs_append rest, ?_, h.blocks_append rest⟩
  · rw [stripComments, lines_text_append, stripCommentLines, heredocAfter, terminator?_head, stripComment_head,
      stripCommentLines_body h.body_lines_open h.last_line_closes]
    simp [text, bodyText, stripComments]
  · have hend : ∀ l ∈ h.body.map (· ++ ['\n']), Text.endsWithNewline l = true := by
      intro l hl
      obtain ⟨m, -, rfl⟩ := List.mem_map.1 hl
      exact endsWithNewline_concat m
    rw [stripHeredocs, lines_text_append, stripHeredocLines, heredocAfter, terminator?_head,
      stripHeredocLines_body h.body_lines_open h.last_line_closes _ hend (endsWithNewline_concat h.last),
      List.length_map]
    rfl
  · rw [Text.slice_natCast, Nat.add_sub_cancel_left, text, List.append_assoc, List.append_assoc, List.drop_left,
      List.take_left]

/-- A heredoc whose body looks like a comment and the start of a block, and whose word like the end of one. -/
def misleading : ClosedHeredoc where
  lead := "$a = ".toList
  introducer := .double
  word := "END_PGML".toList
  trail := " . <<B;".toList
  body := ["# <<A".toList, "BEGIN_PGML".toList]
  last := "\tEND_PGML ".toList
  lead_inert := List.all_eq_true.1 rfl
  word_start := rfl
  word_chars := List.all_eq_true.1 rfl
  trail_start := rfl
  trail_inert := by
    have hall : (" . <<B;".toList.all fun c => isInert c || c == '<') = true := rfl
    simpa using List.all_eq_true.1 hall
  body_break := List.forall_mem_cons.2 ⟨Text.not_break_of_all rfl, List.forall_mem_singleton.2 (Text.not_break_of_all rfl)⟩
  body_open := by decide
  last_break := Text.not_break_of_all rfl
  last_closes := by decide

/-- The comment in the body stays and the one behind the heredoc goes; only the block behind it is reported. -/
theorem scans_append_misleading :
    stripComments (misleading.text ++ "BEGIN_PGML # a\n".toList) = misleading.text ++ "BEGIN_PGML \n".toList ∧
      stripHeredocs (misleading.text ++ "BEGIN_PGML # a\n".toList) =
        "$a = <<\"END_PGML\" . <<B;\n\n\n\nBEGIN_PGML # a\n".toList ∧
      markupHeredocs (misleading.text ++ "BEGIN_PGML # a\n".toList) = ([], [.ofBounds 25 42 "HEREDOC_PGML" 2]) ∧
      blocks (misleading.text ++ "BEGIN_PGML # a\n".toList) =
        ([.onLine .error "BEGIN_PGML without matching END" 5], []) := by
  obtain ⟨hcomments, hheredocs, hmarkup, -, hblocks⟩ := misleading.scans_append "BEGIN_PGML # a\n".toList
  have hmarkupRest : markupHeredocs "BEGIN_PGML # a\n".toList = ([], []) := by rfl
  refine ⟨?_, ?_, ?_, ?_⟩
  · rw [hcomments]
    rfl
  · rw [hheredocs]
    rfl
  · rw [hmarkup, hmarkupRest]
    rfl
  · rw [hblocks]
    rfl

end ClosedHeredoc
end ProblemLint
