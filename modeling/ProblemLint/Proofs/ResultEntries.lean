import ProblemLint.Proofs.Encoding
import ProblemLint.Proofs.LineStarts
import ProblemLint.Proofs.LineTexts
import ProblemLint.Triage.ByCheck
import ProblemLint.Proofs.Numerals

/-! Result files. An entry is written without any escapes, as a path, a line, a check in brackets and a message, and is
read by cutting at the first bracket, at the next closing one and at the last colon before. What was written comes back,
as long as the path has no opening bracket and the check no closing one; and a file gives its entries back one by one,
unless a check breaks its line. -/

namespace ProblemLint

namespace Text

/-! ### Cutting at a character -/

theorem splitFirst?_append {sep : Char} {a : Text} (h : sep ∉ a) (b : Text) :
    splitFirst? sep (a ++ sep :: b) = some (a, b) := by
  induction a with
  | nil => simp [splitFirst?]
  | cons c a ih =>
    obtain ⟨hc, ha⟩ := not_or.1 (List.mem_cons.not.1 h)
    simp [splitFirst?, Ne.symm hc, ih ha]

theorem eq_of_splitFirst? {sep : Char} {t a b : Text} (h : splitFirst? sep t = some (a, b)) : t = a ++ sep :: b := by
  induction t generalizing a with
  | nil => cases h
  | cons c r ih =>
    rw [splitFirst?] at h
    split at h
    · next hc =>
      cases h
      rw [beq_iff_eq.1 hc, List.nil_append]
    · obtain ⟨⟨a', b'⟩, hrest, heq⟩ := Option.map_eq_some_iff.1 h
      cases heq
      rw [ih hrest, List.cons_append]

theorem splitLast?_append {sep : Char} {b : Text} (h : sep ∉ b) (a : Text) :
    splitLast? sep (a ++ sep :: b) = some (a, b) := by
  have hnone : splitLast? sep b = none := by
    induction b with
    | nil => rfl
    | cons c b ih =>
      obtain ⟨hc, hb⟩ := not_or.1 (List.mem_cons.not.1 h)
      simp [splitLast?, ih hb, Ne.symm hc]
  induction a with
  | nil => simp [splitLast?, hnone]
  | cons c a ih => simp [splitLast?, ih]

theorem dropEndWhile_eq_self {p : Char → Bool} {t : Text} (h : t.getLast?.any p = false) : dropEndWhile p t = t := by
  rw [dropEndWhile_eq, List.rdropWhile_eq_self_iff]
  intro hne
  simpa [List.getLast?_eq_some_getLast hne] using h

theorem trim_cons_blank {c : Char} (hc : isBlank c = true) (t : Text) : trim (c :: t) = trim t := by
  rw [trim, trimStart, List.dropWhile_cons_of_pos hc]
  rfl

end Text

namespace Triage

open Text (numeral)

/-! ### One entry -/

/-- The line of an issue as an entry shows it. -/
def shownLine (i : Issue) : Text := ((i.get? "line").map Value.text).getD ['?']

/-- The check of an issue as an entry shows it. -/
def shownCheck (i : Issue) : Text := ((i.get? "plugin").map Value.text).getD "unknown".toList

/-- The path of a file and one of its issues, of which entries can be written. -/
structure Recordable (path : Text) (i : Issue) : Prop where
  path_ne_nil : path ≠ []
  path_trimmed : Text.trim path = path
  path_unopened : '[' ∉ path
  path_no_comment : path.head? ≠ some '#'
  path_unbroken : '\n' ∉ path ∧ '\r' ∉ path
  line : i.get? "line" = none ∨ i.get? "line" = some (.str "?") ∨ ∃ n : Nat, i.get? "line" = some (.int n)
  check_unopened : '[' ∉ shownCheck i
  check_unclosed : ']' ∉ shownCheck i
  check_trimmed : Text.trim (shownCheck i) = shownCheck i
  message_ne_nil : i.message ≠ []
  message_trimmed : Text.trim i.message = i.message
  message_unbroken : '\n' ∉ i.message ∧ '\r' ∉ i.message

/-- What stands before the bracket of an entry. -/
def place (path : Text) (i : Issue) : Text := path ++ ':' :: shownLine i

theorem entryOf_eq (path : Text) (i : Issue) :
    entryOf path i = place path i ++ [' '] ++ '[' :: (shownCheck i ++ ']' :: ' ' :: i.message) := by
  simp [entryOf, place, shownLine, shownCheck]

namespace Recordable

variable {path : Text} {i : Issue}

theorem shownLine_cases (h : Recordable path i) : shownLine i = ['?'] ∨ ∃ n, shownLine i = numeral n := by
  unfold shownLine
  rcases h.line with hline | hline | ⟨n, hline⟩
  · exact .inl (by rw [hline]; rfl)
  · exact .inl (by rw [hline]; rfl)
  · exact .inr ⟨n, by rw [hline]; rfl⟩

theorem of_mem_shownLine (h : Recordable path i) {c : Char} (hc : c ∈ shownLine i) : c = '?' ∨ c.isDigit = true := by
  rcases h.shownLine_cases with hline | ⟨n, hline⟩
  · rw [hline] at hc
    exact .inl (List.mem_singleton.1 hc)
  · rw [hline] at hc
    exact .inr (Text.isDigit_of_mem_numeral hc)

theorem not_mem_shownLine (h : Recordable path i) {c : Char} (hmark : c ≠ '?') (hdigit : c.isDigit = false) :
    c ∉ shownLine i := by
  intro hc
  rcases h.of_mem_shownLine hc with rfl | hc
  · exact hmark rfl
  · rw [hdigit] at hc
    cases hc

theorem shownLine_ne_nil (h : Recordable path i) : shownLine i ≠ [] := by
  rcases h.shownLine_cases with hline | ⟨n, hline⟩
  · rw [hline]
    exact List.cons_ne_nil _ _
  · rw [hline]
    exact Text.numeral_ne_nil n

theorem head?_path (h : Recordable path i) (t : Text) : (path ++ t).head?.any Text.isBlank = false := by
  obtain ⟨c, r, rfl⟩ := List.exists_cons_of_ne_nil h.path_ne_nil
  exact Text.not_isBlank_of_trimStart (Text.trimStart_of_trim h.path_trimmed)

theorem getLast?_place (h : Recordable path i) :
    ∃ c, (place path i).getLast? = some c ∧ c ≠ ':' ∧ Text.isBlank c = false := by
  have hlast := List.getLast_mem h.shownLine_ne_nil
  refine ⟨(shownLine i).getLast h.shownLine_ne_nil, ?_, ?_, ?_⟩
  · rw [place, List.append_cons, List.getLast?_append_of_ne_nil _ h.shownLine_ne_nil,
      List.getLast?_eq_some_getLast h.shownLine_ne_nil]
  · intro hcolon
    rw [hcolon] at hlast
    exact h.not_mem_shownLine (by decide) (by decide) hlast
  · rcases h.of_mem_shownLine hlast with hmark | hdigit
    · rw [hmark]
      rfl
    · exact Text.not_isBlank_of_isDigit hdigit

theorem trim_place (h : Recordable path i) : Text.trim (place path i) = place path i := by
  obtain ⟨c, hc, -, hblank⟩ := h.getLast?_place
  refine Text.trim_eq_self (h.head?_path _) ?_
  rw [hc, Option.any_some, hblank]

theorem split?_entryOf (h : Recordable path i) :
    split? (entryOf path i) = some (place path i, shownCheck i, i.message) := by
  have hopen : '[' ∉ place path i ++ [' '] := by
    have hline := h.not_mem_shownLine (c := '[') (by decide) (by decide)
    simp [place, h.path_unopened, hline]
  have hcolons : Text.dropEndWhile (· == ':') (place path i) = place path i := by
    obtain ⟨c, hc, hcolon, -⟩ := h.getLast?_place
    refine Text.dropEndWhile_eq_self ?_
    rw [hc, Option.any_some]
    simpa using hcolon
  rw [entryOf_eq, split?, Text.splitFirst?_append hopen]
  simp only [Option.bind_eq_bind, Option.bind_some, Text.splitFirst?_append h.check_unclosed]
  rw [Text.trim_append_blank h.trim_place rfl, hcolons, h.check_trimmed, Text.trim_cons_blank rfl, h.message_trimmed]

theorem splitLast?_place (h : Recordable path i) : Text.splitLast? ':' (place path i) = some (path, shownLine i) :=
  Text.splitLast?_append (h.not_mem_shownLine (by decide) (by decide)) path

theorem entry_read? (h : Recordable path i) :
    Entry.read? (entryOf path i) = some ⟨path, shownCheck i, i.message, entryOf path i⟩ := by
  simp [Entry.read?, h.split?_entryOf, h.splitLast?_place]

theorem located_read? (h : Recordable path i) : ByCheck.Located.read? (entryOf path i) =
    some ⟨path, shownLine i, shownCheck i, i.message, entryOf path i⟩ := by
  simp [ByCheck.Located.read?, h.split?_entryOf, h.splitLast?_place]

theorem getLast?_message (h : Recordable path i) (t : Text) : (t ++ i.message).getLast?.any Text.isBlank = false := by
  have hend := Text.trimEnd_of_trim h.message_trimmed
  rw [Text.trimEnd, Text.dropEndWhile_eq, List.rdropWhile_eq_self_iff] at hend
  rw [List.getLast?_append_of_ne_nil _ h.message_ne_nil, List.getLast?_eq_some_getLast h.message_ne_nil, Option.any_some]
  simpa using hend h.message_ne_nil

theorem trim_entryOf (h : Recordable path i) : Text.trim (entryOf path i) = entryOf path i := by
  refine Text.trim_eq_self ?_ (h.getLast?_message _)
  rw [entryOf_eq, place, List.append_assoc, List.append_assoc]
  exact h.head?_path _

theorem entryOf_ne_nil (h : Recordable path i) : entryOf path i ≠ [] := by
  obtain ⟨c, r, rfl⟩ := List.exists_cons_of_ne_nil h.path_ne_nil
  rw [entryOf_eq]
  exact List.cons_ne_nil _ _

theorem head?_entryOf (h : Recordable path i) : (entryOf path i).head? ≠ some '#' := by
  have hhead := h.path_no_comment
  obtain ⟨c, r, rfl⟩ := List.exists_cons_of_ne_nil h.path_ne_nil
  rw [entryOf_eq]
  exact hhead

theorem not_mem_entryOf (h : Recordable path i) {c : Char} (hc : c = '\n' ∨ c = '\r') (hcheck : c ∉ shownCheck i) :
    c ∉ entryOf path i := by
  rw [entryOf_eq, place]
  rcases hc with rfl | rfl
  · have hline := h.not_mem_shownLine (c := '\n') (by decide) (by decide)
    simp [h.path_unbroken.1, hline, hcheck, h.message_unbroken.1]
  · have hline := h.not_mem_shownLine (c := '\r') (by decide) (by decide)
    simp [h.path_unbroken.2, hline, hcheck, h.message_unbroken.2]

end Recordable

/-! ### Files of entries -/

/-- A line above the entries: empty or a comment. -/
def IsHeaderLine (l : Text) : Prop := (l = [] ∨ l.head? = some '#') ∧ '\n' ∉ l ∧ '\r' ∉ l

/-- Whether a line, without blanks around it, holds an entry. -/
def holdsEntry (l : Text) : Bool := !l.isEmpty && l.head? != some '#'

theorem newlineLines_asLines {ls : List Text} (h : ∀ l ∈ ls, '\n' ∉ l) :
    Text.newlineLines (asLines ls) = ls.map (· ++ ['\n']) := by
  induction ls with
  | nil => rfl
  | cons l ls ih =>
    obtain ⟨hl, hls⟩ := List.forall_mem_cons.1 h
    rw [asLines, List.flatMap_cons, ← asLines, Text.newlineLines_append (.inr List.getLast?_concat),
      Text.newlineLines_line hl, ih hls, List.map_cons, List.singleton_append]

theorem entryLines_asLines {ls : List Text} (h : ∀ l ∈ ls, '\n' ∉ l) :
    entryLines (asLines ls) = (ls.map Text.trim).filter holdsEntry := by
  have htrim : (ls.map (· ++ ['\n'])).map Text.trim = ls.map Text.trim := by
    rw [List.map_map]
    exact List.map_congr_left fun l _ => Text.trim_append_singleton rfl l
  rw [entryLines, newlineLines_asLines h, htrim]
  rfl

theorem not_holdsEntry {l : Text} (h : IsHeaderLine l) : holdsEntry (Text.trim l) = false := by
  obtain ⟨rfl | hhead, -⟩ := h
  · rfl
  · obtain ⟨r, rfl⟩ := List.head?_eq_some_iff.1 hhead
    rw [Text.trim, Text.trimStart, List.dropWhile_cons_of_neg (by decide), Text.trimEnd_cons rfl]
    rfl

theorem Recordable.holdsEntry {path : Text} {i : Issue} (h : Recordable path i) :
    holdsEntry (entryOf path i) = true := by
  simp [Triage.holdsEntry, h.entryOf_ne_nil, h.head?_entryOf]

/-! ### Lines that a check breaks -/

theorem newline_not_mem_of_newlineLines {t : Text} : ∀ l ∈ Text.newlineLines t, '\n' ∉ l.dropLast := by
  fun_induction Text.newlineLines t with
  | case1 => simp
  | case2 c r hc ih => simpa using ih
  | case3 c r hc hnil ih => simp
  | case4 c r hc l ls hcons ih =>
    rw [hcons] at ih
    obtain ⟨hl, hls⟩ := List.forall_mem_cons.1 ih
    refine List.forall_mem_cons.2 ⟨?_, hls⟩
    cases l with
    | nil => simp
    | cons d l =>
      rw [List.dropLast_cons_of_ne_nil (List.cons_ne_nil d l), List.mem_cons, not_or]
      exact ⟨fun heq => hc (by simp [← heq]), hl⟩

theorem newline_not_mem_trim {l : Text} (h : '\n' ∉ l.dropLast) : '\n' ∉ Text.trim l := by
  intro hmem
  rcases List.eq_nil_or_concat' l with rfl | ⟨body, c, rfl⟩
  · cases hmem
  · rw [List.dropLast_concat] at h
    by_cases hc : c = '\n'
    · subst hc
      rw [Text.trim_append_singleton rfl] at hmem
      exact h (Text.mem_of_mem_trim hmem)
    · rcases List.mem_append.1 (Text.mem_of_mem_trim hmem) with hmem | hmem
      · exact h hmem
      · exact hc (List.mem_singleton.1 hmem).symm

/-- Entries are read from single lines. -/
theorem unbroken_of_mem_entryLines {t e : Text} (h : e ∈ entryLines t) : '\n' ∉ e ∧ ∀ c ∈ e, c ∈ t := by
  obtain ⟨l, hl, rfl⟩ := List.mem_map.1 (List.mem_filter.1 h).1
  refine ⟨newline_not_mem_trim (newline_not_mem_of_newlineLines l hl), fun c hc => ?_⟩
  rw [← Text.newlineLines_flatten t]
  exact List.mem_flatten_of_mem hl (Text.mem_of_mem_trim hc)

theorem mem_of_split? {e before check message : Text} (h : split? e = some (before, check, message)) :
    ∀ c ∈ check, c ∈ e := by
  simp only [split?, Option.bind_eq_bind, Option.bind_eq_some_iff] at h
  obtain ⟨⟨a, rest⟩, hfirst, ⟨u, v⟩, hsecond, heq⟩ := h
  cases heq
  intro c hc
  have hmem : c ∈ u := Text.mem_of_mem_trim hc
  have hrest : rest = u ++ ']' :: v := Text.eq_of_splitFirst? hsecond
  rw [Text.eq_of_splitFirst? hfirst, hrest]
  simp [hmem]

theorem mem_of_mem_check {e : Text} {x : ByCheck.Located} (h : ByCheck.Located.read? e = some x) :
    ∀ c ∈ x.check, c ∈ e := by
  simp only [ByCheck.Located.read?, Option.bind_eq_bind, Option.bind_eq_some_iff] at h
  obtain ⟨⟨before, check, message⟩, hsplit, heq⟩ := h
  cases heq
  exact mem_of_split? hsplit

/-! ### Reading back -/

/-- The entry of an issue with its parts. -/
def locatedOf (path : Text) (i : Issue) : ByCheck.Located := ⟨path, shownLine i, shownCheck i, i.message, entryOf path i⟩

/-- The lines of a result file: those above the entries, and the entries of issues. -/
def linesOf (above : List Text) (fs : List (Text × Issue)) : List Text := above ++ fs.map fun f => entryOf f.1 f.2

section

variable {above : List Text} {fs : List (Text × Issue)}

theorem not_mem_linesOf (habove : ∀ l ∈ above, IsHeaderLine l) (hfs : ∀ f ∈ fs, Recordable f.1 f.2) {c : Char}
    (hc : c = '\n' ∨ c = '\r') (hcheck : ∀ f ∈ fs, c ∉ shownCheck f.2) : ∀ l ∈ linesOf above fs, c ∉ l := by
  refine List.forall_mem_append.2 ⟨fun l hl => ?_, List.forall_mem_map.2 fun f hf => ?_⟩
  · obtain ⟨-, hfeed, hreturn⟩ := habove l hl
    rcases hc with rfl | rfl
    · exact hfeed
    · exact hreturn
  · exact (hfs f hf).not_mem_entryOf hc (hcheck f hf)

theorem read_linesOf (habove : ∀ l ∈ above, IsHeaderLine l) (hfs : ∀ f ∈ fs, Recordable f.1 f.2)
    (hcheck : ∀ f ∈ fs, '\n' ∉ shownCheck f.2) :
    ByCheck.read (asLines (linesOf above fs)) = fs.map fun f => locatedOf f.1 f.2 := by
  have hnone : (above.map Text.trim).filter holdsEntry = [] := by
    rw [List.filter_eq_nil_iff]
    exact List.forall_mem_map.2 fun l hl => by simp [not_holdsEntry (habove l hl)]
  have htrim : (fs.map fun f => entryOf f.1 f.2).map Text.trim = fs.map fun f => entryOf f.1 f.2 := by
    rw [List.map_map]
    exact List.map_congr_left fun f hf => (hfs f hf).trim_entryOf
  have hall : (fs.map fun f => entryOf f.1 f.2).filter holdsEntry = fs.map fun f => entryOf f.1 f.2 :=
    List.filter_eq_self.2 (List.forall_mem_map.2 fun f hf => (hfs f hf).holdsEntry)
  rw [ByCheck.read, entryLines_asLines (not_mem_linesOf habove hfs (.inl rfl) hcheck), linesOf, List.map_append,
    List.filter_append, hnone, htrim, hall, List.nil_append, List.filterMap_map, ← List.filterMap_eq_map]
  exact List.filterMap_congr fun f hf => (hfs f hf).located_read?

theorem return_not_mem_asLines {ls : List Text} (h : ∀ l ∈ ls, '\r' ∉ l) : '\r' ∉ asLines ls := by
  intro hmem
  obtain ⟨l, hl, hc⟩ := List.mem_flatMap.1 hmem
  rcases List.mem_append.1 hc with hc | hc
  · exact h l hl hc
  · exact absurd (List.mem_singleton.1 hc) (by decide)

end

theorem unbroken_of_mem_read {t : Text} {x : ByCheck.Located} (h : x ∈ ByCheck.read t) :
    '\n' ∉ x.check ∧ ∀ c ∈ x.check, c ∈ t := by
  obtain ⟨e, he, hx⟩ := List.mem_filterMap.1 h
  obtain ⟨hbreak, hmem⟩ := unbroken_of_mem_entryLines he
  exact ⟨fun hc => hbreak (mem_of_mem_check hx _ hc), fun c hc => hmem c (mem_of_mem_check hx c hc)⟩

/-- An entry gives path, check and message back. A file of entries gives them back with their lines, one by one and in
order, if and only if no check has a line break in it. -/
theorem entries_read_back :
    (∀ path i, Recordable path i →
      Entry.read? (entryOf path i) = some ⟨path, shownCheck i, i.message, entryOf path i⟩) ∧
    ∀ above fs, (∀ l ∈ above, IsHeaderLine l) → (∀ f ∈ fs, Recordable f.1 f.2) →
      ∃ contents, Utf8.readText (Utf8.encode (asLines (linesOf above fs))) = .ok contents ∧
        (ByCheck.read contents = (fs.map fun f => locatedOf f.1 f.2) ↔
          ∀ f ∈ fs, '\n' ∉ shownCheck f.2 ∧ '\r' ∉ shownCheck f.2) := by
  refine ⟨fun path i h => h.entry_read?, fun above fs habove hfs => ?_⟩
  refine ⟨Text.universalNewlines (asLines (linesOf above fs)), by rw [Utf8.readText, Utf8.decode_encode]; rfl, ?_, ?_⟩
  · intro hread f hf
    have hmem : locatedOf f.1 f.2 ∈ ByCheck.read (Text.universalNewlines (asLines (linesOf above fs))) := by
      rw [hread]
      exact List.mem_map_of_mem hf
    obtain ⟨hfeed, hreturn⟩ := unbroken_of_mem_read hmem
    exact ⟨hfeed, fun hc => Text.return_not_mem_universalNewlines _ (hreturn _ hc)⟩
  · intro hcheck
    have hreturn := not_mem_linesOf habove hfs (.inr rfl) fun f hf => (hcheck f hf).2
    rw [Text.universalNewlines_of_not_mem (return_not_mem_asLines hreturn)]
    exact read_linesOf habove hfs fun f hf => (hcheck f hf).1

/-- An issue of a check, in a line. -/
def issueOf (check message : String) : Issue :=
  ⟨[("message", .str message), ("line", .int 12), ("plugin", .str check)]⟩

/-- Colons, spaces and brackets in a path and a message. -/
theorem entries_read_back_brackets :
    Recordable "a b:c].pg".toList (issueOf "pgml_blanks" "[_]: no answer") ∧
      Entry.read? (entryOf "a b:c].pg".toList (issueOf "pgml_blanks" "[_]: no answer")) =
        some ⟨"a b:c].pg".toList, "pgml_blanks".toList, "[_]: no answer".toList,
          "a b:c].pg:12 [pgml_blanks] [_]: no answer".toList⟩ ∧
      IsHeaderLine "# bugs".toList ∧
      ∃ contents, Utf8.readText (Utf8.encode (asLines (linesOf ["# bugs".toList]
          [("a b:c].pg".toList, issueOf "pgml_blanks" "[_]: no answer")]))) = .ok contents ∧
        ByCheck.read contents = [⟨"a b:c].pg".toList, "12".toList, "pgml_blanks".toList, "[_]: no answer".toList,
          "a b:c].pg:12 [pgml_blanks] [_]: no answer".toList⟩] := by
  have hrec : Recordable "a b:c].pg".toList (issueOf "pgml_blanks" "[_]: no answer") :=
    ⟨by decide, by decide, by decide, by decide, by decide, .inr (.inr ⟨12, rfl⟩), by decide, by decide, by decide,
      by decide, by decide, by decide⟩
  have habove : IsHeaderLine "# bugs".toList := ⟨.inr rfl, by decide, by decide⟩
  obtain ⟨hentry, hfile⟩ := entries_read_back
  obtain ⟨contents, hcontents, hread⟩ := hfile ["# bugs".toList] [(_, _)] (List.forall_mem_singleton.2 habove)
    (List.forall_mem_singleton.2 hrec)
  exact ⟨hrec, hentry _ _ hrec, habove, contents, hcontents, hread.2 (List.forall_mem_singleton.2 (by decide))⟩

/-- A check with a line feed in it spreads its entry over two lines, neither of which is an entry. -/
theorem entry_broken_by_check :
    ¬ ∀ fs : List (Text × Issue), (∀ f ∈ fs, Recordable f.1 f.2) →
      ∃ contents, Utf8.readText (Utf8.encode (asLines (fs.map fun f => entryOf f.1 f.2))) = .ok contents ∧
        ByCheck.read contents = fs.map fun f => locatedOf f.1 f.2 := by
  intro hall
  have hrec : Recordable "f.pg".toList (issueOf "a\nb" "m") :=
    ⟨by decide, by decide, by decide, by decide, by decide, .inr (.inr ⟨12, rfl⟩), by decide, by decide, by decide,
      by decide, by decide, by decide⟩
  obtain ⟨contents, -, hread⟩ := hall [(_, _)] (List.forall_mem_singleton.2 hrec)
  have hmem : locatedOf "f.pg".toList (issueOf "a\nb" "m") ∈ ByCheck.read contents := by
    rw [hread]
    exact List.mem_singleton_self _
  exact absurd (unbroken_of_mem_read hmem).1 (by decide)

end Triage
end ProblemLint
