import ProblemLint.Document
import ProblemLint.Proofs.Lines

/-! Taking comments and heredoc bodies out of a program leaves every line feed in place. Each pass works
line by line; what it writes for a line is that line thinned, so the whole program is thinned, and what
`Thinned` gives holds of both passes and of their composition. -/

namespace ProblemLint

open Text (Thinned ReadsOff)

/-- What stays of a line that is taken out: the line feed at its end, if there is one. -/
theorem thinned_lineEnd {l : Text} (h : '\n' ∉ l.dropLast) :
    Thinned (if Text.endsWithNewline l then ['\n'] else []) l := by
  rcases List.eq_nil_or_concat l with rfl | ⟨body, c, rfl⟩
  · exact .nil
  · simp only [List.concat_eq_append, List.dropLast_concat] at h
    simp only [Text.endsWithNewline, List.concat_eq_append, List.getLast?_concat, beq_iff_eq, Option.some.injEq]
    split
    · next hc =>
      subst hc
      exact (Thinned.of_not_mem h).append (.refl ['\n'])
    · next hc => exact .of_not_mem (by simp [h, Ne.symm hc])

theorem commentFrom?_lt {f : QuoteFlags} {l : Text} {n : Nat} (h : commentFrom? f l = some n) :
    n < l.length := by
  induction l generalizing f n with
  | nil => simp [commentFrom?] at h
  | cons c r ih =>
    have later {f : QuoteFlags} (h : (commentFrom? f r).map (· + 1) = some n) : n < (c :: r).length := by
      obtain ⟨m, hm, rfl⟩ := Option.map_eq_some_iff.1 h
      exact Nat.succ_lt_succ (ih hm)
    simp only [commentFrom?] at h
    split at h
    · exact later h
    · split at h
      · obtain rfl : 0 = n := by simpa using h
        exact Nat.succ_pos _
      · exact later h

theorem thinned_stripComment {l : Text} (h : '\n' ∉ l.dropLast) : Thinned (stripComment l) l := by
  unfold stripComment
  split
  · exact .refl l
  · next n hn =>
    have hlt := commentFrom?_lt hn
    have hend : Text.endsWithNewline l = Text.endsWithNewline (l.drop n) := by
      simp [Text.endsWithNewline, List.getLast?_drop, Nat.not_le.2 hlt]
    have hrest : '\n' ∉ (l.drop n).dropLast := by
      rw [List.dropLast_drop_eq_drop_dropLast]
      exact fun hm => h (List.mem_of_mem_drop hm)
    have := (Thinned.refl (l.take n)).append (thinned_lineEnd hrest)
    rwa [List.take_append_drop, ← hend] at this

theorem thinned_stripCommentLines (opened : Option Text) (ls : List Text)
    (h : ∀ l ∈ ls, '\n' ∉ l.dropLast) : Thinned (stripCommentLines opened ls) ls.flatten := by
  induction ls generalizing opened with
  | nil => exact .nil
  | cons l ls ih =>
    rw [List.flatten_cons, stripCommentLines]
    refine Thinned.append ?_ (ih _ fun m hm => h m (List.mem_cons_of_mem l hm))
    split
    · exact .refl l
    · exact thinned_stripComment (h l List.mem_cons_self)

theorem thinned_stripHeredocLines (opened : Option Text) (ls : List Text)
    (h : ∀ l ∈ ls, '\n' ∉ l.dropLast) : Thinned (stripHeredocLines opened ls) ls.flatten := by
  induction ls generalizing opened with
  | nil => exact .nil
  | cons l ls ih =>
    rw [List.flatten_cons, stripHeredocLines]
    refine Thinned.append ?_ (ih _ fun m hm => h m (List.mem_cons_of_mem l hm))
    split
    · exact thinned_lineEnd (h l List.mem_cons_self)
    · exact .refl l

theorem thinned_stripComments (t : Text) : Thinned (stripComments t) t := by
  have := thinned_stripCommentLines none (Text.lines t) (Text.newline_not_mem_dropLast t)
  rwa [Text.lines_flatten] at this

theorem thinned_stripHeredocs (t : Text) : Thinned (stripHeredocs t) t := by
  have := thinned_stripHeredocLines none (Text.lines t) (Text.newline_not_mem_dropLast t)
  rwa [Text.lines_flatten] at this

theorem thinned_code (t : Text) : Thinned (stripHeredocs (stripComments t)) t :=
  (thinned_stripHeredocs _).trans (thinned_stripComments t)

/-- `s` keeps the lines of `t`, counted by line feeds. -/
structure KeepsLines (s t : Text) : Prop where
  newlines : s.count '\n' = t.count '\n'
  lines : List.Forall₂ List.Sublist (Text.splitOn '\n' s) (Text.splitOn '\n' t)
  origin : ∃ origin, ReadsOff s t origin
  /-- The line of a character is the line it comes from, whichever of `t`'s characters were left out. -/
  line_eq : ∀ origin, ReadsOff s t origin →
    ∀ p, 1 + (s.take p).count '\n' = 1 + (t.take (origin p)).count '\n'

theorem keepsLines_of_thinned {s t : Text} (h : Thinned s t) : KeepsLines s t where
  newlines := h.count_newline
  lines := h.splitOn
  origin := h.exists_readsOff
  line_eq origin ho p := by rw [ho.count_take h.count_newline p]

/-- What a document knows as its program, without comments and then without heredoc bodies, keeps the
lines of its text. -/
theorem ofText_keepsLines (t : Text) (path : Option Text) (blockRules : List BlockRule)
    (macroRules : List MacroRule) (version : Option Text) :
    let d := Document.ofText t path blockRules macroRules version
    d.uncommented = stripComments t ∧ KeepsLines (stripComments t) t ∧
      d.code = stripHeredocs (stripComments t) ∧ KeepsLines (stripHeredocs (stripComments t)) t :=
  ⟨rfl, keepsLines_of_thinned (thinned_stripComments t), rfl, keepsLines_of_thinned (thinned_code t)⟩

end ProblemLint
