import ProblemLint.Check.LoadMacros
import ProblemLint.Markup.Blank
import ProblemLint.Proofs.Depth
import ProblemLint.Proofs.Names
import ProblemLint.Source.Call
import ProblemLint.Source.Modes

/-! Readers of delimiters. Calls of functions, calls of `MODES` and calls of `loadMacros` have readers of their own. The
first asks for quote marks before it asks where it is and starts before the parenthesis, the others ask where they are,
and the last one starts behind it; yet all of them close a parenthesis at the same place, since each follows the quote
machine. The reader of braces succeeds just if the depth comes back to zero, and takes the first place where it does.
From a position that counts from the end it reads on with the text once more. -/

namespace ProblemLint

variable {opener closer : Char}

theorem closeFrom_isSome_iff [PlainDelimiters opener closer] {s : QuoteState} {depth : Int} (hdepth : 0 < depth)
    {t : Text} :
    (closeFrom opener closer s.flags depth t).isSome = true ↔
      ∃ k, depth + depthFrom opener closer s (t.take k) = 0 := by
  induction t generalizing s depth with
  | nil =>
    simp only [closeFrom, List.take_nil, depthFrom]
    constructor
    · intro h
      cases h
    · rintro ⟨-, h⟩
      omega
  | cons c r ih =>
    rw [closeFrom_weight hdepth]
    have hweight := s.weight_cases opener closer c
    by_cases hzero : depth + s.weight opener closer c = 0
    · rw [if_pos hzero]
      refine iff_of_true rfl ⟨1, ?_⟩
      simpa [depthFrom] using hzero
    · rw [if_neg hzero, Option.isSome_map, ih (by omega)]
      constructor
      · rintro ⟨k, hk⟩
        refine ⟨k + 1, ?_⟩
        rwa [List.take_succ_cons, depthFrom, ← add_assoc]
      · rintro ⟨k, hk⟩
        cases k with
        | zero =>
          rw [List.take_zero, depthFrom] at hk
          omega
        | succ k =>
          rw [List.take_succ_cons, depthFrom, ← add_assoc] at hk
          exact ⟨k, hk⟩

/-! ### Reading from a position on -/

theorem delimitedAt?_of_readFrom? {t u : Text} {start : Int} (h : Text.readFrom? t start = some u) :
    delimitedAt? opener closer t start = (delimited? opener closer u).map fun x =>
      (Text.slice t (start + 1) (start + 1 + x.1.length), start + 1 + x.1.length + 1) := by
  rw [delimitedAt?, h]
  show (delimited? opener closer u).bind _ = _
  cases delimited? opener closer u <;> rfl

/-! ### Readers of parentheses -/

section

variable (s : QuoteState) (depth : Int)

theorem Modes.closeParen?_step (c : Char) (r : Text) :
    closeParen? s.flags depth (c :: r) =
      if s.inCode && c == '(' then (closeParen? (s.step c).flags (depth + 1) r).map (· + 1)
      else if s.inCode && c == ')' then
        if depth - 1 == 0 then some 0 else (closeParen? (s.step c).flags (depth - 1) r).map (· + 1)
      else (closeParen? (s.step c).flags depth r).map (· + 1) := by
  rcases s.byPlace?_cases c with ⟨hnone, hstep, hcode⟩ | ⟨hsome, hmark⟩
  · simp only [closeParen?, hnone, hstep, hcode, Bool.true_and]
  · have hopener : (s.inCode && c == '(') = false := not_code_and_beq hmark rfl
    have hcloser : (s.inCode && c == ')') = false := not_code_and_beq hmark rfl
    simp only [closeParen?, hsome, hopener, hcloser, Bool.false_eq_true, if_false]

theorem Modes.closeParen?_flags (t : Text) : closeParen? s.flags depth t = closeFrom '(' ')' s.flags depth t := by
  induction t generalizing s depth with
  | nil => rfl
  | cons c r ih => simp only [closeParen?_step, closeFrom_step, ih]

theorem Check.LoadMacros.scanParens_step (pos : Nat) (c : Char) (r : Text) :
    scanParens s.flags depth pos (c :: r) =
      if s.inCode && c == '(' then scanParens (s.step c).flags (depth + 1) (pos + 1) r
      else if s.inCode && c == ')' then
        if depth - 1 == 0 then (depth - 1, some pos) else scanParens (s.step c).flags (depth - 1) (pos + 1) r
      else scanParens (s.step c).flags depth (pos + 1) r := by
  rcases s.byPlace?_cases c with ⟨hnone, hstep, hcode⟩ | ⟨hsome, hmark⟩
  · simp only [scanParens, hnone, hstep, hcode, Bool.true_and]
  · have hopener : (s.inCode && c == '(') = false := not_code_and_beq hmark rfl
    have hcloser : (s.inCode && c == ')') = false := not_code_and_beq hmark rfl
    simp only [scanParens, hsome, hopener, hcloser, Bool.false_eq_true, if_false]

theorem Check.LoadMacros.scanParens_flags (pos : Nat) (t : Text) :
    scanParens s.flags depth pos t =
      ((closeFrom '(' ')' s.flags depth t).elim (depth + depthFrom '(' ')' s t) fun _ => 0,
        (closeFrom '(' ')' s.flags depth t).map (pos + ·)) := by
  induction t generalizing s depth pos with
  | nil => simp [scanParens, closeFrom, depthFrom]
  | cons c r ih =>
    have hnext (d : Int) :
        scanParens (s.step c).flags d (pos + 1) r =
          (((closeFrom '(' ')' (s.step c).flags d r).map (· + 1)).elim (d + depthFrom '(' ')' (s.step c) r) fun _ => 0,
            ((closeFrom '(' ')' (s.step c).flags d r).map (· + 1)).map (pos + ·)) := by
      rw [ih]
      cases closeFrom '(' ')' (s.step c).flags d r with
      | none => rfl
      | some n => simp only [Option.elim_some, Option.map_some, Nat.add_assoc, Nat.add_comm 1 n]
    simp only [scanParens_step, closeFrom_step, depthFrom, QuoteState.weight, hnext, ← add_assoc]
    cases s.inCode with
    | false => simp
    | true =>
      by_cases hopener : c = '('
      · simp [hopener]
      · by_cases hcloser : c = ')'
        · by_cases hdepth : depth + -1 = 0 <;> simp [hcloser, hdepth, sub_eq_add_neg]
        · simp [hopener, hcloser]

end

theorem Modes.payload?_eq (t : Text) : payload? t = (delimited? '(' ')' t).map (·.1) := by
  cases t with
  | nil => rfl
  | cons c r =>
    have hclose : closeParen? {} 0 (c :: r) = closeFrom '(' ')' {} 0 (c :: r) := closeParen?_flags {} 0 _
    by_cases hc : c == '('
    · rw [payload?, delimited?, if_pos hc, if_pos hc, hclose, Option.map_map]
      rfl
    · rw [payload?, delimited?, if_neg hc, if_neg hc]
      rfl

theorem Modes.payloadAt?_eq (t : Text) (start : Int) : payloadAt? t start = delimitedAt? '(' ')' t start := by
  rw [payloadAt?, delimitedAt?]
  cases Text.readFrom? t start with
  | none => rfl
  | some u =>
    show (payload? u).bind _ = (delimited? '(' ')' u).bind _
    rw [payload?_eq]
    cases delimited? '(' ')' u <;> rfl

theorem Call.at?_of_gap {names : List String} {before : Option Char} {name : String} {gap r : Text}
    (hgap : ∀ c ∈ gap, Text.isBlank c = true)
    (hname : nameAt? names before (name.toList ++ (gap ++ '(' :: r)) = some name) :
    at? names before (name.toList ++ (gap ++ '(' :: r)) =
      some ((delimited? '(' ')' ('(' :: r)).map fun x =>
          ⟨name, x.1, name.length + gap.length, name.length + gap.length + x.1.length + 2⟩,
        (delimited? '(' ')' ('(' :: r)).elim name.length fun x => name.length + gap.length + x.1.length + 2) := by
  have hdrop : (name.toList ++ (gap ++ '(' :: r)).drop name.length = gap ++ '(' :: r := by
    rw [← String.length_toList, List.drop_left]
  have hblanks : (gap ++ '(' :: r).takeWhile Text.isBlank = gap := takeWhile_append_stop hgap rfl
  rw [at?, hname, Option.map_some]
  simp only [hdrop, hblanks, List.drop_left]
  cases delimited? '(' ')' ('(' :: r) <;> rfl

theorem Modes.callAt?_of_gap {before : Option Char} {gap r : Text} (hbefore : before.any Text.isWord = false)
    (hgap : ∀ c ∈ gap, Text.isBlank c = true) :
    callAt? before ("MODES".toList ++ (gap ++ '(' :: r)) =
      some ((delimited? '(' ')' ('(' :: r)).map fun x => (gap.length + 6, x.1),
        (delimited? '(' ')' ('(' :: r)).elim (gap.length + 6) fun x => gap.length + 6 + x.1.length + 1) := by
  have hafter : Text.after? "MODES".toList ("MODES".toList ++ (gap ++ '(' :: r)) = some (gap ++ '(' :: r) := rfl
  have htrim : Text.trimStart (gap ++ '(' :: r) = '(' :: r := by
    rw [Text.trimStart, List.dropWhile_append_of_pos hgap]
    rfl
  have hparen : Text.after? ['('] ('(' :: r) = some r := rfl
  have hlead : ("MODES".toList ++ (gap ++ '(' :: r)).length - r.length = gap.length + 6 := by
    simp only [List.length_append, List.length_cons]
    rw [show "MODES".toList.length = 5 from rfl]
    omega
  simp only [callAt?, hbefore, Bool.false_eq_true, if_false, hafter, htrim, hparen, hlead, bind,
    Option.bind_some, payload?_eq]
  cases delimited? '(' ')' ('(' :: r) <;> rfl

/-- The readers of parentheses close the one at position `s`, which the text `r` follows, behind `close?` characters,
or all of them leave it open. -/
structure ParensClosed (t : Text) (s : Int) (r : Text) (close? : Option Nat) : Prop where
  /-- The loop of the reader of calls counts from the opening parenthesis on, at depth zero. -/
  loop : closeFrom '(' ')' {} 0 ('(' :: r) = close?.map (· + 1)
  /-- A call of a function ends there; without an end it is a name alone. -/
  call : ∀ (names : List String) (before : Option Char) (name : String) (gap : Text),
    (∀ c ∈ gap, Text.isBlank c = true) → Call.nameAt? names before (name.toList ++ (gap ++ '(' :: r)) = some name →
    Call.at? names before (name.toList ++ (gap ++ '(' :: r)) =
      some (close?.map fun n => ⟨name, r.take n, name.length + gap.length, name.length + gap.length + n + 2⟩,
        close?.elim name.length fun n => name.length + gap.length + n + 2)
  /-- The arguments of a call of `MODES` end there; without an end it is passed over. -/
  modes : ∀ (before : Option Char) (gap : Text), before.any Text.isWord = false →
    (∀ c ∈ gap, Text.isBlank c = true) → Modes.callAt? before ("MODES".toList ++ (gap ++ '(' :: r)) =
      some (close?.map fun n => (gap.length + 6, r.take n),
        close?.elim (gap.length + 6) fun n => gap.length + 6 + n + 1)
  payload : Modes.payloadAt? t s = close?.map fun n : Nat => (Text.slice t (s + 1) (s + 1 + n), s + 1 + n + 1)
  /-- The list of a call of `loadMacros`, read from the next position on, ends there. -/
  macros : ∃ rest, Text.readFrom? t (s + 1) = some rest ∧ (Check.LoadMacros.scanParens {} 1 0 rest).2 = close?

theorem parensClosed_closeFrom {t r : Text} {s : Int} (hs : Text.readFrom? t s = some ('(' :: r)) :
    ParensClosed t s r (closeFrom '(' ')' {} 1 r) := by
  have hloop : closeFrom '(' ')' {} 0 ('(' :: r) = (closeFrom '(' ')' {} 1 r).map (· + 1) := rfl
  have hread : delimited? '(' ')' ('(' :: r) =
      (closeFrom '(' ')' {} 1 r).map fun n => (r.take n, r.drop (n + 1)) := delimited?_opener r
  have hlength : ∀ n ∈ closeFrom '(' ')' {} 1 r, (r.take n).length = n := by
    intro n hn
    obtain ⟨inner, rest, rfl, rfl, -⟩ := (closeFrom_eq_some_iff (s := {}) Int.one_pos).1 hn
    rw [List.take_left]
  have hmacros := Check.LoadMacros.scanParens_flags {} 1 0 r
  rw [QuoteState.flags_start] at hmacros
  have hnext := Text.readFrom?_succ hs
  cases hclose : closeFrom '(' ')' {} 1 r with
  | none =>
    rw [hclose] at hread hloop hmacros
    constructor
    · exact hloop
    · intro names before name gap hgap hname
      rw [Call.at?_of_gap hgap hname, hread]
      rfl
    · intro before gap hbefore hgap
      rw [Modes.callAt?_of_gap hbefore hgap, hread]
      rfl
    · rw [Modes.payloadAt?_eq, delimitedAt?_of_readFrom? hs, hread]
      rfl
    · refine ⟨r, hnext, ?_⟩
      rw [hmacros]
      rfl
  | some n =>
    rw [hclose] at hread hloop hmacros
    have hlength := hlength n hclose
    constructor
    · exact hloop
    · intro names before name gap hgap hname
      rw [Call.at?_of_gap hgap hname, hread]
      simp only [Option.map_some, Option.elim_some, hlength]
    · intro before gap hbefore hgap
      rw [Modes.callAt?_of_gap hbefore hgap, hread]
      simp only [Option.map_some, Option.elim_some, hlength]
    · rw [Modes.payloadAt?_eq, delimitedAt?_of_readFrom? hs, hread]
      simp only [Option.map_some, hlength]
    · refine ⟨r, hnext, ?_⟩
      rw [hmacros]
      simp only [Option.map_some, Nat.zero_add]

/-- Whoever reads the parenthesis at a position finds the same closer, which is the first place where the depth is zero
again, and all leave it open when there is none. -/
theorem exists_parensClosed {t r : Text} {s : Int} (hs : Text.readFrom? t s = some ('(' :: r)) :
    ∃ close? : Option Nat, ParensClosed t s r close? ∧
      ∀ n, close? = some n ↔ r[n]? = some ')' ∧ ClosedBehind '(' ')' {} 1 (r.take n) := by
  refine ⟨closeFrom '(' ')' {} 1 r, parensClosed_closeFrom hs, ?_⟩
  intro n
  rw [← QuoteState.flags_start, closeFrom_eq_some_iff Int.one_pos]
  constructor
  · rintro ⟨inner, rest, rfl, rfl, hclosed⟩
    refine ⟨?_, by rwa [List.take_left]⟩
    rw [List.getElem?_append_right le_rfl, Nat.sub_self]
    rfl
  · rintro ⟨hcloser, hclosed⟩
    obtain ⟨hn, -⟩ := List.getElem?_eq_some_iff.1 hcloser
    refine ⟨r.take n, r.drop (n + 1), ?_, List.length_take_of_le hn.le, hclosed⟩
    rw [← drop_of_getElem? hcloser, List.take_append_drop]

theorem exists_parensClosed_nested :
    Text.readFrom? "f('(' \\) (x)) )".toList 1 = some "('(' \\) (x)) )".toList ∧
      ParensClosed "f('(' \\) (x)) )".toList 1 "'(' \\) (x)) )".toList (some 10) := by
  refine ⟨rfl, ?_⟩
  obtain ⟨close?, hclosed, -⟩ := exists_parensClosed (t := "f('(' \\) (x)) )".toList) (s := 1) rfl
  obtain ⟨rest, hrest, hmacros⟩ := hclosed.macros
  cases hrest
  obtain rfl : some 10 = close? := hmacros
  exact hclosed

/-! ### Braces by their positions -/

section

variable [PlainDelimiters opener closer]

theorem delimitedAt?_natCast {t inner : Text} {start : Nat} {stop : Int} :
    delimitedAt? opener closer t start = some (inner, stop) ↔
      ∃ n : Nat, stop = n ∧ Delimits opener closer t start n inner := by
  have hslice {inner : Text} {n : Nat} (h : Delimits opener closer t start n inner) (hn : n = start + inner.length + 2) :
      Text.slice t (start + 1) (start + 1 + inner.length) = inner := by
    have hinner := h.inner_eq
    rw [show (n : Int) - 1 = start + 1 + inner.length by omega] at hinner
    exact hinner.symm
  rw [delimitedAt?_of_readFrom? (Text.readFrom?_natCast t start), Option.map_eq_some_iff]
  constructor
  · rintro ⟨⟨inner, rest⟩, hread, h⟩
    have hdelimits := delimits_iff.2 ⟨rest, hread, rfl⟩
    dsimp only at h
    rw [hslice hdelimits rfl] at h
    cases h
    exact ⟨start + inner.length + 2, by omega, hdelimits⟩
  · rintro ⟨n, rfl, hdelimits⟩
    obtain ⟨rest, hread, hn⟩ := delimits_iff.1 hdelimits
    refine ⟨(inner, rest), hread, ?_⟩
    dsimp only
    rw [hslice hdelimits hn, Prod.mk.injEq]
    exact ⟨rfl, by omega⟩

theorem delimitedAt?_isSome_iff {t : Text} {start : Nat} :
    (delimitedAt? opener closer t start).isSome = true ↔
      t[start]? = some opener ∧
        ∃ n : Nat, start < n ∧ depthFrom opener closer {} (Text.slice t start n) = 0 := by
  rw [delimitedAt?_of_readFrom? (Text.readFrom?_natCast t start), Option.isSome_map, ← List.head?_drop]
  cases hdrop : t.drop start with
  | nil => simp [delimited?]
  | cons c r =>
    by_cases hc : c = opener
    · subst hc
      have hdepth (k : Nat) : depthFrom c closer {} (Text.slice t start (start + 1 + k : Nat)) =
          1 + depthFrom c closer (QuoteState.step {} c) (r.take k) := by
        rw [Text.slice_natCast, hdrop, show start + 1 + k - start = k + 1 by omega, List.take_succ_cons,
          depthFrom_opener]
      rw [delimited?_opener, Option.isSome_map, closeFrom_isSome_iff Int.one_pos]
      constructor
      · rintro ⟨k, hk⟩
        exact ⟨rfl, start + 1 + k, by omega, (hdepth k).trans hk⟩
      · rintro ⟨-, n, hn, hzero⟩
        obtain ⟨k, rfl⟩ := Nat.exists_eq_add_of_le hn
        exact ⟨k, (hdepth k).symm.trans hzero⟩
    · rw [delimited?, if_neg (by simpa using hc)]
      simp [hc]

theorem delimited?_again {t inner : Text} {start : Nat} {stop : Int}
    (h : delimitedAt? opener closer t start = some (inner, stop)) (rest : Text) :
    delimited? opener closer (opener :: (inner ++ closer :: rest)) = some (inner, rest) := by
  obtain ⟨n, -, hdelimits⟩ := delimitedAt?_natCast.1 h
  obtain ⟨behind, hread, -⟩ := delimits_iff.1 hdelimits
  exact delimited?_eq_some_iff.2 ⟨rfl, (delimited?_eq_some_iff.1 hread).2⟩

theorem delimitedAt?_again {t inner : Text} {start : Nat} {stop : Int}
    (h : delimitedAt? opener closer t start = some (inner, stop)) (rest : Text) :
    delimitedAt? opener closer (opener :: (inner ++ closer :: rest)) 0 = some (inner, (inner.length : Int) + 2) := by
  show delimitedAt? opener closer _ ((0 : Nat) : Int) = _
  rw [delimitedAt?_natCast]
  exact ⟨inner.length + 2, by omega, delimits_iff.2 ⟨rest, delimited?_again h rest, by omega⟩⟩

end

/-- From a position that counts from the end, delimiters are found as in the text that is written twice. -/
theorem delimitedAt?_of_neg {t : Text} {start : Int} (hlow : -t.length ≤ start) (hneg : start < 0) :
    delimitedAt? opener closer t start =
      (delimitedAt? opener closer (t ++ t) (start + t.length)).map fun x =>
        (Text.slice t (start + 1) (x.2 - t.length - 1), x.2 - (t.length : Int)) := by
  obtain ⟨u, hu⟩ : ∃ u, Text.readFrom? (t ++ t) (start + t.length) = some u := by
    obtain ⟨n, hn⟩ := Int.eq_ofNat_of_zero_le (show 0 ≤ start + t.length by omega)
    exact ⟨_, hn ▸ Text.readFrom?_natCast (t ++ t) n⟩
  rw [delimitedAt?_of_readFrom? hu, delimitedAt?_of_readFrom? ((Text.readFrom?_of_neg hlow hneg).trans hu),
    Option.map_map]
  congr 1
  funext x
  rw [Function.comp_apply, Prod.mk.injEq]
  exact ⟨by congr 1; omega, by omega⟩

/-- Braces are read up to the first place where the depth is zero again; there is nothing to read without a brace at
the position or without such a place. What is read depends on nothing that follows. A position that counts from the end
is read as one in the text that is written twice. -/
theorem bracedAt?_reads (t : Text) :
    (∀ (start : Nat) (p : Text) (stop : Int), bracedAt? t start = some (p, stop) ↔
      ∃ n : Nat, stop = n ∧ Delimits '{' '}' t start n p) ∧
    (∀ start : Nat, bracedAt? t start = none ↔
      ¬ (t[start]? = some '{' ∧ ∃ n : Nat, start < n ∧ depthFrom '{' '}' {} (Text.slice t start n) = 0)) ∧
    (∀ (start : Nat) (p : Text) (stop : Int), bracedAt? t start = some (p, stop) →
      ∀ rest, bracedAt? ('{' :: (p ++ '}' :: rest)) 0 = some (p, (p.length : Int) + 2)) ∧
    ∀ start : Int, -t.length ≤ start → start < 0 →
      bracedAt? t start = (bracedAt? (t ++ t) (start + t.length)).map fun x =>
        (Text.slice t (start + 1) (x.2 - t.length - 1), x.2 - (t.length : Int)) := by
  refine ⟨fun start p stop => delimitedAt?_natCast, ?_, fun start p stop h => delimitedAt?_again h,
    fun start => delimitedAt?_of_neg⟩
  intro start
  rw [← delimitedAt?_isSome_iff, Bool.not_eq_true, Option.isSome_eq_false_iff, Option.isNone_iff_eq_none]
  rfl

/-- A brace at the end of a text is closed by one at its beginning, though nothing behind it closes it. -/
theorem bracedAt?_past_end :
    bracedAt? ['}', '{'] (-1) = some ([], 1) ∧
      ∀ k, 0 < k → depthFrom '{' '}' {} ((Text.slice ['}', '{'] (-1) 2).take k) ≠ 0 := by
  refine ⟨rfl, ?_⟩
  intro k hk
  obtain ⟨k, rfl⟩ := Nat.exists_eq_add_of_lt hk
  have hslice : Text.slice ['}', '{'] (-1) 2 = ['{'] := rfl
  rw [hslice, Nat.zero_add, List.take_succ_cons, List.take_nil]
  decide

end ProblemLint
