import ProblemLint.Proofs.Occurrences
import ProblemLint.Source.Variable
import ProblemLint.Text.Letter
import ProblemLint.Text.Lines

/-! Names in a text. A name is read to the last character that can belong to it, and such characters are neither blank
nor a sign of anything else. -/

namespace ProblemLint

namespace Text

theorem toNat_of_isNameChar {c : Char} (h : isNameChar c = true) :
    (97 ≤ c.toNat ∧ c.toNat ≤ 122) ∨ (65 ≤ c.toNat ∧ c.toNat ≤ 90) ∨ (48 ≤ c.toNat ∧ c.toNat ≤ 57) ∨
      c.toNat = 95 := by
  simp only [isNameChar, isAsciiLetter, isAsciiDigit, Bool.or_eq_true, Bool.and_eq_true, decide_eq_true_eq,
    beq_iff_eq] at h
  have hrange (a b : Char) (hab : a ≤ c ∧ c ≤ b) : a.toNat ≤ c.toNat ∧ c.toNat ≤ b.toNat := hab
  rcases h with ((h | h) | h) | rfl
  · exact .inl (hrange 'a' 'z' h)
  · exact .inr (.inl (hrange 'A' 'Z' h))
  · exact .inr (.inr (.inl (hrange '0' '9' h)))
  · exact .inr (.inr (.inr rfl))

theorem not_isBlank_of_isNameChar {c : Char} (h : isNameChar c = true) : isBlank c = false := by
  have hcode := toNat_of_isNameChar h
  rw [isBlank, if_pos (by omega)]
  simp
  omega

theorem not_isLineBreak_of_isNameChar {c : Char} (h : isNameChar c = true) : isLineBreak c = false := by
  have hcode := toNat_of_isNameChar h
  simp [isLineBreak]
  omega

theorem isWord_of_isNameChar {c : Char} (h : isNameChar c = true) : isWord c = true := by
  have hcode := toNat_of_isNameChar h
  rw [isWord, isLetterOrNumeral, if_pos (by omega)]
  exact h

/-- White space beyond the code points below 128. -/
def wideBlanks : List Nat :=
  [ 0x85, 0xA0, 0x1680, 0x2000, 0x2001, 0x2002, 0x2003, 0x2004, 0x2005, 0x2006, 0x2007, 0x2008, 0x2009, 0x200A, 0x2028
  , 0x2029, 0x202F, 0x205F, 0x3000 ]

theorem wideBlanks_not_isWord : (wideBlanks.all fun n => !isWord (Char.ofNat n)) = true := by decide +kernel

theorem not_isWord_of_isBlank {c : Char} (h : isBlank c = true) : isWord c = false := by
  by_cases hlow : c.toNat < 128
  · cases hword : isWord c with
    | false => rfl
    | true =>
      -- below 128, the characters of words are those of names
      have hname : isNameChar c = true := by
        rwa [isWord, isLetterOrNumeral, if_pos hlow] at hword
      rw [not_isBlank_of_isNameChar hname] at h
      cases h
  · have hwide : c.toNat ∈ wideBlanks := by
      rw [isBlank, if_neg hlow] at h
      simp only [Bool.or_eq_true, Bool.and_eq_true, beq_iff_eq, decide_eq_true_eq] at h
      simp only [wideBlanks, List.mem_cons, List.not_mem_nil, or_false]
      omega
    have hnot := List.all_eq_true.1 wideBlanks_not_isWord c.toNat hwide
    rwa [Char.ofNat_toNat, Bool.not_eq_eq_eq_not, Bool.not_true] at hnot

theorem isNameChar_of_isBlank {c : Char} (h : isBlank c = true) : isNameChar c = false := by
  cases hname : isNameChar c with
  | false => rfl
  | true =>
    rw [not_isBlank_of_isNameChar hname] at h
    cases h

theorem head?_append_plain {s u : Text} (hs : ∀ c ∈ s, isNameChar c = false) (hu : u.head?.any isNameChar = false) :
    (s ++ u).head?.any isNameChar = false := by
  cases s with
  | nil => exact hu
  | cons c s => simpa using hs c List.mem_cons_self

theorem isNameChar_of_isNameStart {c : Char} (h : isNameStart c = true) : isNameChar c = true := by
  rw [isNameStart, Bool.or_eq_true] at h
  rcases h with h | h <;> simp [isNameChar, h]

theorem isLetter_of_isNameStart {c : Char} (h : isNameStart c = true) : (isLetter c || c == '_') = true := by
  have hcode := toNat_of_isNameChar (isNameChar_of_isNameStart h)
  rw [isLetter, if_pos (by omega)]
  exact h

/-- Nothing that must not follow a character of names starts in such characters or right behind them. -/
theorem not_in_name {t : Text} {p q n : Nat} (hname : ∀ c ∈ (t.drop q).take n, isNameChar c = true)
    (hp : p ≤ t.length) (hbefore : (t.before? p).any isNameChar = false) (hlt : q < p) : q + n < p := by
  by_contra hle
  obtain ⟨k, rfl⟩ : ∃ k, p = k + 1 := ⟨p - 1, by omega⟩
  have hget : t[k]? = some t[k] := List.getElem?_eq_getElem (by omega)
  have hchar : isNameChar t[k] = true := hname _ (mem_take_drop hget (by omega) (by omega))
  rw [before?_succ hp, hget, Option.any_some, hchar] at hbefore
  cases hbefore

end Text

/-! ### Names behind dollar signs -/

namespace Variable

/-- A name as it is written: it does not start with a digit. -/
structure IsName (n : Text) : Prop where
  start : n.head?.any Text.isNameStart = true
  chars : ∀ c ∈ n, Text.isNameChar c = true

theorem IsName.not_mem {n : Text} (h : IsName n) {c : Char} (hc : Text.isNameChar c = false) : c ∉ n := by
  intro hmem
  rw [h.chars c hmem] at hc
  cases hc

theorem name?_eq_some_iff {t n r : Text} :
    name? t = some (n, r) ↔ t = n ++ r ∧ IsName n ∧ r.head?.any Text.isNameChar = false := by
  cases t with
  | nil =>
    constructor
    · intro h
      cases h
    · rintro ⟨hnil, hn, -⟩
      rw [(List.append_eq_nil_iff.1 hnil.symm).1] at hn
      cases hn.start
  | cons c t =>
    constructor
    · intro h
      rw [name?] at h
      split at h
      · next hc =>
        cases h
        refine ⟨by rw [List.cons_append, List.takeWhile_append_dropWhile], ⟨hc, ?_⟩, ?_⟩
        · intro x hx
          rcases List.mem_cons.1 hx with rfl | hx
          · exact Text.isNameChar_of_isNameStart hc
          · exact List.mem_takeWhile_imp hx
        · exact head?_dropWhile_any _ _
      · cases h
    · rintro ⟨ht, hn, hr⟩
      cases n with
      | nil => cases hn.start
      | cons d n =>
        rw [List.cons_append, List.cons.injEq] at ht
        obtain ⟨rfl, rfl⟩ := ht
        have hstart : Text.isNameStart c = true := hn.start
        have hchars := (List.forall_mem_cons.1 hn.chars).2
        rw [name?, if_pos hstart, takeWhile_append_stop hchars hr, dropWhile_append_stop hchars hr]

theorem dollarNameAt?_eq_some_iff {before : Option Char} {t n : Text} {k : Nat} :
    dollarNameAt? before t = some (n, k) ↔
      ∃ r, t = '$' :: (n ++ r) ∧ IsName n ∧ r.head?.any Text.isNameChar = false ∧ k = n.length + 1 := by
  have htaken (r : Text) : taken ('$' :: (n ++ r)) r = n.length + 1 := by
    rw [taken, List.length_cons, List.length_append]
    omega
  constructor
  · intro h
    obtain ⟨u, hafter, h⟩ := Option.bind_eq_some_iff.1 h
    obtain rfl : '$' :: u = t := List.append_eq_of_isPrefixOf?_eq_some hafter
    obtain ⟨⟨m, r⟩, hname, h⟩ := Option.bind_eq_some_iff.1 h
    obtain ⟨rfl, hm, hr⟩ := name?_eq_some_iff.1 hname
    rw [Option.some_inj, Prod.mk.injEq] at h
    obtain ⟨rfl, rfl⟩ := h
    exact ⟨r, rfl, hm, hr, htaken r⟩
  · rintro ⟨r, rfl, hn, hr, rfl⟩
    have hafter : Text.after? ['$'] ('$' :: (n ++ r)) = some (n ++ r) := rfl
    rw [dollarNameAt?, hafter, ← htaken r]
    show (name? (n ++ r)).bind _ = _
    rw [name?_eq_some_iff.2 ⟨rfl, hn, hr⟩]
    rfl

/-- A name stands behind a dollar sign of a text, and the text does not go on with it. -/
def UsedIn (n t : Text) : Prop :=
  ∃ a r, t = a ++ '$' :: (n ++ r) ∧ IsName n ∧ r.head?.any Text.isNameChar = false

/-- The names that are listed are those that are used. -/
theorem mem_dollarNames_iff {t n : Text} : n ∈ dollarNames t ↔ UsedIn n t := by
  rw [dollarNames, List.mem_map]
  constructor
  · rintro ⟨x, hx, rfl⟩
    obtain ⟨k, -, hfound⟩ := foundAt_of_mem_occurrences hx
    obtain ⟨r, hdrop, hn, hr, -⟩ := dollarNameAt?_eq_some_iff.1 hfound
    refine ⟨t.take x.1, r, ?_, hn, hr⟩
    rw [← hdrop, List.take_append_drop]
  · rintro ⟨a, r, rfl, hn, hr⟩
    have hfound : FoundAt dollarNameAt? (a ++ '$' :: (n ++ r)) a.length n (n.length + 1) :=
      foundAt_here.2 (dollarNameAt?_eq_some_iff.2 ⟨r, rfl, hn, hr, rfl⟩)
    rcases mem_occurrences_or_covered hfound with hmem | ⟨x, -, k, ⟨-, hcovers⟩, hlt, hlt'⟩
    · exact ⟨_, hmem, rfl⟩
    · -- a name has no dollar sign in it, so that none covers the place
      obtain ⟨r', hdrop, hx, -, rfl⟩ := dollarNameAt?_eq_some_iff.1 hcovers
      obtain ⟨i, hi⟩ : ∃ i, a.length = x.1 + (i + 1) := Nat.exists_eq_add_of_lt hlt
      have hdollar : ((a ++ '$' :: (n ++ r)).drop x.1)[i + 1]? = some '$' := by
        rw [List.getElem?_drop, ← hi, List.getElem?_append_right le_rfl, Nat.sub_self]
        rfl
      rw [hdrop, List.getElem?_cons_succ, List.getElem?_append_left (by omega)] at hdollar
      exact absurd (hx.chars _ (List.mem_of_getElem? hdollar)) (by decide)

end Variable
end ProblemLint
