import ProblemLint.Proofs.Lines
import ProblemLint.Text.Utf8

/-! Reading back what was written. The bytes of a character begin with one that announces how many follow, and these
lie within the bounds that it sets; so decoding finds the characters again, one after the other, and a file that a
text was written to reads as that text. -/

namespace ProblemLint

namespace Utf8

theorem toNat_toUInt8 {n : Nat} (h : n < 256) : n.toUInt8.toNat = n := by
  simpa using Nat.mod_eq_of_lt h

/-! ### First bytes -/

theorem lead?_one {n : Nat} (h : n < 0x80) : lead? n.toUInt8 = some { following := 0, bits := n } := by
  simp [lead?, toNat_toUInt8 (show n < 256 by omega), h]

theorem lead?_two {k : Nat} (h : 2 ≤ k) (h' : k < 32) :
    lead? (0xC0 + k).toUInt8 = some { following := 1, bits := k } := by
  interval_cases k <;> rfl

theorem lead?_three {k : Nat} (h : k < 16) :
    lead? (0xE0 + k).toUInt8 = some
      { following := 2, least := if k = 0 then 0xA0 else 0x80, greatest := if k = 13 then 0x9F else 0xBF, bits := k } := by
  interval_cases k <;> rfl

theorem lead?_four {k : Nat} (h : k ≤ 4) :
    lead? (0xF0 + k).toUInt8 = some
      { following := 3, least := if k = 0 then 0x90 else 0x80, greatest := if k = 4 then 0x8F else 0xBF, bits := k } := by
  interval_cases k <;> rfl

/-! ### Characters -/

/-- A byte within the bounds gives the next six bits. -/
theorem follow_cons {k v bits m : Nat} {least greatest : UInt8} {r : Bytes} (hv : v < 64)
    (hleast : least.toNat ≤ 0x80 + v) (hgreatest : 0x80 + v ≤ greatest.toNat)
    (hrest : follow k 0x80 0xBF (bits * 64 + v) r = .ok m) :
    follow (k + 1) least greatest bits ((0x80 + v).toUInt8 :: r) = .ok m := by
  have hbyte : (0x80 + v).toUInt8.toNat = 0x80 + v := toNat_toUInt8 (by omega)
  have hbounds : (least ≤ (0x80 + v).toUInt8 && (0x80 + v).toUInt8 ≤ greatest) = true := by
    simp only [Bool.and_eq_true, decide_eq_true_eq, UInt8.le_iff_toNat_le, hbyte]
    exact ⟨hleast, hgreatest⟩
  rw [follow, if_pos hbounds, hbyte, Nat.add_sub_cancel_left, hrest]
  rfl

theorem step_of_lead {b : UInt8} {l : Lead} {r : Bytes} {c : Char} (hl : lead? b = some l)
    (hfollow : follow l.following l.least l.greatest l.bits r = .ok c.toNat) : step b r = .ok (c, l.following) := by
  rw [step, hl]
  simp only [hfollow]
  exact congrArg (fun d => Except.ok (d, l.following)) (Char.ofNat_toNat c)

/-- The bytes of a character, whatever follows them, are read as the character. -/
theorem step_encodeChar (c : Char) :
    ∃ b bs, encodeChar c = b :: bs ∧ ∀ r, step b (bs ++ r) = .ok (c, bs.length) := by
  have hvalid : c.toNat < 0xD800 ∨ (0xDFFF < c.toNat ∧ c.toNat < 0x110000) := c.valid
  -- a byte that is not the second one may be any that continues a character
  have hlast (n : Nat) : (0x80 : UInt8).toNat ≤ 0x80 + n % 64 ∧ 0x80 + n % 64 ≤ (0xBF : UInt8).toNat := by
    simp only [UInt8.reduceToNat]
    omega
  unfold encodeChar
  generalize hn : c.toNat = n at hvalid
  simp only
  split_ifs with h1 h2 h3
  · refine ⟨_, _, rfl, fun r => step_of_lead (lead?_one h1) ?_⟩
    rw [hn]
    rfl
  · refine ⟨_, _, rfl, fun r => step_of_lead (lead?_two (by omega) (by omega)) ?_⟩
    refine follow_cons (by omega) (hlast _).1 (hlast _).2 ?_
    rw [hn, follow]
    congr 1
    dsimp only
    omega
  · refine ⟨_, _, rfl, fun r => step_of_lead (lead?_three (by omega)) ?_⟩
    refine follow_cons (by omega) ?_ ?_ (follow_cons (by omega) (hlast _).1 (hlast _).2 ?_)
    · dsimp only
      split_ifs <;> simp only [UInt8.reduceToNat] <;> omega
    · dsimp only
      split_ifs <;> simp only [UInt8.reduceToNat] <;> omega
    · rw [hn, follow]
      congr 1
      dsimp only
      omega
  · refine ⟨_, _, rfl, fun r => step_of_lead (lead?_four (by omega)) ?_⟩
    refine follow_cons (by omega) ?_ ?_
      (follow_cons (by omega) (hlast _).1 (hlast _).2 (follow_cons (by omega) (hlast _).1 (hlast _).2 ?_))
    · dsimp only
      split_ifs <;> simp only [UInt8.reduceToNat] <;> omega
    · dsimp only
      split_ifs <;> simp only [UInt8.reduceToNat] <;> omega
    · rw [hn, follow]
      congr 1
      dsimp only
      omega

/-! ### Texts -/

theorem pieces_encode (position : Nat) (t : Text) : pieces position (encode t) = t.map .ok := by
  induction t generalizing position with
  | nil => rw [encode, List.flatMap_nil, pieces, List.map_nil]
  | cons c t ih =>
    obtain ⟨b, bs, hbytes, hstep⟩ := step_encodeChar c
    have hcons : encode (c :: t) = b :: (bs ++ encode t) := by
      rw [encode, List.flatMap_cons, hbytes]
      rfl
    rw [hcons, pieces, hstep]
    simp only [List.drop_left, ih, List.map_cons]

theorem decode_encode (t : Text) : decode (encode t) = .ok t := by
  rw [decode, pieces_encode]
  induction t with
  | nil => rfl
  | cons c t ih =>
    rw [List.map_cons, List.mapM_cons, ih]
    rfl

theorem encode_injective : Function.Injective encode := by
  intro s t h
  have hs := decode_encode s
  rw [h, decode_encode] at hs
  exact (Except.ok.inj hs).symm

end Utf8

theorem Text.universalNewlines_of_not_mem {t : Text} (h : '\r' ∉ t) : universalNewlines t = t := by
  induction t with
  | nil => rfl
  | cons c r ih =>
    rw [List.mem_cons, not_or] at h
    have hc : (c == '\r') = false := by simpa using fun hc => h.1 hc.symm
    rw [universalNewlines.eq_3 c r fun r' hc' _ => h.1 hc'.symm, hc, ih h.2]
    rfl

theorem Text.return_not_mem_universalNewlines (t : Text) : '\r' ∉ universalNewlines t := by
  fun_induction universalNewlines t with
  | case1 => simp
  | case2 r ih => simpa using ih
  | case3 c r _ ih =>
    rw [List.mem_cons, not_or]
    refine ⟨?_, ih⟩
    split
    · decide
    · next hc => exact fun heq => hc (by simp [← heq])

/-- A text without carriage returns is read as it was written. -/
theorem Utf8.readText_encode {t : Text} (h : '\r' ∉ t) : readText (encode t) = .ok t := by
  rw [readText, decode_encode]
  exact congrArg Except.ok (Text.universalNewlines_of_not_mem h)

theorem Utf8.return_not_mem_of_readText {bs : Bytes} {t : Text} (h : readText bs = .ok t) : '\r' ∉ t := by
  rw [readText] at h
  cases hdecode : decode bs with
  | error f =>
    rw [hdecode] at h
    cases h
  | ok u =>
    rw [hdecode] at h
    cases h
    exact Text.return_not_mem_universalNewlines u

end ProblemLint
