import BtPlatform.Gatt.Filter.Matches

/-!
# Letters and masks

Bytes that a filter takes for the same although they differ: `toupper` maps the two cases of a
letter to one, and they differ in one bit, which a mask may leave out.
-/

namespace Gatt.ScanFilter

/-- A letter of either case. -/
def IsLetter (ch : UInt8) : Prop := 65 ≤ ch ∧ ch ≤ 90 ∨ 97 ≤ ch ∧ ch ≤ 122

variable {x : UInt8}

theorem and_caseBit (h : x &&& 0x20 ≠ 0) : x &&& 0x20 = 0x20 := by
  have hall : ∀ y : BitVec 8, y &&& 0x20 ≠ 0 → y &&& 0x20 = 0x20 := by decide
  refine UInt8.toBitVec_inj.1 (hall x.toBitVec fun hzero => h ?_)
  exact UInt8.toBitVec_inj.1 hzero

theorem and_xor (a b c : UInt8) : a &&& (b ^^^ c) = (a &&& b) ^^^ (a &&& c) := by
  apply UInt8.toBitVec_inj.1
  ext i hi
  simp [Bool.and_xor_distrib_left]

/-- The two cases of a letter differ in one bit. -/
theorem toupper_eq (x : UInt8) : toupper x = if 97 ≤ x ∧ x ≤ 122 then x ^^^ 0x20 else x := by
  have hall : ∀ y : BitVec 8, 97 ≤ y ∧ y ≤ 122 → y - 32 = y ^^^ 0x20 := by decide
  unfold toupper
  split
  · next hlower => exact UInt8.toBitVec_inj.1 (hall x.toBitVec hlower)
  · rfl

theorem lower_spec (h : 97 ≤ x ∧ x ≤ 122) :
    IsLetter (x ^^^ 0x20) ∧ ¬(97 ≤ x ^^^ 0x20 ∧ x ^^^ 0x20 ≤ 122) ∧ x &&& 0x20 ≠ 0 := by
  have hall : ∀ y : BitVec 8, 97 ≤ y ∧ y ≤ 122 →
      (65 ≤ y ^^^ 0x20 ∧ y ^^^ 0x20 ≤ 90 ∨ 97 ≤ y ^^^ 0x20 ∧ y ^^^ 0x20 ≤ 122) ∧
        ¬(97 ≤ y ^^^ 0x20 ∧ y ^^^ 0x20 ≤ 122) ∧ y &&& 0x20 ≠ 0 := by decide
  obtain ⟨hletter, hupper, hbit⟩ := hall x.toBitVec h
  exact ⟨hletter, hupper, fun hzero => hbit (UInt8.toBitVec_inj.2 hzero)⟩

theorem upper_spec (h : 65 ≤ x ∧ x ≤ 90) : 97 ≤ x ^^^ 0x20 ∧ x ^^^ 0x20 ≤ 122 := by
  have hall : ∀ y : BitVec 8, 65 ≤ y ∧ y ≤ 90 → 97 ≤ y ^^^ 0x20 ∧ y ^^^ 0x20 ≤ 122 := by decide
  exact hall x.toBitVec h

theorem xor_caseBit_ne : x ^^^ 0x20 ≠ x := by
  have hall : ∀ y : BitVec 8, y ^^^ 0x20 ≠ y := by decide
  exact fun heq => hall x.toBitVec (UInt8.toBitVec_inj.2 heq)

theorem xor_caseBit_caseBit (x : UInt8) : x ^^^ 0x20 ^^^ 0x20 = x := by
  rw [UInt8.xor_assoc, UInt8.xor_self, UInt8.xor_zero]

theorem toupper_flip (h : IsLetter x) : toupper (x ^^^ 0x20) = toupper x := by
  rw [toupper_eq, toupper_eq]
  rcases h with hupper | hlower
  · have hnot : ¬(97 ≤ x ∧ x ≤ 122) := fun hlower =>
      absurd (UInt8.le_trans hlower.1 hupper.2) (by decide)
    rw [if_pos (upper_spec hupper), if_neg hnot, xor_caseBit_caseBit]
  · rw [if_neg (lower_spec hlower).2.1, if_pos hlower]

/-- Different bytes that are the same but for their case. -/
theorem letter_of_toupper_eq {a b : UInt8} (heq : toupper a = toupper b) (hne : a ≠ b) :
    IsLetter b ∧ (a &&& 0x20 ≠ 0 ∨ b &&& 0x20 ≠ 0) := by
  rw [toupper_eq, toupper_eq] at heq
  by_cases ha : 97 ≤ a ∧ a ≤ 122
  · obtain ⟨hletter, -, hbit⟩ := lower_spec ha
    by_cases hb : 97 ≤ b ∧ b ≤ 122
    · exact ⟨.inr hb, .inl hbit⟩
    · rw [if_pos ha, if_neg hb] at heq
      rw [← heq]
      exact ⟨hletter, .inl hbit⟩
  · by_cases hb : 97 ≤ b ∧ b ≤ 122
    · exact ⟨.inr hb, .inr (lower_spec hb).2.2⟩
    · rw [if_neg ha, if_neg hb] at heq
      exact absurd heq hne

theorem caseBit_of_and {m p : UInt8} (h : (m &&& p) &&& 0x20 ≠ 0) : m &&& 0x20 ≠ 0 := by
  intro hzero
  apply h
  rw [UInt8.and_assoc, UInt8.and_comm p, ← UInt8.and_assoc, hzero, UInt8.zero_and]

/-- Under a mask, bytes that are the same but for their case are the same exactly if the filter's
byte is no letter, or the mask leaves its case out. -/
theorem caseless_iff (m d : UInt8) :
    (∀ p, toupper (m &&& p) = toupper (m &&& d) → m &&& p = m &&& d) ↔
      ¬(m &&& 0x20 ≠ 0 ∧ IsLetter (m &&& d)) := by
  constructor
  · rintro h ⟨hbit, hletter⟩
    have hflip : m &&& (d ^^^ 0x20) = (m &&& d) ^^^ 0x20 := by
      rw [and_xor, and_caseBit hbit]
    have := h (d ^^^ 0x20)
    rw [hflip] at this
    exact xor_caseBit_ne (this (toupper_flip hletter))
  · intro h p heq
    by_contra hne
    obtain ⟨hletter, hbit⟩ := letter_of_toupper_eq heq hne
    exact h ⟨hbit.elim caseBit_of_and caseBit_of_and, hletter⟩
end Gatt.ScanFilter
