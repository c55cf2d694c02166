import Mathlib.Tactic.Common

/-!
# Prefix codecs and their sequences

A prefix codec writes a value as a non-empty string of symbols and reads one
value back from the front of any string that starts with such an encoding.
Because no encoding is empty, reading values until the string is exhausted
terminates, and the sequence reader is exact: it succeeds precisely on
concatenations of encodings, and then returns the encoded values in order.
-/

namespace Format

open List

variable {β α : Type*}

/-- An encoder and a front-of-string decoder that invert each other. -/
structure Codec (β α : Type*) where
  encode : α → List β
  decode : List β → Option (α × List β)
  encode_ne_nil : ∀ a, encode a ≠ []
  decode_encode_append : ∀ a rest, decode (encode a ++ rest) = some (a, rest)
  eq_append_of_decode : ∀ {bs a rest}, decode bs = some (a, rest) → bs = encode a ++ rest

namespace Codec

variable (c : Codec β α)

theorem encode_length_pos (a : α) : 0 < (c.encode a).length :=
  length_pos_iff.mpr (c.encode_ne_nil a)

@[simp] theorem decode_encode (a : α) : c.decode (c.encode a) = some (a, []) := by
  simpa using c.decode_encode_append a []

/-- The empty string carries no value. -/
@[simp] theorem decode_nil : c.decode [] = none := by
  cases h : c.decode [] with
  | none => rfl
  | some p =>
      have hnil := c.eq_append_of_decode h
      simp [c.encode_ne_nil] at hnil

/-- The encodings of a sequence of values, one after the other. -/
def encodeAll (as : List α) : List β := as.flatMap c.encode

@[simp] theorem encodeAll_nil : c.encodeAll [] = [] := rfl

@[simp] theorem encodeAll_cons (a : α) (as : List α) :
    c.encodeAll (a :: as) = c.encode a ++ c.encodeAll as := by
  simp [encodeAll]

@[simp] theorem encodeAll_append (as bs : List α) :
    c.encodeAll (as ++ bs) = c.encodeAll as ++ c.encodeAll bs := by
  simp [encodeAll]

theorem encodeAll_replicate (n : Nat) (a : α) :
    c.encodeAll (replicate n a) = (replicate n (c.encode a)).flatten := by
  rw [encodeAll, flatMap_def, map_replicate]

theorem length_le_encodeAll_length (as : List α) : as.length ≤ (c.encodeAll as).length := by
  induction as with
  | nil => simp
  | cons a as ih =>
      have := c.encode_length_pos a
      simp only [encodeAll_cons, length_append, length_cons]
      omega

/-- A string is the encoding of at most one sequence. -/
theorem encodeAll_injective {as bs : List α} (h : c.encodeAll as = c.encodeAll bs) :
    as = bs := by
  induction as generalizing bs with
  | nil =>
      cases bs with
      | nil => rfl
      | cons b bs => simp [c.encode_ne_nil] at h
  | cons a as ih =>
      cases bs with
      | nil => simp [c.encode_ne_nil] at h
      | cons b bs =>
          rw [encodeAll_cons, encodeAll_cons] at h
          have hdec := congrArg c.decode h
          rw [decode_encode_append, decode_encode_append] at hdec
          obtain ⟨rfl, htail⟩ : a = b ∧ c.encodeAll as = c.encodeAll bs := by
            simpa using hdec
          rw [ih htail]

/-- A string has one longest sequence of encodings at its front. -/
theorem encodeAll_append_injective {as bs : List α} {rest rest' : List β}
    (h : c.encodeAll as ++ rest = c.encodeAll bs ++ rest') (hrest : c.decode rest = none)
    (hrest' : c.decode rest' = none) : as = bs := by
  induction as generalizing bs with
  | nil =>
      cases bs with
      | nil => rfl
      | cons b bs =>
          rw [encodeAll_nil, nil_append, encodeAll_cons, append_assoc] at h
          rw [h, decode_encode_append] at hrest
          cases hrest
  | cons a as ih =>
      rw [encodeAll_cons, append_assoc] at h
      have hdec := congrArg c.decode h
      rw [decode_encode_append] at hdec
      cases bs with
      | nil =>
          rw [encodeAll_nil, nil_append, hrest'] at hdec
          cases hdec
      | cons b bs =>
          rw [encodeAll_cons, append_assoc, decode_encode_append] at hdec
          obtain ⟨rfl, htail⟩ : a = b ∧
              c.encodeAll as ++ rest = c.encodeAll bs ++ rest' := by simpa using hdec
          rw [ih htail]

/-- A non-empty string that starts with no encoding is no sequence of encodings. -/
theorem ne_encodeAll_of_decode_none {bs : List β} (hne : bs ≠ []) (h : c.decode bs = none)
    (as : List α) : bs ≠ c.encodeAll as := by
  rintro rfl
  cases as with
  | nil => exact hne rfl
  | cons a as => simp [decode_encode_append] at h

/-- Past its first value, a sequence of encodings continues with one. -/
theorem eq_encodeAll_iff_of_decode {bs rest : List β} {a : α}
    (h : c.decode bs = some (a, rest)) (as : List α) :
    bs = c.encodeAll as ↔ ∃ tail, as = a :: tail ∧ rest = c.encodeAll tail := by
  rw [c.eq_append_of_decode h]
  constructor
  · intro heq
    cases as with
    | nil => simp [c.encode_ne_nil] at heq
    | cons b tail =>
        rw [encodeAll_cons] at heq
        have hdec := congrArg c.decode heq
        rw [decode_encode_append, decode_encode_append] at hdec
        obtain ⟨rfl, hrest⟩ : a = b ∧ rest = c.encodeAll tail := by simpa using hdec
        exact ⟨tail, rfl, hrest⟩
  · rintro ⟨tail, rfl, rfl⟩
    exact (c.encodeAll_cons a tail).symm

end Codec

/-! ## Big-endian integers -/

/-- The two bytes of the low sixteen bits of `n`, most significant first. -/
def bigEndian16 (n : Nat) : List UInt8 := [UInt8.ofNat (n / 256), UInt8.ofNat n]

/-- The value of two bytes, most significant first. -/
def ofBigEndian16 (hi lo : UInt8) : Nat := hi.toNat * 256 + lo.toNat

@[simp] theorem bigEndian16_length (n : Nat) : (bigEndian16 n).length = 2 := rfl

theorem ofBigEndian16_lt (hi lo : UInt8) : ofBigEndian16 hi lo < 65536 := by
  have := hi.toNat_lt
  have := lo.toNat_lt
  unfold ofBigEndian16
  omega

/-- Writing keeps the low sixteen bits. -/
theorem ofBigEndian16_ofNat (n : Nat) :
    ofBigEndian16 (UInt8.ofNat (n / 256)) (UInt8.ofNat n) = n % 65536 := by
  simp only [ofBigEndian16, UInt8.toNat_ofNat']
  omega

theorem bigEndian16_mod (n : Nat) : bigEndian16 (n % 65536) = bigEndian16 n := by
  simp only [bigEndian16, cons.injEq, and_true]
  constructor <;>
    · apply UInt8.toNat_inj.mp
      rw [UInt8.toNat_ofNat', UInt8.toNat_ofNat']
      omega

theorem bigEndian16_ofBigEndian16 (hi lo : UInt8) :
    bigEndian16 (ofBigEndian16 hi lo) = [hi, lo] := by
  have hhi := hi.toNat_lt
  have hlo := lo.toNat_lt
  have h1 : (hi.toNat * 256 + lo.toNat) / 256 = hi.toNat := by omega
  have h2 : UInt8.ofNat (hi.toNat * 256 + lo.toNat) = lo := by
    apply UInt8.toNat_inj.mp
    rw [UInt8.toNat_ofNat']
    omega
  simp only [bigEndian16, ofBigEndian16, h1, h2, UInt8.ofNat_toNat]

/-- The four bytes of the low thirty-two bits of `n`, most significant first. -/
def bigEndian32 (n : Nat) : List UInt8 := bigEndian16 (n / 65536) ++ bigEndian16 n

/-- The value of four bytes, most significant first. -/
def ofBigEndian32 (b3 b2 b1 b0 : UInt8) : Nat :=
  ofBigEndian16 b3 b2 * 65536 + ofBigEndian16 b1 b0

@[simp] theorem bigEndian32_length (n : Nat) : (bigEndian32 n).length = 4 := rfl

theorem ofBigEndian32_lt (b3 b2 b1 b0 : UInt8) : ofBigEndian32 b3 b2 b1 b0 < 4294967296 := by
  have := ofBigEndian16_lt b3 b2
  have := ofBigEndian16_lt b1 b0
  unfold ofBigEndian32
  omega

theorem bigEndian32_ofBigEndian32 (b3 b2 b1 b0 : UInt8) :
    bigEndian32 (ofBigEndian32 b3 b2 b1 b0) = [b3, b2, b1, b0] := by
  have hlow := ofBigEndian16_lt b1 b0
  have hdiv : (ofBigEndian16 b3 b2 * 65536 + ofBigEndian16 b1 b0) / 65536 =
      ofBigEndian16 b3 b2 := by omega
  have hmod : bigEndian16 (ofBigEndian16 b3 b2 * 65536 + ofBigEndian16 b1 b0) = [b1, b0] := by
    rw [← bigEndian16_mod, Nat.mul_add_mod_self_right, bigEndian16_mod,
      bigEndian16_ofBigEndian16]
  rw [bigEndian32, ofBigEndian32, hdiv, hmod, bigEndian16_ofBigEndian16]
  rfl

/-- Writing keeps the low thirty-two bits. -/
theorem ofBigEndian32_ofNat (n : Nat) :
    ofBigEndian32 (UInt8.ofNat (n / 65536 / 256)) (UInt8.ofNat (n / 65536))
      (UInt8.ofNat (n / 256)) (UInt8.ofNat n) = n % 4294967296 := by
  rw [ofBigEndian32, ofBigEndian16_ofNat, ofBigEndian16_ofNat]
  omega

end Format
