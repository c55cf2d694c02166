import BtPlatform.Format.Codec
import BtPlatform.Support.Status

/-!
# UUIDs

`btapp::Uuid`, sixteen bytes with the most significant one first, and its short
representations: a UUID that differs from the base UUID in its first four bytes only is
written with four bytes, and with two if two of these are zero.
-/

namespace Gatt

open Support Format List

/-- `Uuid`. -/
structure Uuid where
  uu : List UInt8
  size : uu.length = 16
  deriving DecidableEq, Repr

namespace Uuid

@[ext] theorem ext {u v : Uuid} (h : u.uu = v.uu) : u = v := by
  cases u
  cases v
  simpa using h

/-- The bytes of the base UUID that no short UUID changes. -/
def baseTail : List UInt8 := [0, 0, 0x10, 0, 0x80, 0, 0, 0x80, 0x5f, 0x9b, 0x34, 0xfb]

/-- `kEmpty`. -/
def empty : Uuid := ⟨replicate 16 0, rfl⟩

/-- `GetShortestRepresentationSize`. -/
def shortestRepresentationSize (u : Uuid) : Nat :=
  if u.uu.drop 4 ≠ baseTail then 16 else if u.uu.take 2 = [0, 0] then 2 else 4

def as16BitBE (u : Uuid) : List UInt8 := (u.uu.drop 2).take 2

def as32BitBE (u : Uuid) : List UInt8 := u.uu.take 4

def from16Bit (uuid16 : Nat) : Uuid := ⟨[0, 0] ++ bigEndian16 uuid16 ++ baseTail, rfl⟩

def from32Bit (uuid32 : Nat) : Uuid := ⟨bigEndian32 uuid32 ++ baseTail, rfl⟩

/-- `uuidToByte`: the most significant byte first. -/
def uuidToByte (u : Uuid) : List UInt8 :=
  if u.shortestRepresentationSize = 2 then u.as16BitBE
  else if u.shortestRepresentationSize = 4 then u.as32BitBE
  else u.uu

/-- `uuidFromByte` of `ScanRecord.cpp`, given as many bytes as the length says: a short
UUID is read with the least significant byte first, a long one as it is. -/
def uuidFromByte (uuidBytes : List UInt8) : Except Fault Uuid :=
  match uuidBytes with
  | [b0, b1] => .ok (from16Bit (ofBigEndian16 b1 b0))
  | [b0, b1, b2, b3] => .ok (from32Bit (ofBigEndian32 b3 b2 b1 b0))
  | bytes => if h : bytes.length = 16 then .ok ⟨bytes, h⟩ else .error .outOfBounds

theorem size_cases (u : Uuid) :
    u.shortestRepresentationSize = 2 ∨ u.shortestRepresentationSize = 4 ∨
      u.shortestRepresentationSize = 16 := by
  unfold shortestRepresentationSize
  split
  · exact .inr (.inr rfl)
  · split
    · exact .inl rfl
    · exact .inr (.inl rfl)

@[simp] theorem uuidToByte_length (u : Uuid) :
    u.uuidToByte.length = u.shortestRepresentationSize := by
  unfold uuidToByte
  obtain h | h | h := u.size_cases
  · simp [h, as16BitBE, u.size]
  · simp [h, as32BitBE, u.size]
  · simp [h, u.size]

theorem uuidToByte_ne_nil (u : Uuid) : u.uuidToByte ≠ [] := by
  intro hnil
  have hlen := u.uuidToByte_length
  rw [hnil, length_nil] at hlen
  have := u.size_cases
  omega

theorem length_le_flatMap_length (us : List Uuid) :
    us.length ≤ (us.flatMap uuidToByte).length := by
  induction us with
  | nil => exact Nat.le_refl 0
  | cons u us ih =>
      have := length_pos_iff.2 u.uuidToByte_ne_nil
      simp only [flatMap_cons, length_append, length_cons]
      omega

/-- The UUID whose short representation has its bytes in the other order. -/
def swapped (u : Uuid) : Uuid :=
  match u with
  | ⟨[u0, u1, u2, u3, _, _, _, _, _, _, _, _, _, _, _, _], _⟩ =>
      if u.shortestRepresentationSize = 2 then ⟨[0, 0, u3, u2] ++ baseTail, rfl⟩
      else if u.shortestRepresentationSize = 4 then ⟨[u3, u2, u1, u0] ++ baseTail, rfl⟩
      else u

theorem length_zero_base : ([0, 0, 0, 0] ++ baseTail).length = 16 := rfl

/-- The UUID whose representation of the same size has zero bytes only. -/
def blank (u : Uuid) : Uuid :=
  if u.shortestRepresentationSize = 16 then empty else ⟨[0, 0, 0, 0] ++ baseTail, rfl⟩

/-- A UUID comes back with its short representation swapped. -/
theorem uuidFromByte_uuidToByte (u : Uuid) : uuidFromByte u.uuidToByte = .ok u.swapped := by
  obtain ⟨uu, hsize⟩ := u
  match uu, hsize with
  | [u0, u1, u2, u3, u4, u5, u6, u7, u8, u9, u10, u11, u12, u13, u14, u15], hsize =>
      simp only [swapped, uuidToByte]
      split
      · simp only [as16BitBE, drop_succ_cons, drop_zero, take_succ_cons,
          take_zero, uuidFromByte, from16Bit, bigEndian16_ofBigEndian16]
        rfl
      · split
        · simp only [as32BitBE, take_succ_cons, take_zero, uuidFromByte, from32Bit,
            bigEndian32_ofBigEndian32]
        · rfl

/-- As many zero bytes as a UUID is written with. -/
theorem uuidFromByte_zero (u : Uuid) :
    uuidFromByte (replicate u.shortestRepresentationSize 0) = .ok u.blank := by
  unfold blank
  obtain h | h | h := u.size_cases
  · rw [h]
    rfl
  · rw [h]
    rfl
  · rw [h]
    rfl

end Uuid

end Gatt
