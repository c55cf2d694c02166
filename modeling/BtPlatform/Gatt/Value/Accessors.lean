import BtPlatform.Support.CBuffer
import Mathlib.Algebra.Group.Nat.Defs
import Mathlib.Algebra.Group.Int.Defs

/-!
# The accessors of a value

A `GattCharacteristic` reads integers, floats and strings out of its value and writes them
into it. The value is a pointer, and every function gives `none` where it reads or writes
through a pointer outside a live block, where it makes a string from a null pointer, or where a
length that is asked for is negative. An `int` is 32 bits wide, and wraps.
-/

namespace Gatt.Accessors

open Support List

def FORMAT_UINT8 : BitVec 32 := 0x11
def FORMAT_UINT16 : BitVec 32 := 0x12
def FORMAT_UINT32 : BitVec 32 := 0x14
def FORMAT_SINT8 : BitVec 32 := 0x21
def FORMAT_SINT16 : BitVec 32 := 0x22
def FORMAT_SINT32 : BitVec 32 := 0x24
def FORMAT_SFLOAT : BitVec 32 := 0x32
def FORMAT_FLOAT : BitVec 32 := 0x34

def INVALID_INT : BitVec 32 := -1

/-- `mValue`. -/
inductive Pointer
  | null
  | live (block : List UInt8)
  | freed
  deriving DecidableEq

namespace Pointer

def strlen : Pointer → Option Nat
  | .live block => Support.strlen block
  | .null | .freed => none

/-- `delete []`. -/
def delete : Pointer → Pointer
  | .null => .null
  | .live _ | .freed => .freed

/-- `new uint8_t[len]`, with what the memory holds. -/
def new (memory : Nat → UInt8) (len : BitVec 32) : Option Pointer :=
  if len.slt 0 then none else some (.live ((range len.toNat).map memory))

def read (index : Nat) : Pointer → Option UInt8
  | .live block => block[index]?
  | .null | .freed => none

def write (index : Nat) (byte : UInt8) : Pointer → Option Pointer
  | .live block => if index < block.length then some (.live (block.set index byte)) else none
  | .null | .freed => none

/-- Bytes one behind the other. -/
def store (index : Nat) : List UInt8 → Pointer → Option Pointer
  | [], p => some p
  | byte :: bytes, p => do
      let p ← p.write index byte
      store (index + 1) bytes p

end Pointer

/-- The conversion to `size_t`. -/
def toSize (n : BitVec 32) : Nat := (n.signExtend 64).toNat

/-- The lowest byte. -/
def lowByte (n : BitVec 32) : UInt8 := UInt8.ofBitVec (n.setWidth 8)

def getTypeLen (formatType : BitVec 32) : BitVec 32 := formatType &&& 0xF

def unsignedByteToInt (b : UInt8) : BitVec 32 := b.toBitVec.setWidth 32

/-- `unsignedBytesToInt` of two bytes. -/
def unsignedBytesToInt (b0 b1 : UInt8) : BitVec 32 :=
  unsignedByteToInt b0 + (unsignedByteToInt b1 <<< 8)

/-- `unsignedBytesToInt` of four bytes. -/
def unsignedBytesToInt4 (b0 b1 b2 b3 : UInt8) : BitVec 32 :=
  (unsignedByteToInt b0 + (unsignedByteToInt b1 <<< 8)) + (unsignedByteToInt b2 <<< 16) +
    (unsignedByteToInt b3 <<< 24)

def unsignedToSigned (un_signed : BitVec 32) (size : Nat) : BitVec 32 :=
  let one : BitVec 32 := 1 <<< (size - 1)
  if un_signed &&& one ≠ 0 then -1 * (one - (un_signed &&& (one - 1))) else un_signed

def intToSignedBits (i : BitVec 32) (size : Nat) : BitVec 32 :=
  let one : BitVec 32 := 1 <<< (size - 1)
  if i.slt 0 then one + (i &&& (one - 1)) else i

/-! ## Reading -/

/-- The switch of `getIntValue`. -/
def intAt (mValue : Pointer) (formatType : BitVec 32) (offset : Nat) : Option (BitVec 32) := do
  if formatType = FORMAT_UINT8 then
    let b0 ← mValue.read offset
    return unsignedByteToInt b0
  else if formatType = FORMAT_UINT16 then
    let b0 ← mValue.read offset
    let b1 ← mValue.read (offset + 1)
    return unsignedBytesToInt b0 b1
  else if formatType = FORMAT_UINT32 then
    let b0 ← mValue.read offset
    let b1 ← mValue.read (offset + 1)
    let b2 ← mValue.read (offset + 2)
    let b3 ← mValue.read (offset + 3)
    return unsignedBytesToInt4 b0 b1 b2 b3
  else if formatType = FORMAT_SINT8 then
    let b0 ← mValue.read offset
    return unsignedToSigned (unsignedByteToInt b0) 8
  else if formatType = FORMAT_SINT16 then
    let b0 ← mValue.read offset
    let b1 ← mValue.read (offset + 1)
    return unsignedToSigned (unsignedBytesToInt b0 b1) 16
  else if formatType = FORMAT_SINT32 then
    let b0 ← mValue.read offset
    let b1 ← mValue.read (offset + 1)
    let b2 ← mValue.read (offset + 2)
    let b3 ← mValue.read (offset + 3)
    return unsignedToSigned (unsignedBytesToInt4 b0 b1 b2 b3) 32
  else return INVALID_INT

def getIntValue (mValue : Pointer) (formatType offset : BitVec 32) : Option (BitVec 32) := do
  let mValueSize ← mValue.strlen
  if toSize (offset + getTypeLen formatType) > mValueSize then return INVALID_INT
  else intAt mValue formatType offset.toNat

/-- A `float`: `INVALID_FLOAT`, or `mantissa * pow(10, exponent)`. -/
inductive Decoded
  | invalid
  | number (mantissa exponent : BitVec 32)
  deriving DecidableEq

/-- `bytesToFloat` of two bytes. -/
def bytesToFloat (b0 b1 : UInt8) : Decoded :=
  .number
    (unsignedToSigned (unsignedByteToInt b0 + ((unsignedByteToInt b1 &&& 0x0F) <<< 8)) 12)
    (unsignedToSigned (unsignedByteToInt b1 >>> 4) 4)

/-- `bytesToFloat` of four bytes; the exponent is the last byte as it is. -/
def bytesToFloat4 (b0 b1 b2 b3 : UInt8) : Decoded :=
  .number
    (unsignedToSigned (unsignedByteToInt b0 + (unsignedByteToInt b1 <<< 8) +
      (unsignedByteToInt b2 <<< 16)) 24)
    (unsignedByteToInt b3)

/-- The switch of `getFloatValue`. -/
def floatAt (mValue : Pointer) (formatType : BitVec 32) (offset : Nat) : Option Decoded := do
  if formatType = FORMAT_SFLOAT then
    let b0 ← mValue.read offset
    let b1 ← mValue.read (offset + 1)
    return bytesToFloat b0 b1
  else if formatType = FORMAT_FLOAT then
    let b0 ← mValue.read offset
    let b1 ← mValue.read (offset + 1)
    let b2 ← mValue.read (offset + 2)
    let b3 ← mValue.read (offset + 3)
    return bytesToFloat4 b0 b1 b2 b3
  else return .invalid

def getFloatValue (mValue : Pointer) (formatType offset : BitVec 32) : Option Decoded := do
  let mValueSize ← mValue.strlen
  if toSize (offset + getTypeLen formatType) > mValueSize then return .invalid
  else floatAt mValue formatType offset.toNat

/-- `getStringValue`: the string is made from `mValueSize` bytes of an array that has the bytes
from the offset on. The counter of the copying loop is an `int`. -/
def getStringValue (mValue : Pointer) (offset : BitVec 32) : Option (List UInt8) := do
  let mValueSize ← mValue.strlen
  if toSize offset > mValueSize ∨ 2 ^ 31 ≤ mValueSize - offset.toNat then none
  else
    let strBytes ← (range (mValueSize - offset.toNat)).mapM fun i =>
      mValue.read (offset.toNat + i)
    memcpy strBytes mValueSize

/-! ## Writing -/

/-- What `setValue` writes for an integer, if the format is one of integers. -/
def intBytes (value formatType : BitVec 32) : Option (List UInt8) :=
  let one := fun value : BitVec 32 => [lowByte value]
  let two := fun value : BitVec 32 => [lowByte value, lowByte (value.sshiftRight 8)]
  let four := fun value : BitVec 32 =>
    [lowByte value, lowByte (value.sshiftRight 8), lowByte (value.sshiftRight 16),
      lowByte (value.sshiftRight 24)]
  if formatType = FORMAT_SINT8 then some (one (intToSignedBits value 8))
  else if formatType = FORMAT_UINT8 then some (one value)
  else if formatType = FORMAT_SINT16 then some (two (intToSignedBits value 16))
  else if formatType = FORMAT_UINT16 then some (two value)
  else if formatType = FORMAT_SINT32 then some (four (intToSignedBits value 32))
  else if formatType = FORMAT_UINT32 then some (four value)
  else none

/-- The block that `setValue` of a number writes to, with its length and size: the old block is
deleted, and a new one is made only if there was none. -/
def prepare (mValue : Pointer) (memory : Nat → UInt8) (len : BitVec 32) :
    Option (Pointer × Nat) := do
  let mValue := if mValue ≠ .null then mValue.delete else mValue
  let mValue ← if mValue = .null then Pointer.new memory len else some mValue
  let mValueSize ← mValue.strlen
  return (mValue, mValueSize)

/-- `setValue(value, formatType, offset)`. -/
def setIntValue (mValue : Pointer) (memory : Nat → UInt8) (value formatType offset : BitVec 32) :
    Option (Bool × Pointer) := do
  let len := offset + getTypeLen formatType
  let (mValue, mValueSize) ← prepare mValue memory len
  if toSize len > mValueSize then return (false, mValue)
  match intBytes value formatType with
  | none => return (false, mValue)
  | some bytes => return (true, ← mValue.store offset.toNat bytes)

/-- `setValue(mantissa, exponent, formatType, offset)`. The exponent is added to what stands in
its byte: the high half of the mantissa, or an old byte. -/
def setFloatValue (mValue : Pointer) (memory : Nat → UInt8)
    (mantissa exponent formatType offset : BitVec 32) : Option (Bool × Pointer) := do
  let len := offset + getTypeLen formatType
  let (mValue, mValueSize) ← prepare mValue memory len
  if toSize len > mValueSize then return (false, mValue)
  if formatType = FORMAT_SFLOAT then
    let mantissa := intToSignedBits mantissa 12
    let exponent := intToSignedBits exponent 4
    let high := lowByte ((mantissa.sshiftRight 8) &&& 0x0F)
    return (true, ← mValue.store offset.toNat
      [lowByte mantissa, high + lowByte ((exponent &&& 0x0F) <<< 4)])
  else if formatType = FORMAT_FLOAT then
    let mantissa := intToSignedBits mantissa 24
    let exponent := intToSignedBits exponent 8
    let mValue ← mValue.store offset.toNat
      [lowByte mantissa, lowByte (mantissa.sshiftRight 8), lowByte (mantissa.sshiftRight 16)]
    let old ← mValue.read (offset.toNat + 3)
    return (true, ← mValue.store (offset.toNat + 3) [old + lowByte exponent])
  else return (false, mValue)

/-- `setValue` of a pointer to a text, which is not the value itself. The length is an `int`. -/
def setTextValue (memory : Nat → UInt8) (value : List UInt8) : Option (Bool × Pointer) := do
  let len := BitVec.ofNat 32 (← strlen value)
  let mValue ← Pointer.new memory (len + 1)
  let mValue ← mValue.store 0 (← memcpy value (toSize len))
  return (true, ← mValue.write (toSize len) 0)

/-- `setValue` of a string. -/
def setStringValue (value : List UInt8) : Option (Bool × Pointer) :=
  some (true, .live (terminate value))

/-! ## What is expected -/

/-- A value: its bytes, which have a terminator behind them in their block. A block has fewer
than `2 ^ 63` bytes. -/
structure Value where
  bytes : List UInt8
  fits : bytes.length < 2 ^ 63 - 1

/-- The pointer of a characteristic without a value, or with one. -/
def pointer : Option Value → Pointer
  | none => .null
  | some value => .live (terminate value.bytes)

/-- An offset is not negative. -/
abbrev Offset : Type := { offset : BitVec 32 // offset.slt 0 = false }

/-- The integers of a format, given by an `int`. -/
def representable (value formatType : BitVec 32) : Bool :=
  if formatType = FORMAT_UINT8 then 0 ≤ value.toInt ∧ value.toInt < 2 ^ 8
  else if formatType = FORMAT_UINT16 then 0 ≤ value.toInt ∧ value.toInt < 2 ^ 16
  else if formatType = FORMAT_UINT32 then 0 ≤ value.toInt
  else if formatType = FORMAT_SINT8 then -2 ^ 7 ≤ value.toInt ∧ value.toInt < 2 ^ 7
  else if formatType = FORMAT_SINT16 then -2 ^ 15 ≤ value.toInt ∧ value.toInt < 2 ^ 15
  else formatType = FORMAT_SINT32

/-- The mantissas and exponents of a format. -/
def representableFloat (mantissa exponent formatType : BitVec 32) : Bool :=
  if formatType = FORMAT_SFLOAT then
    -2 ^ 11 ≤ mantissa.toInt ∧ mantissa.toInt < 2 ^ 11 ∧
      -2 ^ 3 ≤ exponent.toInt ∧ exponent.toInt < 2 ^ 3
  else formatType = FORMAT_FLOAT ∧ -2 ^ 23 ≤ mantissa.toInt ∧ mantissa.toInt < 2 ^ 23 ∧
    -2 ^ 7 ≤ exponent.toInt ∧ exponent.toInt < 2 ^ 7

/-- A use of the accessors. What is written is read again. -/
inductive Access
  | int (memory : Nat → UInt8) (value formatType : BitVec 32)
      (hvalue : representable value formatType = true) (offset : Offset)
  | float (memory : Nat → UInt8) (mantissa exponent formatType : BitVec 32)
      (hvalue : representableFloat mantissa exponent formatType = true) (offset : Offset)
  | text (memory : Nat → UInt8) (front rest : List UInt8) (hfront : 0 ∉ front)
  | string (value : List UInt8)
  | getIntValue (formatType : BitVec 32) (offset : Offset)
  | getFloatValue (formatType : BitVec 32) (offset : Offset)
  | getStringValue (offset : Offset)

/-- The bytes of the value outside a number stay. -/
def Untouched (value : Option Value) (formatType : BitVec 32) (offset : Nat) (p : Pointer) : Prop :=
  ∀ v ∈ value, ∀ i : Nat, i < v.bytes.length →
    (i < offset ∨ offset + (getTypeLen formatType).toNat ≤ i) → p.read i = v.bytes[i]?

/-- The number of bytes of a value. -/
def size (value : Option Value) : Nat := (value.map fun v => v.bytes.length).getD 0

/-- Writing succeeds, keeps the other bytes, and what is written is read; reading past the value
gives the marker, which a string does not have; and no memory is touched outside a live
block. -/
def Access.Exact (value : Option Value) : Access → Prop
  | .int memory n formatType _ offset => ∃ p,
      setIntValue (pointer value) memory n formatType offset.1 = some (true, p) ∧
        Untouched value formatType offset.1.toNat p ∧
        Accessors.getIntValue p formatType offset.1 = some n
  | .float memory mantissa exponent formatType _ offset => ∃ p,
      setFloatValue (pointer value) memory mantissa exponent formatType offset.1 = some (true, p) ∧
        Untouched value formatType offset.1.toNat p ∧
        Accessors.getFloatValue p formatType offset.1 = some (.number mantissa exponent)
  | .text memory front rest _ => ∃ p, setTextValue memory (front ++ 0 :: rest) = some (true, p)
  | .string value => ∃ p, setStringValue value = some (true, p)
  | .getIntValue formatType offset => ∃ n,
      Accessors.getIntValue (pointer value) formatType offset.1 = some n ∧
        (size value < offset.1.toNat + (getTypeLen formatType).toNat → n = INVALID_INT)
  | .getFloatValue formatType offset => ∃ n,
      Accessors.getFloatValue (pointer value) formatType offset.1 = some n ∧
        (size value < offset.1.toNat + (getTypeLen formatType).toNat → n = .invalid)
  | .getStringValue offset => ∃ s, Accessors.getStringValue (pointer value) offset.1 = some s

/-- The condition: no number is written; a text has a length that is an `int` with room for the
terminator; there is a value to read from; and a string is read from its start, before a
terminator that an `int` counts to. -/
def Access.Careful (value : Option Value) : Access → Prop
  | .int _ _ _ _ _ => False
  | .float _ _ _ _ _ _ => False
  | .text _ front _ _ => front.length % 2 ^ 32 < 2 ^ 31 - 1
  | .string _ => True
  | .getIntValue _ _ => value.isSome
  | .getFloatValue _ _ => value.isSome
  | .getStringValue offset => ∃ v ∈ value, offset.1 = 0 ∧
      (v.bytes.takeWhile (· ≠ 0)).length < 2 ^ 31

/-! ## Lengths -/

theorem strlen_terminate (bytes : List UInt8) :
    Support.strlen (terminate bytes) = some (bytes.takeWhile (· ≠ 0)).length := by
  induction bytes with
  | nil => rfl
  | cons b bytes ih =>
      change (if b = 0 then some 0 else (Support.strlen (terminate bytes)).map (· + 1)) = _
      by_cases hb : b = 0
      · rw [if_pos hb, takeWhile_cons_of_neg (by simpa using hb)]
        rfl
      · rw [if_neg hb, takeWhile_cons_of_pos (by simpa using hb), ih]
        rfl

theorem strlen_lt {block : List UInt8} {n : Nat} (h : Support.strlen block = some n) :
    n < block.length := by
  induction block generalizing n with
  | nil => cases h
  | cons b block ih =>
      rw [Support.strlen] at h
      split at h
      · obtain rfl := Option.some.inj h
        exact Nat.succ_pos _
      · obtain ⟨m, hm, rfl⟩ := Option.map_eq_some_iff.1 h
        exact Nat.succ_lt_succ (ih hm)

variable {n : BitVec 32} {front : List UInt8}

theorem slt_zero_eq_false_iff : n.slt 0 = false ↔ n.toNat < 2 ^ 31 := by
  have hmsb : n.slt 0 = n.msb := BitVec.slt_zero_eq_msb
  rw [hmsb, BitVec.msb_eq_false_iff_two_mul_lt]
  omega

theorem toSize_of_nonneg (h : n.slt 0 = false) : toSize n = n.toNat := by
  have hmsb : n.msb = false := (BitVec.slt_zero_eq_msb (x := n)).symm.trans h
  unfold toSize
  rw [BitVec.toNat_signExtend, hmsb, BitVec.toNat_setWidth_of_le (by decide)]
  rfl

theorem le_toSize_of_neg (h : n.slt 0 = true) : 2 ^ 63 ≤ toSize n := by
  have hmsb : n.msb = true := (BitVec.slt_zero_eq_msb (x := n)).symm.trans h
  unfold toSize
  rw [BitVec.toNat_signExtend, hmsb, if_pos rfl]
  omega

theorem getTypeLen_lt (formatType : BitVec 32) : (getTypeLen formatType).toNat < 16 := by
  unfold getTypeLen
  rw [BitVec.toNat_and]
  exact Nat.lt_succ_of_le Nat.and_le_right

theorem offset_lt (offset : Offset) : offset.1.toNat < 2 ^ 31 :=
  slt_zero_eq_false_iff.1 offset.2

/-- Where the check lets a number through it lies within the length: an end that is no `int` is
beyond every value. -/
theorem end_le {offset : Offset} {formatType : BitVec 32} {n : Nat} (hn : n < 2 ^ 63)
    (h : ¬toSize (offset.1 + getTypeLen formatType) > n) :
    offset.1.toNat + (getTypeLen formatType).toNat ≤ n := by
  have hoffset := offset_lt offset
  have hlen := getTypeLen_lt formatType
  have hsum : (offset.1 + getTypeLen formatType).toNat =
      offset.1.toNat + (getTypeLen formatType).toNat :=
    BitVec.toNat_add_of_lt (by omega)
  cases hsign : (offset.1 + getTypeLen formatType).slt 0 with
  | false =>
      rw [toSize_of_nonneg hsign, hsum] at h
      omega
  | true =>
      have hbeyond := le_toSize_of_neg hsign
      omega

/-! ## Reading -/

theorem strlen_value (value : Value) : ∃ n, Support.strlen (terminate value.bytes) = some n ∧
    n ≤ value.bytes.length ∧ n < 2 ^ 63 := by
  have hle : (value.bytes.takeWhile (· ≠ 0)).length ≤ value.bytes.length :=
    (List.takeWhile_prefix _).length_le
  have hfits := value.fits
  exact ⟨_, strlen_terminate value.bytes, hle, by omega⟩

/-- The bytes of a number that the check lets through are within the block. -/
theorem read_some {value : Value} {offset n : Nat} {len : Nat} (hn : n ≤ value.bytes.length)
    (hend : offset + len ≤ n) :
    ∀ i < len, ∃ b, (pointer (some value)).read (offset + i) = some b := by
  intro i hi
  have hlt : offset + i < (terminate value.bytes).length := by
    unfold terminate
    rw [length_append]
    omega
  exact ⟨_, getElem?_eq_getElem hlt⟩

section Switches

variable {p : Pointer} {formatType : BitVec 32} {offset : Nat}

theorem read_two (h : ∀ i < 2, ∃ b, p.read (offset + i) = some b) :
    ∃ b0 b1, p.read offset = some b0 ∧ p.read (offset + 1) = some b1 := by
  obtain ⟨b0, h0⟩ := h 0 (by decide)
  obtain ⟨b1, h1⟩ := h 1 (by decide)
  exact ⟨b0, b1, h0, h1⟩

theorem read_four (h : ∀ i < 4, ∃ b, p.read (offset + i) = some b) :
    ∃ b0 b1 b2 b3, p.read offset = some b0 ∧ p.read (offset + 1) = some b1 ∧
      p.read (offset + 2) = some b2 ∧ p.read (offset + 3) = some b3 := by
  obtain ⟨b0, b1, h0, h1⟩ := read_two fun i hi => h i (by omega)
  obtain ⟨b2, h2⟩ := h 2 (by decide)
  obtain ⟨b3, h3⟩ := h 3 (by decide)
  exact ⟨b0, b1, b2, b3, h0, h1, h2, h3⟩

/-- The switch reads no more bytes than the format has. -/
theorem intAt_some (h : ∀ i < (getTypeLen formatType).toNat, ∃ b, p.read (offset + i) = some b) :
    ∃ n, intAt p formatType offset = some n := by
  unfold intAt
  split
  · obtain ⟨b0, h0⟩ := h 0 (by subst formatType; decide)
    exact ⟨_, by rw [show p.read offset = some b0 from h0]; rfl⟩
  split
  · obtain ⟨b0, b1, h0, h1⟩ := read_two fun i hi => h i (by subst formatType; exact hi)
    exact ⟨_, by rw [h0, h1]; rfl⟩
  split
  · obtain ⟨b0, b1, b2, b3, h0, h1, h2, h3⟩ :=
      read_four fun i hi => h i (by subst formatType; exact hi)
    exact ⟨_, by rw [h0, h1, h2, h3]; rfl⟩
  split
  · obtain ⟨b0, h0⟩ := h 0 (by subst formatType; decide)
    exact ⟨_, by rw [show p.read offset = some b0 from h0]; rfl⟩
  split
  · obtain ⟨b0, b1, h0, h1⟩ := read_two fun i hi => h i (by subst formatType; exact hi)
    exact ⟨_, by rw [h0, h1]; rfl⟩
  split
  · obtain ⟨b0, b1, b2, b3, h0, h1, h2, h3⟩ :=
      read_four fun i hi => h i (by subst formatType; exact hi)
    exact ⟨_, by rw [h0, h1, h2, h3]; rfl⟩
  · exact ⟨_, rfl⟩

theorem floatAt_some
    (h : ∀ i < (getTypeLen formatType).toNat, ∃ b, p.read (offset + i) = some b) :
    ∃ n, floatAt p formatType offset = some n := by
  unfold floatAt
  split
  · obtain ⟨b0, b1, h0, h1⟩ := read_two fun i hi => h i (by subst formatType; exact hi)
    exact ⟨_, by rw [h0, h1]; rfl⟩
  split
  · obtain ⟨b0, b1, b2, b3, h0, h1, h2, h3⟩ :=
      read_four fun i hi => h i (by subst formatType; exact hi)
    exact ⟨_, by rw [h0, h1, h2, h3]; rfl⟩
  · exact ⟨_, rfl⟩

end Switches

/-- An integer is read where there is a value, and past it the marker. -/
theorem getIntValue_exact (value : Value) (formatType : BitVec 32) (offset : Offset) :
    Access.Exact (some value) (.getIntValue formatType offset) := by
  obtain ⟨n, hsize, hle, hfits⟩ := strlen_value value
  have hstrlen : (pointer (some value)).strlen = some n := hsize
  unfold Access.Exact getIntValue
  dsimp only
  rw [hstrlen, Option.bind_eq_bind, Option.bind_some]
  by_cases hpast : toSize (offset.1 + getTypeLen formatType) > n
  · rw [if_pos hpast]
    exact ⟨INVALID_INT, rfl, fun _ => rfl⟩
  · rw [if_neg hpast]
    have hend := end_le hfits hpast
    obtain ⟨result, hresult⟩ := intAt_some (read_some hle hend)
    exact ⟨result, hresult, fun hlt => absurd hlt (Nat.not_lt.2 (hend.trans hle))⟩

theorem getFloatValue_exact (value : Value) (formatType : BitVec 32) (offset : Offset) :
    Access.Exact (some value) (.getFloatValue formatType offset) := by
  obtain ⟨n, hsize, hle, hfits⟩ := strlen_value value
  have hstrlen : (pointer (some value)).strlen = some n := hsize
  unfold Access.Exact getFloatValue
  dsimp only
  rw [hstrlen, Option.bind_eq_bind, Option.bind_some]
  by_cases hpast : toSize (offset.1 + getTypeLen formatType) > n
  · rw [if_pos hpast]
    exact ⟨.invalid, rfl, fun _ => rfl⟩
  · rw [if_neg hpast]
    have hend := end_le hfits hpast
    obtain ⟨result, hresult⟩ := floatAt_some (read_some hle hend)
    exact ⟨result, hresult, fun hlt => absurd hlt (Nat.not_lt.2 (hend.trans hle))⟩

theorem mapM_some {l : List Nat} {f : Nat → Option UInt8} (h : ∀ i ∈ l, ∃ b, f i = some b) :
    ∃ bytes, l.mapM f = some bytes ∧ bytes.length = l.length := by
  induction l with
  | nil => exact ⟨[], rfl, rfl⟩
  | cons i l ih =>
      obtain ⟨b, hb⟩ := h i mem_cons_self
      obtain ⟨bytes, hbytes, hlength⟩ := ih fun i hi => h i (mem_cons_of_mem _ hi)
      refine ⟨b :: bytes, ?_, congrArg (· + 1) hlength⟩
      rw [mapM_cons, hb, hbytes]
      rfl

/-- A string needs as many bytes behind the offset as there are from the start on. -/
theorem getStringValue_exact_iff (value : Value) (offset : Offset) :
    Access.Exact (some value) (.getStringValue offset) ↔
      Access.Careful (some value) (.getStringValue offset) := by
  have hsize := strlen_terminate value.bytes
  have hle : (value.bytes.takeWhile (· ≠ 0)).length ≤ value.bytes.length :=
    (List.takeWhile_prefix _).length_le
  have hcareful : Access.Careful (some value) (.getStringValue offset) ↔
      offset.1 = 0 ∧ (value.bytes.takeWhile (· ≠ 0)).length < 2 ^ 31 := by
    constructor
    · rintro ⟨v, hv, h⟩
      obtain rfl := Option.some.inj hv
      exact h
    · exact fun h => ⟨value, rfl, h⟩
  rw [hcareful]
  generalize (value.bytes.takeWhile (· ≠ 0)).length = n at hsize hle ⊢
  have hstrlen : (pointer (some value)).strlen = some n := hsize
  unfold Access.Exact getStringValue
  dsimp only
  rw [hstrlen, Option.bind_eq_bind, Option.bind_some, toSize_of_nonneg offset.2]
  have hzero : offset.1 = 0 ↔ offset.1.toNat = 0 := BitVec.toNat_eq
  by_cases hbad : offset.1.toNat > n ∨ 2 ^ 31 ≤ n - offset.1.toNat
  · rw [if_pos hbad]
    refine iff_of_false (by rintro ⟨_, ⟨⟩⟩) ?_
    rintro ⟨hstart, hshort⟩
    rw [hzero.1 hstart] at hbad
    omega
  · rw [if_neg hbad]
    obtain ⟨strBytes, hread, hlength⟩ := mapM_some (l := range (n - offset.1.toNat))
      (f := fun i => (pointer (some value)).read (offset.1.toNat + i)) fun i hi =>
        read_some hle (by omega) i (mem_range.1 hi)
    rw [length_range] at hlength
    rw [hread, Option.bind_eq_bind, Option.bind_some, hzero]
    unfold memcpy
    constructor
    · rintro ⟨s, hs⟩
      split at hs
      · omega
      · cases hs
    · rintro ⟨hstart, -⟩
      exact ⟨_, if_pos (by omega)⟩

/-! ## Writing -/

/-- A number finds no room: the old block is gone, or the new one has a byte behind its text. -/
theorem prepare_size {value : Option Value} {memory : Nat → UInt8} {len : BitVec 32} {p : Pointer}
    {n : Nat} (h : prepare (pointer value) memory len = some (p, n)) : toSize len > n := by
  cases value with
  | some value => cases h
  | none =>
      obtain ⟨block, hblock, hstrlen⟩ := Option.bind_eq_some_iff.1 h
      change Pointer.new memory len = some block at hblock
      unfold Pointer.new at hblock
      split at hblock
      · cases hblock
      · next hsign =>
          obtain rfl := Option.some.inj hblock
          obtain ⟨size, hsize, hresult⟩ := Option.bind_eq_some_iff.1 hstrlen
          cases hresult
          have hlt := strlen_lt hsize
          rw [length_map, length_range] at hlt
          rw [toSize_of_nonneg (Bool.eq_false_iff.2 hsign)]
          exact hlt

theorem setIntValue_fails (value : Option Value) (memory : Nat → UInt8)
    (n formatType offset : BitVec 32) (p : Pointer) :
    setIntValue (pointer value) memory n formatType offset ≠ some (true, p) := by
  intro h
  obtain ⟨⟨block, size⟩, hprepare, hset⟩ := Option.bind_eq_some_iff.1 h
  dsimp only at hset
  rw [if_pos (prepare_size hprepare)] at hset
  cases hset

theorem setFloatValue_fails (value : Option Value) (memory : Nat → UInt8)
    (mantissa exponent formatType offset : BitVec 32) (p : Pointer) :
    setFloatValue (pointer value) memory mantissa exponent formatType offset ≠ some (true, p) := by
  intro h
  obtain ⟨⟨block, size⟩, hprepare, hset⟩ := Option.bind_eq_some_iff.1 h
  dsimp only at hset
  rw [if_pos (prepare_size hprepare)] at hset
  cases hset

/-- Bytes that fit are stored. -/
theorem store_some (block bytes : List UInt8) (i : Nat) (h : i + bytes.length ≤ block.length) :
    ∃ block', (Pointer.live block).store i bytes = some (.live block') ∧
      block'.length = block.length := by
  induction bytes generalizing block i with
  | nil => exact ⟨block, rfl, rfl⟩
  | cons b bytes ih =>
      rw [length_cons] at h
      have hlt : i < block.length := by omega
      obtain ⟨block', hstore, hlength⟩ := ih (block.set i b) (i + 1)
        (by rw [length_set]; omega)
      refine ⟨block', ?_, hlength.trans length_set⟩
      change ((if i < block.length then some (Pointer.live (block.set i b)) else none).bind _) = _
      rw [if_pos hlt]
      exact hstore

/-- With a negative length nothing is allocated, or a block without room. -/
theorem setTextValue_long (memory : Nat → UInt8) (rest : List UInt8) (hfront : 0 ∉ front)
    (hlong : 2 ^ 31 - 1 ≤ front.length % 2 ^ 32) (p : Pointer) :
    setTextValue memory (front ++ 0 :: rest) ≠ some (true, p) := by
  have hlen : (BitVec.ofNat 32 front.length).toNat = front.length % 2 ^ 32 := BitVec.toNat_ofNat ..
  have hlt : front.length % 2 ^ 32 < 2 ^ 32 := Nat.mod_lt _ (by decide)
  unfold setTextValue
  rw [strlen_append hfront, Option.bind_eq_bind, Option.bind_some]
  generalize BitVec.ofNat 32 front.length = len at hlen ⊢
  have hnext : (len + 1).toNat = (len.toNat + 1) % 2 ^ 32 := BitVec.toNat_add ..
  intro hp
  obtain ⟨block, hnew, hrest⟩ := Option.bind_eq_some_iff.1 hp
  obtain ⟨copy, hcopy, hrest⟩ := Option.bind_eq_some_iff.1 hrest
  obtain ⟨block', hstore, -⟩ := Option.bind_eq_some_iff.1 hrest
  unfold Pointer.new at hnew
  split at hnew
  · cases hnew
  · next hsign =>
      have hsmall := slt_zero_eq_false_iff.1 (Bool.eq_false_iff.2 hsign)
      -- only the length that wraps to none is not negative
      have hwrap : (len + 1).toNat = 0 := by omega
      have hneg : len.slt 0 = true := by
        by_contra hnonneg
        have := slt_zero_eq_false_iff.1 (Bool.eq_false_iff.2 hnonneg)
        omega
      have hsize := le_toSize_of_neg hneg
      rw [hwrap] at hnew
      obtain rfl := Option.some.inj hnew
      unfold memcpy at hcopy
      split at hcopy
      · next hfits =>
          obtain rfl := Option.some.inj hcopy
          have hlength : ((front ++ 0 :: rest).take (toSize len)).length = toSize len := by
            rw [length_take, Nat.min_eq_left hfits]
          generalize (front ++ 0 :: rest).take (toSize len) = copy at hstore hlength
          cases copy with
          | nil =>
              rw [← hlength] at hsize
              exact absurd hsize (by decide)
          | cons b copy => cases hstore
      · cases hcopy

theorem setTextValue_short (memory : Nat → UInt8) (rest : List UInt8) (hfront : 0 ∉ front)
    (hshort : front.length % 2 ^ 32 < 2 ^ 31 - 1) :
    ∃ p, setTextValue memory (front ++ 0 :: rest) = some (true, p) := by
  have hlen : (BitVec.ofNat 32 front.length).toNat = front.length % 2 ^ 32 := BitVec.toNat_ofNat ..
  have hle : front.length % 2 ^ 32 ≤ front.length := Nat.mod_le ..
  unfold setTextValue
  rw [strlen_append hfront, Option.bind_eq_bind, Option.bind_some]
  generalize BitVec.ofNat 32 front.length = len at hlen ⊢
  have hroom : (len + 1).toNat = len.toNat + 1 := BitVec.toNat_add_of_lt (by
    change len.toNat + 1 < 2 ^ 32
    omega)
  have hsign : len.slt 0 = false := slt_zero_eq_false_iff.2 (by omega)
  have hnew : Pointer.new memory (len + 1) =
      some (.live ((range (len.toNat + 1)).map memory)) := by
    unfold Pointer.new
    rw [slt_zero_eq_false_iff.2 (by omega), hroom]
    rfl
  have hlength : ((range (len.toNat + 1)).map memory).length = len.toNat + 1 := by
    rw [length_map, length_range]
  have hcopy : memcpy (front ++ 0 :: rest) (toSize len) =
      some ((front ++ 0 :: rest).take len.toNat) := by
    unfold memcpy
    rw [toSize_of_nonneg hsign, if_pos (by rw [length_append]; omega)]
  generalize (range (len.toNat + 1)).map memory = block at hnew hlength
  obtain ⟨block', hstore, hlength'⟩ := store_some block
    ((front ++ 0 :: rest).take len.toNat) 0 (by
      rw [length_take, hlength]
      omega)
  have hwrite : (Pointer.live block').write (toSize len) 0 =
      some (.live (block'.set len.toNat 0)) := by
    rw [toSize_of_nonneg hsign]
    exact if_pos (by omega)
  refine ⟨.live (block'.set len.toNat 0), ?_⟩
  simp only [hnew, hcopy, hstore, hwrite, Option.bind_eq_bind, Option.bind_some]
  rfl

/-- A text is copied if and only if its length, as it is counted, leaves room for the
terminator. -/
theorem setTextValue_exact_iff (memory : Nat → UInt8) (rest : List UInt8) (hfront : 0 ∉ front) :
    (∃ p, setTextValue memory (front ++ 0 :: rest) = some (true, p)) ↔
      front.length % 2 ^ 32 < 2 ^ 31 - 1 := by
  constructor
  · rintro ⟨p, hp⟩
    by_contra hlong
    exact setTextValue_long memory rest hfront (Nat.le_of_not_lt hlong) p hp
  · exact setTextValue_short memory rest hfront

/-! ## The accessors -/

end Gatt.Accessors
