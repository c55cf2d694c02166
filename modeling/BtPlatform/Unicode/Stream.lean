import BtPlatform.Support.ByteStream

/-!
# Unicode streams

A unicode stream is a byte stream together with the encoding of its bytes. The
plain readers assert that a character lies inside the stream; the checked ones
raise the error flag instead and leave in their result what they have read of
it. `OI_UNICODE_UNKNOWN`, which the readers refuse, is left out.
-/

namespace Unicode

open Support Format List

/-- `OI_UNICODE_ENCODING`. -/
inductive Encoding
  | utf8
  | utf16LE
  | utf16BE
  deriving DecidableEq, Repr

/-- A reader of characters: it takes the previous value of its result. -/
abbrev Reader : Type := Nat → ByteStream → Except Fault (Nat × ByteStream)

/-- What the plain readers do where a character runs out of the stream. -/
def assertRoom : Reader := fun _ _ => .error .assertion

/-- What the checked readers do there. -/
def flagError : Reader := fun ch bs => .ok (ch, bs.setError)

/-- The loop over the mask of a lead byte: how many bytes are to follow, and the
mask of the bits that are not part of the character. A lead byte from `0xc0` on
ends the loop before the count gets below zero. -/
def scanLead (ch : Nat) : Nat → Nat → Nat × Nat
  | 0, mask => (0, mask)
  | count + 1, mask =>
      if ch ≤ mask then scanLead ch count (mask * 2 % 256) else (count + 1, mask)

/-- The loop over the bytes that follow a lead byte. -/
def readTail : Nat → Reader
  | 0, ch, bs => .ok (ch, bs)
  | count + 1, ch, bs => do
      let b ← bs.peek bs.pos
      readTail count (ch * 64 + b.toNat % 64) (bs.advance 1)

/-- The common body of `UnicodeStream_GetUTF8` and `UnicodeStream_GetUTF8_Checked`. -/
def readUTF8 (short : Reader) : Reader := fun ch bs =>
  if bs.rwFlag = .read then
    if bs.pos + 1 ≤ bs.size then do
      let lead ← bs.peek bs.pos
      let ch := lead.toNat
      let bs := bs.advance 1
      if 0xc0 ≤ ch then
        let (count, mask) := scanLead ch 5 0xfc
        if bs.pos + count ≤ bs.size then
          -- the bits outside the mask are the ones below its lowest
          readTail count (ch % (256 - mask)) bs
        else short ch bs
      else return (ch, bs)
    else short ch bs
  else .error .assertion

/-- The unit of UTF-16 at the position, in the byte order of the encoding. -/
def peekUnit (e : Encoding) (bs : ByteStream) : Except Fault Nat := do
  let b0 ← bs.peek bs.pos
  let b1 ← bs.peek (bs.pos + 1)
  return if e = .utf16BE then ofBigEndian16 b0 b1 else ofBigEndian16 b1 b0

/-- The common body of `UnicodeStream_GetUTF16` and `UnicodeStream_GetUTF16_Checked`. -/
def readUTF16 (e : Encoding) (short : Reader) : Reader := fun ch bs =>
  if bs.rwFlag = .read then
    if bs.pos + 2 ≤ bs.size then do
      let ch ← peekUnit e bs
      let bs := bs.advance 2
      if 0xd800 ≤ ch ∧ ch ≤ 0xdbff then
        let ch := ch % 1024 * 1024
        if bs.pos + 2 ≤ bs.size then do
          let low ← peekUnit e bs
          return (ch + low % 1024 + 0x10000, bs.advance 2)
        else short ch bs
      else return (ch, bs)
    else short ch bs
  else .error .assertion

/-- The choice of the reader by the encoding. -/
def readChar (short : Reader) : Encoding → Reader
  | .utf8 => readUTF8 short
  | .utf16LE => readUTF16 .utf16LE short
  | .utf16BE => readUTF16 .utf16BE short

/-- `UnicodeStream_GetChar`, which always sets its result. -/
def getChar (e : Encoding) (bs : ByteStream) : Except Fault (Nat × ByteStream) :=
  readChar assertRoom e 0 bs

/-- `UnicodeStream_GetChar_Checked`. -/
def getCharChecked (e : Encoding) : Reader := readChar flagError e

section Reading

variable {bs : ByteStream} {short : Reader} {ch : Nat}

variable {bytes rest : List UInt8} {e : Encoding}

theorem readTail_cons (h : bs.Readable) {b : UInt8} (count : Nat) (hr : bs.rest = b :: bytes) :
    readTail (count + 1) ch bs = readTail count (ch * 64 + b.toNat % 64) (bs.advance 1) := by
  have hpeek : bs.peek bs.pos = .ok b := h.peek_rest (k := 0) (by simp [hr])
  rw [readTail, hpeek, ok_bind]

/-- A run of following bytes is folded into the character. -/
theorem readTail_bytes (h : bs.Readable) (hr : bs.rest = bytes ++ rest) :
    readTail bytes.length ch bs =
      .ok (bytes.foldl (fun ch b => ch * 64 + b.toNat % 64) ch, bs.advance bytes.length) := by
  induction bytes generalizing ch bs with
  | nil => rfl
  | cons b bytes ih =>
      have hroom : 1 ≤ bs.rest.length := by simp [hr]
      have hrest : (bs.advance 1).rest = bytes ++ rest := by simp [hr]
      rw [length_cons, readTail_cons h _ hr, ih (h.advance hroom) hrest]
      rw [ByteStream.advance_advance, Nat.add_comm 1, foldl_cons]

theorem readUTF8_ascii (h : bs.Readable) {b : UInt8} (hr : bs.rest = b :: rest)
    (hb : b.toNat < 0xc0) : readUTF8 short ch bs = .ok (b.toNat, bs.advance 1) := by
  have hroom : bs.pos + 1 ≤ bs.size := h.room (by simp [hr])
  have hpeek : bs.peek bs.pos = .ok b := h.peek_rest (k := 0) (by simp [hr])
  rw [readUTF8, if_pos h.reading, if_pos hroom, hpeek, ok_bind]
  dsimp only
  rw [if_neg (by omega)]
  rfl

/-- A lead byte, with as many bytes behind it as its scan asks for. -/
theorem readUTF8_lead (h : bs.Readable) {b : UInt8} {mask : Nat}
    (hr : bs.rest = b :: (bytes ++ rest)) (hb : 0xc0 ≤ b.toNat)
    (hscan : scanLead b.toNat 5 0xfc = (bytes.length, mask)) :
    readUTF8 short ch bs =
      .ok (bytes.foldl (fun ch b => ch * 64 + b.toNat % 64) (b.toNat % (256 - mask)),
        bs.advance (bytes.length + 1)) := by
  have hroom : bs.pos + 1 ≤ bs.size := h.room (by simp [hr])
  have hpeek : bs.peek bs.pos = .ok b := h.peek_rest (k := 0) (by simp [hr])
  have hnext : (bs.advance 1).Readable := h.advance (by simp [hr])
  have hrest : (bs.advance 1).rest = bytes ++ rest := by simp [hr]
  have htail : (bs.advance 1).pos + bytes.length ≤ (bs.advance 1).size :=
    hnext.room (by simp [hrest])
  rw [readUTF8, if_pos h.reading, if_pos hroom, hpeek, ok_bind]
  dsimp only
  rw [if_pos hb, hscan]
  dsimp only
  rw [if_pos htail, readTail_bytes hnext hrest, ByteStream.advance_advance, Nat.add_comm 1]

/-- The two bytes of a unit of UTF-16. -/
def unitBytes (e : Encoding) (n : Nat) : List UInt8 :=
  if e = .utf16BE then bigEndian16 n else (bigEndian16 n).reverse

theorem unitBytes_length (e : Encoding) (n : Nat) : (unitBytes e n).length = 2 := by
  unfold unitBytes
  split <;> rfl

theorem peekUnit_bytes (h : bs.Readable) {n : Nat} (hn : n < 65536)
    (hr : bs.rest = unitBytes e n ++ rest) : peekUnit e bs = .ok n := by
  have hunit : ofBigEndian16 (UInt8.ofNat (n / 256)) (UInt8.ofNat n) = n := by
    rw [ofBigEndian16_ofNat, Nat.mod_eq_of_lt hn]
  unfold unitBytes at hr
  unfold peekUnit
  split at hr
  · next he =>
      have h0 := h.peek_rest (k := 0) (b := UInt8.ofNat (n / 256)) (by rw [hr]; rfl)
      have h1 := h.peek_rest (k := 1) (b := UInt8.ofNat n) (by rw [hr]; rfl)
      rw [Nat.add_zero] at h0
      rw [h0, ok_bind, h1, ok_bind, if_pos he, hunit]
      rfl
  · next he =>
      have h0 := h.peek_rest (k := 0) (b := UInt8.ofNat n) (by rw [hr]; rfl)
      have h1 := h.peek_rest (k := 1) (b := UInt8.ofNat (n / 256)) (by rw [hr]; rfl)
      rw [Nat.add_zero] at h0
      rw [h0, ok_bind, h1, ok_bind, if_neg he, hunit]
      rfl

theorem readUTF16_unit (h : bs.Readable) {n : Nat} (hn : n < 65536)
    (hplain : ¬ (0xd800 ≤ n ∧ n ≤ 0xdbff)) (hr : bs.rest = unitBytes e n ++ rest) :
    readUTF16 e short ch bs = .ok (n, bs.advance 2) := by
  have hroom : bs.pos + 2 ≤ bs.size := h.room (by simp [hr, unitBytes_length])
  rw [readUTF16, if_pos h.reading, if_pos hroom, peekUnit_bytes h hn hr, ok_bind]
  dsimp only
  rw [if_neg hplain]
  rfl

theorem readUTF16_pair (h : bs.Readable) {hi lo : Nat} (hhi : hi < 1024) (hlo : lo < 1024)
    (hr : bs.rest = unitBytes e (0xd800 + hi) ++ (unitBytes e (0xdc00 + lo) ++ rest)) :
    readUTF16 e short ch bs = .ok (hi * 1024 + lo + 0x10000, bs.advance 4) := by
  have hroom : bs.pos + 2 ≤ bs.size := h.room (by simp [hr, unitBytes_length])
  have hnext : (bs.advance 2).Readable := h.advance (by simp [hr, unitBytes_length])
  have hrest : (bs.advance 2).rest = unitBytes e (0xdc00 + lo) ++ rest := by
    rw [ByteStream.rest_advance, hr, drop_left' (unitBytes_length _ _)]
  have hpair : (bs.advance 2).pos + 2 ≤ (bs.advance 2).size :=
    hnext.room (by simp [hrest, unitBytes_length])
  rw [readUTF16, if_pos h.reading, if_pos hroom, peekUnit_bytes h (by omega) hr, ok_bind]
  dsimp only
  rw [if_pos (by omega), if_pos hpair, peekUnit_bytes hnext (by omega) hrest, ok_bind,
    ByteStream.advance_advance]
  have hvalue : (0xd800 + hi) % 1024 * 1024 + (0xdc00 + lo) % 1024 = hi * 1024 + lo := by omega
  rw [hvalue]
  rfl

end Reading

end Unicode
