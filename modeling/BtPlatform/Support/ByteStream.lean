import BtPlatform.Support.Status
import BtPlatform.Format.Codec

/-!
# Byte streams

A byte stream is a cursor over a buffer. The plain accessors assert that the
access stays inside the stream; the `Checked` ones set a sticky error flag
instead and leave their result variable as it was. Positions and sizes are
sixteen-bit in the source; every accessor keeps `pos ≤ size`, so no position
ever wraps.
-/

namespace Support

open Format List

/-- What a stream was opened for. -/
inductive RWFlag
  | read
  | write
  | locked
  deriving DecidableEq, Repr

/-- `OI_BYTE_STREAM`. The field `addr` is the machine address of `bsdata`,
which the code inspects once, to align a string. -/
structure ByteStream where
  bsdata : List UInt8
  addr : Nat
  pos : Nat
  size : Nat
  trueSize : Nat
  error : Bool
  rwFlag : RWFlag
  deriving DecidableEq, Repr

namespace ByteStream

/-- `ByteStream_Init` followed by `ByteStream_Open`. -/
def open' (bsdata : List UInt8) (addr : Nat) (rwFlag : RWFlag) : ByteStream where
  bsdata := bsdata
  addr := addr
  pos := 0
  size := bsdata.length
  trueSize := bsdata.length
  error := false
  rwFlag := rwFlag

/-- `ByteStream_Close`. -/
def close (bs : ByteStream) : ByteStream :=
  { bs with
    size := if bs.rwFlag = .write then bs.pos else bs.size
    rwFlag := .locked }

/-- `ByteStream_NumReadBytesAvail`. -/
def numReadBytesAvail (bs : ByteStream) : Nat := bs.size - bs.pos

/-- The stream with its position moved forward. -/
def advance (bs : ByteStream) (n : Nat) : ByteStream := { bs with pos := bs.pos + n }

/-- The stream with its error flag raised. -/
def setError (bs : ByteStream) : ByteStream := { bs with error := true }

/-- The byte of the buffer at an offset. -/
def peek (bs : ByteStream) (off : Nat) : Except Fault UInt8 :=
  match bs.bsdata[off]? with
  | some b => .ok b
  | none => .error .outOfBounds

/-- The buffer with one byte overwritten. -/
def poke (bs : ByteStream) (off : Nat) (b : UInt8) : Except Fault ByteStream :=
  if off < bs.bsdata.length then .ok { bs with bsdata := bs.bsdata.set off b }
  else .error .outOfBounds

/-- `ByteStream_SetPos`. -/
def setPos (bs : ByteStream) (p : Nat) : Except Fault ByteStream :=
  if p ≤ bs.size then .ok { bs with pos := p } else .error .assertion

/-- `ByteStream_Skip`. -/
def skip (bs : ByteStream) (n : Nat) : Except Fault ByteStream :=
  if bs.pos + n ≤ bs.size then .ok (bs.advance n) else .error .assertion

/-- `ByteStream_Skip_Checked`. -/
def skipChecked (bs : ByteStream) (n : Nat) : ByteStream :=
  if bs.pos + n ≤ bs.size then bs.advance n else bs.setError

/-- `ByteStream_GetUINT8`. -/
def getUINT8 (bs : ByteStream) : Except Fault (UInt8 × ByteStream) :=
  if bs.rwFlag = .read ∧ bs.pos + 1 ≤ bs.size then do
    let b ← bs.peek bs.pos
    return (b, bs.advance 1)
  else .error .assertion

/-- `ByteStream_GetUINT16` in network byte order. -/
def getUINT16 (bs : ByteStream) : Except Fault (Nat × ByteStream) :=
  if bs.rwFlag = .read ∧ bs.pos + 2 ≤ bs.size then do
    let hi ← bs.peek bs.pos
    let lo ← bs.peek (bs.pos + 1)
    return (ofBigEndian16 hi lo, bs.advance 2)
  else .error .assertion

/-- `ByteStream_GetUINT32` in network byte order. -/
def getUINT32 (bs : ByteStream) : Except Fault (Nat × ByteStream) :=
  if bs.rwFlag = .read ∧ bs.pos + 4 ≤ bs.size then do
    let b3 ← bs.peek bs.pos
    let b2 ← bs.peek (bs.pos + 1)
    let b1 ← bs.peek (bs.pos + 2)
    let b0 ← bs.peek (bs.pos + 3)
    return (ofBigEndian32 b3 b2 b1 b0, bs.advance 4)
  else .error .assertion

/-- `ByteStream_GetUINT8_Checked`; `i` is the previous value of the result variable. -/
def getUINT8Checked (bs : ByteStream) (i : UInt8) : Except Fault (UInt8 × ByteStream) :=
  if bs.rwFlag = .read then
    if bs.pos + 1 ≤ bs.size then do
      let b ← bs.peek bs.pos
      return (b, bs.advance 1)
    else .ok (i, bs.setError)
  else .error .assertion

/-- `ByteStream_GetUINT16_Checked` in network byte order. -/
def getUINT16Checked (bs : ByteStream) (i : Nat) : Except Fault (Nat × ByteStream) :=
  if bs.rwFlag = .read then
    if bs.pos + 2 ≤ bs.size then do
      let hi ← bs.peek bs.pos
      let lo ← bs.peek (bs.pos + 1)
      return (ofBigEndian16 hi lo, bs.advance 2)
    else .ok (i, bs.setError)
  else .error .assertion

/-- `ByteStream_GetUINT32_Checked` in network byte order. -/
def getUINT32Checked (bs : ByteStream) (i : Nat) : Except Fault (Nat × ByteStream) :=
  if bs.rwFlag = .read then
    if bs.pos + 4 ≤ bs.size then do
      let b3 ← bs.peek bs.pos
      let b2 ← bs.peek (bs.pos + 1)
      let b1 ← bs.peek (bs.pos + 2)
      let b0 ← bs.peek (bs.pos + 3)
      return (ofBigEndian32 b3 b2 b1 b0, bs.advance 4)
    else .ok (i, bs.setError)
  else .error .assertion

/-- `ByteStream_GetBytes_Checked`; `bytes` is what the buffer of the result holds. -/
def getBytesChecked (bs : ByteStream) (bytes : List UInt8) (n : Nat) :
    Except Fault (List UInt8 × ByteStream) :=
  if bs.rwFlag = .read then
    if bs.pos + n ≤ bs.size then
      if bs.pos + n ≤ bs.bsdata.length then
        .ok ((bs.bsdata.drop bs.pos).take n, bs.advance n)
      else .error .outOfBounds
    else .ok (bytes, bs.setError)
  else .error .assertion

/-- `ByteStream_PutUINT8`. -/
def putUINT8 (bs : ByteStream) (i : Nat) : Except Fault ByteStream :=
  if bs.pos + 1 ≤ bs.size ∧ bs.rwFlag = .write then do
    let bs ← bs.poke bs.pos (UInt8.ofNat i)
    return bs.advance 1
  else .error .assertion

/-- `ByteStream_PutUINT16` in network byte order. -/
def putUINT16 (bs : ByteStream) (i : Nat) : Except Fault ByteStream :=
  if bs.pos + 2 ≤ bs.size ∧ bs.rwFlag = .write then do
    let bs ← bs.poke bs.pos (UInt8.ofNat (i / 256))
    let bs := bs.advance 1
    let bs ← bs.poke bs.pos (UInt8.ofNat i)
    return bs.advance 1
  else .error .assertion

/-- `ByteStream_PutUINT32` in network byte order. -/
def putUINT32 (bs : ByteStream) (i : Nat) : Except Fault ByteStream :=
  if bs.pos + 4 ≤ bs.size ∧ bs.rwFlag = .write then do
    let bs ← bs.putUINT16 (i / 65536)
    bs.putUINT16 i
  else .error .assertion

/-- `ByteStream_PutBytes`. -/
def putBytes (bs : ByteStream) : List UInt8 → Except Fault ByteStream
  | [] => .ok bs
  | b :: bytes => do
      let bs ← bs.putUINT8 b.toNat
      bs.putBytes bytes

/-- The bytes between the position and the end of the stream. -/
def rest (bs : ByteStream) : List UInt8 := (bs.bsdata.take bs.size).drop bs.pos

/-- A stream open for reading whose bounds fit its buffer and sixteen bits. -/
structure Readable (bs : ByteStream) : Prop where
  reading : bs.rwFlag = .read
  pos_le : bs.pos ≤ bs.size
  size_le : bs.size ≤ bs.bsdata.length
  size_lt : bs.size < 65536
  noError : bs.error = false

section Projections

variable (bs : ByteStream) (n : Nat)

@[simp] theorem advance_pos : (bs.advance n).pos = bs.pos + n := rfl
@[simp] theorem advance_size : (bs.advance n).size = bs.size := rfl
@[simp] theorem advance_bsdata : (bs.advance n).bsdata = bs.bsdata := rfl
@[simp] theorem advance_addr : (bs.advance n).addr = bs.addr := rfl
@[simp] theorem advance_error : (bs.advance n).error = bs.error := rfl
@[simp] theorem advance_rwFlag : (bs.advance n).rwFlag = bs.rwFlag := rfl
@[simp] theorem advance_zero : bs.advance 0 = bs := rfl

@[simp] theorem advance_advance (m : Nat) : (bs.advance n).advance m = bs.advance (n + m) := by
  simp [advance, Nat.add_assoc]

@[simp] theorem setError_pos : bs.setError.pos = bs.pos := rfl
@[simp] theorem setError_size : bs.setError.size = bs.size := rfl
@[simp] theorem setError_rwFlag : bs.setError.rwFlag = bs.rwFlag := rfl
@[simp] theorem setError_error : bs.setError.error = true := rfl

end Projections

@[simp] theorem rest_open' (bsdata : List UInt8) (addr : Nat) (rwFlag : RWFlag) :
    (open' bsdata addr rwFlag).rest = bsdata := by
  simp [rest, open']

theorem readable_open' (bsdata : List UInt8) (addr : Nat) (hlen : bsdata.length < 65536) :
    (open' bsdata addr .read).Readable :=
  ⟨rfl, Nat.zero_le _, Nat.le_refl _, hlen, rfl⟩

section Reading

variable {bs : ByteStream}

@[simp] theorem rest_advance (n : Nat) : (bs.advance n).rest = bs.rest.drop n := by
  simp [rest, advance, drop_drop]

theorem Readable.rest_length (h : bs.Readable) : bs.rest.length = bs.size - bs.pos := by
  have := h.size_le
  simp only [rest, length_drop, length_take]
  omega

variable {n : Nat} {tl : List UInt8}

theorem Readable.advance (h : bs.Readable) (hn : n ≤ bs.rest.length) : (bs.advance n).Readable := by
  rw [h.rest_length] at hn
  have := h.pos_le
  exact ⟨h.reading, by simp only [advance_pos, advance_size]; omega, h.size_le,
    h.size_lt, h.noError⟩

theorem Readable.getElem?_rest (h : bs.Readable) {k : Nat} (hk : k < bs.rest.length) :
    bs.bsdata[bs.pos + k]? = bs.rest[k]? := by
  rw [h.rest_length] at hk
  rw [rest, getElem?_drop, getElem?_take_of_lt (by omega)]

/-- Reading inside the stream yields the corresponding remaining byte. -/
theorem Readable.peek_rest (h : bs.Readable) {k : Nat} {b : UInt8}
    (hk : bs.rest[k]? = some b) : bs.peek (bs.pos + k) = .ok b := by
  have hlt : k < bs.rest.length := (List.getElem?_eq_some_iff.mp hk).1
  rw [peek, h.getElem?_rest hlt, hk]

theorem Readable.room (h : bs.Readable) (hn : n ≤ bs.rest.length) : bs.pos + n ≤ bs.size := by
  rw [h.rest_length] at hn
  have := h.pos_le
  omega

theorem Readable.noRoom (h : bs.Readable) (hn : bs.rest.length < n) : ¬ bs.pos + n ≤ bs.size := by
  rw [h.rest_length] at hn
  omega

theorem getUINT8_cons (h : bs.Readable) {b : UInt8} (hr : bs.rest = b :: tl) :
    bs.getUINT8 = .ok (b, bs.advance 1) := by
  have hroom : bs.pos + 1 ≤ bs.size := h.room (by simp [hr])
  have hpeek : bs.peek bs.pos = .ok b := h.peek_rest (k := 0) (by simp [hr])
  simp [getUINT8, h.reading, hroom, hpeek, ok_bind, pure, Except.pure]

theorem getUINT16_cons (h : bs.Readable) {hi lo : UInt8} (hr : bs.rest = hi :: lo :: tl) :
    bs.getUINT16 = .ok (ofBigEndian16 hi lo, bs.advance 2) := by
  have hroom : bs.pos + 2 ≤ bs.size := h.room (by simp [hr])
  have hhi : bs.peek bs.pos = .ok hi := h.peek_rest (k := 0) (by simp [hr])
  have hlo : bs.peek (bs.pos + 1) = .ok lo := h.peek_rest (by simp [hr])
  simp [getUINT16, h.reading, hroom, hhi, hlo, ok_bind, pure, Except.pure]

theorem getUINT32_cons (h : bs.Readable) {b3 b2 b1 b0 : UInt8}
    (hr : bs.rest = b3 :: b2 :: b1 :: b0 :: tl) :
    bs.getUINT32 = .ok (ofBigEndian32 b3 b2 b1 b0, bs.advance 4) := by
  have hroom : bs.pos + 4 ≤ bs.size := h.room (by simp [hr])
  have h3 : bs.peek bs.pos = .ok b3 := h.peek_rest (k := 0) (by simp [hr])
  have h2 : bs.peek (bs.pos + 1) = .ok b2 := h.peek_rest (by simp [hr])
  have h1 : bs.peek (bs.pos + 2) = .ok b1 := h.peek_rest (by simp [hr])
  have h0 : bs.peek (bs.pos + 3) = .ok b0 := h.peek_rest (by simp [hr])
  simp [getUINT32, h.reading, hroom, h3, h2, h1, h0, ok_bind, pure, Except.pure]

theorem getUINT8Checked_cons (h : bs.Readable) (i : UInt8) {b : UInt8} (hr : bs.rest = b :: tl) :
    bs.getUINT8Checked i = .ok (b, bs.advance 1) := by
  have hroom : bs.pos + 1 ≤ bs.size := h.room (by simp [hr])
  have hpeek : bs.peek bs.pos = .ok b := h.peek_rest (k := 0) (by simp [hr])
  simp [getUINT8Checked, h.reading, hroom, hpeek, ok_bind, pure, Except.pure]

theorem getUINT16Checked_cons (h : bs.Readable) (i : Nat) {hi lo : UInt8}
    (hr : bs.rest = hi :: lo :: tl) :
    bs.getUINT16Checked i = .ok (ofBigEndian16 hi lo, bs.advance 2) := by
  have hroom : bs.pos + 2 ≤ bs.size := h.room (by simp [hr])
  have hhi : bs.peek bs.pos = .ok hi := h.peek_rest (k := 0) (by simp [hr])
  have hlo : bs.peek (bs.pos + 1) = .ok lo := h.peek_rest (by simp [hr])
  simp [getUINT16Checked, h.reading, hroom, hhi, hlo, ok_bind, pure, Except.pure]

theorem getUINT16Checked_short (h : bs.Readable) (i : Nat) (hr : bs.rest.length < 2) :
    bs.getUINT16Checked i = .ok (i, bs.setError) := by
  simp [getUINT16Checked, h.reading, h.noRoom hr]

theorem getUINT8Checked_nil (h : bs.Readable) (i : UInt8) (hr : bs.rest = []) :
    bs.getUINT8Checked i = .ok (i, bs.setError) := by
  have hlength : bs.rest.length < 1 := by simp [hr]
  simp [getUINT8Checked, h.reading, h.noRoom hlength]

theorem getUINT32Checked_cons (h : bs.Readable) (i : Nat) {b3 b2 b1 b0 : UInt8}
    (hr : bs.rest = b3 :: b2 :: b1 :: b0 :: tl) :
    bs.getUINT32Checked i = .ok (ofBigEndian32 b3 b2 b1 b0, bs.advance 4) := by
  have hroom : bs.pos + 4 ≤ bs.size := h.room (by simp [hr])
  have h3 : bs.peek bs.pos = .ok b3 := h.peek_rest (k := 0) (by simp [hr])
  have h2 : bs.peek (bs.pos + 1) = .ok b2 := h.peek_rest (by simp [hr])
  have h1 : bs.peek (bs.pos + 2) = .ok b1 := h.peek_rest (by simp [hr])
  have h0 : bs.peek (bs.pos + 3) = .ok b0 := h.peek_rest (by simp [hr])
  simp [getUINT32Checked, h.reading, hroom, h3, h2, h1, h0, ok_bind, pure, Except.pure]

theorem getUINT32Checked_short (h : bs.Readable) (i : Nat) (hr : bs.rest.length < 4) :
    bs.getUINT32Checked i = .ok (i, bs.setError) := by
  simp [getUINT32Checked, h.reading, h.noRoom hr]

theorem getBytesChecked_short (h : bs.Readable) (bytes : List UInt8) (hn : bs.rest.length < n) :
    bs.getBytesChecked bytes n = .ok (bytes, bs.setError) := by
  simp [getBytesChecked, h.reading, h.noRoom hn]

theorem getBytesChecked_of_le (h : bs.Readable) (bytes : List UInt8) (hn : n ≤ bs.rest.length) :
    bs.getBytesChecked bytes n = .ok (bs.rest.take n, bs.advance n) := by
  have hroom := h.room hn
  have hsize := h.size_le
  have hrest : bs.rest.take n = (bs.bsdata.drop bs.pos).take n := by
    rw [rest, drop_take, take_take, Nat.min_eq_left (by omega)]
  rw [getBytesChecked, if_pos h.reading, if_pos hroom, if_pos (by omega), hrest]

theorem skip_of_le (h : bs.Readable) (hn : n ≤ bs.rest.length) :
    bs.skip n = .ok (bs.advance n) := by
  simp [skip, h.room hn]

theorem skipChecked_of_le (h : bs.Readable) (hn : n ≤ bs.rest.length) :
    bs.skipChecked n = bs.advance n := by
  simp [skipChecked, h.room hn]

theorem skipChecked_of_lt (h : bs.Readable) (hn : bs.rest.length < n) :
    bs.skipChecked n = bs.setError := by
  simp [skipChecked, h.noRoom hn]

end Reading

/-- A stream that was opened for reading, with its error flag up or down. -/
structure Reading (bs : ByteStream) : Prop where
  reading : bs.rwFlag = .read
  pos_le : bs.pos ≤ bs.size
  size_le : bs.size ≤ bs.bsdata.length
  size_lt : bs.size < 65536

section Checked

variable {bs : ByteStream}

theorem Readable.isReading (h : bs.Readable) : bs.Reading :=
  ⟨h.reading, h.pos_le, h.size_le, h.size_lt⟩

theorem Reading.readable (h : bs.Reading) (herr : ¬ bs.error = true) :
    bs.Readable :=
  ⟨h.reading, h.pos_le, h.size_le, h.size_lt, by simpa using herr⟩

theorem Reading.setError (h : bs.Reading) : bs.setError.Reading :=
  ⟨h.reading, h.pos_le, h.size_le, h.size_lt⟩

theorem Reading.advance (h : bs.Reading) {n : Nat}
    (hroom : bs.pos + n ≤ bs.size) : (bs.advance n).Reading :=
  ⟨h.reading, hroom, h.size_le, h.size_lt⟩

theorem Reading.skipChecked (h : bs.Reading) (n : Nat) :
    (bs.skipChecked n).Reading := by
  unfold ByteStream.skipChecked
  split
  · next hroom => exact h.advance hroom
  · exact h.setError

theorem Reading.peek (h : bs.Reading) {off : Nat} (hoff : off < bs.size) :
    ∃ b, bs.peek off = .ok b := by
  have hlt : off < bs.bsdata.length := Nat.lt_of_lt_of_le hoff h.size_le
  exact ⟨bs.bsdata[off], by rw [ByteStream.peek, getElem?_eq_getElem hlt]⟩

/-- The checked accessors of a stream that is open for reading return. -/
theorem Reading.getUINT8Checked (h : bs.Reading) (i : UInt8) :
    ∃ b bs', bs.getUINT8Checked i = .ok (b, bs') ∧ bs'.Reading := by
  unfold ByteStream.getUINT8Checked
  rw [if_pos h.reading]
  split
  · next hroom =>
      obtain ⟨b, hb⟩ := h.peek hroom
      exact ⟨b, _, by rw [hb]; rfl, h.advance hroom⟩
  · exact ⟨i, _, rfl, h.setError⟩

theorem Reading.getUINT16Checked (h : bs.Reading) (i : Nat) :
    ∃ n bs', bs.getUINT16Checked i = .ok (n, bs') ∧ bs'.Reading := by
  unfold ByteStream.getUINT16Checked
  rw [if_pos h.reading]
  split
  · next hroom =>
      obtain ⟨hi, hhi⟩ := h.peek (show bs.pos < bs.size by omega)
      obtain ⟨lo, hlo⟩ := h.peek (show bs.pos + 1 < bs.size by omega)
      exact ⟨_, _, by rw [hhi, ok_bind, hlo]; rfl, h.advance hroom⟩
  · exact ⟨i, _, rfl, h.setError⟩

end Checked

/-- A stream open for writing that holds exactly the bytes `w` so far. -/
structure Writing (bs : ByteStream) (w : List UInt8) : Prop where
  writing : bs.rwFlag = .write
  pos_eq : bs.pos = w.length
  size_eq : bs.size = bs.bsdata.length
  pos_le : bs.pos ≤ bs.size
  written : bs.bsdata.take bs.pos = w

section Writing

variable {bs : ByteStream} {w : List UInt8}

theorem writing_open' (bsdata : List UInt8) (addr : Nat) :
    (open' bsdata addr .write).Writing [] :=
  ⟨rfl, rfl, rfl, Nat.zero_le _, rfl⟩

private theorem take_set_succ {l : List UInt8} {n : Nat} (hn : n < l.length) (b : UInt8) :
    (l.set n b).take (n + 1) = l.take n ++ [b] := by
  rw [take_add_one, getElem?_set_self hn, take_set_of_le (Nat.le_refl n)]
  rfl

theorem Writing.poke (h : bs.Writing w) (hroom : bs.pos < bs.size) (b : UInt8) :
    ∃ bs', bs.poke bs.pos b = .ok bs' ∧ (bs'.advance 1).Writing (w ++ [b]) ∧
      bs'.pos = bs.pos ∧ bs'.size = bs.size := by
  have hsize := h.size_eq
  have hpos := h.pos_eq
  refine ⟨{ bs with bsdata := bs.bsdata.set bs.pos b }, ?_, ?_, rfl, rfl⟩
  · rw [ByteStream.poke, if_pos (by omega)]
  · refine ⟨h.writing, ?_, ?_, ?_, ?_⟩
    · simp [hpos]
    · simpa using hsize
    · simpa using Nat.succ_le_of_lt hroom
    · simp only [advance_pos, advance_bsdata]
      rw [take_set_succ (by omega), h.written]

theorem Writing.putUINT8 (h : bs.Writing w) (hroom : bs.pos + 1 ≤ bs.size) (i : Nat) :
    ∃ bs', bs.putUINT8 i = .ok bs' ∧ bs'.Writing (w ++ [UInt8.ofNat i]) ∧
      bs'.size = bs.size := by
  obtain ⟨bs', hpoke, hw, hpos, hsize⟩ := h.poke hroom (UInt8.ofNat i)
  refine ⟨bs'.advance 1, ?_, hw, hsize⟩
  rw [ByteStream.putUINT8, if_pos ⟨hroom, h.writing⟩, hpoke, ok_bind]
  rfl

theorem Writing.putUINT16 (h : bs.Writing w) (hroom : bs.pos + 2 ≤ bs.size) (i : Nat) :
    ∃ bs', bs.putUINT16 i = .ok bs' ∧ bs'.Writing (w ++ bigEndian16 i) ∧
      bs'.size = bs.size := by
  obtain ⟨bs₁, hpoke₁, hw₁, hpos₁, hsize₁⟩ := h.poke (by omega) (UInt8.ofNat (i / 256))
  obtain ⟨bs₂, hpoke₂, hw₂, -, hsize₂⟩ :=
    hw₁.poke (by simp only [advance_pos, advance_size]; omega) (UInt8.ofNat i)
  refine ⟨bs₂.advance 1, ?_, by simpa [bigEndian16] using hw₂, hsize₂.trans hsize₁⟩
  rw [ByteStream.putUINT16, if_pos ⟨hroom, h.writing⟩, hpoke₁, ok_bind]
  simp only [hpoke₂, ok_bind]
  rfl

theorem Writing.putUINT32 (h : bs.Writing w) (hroom : bs.pos + 4 ≤ bs.size) (i : Nat) :
    ∃ bs', bs.putUINT32 i = .ok bs' ∧ bs'.Writing (w ++ bigEndian32 i) ∧
      bs'.size = bs.size := by
  obtain ⟨bs₁, hput₁, hw₁, hsize₁⟩ := h.putUINT16 (by omega) (i / 65536)
  have hpos := h.pos_eq
  have hpos₁ := hw₁.pos_eq
  rw [length_append, bigEndian16_length] at hpos₁
  obtain ⟨bs₂, hput₂, hw₂, hsize₂⟩ := hw₁.putUINT16 (by omega) i
  refine ⟨bs₂, ?_, ?_, hsize₂.trans hsize₁⟩
  · rw [ByteStream.putUINT32, if_pos ⟨hroom, h.writing⟩, hput₁, ok_bind, hput₂]
  · rwa [bigEndian32, ← append_assoc]

theorem Writing.putBytes (h : bs.Writing w) {bytes : List UInt8}
    (hroom : bs.pos + bytes.length ≤ bs.size) :
    ∃ bs', bs.putBytes bytes = .ok bs' ∧ bs'.Writing (w ++ bytes) ∧ bs'.size = bs.size := by
  induction bytes generalizing bs w with
  | nil => exact ⟨bs, rfl, by rwa [append_nil], rfl⟩
  | cons b bytes ih =>
      rw [length_cons] at hroom
      obtain ⟨bs₁, hput₁, hw₁, hsize₁⟩ := h.putUINT8 (by omega) b.toNat
      rw [UInt8.ofNat_toNat] at hw₁
      have hpos := h.pos_eq
      have hpos₁ := hw₁.pos_eq
      rw [length_append, length_singleton] at hpos₁
      obtain ⟨bs₂, hput₂, hw₂, hsize₂⟩ := ih hw₁ (by omega)
      refine ⟨bs₂, ?_, ?_, hsize₂.trans hsize₁⟩
      · rw [ByteStream.putBytes, hput₁, ok_bind, hput₂]
      · rwa [append_cons]

end Writing

/-- A step of writing that puts out these bytes where there is room. -/
def Puts (put : ByteStream → Except Fault ByteStream) (bytes : List UInt8) : Prop :=
  ∀ (bs : ByteStream) (w : List UInt8), bs.Writing w → bs.pos + bytes.length ≤ bs.size →
    ∃ bs', put bs = .ok bs' ∧ bs'.Writing (w ++ bytes) ∧ bs'.size = bs.size

namespace Puts

variable {put put' : ByteStream → Except Fault ByteStream} {bytes bytes' : List UInt8}

theorem putUINT8 (i : Nat) : Puts (fun bs => bs.putUINT8 i) [UInt8.ofNat i] :=
  fun _ _ h hroom => h.putUINT8 hroom i

theorem putUINT16 (i : Nat) : Puts (fun bs => bs.putUINT16 i) (bigEndian16 i) :=
  fun _ _ h hroom => h.putUINT16 hroom i

theorem putUINT32 (i : Nat) : Puts (fun bs => bs.putUINT32 i) (bigEndian32 i) :=
  fun _ _ h hroom => h.putUINT32 hroom i

theorem putBytes (bytes : List UInt8) : Puts (fun bs => bs.putBytes bytes) bytes :=
  fun _ _ h hroom => h.putBytes hroom

theorem skip : Puts .ok [] := by
  intro bs w h _
  exact ⟨bs, rfl, by rwa [append_nil], rfl⟩

theorem seq (h : Puts put bytes) (h' : Puts put' bytes') :
    Puts (fun bs => put bs >>= put') (bytes ++ bytes') := by
  intro bs w hw hroom
  rw [length_append] at hroom
  obtain ⟨bs₁, hput₁, hw₁, hsize₁⟩ := h bs w hw (by omega)
  have hpos := hw.pos_eq
  have hpos₁ := hw₁.pos_eq
  rw [length_append] at hpos₁
  obtain ⟨bs₂, hput₂, hw₂, hsize₂⟩ := h' bs₁ _ hw₁ (by omega)
  refine ⟨bs₂, ?_, ?_, hsize₂.trans hsize₁⟩
  · dsimp only
    rw [hput₁, ok_bind, hput₂]
  · rwa [← append_assoc]

end Puts

end ByteStream

end Support
