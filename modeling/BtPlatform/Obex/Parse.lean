import BtPlatform.Obex.Common

/-!
# Parsing received headers

`parseHeaderList` embeds `OI_OBEXCOMMON_ParseHeaderList`: a checked scan that
counts the headers of a packet, and a second pass that relies on the scan and
records every header. A recorded sequence value is a reference into the packet
buffer; Unicode strings are converted to the byte order of the processor in
place, possibly one byte before their position in the packet so that they are
aligned. `ParsedHeader.value` dereferences a recorded header.
-/

namespace Obex

open Support Format

/-- Byte order of the processor, `OI_CPU_BYTE_ORDER`. -/
inductive CpuByteOrder
  | littleEndian
  | bigEndian
  deriving DecidableEq, Repr

/-- The two bytes of a `OI_CHAR16` in memory, lower address first. -/
def CpuByteOrder.store (order : CpuByteOrder) (dchar : Nat) : UInt8 × UInt8 :=
  match order with
  | .littleEndian => (UInt8.ofNat dchar, UInt8.ofNat (dchar / 256))
  | .bigEndian => (UInt8.ofNat (dchar / 256), UInt8.ofNat dchar)

/-- The `OI_CHAR16` held by two bytes of memory. -/
def CpuByteOrder.load (order : CpuByteOrder) (b0 b1 : UInt8) : UInt16 :=
  match order with
  | .littleEndian => UInt16.ofNat (ofBigEndian16 b1 b0)
  | .bigEndian => UInt16.ofNat (ofBigEndian16 b0 b1)

/-- The value of a received header: sequences are offsets into the packet
buffer, `none` being the null pointer of an empty sequence. -/
inductive ParsedValue
  | unicode (len : Nat) (str : Option Nat)
  | byteseq (len : Nat) (data : Option Nat)
  | uInt8 (val : UInt8)
  | uInt32 (val : Nat)
  deriving DecidableEq, Repr

/-- A received `OI_OBEX_HEADER`. -/
structure ParsedHeader where
  id : UInt8
  val : ParsedValue
  deriving DecidableEq, Repr

/-- `OI_OBEX_HEADER_LIST` as the parser fills it in. The counter is a
`OI_UINT8`; the array is `none` where the source has a null pointer. -/
structure ParsedList where
  count : UInt8
  list : Option (List ParsedHeader)
  deriving DecidableEq, Repr

/-- The common end of `ScanHeader`: skip the value. -/
def scanValue (bs : ByteStream) (len : Nat) : Status × ByteStream :=
  let bs := bs.skipChecked len
  if bs.error then (.obexError, bs) else (.ok, bs)

/-- `ScanHeader`. The length is a `OI_UINT16`: subtracting the prefix wraps. -/
def scanHeader (bs : ByteStream) : Except Fault (Status × ByteStream) := do
  let (id, bs) ← bs.getUINT8Checked 0
  match hdrKind id with
  | .byteseq =>
      let (len, bs) ← bs.getUINT16Checked 0
      return scanValue bs ((len + 65536 - headerPrefixLen) % 65536)
  | .unicode =>
      let (len, bs) ← bs.getUINT16Checked 0
      let len := (len + 65536 - headerPrefixLen) % 65536
      if len % 2 = 1 then return (.obexError, bs)
      return scanValue bs len
  | .uInt8 => return scanValue bs 1
  | .uInt32 => return scanValue bs 4

/-- The scan loop of `OI_OBEXCOMMON_ParseHeaderList`; the result is the counter,
or nothing if some header is malformed. -/
def scanHeaders : Nat → ByteStream → UInt8 → Except Fault (Option UInt8 × ByteStream)
  | 0, _, _ => .error .fuel
  | fuel + 1, bs, count =>
      if bs.numReadBytesAvail > 0 then do
        let (status, bs) ← scanHeader bs
        if status.success then scanHeaders fuel bs (count + 1) else return (none, bs)
      else return (some count, bs)

/-- The conversion loop of `ParseHeader`: read `len` characters from the stream
and store them in processor byte order from `base` on. -/
def convertChars (order : CpuByteOrder) : Nat → ByteStream → Nat → Except Fault ByteStream
  | 0, bs, _ => .ok bs
  | len + 1, bs, base => do
      let (dchar, bs) ← bs.getUINT16
      let (b0, b1) := order.store dchar
      let bs ← bs.poke base b0
      let bs ← bs.poke (base + 1) b1
      convertChars order len bs (base + 2)

def parseHeader (order : CpuByteOrder) (common : Common) (bs : ByteStream) :
    Except Fault (ParsedHeader × Common × ByteStream) := do
  let (id, bs) ← bs.getUINT8
  match hdrKind id with
  | .unicode =>
      let (len, bs) ← bs.getUINT16
      let len := (len + 65536 - headerPrefixLen) % 65536
      if len % 2 ≠ 0 then .error .assertion
      else if len / 2 ≠ 0 then
        -- an odd address is moved down onto the length field, which is no longer needed
        let base := if (bs.addr + bs.pos) % 2 = 1 then bs.pos - 1 else bs.pos
        let bs ← convertChars order (len / 2) bs base
        return (⟨id, .unicode (len / 2) (some base)⟩, common, bs)
      else return (⟨id, .unicode (len / 2) none⟩, common, bs)
  | .byteseq =>
      let (len, bs) ← bs.getUINT16
      let len := (len + 65536 - headerPrefixLen) % 65536
      let data := if len ≠ 0 then some bs.pos else none
      let bs ← bs.skip len
      let common := if isABodyHeader id then common.addProgress len else common
      return (⟨id, .byteseq len data⟩, common, bs)
  | .uInt8 =>
      let (val, bs) ← bs.getUINT8
      return (⟨id, .uInt8 val⟩, common, bs)
  | .uInt32 =>
      let (val, bs) ← bs.getUINT32
      return (⟨id, .uInt32 val⟩, common, bs)

/-- The second loop of `OI_OBEXCOMMON_ParseHeaderList`. -/
def parseHeaders (order : CpuByteOrder) :
    Nat → Common → ByteStream → Except Fault (List ParsedHeader × Common × ByteStream)
  | 0, common, bs => .ok ([], common, bs)
  | count + 1, common, bs => do
      let (header, common, bs) ← parseHeader order common bs
      let (headers, common, bs) ← parseHeaders order count common bs
      return (header :: headers, common, bs)

/-- `OI_OBEXCOMMON_ParseHeaderList`; `memory` tells whether `OI_Malloc` finds
room for the header array. -/
def parseHeaderList (order : CpuByteOrder) (memory : Bool) (common : Common) (bs : ByteStream) :
    Except Fault (Status × ParsedList × Common × ByteStream) := do
  let pos := bs.pos
  match ← scanHeaders (bs.size + 1) bs 0 with
  | (none, bs) => return (.obexBadPacket, ⟨0, none⟩, common, bs)
  | (some count, bs) =>
      let bs ← bs.setPos pos
      if count > 0 then
        if memory then
          let (headers, common, bs) ← parseHeaders order count.toNat common bs
          return (.ok, ⟨count, some headers⟩, common, bs.close)
        else return (.outOfMemory, ⟨count, none⟩, common, bs)
      else return (.ok, ⟨count, none⟩, common, bs.close)

/-! ## Reading the recorded headers -/

/-- `len` characters of the buffer from an offset on. -/
def loadChars (order : CpuByteOrder) (buffer : List UInt8) : Nat → Nat → Option (List UInt16)
  | 0, _ => some []
  | len + 1, off => do
      let b0 ← buffer[off]?
      let b1 ← buffer[off + 1]?
      let str ← loadChars order buffer len (off + 2)
      return order.load b0 b1 :: str

/-- The header that the application sees through a recorded header. -/
def ParsedHeader.value (order : CpuByteOrder) (buffer : List UInt8) (h : ParsedHeader) :
    Option Header :=
  match hdrKind h.id, h.val with
  | .unicode, .unicode _ none => some (.unicode (hdrLow h.id) [])
  | .unicode, .unicode len (some str) =>
      (loadChars order buffer len str).map (.unicode (hdrLow h.id))
  | .byteseq, .byteseq _ none => some (.byteseq (hdrLow h.id) [])
  | .byteseq, .byteseq len (some data) =>
      if data + len ≤ buffer.length then
        some (.byteseq (hdrLow h.id) ((buffer.drop data).take len))
      else none
  | .uInt8, .uInt8 val => some (.uInt8 (hdrLow h.id) val)
  | .uInt32, .uInt32 val => some (.uInt32 (hdrLow h.id) (UInt32.ofNat val))
  | _, _ => none

/-- The headers that the application sees through a parsed list: as many as the
counter says. -/
def ParsedList.values (order : CpuByteOrder) (buffer : List UInt8) (headers : ParsedList) :
    Option (List Header) :=
  match headers.list with
  | some list =>
      if headers.count.toNat = list.length then list.mapM (ParsedHeader.value order buffer)
      else none
  | none => if headers.count = 0 then some [] else none

end Obex
