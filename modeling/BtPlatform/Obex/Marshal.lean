import BtPlatform.Support.Memory
import BtPlatform.Obex.Common
import Mathlib.Algebra.GroupWithZero.Nat

/-!
# Marshalling packets

The functions of `obexcommon.c` that compose a packet from headers. Lengths are
sixteen-bit and the cell count of an mbuf is eight-bit; both wrap. A body header
that does not fit is cut, and what is left of it stays in `bodySegment` for
`marshalBodySegment`.
-/

namespace Obex

open Support Format List

/-- `HeaderSize`: a `OI_UINT16`. -/
def headerSize : Header → Nat
  | .unicode _ str => (headerPrefixLen + str.length * 2) % 65536
  | .byteseq _ data => (headerPrefixLen + data.length) % 65536
  | .uInt8 .. => 2
  | .uInt32 .. => 5

/-- `OI_OBEXCOMMON_HeaderListSize`. -/
def headerListSize (headers : List Header) : Nat :=
  headers.foldl (fun size header => (size + headerSize header) % 65536) 0

/-- `OI_OBEXCOMMON_InitPacket`. The first three bytes of `hdrBuf` are skipped:
opcode and length are filled in when the packet is complete. -/
def initPacket (common : Common) (opcode : UInt8) : Except Fault (Common × ByteStream) := do
  let common := { common with currentOpcode := opcode, bodySegment := none }
  let pkt := ByteStream.open' (replicate hdrBufsize 0) 0 .write
  let pkt ← pkt.skip 3
  return (common, pkt)

/-- What `AddHeader` works on: the connection, the packet under construction
and its length so far. -/
structure Marshalling where
  common : Common
  mbuf : Mbuf
  pktLen : Nat
  memory : Memory
  deriving DecidableEq, Repr

/-- `addToMbuf`: priority headers go to the front. -/
def addToMbuf (hdrId : UInt8) (mbuf : Mbuf) (bytes : List UInt8) : Status × Mbuf :=
  if priorityHeader hdrId then mbuf.prepend bytes none else mbuf.append bytes none

/-- The loop of `AddHeader` that writes a Unicode string. -/
def putChars : List UInt16 → ByteStream → Except Fault ByteStream
  | [], bs => .ok bs
  | c :: str, bs => do
      let bs ← bs.putUINT16 c.toNat
      putChars str bs

/-- The Unicode case of `AddHeader`: the header is composed in a buffer of
`length` bytes. -/
def addUnicode (m : Marshalling) (hdrId : UInt8) (str : List UInt16) (length : Nat) :
    Except Fault (Status × Marshalling) := do
  let (room, memory) := m.memory.takeBlock
  let m := { m with memory := memory }
  if !room then return (.outOfMemory, m)
  let bs := ByteStream.open' (replicate length 0) 0 .write
  let bs ← bs.putUINT8 hdrId.toNat
  let bs ← bs.putUINT16 length
  let bs ← putChars str bs
  let bs ← if bs.pos < length then bs.putUINT16 0 else .ok bs
  let bs := bs.close
  let (status, mbuf) := addToMbuf hdrId m.mbuf (bs.bsdata.take bs.size)
  return (status, { m with mbuf := mbuf })

/-- The byte sequence case of `AddHeader`: identifier and length are one cell,
the value is another. -/
def addByteseq (m : Marshalling) (hdrId : UInt8) (data : List UInt8) (length : Nat) :
    Except Fault (Status × Marshalling) := do
  let tmp := hdrId :: bigEndian16 length
  let count := (length + 65536 - headerPrefixLen) % 65536
  if data.length < count then .error .outOfBounds
  else
    let (status, mbuf) :=
      if priorityHeader hdrId then
        match m.mbuf.prepend (data.take count) none with
        | (.ok, mbuf) => mbuf.prepend tmp none
        | failed => failed
      else
        match m.mbuf.append tmp none with
        | (.ok, mbuf) => mbuf.append (data.take count) none
        | failed => failed
    let common :=
      if status.success && isABodyHeader hdrId then m.common.addProgress length else m.common
    return (status, { m with common := common, mbuf := mbuf })

/-- The switch at the end of `AddHeader`, for a header of the given identifier
that occupies `length` bytes. -/
def addValue (m : Marshalling) (hdrId : UInt8) (header : Header) (length : Nat) :
    Except Fault (Status × Marshalling) :=
  let m := { m with pktLen := (m.pktLen + length) % 65536 }
  match header with
  | .unicode _ str => addUnicode m hdrId str length
  | .byteseq _ data => addByteseq m hdrId data length
  | .uInt8 _ val =>
      let (status, mbuf) := addToMbuf hdrId m.mbuf [hdrId, val]
      .ok (status, { m with mbuf := mbuf })
  | .uInt32 _ val =>
      let (status, mbuf) := addToMbuf hdrId m.mbuf (hdrId :: bigEndian32 val.toNat)
      .ok (status, { m with mbuf := mbuf })

/-- What is left of a body header once its first `sent` bytes are in a packet. -/
def Header.dropBody (header : Header) (sent : Nat) : Except Fault Header :=
  match header with
  | .byteseq low data =>
      if sent ≤ data.length then .ok (.byteseq low (data.drop sent)) else .error .outOfBounds
  | header => .ok header

def addHeader (m : Marshalling) (header : Header) : Except Fault (Status × Marshalling) := do
  let length := headerSize header
  if length = 0 then return (.invalidParameters, m)
  if m.pktLen + length > m.common.maxSendPktLen then
    if !isABodyHeader header.id then return (.obexPacketOverflow, m)
    -- how much data will fit in this packet
    let length := (m.common.maxSendPktLen + 65536 - m.pktLen) % 65536
    if length ≤ headerPrefixLen then return (.ok, m)
    let bodySegment ← header.dropBody (length - headerPrefixLen)
    let common := { m.common with bodySegment := some bodySegment }
    -- always a body, not end-of-body
    addValue { m with common := common } hdrBody header length
  else addValue m header.id header length

/-- The loops of `OI_OBEXCOMMON_MarshalPacketMbuf` over its headers. -/
def addHeaders : List Header → Marshalling → Except Fault (Status × Marshalling)
  | [], m => .ok (.ok, m)
  | header :: headers, m => do
      let (status, m) ← addHeader m header
      if status.success then addHeaders headers m else return (status, m)

/-- One cell for a header, one more for a byte sequence. -/
def headerCells (header : Header) : Nat := if header.kind = .byteseq then 2 else 1

/-- The opcode of a packet whose body was cut: it is not the final one. -/
def segmentOpcode (op : UInt8) : UInt8 :=
  if op = obexFinal rspOk ∨ op = obexFinal rspContinue then obexFinal rspContinue
  else op &&& 0x7F

/-- The opcode of the finished packet. -/
def closingOpcode (common : Common) : UInt8 :=
  match common.bodySegment with
  | some segment =>
      if isABodyHeader segment.id then segmentOpcode common.currentOpcode
      else common.currentOpcode
  | none => common.currentOpcode

/-- The end of `OI_OBEXCOMMON_MarshalPacketMbuf`: opcode and length are written
into the packet header, which goes to the front. -/
def closePacket (pktHdr : ByteStream) (m : Marshalling) : Except Fault (Status × Mbuf) := do
  let pos := pktHdr.pos
  let pktHdr ← pktHdr.setPos 0
  let pktHdr ← pktHdr.putUINT8 (closingOpcode m.common).toNat
  let pktHdr ← pktHdr.putUINT16 m.pktLen
  let pktHdr ← pktHdr.setPos pos
  let pktHdr := pktHdr.close
  return m.mbuf.prepend (pktHdr.bsdata.take pktHdr.size) none

/-- `OI_OBEXCOMMON_MarshalPacketMbuf`. -/
def marshalPacketMbuf (common : Common) (pktHdr : ByteStream) (hdrs hdrList : List Header)
    (memory : Memory) : Except Fault (Status × Option Mbuf × Common × Memory) := do
  -- the cell count is a `OI_UINT8`
  let cells := 1 + ((hdrs ++ hdrList).map headerCells).sum
  let (room, memory) := memory.takeMbuf
  if !room then return (.outOfMemory, none, common, memory)
  let (status, m) ← addHeaders (hdrs ++ hdrList) ⟨common, Mbuf.alloc cells, pktHdr.pos, memory⟩
  if !status.success then return (status, none, m.common, m.memory)
  let (status, mbuf) ← closePacket pktHdr m
  if status.success then return (.ok, some mbuf, m.common, m.memory)
  else return (status, none, m.common, m.memory)

/-- `OI_OBEXCOMMON_MarshalPacket`: the packet is left in `common.mbuf`. -/
def marshalPacket (common : Common) (pktHdr : ByteStream) (hdrs hdrList : List Header)
    (memory : Memory) : Except Fault (Status × Common × Memory) := do
  let (status, mbuf, common, memory) ← marshalPacketMbuf common pktHdr hdrs hdrList memory
  return (status, { common with mbuf := mbuf }, memory)

/-- `OI_OBEXCOMMON_MarshalBodySegment`. -/
def marshalBodySegment (common : Common) (memory : Memory) :
    Except Fault (Status × Common × Memory) :=
  match common.bodySegment with
  | none => .error .assertion
  | some hdr => do
      let common := { common with bodySegment := none }
      let (common, pkt) ← initPacket common common.currentOpcode
      marshalPacket common pkt [hdr] [] memory

end Obex
