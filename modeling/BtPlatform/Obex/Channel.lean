import BtPlatform.Program.Prog
import BtPlatform.Linked.Chain
import BtPlatform.Obex.Marshal

/-!
# Sending on the lower connection

The functions of `obexcommon.c` work on an `OBEX_COMMON`, on memory and on the
lower connection; together these are a `Channel`, on both sides of a connection.
What the lower layer answers to `write` and `disconnect` is decided outside the
program: a `Lower` lists the coming answers. A message buffer that the lower layer
has accepted stays in flight until its write confirmation, in the order of the
writes.
-/

namespace Obex

open Support Program Linked

/-- Which variable of the program refers to a message buffer in flight. -/
inductive Slot
  | unnamed
  | commonMbuf
  | abortMbuf
  deriving DecidableEq, Repr

/-- A message buffer that the lower layer has accepted; the context word of a packet
of a bulk transfer holds the first block in it. -/
structure Sent where
  mbuf : Mbuf
  slot : Slot
  context : Option Ptr
  deriving DecidableEq, Repr

/-- An attempt to send a packet: the allocation of its message buffer failed, or
the lower layer took or refused the packet. -/
inductive Attempt
  | noMbuf (bulk : Bool)
  | wrote (bulk : Bool) (packet : List UInt8) (status : Status)
  deriving DecidableEq, Repr

/-- `OI_OBEX_LOWER_CONNECTION`: the coming answers to `write`, with the value of
`queueFull`, and to `disconnect`; the mbufs in flight; every attempt so far. -/
structure Lower where
  writes : List (Status × Bool)
  disconnects : List Status
  inFlight : List Sent
  attempts : List Attempt
  deriving DecidableEq, Repr

/-- A block of a bulk transfer without its link: `OBEX_BULK_DATA`. A buffer is
named by its identity and its contents; an empty block has no buffer. -/
structure BulkData where
  blockBuffer : Option BufferId
  contents : List UInt8
  bytesSent : Nat
  bytesConfirmed : Nat
  final : Bool
  deriving DecidableEq, Repr

/-- The size of a block. -/
def BulkData.blockSize (block : BulkData) : Nat := block.contents.length

/-- What the functions shared by client and server work on. -/
structure Channel where
  common : Common
  memory : Memory
  lower : Lower
  blocks : Heap BulkData
  deriving DecidableEq, Repr

/-- `lowerConnection->ifc->write`. The value of `queueFull` is there only if the
packet was taken. -/
def Channel.write (ch : Channel) (context : Option Ptr) (slot : Slot) (mbuf : Mbuf) :
    Status × Option Bool × Channel :=
  let (status, queueFull) := ch.lower.writes.headD (.ok, false)
  let lower := { ch.lower with
    writes := ch.lower.writes.tail
    attempts := ch.lower.attempts ++ [.wrote context.isSome mbuf.bytes status] }
  if status.success then
    (status, some queueFull,
      { ch with lower := { lower with inFlight := lower.inFlight ++ [⟨mbuf, slot, context⟩] } })
  else (status, none, { ch with lower := lower })

/-- A program on the channel. -/
abbrev OnChannel (α : Type) : Type := Prog Channel Fault α

namespace OnChannel

/-- `lowerConnection->ifc->write`. -/
def write (context : Option Ptr) (slot : Slot) (mbuf : Mbuf) :
    OnChannel (Status × Option Bool) := do
  let (status, queueFull, ch) ← Prog.view fun ch => ch.write context slot mbuf
  Prog.update fun _ => ch
  return (status, queueFull)

/-- `lowerConnection->ifc->disconnect`. -/
def disconnect : OnChannel Status := do
  let status ← Prog.view fun ch => ch.lower.disconnects.headD .ok
  Prog.update fun ch =>
    { ch with lower := { ch.lower with disconnects := ch.lower.disconnects.tail } }
  return status

/-- The outcome of `OI_MBUF_Alloc`. -/
def takeMbuf : OnChannel Bool := do
  let (room, memory) ← Prog.view fun ch => ch.memory.takeMbuf
  Prog.update fun ch => { ch with memory := memory }
  return room

/-- The outcome of `OI_Malloc`. -/
def takeBlock : OnChannel Bool := do
  let (room, memory) ← Prog.view fun ch => ch.memory.takeBlock
  Prog.update fun ch => { ch with memory := memory }
  return room

/-- Record that a packet could not be allocated. -/
def noMbuf (bulk : Bool) : OnChannel Unit :=
  Prog.update fun ch =>
    { ch with lower := { ch.lower with attempts := ch.lower.attempts ++ [.noMbuf bulk] } }

/-- The variable no longer refers to a message buffer in flight. -/
def disown (slot : Slot) : OnChannel Unit :=
  Prog.update fun ch =>
    { ch with lower := { ch.lower with
        inFlight := ch.lower.inFlight.map fun sent =>
          if sent.slot = slot then { sent with slot := .unnamed } else sent } }

/-- Change the common part of the connection record. -/
def setCommon (f : Common → Common) : OnChannel Unit :=
  Prog.update fun ch => { ch with common := f ch.common }

/-- `OI_OBEXCOMMON_SendSimple`. -/
def sendSimple (opcode : UInt8) : OnChannel Status := do
  let room ← takeMbuf
  if room then
    let (status, _) ← write none .unnamed (Mbuf.wrap [opcode, 0, 3])
    return status
  else
    noMbuf false
    return .outOfMemory

/-- `OI_OBEXCOMMON_SendOk`. -/
def sendOk : OnChannel Status := sendSimple (obexFinal rspOk)

/-- `OI_OBEXCOMMON_InitPacket`. -/
def initPacket (opcode : UInt8) : OnChannel ByteStream := do
  let common ← Prog.view Channel.common
  let (common, pkt) ← Prog.lift (Obex.initPacket common opcode)
  setCommon fun _ => common
  return pkt

/-- `OI_OBEXCOMMON_MarshalPacket`: `common.mbuf` is overwritten. -/
def marshalPacket (pkt : ByteStream) (hdrs hdrList : List Header) : OnChannel Status := do
  let ch ← Prog.view id
  let (status, common, memory) ←
    Prog.lift (Obex.marshalPacket ch.common pkt hdrs hdrList ch.memory)
  disown .commonMbuf
  Prog.update fun ch => { ch with common := common, memory := memory }
  Prog.only (¬ status.success) (noMbuf false)
  return status

/-- `OI_OBEXCOMMON_MarshalBodySegment`. -/
def marshalBodySegment : OnChannel Status := do
  let ch ← Prog.view id
  let (status, common, memory) ← Prog.lift (Obex.marshalBodySegment ch.common ch.memory)
  disown .commonMbuf
  Prog.update fun ch => { ch with common := common, memory := memory }
  Prog.only (¬ status.success) (noMbuf false)
  return status

/-- Hand `common.mbuf` to the lower layer, and free it if it is refused. -/
def sendPacket : OnChannel Status := do
  let mbuf ← Prog.view fun ch => ch.common.mbuf
  match mbuf with
  | none => Prog.fault .nullDeref
  | some mbuf =>
      let (status, _) ← write none .commonMbuf mbuf
      Prog.only (¬ status.success) (setCommon fun common => { common with mbuf := none })
      return status

end OnChannel

end Obex
