import BtPlatform.Obex.Channel

/-!
# Bulk transfers

`OI_OBEXCOMMON_AllocBulkData`, `OI_OBEXCOMMON_FreeBulkData` and
`OI_OBEXCOMMON_SendBulk`. The blocks of a transfer form a linked list. A packet
takes as many bytes as fit from the block being sent and those after it; the
mbuf of the packet remembers the first of them.
-/

namespace Obex

open Support Format Program Linked

/-- A buffer of the application: its identity and its contents. -/
abbrev Buffer := BufferId × List UInt8

/-- `BULK_PUT_HDR_SIZE`, also `BULK_GET_HDR_SIZE`: packet header and body header. -/
def bulkHdrSize : Nat := 6

/-- A block that has not been sent. -/
def BulkData.ofBuffer (buffer : Buffer) : BulkData where
  blockBuffer := if buffer.2.length > 0 then some buffer.1 else none
  contents := buffer.2
  bytesSent := 0
  bytesConfirmed := 0
  final := false

/-- Follow a pointer to a block. -/
def derefBlock (blocks : Heap BulkData) (p : Option Ptr) : Except Fault (Ptr × Node BulkData) :=
  match p with
  | none => .error .nullDeref
  | some p =>
      match blocks.read p with
      | none => .error .useAfterFree
      | some node => .ok (p, node)

namespace OnChannel

/-- Follow a pointer to a block. -/
def deref (p : Option Ptr) : OnChannel (Ptr × Node BulkData) := do
  let blocks ← Prog.view Channel.blocks
  Prog.lift (derefBlock blocks p)

/-- Change the heap of blocks. -/
def setBlocks (f : Heap BulkData → Heap BulkData) : OnChannel Unit :=
  Prog.update fun ch => { ch with blocks := f ch.blocks }

/-- The loop of `OI_OBEXCOMMON_FreeBulkData`. -/
def freeBlocks : Nat → Option Ptr → OnChannel Unit
  | 0, _ => Prog.fault .fuel
  | _ + 1, none => pure ()
  | fuel + 1, some list => do
      let (p, node) ← deref (some list)
      setBlocks fun blocks => blocks.free p
      freeBlocks fuel node.next

/-- `OI_OBEXCOMMON_FreeBulkData`. -/
def freeBulkData (list : Option Ptr) : OnChannel Unit := do
  let blocks ← Prog.view Channel.blocks
  freeBlocks (blocks.fresh + 1) list

/-- `p->next = next`. -/
def setNext (p next : Option Ptr) : OnChannel Unit := do
  let (p, node) ← deref p
  setBlocks fun blocks => blocks.write p { node with next := next }

/-- The loop of `OI_OBEXCOMMON_AllocBulkData`, with the list made so far. -/
def allocBlocks : List Buffer → Option Ptr → Option Ptr →
    OnChannel (Status × Option Ptr × Option Ptr)
  | [], head, tail => pure (.ok, head, tail)
  | buffer :: buffers, head, tail => do
      let room ← takeBlock
      if room then
        let newBD ← Prog.view fun ch => ch.blocks.fresh
        setBlocks fun blocks => blocks.alloc (.ofBuffer buffer)
        Prog.only (tail.isSome) (setNext tail (some newBD))
        allocBlocks buffers (head.or (some newBD)) (some newBD)
      else pure (.noResources, head, tail)

/-- `OI_OBEXCOMMON_AllocBulkData`: head and tail of the new list. -/
def allocBulkData (buffers : List Buffer) : OnChannel (Status × Option Ptr × Option Ptr) := do
  let (status, head, tail) ← allocBlocks buffers none none
  if status.success then
    return (.ok, head, tail)
  else
    freeBulkData head
    return (status, none, none)

end OnChannel

/-! ## Sending -/

/-- What the first loop of `OI_OBEXCOMMON_SendBulk` finds out about a packet. The
opcode and the header identifier are variables of the whole function. -/
structure Gathered where
  numBlocks : Nat
  bodyLen : Nat
  headerId : UInt8
  opcode : UInt8
  final : Bool
  deriving DecidableEq, Repr

/-- The final packet has the final bit set and an end-of-body header. -/
def Gathered.finish (g : Gathered) : Gathered :=
  let opcode := if obexFinal g.opcode = obexFinal rspContinue then rspOk else g.opcode
  { g with headerId := hdrEndOfBody, opcode := obexFinal opcode, final := true }

/-- The loop of `OI_OBEXCOMMON_SendBulk` over the blocks of one packet; `bodyMax`
bytes still fit. -/
def gather (blocks : Heap BulkData) : Nat → Option Ptr → Nat → Gathered → Except Fault Gathered
  | 0, _, _, _ => .error .fuel
  | _ + 1, none, _, g => .ok g
  | fuel + 1, some p, bodyMax, g => do
      let (_, node) ← derefBlock blocks (some p)
      let toSend := node.val.blockSize - node.val.bytesSent
      let g := { g with numBlocks := g.numBlocks + 1 }
      if toSend > bodyMax then
        return { g with bodyLen := g.bodyLen + bodyMax }
      else
        let g := if node.val.final then g.finish else g
        gather blocks fuel node.next (bodyMax - toSend) { g with bodyLen := g.bodyLen + toSend }

/-- Packet header and body header. -/
def bulkHeader (g : Gathered) : List UInt8 :=
  g.opcode :: bigEndian16 (g.bodyLen + bulkHdrSize) ++
    g.headerId :: bigEndian16 (g.bodyLen + headerPrefixLen)

/-- What a call of `OI_OBEXCOMMON_SendBulk` leaves in its result and its arguments. -/
structure BulkSend where
  status : Status
  current : Option Ptr
  busy : Bool
  final : Bool
  deriving DecidableEq, Repr

namespace OnChannel

/-- The second loop of `OI_OBEXCOMMON_SendBulk`: append `numBlocks` pieces to the
packet; the results of the appends are not looked at. -/
def fillPacket : Nat → Option Ptr → Nat → Mbuf → OnChannel (Option Ptr × Mbuf)
  | 0, bulkData, _, mbuf => pure (bulkData, mbuf)
  | numBlocks + 1, bulkData, bodyLen, mbuf => do
      let (p, node) ← deref bulkData
      let block := node.val
      let len := min (block.blockSize - block.bytesSent) bodyLen
      -- the length of the piece is passed as a `OI_UINT16`
      let piece := (block.contents.drop block.bytesSent).take (len % 65536)
      let (_, mbuf) := mbuf.append piece block.blockBuffer
      setBlocks fun blocks =>
        blocks.write p { node with val := { block with bytesSent := block.bytesSent + len } }
      let bulkData := if block.bytesSent + len = block.blockSize then node.next else some p
      fillPacket numBlocks bulkData (bodyLen - len) mbuf

/-- One packet of `OI_OBEXCOMMON_SendBulk`. On failure `current` stays, although
the second loop has advanced `bytesSent`. -/
def sendPiece (current : Option Ptr) (busy : Bool) (g : Gathered) :
    OnChannel (BulkSend × Gathered) := do
  let ch ← Prog.view id
  -- an unsigned difference
  let bodyMax := (ch.common.maxSendPktLen + 4294967296 - bulkHdrSize) % 4294967296
  let g ← Prog.lift (gather ch.blocks (ch.blocks.fresh + 1) current bodyMax
    { g with numBlocks := 0, bodyLen := 0 })
  let room ← takeMbuf
  if room then
    let (_, mbuf) := (Mbuf.alloc (1 + g.numBlocks)).append (bulkHeader g) none
    let (bulkData, mbuf) ← fillPacket g.numBlocks current g.bodyLen mbuf
    let (status, queueFull) ← write current .unnamed mbuf
    match queueFull with
    | some queueFull => return (⟨status, bulkData, queueFull, g.final⟩, g)
    | none => return (⟨status, current, busy, g.final⟩, g)
  else
    noMbuf true
    return (⟨.outOfMemory, current, busy, g.final⟩, g)

/-- The outer loop of `OI_OBEXCOMMON_SendBulk`. -/
def sendPieces : Nat → Option Ptr → Bool → Gathered → OnChannel BulkSend
  | 0, _, _, _ => Prog.fault .fuel
  | fuel + 1, current, busy, g => do
      let (sent, g) ← sendPiece current busy g
      let srm ← Prog.view fun ch => ch.common.srm
      if !sent.status.success then return sent
      -- without single response mode writes are serialized
      else if !srm.enabled then return { sent with busy := true }
      else if sent.current.isSome && !sent.busy then sendPieces fuel sent.current sent.busy g
      else return sent

/-- A bound on the number of packets: every packet but the last takes at least one
byte. -/
def unsentBytes (blocks : Heap BulkData) : Nat :=
  (blocks.cells.map fun cell =>
    match cell with
    | some node => node.val.blockSize - node.val.bytesSent
    | none => 0).sum

/-- `OI_OBEXCOMMON_SendBulk`; `busy` is the value its argument points to. -/
def sendBulk (current : Option Ptr) (busy : Bool) : OnChannel BulkSend := do
  let ch ← Prog.view id
  if current.isNone then return ⟨.ok, none, busy, false⟩
  else
    let g := ⟨0, 0, hdrBody, ch.common.currentOpcode, false⟩
    sendPieces (unsentBytes ch.blocks + 1) current busy g

end OnChannel

end Obex
