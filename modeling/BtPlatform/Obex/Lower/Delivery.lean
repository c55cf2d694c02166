import BtPlatform.Obex.Segment
import BtPlatform.Obex.RoundTrip
import BtPlatform.Obex.Lower.Reassembly
import Mathlib.Algebra.BigOperators.Group.List.Basic

/-!
# Headers over RFCOMM

What one side marshals the other side parses, whatever the pieces in which `recv` yields the
bytes: the packets are put together again by their length fields, and the headers of each one
are read back. So are the parts of a body that takes several packets.
-/

namespace Obex

open Support Format Program.Prog Lower List

/-- The parser finds the headers behind a packet header of `p` bytes. -/
structure Reads (p : Nat) (opcode : UInt8) (headers : List Header) (data : List UInt8) : Prop where
  opcode : data.head? = some opcode
  parsed : ∀ (order : CpuByteOrder) (addr : Nat) (common : Common), ∃ list common' bs',
    parseHeaderList order true common ((ByteStream.open' data addr .read).advance p) =
      .ok (.ok, list, common', bs') ∧ list.values order bs'.bsdata = some headers

/-- Headers, and the packet into which they are marshalled. -/
structure Outgoing where
  common : Common
  pktHdr : ByteStream
  hdrs : List Header
  hdrList : List Header
  memory : Memory
  packet : Mbuf
  composed : Composed pktHdr
  noSegment : common.bodySegment = none
  fits : pktHdr.pos + wireLengths (hdrs ++ hdrList) ≤ common.maxSendPktLen
  marshalled : ∃ common' memory', marshalPacketMbuf common pktHdr hdrs hdrList memory =
    .ok (.ok, some packet, common', memory')

/-- What the receiver makes of the packets of a body: the headers before it come with the
first part, and the last part has the opcode and the header of the whole. -/
inductive Assembled (opcode : UInt8) (low : Fin 64) :
    Nat → List Header → List UInt8 → List (List UInt8) → Prop
  | last {p : Nat} {before : List Header} {body data : List UInt8} :
      Reads p opcode (before ++ [.byteseq low body]) data →
      Assembled opcode low p before body [data]
  | more {p : Nat} {before : List Header} {part body data : List UInt8}
      {rest : List (List UInt8)} :
      Reads p (segmentOpcode opcode) (before ++ [.byteseq 8 part]) data →
      Assembled opcode low 3 [] body rest →
      Assembled opcode low p before (part ++ body) (data :: rest)

/-! ## One packet -/

section Packet

variable {p mtu : Nat} {opcode : UInt8} {headers : List Header} {packet : Mbuf}

theorem Carries.wellFormed (h : Carries p opcode headers packet) (hle : packet.bytes.length ≤ mtu) :
    WellFormed mtu packet.bytes where
  length := by
    obtain ⟨hi, lo, hhi, hlo, hlength⟩ := h.lengthField
    cases hbytes : packet.bytes with
    | nil => simp [hbytes] at hhi
    | cons b tail =>
        obtain ⟨rest, rfl⟩ : ∃ rest, tail = hi :: lo :: rest := by
          cases tail with
          | nil => simp [hbytes] at hhi
          | cons c tail => cases tail <;> simp_all
        rw [← hbytes, ← hlength, hbytes]
        rfl
  fits := hle

theorem Carries.reads (h : Carries p opcode (packetOrder headers) packet)
    (hcount : headers.length ≤ 255) (hle : packet.bytes.length < 65536) :
    Reads p opcode (packetOrder headers) packet.bytes where
  opcode := by rw [head?_eq_getElem?]; exact h.opcode_eq
  parsed := (faithful_of_carries h hcount le_rfl hle).parsed

theorem Outgoing.carries (o : Outgoing) (hmax : o.common.maxSendPktLen < 65536) :
    Carries o.pktHdr.pos o.common.currentOpcode (packetOrder (o.hdrs ++ o.hdrList)) o.packet ∧
      (o.hdrs ++ o.hdrList).length ≤ 255 ∧ o.packet.bytes.length ≤ o.common.maxSendPktLen := by
  obtain ⟨status, mbuf, common', memory', hrun, hok, -⟩ :=
    marshalPacketMbuf_fits o.composed o.noSegment hmax o.fits o.memory
  obtain ⟨_, _, hmarshalled⟩ := o.marshalled
  rw [hrun] at hmarshalled
  cases hmarshalled
  obtain ⟨_, hpacket, hcarries, hcount⟩ := hok rfl
  cases hpacket
  refine ⟨hcarries, by omega, ?_⟩
  rw [hcarries.length, wireLengths_packetOrder]
  exact o.fits

end Packet

/-! ## The way through the socket -/

section Delivery

variable {readBuffer : List UInt8} {segments packets : List (List UInt8)} {n : Nat}

/-- After enough turns the packets have been passed up, and nothing else. -/
theorem packets_delivered (maxRxPacketSize : Nat) (hmtu : readBuffer.length < 65536)
    (hwf : ∀ packet ∈ packets, WellFormed readBuffer.length packet)
    (hne : ∀ segment ∈ segments, segment ≠ []) (hflat : segments.flatten = packets.flatten)
    (hn : segments.flatten.length ≤ n) :
    ∃ s, Ends (turns n) (.start .rfcomm maxRxPacketSize readBuffer segments) () s ∧
      s.isOpen ∧ s.delivered = packets := by
  obtain ⟨s, rest, hends, hinv, hleft⟩ := turns_reassemble (n := n)
    (start_reassembles maxRxPacketSize hmtu hne hflat) hwf
  have hdrained : s.socket = [] := by
    obtain hdrained | hleft := hleft
    · exact hdrained
    · have hall : s.socket.flatten.length + n ≤ segments.flatten.length := hleft
      exact socket_eq_nil hinv.segments (length_eq_zero_iff.1 (by omega))
  exact ⟨s, hends, hinv.isOpen, (hinv.drained hwf hdrained).1⟩

/-- The headers of all packets are read back, in the order in which they were sent. -/
theorem headers_delivered (maxRxPacketSize : Nat) {outbox : List Outgoing}
    (hmtu : readBuffer.length < 65536)
    (hmax : ∀ o ∈ outbox, o.common.maxSendPktLen ≤ readBuffer.length)
    (hne : ∀ segment ∈ segments, segment ≠ [])
    (hflat : segments.flatten = outbox.flatMap fun o => o.packet.bytes)
    (hn : segments.flatten.length ≤ n) :
    ∃ s, Ends (turns n) (.start .rfcomm maxRxPacketSize readBuffer segments) () s ∧ s.isOpen ∧
      Forall₂ (fun o data => Reads o.pktHdr.pos o.common.currentOpcode
        (packetOrder (o.hdrs ++ o.hdrList)) data) outbox s.delivered := by
  have hsent : ∀ o ∈ outbox, WellFormed readBuffer.length o.packet.bytes ∧
      Reads o.pktHdr.pos o.common.currentOpcode (packetOrder (o.hdrs ++ o.hdrList))
        o.packet.bytes := by
    intro o ho
    have hle := hmax o ho
    obtain ⟨hcarries, hcount, hlength⟩ := o.carries (by omega)
    exact ⟨hcarries.wellFormed (by omega), hcarries.reads hcount (by omega)⟩
  have hwf : ∀ packet ∈ outbox.map fun o => o.packet.bytes, WellFormed readBuffer.length packet :=
    forall_mem_map.2 fun o ho => (hsent o ho).1
  obtain ⟨s, hends, hopen, hdelivered⟩ := packets_delivered maxRxPacketSize hmtu hwf hne hflat hn
  refine ⟨s, hends, hopen, ?_⟩
  rw [hdelivered, forall₂_map_right_iff, forall₂_same]
  exact fun o ho => (hsent o ho).2

/-- A name and a part of a body. -/
def putName : Outgoing where
  common := sending 32 cmdPut
  pktHdr := plainPktHdr
  hdrs := [.unicode 1 [0x61, 0]]
  hdrList := [.byteseq 8 [1, 2, 3]]
  memory := .plenty
  packet := ⟨4, [⟨[2, 0, 16], none⟩, ⟨[1, 0, 7, 0, 97, 0, 0], none⟩, ⟨[72, 0, 6], none⟩,
    ⟨[1, 2, 3], none⟩], 16⟩
  composed := plainPktHdr_composed
  noSegment := rfl
  fits := by decide
  marshalled := ⟨_, _, rfl⟩

/-- The packet twice, in four pieces. -/
theorem headers_delivered_twice :
    ∃ s, Ends (turns 32) (.start .rfcomm 32 (replicate 32 0)
        [[2], [0, 16, 1, 0, 7, 0, 97, 0], [0, 72, 0, 6, 1, 2, 3, 2, 0], [16, 1, 0, 7, 0, 97, 0, 0,
          72, 0, 6, 1, 2, 3]]) () s ∧ s.isOpen ∧
      Forall₂ (fun o data => Reads o.pktHdr.pos o.common.currentOpcode
        (packetOrder (o.hdrs ++ o.hdrList)) data) [putName, putName] s.delivered :=
  headers_delivered 32 (by decide) (by simp [putName, sending]) (by decide) rfl (by decide)

theorem Segmented.assembled {max p : Nat} {opcode : UInt8} {low : Fin 64} {before : List Header}
    {body : List UInt8} {packets : List Mbuf} (hlow : low = 8 ∨ low = 9)
    (hcount : before.length < 255) (hmax : max < 65536)
    (h : Segmented max opcode low p (packetOrder before) body packets) :
    Assembled opcode low p (packetOrder before) body (packets.map Mbuf.bytes) ∧
      ∀ packet ∈ packets, WellFormed max packet.bytes := by
  have hreads : ∀ {p op before packet part} {l : Fin 64}, l = 8 ∨ l = 9 → before.length < 255 →
      Carries p op (packetOrder before ++ [.byteseq l part]) packet → packet.bytes.length ≤ max →
      Reads p op (packetOrder before ++ [.byteseq l part]) packet.bytes := by
    intro p op before packet part l hl hbefore hcarries hle
    rw [← packetOrder_body before hl] at hcarries ⊢
    refine hcarries.reads ?_ (by omega)
    rw [length_append, length_singleton]
    omega
  generalize hordered : packetOrder before = ordered at h
  induction h generalizing before with
  | last hcarries hle =>
      subst hordered
      exact ⟨.last (hreads hlow hcount hcarries hle), by simpa using hcarries.wellFormed hle⟩
  | more hcarries hle hne _ ih =>
      subst hordered
      obtain ⟨hrest, hwf⟩ := @ih [] (by decide) rfl
      exact ⟨.more (hreads (.inl rfl) hcount hcarries hle) hrest,
        forall_mem_cons.2 ⟨hcarries.wellFormed hle, hwf⟩⟩

end Delivery

end Obex
