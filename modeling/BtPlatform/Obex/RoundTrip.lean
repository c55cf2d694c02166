import BtPlatform.Obex.Packet
import BtPlatform.Obex.ParseExact

/-!
# Marshalling and parsing

A packet that was marshalled whole is read back by the header parser: the length
field counts its bytes, it respects the negotiated maximum, and the parser sees
exactly the headers that were given, in packet order. This holds precisely when
the headers fit in the packet, their sizes counted without wrapping. Beyond that
bound `HeaderSize` wraps for long values, and a body header that finds no room at
all is dropped without leaving a segment behind.
-/

namespace Obex

open Support Format List

/-- The bytes of a received packet after its packet header of `p` bytes. -/
def received (packet : Mbuf) (p addr : Nat) : ByteStream :=
  (ByteStream.open' packet.bytes addr .read).advance p

/-- The receiver of a packet gets what the sender was given. -/
structure Faithful (maxSendPktLen p : Nat) (headers : List Header) (packet : Mbuf) : Prop where
  lengthField : ∃ hi lo, packet.bytes[1]? = some hi ∧ packet.bytes[2]? = some lo ∧
    ofBigEndian16 hi lo = packet.bytes.length
  bounded : packet.bytes.length ≤ maxSendPktLen
  parsed : ∀ (order : CpuByteOrder) (addr : Nat) (common : Common),
    ∃ list common' bs', parseHeaderList order true common (received packet p addr) =
      .ok (.ok, list, common', bs') ∧
    list.values order bs'.bsdata = some (packetOrder headers)

/-- Whenever the packet is marshalled without leaving a body segment, it is
faithful; and composing it does not overrun a buffer. -/
def RoundTrips (common : Common) (pktHdr : ByteStream) (hdrs hdrList : List Header)
    (memory : Memory) : Prop :=
  match marshalPacketMbuf common pktHdr hdrs hdrList memory with
  | .error _ => False
  | .ok (.ok, some packet, common', _) => common'.bodySegment = none →
      Faithful common.maxSendPktLen pktHdr.pos (hdrs ++ hdrList) packet
  | .ok _ => True

/-- The packet is not refused with an error status and leaves no body segment. -/
def MarshalsWhole (common : Common) (pktHdr : ByteStream) (hdrs hdrList : List Header)
    (memory : Memory) : Prop :=
  match marshalPacketMbuf common pktHdr hdrs hdrList memory with
  | .error _ => True
  | .ok (status, _, common', _) => status = .ok ∧ common'.bodySegment = none

theorem received_readable {packet : Mbuf} {p : Nat} (addr : Nat) (hp : p ≤ packet.bytes.length)
    (hlt : packet.bytes.length < 65536) : (received packet p addr).Readable :=
  (ByteStream.readable_open' packet.bytes addr hlt).advance (by simpa using hp)

@[simp] theorem received_rest (packet : Mbuf) (p addr : Nat) :
    (received packet p addr).rest = packet.bytes.drop p := by
  simp [received]

/-- Headers each of which is well formed, as the parser counts them. -/
theorem exists_wireHeaders {hs : List Header} (h : ∀ hd ∈ hs, hd.Wf) :
    ∃ ws : List WireHeader, ws.map Subtype.val = hs :=
  ⟨hs.attach.map fun hd => ⟨hd.1, h hd.1 hd.2⟩, by simp⟩

theorem wf_of_wireLengths_lt {hs : List Header} (hlt : wireLengths hs < 65536) :
    ∀ hd ∈ hs, hd.Wf := by
  intro hd hmem
  apply wf_of_wireLength_lt
  exact Nat.lt_of_le_of_lt (wireLength_le_of_mem hmem) hlt

/-- A packet with at most 255 headers is parsed back. -/
theorem faithful_of_carries {max p : Nat} {opcode : UInt8} {headers : List Header}
    {packet : Mbuf} (h : Carries p opcode (packetOrder headers) packet)
    (hcount : headers.length ≤ 255) (hle : packet.bytes.length ≤ max) (hmax : max < 65536) :
    Faithful max p headers packet where
  lengthField := h.lengthField
  bounded := hle
  parsed := by
    intro order addr common
    have hlen := h.length
    have hwf := wf_of_wireLengths_lt (by omega : wireLengths (packetOrder headers) < 65536)
    obtain ⟨ws, hws⟩ := exists_wireHeaders hwf
    have hread := received_readable addr (by omega : p ≤ packet.bytes.length) (by omega)
    have hr : (received packet p addr).rest = headerCodec.encodeAll ws := by
      rw [received_rest, h.headers_eq, ← hws, encodeHeaders_val]
    have hwslen : ws.length = headers.length := by
      rw [← packetOrder_length headers, ← hws, length_map]
    obtain ⟨list, common', bs', hrun, hvalues⟩ :=
      parseHeaderList_encodeAll order true common hread hr (.inl rfl)
    rw [Nat.mod_eq_of_lt (by omega), take_length, hws] at hvalues
    exact ⟨list, common', bs', hrun, hvalues⟩

/-- The parser can only report headers whose bytes are there. -/
theorem Faithful.wireLengths_le {max p : Nat} {headers : List Header} {packet : Mbuf}
    (h : Faithful max p headers packet) (hp : p ≤ packet.bytes.length) (hmax : max < 65536) :
    p + wireLengths headers ≤ max := by
  have hread := received_readable 0 hp (Nat.lt_of_le_of_lt h.bounded hmax)
  obtain ⟨list, common', bs', hrun, hvalues⟩ := h.parsed .bigEndian 0 Common.zero
  by_cases hwf : ∃ ws : List WireHeader,
      (received packet p 0).rest = headerCodec.encodeAll ws
  · obtain ⟨ws, hr⟩ := hwf
    obtain ⟨list', common₁, bs₁, hrun', hvalues'⟩ :=
      parseHeaderList_encodeAll .bigEndian true Common.zero hread hr (.inl rfl)
    obtain ⟨rfl, -, rfl⟩ : list' = list ∧ common₁ = common' ∧ bs₁ = bs' := by
      simpa using hrun'.symm.trans hrun
    have htaken := Option.some.inj (hvalues'.symm.trans hvalues)
    have hlen := congrArg length hr
    rw [received_rest, length_drop, ← take_append_drop (ws.length % 256) ws,
      Codec.encodeAll_append, length_append, ← encodeHeaders_val, htaken,
      encodeHeaders_length, wireLengths_packetOrder] at hlen
    have := h.bounded
    omega
  · obtain ⟨bs₁, hbad⟩ := parseHeaderList_malformed .bigEndian true Common.zero hread
      fun ws hr => hwf ⟨ws, hr⟩
    rw [hbad] at hrun
    cases hrun

/-- A packet that is marshalled whole and read back faithfully had room for its headers. -/
theorem fits_of_roundTrips {common : Common} {pktHdr : ByteStream} (h : Composed pktHdr)
    (hmax : common.maxSendPktLen < 65536) {hdrs hdrList : List Header} {memory : Memory}
    (hwhole : MarshalsWhole common pktHdr hdrs hdrList memory)
    (hround : RoundTrips common pktHdr hdrs hdrList memory) :
    pktHdr.pos + wireLengths (hdrs ++ hdrList) ≤ common.maxSendPktLen := by
  cases hrun : marshalPacketMbuf common pktHdr hdrs hdrList memory with
  | error e =>
      rw [RoundTrips, hrun] at hround
      exact hround.elim
  | ok result =>
      obtain ⟨status, mbuf, common', memory'⟩ := result
      rw [MarshalsWhole, hrun] at hwhole
      obtain ⟨rfl, hnone⟩ := hwhole
      obtain ⟨packet, rfl, hlen⟩ := marshalPacketMbuf_ok h hrun
      rw [RoundTrips, hrun] at hround
      exact (hround hnone).wireLengths_le hlen hmax

/-- Marshalling round-trips precisely when the headers fit in the packet. -/
theorem roundTrips_iff {common : Common} {pktHdr : ByteStream} (h : Composed pktHdr)
    (hseg : common.bodySegment = none) (hmax : common.maxSendPktLen < 65536)
    {hdrs hdrList : List Header} {memory : Memory}
    (hwhole : MarshalsWhole common pktHdr hdrs hdrList memory) :
    RoundTrips common pktHdr hdrs hdrList memory ↔
      pktHdr.pos + wireLengths (hdrs ++ hdrList) ≤ common.maxSendPktLen := by
  constructor
  · exact fits_of_roundTrips h hmax hwhole
  · intro hfits
    obtain ⟨status, mbuf, common', memory', hrun, hok, hnone, -⟩ :=
      marshalPacketMbuf_fits h hseg hmax hfits memory
    rw [MarshalsWhole, hrun] at hwhole
    obtain ⟨packet, rfl, hcarries, hcount⟩ := hok hwhole.1
    rw [RoundTrips, hrun, hwhole.1]
    intro _
    refine faithful_of_carries hcarries (by omega) ?_ hmax
    rw [hcarries.length, wireLengths_packetOrder]
    exact hfits

instance (common : Common) (pktHdr : ByteStream) (hdrs hdrList : List Header) (memory : Memory) :
    Decidable (MarshalsWhole common pktHdr hdrs hdrList memory) := by
  unfold MarshalsWhole
  split <;> infer_instance

/-- A name, a connection identifier and a body share a packet. -/
theorem roundTrips_nameConnectionBody :
    RoundTrips (sending 255 cmdPut) plainPktHdr [.unicode 1 [0x61, 0], .uInt32 11 1]
      [.byteseq 8 [1, 2, 3]] Memory.plenty :=
  (roundTrips_iff plainPktHdr_composed rfl (by decide) (by decide)).mpr (by decide)

set_option maxRecDepth 4000 in
/-- A body that follows a type header of 252 bytes in a 255-byte packet is dropped
without an error and without a segment. -/
theorem not_roundTrips_dropped_body :
    ¬ RoundTrips (sending 255 cmdPut) plainPktHdr [.byteseq 2 (replicate 249 0x41)]
      [.byteseq 8 [1, 2, 3]] Memory.plenty := by
  intro hround
  have hfits := fits_of_roundTrips plainPktHdr_composed (by decide) (by decide +kernel) hround
  exact absurd hfits (by decide +kernel)

end Obex
