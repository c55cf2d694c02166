import BtPlatform.Obex.Packet

/-!
# Body segmentation

A body header that does not fit is spread over several packets: each call cuts
off what the packet has room for and leaves the rest in `bodySegment`. Here the
sender's loop over `marshalBodySegment` is followed to its end, and the packets
are compared with the body they were made from.
-/

namespace Obex

open Support Format List

/-- The sender's loop: take the packet over, and marshal the next segment until
there is none. -/
def sendSegments : Nat → Common → Memory → Except Fault (Status × List Mbuf)
  | 0, _, _ => .error .fuel
  | fuel + 1, common, memory =>
      match common.bodySegment with
      | none => .ok (.ok, [])
      | some _ => do
          let (status, common, memory) ← marshalBodySegment common memory
          if !status.success then return (status, [])
          let (status, packets) ← sendSegments fuel { common with mbuf := none } memory
          return (status, common.mbuf.toList ++ packets)

/-- `OI_OBEXCOMMON_MarshalPacket` followed by the sender's loop. -/
def marshalSegmented (fuel : Nat) (common : Common) (pktHdr : ByteStream)
    (hdrs hdrList : List Header) (memory : Memory) : Except Fault (Status × List Mbuf) := do
  let (status, common, memory) ← marshalPacket common pktHdr hdrs hdrList memory
  if !status.success then return (status, [])
  let (status, packets) ← sendSegments fuel { common with mbuf := none } memory
  return (status, common.mbuf.toList ++ packets)

/-- Packets of at most `max` bytes that carry a body after some other headers.
All but the last have a non-final opcode and a body header; the last has the
original opcode and body header identifier. -/
inductive Segmented (max : Nat) (opcode : UInt8) (low : Fin 64) :
    Nat → List Header → List UInt8 → List Mbuf → Prop
  | last {p : Nat} {before : List Header} {body : List UInt8} {packet : Mbuf} :
      Carries p opcode (before ++ [.byteseq low body]) packet → packet.bytes.length ≤ max →
      Segmented max opcode low p before body [packet]
  | more {p : Nat} {before : List Header} {segment body : List UInt8} {packet : Mbuf}
      {packets : List Mbuf} :
      Carries p (segmentOpcode opcode) (before ++ [.byteseq 8 segment]) packet →
      packet.bytes.length ≤ max → segment ≠ [] →
      Segmented max opcode low 3 [] body packets →
      Segmented max opcode low p before (segment ++ body) (packet :: packets)

/-- The body of a packet reaches the lower layer whole, in finitely many packets. -/
def DeliversBody (common : Common) (pktHdr : ByteStream) (hdrs hdrList before : List Header)
    (low : Fin 64) (body : List UInt8) : Prop :=
  ∃ fuel packets,
    marshalSegmented fuel common pktHdr hdrs hdrList Memory.plenty = .ok (.ok, packets) ∧
    Segmented common.maxSendPktLen common.currentOpcode low pktHdr.pos (packetOrder before) body
      packets

/-! ## One packet -/

theorem addHeaders_append (hs gs : List Header) :
    ∀ {m m₁ : Marshalling}, addHeaders hs m = .ok (.ok, m₁) →
      addHeaders (hs ++ gs) m = addHeaders gs m₁ := by
  induction hs with
  | nil =>
      intro m m₁ h
      obtain rfl : m = m₁ := (Prod.mk.inj (Except.ok.inj h)).2
      rfl
  | cons hd hs ih =>
      intro m m₁ h
      rw [cons_append, addHeaders]
      rw [addHeaders] at h
      cases hstep : addHeader m hd with
      | error e =>
          rw [hstep] at h
          cases h
      | ok result =>
          obtain ⟨status, m'⟩ := result
          rw [hstep, ok_bind] at h
          rw [ok_bind]
          by_cases hok : status.success = true
          · simp only [hok, if_true] at h ⊢
            exact ih h
          · simp only [hok] at h
            obtain rfl : status = .ok := (Prod.mk.inj (Except.ok.inj h)).1
            exact absurd rfl hok

theorem packetOrder_body (before : List Header) {low : Fin 64} (hlow : low = 8 ∨ low = 9)
    (body : List UInt8) :
    packetOrder (before ++ [.byteseq low body]) = packetOrder before ++ [.byteseq low body] := by
  have hprio : priorityHeader (Header.byteseq low body).id = false := by
    rcases hlow with rfl | rfl <;> rfl
  simp [packetOrder, hprio]

theorem isABodyHeader_body {low : Fin 64} (hlow : low = 8 ∨ low = 9) (body : List UInt8) :
    isABodyHeader (Header.byteseq low body).id = true := by
  rcases hlow with rfl | rfl <;> rfl

/-- A body that does not fit is cut after what there is room for. -/
theorem addHeader_cut (m : Marshalling) {low : Fin 64} (hlow : low = 8 ∨ low = 9)
    {body : List UInt8} (hlen : body.length ≤ 65532) (hmax : m.common.maxSendPktLen < 65536)
    {n : Nat} (hn : m.pktLen + 3 + n = m.common.maxSendPktLen) (hpos : 0 < n)
    (hcut : n < body.length) :
    ∃ result, addHeader m (.byteseq low body) = .ok result ∧
      Puts hdrBody (Header.byteseq 8 (body.take n)).encode 2
        { m with
          common := { m.common with bodySegment := some (.byteseq low (body.drop n)) }
          pktLen := m.pktLen + (3 + n) } result := by
  have hsize : headerSize (.byteseq low body) = 3 + body.length := by
    simp only [headerSize, headerPrefixLen]
    omega
  have hroom : (m.common.maxSendPktLen + 65536 - m.pktLen) % 65536 = 3 + n := by omega
  have hmod : (m.pktLen + (3 + n)) % 65536 = m.pktLen + (3 + n) := Nat.mod_eq_of_lt (by omega)
  have htake : (body.take n).length = n := by
    rw [length_take]
    omega
  obtain ⟨result, hrun, hputs⟩ := addByteseq_puts
    { m with
      common := { m.common with bodySegment := some (.byteseq low (body.drop n)) }
      pktLen := m.pktLen + (3 + n) } hdrBody body (by omega : n ≤ body.length) (by omega)
  refine ⟨result, ?_, ?_⟩
  · rw [← hrun]
    simp only [addHeader, hsize, isABodyHeader_body hlow, hroom]
    rw [if_neg (by omega), if_pos (by omega), if_neg (by simp), if_neg (by
      simp only [headerPrefixLen]
      omega)]
    simp only [Header.dropBody, headerPrefixLen, Nat.add_sub_cancel_left,
      if_pos (Nat.le_of_lt hcut),
      ok_bind, addValue, hmod]
  · have hencode : (Header.byteseq 8 (body.take n)).encode =
        hdrBody :: (bigEndian16 (3 + n) ++ body.take n) := by
      simp only [Header.encode, htake]
      rfl
    rw [hencode]
    exact hputs

/-- Which body segment is pending does not matter while headers are added. -/
theorem PutsAll.withSegment {hs : List Header} {m m' : Marshalling} {status : Status}
    (h : PutsAll hs m (status, m')) (segment : Option Header) :
    PutsAll hs { m with common := { m.common with bodySegment := segment } }
      (status, { m' with common := { m'.common with bodySegment := segment } }) := { h with
  bodySegment := rfl }

section Marshalled

variable {common : Common} {pktHdr : ByteStream} {hdrs hdrList before : List Header}
variable {low : Fin 64} {body : List UInt8}

/-- A packet that is marshalled in plentiful memory. -/
private theorem marshalPacket_of_mbuf {packet : Mbuf} {common' : Common}
    (h : marshalPacketMbuf common pktHdr hdrs hdrList Memory.plenty =
      .ok (.ok, some packet, common', Memory.plenty)) :
    marshalPacket common pktHdr hdrs hdrList Memory.plenty =
      .ok (.ok, { common' with mbuf := some packet }, Memory.plenty) := by
  rw [marshalPacket, h, ok_bind]
  rfl

/-- A body that fits behind the other headers ends its packet. -/
theorem marshalPacket_body_fits (h : Composed pktHdr) (hseg : common.bodySegment = none)
    (hmax : common.maxSendPktLen < 65536) (hlow : low = 8 ∨ low = 9)
    (hhdrs : hdrs ++ hdrList = before ++ [.byteseq low body])
    (hcells : 1 + ((hdrs ++ hdrList).map headerCells).sum ≤ 255)
    (hfits : pktHdr.pos + wireLengths before + 3 + body.length ≤ common.maxSendPktLen) :
    ∃ (packet : Mbuf) (common' : Common), marshalPacket common pktHdr hdrs hdrList Memory.plenty =
        .ok (.ok, { common' with mbuf := some packet }, Memory.plenty) ∧
      common'.bodySegment = none ∧ packet.bytes.length ≤ common.maxSendPktLen ∧
      Carries pktHdr.pos common.currentOpcode (packetOrder before ++ [.byteseq low body])
        packet := by
  have hlen : wireLengths (hdrs ++ hdrList) = wireLengths before + (3 + body.length) := by
    rw [hhdrs, wireLengths_append, wireLengths_cons, wireLengths_nil]
    rfl
  obtain ⟨status, mbuf, common', memory', hrun, hok, hnone, -, -, hsucc⟩ :=
    marshalPacketMbuf_fits h hseg hmax (by omega : pktHdr.pos + wireLengths (hdrs ++ hdrList) ≤ _)
      Memory.plenty
  obtain ⟨rfl, rfl⟩ := hsucc rfl hcells
  obtain ⟨packet, rfl, hcarries, -⟩ := hok rfl
  have hbytes := hcarries.length
  rw [hhdrs, packetOrder_body before hlow] at hcarries
  rw [wireLengths_packetOrder] at hbytes
  exact ⟨packet, common', marshalPacket_of_mbuf hrun, hnone, by omega, hcarries⟩

/-- A body that does not fit is cut: its packet is not final, and the rest of it
is left as the body segment. -/
theorem marshalPacket_body_cut (h : Composed pktHdr)
    (hmax : common.maxSendPktLen < 65536) (hlow : low = 8 ∨ low = 9)
    (hhdrs : hdrs ++ hdrList = before ++ [.byteseq low body])
    (hcells : 1 + ((hdrs ++ hdrList).map headerCells).sum ≤ 255) (hlen : body.length ≤ 65532)
    {n : Nat} (hn : pktHdr.pos + wireLengths before + 3 + n = common.maxSendPktLen)
    (hpos : 0 < n) (hcut : n < body.length) :
    ∃ (packet : Mbuf) (common' : Common), marshalPacket common pktHdr hdrs hdrList Memory.plenty =
        .ok (.ok, { common' with mbuf := some packet }, Memory.plenty) ∧
      common'.bodySegment = some (.byteseq low (body.drop n)) ∧
      common'.maxSendPktLen = common.maxSendPktLen ∧
      common'.currentOpcode = common.currentOpcode ∧
      packet.bytes.length ≤ common.maxSendPktLen ∧
      Carries pktHdr.pos (segmentOpcode common.currentOpcode)
        (packetOrder before ++ [.byteseq 8 (body.take n)]) packet := by
  generalize hsum : 1 + ((hdrs ++ hdrList).map headerCells).sum = cells at hcells
  have hmod : cells % 256 = cells := Nat.mod_eq_of_lt (by omega)
  have hcellsBefore : 1 + (before.map headerCells).sum + 2 = cells := by
    rw [← hsum, hhdrs, map_append, sum_append]
    simp only [map_cons, map_nil, sum_cons, sum_nil, headerCells,
      Header.kind, if_true]
    omega
  -- the other headers, then the cut body, with the segment already recorded
  let start : Marshalling := ⟨common, Mbuf.alloc cells, pktHdr.pos, Memory.plenty⟩
  let segment := some (Header.byteseq low (body.drop n))
  obtain ⟨⟨status, m₁⟩, hadd, hall⟩ := addHeaders_fits before start hmax
    (by simp only [start]; omega)
  obtain ⟨hok, hmem⟩ := hall.succeeds rfl (by
    simp only [start, Mbuf.cells_alloc, Mbuf.allocCells_alloc, length_nil, hmod]
    omega)
  simp only at hok hmem
  subst hok
  have hpktLen : m₁.pktLen = pktHdr.pos + wireLengths before := hall.pktLen rfl
  have hmax₁ : m₁.common.maxSendPktLen = common.maxSendPktLen := hall.maxSendPktLen
  obtain ⟨⟨status, m₂⟩, hcutRun, hputs⟩ := addHeader_cut m₁ hlow hlen (by omega)
    (by omega : m₁.pktLen + 3 + n = m₁.common.maxSendPktLen) hpos hcut
  have hplaced := hputs.placed
  have hle : m₁.mbuf.cells.length ≤ 0 + (before.map headerCells).sum := hall.cells_le
  have halloc : m₁.mbuf.allocCells = cells % 256 := hall.allocCells
  rw [or_iff_left (by simp [hmem])] at hplaced
  obtain rfl : status = .ok := hplaced.succeeds (by simp only; omega)
  have hsingle : PutsAll [.byteseq 8 (body.take n)]
      { m₁ with common := { m₁.common with bodySegment := segment } } (.ok, m₂) := by
    apply PutsAll.single
    rw [show (Header.byteseq 8 (body.take n)).wireLength = 3 + n by
      simp only [Header.wireLength, length_take]
      omega]
    exact hputs
  have hboth := (hall.withSegment segment).append hsingle
  have hsent : wireLengths (before ++ [.byteseq 8 (body.take n)]) =
      wireLengths before + (3 + n) := by
    simp only [wireLengths_append, wireLengths_cons, wireLengths_nil, Header.wireLength,
      length_take]
    omega
  obtain ⟨status, mbuf, hrun, hok, hsucc⟩ := marshalPacketMbuf_closes
    { common with bodySegment := segment } h hsum Memory.takeMbuf_plenty
    (by rw [hhdrs, addHeaders_append before _ hadd, addHeaders, hcutRun, ok_bind]; rfl)
    hboth (by omega)
  obtain rfl := hsucc rfl (by
    simp only [map_append, sum_append, map_cons, map_nil, sum_cons,
      sum_nil, headerCells, Header.kind, if_true]
    omega)
  obtain ⟨packet, rfl, hcarries, -⟩ := hok rfl
  have hmem₂ : m₂.memory = Memory.plenty := hputs.memory hmem
  have hseg₂ : m₂.common.bodySegment = segment := hputs.bodySegment
  have hop₂ : m₂.common.currentOpcode = common.currentOpcode :=
    hputs.currentOpcode.trans hall.currentOpcode
  have hbytes := hcarries.length
  rw [wireLengths_packetOrder] at hbytes
  have hclosing : closingOpcode m₂.common = segmentOpcode common.currentOpcode := by
    simp only [closingOpcode, hseg₂, segment, isABodyHeader_body hlow, if_true, hop₂]
  rw [packetOrder_body before (.inl rfl), hclosing] at hcarries
  rw [hmem₂] at hrun
  exact ⟨packet, m₂.common, marshalPacket_of_mbuf hrun, hseg₂,
    hputs.maxSendPktLen.trans hmax₁, hop₂, by omega, hcarries⟩

/-! ## All packets -/

/-- A segment is marshalled as the only header of a packet of its own. -/
theorem marshalBodySegment_eq {hdr : Header} (hseg : common.bodySegment = some hdr)
    (memory : Memory) :
    ∃ pkt, Composed pkt ∧ pkt.pos = 3 ∧ marshalBodySegment common memory =
      marshalPacket { common with bodySegment := none } pkt [hdr] [] memory := by
  obtain ⟨pkt, hinit, hcomposed, hpos⟩ :=
    initPacket_composed { common with bodySegment := none } common.currentOpcode
  refine ⟨pkt, hcomposed, hpos, ?_⟩
  simp only [marshalBodySegment, hseg]
  rw [hinit, ok_bind]

/-- Sending the rest of a body: every packet takes over part of it until the
last one fits. -/
theorem sendSegments_segmented (hlow : low = 8 ∨ low = 9) (fuel : Nat) :
    ∀ {common : Common} {body : List UInt8}, body.length + 2 ≤ fuel → body.length ≤ 65532 →
      255 ≤ common.maxSendPktLen → common.maxSendPktLen < 65536 →
      common.bodySegment = some (.byteseq low body) →
      ∃ packets, sendSegments fuel common Memory.plenty = .ok (.ok, packets) ∧
        Segmented common.maxSendPktLen common.currentOpcode low 3 [] body packets := by
  induction fuel with
  | zero => intro common body hfuel; omega
  | succ fuel ih =>
      intro common body hfuel hlen hmin hmax hseg
      obtain ⟨pkt, hcomposed, hpos, hstep⟩ := marshalBodySegment_eq hseg Memory.plenty
      have hhdrs : [Header.byteseq low body] ++ [] = [] ++ [Header.byteseq low body] := rfl
      have hcells : 1 + (([.byteseq low body] ++ [] : List Header).map headerCells).sum ≤ 255 := by
        simp [headerCells, Header.kind]
      have hmax₀ : ({ common with bodySegment := none } : Common).maxSendPktLen < 65536 := hmax
      by_cases hfits : 6 + body.length ≤ common.maxSendPktLen
      · obtain ⟨packet, common', hrun, hnone, hle, hcarries⟩ :=
          marshalPacket_body_fits hcomposed rfl hmax₀ hlow hhdrs hcells
            (by simp only [hpos, wireLengths_nil]; omega)
        obtain ⟨fuel, rfl⟩ : ∃ n, fuel = n + 1 := ⟨fuel - 1, by omega⟩
        refine ⟨[packet], ?_, ?_⟩
        · simp only [sendSegments, hseg, hstep, hrun, ok_bind, hnone]
          rfl
        · rw [hpos] at hcarries
          exact .last hcarries hle
      · obtain ⟨n, hn⟩ : ∃ n, 6 + n = common.maxSendPktLen := ⟨_, Nat.add_sub_cancel' (by omega)⟩
        obtain ⟨packet, common', hrun, hseg', hmax', hop', hle, hcarries⟩ :=
          marshalPacket_body_cut hcomposed hmax₀ hlow hhdrs hcells hlen
            (by simp only [hpos, wireLengths_nil]; omega) (by omega : 0 < n) (by omega)
        obtain ⟨packets, hrec, hsegmented⟩ := @ih { common' with mbuf := none } (body.drop n)
          (by rw [length_drop]; omega) (by rw [length_drop]; omega)
          (by rw [← hmax'] at hmin; exact hmin) (by rw [← hmax'] at hmax₀; exact hmax₀) hseg'
        simp only [hmax', hop'] at hsegmented
        refine ⟨packet :: packets, ?_, ?_⟩
        · simp only [sendSegments, hseg, hstep, hrun, ok_bind]
          rw [if_neg (by decide), hrec, ok_bind]
          rfl
        · rw [hpos] at hcarries
          have hne : body.take n ≠ [] := by
            apply ne_nil_of_length_pos
            rw [length_take]
            omega
          have hmore := Segmented.more hcarries hle hne hsegmented
          rwa [take_append_drop] at hmore

/-- Either the last packet is the only one, or there is room for a segment. -/
theorem Segmented.room {max p : Nat} {opcode : UInt8} {packets : List Mbuf}
    (h : Segmented max opcode low p before body packets) :
    p + wireLengths before + 3 + body.length ≤ max ∨
      3 < max - (p + wireLengths before) ∧ 2 ≤ packets.length := by
  have hne : ∀ {p : Nat} {before : List Header} {body : List UInt8} {packets : List Mbuf},
      Segmented max opcode low p before body packets → 1 ≤ packets.length := by
    intro p before body packets h
    cases h <;> simp
  cases h with
  | last hcarries hle =>
      have hlen := hcarries.length
      simp only [wireLengths_append, wireLengths_cons, wireLengths_nil, Header.wireLength] at hlen
      omega
  | @more _ _ segment _ _ _ hcarries hle hseg htail =>
      have hlen := hcarries.length
      have hpos := length_pos_iff.mpr hseg
      have := hne htail
      simp only [wireLengths_append, wireLengths_cons, wireLengths_nil, Header.wireLength] at hlen
      simp only [length_cons]
      omega

/-- The size of a body of 65533 bytes or more wraps: it is refused, or taken to
fit, but never cut while there is room for a few bytes. -/
theorem addHeader_long (m : Marshalling) (hlong : 65533 ≤ body.length)
    (hlen : body.length < 65536) (hroom : 3 < m.common.maxSendPktLen - m.pktLen) :
    ∃ result, addHeader m (.byteseq low body) = .ok result ∧
      result.2.common.bodySegment = m.common.bodySegment := by
  have hsize : headerSize (.byteseq low body) = body.length + 3 - 65536 := by
    simp only [headerSize, headerPrefixLen]
    omega
  by_cases hzero : body.length + 3 - 65536 = 0
  · refine ⟨(.invalidParameters, m), ?_, rfl⟩
    simp only [addHeader, hsize, hzero, if_true]
    rfl
  · have hcount : (body.length + 3 - 65536 + 65536 - headerPrefixLen) % 65536 = body.length := by
      simp only [headerPrefixLen]
      omega
    simp only [addHeader, hsize]
    rw [if_neg hzero, if_neg (by omega)]
    simp only [addValue, addByteseq, hcount, Nat.lt_irrefl, if_false]
    refine ⟨_, rfl, ?_⟩
    simp only [apply_ite Common.bodySegment, Common.addProgress, ite_self]

/-- A packet whose body is too long leaves no body segment behind. -/
theorem marshalPacket_long (h : Composed pktHdr) (hseg : common.bodySegment = none)
    (hmax : common.maxSendPktLen < 65536)
    (hhdrs : hdrs ++ hdrList = before ++ [.byteseq low body])
    (hcells : 1 + ((hdrs ++ hdrList).map headerCells).sum ≤ 255)
    (hlong : 65533 ≤ body.length) (hlen : body.length < 65536)
    (hroom : 3 < common.maxSendPktLen - (pktHdr.pos + wireLengths before)) :
    ∃ (status : Status) (common' : Common) (memory' : Memory),
      marshalPacket common pktHdr hdrs hdrList Memory.plenty = .ok (status, common', memory') ∧
        common'.bodySegment = none := by
  obtain ⟨b0, b1, b2, w, hw, hpos⟩ := h.exists_writing
  generalize hsum : 1 + ((hdrs ++ hdrList).map headerCells).sum = cells at hcells
  have hmod : cells % 256 = cells := Nat.mod_eq_of_lt (by omega)
  have hcellsBefore : 1 + (before.map headerCells).sum + 2 = cells := by
    rw [← hsum, hhdrs, map_append, sum_append]
    simp only [map_cons, map_nil, sum_cons, sum_nil, headerCells,
      Header.kind, if_true]
    omega
  obtain ⟨⟨status, m₁⟩, hadd, hall⟩ := addHeaders_fits before
    ⟨common, Mbuf.alloc cells, pktHdr.pos, Memory.plenty⟩ hmax (by simp only; omega)
  obtain ⟨hok, -⟩ := hall.succeeds rfl (by
    simp only [Mbuf.cells_alloc, Mbuf.allocCells_alloc, length_nil, hmod]
    omega)
  simp only at hok
  subst hok
  have hpktLen : m₁.pktLen = pktHdr.pos + wireLengths before := hall.pktLen rfl
  have hmax₁ : m₁.common.maxSendPktLen = common.maxSendPktLen := hall.maxSendPktLen
  obtain ⟨⟨status, m₂⟩, hrun, hseg₂⟩ := @addHeader_long low body m₁ hlong hlen (by omega)
  have hnone : m₂.common.bodySegment = none := (hseg₂.trans hall.bodySegment).trans hseg
  have hboth : addHeaders (hdrs ++ hdrList)
      ⟨common, Mbuf.alloc cells, pktHdr.pos, Memory.plenty⟩ = .ok (status, m₂) := by
    rw [hhdrs, addHeaders_append before _ hadd, addHeaders, hrun, ok_bind]
    by_cases hok : status = .ok
    · subst hok
      rfl
    · simp only [Status.success, beq_iff_eq, hok, if_false]
      rfl
  have hpacket := marshalPacketMbuf_eq hw hsum Memory.takeMbuf_plenty hboth rfl
  rw [marshalPacket, hpacket]
  split
  · exact ⟨_, _, _, rfl, hnone⟩
  · split <;> exact ⟨_, _, _, rfl, hnone⟩

/-- A body is delivered if it fits the first packet or leaves room there for a part of it. -/
theorem deliversBody_of_room (h : Composed pktHdr) (hseg : common.bodySegment = none)
    (hmin : 255 ≤ common.maxSendPktLen) (hmax : common.maxSendPktLen < 65536)
    (hlow : low = 8 ∨ low = 9) (hhdrs : hdrs ++ hdrList = before ++ [.byteseq low body])
    (hcells : 1 + ((hdrs ++ hdrList).map headerCells).sum ≤ 255) (hshort : body.length ≤ 65532)
    (hroom : pktHdr.pos + wireLengths before + 3 + body.length ≤ common.maxSendPktLen ∨
      3 < common.maxSendPktLen - (pktHdr.pos + wireLengths before)) :
    DeliversBody common pktHdr hdrs hdrList before low body := by
  by_cases hfits : pktHdr.pos + wireLengths before + 3 + body.length ≤ common.maxSendPktLen
  · obtain ⟨packet, common', hpacket, hnone, hle, hcarries⟩ :=
      marshalPacket_body_fits h hseg hmax hlow hhdrs hcells hfits
    refine ⟨1, [packet], ?_, .last hcarries hle⟩
    simp only [marshalSegmented, hpacket, ok_bind, sendSegments, hnone]
    rfl
  · obtain ⟨n, hn⟩ : ∃ n, pktHdr.pos + wireLengths before + 3 + n = common.maxSendPktLen :=
      ⟨_, Nat.add_sub_cancel' (by omega)⟩
    obtain ⟨packet, common', hpacket, hseg', hmax', hop', hle, hcarries⟩ :=
      marshalPacket_body_cut h hmax hlow hhdrs hcells hshort hn (by omega) (by omega)
    obtain ⟨packets, hrec, hsegmented⟩ :=
      @sendSegments_segmented low hlow (body.length + 2) { common' with mbuf := none }
        (body.drop n) (by rw [length_drop]; omega) (by rw [length_drop]; omega)
        (by rw [← hmax'] at hmin; exact hmin) (by rw [← hmax'] at hmax; exact hmax) hseg'
    simp only [hmax', hop'] at hsegmented
    refine ⟨body.length + 2, packet :: packets, ?_, ?_⟩
    · simp only [marshalSegmented, hpacket, ok_bind]
      rw [if_neg (by decide), hrec, ok_bind]
      rfl
    · have hne : body.take n ≠ [] := by
        apply ne_nil_of_length_pos
        rw [length_take]
        omega
      have hmore := Segmented.more hcarries hle hne hsegmented
      rwa [take_append_drop] at hmore

end Marshalled

end Obex
