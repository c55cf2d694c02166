import BtPlatform.Obex.Marshal

/-!
# What marshalling a header does

A header that fits, counted without wrapping, is written in its wire format:
priority headers before everything written so far, the others behind it. The
lemmas below say so for one header and for a sequence, together with the cells
that are used, and describe the packet that results.
-/

namespace Obex

open Support Format List

/-- The headers of a packet in the order in which they are sent: priority headers
first, in reverse order of insertion, then the others. -/
def packetOrder (headers : List Header) : List Header :=
  (headers.filter fun h => priorityHeader h.id).reverse ++
    headers.filter fun h => !priorityHeader h.id

/-- The bytes of a sequence of headers. -/
def encodeHeaders (headers : List Header) : List UInt8 := headers.flatMap Header.encode

/-- The bytes a sequence of headers occupies in a packet. -/
def wireLengths (headers : List Header) : Nat := (headers.map Header.wireLength).sum

@[simp] theorem encodeHeaders_nil : encodeHeaders [] = [] := rfl

@[simp] theorem encodeHeaders_cons (h : Header) (hs : List Header) :
    encodeHeaders (h :: hs) = h.encode ++ encodeHeaders hs := by
  simp [encodeHeaders]

@[simp] theorem encodeHeaders_append (hs gs : List Header) :
    encodeHeaders (hs ++ gs) = encodeHeaders hs ++ encodeHeaders gs := by
  simp [encodeHeaders]

@[simp] theorem wireLengths_nil : wireLengths [] = 0 := rfl

@[simp] theorem wireLengths_cons (h : Header) (hs : List Header) :
    wireLengths (h :: hs) = h.wireLength + wireLengths hs := by
  simp [wireLengths]

@[simp] theorem wireLengths_append (hs gs : List Header) :
    wireLengths (hs ++ gs) = wireLengths hs + wireLengths gs := by
  simp [wireLengths]

@[simp] theorem encodeHeaders_length (hs : List Header) :
    (encodeHeaders hs).length = wireLengths hs := by
  induction hs with
  | nil => rfl
  | cons h hs ih => simp [ih]

theorem packetOrder_perm (hs : List Header) : (packetOrder hs).Perm hs :=
  ((reverse_perm _).append_right _).trans
    (filter_append_perm (fun h => priorityHeader h.id) hs)

@[simp] theorem packetOrder_length (hs : List Header) :
    (packetOrder hs).length = hs.length :=
  (packetOrder_perm hs).length_eq

theorem wireLengths_packetOrder (hs : List Header) :
    wireLengths (packetOrder hs) = wireLengths hs :=
  ((packetOrder_perm hs).map Header.wireLength).sum_nat

variable {hs hdrs hdrList : List Header} {m : Marshalling} {pktHdr : ByteStream} {w : List UInt8}
variable {common : Common}

variable {h : Header} {status : Status} {memory : Memory}

theorem wireLength_le_of_mem (hmem : h ∈ hs) : h.wireLength ≤ wireLengths hs := by
  induction hs with
  | nil => cases hmem
  | cons g hs ih =>
      rw [wireLengths_cons]
      rcases mem_cons.mp hmem with rfl | hmem
      · exact Nat.le_add_right _ _
      · exact Nat.le_trans (ih hmem) (Nat.le_add_left _ _)

/-- The bytes of well-formed headers are what the header codec writes. -/
theorem encodeHeaders_val (hs : List WireHeader) :
    encodeHeaders (hs.map Subtype.val) = headerCodec.encodeAll hs := by
  induction hs with
  | nil => rfl
  | cons h hs ih =>
      rw [map_cons, encodeHeaders_cons, Codec.encodeAll_cons, ih]
      rfl

theorem wireLength_pos (h : Header) : 2 ≤ h.wireLength := by
  cases h <;> simp only [Header.wireLength] <;> omega

/-- A header whose bytes fit a sixteen-bit length is well formed. -/
theorem wf_of_wireLength_lt (hlt : h.wireLength < 65536) : h.Wf := by
  cases h <;> first | exact hlt | trivial

theorem headerSize_of_lt (hlt : h.wireLength < 65536) : headerSize h = h.wireLength := by
  cases h <;> simp only [headerSize, Header.wireLength, headerPrefixLen] at * <;> omega

/-- What an attempt to add `sent` to the packet may change. -/
structure Puts (hdrId : UInt8) (sent : List UInt8) (n : Nat) (m : Marshalling)
    (result : Status × Marshalling) : Prop where
  bodySegment : result.2.common.bodySegment = m.common.bodySegment
  maxSendPktLen : result.2.common.maxSendPktLen = m.common.maxSendPktLen
  currentOpcode : result.2.common.currentOpcode = m.common.currentOpcode
  pktLen : result.2.pktLen = m.pktLen
  placed : Mbuf.Placed (priorityHeader hdrId) sent n m.mbuf (result.1, result.2.mbuf) ∨
    result.1 = .outOfMemory ∧ result.2.mbuf = m.mbuf ∧ m.memory ≠ Memory.plenty
  memory : m.memory = Memory.plenty → result.2.memory = Memory.plenty

theorem addToMbuf_placed (hdrId : UInt8) (mbuf : Mbuf) (sent : List UInt8) :
    Mbuf.Placed (priorityHeader hdrId) sent 1 mbuf (addToMbuf hdrId mbuf sent) := by
  unfold addToMbuf
  cases priorityHeader hdrId
  · exact Mbuf.append_placed mbuf sent none
  · exact Mbuf.prepend_placed mbuf sent none

theorem putChars_encodeChars (str : List UInt16) :
    ∀ {bs : ByteStream} {w : List UInt8} (_ : bs.Writing w),
      bs.pos + 2 * str.length ≤ bs.size →
      ∃ bs', putChars str bs = .ok bs' ∧ bs'.Writing (w ++ Header.encodeChars str) ∧
        bs'.size = bs.size := by
  induction str with
  | nil =>
      intro bs w h hroom
      exact ⟨bs, rfl, by simpa using h, rfl⟩
  | cons c str ih =>
      intro bs w h hroom
      rw [length_cons] at hroom
      obtain ⟨bs₁, hput, hw₁, hsize₁⟩ := h.putUINT16 (by omega) c.toNat
      have hpos₁ := hw₁.pos_eq
      rw [length_append, bigEndian16_length, ← h.pos_eq] at hpos₁
      obtain ⟨bs₂, hputs, hw₂, hsize₂⟩ := ih hw₁ (by omega)
      refine ⟨bs₂, by rw [putChars, hput, ok_bind, hputs], ?_, hsize₂.trans hsize₁⟩
      simpa [bigEndian16] using hw₂

/-- A Unicode header is composed in a buffer of exactly its size. -/
theorem addUnicode_puts (m : Marshalling) (hdrId : UInt8) (str : List UInt16)
    (hlt : 3 + 2 * str.length < 65536) :
    ∃ result, addUnicode m hdrId str (3 + 2 * str.length) = .ok result ∧
      Puts hdrId (hdrId :: (bigEndian16 (3 + 2 * str.length) ++ Header.encodeChars str)) 1 m
        result := by
  have hstart : (ByteStream.open' (replicate (3 + 2 * str.length) 0) 0 .write).size =
      3 + 2 * str.length := length_replicate
  obtain ⟨bs₁, hput₁, hw₁, hsize₁⟩ :=
    (ByteStream.writing_open' (replicate (3 + 2 * str.length) 0) 0).putUINT8
      (by rw [hstart]; simp only [ByteStream.open']; omega) hdrId.toNat
  have hpos₁ : bs₁.pos = 1 := hw₁.pos_eq
  obtain ⟨bs₂, hput₂, hw₂, hsize₂⟩ := hw₁.putUINT16 (by omega) (3 + 2 * str.length)
  have hpos₂ : bs₂.pos = 3 := hw₂.pos_eq
  obtain ⟨bs₃, hput₃, hw₃, hsize₃⟩ := putChars_encodeChars str hw₂ (by omega)
  have hpos₃ : bs₃.pos = 3 + 2 * str.length := by
    rw [hw₃.pos_eq]
    simp [bigEndian16]
    omega
  have hsent : (bs₃.close.bsdata.take bs₃.close.size) =
      hdrId :: (bigEndian16 (3 + 2 * str.length) ++ Header.encodeChars str) := by
    have hwritten := hw₃.written
    simp only [ByteStream.close, hw₃.writing, if_true]
    rw [hwritten, UInt8.ofNat_toNat]
    simp
  cases hroom : m.memory.takeBlock with
  | mk room memory =>
      have hmemory : m.memory = Memory.plenty → room = true ∧ memory = Memory.plenty := by
        intro hplenty
        rw [hplenty, Memory.takeBlock_plenty] at hroom
        exact ⟨(Prod.mk.inj hroom).1.symm, (Prod.mk.inj hroom).2.symm⟩
      cases room with
      | false =>
          refine ⟨(.outOfMemory, { m with memory := memory }), ?_, rfl, rfl, rfl, rfl, ?_, ?_⟩
          · simp only [addUnicode, hroom]
            rfl
          · exact .inr ⟨rfl, rfl, fun hplenty => by simpa using (hmemory hplenty).1⟩
          · exact fun hplenty => (hmemory hplenty).2
      | true =>
          generalize hdrId :: (bigEndian16 (3 + 2 * str.length) ++ Header.encodeChars str) =
            sent at hsent
          refine ⟨((addToMbuf hdrId m.mbuf sent).1,
            { m with memory := memory, mbuf := (addToMbuf hdrId m.mbuf sent).2 }),
            ?_, rfl, rfl, rfl, rfl, ?_, ?_⟩
          · simp only [addUnicode, hroom, hput₁, hput₂, hput₃, ok_bind, hpos₃, hsent,
              Nat.lt_irrefl, if_false, Bool.not_true, Bool.false_eq_true]
            rfl
          · exact .inl (addToMbuf_placed hdrId m.mbuf _)
          · exact fun hplenty => (hmemory hplenty).2

/-- A byte sequence is written as two cells, the second of which may be empty. -/
theorem addByteseq_puts (m : Marshalling) (hdrId : UInt8) (data : List UInt8) {n : Nat}
    (hn : n ≤ data.length) (hlt : 3 + n < 65536) :
    ∃ result, addByteseq m hdrId data (3 + n) = .ok result ∧
      Puts hdrId (hdrId :: (bigEndian16 (3 + n) ++ data.take n)) 2 m result := by
  have hcount : (3 + n + 65536 - headerPrefixLen) % 65536 = n := by
    unfold headerPrefixLen
    omega
  rw [← cons_append]
  generalize htmp : hdrId :: bigEndian16 (3 + n) = tmp
  suffices hput : ∃ status mbuf, Mbuf.Placed (priorityHeader hdrId) (tmp ++ data.take n) 2 m.mbuf
      (status, mbuf) ∧ addByteseq m hdrId data (3 + n) = .ok (status, { m with
        common := if status.success && isABodyHeader hdrId then m.common.addProgress (3 + n)
          else m.common
        mbuf := mbuf }) by
    obtain ⟨status, mbuf, hplaced, hrun⟩ := hput
    refine ⟨_, hrun, ?_, ?_, ?_, rfl, .inl hplaced, id⟩ <;>
      simp only <;> split <;> rfl
  simp only [addByteseq, hcount, Nat.not_lt.mpr hn, if_false, htmp]
  cases hprio : priorityHeader hdrId with
  | true =>
      have h1 := m.mbuf.prepend_placed (data.take n) none
      cases hfirst : m.mbuf.prepend (data.take n) none with
      | mk status mbuf =>
          rw [hfirst] at h1
          by_cases hok : status = .ok
          · subst hok
            exact ⟨_, _, h1.andThen (mbuf.prepend_placed tmp none), rfl⟩
          · refine ⟨status, mbuf, h1.failed hok 1, ?_⟩
            cases status <;> first | exact absurd rfl hok | rfl
  | false =>
      have h1 := m.mbuf.append_placed tmp none
      cases hfirst : m.mbuf.append tmp none with
      | mk status mbuf =>
          rw [hfirst] at h1
          by_cases hok : status = .ok
          · subst hok
            exact ⟨_, _, h1.andThen (mbuf.append_placed (data.take n) none), rfl⟩
          · refine ⟨status, mbuf, h1.failed hok 1, ?_⟩
            cases status <;> first | exact absurd rfl hok | rfl

/-- A header that fits is put into the packet as it is. -/
theorem addHeader_fits (m : Marshalling) (hd : Header) (hmax : m.common.maxSendPktLen < 65536)
    (hfits : m.pktLen + hd.wireLength ≤ m.common.maxSendPktLen) :
    ∃ result, addHeader m hd = .ok result ∧
      Puts hd.id hd.encode (headerCells hd) { m with pktLen := m.pktLen + hd.wireLength }
        result := by
  have hpos := wireLength_pos hd
  have hsize : headerSize hd = hd.wireLength := headerSize_of_lt (by omega)
  have hmod : (m.pktLen + hd.wireLength) % 65536 = m.pktLen + hd.wireLength :=
    Nat.mod_eq_of_lt (by omega)
  have hadd : addHeader m hd = addValue m hd.id hd hd.wireLength := by
    simp only [addHeader, hsize]
    rw [if_neg (by omega), if_neg (by omega)]
  rw [hadd]
  cases hd with
  | unicode low str =>
      simp only [Header.wireLength] at hfits hmod ⊢
      simp only [addValue, hmod]
      exact addUnicode_puts _ _ str (by omega)
  | byteseq low data =>
      simp only [Header.wireLength] at hfits hmod ⊢
      simp only [addValue, hmod]
      obtain ⟨result, hrun, hputs⟩ := addByteseq_puts
        { m with pktLen := m.pktLen + (3 + data.length) } (Header.byteseq low data).id data
        (Nat.le_refl _) (by omega)
      rw [take_length] at hputs
      exact ⟨result, hrun, hputs⟩
  | uInt8 low val =>
      simp only [Header.wireLength] at hfits hmod ⊢
      simp only [addValue, hmod]
      exact ⟨_, rfl, rfl, rfl, rfl, rfl, .inl (addToMbuf_placed _ _ _), id⟩
  | uInt32 low val =>
      simp only [Header.wireLength] at hfits hmod ⊢
      simp only [addValue, hmod]
      exact ⟨_, rfl, rfl, rfl, rfl, rfl, .inl (addToMbuf_placed _ _ _), id⟩

/-- What an attempt to add a sequence of headers may change. -/
structure PutsAll (hs : List Header) (m : Marshalling) (result : Status × Marshalling) : Prop where
  bodySegment : result.2.common.bodySegment = m.common.bodySegment
  maxSendPktLen : result.2.common.maxSendPktLen = m.common.maxSendPktLen
  currentOpcode : result.2.common.currentOpcode = m.common.currentOpcode
  pktLen : result.1 = .ok → result.2.pktLen = m.pktLen + wireLengths hs
  bytes : result.1 = .ok → result.2.mbuf.bytes =
    encodeHeaders (hs.filter fun h => priorityHeader h.id).reverse ++ m.mbuf.bytes ++
      encodeHeaders (hs.filter fun h => !priorityHeader h.id)
  allocCells : result.2.mbuf.allocCells = m.mbuf.allocCells
  cells_le : result.2.mbuf.cells.length ≤ m.mbuf.cells.length + (hs.map headerCells).sum
  bounded : m.mbuf.cells.length ≤ m.mbuf.allocCells →
    result.2.mbuf.cells.length ≤ m.mbuf.allocCells
  uses : result.1 = .ok → m.mbuf.cells.length + hs.length ≤ result.2.mbuf.cells.length
  succeeds : m.memory = Memory.plenty →
    m.mbuf.cells.length + (hs.map headerCells).sum ≤ m.mbuf.allocCells →
    result.1 = .ok ∧ result.2.memory = Memory.plenty

theorem encode_ne_nil (hd : Header) : hd.encode ≠ [] := by
  intro hnil
  have hlen := hd.encode_length
  have hpos := wireLength_pos hd
  rw [hnil, length_nil] at hlen
  omega

/-- A header that was put into the packet, as a sequence of its own. -/
theorem PutsAll.single {hd : Header} {m' : Marshalling}
    (h : Puts hd.id hd.encode (headerCells hd) { m with pktLen := m.pktLen + hd.wireLength }
      (.ok, m')) : PutsAll [hd] m (.ok, m') := by
  have hplaced : Mbuf.Placed (priorityHeader hd.id) hd.encode (headerCells hd) m.mbuf
      (.ok, m'.mbuf) := h.placed.resolve_right (by simp)
  refine
    { bodySegment := h.bodySegment
      maxSendPktLen := h.maxSendPktLen
      currentOpcode := h.currentOpcode
      pktLen := fun _ => h.pktLen, bytes := fun _ => ?_, allocCells := hplaced.allocCells
      cells_le := hplaced.cells_le, bounded := hplaced.bounded
      uses := fun _ => hplaced.uses rfl (encode_ne_nil hd)
      succeeds := fun hplenty _ => ⟨rfl, h.memory hplenty⟩ }
  rw [hplaced.bytes rfl]
  cases hprio : priorityHeader hd.id <;> simp [hprio]

/-- One sequence after another. -/
theorem PutsAll.append {gs : List Header} {m₁ : Marshalling} {result : Status × Marshalling}
    (h1 : PutsAll hs m (.ok, m₁)) (h2 : PutsAll gs m₁ result) : PutsAll (hs ++ gs) m result := by
  have halloc : m₁.mbuf.allocCells = m.mbuf.allocCells := h1.allocCells
  refine
    { bodySegment := h2.bodySegment.trans h1.bodySegment
      maxSendPktLen := h2.maxSendPktLen.trans h1.maxSendPktLen
      currentOpcode := h2.currentOpcode.trans h1.currentOpcode
      pktLen := ?_, bytes := ?_, allocCells := h2.allocCells.trans halloc
      cells_le := ?_, bounded := ?_, uses := ?_, succeeds := ?_ }
  · intro hok
    have hfirst : m₁.pktLen = m.pktLen + wireLengths hs := h1.pktLen rfl
    rw [h2.pktLen hok, hfirst, wireLengths_append, Nat.add_assoc]
  · intro hok
    have hfirst : m₁.mbuf.bytes = _ := h1.bytes rfl
    rw [h2.bytes hok, hfirst]
    simp
  · have hle := h1.cells_le
    have hle2 := h2.cells_le
    simp only [map_append, sum_append] at hle ⊢
    omega
  · intro hle
    have hb := h1.bounded hle
    rw [← halloc] at hb ⊢
    exact h2.bounded hb
  · intro hok
    have hlt := h1.uses rfl
    have hle := h2.uses hok
    simp only [length_append] at hlt ⊢
    omega
  · intro hplenty hroom
    have hle := h1.cells_le
    simp only [map_append, sum_append] at hroom hle
    exact h2.succeeds (h1.succeeds hplenty (by omega)).2 (by omega)

/-- The first header of a sequence cannot be added. -/
private theorem PutsAll.failed {hd : Header} {m₁ : Marshalling}
    (h : Puts hd.id hd.encode (headerCells hd) { m with pktLen := m.pktLen + hd.wireLength }
      (status, m₁)) (hfail : status ≠ .ok) : PutsAll (hd :: hs) m (status, m₁) := by
  have hmbuf : m₁.mbuf.allocCells = m.mbuf.allocCells ∧
      m₁.mbuf.cells.length ≤ m.mbuf.cells.length + headerCells hd ∧
      (m.mbuf.cells.length ≤ m.mbuf.allocCells → m₁.mbuf.cells.length ≤ m.mbuf.allocCells) := by
    rcases h.placed with hplaced | ⟨-, hsame, -⟩
    · exact ⟨hplaced.allocCells, hplaced.cells_le, hplaced.bounded⟩
    · rw [show m₁.mbuf = m.mbuf from hsame]
      exact ⟨rfl, by omega, id⟩
  refine
    { bodySegment := h.bodySegment
      maxSendPktLen := h.maxSendPktLen
      currentOpcode := h.currentOpcode
      pktLen := fun hok => absurd hok hfail, bytes := fun hok => absurd hok hfail
      allocCells := hmbuf.1, cells_le := ?_, bounded := hmbuf.2.2
      uses := fun hok => absurd hok hfail, succeeds := ?_ }
  · simp only [map_cons, sum_cons]
    omega
  · intro hplenty hroom
    simp only [map_cons, sum_cons] at hroom
    rcases h.placed with hplaced | ⟨-, -, hnot⟩
    · exact absurd (hplaced.succeeds (by simp only; omega)) hfail
    · exact absurd hplenty hnot

/-- Headers that fit together are put into the packet as they are. -/
theorem addHeaders_fits (hs : List Header) :
    ∀ (m : Marshalling), m.common.maxSendPktLen < 65536 →
      m.pktLen + wireLengths hs ≤ m.common.maxSendPktLen →
      ∃ result, addHeaders hs m = .ok result ∧ PutsAll hs m result := by
  induction hs with
  | nil =>
      intro m hmax hfits
      refine ⟨(.ok, m), rfl, ?_⟩
      constructor <;> simp +contextual
  | cons hd hs ih =>
      intro m hmax hfits
      rw [wireLengths_cons] at hfits
      obtain ⟨⟨status, m₁⟩, hrun, hputs⟩ := addHeader_fits m hd hmax (by omega)
      have hmax₁ : m₁.common.maxSendPktLen = m.common.maxSendPktLen := hputs.maxSendPktLen
      have hpktLen : m₁.pktLen = m.pktLen + hd.wireLength := hputs.pktLen
      by_cases hok : status = .ok
      · subst hok
        obtain ⟨result, hrec, hall⟩ := ih m₁ (by omega) (by omega)
        refine ⟨result, ?_, (PutsAll.single hputs).append hall⟩
        rw [addHeaders, hrun, ok_bind]
        exact hrec
      · refine ⟨(status, m₁), ?_, ?_⟩
        · rw [addHeaders, hrun, ok_bind]
          simp only [Status.success, beq_iff_eq, hok, if_false]
          rfl
        · exact PutsAll.failed hputs hok

/-! ## The finished packet -/

/-- Opcode and length are written over the first three bytes of the packet header. -/
theorem closePacket_eq {b0 b1 b2 : UInt8} (h : pktHdr.Writing (b0 :: b1 :: b2 :: w))
    (m : Marshalling) :
    closePacket pktHdr m =
      .ok (m.mbuf.prepend (closingOpcode m.common :: (bigEndian16 m.pktLen ++ w)) none) := by
  obtain ⟨bsdata, addr, pos, size, trueSize, error, rwFlag⟩ := pktHdr
  obtain ⟨hwriting, hpos, hsize, hle, hwritten⟩ := h
  simp only [length_cons] at hwriting hpos hsize hle hwritten
  subst hwriting hpos hsize
  match bsdata, hle, hwritten with
  | a0 :: a1 :: a2 :: rest, hle, hwritten =>
      have hw : rest.take w.length = w := by
        simp only [take_succ_cons, cons.injEq] at hwritten
        exact hwritten.2.2.2
      simp only [length_cons] at hle
      simp [closePacket, ByteStream.setPos, ByteStream.putUINT8,
        ByteStream.putUINT16, ByteStream.poke, ByteStream.advance, ByteStream.close, bigEndian16,
        hw, Nat.le_of_add_le_add_right hle]
  | [], hle, _ | [_], hle, _ | [_, _], hle, _ => simp at hle

/-- A packet header is composed: the opcode and length fields are reserved and
the rest of it is written. -/
structure Composed (pktHdr : ByteStream) : Prop where
  written : ∃ w, pktHdr.Writing w
  reserved : 3 ≤ pktHdr.pos

theorem Composed.exists_writing (h : Composed pktHdr) :
    ∃ b0 b1 b2 w, pktHdr.Writing (b0 :: b1 :: b2 :: w) ∧ pktHdr.pos = 3 + w.length := by
  obtain ⟨⟨w, hw⟩, hpos⟩ := h
  have hlen := hw.pos_eq
  match w, hw, hlen with
  | b0 :: b1 :: b2 :: w, hw, hlen =>
      exact ⟨b0, b1, b2, w, hw, by rw [hlen]; simp only [length_cons]; omega⟩
  | [], _, hlen | [_], _, hlen | [_, _], _, hlen =>
      simp only [length_cons, length_nil] at hlen
      omega

theorem initPacket_composed (common : Common) (opcode : UInt8) :
    ∃ pkt, initPacket common opcode =
        .ok ({ common with currentOpcode := opcode, bodySegment := none }, pkt) ∧
      Composed pkt ∧ pkt.pos = 3 :=
  ⟨_, rfl, ⟨⟨[0, 0, 0], rfl, rfl, rfl, by decide, rfl⟩, Nat.le_refl 3⟩, rfl⟩

/-- A packet of `OI_OBEXCOMMON_MarshalPacketMbuf`: a packet header of `p` bytes
with the given opcode and the packet's length, then the headers. -/
structure Carries (p : Nat) (opcode : UInt8) (headers : List Header) (mbuf : Mbuf) : Prop where
  length : mbuf.bytes.length = p + wireLengths headers
  opcode_eq : mbuf.bytes[0]? = some opcode
  lengthField : ∃ hi lo, mbuf.bytes[1]? = some hi ∧ mbuf.bytes[2]? = some lo ∧
    ofBigEndian16 hi lo = mbuf.bytes.length
  headers_eq : mbuf.bytes.drop p = encodeHeaders headers

theorem carries_of_bytes {p : Nat} {opcode : UInt8} {headers : List Header} {mbuf : Mbuf}
    (hp : p = 3 + w.length) (hlt : p + wireLengths headers < 65536)
    (hbytes : mbuf.bytes = opcode :: (bigEndian16 (p + wireLengths headers) ++ w) ++
      encodeHeaders headers) : Carries p opcode headers mbuf where
  length := by
    rw [hbytes]
    simp only [length_append, length_cons, bigEndian16_length, encodeHeaders_length]
    omega
  opcode_eq := by rw [hbytes]; rfl
  lengthField := by
    refine ⟨_, _, by rw [hbytes]; rfl, by rw [hbytes]; rfl, ?_⟩
    rw [ofBigEndian16_ofNat, Nat.mod_eq_of_lt hlt, hbytes]
    simp only [length_append, length_cons, bigEndian16_length, encodeHeaders_length]
    omega
  headers_eq := by
    rw [hbytes]
    apply drop_left'
    simp only [length_append, length_cons, bigEndian16_length]
    omega

/-- Once its headers are added, what remains is to prepend the packet header. -/
theorem marshalPacketMbuf_eq {b0 b1 b2 : UInt8} (hw : pktHdr.Writing (b0 :: b1 :: b2 :: w))
    {memory₁ : Memory} {cells : Nat} (hcells : 1 + ((hdrs ++ hdrList).map headerCells).sum = cells)
    (hroom : memory.takeMbuf = (true, memory₁))
    (hadd : addHeaders (hdrs ++ hdrList) ⟨common, Mbuf.alloc cells, pktHdr.pos, memory₁⟩ =
      .ok (status, m)) {status' : Status} {packet : Mbuf}
    (hput : m.mbuf.prepend (closingOpcode m.common :: (bigEndian16 m.pktLen ++ w)) none =
      (status', packet)) :
    marshalPacketMbuf common pktHdr hdrs hdrList memory =
      if status ≠ .ok then .ok (status, none, m.common, m.memory)
      else if status' ≠ .ok then .ok (status', none, m.common, m.memory)
      else .ok (.ok, some packet, m.common, m.memory) := by
  simp only [marshalPacketMbuf, hroom, hcells, hadd, closePacket_eq hw, hput, ok_bind,
    Status.success]
  by_cases h1 : status = .ok <;> by_cases h2 : status' = .ok <;> simp [h1, h2] <;> rfl

/-- A successful packet starts with its packet header. -/
theorem marshalPacketMbuf_ok (h : Composed pktHdr) {memory' : Memory} {mbuf : Option Mbuf}
    {common' : Common} (hrun : marshalPacketMbuf common pktHdr hdrs hdrList memory =
      .ok (.ok, mbuf, common', memory')) :
    ∃ packet, mbuf = some packet ∧ pktHdr.pos ≤ packet.bytes.length := by
  obtain ⟨b0, b1, b2, w, hw, hpos⟩ := h.exists_writing
  generalize hcells : 1 + ((hdrs ++ hdrList).map headerCells).sum = cells
  cases hroom : memory.takeMbuf with
  | mk room memory₁ =>
  cases room with
  | false =>
      simp only [marshalPacketMbuf, hroom] at hrun
      cases hrun
  | true =>
      cases hadd : addHeaders (hdrs ++ hdrList)
          ⟨common, Mbuf.alloc cells, pktHdr.pos, memory₁⟩ with
      | error e =>
          simp only [marshalPacketMbuf, hroom, hcells, hadd] at hrun
          cases hrun
      | ok result =>
          obtain ⟨status, m⟩ := result
          have hplaced := Mbuf.prepend_placed m.mbuf
            (closingOpcode m.common :: (bigEndian16 m.pktLen ++ w)) none
          cases hput : m.mbuf.prepend
              (closingOpcode m.common :: (bigEndian16 m.pktLen ++ w)) none with
          | mk status' packet =>
              rw [marshalPacketMbuf_eq hw hcells hroom hadd hput] at hrun
              rw [hput] at hplaced
              by_cases h1 : status = .ok
              · rw [if_neg (not_not.mpr h1)] at hrun
                by_cases h2 : status' = .ok
                · rw [if_neg (not_not.mpr h2)] at hrun
                  obtain rfl : some packet = mbuf :=
                    (Prod.mk.inj (Prod.mk.inj (Except.ok.inj hrun)).2).1
                  refine ⟨packet, rfl, ?_⟩
                  have hbytes : packet.bytes = _ := hplaced.bytes h2
                  rw [hbytes, if_pos rfl, length_append, length_cons,
                    length_append, bigEndian16_length]
                  omega
                · rw [if_pos h2] at hrun
                  exact absurd (Prod.mk.inj (Except.ok.inj hrun)).1 h2
              · rw [if_pos h1] at hrun
                exact absurd (Prod.mk.inj (Except.ok.inj hrun)).1 h1

/-- Once its headers are added, the packet is closed and carries what was put
into it. The connection record after that may differ from the one before in its
body segment, which `common₀` accounts for. -/
theorem marshalPacketMbuf_closes (common₀ : Common) (h : Composed pktHdr) {sent : List Header}
    {memory₁ : Memory} {cells : Nat} (hcells : 1 + ((hdrs ++ hdrList).map headerCells).sum = cells)
    (hroom : memory.takeMbuf = (true, memory₁))
    (hadd : addHeaders (hdrs ++ hdrList) ⟨common, Mbuf.alloc cells, pktHdr.pos, memory₁⟩ =
      .ok (status, m))
    (hall : PutsAll sent ⟨common₀, Mbuf.alloc cells, pktHdr.pos, memory₁⟩ (status, m))
    (hlt : pktHdr.pos + wireLengths sent < 65536) :
    ∃ status' mbuf, marshalPacketMbuf common pktHdr hdrs hdrList memory =
        .ok (status', mbuf, m.common, m.memory) ∧
      (status' = .ok → ∃ packet, mbuf = some packet ∧
        Carries pktHdr.pos (closingOpcode m.common) (packetOrder sent) packet ∧
        sent.length ≤ 254) ∧
      (status = .ok → 1 + (sent.map headerCells).sum ≤ cells % 256 → status' = .ok) := by
  obtain ⟨b0, b1, b2, w, hw, hpos⟩ := h.exists_writing
  have hput := Mbuf.prepend_placed m.mbuf
    (closingOpcode m.common :: (bigEndian16 m.pktLen ++ w)) none
  generalize hresult : m.mbuf.prepend
    (closingOpcode m.common :: (bigEndian16 m.pktLen ++ w)) none = result at hput
  obtain ⟨status', packet⟩ := result
  rw [marshalPacketMbuf_eq hw hcells hroom hadd hresult]
  have halloc : m.mbuf.allocCells = cells % 256 := hall.allocCells
  have hbounded : m.mbuf.cells.length ≤ cells % 256 := hall.bounded (Nat.zero_le _)
  have hle : m.mbuf.cells.length ≤ 0 + (sent.map headerCells).sum := hall.cells_le
  by_cases h1 : status = .ok
  · subst h1
    by_cases h2 : status' = .ok
    · subst h2
      refine ⟨.ok, some packet, by simp, fun _ => ⟨packet, rfl, ?_, ?_⟩, fun _ _ => rfl⟩
      · have hpktLen : m.pktLen = pktHdr.pos + wireLengths sent := hall.pktLen rfl
        have hbytes := hput.bytes rfl
        rw [if_pos rfl, hall.bytes rfl, hpktLen, ← wireLengths_packetOrder sent] at hbytes
        refine carries_of_bytes hpos ?_ ?_
        · rw [wireLengths_packetOrder]
          exact hlt
        · rw [hbytes]
          simp only [Mbuf.bytes_alloc, append_nil, packetOrder, encodeHeaders_append]
      · have huses := hall.uses rfl
        have huses' := hput.uses rfl (cons_ne_nil _ _)
        have hbound := hput.bounded (by rw [halloc]; exact hbounded)
        simp only [Mbuf.cells_alloc, length_nil, halloc] at huses huses' hbound
        omega
    · refine ⟨status', none, by simp [h2], fun hok => absurd hok h2, fun _ hroom => ?_⟩
      exact hput.succeeds (by rw [halloc]; omega)
  · exact ⟨status, none, by simp [h1], fun hok => absurd hok h1, fun hok => absurd hok h1⟩

/-- Headers that fit are marshalled, unless memory or cells run out, into one
packet that carries them in packet order. -/
theorem marshalPacketMbuf_fits (h : Composed pktHdr) (hseg : common.bodySegment = none)
    (hmax : common.maxSendPktLen < 65536)
    (hfits : pktHdr.pos + wireLengths (hdrs ++ hdrList) ≤ common.maxSendPktLen) (memory : Memory) :
    ∃ status mbuf common' memory', marshalPacketMbuf common pktHdr hdrs hdrList memory =
        .ok (status, mbuf, common', memory') ∧
      (status = .ok → ∃ packet, mbuf = some packet ∧
        Carries pktHdr.pos common.currentOpcode (packetOrder (hdrs ++ hdrList)) packet ∧
        (hdrs ++ hdrList).length ≤ 254) ∧
      common'.bodySegment = none ∧ common'.maxSendPktLen = common.maxSendPktLen ∧
      common'.currentOpcode = common.currentOpcode ∧
      (memory = Memory.plenty → 1 + ((hdrs ++ hdrList).map headerCells).sum ≤ 255 →
        status = .ok ∧ memory' = Memory.plenty) := by
  generalize hcells : 1 + ((hdrs ++ hdrList).map headerCells).sum = cells
  cases hroom : memory.takeMbuf with
  | mk room memory₁ =>
  cases room with
  | false =>
      refine ⟨.outOfMemory, none, common, memory₁, ?_, by simp, hseg, rfl, rfl, ?_⟩
      · simp only [marshalPacketMbuf, hroom]
        rfl
      · rintro rfl
        simp at hroom
  | true =>
      obtain ⟨⟨status, m⟩, hadd, hall⟩ := addHeaders_fits (hdrs ++ hdrList)
        ⟨common, Mbuf.alloc cells, pktHdr.pos, memory₁⟩ hmax hfits
      obtain ⟨status', mbuf, hrun, hok, hsucc⟩ :=
        marshalPacketMbuf_closes common h hcells hroom hadd hall (Nat.lt_of_le_of_lt hfits hmax)
      have hmseg : m.common.bodySegment = none := hall.bodySegment.trans hseg
      have hmop : m.common.currentOpcode = common.currentOpcode := hall.currentOpcode
      have hop : closingOpcode m.common = common.currentOpcode := by
        rw [closingOpcode, hmseg, hmop]
      rw [hop] at hok
      refine ⟨status', mbuf, m.common, m.memory, hrun, hok, hmseg, hall.maxSendPktLen, hmop, ?_⟩
      rintro rfl hle
      obtain rfl : Memory.plenty = memory₁ := (Prod.mk.inj hroom).2
      have hmod : cells % 256 = cells := Nat.mod_eq_of_lt (by omega)
      obtain ⟨hadded, hmem⟩ := hall.succeeds rfl (by
        simp only [Mbuf.cells_alloc, Mbuf.allocCells_alloc, length_nil, hmod]
        omega)
      exact ⟨hsucc hadded (by omega), hmem⟩

/-- The packet header of a plain request or response. -/
def plainPktHdr : ByteStream := (ByteStream.open' (replicate hdrBufsize 0) 0 .write).advance 3

theorem plainPktHdr_composed : Composed plainPktHdr :=
  ⟨⟨[0, 0, 0], rfl, rfl, rfl, by decide, rfl⟩, by decide⟩

/-- A connection that sends packets of at most `max` bytes. -/
def sending (max : Nat) (opcode : UInt8) : Common :=
  { Common.zero with maxSendPktLen := max, currentOpcode := opcode }

end Obex
