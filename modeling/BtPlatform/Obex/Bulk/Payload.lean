import BtPlatform.Obex.Bulk.Packets

/-!
# The bytes of a packet of a bulk transfer

A packet is as it should be if its mbuf has a cell for the header and one for every
piece that has bytes. The number of cells is passed in eight bits; with fewer cells
than pieces the bytes that do not get in are missing, although the header counts
them.
-/

namespace Obex

open Support Format Bulk List

/-! ## Packets as they should be -/

/-- The opcode of the packet that finishes a transfer. -/
def finalOpcode (opcode : UInt8) : UInt8 :=
  obexFinal (if obexFinal opcode = obexFinal rspContinue then rspOk else opcode)

/-- A packet with a body. Its two lengths are those of the packet and of the header that the
body is in. -/
def bulkPacket (opcode headerId : UInt8) (body : List UInt8) : List UInt8 :=
  opcode :: bigEndian16 (body.length + bulkHdrSize) ++
    headerId :: bigEndian16 (body.length + headerPrefixLen) ++ body

/-- The packet that carries some bytes of a transfer; `closing` is the one that finishes it. -/
def packetOf (opcode : UInt8) (closing : Bool) (body : List UInt8) : List UInt8 :=
  if closing then bulkPacket (finalOpcode opcode) hdrEndOfBody body
  else bulkPacket opcode hdrBody body

/-- What follows the headers of a packet. -/
def payload (packet : List UInt8) : List UInt8 := packet.drop bulkHdrSize

theorem length_bulkHeader (g : Gathered) : (bulkHeader g).length = bulkHdrSize := rfl

theorem payload_packetOf (opcode : UInt8) (closing : Bool) (body : List UInt8) :
    payload (packetOf opcode closing body) = body := by
  cases closing <;> rfl

theorem length_packetOf (opcode : UInt8) (closing : Bool) (body : List UInt8) :
    (packetOf opcode closing body).length = body.length + bulkHdrSize := by
  cases closing <;> rfl

/-- The header written before the body is appended is the one of the planned packet. -/
theorem bulkHeader_plan (opcode : UInt8) {n : Nat} {xs : Blocks} {body : List UInt8}
    (hlen : body.length = min n (left xs)) :
    bulkHeader ((Gathered.start opcode).plan n xs) ++ body =
      packetOf opcode (finishes n xs) body := by
  have hbodyLen := Gathered.plan_bodyLen opcode n xs
  unfold bulkHeader packetOf bulkPacket
  rw [hbodyLen, hlen]
  cases hfin : finishes n xs with
  | true =>
      simp only [Gathered.plan, hfin, if_true]
      rfl
  | false => simp [Gathered.plan, hfin, Gathered.start]

/-! ## The cells of a packet -/

/-- The cells of the mbuf, as many as eight bits tell, suffice for the header and the pieces
that have bytes. -/
def FitsCells (n : Nat) (xs : Blocks) : Prop :=
  1 + Mbuf.cellsFor (pieces n xs) ≤ (1 + visited n xs) % 256

instance (n : Nat) (xs : Blocks) : Decidable (FitsCells n xs) :=
  inferInstanceAs (Decidable (_ ≤ _))

section Packet

variable (opcode : UInt8) {n : Nat} {xs : Blocks}

theorem cellsFor_packet :
    Mbuf.cellsFor ((bulkHeader ((Gathered.start opcode).plan n xs), none) :: pieces n xs) =
      1 + Mbuf.cellsFor (pieces n xs) := by
  rw [Mbuf.cellsFor_cons, Nat.add_comm]
  rfl

theorem length_pieces (n : Nat) (xs : Blocks) :
    ((pieces n xs).flatMap Prod.fst).length = min n (left xs) := by
  rw [flatMap_pieces, length_take, length_unsent]

/-- With enough cells the packet is as it should be. -/
theorem packetMbuf_of_fits (hfits : FitsCells n xs) :
    (packetMbuf opcode n xs).bytes = packetOf opcode (finishes n xs) ((unsent xs).take n) := by
  rw [packetMbuf, Mbuf.bytes_appendAll]
  · rw [Mbuf.bytes_alloc, nil_append, flatMap_cons, flatMap_pieces]
    apply bulkHeader_plan
    rw [length_take, length_unsent]
  · rw [cellsFor_packet, Mbuf.cells_alloc, length_nil, Nat.zero_add]
    exact hfits

/-- A packet has no more bytes than planned. -/
theorem length_payload_le :
    (payload (packetMbuf opcode n xs).bytes).length ≤ min n (left xs) := by
  have hle := Mbuf.length_appendAll_le (Mbuf.alloc (1 + visited n xs))
    ((bulkHeader ((Gathered.start opcode).plan n xs), none) :: pieces n xs)
  rw [flatMap_cons, length_append, length_pieces, length_bulkHeader, Mbuf.bytes_alloc,
    length_nil] at hle
  rw [payload, packetMbuf, length_drop]
  omega

/-- With too few cells some of the planned bytes are missing. -/
theorem fits_of_length_payload
    (hlen : (payload (packetMbuf opcode n xs).bytes).length = min n (left xs)) :
    FitsCells n xs ∨ min n (left xs) = 0 := by
  by_contra hnot
  rw [not_or, FitsCells, Nat.not_le] at hnot
  obtain ⟨hshort, hsome⟩ := hnot
  have hlt : (packetMbuf opcode n xs).bytes.length < 0 +
      ((((bulkHeader ((Gathered.start opcode).plan n xs), none) :: pieces n xs) :
        List (List UInt8 × Option BufferId)).flatMap Prod.fst).length := by
    apply Mbuf.length_appendAll_lt (Nat.zero_le _)
    rw [cellsFor_packet, Mbuf.cells_alloc, length_nil, Nat.zero_add]
    exact hshort
  rw [flatMap_cons, length_append, length_pieces, length_bulkHeader] at hlt
  rw [payload, length_drop] at hlen
  omega

/-- A packet that carries as many bytes as planned carries the planned ones. -/
theorem payload_of_length
    (hlen : (payload (packetMbuf opcode n xs).bytes).length = min n (left xs)) :
    payload (packetMbuf opcode n xs).bytes = (unsent xs).take n := by
  rcases fits_of_length_payload opcode hlen with hfits | hzero
  · rw [packetMbuf_of_fits opcode hfits, payload_packetOf]
  · have hnone : ((unsent xs).take n).length = 0 := by
      rw [length_take, length_unsent, hzero]
    rw [hzero] at hlen
    rw [length_eq_zero_iff.1 hlen, length_eq_zero_iff.1 hnone]

/-- Without a single cell there is no packet. -/
theorem packetMbuf_of_none (hnone : (1 + visited n xs) % 256 = 0) :
    (packetMbuf opcode n xs).bytes = [] := by
  rw [packetMbuf, Mbuf.appendAll_of_full (by simp [hnone]), Mbuf.bytes_alloc]

/-- A cell is enough for the header. -/
theorem packetMbuf_of_some (hsome : (1 + visited n xs) % 256 ≠ 0) :
    ∃ body, (packetMbuf opcode n xs).bytes =
      bulkHeader ((Gathered.start opcode).plan n xs) ++ body := by
  have hroom : (Mbuf.alloc (1 + visited n xs)).cells.length <
      (Mbuf.alloc (1 + visited n xs)).allocCells := Nat.pos_of_ne_zero hsome
  have hne : bulkHeader ((Gathered.start opcode).plan n xs) ≠ [] := cons_ne_nil _ _
  rw [packetMbuf, Mbuf.appendAll_cons]
  dsimp only
  rw [Mbuf.append_of_room none hne hroom]
  obtain ⟨body, hbody⟩ := Mbuf.prefix_appendAll
    ((Mbuf.alloc (1 + visited n xs)).withCell
      ⟨bulkHeader ((Gathered.start opcode).plan n xs), none⟩) (pieces n xs)
  exact ⟨body, hbody.symm⟩

/-- A packet that has no bytes to carry needs a cell for its header only. -/
theorem fits_of_ne_nil (hzero : min n (left xs) = 0)
    (hne : (packetMbuf opcode n xs).bytes ≠ []) : FitsCells n xs := by
  have hcells : Mbuf.cellsFor (pieces n xs) ≤ 0 := by
    rw [← hzero, ← length_pieces]
    exact Mbuf.cellsFor_le_length
  have hsome : (1 + visited n xs) % 256 ≠ 0 := fun hnone => hne (packetMbuf_of_none opcode hnone)
  unfold FitsCells
  omega

/-- Only the packet that finishes the final block has an end-of-body header. -/
theorem finishes_of_endOfBody {o : UInt8} {body : List UInt8}
    (h : (packetMbuf opcode n xs).bytes = bulkPacket o hdrEndOfBody body) :
    finishes n xs = true := by
  by_cases hnone : (1 + visited n xs) % 256 = 0
  · rw [packetMbuf_of_none opcode hnone] at h
    cases h
  · obtain ⟨body', hbytes⟩ := packetMbuf_of_some opcode hnone
    rw [hbytes] at h
    have hid : ((Gathered.start opcode).plan n xs).headerId = hdrEndOfBody :=
      Option.some.inj (congrArg (fun bytes => bytes[3]?) h)
    cases hfin : finishes n xs with
    | true => rfl
    | false =>
        simp [Gathered.plan, hfin, Gathered.start, hdrBody, hdrEndOfBody] at hid

end Packet

end Obex
