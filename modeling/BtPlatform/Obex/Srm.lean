import BtPlatform.Obex.Bulk
import BtPlatform.Obex.Parse

/-!
# What leaves single response mode alone

The functions that compose and send packets, and those that work on the blocks of a bulk
put, leave single response mode alone.
-/

namespace Obex

open Support Program Linked Prog

/-! ## Composing a packet -/

theorem progress_srm {c : Prop} [Decidable c] (common : Common) (n : Nat) :
    (if c then common.addProgress n else common).srm = common.srm := by
  split
  · rfl
  · rfl

variable {common common' : Common} {pkt bs bs' : ByteStream} {m m' : Marshalling} {status : Status}
variable {order : CpuByteOrder}

theorem initPacket_srm {opcode : UInt8} (h : Obex.initPacket common opcode = .ok (common', pkt)) :
    common'.srm = common.srm := by
  obtain ⟨pkt', -, h⟩ := bind_eq_ok.1 h
  obtain ⟨rfl, -⟩ := Prod.mk.inj (Except.ok.inj h)
  rfl

theorem addByteseq_srm {hdrId : UInt8} {data : List UInt8} {length : Nat}
    (h : addByteseq m hdrId data length = .ok (status, m')) : m'.common.srm = m.common.srm := by
  unfold addByteseq at h
  generalize (length + 65536 - headerPrefixLen) % 65536 = count at h
  by_cases hcount : data.length < count
  · rw [if_pos hcount] at h
    cases h
  · rw [if_neg hcount] at h
    obtain ⟨-, rfl⟩ := Prod.mk.inj (Except.ok.inj h)
    exact progress_srm m.common length

theorem addValue_srm {hdrId : UInt8} {header : Header} {length : Nat}
    (h : addValue m hdrId header length = .ok (status, m')) : m'.common.srm = m.common.srm := by
  cases header with
  | unicode low str =>
      unfold addValue addUnicode at h
      dsimp only at h
      split at h
      · obtain ⟨-, rfl⟩ := Prod.mk.inj (Except.ok.inj h)
        rfl
      · obtain ⟨_, -, h⟩ := bind_eq_ok.1 h
        obtain ⟨_, -, h⟩ := bind_eq_ok.1 h
        obtain ⟨_, -, h⟩ := bind_eq_ok.1 h
        split at h
        · obtain ⟨_, -, h⟩ := bind_eq_ok.1 h
          obtain ⟨-, rfl⟩ := Prod.mk.inj (Except.ok.inj h)
          rfl
        · obtain ⟨_, -, h⟩ := bind_eq_ok.1 h
          obtain ⟨-, rfl⟩ := Prod.mk.inj (Except.ok.inj h)
          rfl
  | byteseq low data =>
      rw [addValue] at h
      generalize (m.pktLen + length) % 65536 = pktLen at h
      have hbyteseq := addByteseq_srm h
      exact hbyteseq
  | uInt8 low val =>
      obtain ⟨-, rfl⟩ := Prod.mk.inj (Except.ok.inj h)
      rfl
  | uInt32 low val =>
      obtain ⟨-, rfl⟩ := Prod.mk.inj (Except.ok.inj h)
      rfl

theorem addHeader_srm {header : Header} (h : addHeader m header = .ok (status, m')) :
    m'.common.srm = m.common.srm := by
  unfold addHeader at h
  dsimp only at h
  split at h
  · obtain ⟨-, rfl⟩ := Prod.mk.inj (Except.ok.inj h)
    rfl
  · split at h
    · split at h
      · obtain ⟨-, rfl⟩ := Prod.mk.inj (Except.ok.inj h)
        rfl
      · split at h
        · obtain ⟨-, rfl⟩ := Prod.mk.inj (Except.ok.inj h)
          rfl
        · obtain ⟨_, -, h⟩ := bind_eq_ok.1 h
          have hvalue := addValue_srm h
          exact hvalue
    · exact addValue_srm h

theorem addHeaders_srm {headers : List Header} (h : addHeaders headers m = .ok (status, m')) :
    m'.common.srm = m.common.srm := by
  induction headers generalizing m with
  | nil =>
      obtain ⟨-, rfl⟩ := Prod.mk.inj (Except.ok.inj h)
      rfl
  | cons header headers ih =>
      obtain ⟨⟨added, m₁⟩, hadd, h⟩ := bind_eq_ok.1 h
      dsimp only at h
      split at h
      · exact (ih h).trans (addHeader_srm hadd)
      · obtain ⟨-, rfl⟩ := Prod.mk.inj (Except.ok.inj h)
        exact addHeader_srm hadd

variable {memory memory' : Memory}

theorem marshalPacketMbuf_srm {hdrs hdrList : List Header} {mbuf : Option Mbuf}
    (h : marshalPacketMbuf common pkt hdrs hdrList memory = .ok (status, mbuf, common', memory')) :
    common'.srm = common.srm := by
  unfold marshalPacketMbuf at h
  dsimp only at h
  split at h
  · obtain ⟨-, h⟩ := Prod.mk.inj (Except.ok.inj h)
    obtain ⟨-, h⟩ := Prod.mk.inj h
    obtain ⟨rfl, -⟩ := Prod.mk.inj h
    rfl
  · obtain ⟨⟨added, m⟩, hadd, h⟩ := bind_eq_ok.1 h
    have hsrm : m.common.srm = common.srm := addHeaders_srm hadd
    dsimp only at h
    split at h
    · obtain ⟨-, h⟩ := Prod.mk.inj (Except.ok.inj h)
      obtain ⟨-, h⟩ := Prod.mk.inj h
      obtain ⟨rfl, -⟩ := Prod.mk.inj h
      exact hsrm
    · obtain ⟨⟨closed, mbuf⟩, -, h⟩ := bind_eq_ok.1 h
      dsimp only at h
      split at h
      · obtain ⟨-, h⟩ := Prod.mk.inj (Except.ok.inj h)
        obtain ⟨-, h⟩ := Prod.mk.inj h
        obtain ⟨rfl, -⟩ := Prod.mk.inj h
        exact hsrm
      · obtain ⟨-, h⟩ := Prod.mk.inj (Except.ok.inj h)
        obtain ⟨-, h⟩ := Prod.mk.inj h
        obtain ⟨rfl, -⟩ := Prod.mk.inj h
        exact hsrm

theorem marshalPacket_srm {hdrs hdrList : List Header}
    (h : Obex.marshalPacket common pkt hdrs hdrList memory = .ok (status, common', memory')) :
    common'.srm = common.srm := by
  obtain ⟨⟨status₁, mbuf, common₁, memory₁⟩, hmarshal, h⟩ := bind_eq_ok.1 h
  obtain ⟨-, h⟩ := Prod.mk.inj (Except.ok.inj h)
  obtain ⟨rfl, -⟩ := Prod.mk.inj h
  have hsrm : common₁.srm = common.srm := marshalPacketMbuf_srm hmarshal
  exact hsrm

theorem marshalBodySegment_srm
    (h : Obex.marshalBodySegment common memory = .ok (status, common', memory')) :
    common'.srm = common.srm := by
  unfold Obex.marshalBodySegment at h
  split at h
  · cases h
  · obtain ⟨⟨common₁, pkt⟩, hinit, h⟩ := bind_eq_ok.1 h
    exact (marshalPacket_srm h).trans (initPacket_srm hinit)

/-! ## Parsing -/

theorem parseHeader_srm {header : ParsedHeader}
    (h : parseHeader order common bs = .ok (header, common', bs')) : common'.srm = common.srm := by
  obtain ⟨⟨id, bs₁⟩, -, h⟩ := bind_eq_ok.1 h
  simp only at h
  split at h
  · obtain ⟨_, -, h⟩ := bind_eq_ok.1 h
    split at h
    · cases h
    · split at h
      · obtain ⟨_, -, h⟩ := bind_eq_ok.1 h
        obtain ⟨-, h⟩ := Prod.mk.inj (Except.ok.inj h)
        obtain ⟨rfl, -⟩ := Prod.mk.inj h
        rfl
      · obtain ⟨-, h⟩ := Prod.mk.inj (Except.ok.inj h)
        obtain ⟨rfl, -⟩ := Prod.mk.inj h
        rfl
  · obtain ⟨_, -, h⟩ := bind_eq_ok.1 h
    obtain ⟨_, -, h⟩ := bind_eq_ok.1 h
    simp only [pure, Except.pure, Except.ok.injEq, Prod.mk.injEq] at h
    obtain ⟨-, rfl, -⟩ := h
    exact progress_srm _ _
  · obtain ⟨_, -, h⟩ := bind_eq_ok.1 h
    obtain ⟨-, h⟩ := Prod.mk.inj (Except.ok.inj h)
    obtain ⟨rfl, -⟩ := Prod.mk.inj h
    rfl
  · obtain ⟨_, -, h⟩ := bind_eq_ok.1 h
    obtain ⟨-, h⟩ := Prod.mk.inj (Except.ok.inj h)
    obtain ⟨rfl, -⟩ := Prod.mk.inj h
    rfl

theorem parseHeaders_srm {count : Nat} {headers : List ParsedHeader}
    (h : parseHeaders order count common bs = .ok (headers, common', bs')) :
    common'.srm = common.srm := by
  induction count generalizing common bs headers bs' common' with
  | zero =>
      obtain ⟨-, h⟩ := Prod.mk.inj (Except.ok.inj h)
      obtain ⟨rfl, -⟩ := Prod.mk.inj h
      rfl
  | succ count ih =>
      obtain ⟨⟨header, common₁, bs₁⟩, hheader, h⟩ := bind_eq_ok.1 h
      obtain ⟨⟨rest, common₂, bs₂⟩, hrest, h⟩ := bind_eq_ok.1 h
      obtain ⟨-, h⟩ := Prod.mk.inj (Except.ok.inj h)
      obtain ⟨rfl, -⟩ := Prod.mk.inj h
      exact (ih hrest).trans (parseHeader_srm hheader)

theorem parseHeaderList_srm {memory : Bool} {headers : ParsedList}
    (h : parseHeaderList order memory common bs = .ok (status, headers, common', bs')) :
    common'.srm = common.srm := by
  obtain ⟨⟨count, bs₁⟩, -, h⟩ := bind_eq_ok.1 h
  cases count with
  | none =>
      obtain ⟨-, h⟩ := Prod.mk.inj (Except.ok.inj h)
      obtain ⟨-, h⟩ := Prod.mk.inj h
      obtain ⟨rfl, -⟩ := Prod.mk.inj h
      rfl
  | some count =>
      obtain ⟨bs₂, -, h⟩ := bind_eq_ok.1 h
      dsimp only at h
      split at h
      · split at h
        · obtain ⟨⟨parsed, common₁, bs₃⟩, hparse, h⟩ := bind_eq_ok.1 h
          obtain ⟨-, h⟩ := Prod.mk.inj (Except.ok.inj h)
          obtain ⟨-, h⟩ := Prod.mk.inj h
          obtain ⟨rfl, -⟩ := Prod.mk.inj h
          exact parseHeaders_srm hparse
        · obtain ⟨-, h⟩ := Prod.mk.inj (Except.ok.inj h)
          obtain ⟨-, h⟩ := Prod.mk.inj h
          obtain ⟨rfl, -⟩ := Prod.mk.inj h
          rfl
      · obtain ⟨-, h⟩ := Prod.mk.inj (Except.ok.inj h)
        obtain ⟨-, h⟩ := Prod.mk.inj h
        obtain ⟨rfl, -⟩ := Prod.mk.inj h
        rfl

/-! ## The channel

The functions that work on a channel are followed once, for any relation that permits their
small steps.
-/

/-- Single response mode as a channel holds it. -/
def Channel.srm (ch : Channel) : Srm := ch.common.srm

/-- How often a packet was to be sent. -/
def Channel.attemptCount (ch : Channel) : Nat := ch.lower.attempts.length

theorem attempts_lt_append (attempts : List Attempt) (attempt : Attempt) :
    attempts.length < (attempts ++ [attempt]).length := by
  rw [List.length_append]
  exact Nat.lt_succ_self _

namespace OnChannel

/-- The relation permits what composing and sending a packet changes, outside a bulk
transfer. -/
class Composes (S : Channel → Channel → Prop) : Prop extends IsPreorder Channel S where
  store {ch : Channel} {common : Common} {memory : Memory} : common.srm = ch.common.srm →
    S ch { ch with common := common, memory := memory }
  noMbuf : Within S (noMbuf false)
  disown (slot : Slot) : Within S (disown slot)
  write (slot : Slot) (mbuf : Mbuf) : Within S (write none slot mbuf)

/-- The relation permits work on the blocks, and a disconnect, as well. -/
class Arranges (S : Channel → Channel → Prop) : Prop extends Composes S where
  blocks {ch : Channel} {blocks : Heap BulkData} : S ch { ch with blocks := blocks }
  disconnect : Within S disconnect

/-- The relation permits sending the packets of a bulk transfer as well. -/
class Transfers (S : Channel → Channel → Prop) : Prop extends Arranges S where
  bulkNoMbuf : Within S (OnChannel.noMbuf true)
  bulkWrite (context : Option Ptr) (slot : Slot) (mbuf : Mbuf) :
    Within S (OnChannel.write context slot mbuf)

variable {opcode : UInt8} {busy : Bool} {g : Gathered}

section Composes

variable {S : Channel → Channel → Prop} [Composes S]

theorem setCommon_composes {f : Common → Common} (h : ∀ common, (f common).srm = common.srm) :
    Within S (setCommon f) := .update fun ch => Composes.store (h ch.common)

theorem takeMbuf_composes : Within S takeMbuf :=
  Within.view.bind fun ⟨_, _⟩ => Within.seq (Within.update fun _ => Composes.store rfl) <|
    .pure

theorem takeBlock_composes : Within S takeBlock :=
  Within.view.bind fun ⟨_, _⟩ => Within.seq (Within.update fun _ => Composes.store rfl) <|
    .pure

theorem sendSimple_composes : Within S (sendSimple opcode) :=
  takeMbuf_composes.seq <|
    .ite ((Composes.write _ _).seq .pure) (Composes.noMbuf.seq .pure)

theorem initPacket_composes : Within S (initPacket opcode) := by
  intro ch pkt ch' h
  replace h := ends_bind_view.1 h
  obtain ⟨⟨common, pkt'⟩, t, hlift, hset⟩ := ends_bind.1 h
  obtain ⟨hinit, rfl⟩ := ends_lift.1 hlift
  replace hset := ends_bind_update.1 hset
  obtain ⟨-, rfl⟩ := ends_pure.1 hset
  have hsrm : common.srm = t.common.srm := Obex.initPacket_srm hinit
  exact Composes.store hsrm

/-- What a program does that stores what a computation left of the common part. -/
theorem store_composes {x : Except Fault (Status × Common × Memory)} {ch ch' : Channel}
    (hx : ∀ status common memory, x = .ok (status, common, memory) → common.srm = ch.common.srm)
    (h : Ends (do
      let (status, common, memory) ← Prog.lift x
      disown .commonMbuf
      Prog.update fun ch => { ch with common := common, memory := memory }
      Prog.only (¬ status.success) (noMbuf false)
      return status) ch status ch') : S ch ch' := by
  obtain ⟨⟨status', common, memory⟩, t, hlift, hstore⟩ := ends_bind.1 h
  obtain ⟨hrun, rfl⟩ := ends_lift.1 hlift
  obtain ⟨_, t₁, hdisown, hset⟩ := ends_bind.1 hstore
  replace hset := ends_bind_update.1 hset
  obtain ⟨_, hmbuf, -⟩ := ends_bind_return.1 hset
  have hcommon : t₁.common = t.common := by
    rw [ends_update.1 hdisown]
  have hstored : S t₁ { t₁ with common := common, memory := memory } :=
    Composes.store ((hx _ _ _ hrun).trans (congrArg Common.srm hcommon.symm))
  exact trans_of S (Composes.disown _ _ _ _ hdisown)
    (trans_of S hstored (Within.only Composes.noMbuf _ _ _ hmbuf))

theorem marshalPacket_composes (pkt : ByteStream) (hdrs hdrList : List Header) :
    Within S (marshalPacket pkt hdrs hdrList) := fun _ _ _ h =>
  store_composes (fun _ _ _ hx => Obex.marshalPacket_srm hx) (ends_bind_view.1 h)

theorem marshalBodySegment_composes : Within S marshalBodySegment := fun _ _ _ h =>
  store_composes (fun _ _ _ hx => Obex.marshalBodySegment_srm hx) (ends_bind_view.1 h)

theorem sendPacket_composes : Within S sendPacket := by
  refine Within.view.bind fun mbuf => ?_
  cases mbuf with
  | none => exact Within.fault
  | some mbuf =>
      have hclear : Within S (setCommon fun common => { common with mbuf := none }) :=
        setCommon_composes fun _ => rfl
      exact (Composes.write _ _).seq <| (Within.only hclear).seq .pure

theorem deref_composes {p : Option Ptr} : Within S (deref p) :=
  Within.view.seq Within.lift

end Composes

/-! ### Blocks -/

section Arranges

variable {S : Channel → Channel → Prop} [Arranges S]

theorem setBlocks_arranges {f : Heap BulkData → Heap BulkData} : Within S (setBlocks f) :=
  .update fun _ => Arranges.blocks

theorem setNext_arranges {p next : Option Ptr} : Within S (setNext p next) :=
  deref_composes.seq setBlocks_arranges

theorem freeBlocks_arranges {fuel : Nat} {list : Option Ptr} : Within S (freeBlocks fuel list) := by
  induction fuel generalizing list with
  | zero => exact .fault
  | succ fuel ih =>
      cases list with
      | none => exact .pure
      | some list =>
          exact deref_composes.seq <| setBlocks_arranges.seq ih

theorem freeBulkData_arranges {list : Option Ptr} : Within S (freeBulkData list) :=
  Within.view.seq freeBlocks_arranges

theorem allocBlocks_arranges {buffers : List Buffer} {head tail : Option Ptr} :
    Within S (allocBlocks buffers head tail) := by
  induction buffers generalizing head tail with
  | nil => exact .pure
  | cons buffer buffers ih =>
      exact takeBlock_composes.seq <| .ite
        (Within.view.seq <| setBlocks_arranges.seq <|
          (Within.only setNext_arranges).seq ih)
        .pure

theorem allocBulkData_arranges {buffers : List Buffer} : Within S (allocBulkData buffers) :=
  allocBlocks_arranges.seq <|
    .ite .pure (freeBulkData_arranges.seq .pure)

theorem fillPacket_arranges {numBlocks : Nat} {bulkData : Option Ptr} {bodyLen : Nat}
    {mbuf : Mbuf} : Within S (fillPacket numBlocks bulkData bodyLen mbuf) := by
  induction numBlocks generalizing bulkData bodyLen mbuf with
  | zero => exact .pure
  | succ numBlocks ih =>
      exact deref_composes.seq <| setBlocks_arranges.seq ih

end Arranges

section Transfers

variable {S : Channel → Channel → Prop} [Transfers S]

variable {current : Option Ptr}

theorem sendPiece_transfers : Within S (sendPiece current busy g) := by
  refine Within.view.bind fun ch => Within.lift.bind fun g => takeMbuf_composes.seq <|
    .ite ?_ (Transfers.bulkNoMbuf.seq .pure)
  refine fillPacket_arranges.seq <|
    (Transfers.bulkWrite _ _ _).bind fun ⟨status, queueFull⟩ => ?_
  cases queueFull with
  | none => exact .pure
  | some queueFull => exact .pure

theorem sendPieces_transfers {fuel : Nat} : Within S (sendPieces fuel current busy g) := by
  induction fuel generalizing current busy g with
  | zero => exact .fault
  | succ fuel ih =>
      exact sendPiece_transfers.seq <| Within.view.seq <|
        .ite .pure (.ite .pure (.ite ih .pure))

theorem sendBulk_transfers : Within S (sendBulk current busy) :=
  Within.view.seq <| .ite .pure sendPieces_transfers

end Transfers

/-- What a write leaves alone, whether or not the packet is taken. -/
theorem write_within {S : Channel → Channel → Prop} {context : Option Ptr} {slot : Slot}
    {mbuf : Mbuf} (h : ∀ ch : Channel, S ch (ch.write context slot mbuf).2.2) :
    Within S (write context slot mbuf) := by
  intro ch a ch' hwrite
  simp only [write, ends_bind, ends_view, ends_update, ends_pure] at hwrite
  obtain ⟨_, _, ⟨rfl, rfl⟩, _, _, rfl, -, rfl⟩ := hwrite
  exact h _

theorem write_srm (context : Option Ptr) (slot : Slot) (mbuf : Mbuf) :
    Within (Same Channel.srm) (write context slot mbuf) := by
  refine write_within fun ch => ?_
  unfold Same Channel.srm Channel.write
  dsimp only
  split
  · rfl
  · rfl

instance : Transfers (Same Channel.srm) where
  store hsrm := hsrm
  noMbuf := .update fun _ => rfl
  disown _ := .update fun _ => rfl
  write := write_srm none
  blocks := rfl
  disconnect := Within.view.seq <| Within.seq (Within.update fun _ => rfl) <| .pure
  bulkNoMbuf := .update fun _ => rfl
  bulkWrite := write_srm

/-! ### Attempts to send a packet -/

theorem noMbuf_attempts {bulk : Bool} : Within (Advances Channel.attemptCount) (noMbuf bulk) :=
  .update fun _ => attempts_lt_append _ _

theorem write_attempts {context : Option Ptr} {slot : Slot} {mbuf : Mbuf} :
    Within (Advances Channel.attemptCount) (write context slot mbuf) := by
  refine write_within fun ch => ?_
  unfold Channel.write
  dsimp only
  split
  · exact attempts_lt_append _ _
  · exact attempts_lt_append _ _

instance : Transfers (Monotone Channel.attemptCount) where
  store _ := le_rfl
  noMbuf := noMbuf_attempts.monotone
  disown _ := .update fun _ => le_rfl
  write _ _ := write_attempts.monotone
  blocks := le_rfl
  disconnect :=
    Within.view.seq <| Within.seq (Within.update fun _ => le_rfl) <| .pure
  bulkNoMbuf := noMbuf_attempts.monotone
  bulkWrite _ _ _ := write_attempts.monotone

theorem sendSimple_attempts : Within (Advances Channel.attemptCount) (sendSimple opcode) :=
  .bind_advances takeMbuf_composes fun _ =>
    .ite (.advances_bind write_attempts fun ⟨_, _⟩ => .pure)
      (.advances_bind noMbuf_attempts fun _ => .pure)

theorem sendPacket_attempts : Within (Advances Channel.attemptCount) sendPacket := by
  refine .bind_advances .view fun mbuf => ?_
  cases mbuf with
  | none => exact .fault
  | some mbuf =>
      have hclear : Within (Monotone Channel.attemptCount)
          (setCommon fun common => { common with mbuf := none }) := setCommon_composes fun _ => rfl
      exact .advances_bind write_attempts fun _ =>
        (Within.only hclear).seq .pure

/-- A packet that cannot be composed is an attempt. -/
theorem composed_attempts {composed : Channel → Except Fault (Status × Common × Memory)}
    {ch ch' : Channel} (h : Ends (do
      let ch ← Prog.view id
      let (status, common, memory) ← Prog.lift (composed ch)
      disown .commonMbuf
      Prog.update fun ch => { ch with common := common, memory := memory }
      Prog.only (¬ status.success) (noMbuf false)
      return status) ch status ch') (hfail : ¬ status.success) :
    ch.attemptCount < ch'.attemptCount := by
  replace h := ends_bind_view.1 h
  obtain ⟨⟨result, common, memory⟩, ch₁, hlift, hcomposed⟩ := ends_bind.1 h
  obtain ⟨-, rfl⟩ := ends_lift.1 hlift
  obtain ⟨_, ch₂, hdisown, hset⟩ := ends_bind.1 hcomposed
  replace hset := ends_bind_update.1 hset
  obtain ⟨_, ch₃, honly, hreturn⟩ := ends_bind.1 hset
  obtain ⟨rfl, rfl⟩ := ends_pure.1 hreturn
  obtain ⟨-, hnoMbuf⟩ | ⟨hok, -⟩ := ends_only.1 honly
  · have hlt := noMbuf_attempts _ _ _ hnoMbuf
    have hle := (Composes.disown _ : Within (Monotone Channel.attemptCount) _) _ _ _ hdisown
    exact Nat.lt_of_le_of_lt hle hlt
  · exact absurd hfail hok

theorem sendPiece_attempts {current : Option Ptr} :
    Within (Advances Channel.attemptCount) (sendPiece current busy g) :=
  .bind_advances .view fun _ => .bind_advances .lift fun _ =>
    .bind_advances takeMbuf_composes fun _ =>
      .ite
        (.bind_advances fillPacket_arranges fun ⟨_, _⟩ =>
          .advances_bind write_attempts fun ⟨_, queueFull⟩ => by
            cases queueFull with
            | none => exact .pure
            | some queueFull => exact .pure)
        (.advances_bind noMbuf_attempts fun _ => .pure)

/-- Where there is something to send, a packet is attempted. -/
theorem sendBulk_attempts {current : Option Ptr} (busy : Bool) (h : current.isSome) :
    Within (Advances Channel.attemptCount) (sendBulk current busy) := by
  refine .bind_advances .view fun ch => ?_
  cases current with
  | none => cases h
  | some p =>
      exact Within.advances_bind sendPiece_attempts fun ⟨_, _⟩ => Within.view.seq <|
        .ite .pure (.ite .pure (.ite sendPieces_transfers .pure))

end OnChannel

end Obex
