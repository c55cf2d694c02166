import BtPlatform.Obex.Bulk.Blocks

/-!
# One packet of a bulk transfer

The two loops of `OI_OBEXCOMMON_SendBulk` on a chain of blocks: the first one finds
out how many blocks and bytes the packet takes, the second one appends the bytes
and counts them as sent. Both see the same pieces.
-/

namespace Obex

open Support Format Program Linked Prog Bulk List

/-! ## The first loop -/

/-- At the start of a packet nothing is known about it. -/
def Gathered.start (opcode : UInt8) : Gathered := ⟨0, 0, hdrBody, opcode, false⟩

/-- What the first loop adds to what it knows. -/
def Gathered.plan (g : Gathered) (n : Nat) (xs : Blocks) : Gathered :=
  let g := if finishes n xs then g.finish else g
  { g with numBlocks := g.numBlocks + visited n xs, bodyLen := g.bodyLen + min n (left xs) }

theorem Gathered.plan_nil (g : Gathered) (n : Nat) : g.plan n [] = g := by
  simp [Gathered.plan, finishes, visited, left]

theorem Gathered.plan_final (opcode : UInt8) (n : Nat) (xs : Blocks) :
    (Gathered.plan (.start opcode) n xs).final = finishes n xs := by
  cases h : finishes n xs <;> simp [Gathered.plan, Gathered.start, Gathered.finish, h]

theorem Gathered.plan_numBlocks (opcode : UInt8) (n : Nat) (xs : Blocks) :
    (Gathered.plan (.start opcode) n xs).numBlocks = visited n xs := by
  cases h : finishes n xs <;> simp [Gathered.plan, Gathered.start, Gathered.finish, h]

theorem Gathered.plan_bodyLen (opcode : UInt8) (n : Nat) (xs : Blocks) :
    (Gathered.plan (.start opcode) n xs).bodyLen = min n (left xs) := by
  cases h : finishes n xs <;> simp [Gathered.plan, Gathered.start, Gathered.finish, h]

/-- A packet that does not finish leaves the opcode and the header identifier as they are. -/
theorem Gathered.plan_unfinished {opcode : UInt8} {n : Nat} {xs : Blocks}
    (h : finishes n xs = false) :
    { Gathered.plan (.start opcode) n xs with numBlocks := 0, bodyLen := 0 } =
      Gathered.start opcode := by
  simp [Gathered.plan, h, Gathered.start]

/-- A block that does not fit ends the packet. -/
theorem Gathered.plan_partial (g : Gathered) {n : Nat} {p : Ptr} {b : BulkData} (xs : Blocks)
    (hpart : b.left > n) :
    g.plan n ((p, b) :: xs) =
      { g with numBlocks := g.numBlocks + 1, bodyLen := g.bodyLen + n } := by
  have hmin : min n (b.left + left xs) = n := by omega
  simp [Gathered.plan, finishes, visited, hpart, hmin]

theorem Gathered.plan_whole (g : Gathered) {n : Nat} {p : Ptr} {b : BulkData} {xs : Blocks}
    (hwhole : ¬ b.left > n) (hfinal : b.final → xs = []) :
    g.plan n ((p, b) :: xs) =
      Gathered.plan
        { (if b.final then { g with numBlocks := g.numBlocks + 1 }.finish
            else { g with numBlocks := g.numBlocks + 1 }) with
          bodyLen := g.bodyLen + b.left } (n - b.left) xs := by
  have hmin : min n (b.left + left xs) = b.left + min (n - b.left) (left xs) := by omega
  cases hb : b.final with
  | true =>
      rw [hfinal hb, Gathered.plan_nil]
      have hone : min n b.left = b.left := by omega
      simp [Gathered.plan, Gathered.finish, finishes, visited, hwhole, hb, left, hone]
  | false =>
      simp only [Gathered.plan, finishes, visited, if_neg hwhole, hb, Bool.false_or, left_cons,
        hmin, Bool.false_eq_true, if_false]
      cases finishes (n - b.left) xs with
      | true => simp [Gathered.finish]; omega
      | false => simp; omega

theorem gather_eq {h : Heap BulkData} {p : Option Ptr} {xs : Blocks} (hchain : Chain h p xs)
    (hwell : WellFormed xs) {fuel : Nat} (hfuel : xs.length < fuel) (n : Nat) (g : Gathered) :
    gather h fuel p n g = .ok (g.plan n xs) := by
  induction xs generalizing p fuel n g with
  | nil =>
      obtain ⟨fuel, rfl⟩ : ∃ k, fuel = k + 1 := ⟨fuel - 1, by omega⟩
      obtain rfl : p = none := hchain
      rw [Gathered.plan_nil]
      rfl
  | cons x xs ih =>
      obtain ⟨c, b⟩ := x
      obtain ⟨fuel, rfl⟩ : ∃ k, fuel = k + 1 := ⟨fuel - 1, by omega⟩
      obtain ⟨rfl, next, hread, hrest⟩ := hchain
      obtain ⟨-, hfinal, hwell⟩ := hwell
      have hderef : derefBlock h (some c) = .ok (c, ⟨b, next⟩) := by
        simp only [derefBlock, hread]
      have hleft : b.blockSize - b.bytesSent = b.left := rfl
      rw [length_cons] at hfuel
      rw [gather, hderef, ok_bind]
      dsimp only
      rw [hleft]
      split
      · next hpart =>
          rw [Gathered.plan_partial g xs hpart]
          rfl
      · next hwhole =>
          rw [ih hrest hwell (by omega), Gathered.plan_whole g hwhole hfinal]
          cases b.final <;> rfl

/-! ## The second loop -/

/-- Only the blocks at some addresses are changed, and nothing else of the channel. -/
structure Touches (xs : Blocks) (ch ch' : Channel) : Prop where
  rest : ch' = { ch with blocks := ch'.blocks }
  frame : ∀ c ∉ addresses xs, ch'.blocks.read c = ch.blocks.read c
  fresh : ch'.blocks.fresh = ch.blocks.fresh

namespace OnChannel

theorem ends_deref {ch ch' : Channel} {p : Option Ptr} {r : Ptr × Node BulkData} :
    Ends (deref p) ch r ch' ↔ derefBlock ch.blocks p = .ok r ∧ ch' = ch := by
  unfold deref
  rw [ends_bind_view, ends_lift]

/-- One block of the second loop. -/
theorem ends_fillPacket_succ {ch ch' : Channel} {c : Ptr} {b : BulkData} {next : Option Ptr}
    {numBlocks bodyLen : Nat} {mbuf : Mbuf} {r : Option Ptr × Mbuf}
    (hread : ch.blocks.read c = some ⟨b, next⟩) (hlen : bodyLen < 65536) :
    Ends (fillPacket (numBlocks + 1) (some c) bodyLen mbuf) ch r ch' ↔
      Ends (fillPacket numBlocks
          (if b.bytesSent + min b.left bodyLen = b.blockSize then next else some c)
          (bodyLen - min b.left bodyLen)
          (mbuf.append (b.unsent.take (min b.left bodyLen)) b.blockBuffer).2)
        { ch with blocks := ch.blocks.write c ⟨b.send (min b.left bodyLen), next⟩ } r ch' := by
  have hderef : derefBlock ch.blocks (some c) = .ok (c, ⟨b, next⟩) := by
    simp only [derefBlock, hread]
  have hpiece : (b.contents.drop b.bytesSent).take
      (min (b.blockSize - b.bytesSent) bodyLen % 65536) = b.unsent.take (min b.left bodyLen) := by
    rw [Nat.mod_eq_of_lt (Nat.lt_of_le_of_lt (Nat.min_le_right _ _) hlen)]
    rfl
  rw [fillPacket, ends_bind]
  simp only [ends_deref, hderef, Except.ok.injEq]
  constructor
  · rintro ⟨_, _, ⟨rfl, rfl⟩, h⟩
    dsimp only at h
    rw [hpiece] at h
    exact ends_bind_update.1 h
  · intro h
    refine ⟨_, _, ⟨rfl, rfl⟩, ?_⟩
    dsimp only
    rw [hpiece]
    exact ends_bind_update.2 h

/-- The second loop takes the pieces that the first one has planned. -/
theorem fillPacket_ends {xs : Blocks} {ch : Channel} {p : Option Ptr} {n : Nat} (mbuf : Mbuf)
    (hchain : Chain ch.blocks p xs) (hwell : WellFormed xs) (hn : n < 65536) :
    ∃ ch', Ends (fillPacket (visited n xs) p (min n (left xs)) mbuf) ch
        (start (unfinished (advance n xs)), mbuf.appendAll (pieces n xs)) ch' ∧
      Chain ch'.blocks p (advance n xs) ∧ Touches xs ch ch' := by
  induction xs generalizing ch p n mbuf with
  | nil =>
      obtain rfl : p = none := hchain
      exact ⟨ch, ends_pure.2 ⟨rfl, rfl⟩, rfl, rfl, fun _ _ => rfl, rfl⟩
  | cons x xs ih =>
      obtain ⟨c, b⟩ := x
      have hnodup := Chain.nodup hchain
      obtain ⟨rfl, next, hread, hrest⟩ := hchain
      obtain ⟨hle, hfinal, hwell⟩ := hwell
      have hleft : b.left = b.blockSize - b.bytesSent := rfl
      have hnew : ∀ len, (ch.blocks.write c ⟨b.send len, next⟩).read c =
          some ⟨b.send len, next⟩ := fun _ => Heap.read_write_self hread
      have hkept : ∀ len, Chain (ch.blocks.write c ⟨b.send len, next⟩) next xs :=
        fun _ => hrest.write_of_notMem (nodup_cons.1 hnodup).1
      have hframe : ∀ len, ∀ d ∉ addresses ((c, b) :: xs),
          (ch.blocks.write c ⟨b.send len, next⟩).read d = ch.blocks.read d :=
        fun _ d hd => Heap.read_write_of_ne fun heq => hd (heq ▸ mem_cons_self)
      rw [left_cons, advance, pieces, Mbuf.appendAll_cons]
      by_cases hpart : b.left > n
      · -- the packet ends within this block
        have hmin : min n (b.left + left xs) = n := by omega
        have hlen : min b.left n = n := by omega
        have hzero : n - b.left = 0 := by omega
        rw [visited, if_pos hpart, hmin, hlen, hzero, advance_zero, appendAll_pieces_zero]
        refine ⟨{ ch with blocks := ch.blocks.write c ⟨b.send n, next⟩ }, ?_, ?_, rfl,
          hframe n, Heap.fresh_write⟩
        · rw [ends_fillPacket_succ hread hn, hlen, if_neg (by omega)]
          rw [unfinished_of_pos xs (by rw [BulkData.left_send]; omega)]
          exact ends_pure.2 ⟨rfl, rfl⟩
        · exact ⟨rfl, next, hnew n, hkept n⟩
      · -- the block is finished
        have hmin : min n (b.left + left xs) = b.left + min (n - b.left) (left xs) := by omega
        have hlen : min b.left (b.left + min (n - b.left) (left xs)) = b.left := by omega
        have hlen' : min b.left n = b.left := by omega
        obtain ⟨ch', hends, hchain', htouch⟩ :=
          @ih { ch with blocks := ch.blocks.write c ⟨b.send b.left, next⟩ } next (n - b.left)
            (mbuf.append (b.unsent.take b.left) b.blockBuffer).2 (hkept b.left) hwell (by omega)
        have htake : b.unsent.take n = b.unsent.take b.left := by
          rw [take_of_length_le (by simp; omega), take_of_length_le (by simp)]
        rw [visited, if_neg hpart, hmin, hlen', htake,
          unfinished_of_zero _ (by rw [BulkData.left_send, Nat.sub_self])]
        refine ⟨ch', ?_, ?_, ?_⟩
        · rw [ends_fillPacket_succ hread (by omega), hlen, if_pos (by omega),
            Nat.add_sub_cancel_left]
          exact hends
        · refine ⟨rfl, next, ?_, hchain'⟩
          rw [htouch.frame c (nodup_cons.1 hnodup).1]
          exact hnew b.left
        · refine ⟨htouch.rest, fun d hd => ?_, htouch.fresh.trans Heap.fresh_write⟩
          rw [htouch.frame d fun hmem => hd (mem_cons_of_mem _ hmem)]
          exact hframe b.left d hd

end OnChannel

/-! ## The packet -/

/-- The mbuf of a packet with room for `n` bytes. -/
def packetMbuf (opcode : UInt8) (n : Nat) (xs : Blocks) : Mbuf :=
  (Mbuf.alloc (1 + visited n xs)).appendAll
    ((bulkHeader ((Gathered.start opcode).plan n xs), none) :: pieces n xs)

namespace Channel

/-- The room for data in a packet. -/
def bodyMax (ch : Channel) : Nat := ch.common.maxSendPktLen - bulkHdrSize

/-- Whether the `k`th mbuf from now on can be allocated. -/
def hasRoom (ch : Channel) (k : Nat) : Bool := ch.memory.mbufs.getD k true

/-- What the lower layer answers to the `k`th write from now on: the status, and whether
its queue is full. -/
def answer (ch : Channel) (k : Nat) : Status × Bool := ch.lower.writes.getD k (.ok, false)

/-- What one attempt to send a packet uses up of its surroundings. -/
structure Attempts (xs : Blocks) (attempt : Attempt) (ch ch' : Channel) : Prop where
  common : ch'.common = ch.common
  attempts : ch'.lower.attempts = ch.lower.attempts ++ [attempt]
  hasRoom : ∀ k, ch'.hasRoom k = ch.hasRoom (k + 1)
  frame : ∀ c ∉ addresses xs, ch'.blocks.read c = ch.blocks.read c
  fresh : ch'.blocks.fresh = ch.blocks.fresh

end Channel

namespace OnChannel

variable {ch : Channel} {current : Option Ptr} {xs : Blocks}

theorem takeMbuf_ends (ch : Channel) :
    Ends takeMbuf ch (ch.hasRoom 0) { ch with memory := ch.memory.takeMbuf.2 } := by
  have hroom : ch.memory.takeMbuf.1 = ch.hasRoom 0 := by
    unfold Memory.takeMbuf Channel.hasRoom
    cases ch.memory.mbufs <;> rfl
  rw [← hroom]
  exact ends_bind.2 ⟨_, _, ends_view.2 ⟨rfl, rfl⟩, ends_bind_update.2 (ends_pure.2 ⟨rfl, rfl⟩)⟩

theorem hasRoom_takeMbuf (ch : Channel) (blocks : Heap BulkData) (lower : Lower) (k : Nat) :
    Channel.hasRoom { ch with memory := ch.memory.takeMbuf.2, blocks := blocks, lower := lower } k =
      ch.hasRoom (k + 1) := by
  unfold Memory.takeMbuf Channel.hasRoom
  cases hmbufs : ch.memory.mbufs with
  | nil => simp [hmbufs]
  | cons room rooms => rfl

/-- The first loop, then the allocation of the mbuf. -/
theorem ends_sendPiece {busy : Bool} {g : Gathered} {r : BulkSend × Gathered} {ch' : Channel}
    (hchain : Chain ch.blocks current xs) (hwell : WellFormed xs)
    (hmin : bulkHdrSize ≤ ch.common.maxSendPktLen) (hmax : ch.common.maxSendPktLen < 65536)
    (hg : { g with numBlocks := 0, bodyLen := 0 } = .start ch.common.currentOpcode) :
    Ends (sendPiece current busy g) ch r ch' ↔
      Ends (let g := (Gathered.start ch.common.currentOpcode).plan ch.bodyMax xs
        if ch.hasRoom 0 then do
          let (bulkData, mbuf) ← fillPacket g.numBlocks current g.bodyLen
            ((Mbuf.alloc (1 + g.numBlocks)).append (bulkHeader g) none).2
          let (status, queueFull) ← write current .unnamed mbuf
          match queueFull with
          | some queueFull => return (⟨status, bulkData, queueFull, g.final⟩, g)
          | none => return (⟨status, current, busy, g.final⟩, g)
        else do
          noMbuf true
          return (⟨.outOfMemory, current, busy, g.final⟩, g))
        { ch with memory := ch.memory.takeMbuf.2 } r ch' := by
  have hroom : (ch.common.maxSendPktLen + 4294967296 - bulkHdrSize) % 4294967296 = ch.bodyMax := by
    rw [Channel.bodyMax]
    omega
  have hgather : gather ch.blocks (ch.blocks.fresh + 1) current ch.bodyMax
      (.start ch.common.currentOpcode) =
        .ok ((Gathered.start ch.common.currentOpcode).plan ch.bodyMax xs) :=
    gather_eq hchain hwell (Nat.lt_succ_of_le (Chain.length_le hchain)) _ _
  rw [sendPiece, ends_bind_view]
  dsimp only [id]
  rw [hroom, hg, hgather, ends_bind]
  constructor
  · rintro ⟨_, _, hlift, h⟩
    obtain ⟨hplan, rfl⟩ := ends_lift.1 hlift
    obtain rfl := Except.ok.inj hplan
    obtain ⟨_, _, htake, h⟩ := ends_bind.1 h
    obtain ⟨rfl, rfl⟩ := htake.unique (takeMbuf_ends _)
    exact h
  · intro h
    exact ⟨_, _, ends_lift.2 ⟨rfl, rfl⟩, ends_bind.2 ⟨_, _, takeMbuf_ends ch, h⟩⟩

/-- The mbuf of a packet cannot be allocated: the plan is all there is of it. -/
theorem sendPiece_noMbuf (busy : Bool) {g : Gathered} (hchain : Chain ch.blocks current xs)
    (hwell : WellFormed xs) (hmin : bulkHdrSize ≤ ch.common.maxSendPktLen)
    (hmax : ch.common.maxSendPktLen < 65536)
    (hg : { g with numBlocks := 0, bodyLen := 0 } = .start ch.common.currentOpcode)
    (hroom : ch.hasRoom 0 = false) :
    ∃ ch', Ends (sendPiece current busy g) ch
        (⟨.outOfMemory, current, busy, finishes ch.bodyMax xs⟩,
          (Gathered.start ch.common.currentOpcode).plan ch.bodyMax xs) ch' ∧
      ch'.blocks = ch.blocks ∧ Channel.Attempts xs (.noMbuf true) ch ch' := by
  refine ⟨{ ch with
    memory := ch.memory.takeMbuf.2
    lower := { ch.lower with attempts := ch.lower.attempts ++ [.noMbuf true] } }, ?_, rfl, ?_⟩
  · rw [ends_sendPiece hchain hwell hmin hmax hg]
    dsimp only
    rw [hroom, if_neg Bool.false_ne_true, Gathered.plan_final]
    exact ends_bind_update.2 (ends_pure.2 ⟨rfl, rfl⟩)
  · exact ⟨rfl, rfl, hasRoom_takeMbuf ch _ _, fun _ _ => rfl, rfl⟩

/-- What a write of a packet of a transfer comes to. -/
theorem write_ends (ch : Channel) (p : Ptr) (mbuf : Mbuf) :
    ∃ ch', Ends (write (some p) .unnamed mbuf) ch
        ((ch.answer 0).1, if (ch.answer 0).1.success then some (ch.answer 0).2 else none) ch' ∧
      ch' = { ch with lower := ch'.lower } ∧ (∀ k, ch'.answer k = ch.answer (k + 1)) ∧
      ch'.lower.attempts = ch.lower.attempts ++ [.wrote true mbuf.bytes (ch.answer 0).1] := by
  have hhead : ch.lower.writes.headD (.ok, false) = ch.answer 0 := by
    unfold Channel.answer
    cases ch.lower.writes <;> rfl
  have htail : ∀ k, ch.lower.writes.tail.getD k (.ok, false) = ch.answer (k + 1) := by
    intro k
    unfold Channel.answer
    cases ch.lower.writes <;> rfl
  refine ⟨(ch.write (some p) .unnamed mbuf).2.2, ?_⟩
  have hends : Ends (write (some p) .unnamed mbuf) ch
      ((ch.write (some p) .unnamed mbuf).1, (ch.write (some p) .unnamed mbuf).2.1)
      (ch.write (some p) .unnamed mbuf).2.2 :=
    ends_bind_view.2 (ends_bind_update.2 (ends_pure.2 ⟨rfl, rfl⟩))
  unfold Channel.write at hends ⊢
  rw [hhead] at hends ⊢
  dsimp only at hends ⊢
  split at hends
  · next hok =>
      rw [if_pos hok, if_pos hok]
      exact ⟨hends, rfl, htail, rfl⟩
  · next hno =>
      rw [if_neg hno, if_neg hno]
      exact ⟨hends, rfl, htail, rfl⟩

/-- The packet is filled and passed to the lower layer. -/
theorem sendPiece_written (busy : Bool) {g : Gathered} (hchain : Chain ch.blocks current xs)
    (hwell : WellFormed xs) (hne : xs ≠ []) (hmin : bulkHdrSize ≤ ch.common.maxSendPktLen)
    (hmax : ch.common.maxSendPktLen < 65536)
    (hg : { g with numBlocks := 0, bodyLen := 0 } = .start ch.common.currentOpcode)
    (hroom : ch.hasRoom 0 = true) :
    ∃ ch', Ends (sendPiece current busy g) ch
        (if (ch.answer 0).1.success then
          ⟨(ch.answer 0).1, start (unfinished (advance ch.bodyMax xs)), (ch.answer 0).2,
            finishes ch.bodyMax xs⟩
        else ⟨(ch.answer 0).1, current, busy, finishes ch.bodyMax xs⟩,
          (Gathered.start ch.common.currentOpcode).plan ch.bodyMax xs) ch' ∧
      Chain ch'.blocks current (advance ch.bodyMax xs) ∧
      (∀ k, ch'.answer k = ch.answer (k + 1)) ∧
      Channel.Attempts xs
        (.wrote true (packetMbuf ch.common.currentOpcode ch.bodyMax xs).bytes (ch.answer 0).1)
        ch ch' := by
  obtain ⟨p, rfl⟩ : ∃ p, current = some p := by
    rw [Chain.start_eq hchain]
    obtain ⟨x, xs, rfl⟩ := exists_cons_of_ne_nil hne
    exact ⟨x.1, rfl⟩
  have hn : ch.bodyMax < 65536 := Nat.lt_of_le_of_lt (Nat.sub_le _ _) hmax
  have hchain₀ : Chain { ch with memory := ch.memory.takeMbuf.2 }.blocks (some p) xs := hchain
  obtain ⟨ch₁, hfill, hchain₁, htouch⟩ := fillPacket_ends
    ((Mbuf.alloc (1 + visited ch.bodyMax xs)).append
      (bulkHeader ((Gathered.start ch.common.currentOpcode).plan ch.bodyMax xs)) none).2
    hchain₀ hwell hn
  obtain ⟨ch₂, hwrite, hrest, hanswer, hattempts⟩ := write_ends ch₁ p
    (packetMbuf ch.common.currentOpcode ch.bodyMax xs)
  have hsame : ch₁.answer = ch.answer := by
    rw [htouch.rest]
    rfl
  rw [hsame] at hwrite hanswer hattempts
  refine ⟨ch₂, ?_, ?_, hanswer, ?_, ?_, fun k => ?_, fun c hc => ?_, ?_⟩
  · rw [ends_sendPiece hchain hwell hmin hmax hg]
    dsimp only
    rw [hroom, if_pos rfl, Gathered.plan_final, Gathered.plan_numBlocks, Gathered.plan_bodyLen]
    refine ends_bind.2 ⟨_, _, hfill, ?_⟩
    by_cases hok : (ch.answer 0).1.success = true
    · rw [if_pos hok] at hwrite ⊢
      exact ends_bind.2 ⟨_, _, hwrite, ends_pure.2 ⟨rfl, rfl⟩⟩
    · rw [if_neg hok] at hwrite ⊢
      exact ends_bind.2 ⟨_, _, hwrite, ends_pure.2 ⟨rfl, rfl⟩⟩
  · rw [hrest]
    exact hchain₁
  · rw [hrest]
    show ch₁.common = ch.common
    rw [htouch.rest]
  · rw [hattempts, htouch.rest]
  · rw [hrest, htouch.rest]
    exact hasRoom_takeMbuf ch _ _ k
  · rw [hrest]
    exact htouch.frame c hc
  · rw [hrest]
    exact htouch.fresh

end OnChannel

end Obex
