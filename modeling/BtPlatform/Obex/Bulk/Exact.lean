import BtPlatform.Obex.Bulk.Counted

/-!
# Exact packets

When the packets of a call are exactly the unsent bytes of the list, cut into
packets, and when a failure leaves no trace. Both depend on the packets one by one:
`OI_OBEXCOMMON_SendBulk` counts the bytes of a packet as sent and sets `*final`
while it prepares the packet, before it knows of the mbuf or of the write, and it
does not look whether all bytes have got into the mbuf.
-/

namespace Obex

open Support Program Linked Prog Bulk List

/-- The final block is finished after so many bytes. -/
def closes (xs : Blocks) (n : Nat) : Bool := hasFinal xs && decide (left xs ≤ n)

/-- The packets of a call are as they should be. -/
structure Packetised (ch : Channel) (xs : Blocks) (sent : BulkSend) (ch' : Channel) : Prop
    extends Counted ch xs sent ch' where
  packets : accepted ch ch' = (bodies ch ch').mapIdx fun i body =>
    packetOf ch.common.currentOpcode
      (closes xs ((bodies ch ch').take (i + 1)).flatten.length) body
  short : ∀ packet ∈ accepted ch ch', packet.length ≤ ch.common.maxSendPktLen
  final : sent.final = true ↔
    bodies ch ch' ≠ [] ∧ closes xs (bodies ch ch').flatten.length = true

/-- What is left behind tells of accepted packets only. -/
structure NoTrace (ch : Channel) (xs : Blocks) (sent : BulkSend) (ch' : Channel) : Prop
    extends Counted ch xs sent ch' where
  final : sent.final = true →
    ∃ body, bulkPacket (finalOpcode ch.common.currentOpcode) hdrEndOfBody body ∈ accepted ch ch'

namespace Channel

variable {ch ch' : Channel} {xs : Blocks} {j k : Nat} {sent : BulkSend}

/-- With a packet that fits its cells, or no mbuf and nothing to finish, the `k`th attempt
is as it should be. -/
def Fits (ch : Channel) (xs : Blocks) (k : Nat) : Prop :=
  if ch.hasRoom k then FitsCells ch.bodyMax (rest ch.bodyMax xs k)
  else finishes ch.bodyMax (rest ch.bodyMax xs k) = false

/-- The `k`th attempt does nothing that counts without being accepted. -/
def Traceless (ch : Channel) (xs : Blocks) (k : Nat) : Prop :=
  if ch.accepts k then
    FitsCells ch.bodyMax (rest ch.bodyMax xs k) ∨
      left (rest ch.bodyMax xs k) = 0 ∧ finishes ch.bodyMax (rest ch.bodyMax xs k) = false
  else
    finishes ch.bodyMax (rest ch.bodyMax xs k) = false ∧
      (ch.hasRoom k = true → left (rest ch.bodyMax xs k) = 0)

/-! ## The packets of a call -/

/-- A packet that another one follows does not take all that is left. -/
theorem Attempted.lt_left (h : ch.Attempted xs k) (hj : j < k) :
    ch.bodyMax < left (rest ch.bodyMax xs j) := by
  have hne := (h.of_le hj).1
  rw [rest_succ_eq, ne_eq, unfinished_eq_nil_iff, left_advance, Nat.succ_mul] at hne
  rw [left_rest]
  omega

theorem Attempted.finishes_eq_false (h : ch.Attempted xs k) (hwell : WellFormed xs) (hj : j < k) :
    finishes ch.bodyMax (rest ch.bodyMax xs j) = false := by
  rw [finishes_eq (hwell.rest _ _), decide_eq_false (Nat.not_le.2 (h.lt_left hj)), Bool.and_false]

theorem Attempted.accepts_of_lt (h : ch.Attempted xs k) (hj : j < ch.acceptedCount k) :
    ch.accepts j = true := by
  unfold acceptedCount at hj
  cases hlast : ch.accepts k with
  | true =>
      rw [hlast, if_pos rfl] at hj
      rcases Nat.lt_succ_iff_lt_or_eq.1 hj with hlt | rfl
      · exact (h.2 j hlt).1
      · exact hlast
  | false =>
      rw [hlast, if_neg Bool.false_ne_true] at hj
      exact (h.2 j hj).1

/-- Only the last packet finishes the transfer. -/
theorem Attempted.eq_of_finishes (h : ch.Attempted xs k) (hwell : WellFormed xs) (hle : j ≤ k)
    (hfinishes : finishes ch.bodyMax (rest ch.bodyMax xs j) = true) : j = k := by
  rcases Nat.lt_or_eq_of_le hle with hlt | heq
  · rw [h.finishes_eq_false hwell hlt] at hfinishes
    cases hfinishes
  · exact heq

/-- Only the last packet is not accepted. -/
theorem Attempted.eq_of_refused (h : ch.Attempted xs k) (hle : j ≤ k)
    (hrefused : ch.accepts j = false) : j = k := by
  rcases Nat.lt_or_eq_of_le hle with hlt | heq
  · rw [(h.2 j hlt).1] at hrefused
    cases hrefused
  · exact heq

theorem acceptedCount_le (ch : Channel) (k : Nat) : ch.acceptedCount k ≤ k + 1 := by
  unfold acceptedCount
  split <;> omega

theorem Attempted.lt_acceptedCount (h : ch.Attempted xs k) (hle : j ≤ k)
    (haccepts : ch.accepts j = true) : j < ch.acceptedCount k := by
  unfold acceptedCount
  rcases Nat.lt_or_eq_of_le hle with hlt | rfl
  · split <;> omega
  · rw [haccepts, if_pos rfl]
    exact Nat.lt_succ_self _

/-- The whole of a call is exact if its packets are. -/
theorem exact_of_fits (hatt : ch.Attempted xs k)
    (hfull : ∀ j ≤ k, ch.accepts j = true →
      FitsCells ch.bodyMax (rest ch.bodyMax xs j) ∨ left (rest ch.bodyMax xs j) = 0)
    (hrefused : ch.accepts k = false → ch.hasRoom k = true → left (rest ch.bodyMax xs k) = 0) :
    ch.Exact xs k := by
  refine ⟨fun j hj => ?_, hrefused⟩
  have hle : j ≤ k := Nat.le_of_lt_succ (Nat.lt_of_lt_of_le hj (acceptedCount_le ch k))
  rcases hfull j hle (hatt.accepts_of_lt hj) with hfits | hnone
  · rw [packet, packetMbuf_of_fits _ hfits, payload_packetOf, length_take, length_unsent]
  · have hle : (payload (ch.packet xs j)).length ≤
        min ch.bodyMax (left (rest ch.bodyMax xs j)) := length_payload_le _
    rw [hnone] at hle ⊢
    omega

/-- The packet that finishes the transfer is the last one. -/
theorem Outcome.final_packet (h : Outcome ch xs k sent ch') (hatt : ch.Attempted xs k)
    (hwell : WellFormed xs) {body : List UInt8} {o : UInt8}
    (hmem : bulkPacket o hdrEndOfBody body ∈ accepted ch ch') :
    ch.accepts k = true ∧ bulkPacket o hdrEndOfBody body = ch.packet xs k := by
  rw [h.accepted_eq hatt] at hmem
  obtain ⟨i, hi, hpacket⟩ := mem_map.1 hmem
  rw [mem_range] at hi
  have hfinishes := finishes_of_endOfBody _ hpacket
  have hlast : i = k := by
    rcases Nat.lt_or_ge i k with hlt | hge
    · rw [hatt.finishes_eq_false hwell hlt] at hfinishes
      cases hfinishes
    · have hle := acceptedCount_le ch k
      omega
  subst hlast
  exact ⟨hatt.accepts_of_lt hi, hpacket.symm⟩

/-- The bytes in the first packets. -/
theorem Exact.length_take (hexact : ch.Exact xs k) (h : Outcome ch xs k sent ch')
    (hatt : ch.Attempted xs k) (hlt : j < ch.acceptedCount k) :
    ((bodies ch ch').take (j + 1)).flatten.length = min ((j + 1) * ch.bodyMax) (left xs) := by
  rw [h.bodies_eq hatt, ← map_take, take_range, Nat.min_eq_left hlt,
    length_flatten_range, ← sum_planned]
  apply Finset.sum_congr rfl
  intro i hi
  exact hexact.full i (Nat.lt_of_lt_of_le (Finset.mem_range.1 hi) hlt)

theorem Attempted.closes_eq_finishes (hatt : ch.Attempted xs k) (hwell : WellFormed xs)
    (hle : j ≤ k) :
    closes xs (min ((j + 1) * ch.bodyMax) (left xs)) =
      finishes ch.bodyMax (rest ch.bodyMax xs j) := by
  rw [finishes_eq (hwell.rest _ _), hasFinal_rest hwell (hatt.of_le hle).1, closes, left_rest,
    Nat.succ_mul]
  congr 1
  exact decide_eq_decide.2 (by omega)

/-- The packets accepted finish the transfer if the last one of them does. -/
theorem Exact.closes_bodies (hexact : ch.Exact xs k) (h : Outcome ch xs k sent ch')
    (hatt : ch.Attempted xs k) (hwell : WellFormed xs) (hcount : ch.acceptedCount k = j + 1) :
    closes xs (bodies ch ch').flatten.length = finishes ch.bodyMax (rest ch.bodyMax xs j) := by
  have hle := acceptedCount_le ch k
  have hlength := hexact.length_take h hatt (j := j) (by omega)
  rw [take_of_length_le] at hlength
  · rw [hlength, hatt.closes_eq_finishes hwell (by omega)]
  · rw [h.bodies_eq hatt, hcount, length_map, length_range]

/-! ## A failure without a trace -/

theorem Outcome.traceless (h : Outcome ch xs k sent ch') (hatt : ch.Attempted xs k)
    (hwell : WellFormed xs) (hroom : 0 < ch.bodyMax) (hnone : NoTrace ch xs sent ch')
    (hle : j ≤ k) : ch.Traceless xs j := by
  have hexact := h.exact hatt hroom hnone.toCounted
  unfold Traceless
  cases haccepts : ch.accepts j with
  | true =>
      rw [if_pos rfl]
      have hfull := hexact.full j (hatt.lt_acceptedCount hle haccepts)
      rcases fits_of_length_payload _ hfull with hfits | hzero
      · exact .inl hfits
      · cases hfinishes : finishes ch.bodyMax (rest ch.bodyMax xs j) with
        | false => exact .inr ⟨by omega, rfl⟩
        | true =>
            -- the last packet has a header at least
            obtain rfl : j = k := hatt.eq_of_finishes hwell hle hfinishes
            obtain ⟨body, hmem⟩ := hnone.final (h.final.trans hfinishes)
            obtain ⟨-, hpacket⟩ := h.final_packet hatt hwell hmem
            refine .inl (fits_of_ne_nil ch.common.currentOpcode hzero fun hnil => ?_)
            rw [packet, hnil] at hpacket
            cases hpacket
  | false =>
      obtain rfl : j = k := hatt.eq_of_refused hle haccepts
      rw [if_neg Bool.false_ne_true]
      refine ⟨?_, hexact.refused haccepts⟩
      cases hfinishes : finishes ch.bodyMax (rest ch.bodyMax xs j) with
      | false => rfl
      | true =>
          obtain ⟨body, hmem⟩ := hnone.final (h.final.trans hfinishes)
          rw [(h.final_packet hatt hwell hmem).1] at haccepts
          cases haccepts

theorem Outcome.noTrace (h : Outcome ch xs k sent ch') (hatt : ch.Attempted xs k)
    (hall : ∀ j ≤ k, ch.Traceless xs j) : NoTrace ch xs sent ch' := by
  have hexact : ch.Exact xs k := by
    apply exact_of_fits hatt
    · intro j hle haccepts
      have hj := hall j hle
      rw [Traceless, haccepts, if_pos rfl] at hj
      exact hj.imp_right And.left
    · intro haccepts
      have hk := hall k (Nat.le_refl k)
      rw [Traceless, haccepts, if_neg Bool.false_ne_true] at hk
      exact hk.2
  refine ⟨h.counted hatt hexact, fun hfinal => ?_⟩
  rw [h.final] at hfinal
  have hk := hall k (Nat.le_refl k)
  unfold Traceless at hk
  rw [hfinal] at hk
  cases haccepts : ch.accepts k with
  | false =>
      rw [haccepts, if_neg Bool.false_ne_true] at hk
      cases hk.1
  | true =>
      rw [haccepts, if_pos rfl] at hk
      have hfits : FitsCells ch.bodyMax (rest ch.bodyMax xs k) := by
        rcases hk with hfits | ⟨-, hopen⟩
        · exact hfits
        · cases hopen
      refine ⟨(unsent (rest ch.bodyMax xs k)).take ch.bodyMax, ?_⟩
      rw [h.accepted_eq hatt]
      have hlt := hatt.lt_acceptedCount (Nat.le_refl k) haccepts
      refine mem_map.2 ⟨k, mem_range.2 hlt, ?_⟩
      rw [packet, packetMbuf_of_fits _ hfits, hfinal]
      rfl

/-! ## Exact packets -/

theorem accepts_eq_hasRoom (hok : ∀ k, (ch.answer k).1 = .ok) (j : Nat) :
    ch.accepts j = ch.hasRoom j := by
  rw [Channel.accepts, hok]
  exact Bool.and_true _

theorem Outcome.fits (h : Outcome ch xs k sent ch') (hatt : ch.Attempted xs k)
    (hwell : WellFormed xs) (hroom : 0 < ch.bodyMax) (hok : ∀ k, (ch.answer k).1 = .ok)
    (hpacks : Packetised ch xs sent ch') (hle : j ≤ k) : ch.Fits xs j := by
  have hexact := h.exact hatt hroom hpacks.toCounted
  unfold Fits
  rw [← accepts_eq_hasRoom hok]
  cases haccepts : ch.accepts j with
  | true =>
      rw [if_pos rfl]
      have hlt := hatt.lt_acceptedCount hle haccepts
      rcases fits_of_length_payload _ (hexact.full j hlt) with hfits | hzero
      · exact hfits
      · -- a packet that is as it should be has a header at least
        apply fits_of_ne_nil ch.common.currentOpcode hzero
        intro hnil
        have hmem : ch.packet xs j ∈ accepted ch ch' := by
          rw [h.accepted_eq hatt]
          exact mem_map.2 ⟨j, mem_range.2 hlt, rfl⟩
        rw [hpacks.packets, mem_mapIdx] at hmem
        obtain ⟨i, hi, hpacket⟩ := hmem
        have hlength := congrArg length hpacket
        rw [length_packetOf, packet, hnil, length_nil] at hlength
        cases hlength
  | false =>
      obtain rfl : j = k := hatt.eq_of_refused hle haccepts
      rw [if_neg Bool.false_ne_true]
      have hcount : ch.acceptedCount j = j := by
        rw [acceptedCount, haccepts, if_neg Bool.false_ne_true]
      cases hfinishes : finishes ch.bodyMax (rest ch.bodyMax xs j) with
      | false => rfl
      | true =>
          obtain ⟨hne, hcloses⟩ := hpacks.final.1 (h.final.trans hfinishes)
          cases j with
          | zero =>
              rw [h.bodies_eq hatt, hcount] at hne
              exact absurd rfl hne
          | succ i =>
              -- the packets before would have finished the transfer
              rw [hexact.closes_bodies h hatt hwell hcount,
                hatt.finishes_eq_false hwell (Nat.lt_succ_self i)] at hcloses
              cases hcloses

/-- The packets accepted, if each is as it should be. -/
theorem Exact.accepted_eq (hexact : ch.Exact xs k) (h : Outcome ch xs k sent ch')
    (hatt : ch.Attempted xs k) (hwell : WellFormed xs)
    (hpacket : ∀ j < ch.acceptedCount k, ch.packet xs j =
      packetOf ch.common.currentOpcode (finishes ch.bodyMax (rest ch.bodyMax xs j))
        ((unsent (rest ch.bodyMax xs j)).take ch.bodyMax)) :
    accepted ch ch' = (bodies ch ch').mapIdx fun i body =>
      packetOf ch.common.currentOpcode
        (closes xs ((bodies ch ch').take (i + 1)).flatten.length) body := by
  apply ext_getElem
  · rw [length_mapIdx, bodies, length_map]
  · intro j hj _
    have hget : (accepted ch ch')[j] = ch.packet xs j := by
      rw [getElem_of_eq (h.accepted_eq hatt) hj, getElem_map, getElem_range]
    have hlt : j < ch.acceptedCount k := by
      rw [h.accepted_eq hatt, length_map, length_range] at hj
      exact hj
    have hle : j ≤ k := Nat.le_of_lt_succ (Nat.lt_of_lt_of_le hlt (acceptedCount_le ch k))
    have hbody : payload (ch.packet xs j) = (unsent (rest ch.bodyMax xs j)).take ch.bodyMax := by
      rw [hpacket j hlt, payload_packetOf]
    rw [getElem_mapIdx, hexact.length_take h hatt hlt, hatt.closes_eq_finishes hwell hle]
    simp only [bodies, getElem_map, hget, hbody]
    exact hpacket j hlt

/-- The result tells of the final packet, if this one is accepted. -/
theorem Exact.final_iff (hexact : ch.Exact xs k) (h : Outcome ch xs k sent ch')
    (hatt : ch.Attempted xs k) (hwell : WellFormed xs)
    (hlast : finishes ch.bodyMax (rest ch.bodyMax xs k) = true → ch.accepts k = true) :
    sent.final = true ↔
      bodies ch ch' ≠ [] ∧ closes xs (bodies ch ch').flatten.length = true := by
  rw [h.final]
  constructor
  · intro hfinishes
    have hcount : ch.acceptedCount k = k + 1 := by
      rw [acceptedCount, hlast hfinishes, if_pos rfl]
    refine ⟨?_, (hexact.closes_bodies h hatt hwell hcount).trans hfinishes⟩
    rw [h.bodies_eq hatt, hcount]
    simp
  · rintro ⟨hne, hcloses⟩
    obtain ⟨i, hcount⟩ : ∃ i, ch.acceptedCount k = i + 1 := by
      apply Nat.exists_eq_succ_of_ne_zero
      intro hzero
      rw [h.bodies_eq hatt, hzero] at hne
      exact hne rfl
    rw [hexact.closes_bodies h hatt hwell hcount] at hcloses
    have hle := acceptedCount_le ch k
    obtain rfl : i = k := hatt.eq_of_finishes hwell (by omega) hcloses
    exact hcloses

theorem Outcome.packetised (h : Outcome ch xs k sent ch') (hatt : ch.Attempted xs k)
    (hwell : WellFormed xs) (hmin : bulkHdrSize ≤ ch.common.maxSendPktLen)
    (hok : ∀ k, (ch.answer k).1 = .ok) (hall : ∀ j ≤ k, ch.Fits xs j) :
    Packetised ch xs sent ch' := by
  have hfits : ∀ j ≤ k, ch.accepts j = true → FitsCells ch.bodyMax (rest ch.bodyMax xs j) := by
    intro j hle haccepts
    have hj := hall j hle
    rw [Fits, ← accepts_eq_hasRoom hok, haccepts, if_pos rfl] at hj
    exact hj
  have hlast : finishes ch.bodyMax (rest ch.bodyMax xs k) = true → ch.accepts k = true := by
    intro hfinishes
    have hk := hall k (Nat.le_refl k)
    rw [Fits, ← accepts_eq_hasRoom hok, hfinishes] at hk
    by_contra hrefused
    rw [if_neg hrefused] at hk
    cases hk
  have hexact : ch.Exact xs k := by
    apply exact_of_fits hatt
    · exact fun j hle haccepts => .inl (hfits j hle haccepts)
    · intro hrefused hfilled
      rw [accepts_eq_hasRoom hok, hfilled] at hrefused
      cases hrefused
  have hpacket : ∀ j < ch.acceptedCount k, ch.packet xs j =
      packetOf ch.common.currentOpcode (finishes ch.bodyMax (rest ch.bodyMax xs j))
        ((unsent (rest ch.bodyMax xs j)).take ch.bodyMax) := by
    intro j hj
    have hle : j ≤ k := Nat.le_of_lt_succ (Nat.lt_of_lt_of_le hj (acceptedCount_le ch k))
    exact packetMbuf_of_fits _ (hfits j hle (hatt.accepts_of_lt hj))
  refine ⟨h.counted hatt hexact, hexact.accepted_eq h hatt hwell hpacket, ?_,
    hexact.final_iff h hatt hwell hlast⟩
  intro packet hmem
  rw [h.accepted_eq hatt] at hmem
  obtain ⟨j, hj, rfl⟩ := mem_map.1 hmem
  rw [hpacket j (mem_range.1 hj), length_packetOf, length_take]
  have hroom : ch.bodyMax + bulkHdrSize = ch.common.maxSendPktLen := Nat.sub_add_cancel hmin
  omega

end Channel

/-! ## Calls -/

/-- What a call without blocks counts. -/
theorem counted_nil (ch : Channel) (busy : Bool) : Counted ch [] ⟨.ok, none, busy, false⟩ ch := by
  have hnone : accepted ch ch = [] := by
    rw [accepted, drop_length, filterMap_nil]
  refine ⟨?_, rfl, ?_⟩
  · rw [bodies, hnone]
    exact prefix_rfl
  · rw [hnone, if_pos rfl]
    rfl

theorem packetised_nil (ch : Channel) (busy : Bool) :
    Packetised ch [] ⟨.ok, none, busy, false⟩ ch := by
  have hnone : accepted ch ch = [] := by
    rw [accepted, drop_length, filterMap_nil]
  refine ⟨counted_nil ch busy, ?_, fun packet hmem => ?_, ?_⟩
  · rw [bodies, hnone]
    rfl
  · rw [hnone] at hmem
    cases hmem
  · rw [bodies, hnone]
    simp

theorem noTrace_nil (ch : Channel) (busy : Bool) : NoTrace ch [] ⟨.ok, none, busy, false⟩ ch :=
  ⟨counted_nil ch busy, fun hfinal => by cases hfinal⟩

theorem Channel.not_attempted_nil {ch : Channel} {k : Nat} : ¬ ch.Attempted [] k :=
  fun h => h.1 (rest_nil _ _)

namespace OnChannel

variable {ch : Channel} {current : Option Ptr} {xs : Blocks}

/-- If all writes succeed, the packets are as they should be exactly if every packet fits the
cells of its mbuf. -/
theorem sendBulk_packetised_iff (busy : Bool) (hchain : Chain ch.blocks current xs)
    (hwell : WellFormed xs) (hmin : bulkHdrSize < ch.common.maxSendPktLen)
    (hmax : ch.common.maxSendPktLen < 65536) (hok : ∀ k, (ch.answer k).1 = .ok) :
    ∃ sent ch', Ends (sendBulk current busy) ch sent ch' ∧
      (Packetised ch xs sent ch' ↔ ∀ k, ch.Attempted xs k → ch.Fits xs k) := by
  by_cases hne : xs = []
  · subst hne
    obtain rfl : current = none := hchain
    refine ⟨_, _, sendBulk_nil ch busy, fun _ k hk => ?_, fun _ => packetised_nil ch busy⟩
    exact absurd hk Channel.not_attempted_nil
  · obtain ⟨k, sent, ch', hends, hatt, hstop, hout⟩ :=
      sendBulk_ends busy hchain hwell hne hmin hmax
    refine ⟨sent, ch', hends, fun hpacks j hj => ?_, fun hall => ?_⟩
    · apply hout.fits hatt hwell (Nat.sub_pos_of_lt hmin) hok hpacks
      exact (Channel.attempted_iff hatt hstop).1 hj
    · apply hout.packetised hatt hwell (Nat.le_of_lt hmin) hok
      exact fun j hle => hall j (hatt.of_le hle)

/-- What a call leaves behind tells of accepted packets only, exactly if no packet is counted,
or called the final one, that the lower layer does not accept as planned. -/
theorem sendBulk_noTrace_iff (busy : Bool) (hchain : Chain ch.blocks current xs)
    (hwell : WellFormed xs) (hmin : bulkHdrSize < ch.common.maxSendPktLen)
    (hmax : ch.common.maxSendPktLen < 65536) :
    ∃ sent ch', Ends (sendBulk current busy) ch sent ch' ∧
      (NoTrace ch xs sent ch' ↔ ∀ k, ch.Attempted xs k → ch.Traceless xs k) := by
  by_cases hne : xs = []
  · subst hne
    obtain rfl : current = none := hchain
    refine ⟨_, _, sendBulk_nil ch busy, fun _ k hk => ?_, fun _ => noTrace_nil ch busy⟩
    exact absurd hk Channel.not_attempted_nil
  · obtain ⟨k, sent, ch', hends, hatt, hstop, hout⟩ :=
      sendBulk_ends busy hchain hwell hne hmin hmax
    refine ⟨sent, ch', hends, fun hnone j hj => ?_, fun hall => ?_⟩
    · apply hout.traceless hatt hwell (Nat.sub_pos_of_lt hmin) hnone
      exact (Channel.attempted_iff hatt hstop).1 hj
    · exact hout.noTrace hatt fun j hle => hall j (hatt.of_le hle)

end OnChannel

/-! ## Transfers of an application -/

/-- The blocks of a transfer, one behind the other from an address on. -/
def Bulk.ofContents : Ptr → List (List UInt8) → Blocks
  | _, [] => []
  | p, bytes :: contents =>
      (p, ⟨some p, bytes, 0, 0, contents.isEmpty⟩) :: ofContents (p + 1) contents

/-- A channel to put a transfer, with the answers of the lower layer. -/
def Channel.putting (contents : List (List UInt8)) (writes : List (Status × Bool)) : Channel where
  common := { Common.zero with maxSendPktLen := 1024, currentOpcode := 0x02 }
  memory := ⟨[], []⟩
  lower := ⟨writes, [], [], []⟩
  blocks := ⟨(ofContents 0 contents).map fun x =>
    some ⟨x.2, if x.2.final then none else some (x.1 + 1)⟩⟩

theorem Bulk.wellFormed_ofContents (p : Ptr) (contents : List (List UInt8)) :
    WellFormed (ofContents p contents) := by
  induction contents generalizing p with
  | nil => trivial
  | cons bytes contents ih =>
      refine ⟨Nat.zero_le _, fun hfinal => ?_, ih (p + 1)⟩
      rw [isEmpty_iff.1 hfinal]
      rfl

theorem Bulk.chain_ofContents (front : List (Option (Node BulkData)))
    (contents : List (List UInt8)) :
    Chain ⟨front ++ (ofContents front.length contents).map fun x =>
        some ⟨x.2, if x.2.final then none else some (x.1 + 1)⟩⟩
      (start (ofContents front.length contents)) (ofContents front.length contents) := by
  induction contents generalizing front with
  | nil => rfl
  | cons bytes contents ih =>
      have hrest := ih (front ++ [some ⟨⟨some front.length, bytes, 0, 0, contents.isEmpty⟩,
        if contents.isEmpty then none else some (front.length + 1)⟩])
      rw [length_append, length_singleton, append_assoc, singleton_append]
        at hrest
      refine ⟨rfl, start (ofContents (front.length + 1) contents), ?_, hrest⟩
      have hnext : start (ofContents (front.length + 1) contents) =
          if contents.isEmpty then none else some (front.length + 1) := by
        cases contents <;> rfl
      rw [hnext, ofContents, map_cons, Heap.read, getElem?_append_right le_rfl,
        Nat.sub_self]
      rfl

theorem Channel.chain_putting (contents : List (List UInt8)) (writes : List (Status × Bool)) :
    Chain (putting contents writes).blocks (start (ofContents 0 contents))
      (ofContents 0 contents) :=
  chain_ofContents [] contents

namespace OnChannel

/-- Two blocks that fit into one packet. -/
theorem sendBulk_packetised_two :
    ∃ sent ch', Ends (sendBulk (some 0) false) (.putting [[1, 2], [3]] []) sent ch' ∧
      Packetised (.putting [[1, 2], [3]] []) (ofContents 0 [[1, 2], [3]]) sent ch' := by
  obtain ⟨sent, ch', hends, hiff⟩ := sendBulk_packetised_iff false
    (Channel.chain_putting [[1, 2], [3]] []) (wellFormed_ofContents 0 [[1, 2], [3]])
    (by decide) (by decide) (fun _ => rfl)
  refine ⟨sent, ch', hends, hiff.2 fun k hatt => ?_⟩
  cases k with
  | zero =>
      unfold Channel.Fits
      decide +kernel
  | succ k => exact absurd (rest_nil _ k) hatt.1

/-- The cells of a packet with one block of one byte 255 times are none at all. -/
theorem sendBulk_not_packetised :
    Chain (Channel.putting (replicate 255 [0]) []).blocks (some 0)
        (ofContents 0 (replicate 255 [0])) ∧
      WellFormed (ofContents 0 (replicate 255 [0])) ∧
      ∃ sent ch', Ends (sendBulk (some 0) false) (.putting (replicate 255 [0]) []) sent ch' ∧
        ¬ Packetised (.putting (replicate 255 [0]) [])
          (ofContents 0 (replicate 255 [0])) sent ch' := by
  have hwell := wellFormed_ofContents 0 (replicate 255 [0])
  obtain ⟨k, sent, ch', hends, hatt, -, hout⟩ := sendBulk_ends false
    (Channel.chain_putting (replicate 255 [0]) []) hwell (cons_ne_nil _ _)
    (by decide) (by decide)
  refine ⟨Channel.chain_putting _ _, hwell, sent, ch', hends, fun hpacks => ?_⟩
  have hfits := hout.fits hatt hwell (by decide) (fun _ => rfl) hpacks (Nat.zero_le k)
  have hnot : ¬ (Channel.putting (replicate 255 [0]) []).Fits
      (ofContents 0 (replicate 255 [0])) 0 := by
    unfold Channel.Fits
    decide +kernel
  exact hnot hfits

/-- A packet that is accepted leaves the traces that it should. -/
theorem sendBulk_noTrace_two :
    ∃ sent ch', Ends (sendBulk (some 0) false) (.putting [[1, 2], [3]] []) sent ch' ∧
      NoTrace (.putting [[1, 2], [3]] []) (ofContents 0 [[1, 2], [3]]) sent ch' := by
  obtain ⟨sent, ch', hends, hiff⟩ := sendBulk_noTrace_iff false
    (Channel.chain_putting [[1, 2], [3]] []) (wellFormed_ofContents 0 [[1, 2], [3]])
    (by decide) (by decide)
  refine ⟨sent, ch', hends, hiff.2 fun k hatt => ?_⟩
  cases k with
  | zero =>
      unfold Channel.Traceless
      decide +kernel
  | succ k => exact absurd (rest_nil _ k) hatt.1

/-- A packet that is refused has been counted, and called the final one. -/
theorem sendBulk_refused_trace :
    Chain (Channel.putting [[1, 2, 3]] [(.writeInProgress, false)]).blocks (some 0)
        (ofContents 0 [[1, 2, 3]]) ∧
      WellFormed (ofContents 0 [[1, 2, 3]]) ∧
      ∃ sent ch', Ends (sendBulk (some 0) false)
          (.putting [[1, 2, 3]] [(.writeInProgress, false)]) sent ch' ∧
        ¬ NoTrace (.putting [[1, 2, 3]] [(.writeInProgress, false)]) (ofContents 0 [[1, 2, 3]])
          sent ch' := by
  have hwell := wellFormed_ofContents 0 [[1, 2, 3]]
  obtain ⟨k, sent, ch', hends, hatt, -, hout⟩ := sendBulk_ends false
    (Channel.chain_putting [[1, 2, 3]] [(.writeInProgress, false)]) hwell (cons_ne_nil _ _)
    (by decide) (by decide)
  refine ⟨Channel.chain_putting _ _, hwell, sent, ch', hends, fun hnone => ?_⟩
  have htraceless := hout.traceless hatt hwell (by decide) hnone (Nat.zero_le k)
  have hnot : ¬ (Channel.putting [[1, 2, 3]] [(.writeInProgress, false)]).Traceless
      (ofContents 0 [[1, 2, 3]]) 0 := by
    unfold Channel.Traceless
    decide +kernel
  exact hnot htraceless

end OnChannel

end Obex
