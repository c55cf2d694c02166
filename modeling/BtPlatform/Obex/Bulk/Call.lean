import BtPlatform.Obex.Bulk.Packets

/-!
# A call of `OI_OBEXCOMMON_SendBulk`

Which packets a call attempts to send, and what it leaves behind. Each packet takes
what the ones before it have left; the call goes on as long as the packets are
accepted, single response mode is enabled, the queue below has room, and there is
something left.
-/

namespace Obex

open Support Program Linked Prog Bulk List

namespace Bulk

/-- The blocks that are left after `k` packets with room for `n` bytes each. -/
def rest (n : Nat) : Blocks → Nat → Blocks
  | xs, 0 => xs
  | xs, k + 1 => rest n (unfinished (advance n xs)) k

@[simp] theorem rest_zero (n : Nat) (xs : Blocks) : rest n xs 0 = xs := rfl

theorem rest_succ (n : Nat) (xs : Blocks) (k : Nat) :
    rest n xs (k + 1) = rest n (unfinished (advance n xs)) k := rfl

theorem rest_nil (n k : Nat) : rest n [] k = [] := by
  induction k with
  | zero => rfl
  | succ k ih => exact ih

theorem rest_add (n : Nat) (xs : Blocks) (j k : Nat) :
    rest n xs (j + k) = rest n (rest n xs j) k := by
  induction j generalizing xs with
  | zero => rw [Nat.zero_add, rest_zero]
  | succ j ih => rw [Nat.succ_add, rest_succ, ih, rest_succ]

theorem unsent_rest (n : Nat) (xs : Blocks) (k : Nat) :
    unsent (rest n xs k) = (unsent xs).drop (k * n) := by
  induction k generalizing xs with
  | zero => simp
  | succ k ih =>
      rw [rest_succ, ih, unsent_unfinished, unsent_advance, drop_drop, Nat.add_mul,
        Nat.one_mul, Nat.add_comm]

theorem left_rest (n : Nat) (xs : Blocks) (k : Nat) :
    left (rest n xs k) = left xs - k * n := by
  rw [← length_unsent, unsent_rest, length_drop, length_unsent]

theorem WellFormed.rest {xs : Blocks} (h : WellFormed xs) (n k : Nat) :
    WellFormed (rest n xs k) := by
  induction k generalizing xs with
  | zero => exact h
  | succ k ih => exact ih (h.advance n).unfinished

end Bulk

namespace Channel

/-- Whether the `k`th packet from now on is accepted. -/
def accepts (ch : Channel) (k : Nat) : Bool := ch.hasRoom k && (ch.answer k).1.success

/-- The call gets as far as its `k`th packet. -/
def Attempted (ch : Channel) (xs : Blocks) (k : Nat) : Prop :=
  rest ch.bodyMax xs k ≠ [] ∧
    ∀ j < k, ch.accepts j = true ∧ ch.common.srm.enabled = true ∧ (ch.answer j).2 = false

theorem Attempted.of_le {ch : Channel} {xs : Blocks} {j k : Nat} (h : ch.Attempted xs k)
    (hle : j ≤ k) : ch.Attempted xs j := by
  refine ⟨fun hnil => h.1 ?_, fun i hi => h.2 i (Nat.lt_of_lt_of_le hi hle)⟩
  obtain ⟨i, rfl⟩ := Nat.exists_eq_add_of_le hle
  rw [rest_add, hnil, rest_nil]

/-- The packets attempted are those up to the last one. -/
theorem attempted_iff {ch : Channel} {xs : Blocks} {j k : Nat} (h : ch.Attempted xs k)
    (hstop : ¬ ch.Attempted xs (k + 1)) : ch.Attempted xs j ↔ j ≤ k := by
  constructor
  · intro hj
    by_contra hgt
    exact hstop (hj.of_le (Nat.lt_of_not_le hgt))
  · exact h.of_le

/-- The attempt to send the `k`th packet. -/
def attemptAt (ch : Channel) (xs : Blocks) (k : Nat) : Attempt :=
  if ch.hasRoom k then
    .wrote true (packetMbuf ch.common.currentOpcode ch.bodyMax (rest ch.bodyMax xs k)).bytes
      (ch.answer k).1
  else .noMbuf true

/-- What a call leaves behind whose last packet is the `k`th. -/
structure Outcome (ch : Channel) (xs : Blocks) (k : Nat) (sent : BulkSend) (ch' : Channel) :
    Prop where
  attempts : ch'.lower.attempts =
    ch.lower.attempts ++ (List.range (k + 1)).map (ch.attemptAt xs)
  blocks : Chain ch'.blocks (start xs)
    (advance ((if ch.hasRoom k then k + 1 else k) * ch.bodyMax) xs)
  frame : ∀ c ∉ addresses xs, ch'.blocks.read c = ch.blocks.read c
  current : sent.current = start (rest ch.bodyMax xs (if ch.accepts k then k + 1 else k))
  final : sent.final = finishes ch.bodyMax (rest ch.bodyMax xs k)

/-! ## After the first packet -/

/-- The surroundings after one packet. -/
structure Follows (ch ch₁ : Channel) : Prop where
  common : ch₁.common = ch.common
  hasRoom : ∀ k, ch₁.hasRoom k = ch.hasRoom (k + 1)
  answer : ∀ k, ch₁.answer k = ch.answer (k + 1)

variable {ch ch₁ : Channel} {xs : Blocks} {k : Nat}

theorem Follows.bodyMax (h : Follows ch ch₁) : ch₁.bodyMax = ch.bodyMax := by
  rw [Channel.bodyMax, h.common, Channel.bodyMax]

theorem Follows.accepts (h : Follows ch ch₁) (k : Nat) : ch₁.accepts k = ch.accepts (k + 1) := by
  rw [Channel.accepts, h.hasRoom, h.answer, Channel.accepts]

theorem Follows.attemptAt (h : Follows ch ch₁) (xs : Blocks) (k : Nat) :
    ch₁.attemptAt (unfinished (advance ch.bodyMax xs)) k = ch.attemptAt xs (k + 1) := by
  simp only [Channel.attemptAt, h.hasRoom, h.answer, h.bodyMax, h.common, rest_succ]

theorem Follows.attempted (h : Follows ch ch₁)
    (hgo : ch.accepts 0 = true ∧ ch.common.srm.enabled = true ∧ (ch.answer 0).2 = false) :
    ch.Attempted xs (k + 1) ↔ ch₁.Attempted (unfinished (advance ch.bodyMax xs)) k := by
  unfold Attempted
  rw [h.bodyMax, h.common, rest_succ]
  constructor
  · rintro ⟨hne, hall⟩
    refine ⟨hne, fun j hj => ?_⟩
    rw [h.accepts, h.answer]
    exact hall (j + 1) (Nat.succ_lt_succ hj)
  · rintro ⟨hne, hall⟩
    refine ⟨hne, fun j hj => ?_⟩
    cases j with
    | zero => exact hgo
    | succ j =>
        have hj' := hall j (Nat.lt_of_succ_lt_succ hj)
        rw [h.accepts, h.answer] at hj'
        exact hj'

end Channel

/-! ## The loop over the packets -/

namespace Bulk

/-- The blocks in front of those that are left are done. -/
theorem chain_unfinished {h h' : Heap BulkData} {p : Option Ptr} {xs : Blocks} {n : Nat}
    (hchain : Chain h p xs)
    (hrest : Chain h' (start (unfinished xs)) (advance n (unfinished xs)))
    (hframe : ∀ c ∉ addresses (unfinished xs), h'.read c = h.read c) :
    Chain h' p (advance n xs) := by
  obtain ⟨done, hsplit, hdone⟩ := exists_done xs
  have hnodup := Chain.nodup hchain
  rw [hsplit] at hchain hnodup
  rw [addresses_append] at hnodup
  obtain ⟨q, hfront, hback⟩ := segment_append.1 hchain
  rw [hsplit, advance_append hdone]
  refine segment_append.2 ⟨q, hfront.congr fun c hc => ?_, ?_⟩
  · exact hframe c fun hmem => disjoint_of_nodup_append hnodup hc hmem
  · rw [Chain.start_eq hback]
    exact hrest

theorem addresses_unfinished_subset {xs : Blocks} : addresses (unfinished xs) ⊆ addresses xs := by
  obtain ⟨done, hsplit, -⟩ := exists_done xs
  intro c hc
  rw [hsplit, addresses_append]
  exact mem_append_right _ hc

end Bulk

namespace OnChannel

open Channel

variable {ch : Channel} {current : Option Ptr} {xs : Blocks} {busy : Bool} {g : Gathered}

/-- The loop after one of its packets. -/
theorem ends_sendPieces_succ {fuel : Nat} {sent r : BulkSend} {g' : Gathered} {ch₁ ch' : Channel}
    (h : Ends (sendPiece current busy g) ch (sent, g') ch₁) :
    Ends (sendPieces (fuel + 1) current busy g) ch r ch' ↔
      Ends (if !sent.status.success then pure sent
        else if !ch₁.common.srm.enabled then pure { sent with busy := true }
        else if sent.current.isSome && !sent.busy then
          sendPieces fuel sent.current sent.busy g'
        else pure sent) ch₁ r ch' := by
  rw [sendPieces, ends_bind]
  constructor
  · rintro ⟨_, _, hpiece, hrest⟩
    obtain ⟨rfl, rfl⟩ := h.unique hpiece
    exact ends_bind_view.1 hrest
  · intro hrest
    exact ⟨_, _, h, ends_bind_view.2 hrest⟩

/-- The first packet is the last one. -/
theorem outcome_first {sent : BulkSend} {ch₁ : Channel}
    (hatt : Attempts xs (ch.attemptAt xs 0) ch ch₁)
    (hblocks : Chain ch₁.blocks (start xs) (advance (if ch.hasRoom 0 then ch.bodyMax else 0) xs))
    (hcurrent : sent.current = start (rest ch.bodyMax xs (if ch.accepts 0 then 1 else 0)))
    (hfinal : sent.final = finishes ch.bodyMax xs) : Outcome ch xs 0 sent ch₁ where
  attempts := hatt.attempts
  blocks := by
    cases hroom : ch.hasRoom 0 <;> simpa [hroom] using hblocks
  frame := hatt.frame
  current := hcurrent
  final := hfinal

/-- What the packets after the first one leave behind. -/
theorem outcome_succ {k : Nat} {sent : BulkSend} {ch₁ ch' : Channel}
    (hchain : Chain ch₁.blocks (start xs) (advance ch.bodyMax xs))
    (hatt : Attempts xs (ch.attemptAt xs 0) ch ch₁) (hfollows : Follows ch ch₁)
    (h : Outcome ch₁ (unfinished (advance ch.bodyMax xs)) k sent ch') :
    Outcome ch xs (k + 1) sent ch' where
  attempts := by
    rw [h.attempts, hatt.attempts, range_succ_eq_map (n := k + 1), map_cons, map_map,
      append_assoc, singleton_append]
    congr 2
    exact map_congr_left fun j _ => hfollows.attemptAt xs j
  blocks := by
    have hwhole := chain_unfinished hchain h.blocks h.frame
    rw [advance_advance, hfollows.bodyMax, hfollows.hasRoom] at hwhole
    have hbytes : ch.bodyMax + (if ch.hasRoom (k + 1) then k + 1 else k) * ch.bodyMax =
        (if ch.hasRoom (k + 1) then k + 1 + 1 else k + 1) * ch.bodyMax := by
      split
      · rw [Nat.succ_mul (k + 1), Nat.add_comm]
      · rw [Nat.succ_mul, Nat.add_comm]
    rw [← hbytes]
    exact hwhole
  frame c hc := by
    rw [h.frame c fun hmem => hc ?_, hatt.frame c hc]
    have hsub := addresses_unfinished_subset hmem
    rwa [addresses_advance] at hsub
  current := by
    rw [h.current, hfollows.bodyMax, hfollows.accepts]
    split <;> rfl
  final := by
    rw [h.final, hfollows.bodyMax, rest_succ]

section First

variable (busy : Bool) (fuel : Nat) (hchain : Chain ch.blocks current xs) (hwell : WellFormed xs)
  (hmin : bulkHdrSize ≤ ch.common.maxSendPktLen) (hmax : ch.common.maxSendPktLen < 65536)
  (hg : { g with numBlocks := 0, bodyLen := 0 } = .start ch.common.currentOpcode)

include hchain hwell hmin hmax hg

/-- There is no mbuf for the first packet. -/
theorem sendPieces_noMbuf (hroom : ch.hasRoom 0 = false) :
    ∃ sent ch', Ends (sendPieces (fuel + 1) current busy g) ch sent ch' ∧
      Outcome ch xs 0 sent ch' := by
  obtain rfl := Chain.start_eq hchain
  have hrefused : ch.accepts 0 = false := by rw [Channel.accepts, hroom, Bool.false_and]
  have hattempt : ch.attemptAt xs 0 = .noMbuf true := by
    rw [attemptAt, hroom, if_neg Bool.false_ne_true]
  obtain ⟨ch₁, hpiece, hblocks, hatt⟩ := sendPiece_noMbuf busy hchain hwell hmin hmax hg hroom
  refine ⟨⟨.outOfMemory, start xs, busy, finishes ch.bodyMax xs⟩, ch₁, ?_, ?_⟩
  · rw [ends_sendPieces_succ hpiece]
    exact ends_pure.2 ⟨rfl, rfl⟩
  · refine outcome_first (hattempt ▸ hatt) ?_ ?_ rfl
    · rw [hroom, if_neg Bool.false_ne_true, advance_zero, hblocks]
      exact hchain
    · rw [hrefused]
      rfl

/-- The first packet, when it is the last one. -/
theorem sendPieces_last (hne : xs ≠ []) (hlast : ¬ ch.Attempted xs 1) :
    ∃ sent ch', Ends (sendPieces (fuel + 1) current busy g) ch sent ch' ∧
      Outcome ch xs 0 sent ch' := by
  obtain rfl := Chain.start_eq hchain
  cases hroom : ch.hasRoom 0 with
  | false => exact sendPieces_noMbuf busy fuel hchain hwell hmin hmax hg hroom
  | true =>
      have hattempt : ch.attemptAt xs 0 = .wrote true
          (packetMbuf ch.common.currentOpcode ch.bodyMax xs).bytes (ch.answer 0).1 := by
        rw [attemptAt, hroom, if_pos rfl]
        rfl
      have haccepts : ch.accepts 0 = (ch.answer 0).1.success := by
        rw [Channel.accepts, hroom, Bool.true_and]
      obtain ⟨ch₁, hpiece, hblocks, -, hatt⟩ :=
        sendPiece_written busy hchain hwell hne hmin hmax hg hroom
      rw [← hattempt] at hatt
      have hblocks' : Chain ch₁.blocks (start xs)
          (advance (if ch.hasRoom 0 then ch.bodyMax else 0) xs) := by
        rw [hroom, if_pos rfl]
        exact hblocks
      cases hok : (ch.answer 0).1.success with
      | false =>
          rw [hok] at haccepts
          rw [hok, if_neg Bool.false_ne_true] at hpiece
          refine ⟨⟨(ch.answer 0).1, start xs, busy, finishes ch.bodyMax xs⟩, ch₁, ?_, ?_⟩
          · rw [ends_sendPieces_succ hpiece]
            dsimp only
            rw [hok]
            exact ends_pure.2 ⟨rfl, rfl⟩
          · refine outcome_first hatt hblocks' ?_ rfl
            rw [haccepts]
            rfl
      | true =>
          rw [hok] at haccepts
          rw [hok, if_pos rfl] at hpiece
          have houtcome : ∀ busy', Outcome ch xs 0 ⟨(ch.answer 0).1,
              start (unfinished (advance ch.bodyMax xs)), busy',
              finishes ch.bodyMax xs⟩ ch₁ := by
            refine fun busy' => outcome_first hatt hblocks' ?_ rfl
            rw [haccepts]
            rfl
          cases hsrm : ch.common.srm.enabled with
          | false =>
              refine ⟨_, ch₁, ?_, houtcome true⟩
              rw [ends_sendPieces_succ hpiece]
              dsimp only
              rw [hok, hatt.common, hsrm]
              exact ends_pure.2 ⟨rfl, rfl⟩
          | true =>
              refine ⟨_, ch₁, ?_, houtcome (ch.answer 0).2⟩
              have hstop : ((start (unfinished (advance ch.bodyMax xs))).isSome &&
                  !(ch.answer 0).2) = false := by
                by_contra hgo
                rw [Bool.not_eq_false, Bool.and_eq_true, Bool.not_eq_true'] at hgo
                refine hlast ⟨fun hnil => ?_, fun j hj => ?_⟩
                · rw [rest_succ, rest_zero] at hnil
                  rw [hnil] at hgo
                  cases hgo.1
                · obtain rfl : j = 0 := by omega
                  exact ⟨haccepts, hsrm, hgo.2⟩
              rw [ends_sendPieces_succ hpiece]
              dsimp only
              rw [hok, hatt.common, hsrm, hstop]
              exact ends_pure.2 ⟨rfl, rfl⟩

/-- The first packet, when another one follows it. -/
theorem sendPieces_more (hmore : ch.Attempted xs 1) :
    ∃ ch₁, (∀ r ch', Ends (sendPieces (fuel + 1) current busy g) ch r ch' ↔
        Ends (sendPieces fuel (start (unfinished (advance ch.bodyMax xs))) false
          ((Gathered.start ch.common.currentOpcode).plan ch.bodyMax xs)) ch₁ r ch') ∧
      Chain ch₁.blocks current (advance ch.bodyMax xs) ∧
      Attempts xs (ch.attemptAt xs 0) ch ch₁ ∧ Follows ch ch₁ := by
  obtain ⟨haccepts, hsrm, hidle⟩ := hmore.2 0 Nat.one_pos
  have hne : xs ≠ [] := (hmore.of_le (Nat.zero_le 1)).1
  obtain ⟨hroom, hok⟩ := Bool.and_eq_true_iff.1 haccepts
  have hattempt : ch.attemptAt xs 0 = .wrote true
      (packetMbuf ch.common.currentOpcode ch.bodyMax xs).bytes (ch.answer 0).1 := by
    rw [attemptAt, hroom, if_pos rfl]
    rfl
  obtain ⟨ch₁, hpiece, hblocks, hanswer, hatt⟩ :=
    sendPiece_written busy hchain hwell hne hmin hmax hg hroom
  rw [hok, if_pos rfl] at hpiece
  have hsome : (start (unfinished (advance ch.bodyMax xs))).isSome = true := by
    obtain ⟨x, ys, hcons⟩ := exists_cons_of_ne_nil hmore.1
    rw [rest_succ, rest_zero] at hcons
    rw [hcons]
    rfl
  refine ⟨ch₁, fun r ch' => ?_, hblocks, hattempt ▸ hatt, hatt.common, hatt.hasRoom, hanswer⟩
  rw [ends_sendPieces_succ hpiece]
  dsimp only
  rw [hok, hatt.common, hsrm, hsome, hidle]
  rfl

end First

/-- The loop gets through: every packet but the last takes at least one byte. -/
theorem sendPieces_ends (busy : Bool) {fuel : Nat} (hchain : Chain ch.blocks current xs)
    (hwell : WellFormed xs) (hne : xs ≠ []) (hmin : bulkHdrSize < ch.common.maxSendPktLen)
    (hmax : ch.common.maxSendPktLen < 65536)
    (hg : { g with numBlocks := 0, bodyLen := 0 } = .start ch.common.currentOpcode)
    (hfuel : left xs < fuel) :
    ∃ k sent ch', Ends (sendPieces fuel current busy g) ch sent ch' ∧
      ch.Attempted xs k ∧ ¬ ch.Attempted xs (k + 1) ∧ Outcome ch xs k sent ch' := by
  induction fuel generalizing ch current xs busy g with
  | zero => exact absurd hfuel (Nat.not_lt_zero _)
  | succ fuel ih =>
      by_cases hmore : ch.Attempted xs 1
      · obtain ⟨ch₁, hiff, hblocks, hatt, hfollows⟩ :=
          sendPieces_more busy fuel hchain hwell (Nat.le_of_lt hmin) hmax hg hmore
        obtain rfl := Chain.start_eq hchain
        have hleft : unfinished (advance ch.bodyMax xs) ≠ [] := hmore.1
        have hlong : ch.bodyMax < left xs := by
          rw [ne_eq, unfinished_eq_nil_iff, left_advance] at hleft
          omega
        have hroom : 0 < ch.bodyMax := Nat.sub_pos_of_lt hmin
        have hopen : finishes ch.bodyMax xs = false := by
          rw [finishes_eq hwell, decide_eq_false (by omega), Bool.and_false]
        have hchain₁ : Chain ch₁.blocks (start (unfinished (advance ch.bodyMax xs)))
            (unfinished (advance ch.bodyMax xs)) := by
          obtain ⟨done, hsplit, -⟩ := exists_done (advance ch.bodyMax xs)
          rw [hsplit] at hblocks
          exact Chain.suffix hblocks
        obtain ⟨k, sent, ch', hends, hatt', hstop, hout⟩ :=
          @ih ch₁ _ _ ((Gathered.start ch.common.currentOpcode).plan ch.bodyMax xs) false hchain₁
            (hwell.advance _).unfinished hleft (hfollows.common ▸ hmin)
            (hfollows.common ▸ hmax) (hfollows.common ▸ Gathered.plan_unfinished hopen)
            (by rw [left_unfinished, left_advance]; omega)
        have hgo := hmore.2 0 Nat.one_pos
        refine ⟨k + 1, sent, ch', (hiff sent ch').2 hends, (hfollows.attempted hgo).2 hatt', ?_,
          outcome_succ hblocks hatt hfollows hout⟩
        rw [hfollows.attempted hgo]
        exact hstop
      · obtain ⟨sent, ch', hends, hout⟩ :=
          sendPieces_last busy fuel hchain hwell (Nat.le_of_lt hmin) hmax hg hne hmore
        refine ⟨0, sent, ch', hends, ⟨hne, fun _ hj => ?_⟩, hmore, hout⟩
        exact absurd hj (Nat.not_lt_zero _)

/-! ## The call -/

/-- Without blocks there is nothing to do. -/
theorem sendBulk_nil (ch : Channel) (busy : Bool) :
    Ends (sendBulk none busy) ch ⟨.ok, none, busy, false⟩ ch :=
  ends_bind_view.2 (ends_pure.2 ⟨rfl, rfl⟩)

theorem left_le_unsentBytes (hchain : Chain ch.blocks current xs) :
    left xs ≤ unsentBytes ch.blocks := by
  have hle := Chain.sum_le hchain BulkData.left
  have hsame : ch.blocks.sum BulkData.left = unsentBytes ch.blocks := by
    unfold Heap.sum unsentBytes
    congr 2
    funext cell
    cases cell <;> rfl
  rw [← hsame]
  exact hle

/-- A call with blocks sends one packet at least. -/
theorem sendBulk_ends (busy : Bool) (hchain : Chain ch.blocks current xs) (hwell : WellFormed xs)
    (hne : xs ≠ []) (hmin : bulkHdrSize < ch.common.maxSendPktLen)
    (hmax : ch.common.maxSendPktLen < 65536) :
    ∃ k sent ch', Ends (sendBulk current busy) ch sent ch' ∧
      ch.Attempted xs k ∧ ¬ ch.Attempted xs (k + 1) ∧ Outcome ch xs k sent ch' := by
  obtain ⟨k, sent, ch', hends, hout⟩ := sendPieces_ends busy
    (g := ⟨0, 0, hdrBody, ch.common.currentOpcode, false⟩) hchain hwell hne hmin hmax rfl
    (Nat.lt_succ_of_le (left_le_unsentBytes hchain))
  refine ⟨k, sent, ch', ends_bind_view.2 ?_, hout⟩
  have hsome : current.isNone = false := by
    rw [Chain.start_eq hchain]
    obtain ⟨x, ys, rfl⟩ := exists_cons_of_ne_nil hne
    rfl
  dsimp only [id]
  rw [hsome]
  exact hends

end OnChannel

end Obex
