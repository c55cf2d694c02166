import BtPlatform.Obex.Bulk.Call
import BtPlatform.Obex.Bulk.Payload
import Mathlib.Algebra.Order.BigOperators.Group.Finset

/-!
# What a call counts as sent

The bytes that a call counts as sent against the bytes in the packets that the lower
layer has accepted. The packets take the unsent bytes in order, so it is enough to
compare numbers: no packet carries more than was planned for it, hence what is
counted is what was accepted only if every packet carries all that was planned.
-/

namespace Obex

open Support Program Linked Prog Bulk List

/-! ## Bytes taken in equal portions -/

namespace Bulk

theorem hasFinal_unfinished {xs : Blocks} (h : WellFormed xs) (hne : unfinished xs ≠ []) :
    hasFinal (unfinished xs) = hasFinal xs := by
  induction xs with
  | nil => rfl
  | cons x xs ih =>
      obtain ⟨p, b⟩ := x
      by_cases hzero : b.left = 0
      · rw [unfinished_of_zero xs hzero] at hne ⊢
        -- a final block is the last one
        have hopen : b.final = false := by
          cases hb : b.final with
          | false => rfl
          | true =>
              rw [h.2.1 hb] at hne
              exact absurd rfl hne
        rw [ih h.2.2 hne, hasFinal, hasFinal, any_cons, hopen, Bool.false_or]
      · rw [unfinished_of_pos xs hzero]

theorem unfinished_append {done : Blocks} (hdone : left done = 0) (xs : Blocks) :
    unfinished (done ++ xs) = unfinished xs :=
  dropWhile_append_of_pos fun x hx => by simpa using left_eq_zero_iff.1 hdone x hx

theorem unfinished_advance_unfinished (n : Nat) (xs : Blocks) :
    unfinished (advance n (unfinished xs)) = unfinished (advance n xs) := by
  obtain ⟨done, hsplit, hdone⟩ := exists_done xs
  have hskip : unfinished (advance n xs) = unfinished (done ++ advance n (unfinished xs)) := by
    rw [← advance_append hdone, ← hsplit]
  rw [hskip, unfinished_append hdone]

theorem rest_succ_eq (n : Nat) (xs : Blocks) (k : Nat) :
    rest n xs (k + 1) = unfinished (advance ((k + 1) * n) xs) := by
  induction k generalizing xs with
  | zero => rw [rest_succ, rest_zero, Nat.zero_add, Nat.one_mul]
  | succ k ih =>
      rw [rest_succ, ih, unfinished_advance_unfinished, advance_advance, Nat.succ_mul (k + 1),
        Nat.add_comm]

theorem hasFinal_rest {n : Nat} {xs : Blocks} (h : WellFormed xs) {k : Nat}
    (hne : rest n xs k ≠ []) : hasFinal (rest n xs k) = hasFinal xs := by
  cases k with
  | zero => rfl
  | succ k =>
      rw [rest_succ_eq] at hne ⊢
      rw [hasFinal_unfinished (h.advance _) hne, hasFinal_advance]

/-- No more can be sent than there is. -/
theorem advance_min (n : Nat) (xs : Blocks) : advance (min n (left xs)) xs = advance n xs := by
  induction xs generalizing n with
  | nil => rfl
  | cons x xs ih =>
      obtain ⟨p, b⟩ := x
      have hhead : min b.left (min n (b.left + left xs)) = min b.left n := by omega
      have hrest : min n (b.left + left xs) - b.left = min (n - b.left) (left xs) := by omega
      rw [left_cons, advance, advance, hhead, hrest, ih]

/-- Portions of `n` bytes, one after the other. -/
theorem flatten_portions (n : Nat) (bytes : List UInt8) (k : Nat) :
    ((range k).map fun j => (bytes.drop (j * n)).take n).flatten = bytes.take (k * n) := by
  induction k with
  | zero => simp
  | succ k ih =>
      rw [range_succ, map_append, flatten_append, ih, map_singleton,
        flatten_singleton, Nat.succ_mul, take_add]

theorem length_flatten_range (f : Nat → List UInt8) (k : Nat) :
    ((range k).map f).flatten.length = ∑ j ∈ Finset.range k, (f j).length := by
  induction k with
  | zero => rfl
  | succ k ih =>
      rw [range_succ, map_append, flatten_append, length_append, ih,
        map_singleton, flatten_singleton, Finset.sum_range_succ]

/-- How many bytes the first packets of a call plan to take. -/
theorem sum_planned (n : Nat) (xs : Blocks) (k : Nat) :
    ∑ j ∈ Finset.range k, min n (left (rest n xs j)) = min (k * n) (left xs) := by
  induction k with
  | zero => simp
  | succ k ih =>
      rw [Finset.sum_range_succ, ih, left_rest, Nat.succ_mul]
      omega

end Bulk

/-! ## What the lower layer has accepted -/

/-- The packet of an attempt, if it was accepted. -/
def Attempt.accepted : Attempt → Option (List UInt8)
  | .noMbuf _ => none
  | .wrote _ packet status => if status.success then some packet else none

/-- The packets accepted between two points of a run. -/
def accepted (ch ch' : Channel) : List (List UInt8) :=
  (ch'.lower.attempts.drop ch.lower.attempts.length).filterMap Attempt.accepted

/-- The bodies of the packets accepted between two points of a run. -/
def bodies (ch ch' : Channel) : List (List UInt8) := (accepted ch ch').map payload

/-- What is counted as sent is what the accepted packets carry, and the next block is the
first one that is not completely among it. -/
structure Counted (ch : Channel) (xs : Blocks) (sent : BulkSend) (ch' : Channel) : Prop where
  bytes : (bodies ch ch').flatten <+: unsent xs
  blocks : Chain ch'.blocks (start xs) (advance (bodies ch ch').flatten.length xs)
  current : sent.current =
    if accepted ch ch' = [] then start xs
    else start (unfinished (advance (bodies ch ch').flatten.length xs))

namespace Channel

variable {ch ch' : Channel} {xs : Blocks} {k : Nat} {sent : BulkSend}

/-- How many packets of a call are accepted whose last one is the `k`th. -/
def acceptedCount (ch : Channel) (k : Nat) : Nat := if ch.accepts k then k + 1 else k

/-- How many packets of a call are filled whose last one is the `k`th. -/
def filledCount (ch : Channel) (k : Nat) : Nat := if ch.hasRoom k then k + 1 else k

/-- The bytes of the `k`th packet of a call. -/
def packet (ch : Channel) (xs : Blocks) (k : Nat) : List UInt8 :=
  (packetMbuf ch.common.currentOpcode ch.bodyMax (rest ch.bodyMax xs k)).bytes

theorem hasRoom_of_accepts (h : ch.accepts k = true) : ch.hasRoom k = true :=
  (Bool.and_eq_true_iff.1 h).1

theorem accepted_attemptAt (ch : Channel) (xs : Blocks) (k : Nat) :
    (ch.attemptAt xs k).accepted = if ch.accepts k then some (ch.packet xs k) else none := by
  unfold attemptAt accepts
  cases hroom : ch.hasRoom k <;> rfl

/-- The packets accepted are those filled, but the last one if it is refused. -/
theorem Outcome.accepted_eq (h : Outcome ch xs k sent ch') (hatt : ch.Attempted xs k) :
    accepted ch ch' = (range (ch.acceptedCount k)).map (ch.packet xs) := by
  have hbefore : ((range k).map (ch.attemptAt xs)).filterMap Attempt.accepted =
      (range k).map (ch.packet xs) := by
    rw [filterMap_map, ← filterMap_eq_map]
    apply filterMap_congr
    intro j hj
    rw [Function.comp_apply, accepted_attemptAt, (hatt.2 j (mem_range.1 hj)).1, if_pos rfl]
    rfl
  rw [accepted, h.attempts, drop_left, range_succ, map_append, filterMap_append,
    hbefore, map_singleton, acceptedCount]
  cases hlast : ch.accepts k with
  | true =>
      rw [filterMap_cons_some (b := ch.packet xs k), filterMap_nil, if_pos rfl,
        range_succ, map_append, map_singleton]
      rw [accepted_attemptAt, hlast, if_pos rfl]
  | false =>
      rw [filterMap_cons_none, filterMap_nil, append_nil,
        if_neg Bool.false_ne_true]
      rw [accepted_attemptAt, hlast, if_neg Bool.false_ne_true]

theorem Outcome.bodies_eq (h : Outcome ch xs k sent ch') (hatt : ch.Attempted xs k) :
    bodies ch ch' =
      (range (ch.acceptedCount k)).map fun j => payload (ch.packet xs j) := by
  rw [bodies, h.accepted_eq hatt, map_map]
  rfl

/-- Every packet accepted carries what was planned for it, and nothing was planned for one
that was refused. -/
structure Exact (ch : Channel) (xs : Blocks) (k : Nat) : Prop where
  full : ∀ j < ch.acceptedCount k,
    (payload (ch.packet xs j)).length = min ch.bodyMax (left (rest ch.bodyMax xs j))
  refused : ch.accepts k = false → ch.hasRoom k = true → left (rest ch.bodyMax xs k) = 0

/-- What is counted has been accepted only if nothing is missing from the packets. -/
theorem Outcome.exact (h : Outcome ch xs k sent ch') (hatt : ch.Attempted xs k)
    (hroom : 0 < ch.bodyMax) (hcounted : Counted ch xs sent ch') : ch.Exact xs k := by
  have hlen : (bodies ch ch').flatten.length =
      ∑ j ∈ Finset.range (ch.acceptedCount k), (payload (ch.packet xs j)).length := by
    rw [h.bodies_eq hatt, length_flatten_range]
  have hle : ∀ j, (payload (ch.packet xs j)).length ≤
      min ch.bodyMax (left (rest ch.bodyMax xs j)) := fun j => length_payload_le _
  have hbound := hcounted.bytes.length_le
  rw [length_unsent] at hbound
  -- the planned bytes are counted, whether or not they got into the packets
  have hplanned : ∑ j ∈ Finset.range (ch.acceptedCount k), (payload (ch.packet xs j)).length =
      ∑ j ∈ Finset.range (ch.filledCount k), min ch.bodyMax (left (rest ch.bodyMax xs j)) := by
    have hleft := congrArg left (Chain.unique hcounted.blocks h.blocks)
    rw [left_advance, left_advance, hlen] at hleft
    rw [hlen] at hbound
    rw [sum_planned, filledCount]
    omega
  have hpointwise : ∀ i, ∑ j ∈ Finset.range i, (payload (ch.packet xs j)).length =
      ∑ j ∈ Finset.range i, min ch.bodyMax (left (rest ch.bodyMax xs j)) → ∀ j < i,
        (payload (ch.packet xs j)).length = min ch.bodyMax (left (rest ch.bodyMax xs j)) := by
    intro i hsum j hj
    exact (Finset.sum_eq_sum_iff_of_le fun j _ => hle j).1 hsum j (Finset.mem_range.2 hj)
  cases haccepts : ch.accepts k with
  | true =>
      rw [acceptedCount, filledCount, haccepts, hasRoom_of_accepts haccepts, if_pos rfl]
        at hplanned
      refine ⟨?_, fun hrefused => by rw [haccepts] at hrefused; cases hrefused⟩
      rw [acceptedCount, haccepts, if_pos rfl]
      exact hpointwise _ hplanned
  | false =>
      rw [acceptedCount, filledCount, haccepts, if_neg Bool.false_ne_true] at hplanned
      have hsum_le := Finset.sum_le_sum (s := Finset.range k) fun j _ => hle j
      cases hfilled : ch.hasRoom k with
      | false =>
          rw [hfilled, if_neg Bool.false_ne_true] at hplanned
          refine ⟨?_, fun _ hfilled' => by rw [hfilled] at hfilled'; cases hfilled'⟩
          rw [acceptedCount, haccepts, if_neg Bool.false_ne_true]
          exact hpointwise _ hplanned
      | true =>
          rw [hfilled, if_pos rfl, Finset.sum_range_succ] at hplanned
          refine ⟨?_, fun _ _ => by omega⟩
          rw [acceptedCount, haccepts, if_neg Bool.false_ne_true]
          exact hpointwise _ (by omega)

/-- If nothing is missing from the packets, what is counted has been accepted. -/
theorem Outcome.counted (h : Outcome ch xs k sent ch') (hatt : ch.Attempted xs k)
    (hexact : ch.Exact xs k) : Counted ch xs sent ch' := by
  have hflatten : (bodies ch ch').flatten =
      (unsent xs).take (ch.acceptedCount k * ch.bodyMax) := by
    rw [h.bodies_eq hatt, ← flatten_portions]
    congr 1
    apply map_congr_left
    intro j hj
    rw [packet, payload_of_length _ (hexact.full j (mem_range.1 hj)), unsent_rest]
  have hlen : (bodies ch ch').flatten.length =
      min (ch.acceptedCount k * ch.bodyMax) (left xs) := by
    rw [hflatten, length_take, length_unsent]
  have hfilled : advance (ch.filledCount k * ch.bodyMax) xs =
      advance (ch.acceptedCount k * ch.bodyMax) xs := by
    cases haccepts : ch.accepts k with
    | true =>
        rw [acceptedCount, filledCount, haccepts, hasRoom_of_accepts haccepts]
    | false =>
        cases hroom : ch.hasRoom k with
        | false => rw [acceptedCount, filledCount, haccepts, hroom]
        | true =>
            have hnone := hexact.refused haccepts hroom
            rw [left_rest] at hnone
            rw [acceptedCount, filledCount, haccepts, hroom, if_pos rfl,
              if_neg Bool.false_ne_true, ← advance_min ((k + 1) * ch.bodyMax),
              ← advance_min (k * ch.bodyMax), Nat.succ_mul]
            congr 1
            omega
  refine ⟨?_, ?_, ?_⟩
  · rw [hflatten]
    exact take_prefix _ _
  · rw [hlen, advance_min, ← hfilled]
    exact h.blocks
  · rw [h.current, hlen, advance_min, h.accepted_eq hatt]
    show start (rest ch.bodyMax xs (ch.acceptedCount k)) = _
    cases ch.acceptedCount k with
    | zero => rfl
    | succ i =>
        rw [if_neg (by simp), rest_succ_eq]

end Channel

end Obex
