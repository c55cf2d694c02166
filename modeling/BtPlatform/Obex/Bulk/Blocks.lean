import BtPlatform.Obex.Bulk
import Mathlib.Data.List.TakeWhile

/-!
# The blocks of a bulk transfer as a list

What a packet does to the blocks behind a pointer, in terms of the list of these
blocks. A packet with room for `n` bytes takes the first `n` unsent bytes of the
list. It looks at one block after the other, up to the first one that it cannot
finish.
-/

namespace Obex

open Support Linked List

namespace BulkData

/-- The bytes not sent. -/
def unsent (b : BulkData) : List UInt8 := b.contents.drop b.bytesSent

/-- How many bytes are not sent. -/
def left (b : BulkData) : Nat := b.blockSize - b.bytesSent

/-- Some more bytes are sent. -/
def send (b : BulkData) (n : Nat) : BulkData := { b with bytesSent := b.bytesSent + n }

@[simp] theorem length_unsent (b : BulkData) : b.unsent.length = b.left := length_drop

@[simp] theorem left_send (b : BulkData) (n : Nat) : (b.send n).left = b.left - n :=
  Nat.sub_add_eq _ _ _

@[simp] theorem final_send (b : BulkData) (n : Nat) : (b.send n).final = b.final := rfl

@[simp] theorem unsent_send (b : BulkData) (n : Nat) : (b.send n).unsent = b.unsent.drop n := by
  rw [unsent, unsent, drop_drop]
  rfl

@[simp] theorem send_zero (b : BulkData) : b.send 0 = b := rfl

theorem send_send (b : BulkData) (m n : Nat) : (b.send m).send n = b.send (m + n) := by
  simp only [send, Nat.add_assoc]

end BulkData

/-- The blocks of a transfer, each with its address. -/
abbrev Blocks := List (Ptr × BulkData)

namespace Bulk

/-- No more is sent of a block than there is, and the last block only may be final. -/
def WellFormed : Blocks → Prop
  | [] => True
  | (_, b) :: xs => b.bytesSent ≤ b.blockSize ∧ (b.final → xs = []) ∧ WellFormed xs

/-- The bytes of the list that are not sent. -/
def unsent (xs : Blocks) : List UInt8 := xs.flatMap fun x => x.2.unsent

/-- How many bytes of the list are not sent. -/
def left (xs : Blocks) : Nat := (xs.map fun x => x.2.left).sum

/-- The first `n` unsent bytes are sent. -/
def advance : Nat → Blocks → Blocks
  | _, [] => []
  | n, (p, b) :: xs => (p, b.send (min b.left n)) :: advance (n - b.left) xs

/-- How many blocks a packet with room for `n` bytes looks at. -/
def visited : Nat → Blocks → Nat
  | _, [] => 0
  | n, (_, b) :: xs => if b.left > n then 1 else visited (n - b.left) xs + 1

/-- Whether a packet with room for `n` bytes finishes a final block. -/
def finishes : Nat → Blocks → Bool
  | _, [] => false
  | n, (_, b) :: xs => if b.left > n then false else b.final || finishes (n - b.left) xs

/-- The pieces of a packet with room for `n` bytes, with the buffers they lie in. -/
def pieces : Nat → Blocks → List (List UInt8 × Option BufferId)
  | _, [] => []
  | n, (_, b) :: xs => (b.unsent.take n, b.blockBuffer) :: pieces (n - b.left) xs

/-- The list from the first block on that is not sent completely. -/
def unfinished (xs : Blocks) : Blocks := xs.dropWhile fun x => x.2.left == 0

/-! ## Bytes -/

section Bytes

variable (n : Nat) (xs : Blocks)

@[simp] theorem unsent_cons (p : Ptr) (b : BulkData) :
    unsent ((p, b) :: xs) = b.unsent ++ unsent xs := rfl

@[simp] theorem left_cons (p : Ptr) (b : BulkData) :
    left ((p, b) :: xs) = b.left + left xs := by
  simp [left]

@[simp] theorem length_unsent : (unsent xs).length = left xs := by
  induction xs with
  | nil => rfl
  | cons x xs ih =>
      obtain ⟨p, b⟩ := x
      rw [unsent_cons, left_cons, length_append, ih, BulkData.length_unsent]

@[simp] theorem addresses_advance : addresses (advance n xs) = addresses xs := by
  induction xs generalizing n with
  | nil => rfl
  | cons x xs ih =>
      obtain ⟨p, b⟩ := x
      rw [advance, addresses_cons, addresses_cons, ih]

@[simp] theorem start_advance : start (advance n xs) = start xs := by
  cases xs with
  | nil => rfl
  | cons x xs => rfl

@[simp] theorem advance_zero : advance 0 xs = xs := by
  induction xs with
  | nil => rfl
  | cons x xs ih =>
      obtain ⟨p, b⟩ := x
      rw [advance, Nat.zero_sub, ih, Nat.min_zero, BulkData.send_zero]

theorem advance_advance (m : Nat) : advance m (advance n xs) = advance (n + m) xs := by
  induction xs generalizing n m with
  | nil => rfl
  | cons x xs ih =>
      obtain ⟨p, b⟩ := x
      have hbytes : min b.left n + min (b.left - min b.left n) m = min b.left (n + m) := by omega
      have hrest : n - b.left + (m - (b.left - min b.left n)) = n + m - b.left := by omega
      simp only [advance, BulkData.left_send, BulkData.send_send, ih, hbytes, hrest]

@[simp] theorem unsent_advance : unsent (advance n xs) = (unsent xs).drop n := by
  induction xs generalizing n with
  | nil => simp [advance, unsent]
  | cons x xs ih =>
      obtain ⟨p, b⟩ := x
      rw [advance, unsent_cons, unsent_cons, ih, BulkData.unsent_send, drop_append,
        BulkData.length_unsent]
      congr 1
      rcases Nat.le_total b.left n with hle | hle
      · rw [Nat.min_eq_left hle, drop_of_length_le (by simp), drop_of_length_le]
        simpa using hle
      · rw [Nat.min_eq_right hle]

@[simp] theorem left_advance : left (advance n xs) = left xs - n := by
  rw [← length_unsent, unsent_advance, length_drop, length_unsent]

/-- The pieces of a packet are the next bytes of the list. -/
theorem flatMap_pieces : (pieces n xs).flatMap Prod.fst = (unsent xs).take n := by
  induction xs generalizing n with
  | nil => simp [pieces, unsent]
  | cons x xs ih =>
      obtain ⟨p, b⟩ := x
      rw [pieces, flatMap_cons, ih, unsent_cons, take_append, BulkData.length_unsent]

/-- A packet without room takes nothing. -/
theorem appendAll_pieces_zero (mbuf : Mbuf) : mbuf.appendAll (pieces 0 xs) = mbuf := by
  induction xs generalizing mbuf with
  | nil => rfl
  | cons x xs ih =>
      obtain ⟨p, b⟩ := x
      rw [pieces, take_zero, Mbuf.appendAll_cons, Mbuf.append_empty, Nat.zero_sub, ih]

end Bytes

/-! ## The blocks that are left -/

theorem WellFormed.advance {xs : Blocks} (h : WellFormed xs) (n : Nat) :
    WellFormed (advance n xs) := by
  induction xs generalizing n with
  | nil => trivial
  | cons x xs ih =>
      obtain ⟨p, b⟩ := x
      obtain ⟨hle, hfinal, hrest⟩ := h
      refine ⟨?_, fun hf => ?_, ih hrest _⟩
      · show b.bytesSent + min b.left n ≤ b.blockSize
        have hleft : b.left = b.blockSize - b.bytesSent := rfl
        omega
      · rw [hfinal hf]
        rfl

/-- Nothing is left of a list if nothing is left of any of its blocks. -/
theorem left_eq_zero_iff {xs : Blocks} : left xs = 0 ↔ ∀ x ∈ xs, x.2.left = 0 := by
  induction xs with
  | nil => simp [left]
  | cons x xs ih =>
      obtain ⟨p, b⟩ := x
      rw [left_cons, Nat.add_eq_zero_iff, ih, forall_mem_cons]

theorem unfinished_of_pos {p : Ptr} {b : BulkData} (xs : Blocks) (h : b.left ≠ 0) :
    unfinished ((p, b) :: xs) = (p, b) :: xs :=
  dropWhile_cons_of_neg (by simpa using h)

theorem unfinished_of_zero {p : Ptr} {b : BulkData} (xs : Blocks) (h : b.left = 0) :
    unfinished ((p, b) :: xs) = unfinished xs :=
  dropWhile_cons_of_pos (by simpa using h)

/-- The list splits into the blocks that are done and those that are not. -/
theorem exists_done (xs : Blocks) :
    ∃ done : Blocks, xs = done ++ unfinished xs ∧ left done = 0 := by
  refine ⟨xs.takeWhile fun x => x.2.left == 0, takeWhile_append_dropWhile.symm, ?_⟩
  refine left_eq_zero_iff.2 fun x hx => ?_
  have hdone := mem_takeWhile_imp hx
  simpa using hdone

theorem advance_append {done : Blocks} (hdone : left done = 0) (n : Nat) (xs : Blocks) :
    advance n (done ++ xs) = done ++ advance n xs := by
  induction done generalizing n with
  | nil => rfl
  | cons x done ih =>
      obtain ⟨p, b⟩ := x
      rw [left_cons] at hdone
      have hb : b.left = 0 := by omega
      have hrest : left done = 0 := by omega
      rw [cons_append, advance, ih hrest, hb, Nat.zero_min, BulkData.send_zero, Nat.sub_zero,
        cons_append]

theorem WellFormed.suffix {xs ys : Blocks} (h : WellFormed (xs ++ ys)) : WellFormed ys := by
  induction xs with
  | nil => exact h
  | cons x xs ih => exact ih h.2.2

theorem WellFormed.unfinished {xs : Blocks} (h : WellFormed xs) : WellFormed (unfinished xs) := by
  obtain ⟨done, hsplit, -⟩ := exists_done xs
  rw [hsplit] at h
  exact h.suffix

theorem unsent_append (xs ys : Blocks) : unsent (xs ++ ys) = unsent xs ++ unsent ys :=
  flatMap_append

@[simp] theorem unsent_unfinished (xs : Blocks) : unsent (unfinished xs) = unsent xs := by
  obtain ⟨done, hsplit, hdone⟩ := exists_done xs
  have hnone : unsent done = [] := length_eq_zero_iff.1 (by rw [length_unsent, hdone])
  rw [show unsent xs = unsent (done ++ unfinished xs) by rw [← hsplit], unsent_append, hnone,
    nil_append]

@[simp] theorem left_unfinished (xs : Blocks) : left (unfinished xs) = left xs := by
  rw [← length_unsent, unsent_unfinished, length_unsent]

/-- Nothing is left of the list exactly if all of it is sent. -/
theorem unfinished_eq_nil_iff (xs : Blocks) : unfinished xs = [] ↔ left xs = 0 := by
  constructor
  · intro hnil
    rw [← left_unfinished, hnil]
    rfl
  · intro hzero
    rw [unfinished, dropWhile_eq_nil_iff]
    exact fun x hx => by simpa using left_eq_zero_iff.1 hzero x hx

/-! ## The final block -/

/-- Whether the list has a final block. -/
def hasFinal (xs : Blocks) : Bool := xs.any fun x => x.2.final

@[simp] theorem hasFinal_advance (n : Nat) (xs : Blocks) :
    hasFinal (advance n xs) = hasFinal xs := by
  induction xs generalizing n with
  | nil => rfl
  | cons x xs ih =>
      obtain ⟨p, b⟩ := x
      simp only [hasFinal, advance, any_cons, BulkData.final_send] at ih ⊢
      rw [ih]

/-- A packet finishes the final block if it takes all that is left. -/
theorem finishes_eq {xs : Blocks} (h : WellFormed xs) (n : Nat) :
    finishes n xs = (hasFinal xs && decide (left xs ≤ n)) := by
  induction xs generalizing n with
  | nil => rfl
  | cons x xs ih =>
      obtain ⟨p, b⟩ := x
      obtain ⟨-, hfinal, hrest⟩ := h
      rw [finishes, left_cons]
      split
      · next hgt =>
          rw [decide_eq_false (by omega), Bool.and_false]
      · next hle =>
          rw [ih hrest]
          have hiff : left xs ≤ n - b.left ↔ b.left + left xs ≤ n := by omega
          rw [hasFinal, hasFinal, any_cons]
          cases hb : b.final with
          | false => simp [hiff]
          | true =>
              rw [hfinal hb]
              simpa [left] using hle

end Bulk

end Obex
