import Mathlib.Data.List.Nodup
import Mathlib.Data.Fintype.Card
import Mathlib.Data.Fintype.EquivFin
import Mathlib.Algebra.GroupWithZero.Nat

/-!
# Singly linked lists in a heap

A heap holds nodes that carry a value and the address of the next node. Addresses
are handed out in order and never used twice, so a stale address stays
recognisable after its node has been freed. `Segment h p xs q` says that following
`p` leads through the nodes `xs` to `q`; a chain is a segment that ends nowhere. A
chain is finite and visits no node twice.
-/

namespace Linked

open List

/-- The address of a node. -/
abbrev Ptr := Nat

/-- A value with the link to the next node. -/
structure Node (α : Type) where
  val : α
  next : Option Ptr
  deriving DecidableEq, Repr

/-- All nodes allocated so far; a freed one is `none`. -/
structure Heap (α : Type) where
  cells : List (Option (Node α))
  deriving DecidableEq, Repr

variable {α : Type}

namespace Heap

/-- Nothing has been allocated. -/
def empty : Heap α := ⟨[]⟩

/-- The node at an address, if it is allocated. -/
def read (h : Heap α) (p : Ptr) : Option (Node α) := h.cells[p]?.join

/-- The address of the next node to be allocated. -/
def fresh (h : Heap α) : Ptr := h.cells.length

/-- Allocate a node at the fresh address. -/
def alloc (h : Heap α) (a : α) : Heap α := ⟨h.cells ++ [some ⟨a, none⟩]⟩

/-- Overwrite a node. -/
def write (h : Heap α) (p : Ptr) (node : Node α) : Heap α := ⟨h.cells.set p (some node)⟩

/-- Free a node. -/
def free (h : Heap α) (p : Ptr) : Heap α := ⟨h.cells.set p none⟩

variable {h : Heap α} {p q : Ptr} {node node' : Node α}

theorem lt_fresh_of_read (hp : h.read p = some node) : p < h.fresh := by
  by_contra hlt
  have hnone : h.cells[p]? = none := getElem?_eq_none (Nat.le_of_not_lt hlt)
  rw [read, hnone] at hp
  cases hp

@[simp] theorem fresh_alloc (a : α) : (h.alloc a).fresh = h.fresh + 1 := by
  simp [fresh, alloc]

@[simp] theorem fresh_write : (h.write p node).fresh = h.fresh := by
  simp [fresh, write]

@[simp] theorem fresh_free : (h.free p).fresh = h.fresh := by
  simp [fresh, free]

theorem read_write_self (hp : h.read p = some node) : (h.write p node').read p = some node' := by
  have hlt := lt_fresh_of_read hp
  rw [fresh] at hlt
  simp [read, write, hlt]

theorem read_write_of_ne (hne : p ≠ q) : (h.write p node).read q = h.read q := by
  simp [read, write, getElem?_set_ne hne]

/-- What is counted in all nodes. -/
def sum (h : Heap α) (count : α → Nat) : Nat :=
  (h.cells.map fun cell => (cell.map fun node => count node.val).getD 0).sum

theorem sum_free (hp : h.read p = some node) (count : α → Nat) :
    h.sum count = count node.val + (h.free p).sum count := by
  have hcell : h.cells[p]? = some (some node) := Option.join_eq_some_iff.1 hp
  obtain ⟨hlt, hget⟩ := List.getElem?_eq_some_iff.1 hcell
  have hset : h.cells.set p none = h.cells.take p ++ none :: h.cells.drop (p + 1) := by
    rw [set_eq_take_append_cons_drop, if_pos hlt]
  have hsplit : h.cells = h.cells.take p ++ some node :: h.cells.drop (p + 1) := by
    rw [← hget, getElem_cons_drop, take_append_drop]
  have hsum : h.sum count = (Heap.mk (h.cells.take p ++ some node :: h.cells.drop (p + 1))).sum
      count := by rw [← hsplit]
  rw [hsum, free, hset]
  simp only [sum, map_append, map_cons, sum_append, sum_cons, Option.map_some,
    Option.map_none, Option.getD_some, Option.getD_none]
  omega

theorem read_free_of_ne (hne : p ≠ q) : (h.free p).read q = h.read q := by
  simp [read, free, getElem?_set_ne hne]

end Heap

/-- Following `p` leads through the nodes of the list to `q`. -/
def Segment (h : Heap α) (p : Option Ptr) : List (Ptr × α) → Option Ptr → Prop
  | [], q => p = q
  | (r, a) :: xs, q => p = some r ∧ ∃ next, h.read r = some ⟨a, next⟩ ∧ Segment h next xs q

/-- A list that ends. -/
abbrev Chain (h : Heap α) (p : Option Ptr) (xs : List (Ptr × α)) : Prop := Segment h p xs none

/-- The addresses of a list of nodes. -/
def addresses (xs : List (Ptr × α)) : List Ptr := xs.map Prod.fst

@[simp] theorem addresses_nil : addresses ([] : List (Ptr × α)) = [] := rfl

@[simp] theorem addresses_cons (p : Ptr) (a : α) (xs : List (Ptr × α)) :
    addresses ((p, a) :: xs) = p :: addresses xs := rfl

@[simp] theorem addresses_append (xs ys : List (Ptr × α)) :
    addresses (xs ++ ys) = addresses xs ++ addresses ys := map_append

section Segment

variable {h h' : Heap α} {p q r : Option Ptr} {xs ys : List (Ptr × α)} {a b : α} {c : Ptr}

theorem segment_append :
    Segment h p (xs ++ ys) r ↔ ∃ q, Segment h p xs q ∧ Segment h q ys r := by
  induction xs generalizing p with
  | nil =>
      constructor
      · intro hs
        exact ⟨p, rfl, hs⟩
      · rintro ⟨q, rfl, hs⟩
        exact hs
  | cons x xs ih =>
      obtain ⟨c, a⟩ := x
      constructor
      · rintro ⟨hp, next, hread, hs⟩
        obtain ⟨q, h₁, h₂⟩ := ih.1 hs
        exact ⟨q, ⟨hp, next, hread, h₁⟩, h₂⟩
      · rintro ⟨q, ⟨hp, next, hread, h₁⟩, h₂⟩
        exact ⟨hp, next, hread, ih.2 ⟨q, h₁, h₂⟩⟩

theorem Segment.read (hs : Segment h p xs q) (hc : (c, a) ∈ xs) :
    ∃ next, h.read c = some ⟨a, next⟩ := by
  induction xs generalizing p with
  | nil => cases hc
  | cons x xs ih =>
      obtain ⟨-, next, hread, hs⟩ := hs
      rcases mem_cons.1 hc with rfl | hc
      · exact ⟨next, hread⟩
      · exact ih hs hc

theorem Segment.allocated (hs : Segment h p xs q) (hc : c ∈ addresses xs) :
    ∃ node, h.read c = some node := by
  obtain ⟨⟨c', a⟩, hmem, rfl⟩ := mem_map.1 hc
  obtain ⟨next, hread⟩ := hs.read hmem
  exact ⟨_, hread⟩

theorem Segment.lt_fresh (hs : Segment h p xs q) (hc : c ∈ addresses xs) : c < h.fresh := by
  obtain ⟨node, hread⟩ := hs.allocated hc
  exact Heap.lt_fresh_of_read hread

/-- A segment depends on its own nodes only. -/
theorem Segment.congr (hs : Segment h p xs q)
    (hsame : ∀ c ∈ addresses xs, h'.read c = h.read c) : Segment h' p xs q := by
  induction xs generalizing p with
  | nil => exact hs
  | cons x xs ih =>
      obtain ⟨c, a⟩ := x
      obtain ⟨hp, next, hread, hs⟩ := hs
      refine ⟨hp, next, ?_, ih hs fun d hd => hsame d (mem_cons_of_mem _ hd)⟩
      rw [hsame c mem_cons_self, hread]

/-- Only one chain starts at an address. -/
theorem Chain.unique (h₁ : Chain h p xs) (h₂ : Chain h p ys) : xs = ys := by
  induction xs generalizing p ys with
  | nil =>
      cases ys with
      | nil => rfl
      | cons y ys =>
          obtain rfl : p = none := h₁
          cases h₂.1
  | cons x xs ih =>
      obtain ⟨hp, next, hread, h₁⟩ := h₁
      cases ys with
      | nil =>
          obtain rfl : p = none := h₂
          cases hp
      | cons y ys =>
          obtain ⟨hq, next', hread', h₂⟩ := h₂
          obtain ⟨c, a⟩ := x
          obtain ⟨d, b⟩ := y
          obtain rfl : c = d := Option.some.inj (hp.symm.trans hq)
          obtain ⟨rfl, rfl⟩ := Node.mk.inj (Option.some.inj (hread.symm.trans hread'))
          rw [ih h₁ h₂]

/-- A chain is acyclic. -/
theorem Chain.nodup (hc : Chain h p xs) : (addresses xs).Nodup := by
  induction xs generalizing p with
  | nil => exact nodup_nil
  | cons x xs ih =>
      obtain ⟨c, a⟩ := x
      have hwhole := hc
      obtain ⟨rfl, next, hread, hc⟩ := hc
      refine nodup_cons.2 ⟨?_, ih hc⟩
      intro hmem
      -- the node would start a chain and also a proper suffix of that chain
      obtain ⟨⟨d, b⟩, hnode, rfl⟩ := mem_map.1 hmem
      obtain ⟨us, vs, hsplit⟩ := append_of_mem hnode
      rw [hsplit] at hc
      obtain ⟨q, -, hsuffix⟩ := segment_append.1 hc
      obtain rfl : q = some d := hsuffix.1
      rw [hsplit] at hwhole
      have hlen := congrArg length (Chain.unique hwhole hsuffix)
      simp only [length_cons, length_append] at hlen
      omega

/-- A chain is no longer than the heap. -/
theorem Chain.length_le (hc : Chain h p xs) : xs.length ≤ h.fresh := by
  have hnodup := Chain.nodup hc
  have hsub : addresses xs ⊆ range h.fresh := by
    intro c hmem
    exact mem_range.2 (hc.lt_fresh hmem)
  have hle := (subperm_of_subset hnodup hsub).length_le
  simpa [addresses] using hle

/-- The address of the first node. -/
def start (xs : List (Ptr × α)) : Option Ptr := xs.head?.map Prod.fst

@[simp] theorem start_nil : start ([] : List (Ptr × α)) = none := rfl

@[simp] theorem start_cons (x : Ptr × α) : start (x :: xs) = some x.1 := rfl

theorem Chain.start_eq (hc : Chain h p xs) : p = start xs := by
  cases xs with
  | nil => exact hc
  | cons x xs => exact hc.1

/-- The end of a chain is a chain. -/
theorem Chain.suffix (hc : Chain h p (xs ++ ys)) : Chain h (start ys) ys := by
  obtain ⟨q, -, hsuffix⟩ := segment_append.1 hc
  exact Chain.start_eq hsuffix ▸ hsuffix

/-- What is counted in the nodes of a chain is no more than what is counted in the heap. -/
theorem Chain.sum_le (hc : Chain h p xs) (count : α → Nat) :
    (xs.map fun x => count x.2).sum ≤
      h.sum count := by
  induction xs generalizing h p with
  | nil => exact Nat.zero_le _
  | cons x xs ih =>
      obtain ⟨c, a⟩ := x
      have hnodup := Chain.nodup hc
      obtain ⟨-, next, hread, hrest⟩ := hc
      -- without its first node the heap still holds the rest of the chain
      have hrest' : Chain (h.free c) next xs := by
        refine hrest.congr fun d hd => ?_
        exact Heap.read_free_of_ne fun heq => (nodup_cons.1 hnodup).1 (heq ▸ hd)
      have hle := ih hrest'
      have hfreed := Heap.sum_free hread count
      simp only [map_cons, sum_cons] at hfreed ⊢
      omega

/-! ## Changing a list -/

/-- A write elsewhere leaves a list alone. -/
theorem Segment.write_of_notMem {node : Node α} (hs : Segment h p xs q) (hc : c ∉ addresses xs) :
    Segment (h.write c node) p xs q := by
  refine hs.congr fun d hd => ?_
  exact Heap.read_write_of_ne fun heq => hc (heq ▸ hd)

end Segment

end Linked
