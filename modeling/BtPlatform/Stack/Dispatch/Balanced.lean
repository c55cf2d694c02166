import BtPlatform.Stack.Dispatch.Books
import BtPlatform.Program.Deferred
import Mathlib.Order.Bounds.Basic

/-!
# The accounts of the dispatcher

The count of active entries, the mark and the blocks agree with the table in every state that is
reached: every change keeps the accounts. `OI_Dispatch_Terminate` frees the entries below the
mark, but the entry at the mark goes with the table, and its block stays.
-/

namespace Stack.Dispatch

open Support Program Program.Prog List

/-! ## Counting in a table -/

/-- To replace an element is to take one away from a count and to add one. -/
theorem countP_set_eq {α : Type} {p : α → Bool} {l : List α} {i : Nat} {a a' : α}
    (h : l[i]? = some a) :
    ((l.set i a').countP p : Int) = l.countP p + one (p a') - one (p a) := by
  obtain ⟨hi, rfl⟩ := List.getElem?_eq_some_iff.1 h
  have hone (c : Bool) : ((if c = true then 1 else 0 : Nat) : Int) = one c := by
    cases c with
    | false => rfl
    | true => rfl
  have hle : (if p l[i] = true then 1 else 0) ≤ l.countP p := by
    split
    · next hp => exact countP_pos_iff.2 ⟨l[i], getElem_mem hi, hp⟩
    · exact Nat.zero_le _
  rw [countP_set hi, Int.natCast_add, Int.natCast_sub hle, hone, hone]
  omega

/-! ## The heap -/

namespace Heap

variable {heap : Heap} {block : Nat}

/-- How often a block is allocated. -/
def live (heap : Heap) (block : Nat) : Nat := heap.blocks.countP fun b => b.1 = block

theorem live_malloc {bytes : List UInt8} (k : Nat) :
    ((heap.malloc bytes).live k : Int) = heap.live k + one (heap.next = k) := by
  unfold live malloc one
  rw [countP_cons]
  split <;> rfl

theorem live_free (h : 0 < heap.live block) (k : Nat) :
    ((heap.free block).live k : Int) = heap.live k - one (block = k) := by
  obtain ⟨b, hmem, hb⟩ := countP_pos_iff.1 h
  obtain ⟨c, before, after, -, hc, hblocks, herase⟩ :=
    exists_of_eraseP (p := fun c => decide (c.1 = block)) hmem hb
  have hcount : one (block = k) = ((if decide (c.1 = k) = true then 1 else 0 : Nat) : Int) := by
    rw [← of_decide_eq_true hc]
    unfold one
    split <;> rfl
  have herased : (heap.free block).live k = (before ++ after).countP fun b => b.1 = k :=
    congrArg (countP fun b : Nat × List UInt8 => b.1 = k) herase
  rw [herased, hcount, live, hblocks, countP_append, countP_append, countP_cons]
  omega

/-- A block that has been allocated is still there or has been freed, once. -/
def Once (heap : Heap) : Prop :=
  ∀ block, heap.live block + heap.freed.count block = if block < heap.next then 1 else 0

theorem Once.malloc {bytes : List UInt8} (h : heap.Once) : (heap.malloc bytes).Once := by
  intro k
  have hk := h k
  have hlive : ((heap.malloc bytes).live k : Int) = heap.live k + one (heap.next = k) :=
    live_malloc k
  unfold one at hlive
  change _ + heap.freed.count k = if k < heap.next + 1 then 1 else 0
  by_cases hnext : heap.next = k
  · rw [decide_eq_true hnext, if_pos rfl] at hlive
    rw [if_neg (by omega)] at hk
    rw [if_pos (by omega)]
    omega
  · rw [decide_eq_false hnext, if_neg nofun] at hlive
    by_cases hlt : k < heap.next
    · rw [if_pos hlt] at hk
      rw [if_pos (by omega)]
      omega
    · rw [if_neg hlt] at hk
      rw [if_neg (by omega)]
      omega

theorem Once.free (h : heap.Once) (hlive : 0 < heap.live block) : (heap.free block).Once := by
  intro k
  have hk := h k
  have hfree := live_free hlive k
  have hfreed : ((heap.free block).freed.count k : Int) = heap.freed.count k + one (block = k) := by
    change ((block :: heap.freed).count k : Int) = _
    rw [count_cons]
    unfold one
    split <;> simp_all
  change _ = if k < heap.next then 1 else 0
  omega

theorem blocks_eq_nil_iff : heap.blocks = [] ↔ ∀ block, heap.live block = 0 := by
  constructor
  · intro h block
    rw [live, h]
    rfl
  · intro h
    refine eq_nil_iff_forall_not_mem.2 fun b hmem => ?_
    exact countP_eq_zero.1 (h b.1) b hmem (decide_eq_true rfl)

end Heap

/-! ## The mark -/

/-- The mark is at the last entry that is in use. -/
def Marked (table : List DispatchEntry) (mark : Int) : Prop :=
  (∀ (i : Nat) entry, table[i]? = some entry → entry.inUse = true → (i : Int) ≤ mark) ∧
    (mark = -1 ∨ ∃ (i : Nat) (entry : DispatchEntry),
      mark = i ∧ table[i]? = some entry ∧ entry.inUse = true)

namespace Marked

variable {table : List DispatchEntry} {mark : Int} {i : Nat} {entry entry' : DispatchEntry}

/-- The loop that lowers the mark stops at the last entry in use. -/
theorem of_highWater {n : Nat}
    (h : ∀ (i : Nat) entry, table[i]? = some entry → entry.inUse = true → i < n) :
    Marked table (highWater table n) := by
  induction n with
  | zero =>
      refine ⟨fun i entry hget hinUse => ?_, .inl rfl⟩
      exact absurd (h i entry hget hinUse) (Nat.not_lt_zero i)
  | succ n ih =>
      unfold highWater
      split
      · next hany =>
          obtain ⟨entry, hget, hinUse⟩ := (Option.any_eq_true _ _).1 hany
          refine ⟨fun i entry hget hinUse => ?_, .inr ⟨n, entry, rfl, hget, hinUse⟩⟩
          have := h i entry hget hinUse
          omega
      · next hany =>
          apply ih
          intro i entry hget hinUse
          have hne : i ≠ n := by
            rintro rfl
            exact hany ((Option.any_eq_true _ _).2 ⟨entry, hget, hinUse⟩)
          have := h i entry hget hinUse
          omega

/-- An entry of a table in which one entry has been replaced. -/
theorem get_set {j : Nat} {e : DispatchEntry} (h : (table.set i entry')[j]? = some e) :
    (j = i ∧ e = entry') ∨ (j ≠ i ∧ table[j]? = some e) := by
  by_cases hij : i = j
  · subst hij
    obtain ⟨hi, -⟩ := List.getElem?_eq_some_iff.1 h
    rw [length_set] at hi
    rw [getElem?_set_self hi] at h
    exact .inl ⟨rfl, (Option.some.inj h).symm⟩
  · rw [getElem?_set_ne hij] at h
    exact .inr ⟨fun hji => hij hji.symm, h⟩

/-- An entry that stays in use, or not in use, has no effect on the mark. -/
theorem set_same (h : Marked table mark) (hget : table[i]? = some entry)
    (hsame : entry'.inUse = entry.inUse) : Marked (table.set i entry') mark := by
  obtain ⟨hi, -⟩ := List.getElem?_eq_some_iff.1 hget
  refine ⟨fun j e hj hinUse => ?_, ?_⟩
  · obtain ⟨rfl, rfl⟩ | ⟨-, hj⟩ := get_set hj
    · exact h.1 j entry hget (hsame.symm.trans hinUse)
    · exact h.1 j e hj hinUse
  · obtain hnone | ⟨j, e, hmark, hj, hinUse⟩ := h.2
    · exact .inl hnone
    · by_cases hij : i = j
      · subst hij
        obtain rfl := Option.some.inj (hget.symm.trans hj)
        exact .inr ⟨i, entry', hmark, getElem?_set_self hi, hsame.trans hinUse⟩
      · exact .inr ⟨j, e, hmark, (getElem?_set_ne hij).trans hj, hinUse⟩

/-- The mark is raised to an entry that comes into use. -/
theorem set_taken (h : Marked table mark) (hget : table[i]? = some entry)
    (hinUse : entry'.inUse = true) :
    Marked (table.set i entry') (if mark < i then i else mark) := by
  obtain ⟨hi, -⟩ := List.getElem?_eq_some_iff.1 hget
  have hself : (table.set i entry')[i]? = some entry' := getElem?_set_self hi
  refine ⟨fun j e hj hused => ?_, ?_⟩
  · obtain ⟨rfl, -⟩ | ⟨-, hj⟩ := get_set hj
    · split <;> omega
    · have := h.1 j e hj hused
      split <;> omega
  · split
    · exact .inr ⟨i, entry', rfl, hself, hinUse⟩
    · next hlt =>
        obtain hnone | ⟨j, e, hmark, hj, hused⟩ := h.2
        · omega
        · by_cases hij : i = j
          · subst hij
            exact .inr ⟨i, entry', hmark, hself, hinUse⟩
          · exact .inr ⟨j, e, hmark, (getElem?_set_ne hij).trans hj, hused⟩

/-- The mark is lowered if its entry goes out of use. -/
theorem set_released (h : Marked table mark) (hreleased : entry'.inUse = false) :
    Marked (table.set i entry')
      (if i = mark then highWater (table.set i entry') (mark + 1).toNat else mark) := by
  have hbelow (j : Nat) (e : DispatchEntry) (hj : (table.set i entry')[j]? = some e)
      (hused : e.inUse = true) : (j : Int) ≤ mark := by
    obtain ⟨-, rfl⟩ | ⟨-, hj⟩ := get_set hj
    · rw [hreleased] at hused
      cases hused
    · exact h.1 j e hj hused
  split
  · apply of_highWater
    intro j e hj hused
    have := hbelow j e hj hused
    omega
  · next hne =>
      refine ⟨hbelow, ?_⟩
      obtain hnone | ⟨j, e, hmark, hj, hused⟩ := h.2
      · exact .inl hnone
      · have hij : i ≠ j := by
          rintro rfl
          exact hne hmark.symm
        exact .inr ⟨j, e, hmark, (getElem?_set_ne hij).trans hj, hused⟩

end Marked

/-! ## The accounts -/

/-- The entry has its arguments in a certain block. -/
def DispatchEntry.owns (entry : DispatchEntry) (block : Nat) : Bool := entry.block = some block

theorem DispatchEntry.block_of_unused {entry : DispatchEntry} (h : entry.inUse = false) :
    entry.block = none := by
  refine if_neg fun hc => ?_
  rw [h] at hc
  cases hc.1

theorem DispatchEntry.one_owns {entry : DispatchEntry} {block : Option Nat}
    (h : entry.block = block) (k : Nat) :
    one (entry.owns k) = block.elim 0 fun block => one (block = k) := by
  unfold owns
  rw [h]
  cases block with
  | none => rfl
  | some block => exact congrArg one (decide_eq_decide.2 Option.some_inj)

/-- The table agrees with the other books. -/
structure Kept (b : Books) (table : List DispatchEntry) : Prop where
  sound : ∀ entry ∈ table, (entry.inUse = true ↔ entry.state ≠ .freeSlot)
  active : b.active = table.countP DispatchEntry.active
  mark : Marked table b.mark
  owned : ∀ block, table.countP (fun entry => entry.owns block) = b.heap.live block

/-- The accounts are in order. -/
structure Accounted (b : Books) : Prop where
  kept : ∀ table, b.table = some table → Kept b table
  once : b.heap.Once

theorem Kept.set {b b' : Books} {table : List DispatchEntry} {i : Nat}
    {entry entry' : DispatchEntry} (h : Kept b table) (hget : table[i]? = some entry)
    (hsound : entry'.inUse = true ↔ entry'.state ≠ .freeSlot)
    (hactive : b'.active = b.active + one entry'.active - one entry.active)
    (hmark : Marked (table.set i entry') b'.mark)
    (hheap : ∀ block, (b'.heap.live block : Int) =
      b.heap.live block + one (entry'.owns block) - one (entry.owns block)) :
    Kept b' (table.set i entry') := by
  refine ⟨fun e he => ?_, ?_, hmark, fun block => ?_⟩
  · obtain he | rfl := mem_or_eq_of_mem_set he
    · exact h.sound e he
    · exact hsound
  · rw [hactive, h.active, countP_set_eq hget]
  · have hset : ((table.set i entry').countP fun e => e.owns block : Int) =
        (table.countP fun e => e.owns block) + one (entry'.owns block) - one (entry.owns block) :=
      countP_set_eq hget
    have howned := h.owned block
    have := hheap block
    omega

namespace Accounted

variable {b b' : Books} {i : Nat} {entry entry' : DispatchEntry} {state : EntryState}

theorem sound (h : Accounted b) (hentry : b.slot? i = some entry) :
    entry.inUse = true ↔ entry.state ≠ .freeSlot := by
  obtain ⟨table, htable, hget⟩ := Books.slot?_eq_some.1 hentry
  exact (h.kept table htable).sound entry (mem_of_getElem? hget)

/-- The history and the clock are not accounted for. -/
theorem of_same (h : Accounted b) (htable : b'.table = b.table) (hmark : b'.mark = b.mark)
    (hactive : b'.active = b.active) (hheap : b'.heap = b.heap) : Accounted b' := by
  refine ⟨fun table hb' => ?_, hheap ▸ h.once⟩
  have hkept := h.kept table (htable.symm.trans hb')
  exact ⟨hkept.sound, hactive.trans hkept.active, hmark ▸ hkept.mark, hheap ▸ hkept.owned⟩

theorem record {event : Event} (h : Accounted b) : Accounted (b.record event) :=
  h.of_same rfl rfl rfl rfl

/-- What is to be shown where an entry is replaced. -/
theorem of_set (hentry : b.slot? i = some entry)
    (htable : b'.table = (b.put i entry').table) (honce : b'.heap.Once)
    (hkept : ∀ table, b.table = some table → table[i]? = some entry →
      Kept b' (table.set i entry')) :
    Accounted b' := by
  refine ⟨fun table' hb' => ?_, honce⟩
  obtain ⟨table, htable', hget⟩ := Books.slot?_eq_some.1 hentry
  rw [htable, Books.put, htable'] at hb'
  obtain rfl := Option.some.inj hb'
  exact hkept table htable' hget

/-- An entry goes from one state into another one and stays in use, or not in use. -/
theorem enter (h : Accounted b) (hentry : b.slot? i = some entry)
    (hinUse : entry'.inUse = entry.inUse) (hblock : entry'.block = entry.block)
    (hactive : entry'.active = entry.active) (hstate : entry.inUse = true ↔ state ≠ .freeSlot) :
    Accounted (b.enter i entry' state) := by
  refine of_set hentry rfl h.once fun table htable hget => ?_
  have hkept := h.kept table htable
  refine hkept.set hget ?_ ?_ (hkept.mark.set_same hget hinUse) fun block => ?_
  · rw [← hstate, ← hinUse]
    rfl
  · rw [← hactive]
    exact (Int.add_sub_assoc _ _ _).symm
  · have howns : ({ entry' with state := state } : DispatchEntry).owns block = entry.owns block :=
      congrArg (fun o => decide (o = some block)) hblock
    rw [howns]
    exact (Int.add_sub_cancel _ _).symm

/-- To start the timeout of an entry anew is a change of its state at most. -/
theorem setTimeout {timeout : OIInterval} (h : Accounted b) (hentry : b.slot? i = some entry) :
    Accounted (b.setTimeout i entry timeout) := by
  refine h.enter hentry rfl rfl rfl ((h.sound hentry).trans ?_)
  split
  · next hstate => exact iff_of_true (by rw [hstate]; decide) (by decide)
  · exact Iff.rfl

/-- A function that is gone takes its block with it. -/
theorem free (h : Accounted b) (hentry : b.slot? i = some entry) :
    Accounted (b.free i entry) := by
  have hreleased : entry.released.block = none := DispatchEntry.block_of_unused rfl
  have hlive (block : Nat) (hblock : entry.block = some block) : 0 < b.heap.live block := by
    obtain ⟨table, htable, hget⟩ := Books.slot?_eq_some.1 hentry
    rw [← (h.kept table htable).owned block]
    exact countP_pos_iff.2 ⟨entry, mem_of_getElem? hget, decide_eq_true hblock⟩
  refine of_set hentry rfl ?_ fun table htable hget => ?_
  · change Heap.Once (entry.block.elim b.heap b.heap.free)
    cases hblock : entry.block with
    | none => exact h.once
    | some block => exact h.once.free (hlive block hblock)
  · have hkept := h.kept table htable
    refine hkept.set hget ⟨nofun, fun hne => absurd rfl hne⟩ ?_ ?_ fun k => ?_
    · change b.active - one entry.active = b.active + 0 - one entry.active
      rw [Int.add_zero]
    · have htable' : (b.put i entry.released).table.getD [] = table.set i entry.released := by
        rw [Books.put, htable]
        rfl
      rw [Books.free, htable']
      exact hkept.mark.set_released rfl
    · rw [DispatchEntry.one_owns hreleased, DispatchEntry.one_owns rfl]
      change ((entry.block.elim b.heap b.heap.free).live k : Int) = _
      cases hblock : entry.block with
      | none => rfl
      | some block =>
          have hfree := Heap.live_free (hlive block hblock) k
          rw [Option.elim_some, Option.elim_some]
          change _ = (b.heap.live k : Int) + 0 - one (block = k)
          omega

/-- A function comes with its block. -/
theorem take {heap : Heap} (h : Accounted b) (hentry : b.slot? i = some entry)
    (hfree : entry.inUse = false) (hfresh : Fresh b entry' heap) :
    Accounted (b.take i entry' heap) := by
  have hunused : entry.block = none := DispatchEntry.block_of_unused hfree
  have hactive : entry'.active = true := decide_eq_true hfresh.state
  refine of_set hentry rfl ?_ fun table htable hget => ?_
  · change heap.Once
    obtain ⟨-, rfl⟩ | ⟨-, bytes, rfl⟩ := hfresh.stored
    · exact h.once
    · exact h.once.malloc
  · have hkept := h.kept table htable
    have hinactive : entry.active = false := by
      refine decide_eq_false fun hstate => ?_
      have hused := (h.sound hentry).2 (by rw [hstate]; decide)
      rw [hfree] at hused
      cases hused
    refine hkept.set hget (iff_of_true hfresh.inUse ?_) ?_ ?_ fun k => ?_
    · rw [hfresh.state]
      decide
    · rw [hactive, hinactive]
      exact (Int.sub_zero _).symm
    · exact hkept.mark.set_taken hget hfresh.inUse
    · rw [DispatchEntry.one_owns hunused]
      change (heap.live k : Int) = b.heap.live k + one (entry'.owns k) - 0
      obtain ⟨hblock, rfl⟩ | ⟨hblock, bytes, rfl⟩ := hfresh.stored
      · rw [DispatchEntry.one_owns hblock]
        exact (Int.add_zero _).symm
      · rw [DispatchEntry.one_owns hblock, Heap.live_malloc]
        exact (Int.sub_zero _).symm

/-- Every change keeps the accounts. -/
theorem change (hchange : Change b b') (h : Accounted b) : Accounted b' := by
  cases hchange with
  | wait delay => exact h.of_same rfl rfl rfl rfl
  | prepare timeout hentry hfree => exact h.setTimeout hentry
  | take hentry hfree hfresh => exact h.take hentry hfree hfresh
  | announce handle hentry hstate htimeout hmax => exact h.record
  | free hentry => exact h.free hentry
  | cancel hentry hvalid => exact (h.free hentry).record
  | suspend hentry hstate =>
      refine (h.enter hentry rfl rfl rfl (iff_of_true ?_ (by decide))).record
      exact (h.sound hentry).2 (by rw [hstate]; decide)
  | suspendAgain hentry hvalid hstate => exact h.record
  | setTimeout hentry hvalid hmax => exact (h.setTimeout hentry).record
  | begin => exact h.record
  | mark hlog hrunning hentry hinUse hstate hdue =>
      exact h.enter hentry rfl rfl rfl (iff_of_true hinUse (by decide))
  | run hentry hstate =>
      refine (h.enter hentry rfl rfl rfl (iff_of_true ?_ (by decide))).record
      exact (h.sound hentry).2 (by rw [hstate]; decide)
  | call hentry hvalid =>
      refine (h.enter hentry rfl rfl rfl (iff_of_true ?_ (by decide))).record
      exact (h.sound hentry).2 hvalid.1

theorem drop (h : Accounted b) : Accounted b.drop := ⟨nofun, h.once⟩

/-- Without a block that is owned there is no block. -/
theorem blocks_eq_nil_iff {table : List DispatchEntry} (h : Accounted b)
    (htable : b.table = some table) :
    b.heap.blocks = [] ↔ ∀ entry ∈ table, entry.block = none := by
  rw [Heap.blocks_eq_nil_iff]
  have howned := (h.kept table htable).owned
  constructor
  · intro hnone entry hmem
    refine Option.eq_none_iff_forall_ne_some.2 fun block hblock => ?_
    have hpos : 0 < table.countP fun entry => entry.owns block :=
      countP_pos_iff.2 ⟨entry, hmem, decide_eq_true hblock⟩
    rw [howned, hnone] at hpos
    exact Nat.lt_irrefl 0 hpos
  · intro hnone block
    rw [← howned, countP_eq_zero]
    intro entry hmem howns
    have hblock : entry.block = some block := of_decide_eq_true howns
    rw [hnone entry hmem] at hblock
    cases hblock

end Accounted

theorem accounted_init {debug serviceCallback : Bool} {tableSize : Fin (2 ^ 15)} {clock : Nat} :
    Accounted (init debug serviceCallback tableSize clock).books := by
  refine ⟨fun table htable => ?_, fun block => (if_neg (Nat.not_lt_zero block)).symm⟩
  obtain rfl := Option.some.inj htable
  have hzero (entry : DispatchEntry) (hmem : entry ∈ replicate tableSize.val .zero) :
      entry = .zero := eq_of_mem_replicate hmem
  refine ⟨fun entry hmem => ?_, ?_, ⟨fun i entry hget hinUse => ?_, .inl rfl⟩, fun block => ?_⟩
  · rw [hzero entry hmem]
    decide
  · have hnone :
        (replicate tableSize.val DispatchEntry.zero).countP DispatchEntry.active = 0 :=
      countP_eq_zero.2 fun entry hmem => by
        rw [hzero entry hmem]
        decide
    rw [hnone]
    rfl
  · rw [hzero entry (mem_of_getElem? hget)] at hinUse
    cases hinUse
  · refine countP_eq_zero.2 fun entry hmem => ?_
    rw [hzero entry hmem]
    exact nofun

/-- What the count, the mark and the blocks say about the table. -/
structure Balanced (s : Machine) (table : List DispatchEntry) : Prop where
  numActiveEntries :
    s.dispatcher.numActiveEntries = table.countP fun entry => entry.state = .funcActive
  maxUsedEntry :
    (s.dispatcher.maxUsedEntry = -1 ∧ ∀ entry ∈ table, entry.inUse = false) ∨
      ∃ i : Nat, s.dispatcher.maxUsedEntry = i ∧
        IsGreatest {j : Nat | ∃ entry, table[j]? = some entry ∧ entry.inUse = true} i
  freed : ∀ block < s.heap.next,
    s.heap.freed.count block = if ∃ entry ∈ table, entry.block = some block then 0 else 1

theorem Accounted.balanced {s : Machine} {table : List DispatchEntry} (h : Accounted s.books)
    (htable : s.dispatcher.table = some table) : Balanced s table := by
  have hkept := h.kept table htable
  refine ⟨hkept.active, ?_, fun block hblock => ?_⟩
  · obtain hnone | ⟨i, entry, hmark, hget, hinUse⟩ := hkept.mark.2
    · refine .inl ⟨hnone, fun entry hmem => eq_false_of_ne_true fun hinUse => ?_⟩
      obtain ⟨i, hget⟩ := getElem?_of_mem hmem
      have := hkept.mark.1 i entry hget hinUse
      omega
    · refine .inr ⟨i, hmark, ⟨entry, hget, hinUse⟩, ?_⟩
      rintro j ⟨entry', hget', hinUse'⟩
      have := hkept.mark.1 j entry' hget' hinUse'
      omega
  · have honce := h.once block
    have howned := hkept.owned block
    have hnext : block < s.books.heap.next := hblock
    rw [if_pos hnext] at honce
    change s.books.heap.freed.count block = _
    split
    · next hex =>
        obtain ⟨entry, hmem, howns⟩ := hex
        have hpos : 0 < table.countP fun entry => entry.owns block :=
          countP_pos_iff.2 ⟨entry, hmem, decide_eq_true howns⟩
        omega
    · next hno =>
        have hzero : (table.countP fun entry => entry.owns block) = 0 :=
          countP_eq_zero.2 fun entry hmem howns =>
            hno ⟨entry, hmem, of_decide_eq_true howns⟩
        omega

/-! ## The end -/

section Terminate

variable {s s' t : Machine} {i : Nat} {entry : DispatchEntry} {table : List DispatchEntry}

theorem total_countActive {k : Int} : Total (countActive k) := Total.update

theorem total_putEntry : Total (putEntry i entry) := Total.update

theorem total_freeArg (arg : EntryArg) : Total (freeArg arg) := by
  cases arg with
  | inlineArg bytes => exact Total.pure
  | mallocArg block =>
      cases block with
      | none => exact Total.pure
      | some block => exact Total.update

/-- An entry of the table can be freed. -/
theorem freeCBEntry_ends (hentry : s.slot? i = some entry)
    (hactive : 0 ≤ s.dispatcher.numActiveEntries) : ∃ s', Ends (freeCBEntry i) s () s' := by
  obtain ⟨_, t₁, harg⟩ := (total_freeArg entry.arg).only
    (c := entry.inUse = true ∧ maxInlineArgSize < entry.argSize) s
  have ht₁ : t₁.dispatcher.numActiveEntries = s.dispatcher.numActiveEntries :=
    congrArg Books.active (books_freeArg harg)
  have hassert : Ends (oiAssert (0 ≤ t₁.dispatcher.numActiveEntries)) t₁ () t₁ := by
    refine ends_bind_view.2 (ends_only.2 (.inr ⟨fun hc => hc.2 ?_, rfl⟩))
    rw [ht₁]
    exact hactive
  have hrest : Total (do
      only (entry.state = .funcActive) (countActive (-1))
      putEntry i { entry with cbFunc := none, state := .freeSlot }
      let d ← view Machine.dispatcher
      only (i = d.maxUsedEntry) lowerMark : Run Unit) :=
    total_countActive.only.bind fun _ => total_putEntry.bind fun _ =>
      Total.view.bind fun _ => Total.update.only
  obtain ⟨_, s', hs'⟩ := hrest t₁
  exact ⟨s', ends_bind_entryAt.2 ⟨entry, hentry, ends_bind.2 ⟨_, t₁, harg,
    ends_bind_view.2 (ends_bind.2 ⟨(), t₁, hassert, hs'⟩)⟩⟩⟩

/-- The loop of `OI_Dispatch_Terminate` has come to the entry `i`; the mark is at `m`. -/
structure Freeing (s : Machine) (m : Nat) (last : DispatchEntry) (i : Nat) : Prop where
  accounted : Accounted s.books
  mark : s.dispatcher.maxUsedEntry = m
  last : s.slot? m = some last
  below : ∀ j < i, ∀ entry, s.slot? j = some entry → entry.inUse = false

variable {last : DispatchEntry}

/-- One round of the loop. -/
theorem Freeing.next {m : Nat} (h : Freeing s m last i) (hi : i < m) :
    ∃ s', Ends (freeCBEntry i) s () s' ∧ Freeing s' m last (i + 1) := by
  obtain ⟨table, htable, hlast⟩ := (Books.slot?_eq_some (b := s.books)).1 h.last
  obtain ⟨hm, -⟩ := List.getElem?_eq_some_iff.1 hlast
  have hget : table[i]? = some table[i] := getElem?_eq_getElem (Nat.lt_trans hi hm)
  have hentry : s.slot? i = some table[i] :=
    (Books.slot?_eq_some (b := s.books)).2 ⟨table, htable, hget⟩
  have hactive : 0 ≤ s.dispatcher.numActiveEntries := by
    have hcount := (h.accounted.kept table htable).active
    change s.dispatcher.numActiveEntries = _ at hcount
    omega
  obtain ⟨s', hs'⟩ := freeCBEntry_ends hentry hactive
  obtain ⟨entry, hentry', hbooks⟩ := books_freeCBEntry hs'
  have hmark : s'.dispatcher.maxUsedEntry = (s.books.free i entry).mark :=
    congrArg Books.mark hbooks
  have hread (j : Nat) : s'.slot? j = (s.books.put i entry.released).slot? j :=
    congrArg (fun b : Books => b.slot? j) hbooks
  refine ⟨s', hs', ⟨?_, ?_, ?_, fun j hj e he => ?_⟩⟩
  · rw [hbooks]
    exact h.accounted.free hentry'
  · have hne : ¬ (i : Int) = s.books.mark := by
      change ¬ (i : Int) = s.dispatcher.maxUsedEntry
      rw [h.mark]
      omega
    rw [hmark, Books.free, if_neg hne]
    exact h.mark
  · rw [hread, Books.slot?_put_ne (Nat.ne_of_lt hi)]
    exact h.last
  · rw [hread] at he
    obtain hj | rfl := Nat.lt_succ_iff_lt_or_eq.1 hj
    · rw [Books.slot?_put_ne (Nat.ne_of_gt hj)] at he
      exact h.below j hj e he
    · rw [Books.slot?_put hentry'] at he
      obtain rfl := Option.some.inj he
      rfl

/-- The loop comes to the mark, which it does not move. -/
theorem freeBelow_ends {m : Nat} (k : Nat) (h : Freeing s m last i) (hk : i + k = m) :
    ∃ s', Ends (freeBelow k i) s () s' ∧ Freeing s' m last m := by
  induction k generalizing s i with
  | zero =>
      obtain rfl : i = m := hk
      exact ⟨s, ends_pure.2 ⟨rfl, rfl⟩, h⟩
  | succ k ih =>
      have hi : i < m := by omega
      obtain ⟨t, ht, hnext⟩ := h.next hi
      obtain ⟨s', hs', hend⟩ := ih hnext (by omega)
      refine ⟨s', ends_bind_view.2 (ends_only.2 (.inl ⟨?_, ends_bind.2 ⟨_, t, ht, hs'⟩⟩)), hend⟩
      rw [h.mark]
      omega

/-- After the loop the block at the mark is the only one that there can be. -/
theorem Freeing.blocks {m : Nat} (h : Freeing s m last m) :
    s.heap.blocks = [] ↔ last.block = none := by
  obtain ⟨table, htable, hlast⟩ := (Books.slot?_eq_some (b := s.books)).1 h.last
  refine (h.accounted.blocks_eq_nil_iff htable).trans ⟨fun hnone => ?_, fun hnone entry hmem => ?_⟩
  · exact hnone last (mem_of_getElem? hlast)
  · obtain ⟨j, hget⟩ := getElem?_of_mem hmem
    obtain hj | rfl | hj := Nat.lt_trichotomy j m
    · apply DispatchEntry.block_of_unused
      exact h.below j hj entry ((Books.slot?_eq_some (b := s.books)).2 ⟨table, htable, hget⟩)
    · obtain rfl := Option.some.inj (hlast.symm.trans hget)
      exact hnone
    · refine DispatchEntry.block_of_unused (eq_false_of_ne_true fun hinUse => ?_)
      have hle := (h.accounted.kept table htable).mark.1 j entry hget hinUse
      have hmark : s.books.mark = m := h.mark
      omega

/-- The entry at the mark has no block. -/
def Machine.lastHasNoBlock (s : Machine) : Prop :=
  ∀ (i : Nat) entry, s.dispatcher.maxUsedEntry = i → s.slot? i = some entry → entry.block = none

/-- `OI_Dispatch_Terminate` leaves no block exactly if the entry at the mark has none. -/
theorem terminate_ends (h : Accounted s.books) (htable : s.dispatcher.table = some table) :
    ∃ s', Ends terminate s () s' ∧ s'.dispatcher.table = none ∧
      (s'.heap.blocks = [] ↔ s.lastHasNoBlock) := by
  have hends {t : Machine} (ht : Ends (freeBelow s.dispatcher.maxUsedEntry.toNat 0) s () t) :
      Ends terminate s () { t with dispatcher := { t.dispatcher with table := none } } := by
    refine ends_bind_view.2 (ends_only.2 (.inl ⟨?_, ends_bind.2 ⟨_, t, ht, ends_update.2 rfl⟩⟩))
    rw [htable]
    rfl
  have hkept := h.kept table htable
  obtain hnone | ⟨m, last, hmark, hlast, hinUse⟩ := hkept.mark.2
  · have hmark : s.dispatcher.maxUsedEntry = -1 := hnone
    have hloop : Ends (freeBelow s.dispatcher.maxUsedEntry.toNat 0) s () s := by
      rw [hmark]
      exact ends_pure.2 ⟨rfl, rfl⟩
    refine ⟨_, hends hloop, rfl, iff_of_true ?_ fun i entry hi => ?_⟩
    · refine (h.blocks_eq_nil_iff htable).2 fun entry hmem => ?_
      refine DispatchEntry.block_of_unused (eq_false_of_ne_true fun hinUse => ?_)
      obtain ⟨i, hget⟩ := getElem?_of_mem hmem
      have := hkept.mark.1 i entry hget hinUse
      omega
    · omega
  · have hmark' : s.dispatcher.maxUsedEntry = m := hmark
    have hentry : s.slot? m = some last :=
      (Books.slot?_eq_some (b := s.books)).2 ⟨table, htable, hlast⟩
    have hfreeing : Freeing s m last 0 :=
      ⟨h, hmark', hentry, fun j hj => absurd hj (Nat.not_lt_zero j)⟩
    obtain ⟨t, ht, hend⟩ := freeBelow_ends m hfreeing (Nat.zero_add m)
    have hloop : Ends (freeBelow s.dispatcher.maxUsedEntry.toNat 0) s () t := by
      rw [hmark']
      exact ht
    refine ⟨_, hends hloop, rfl, hend.blocks.trans
      ⟨fun hblock i entry hi he => ?_, fun hlast => ?_⟩⟩
    · obtain rfl : m = i := by omega
      obtain rfl := Option.some.inj (hentry.symm.trans he)
      exact hblock
    · exact hlast m last hmark' hentry

end Terminate

/-! ## Runs -/

/-- The table is there. -/
def Machine.hasTable (s : Machine) : Bool := s.dispatcher.table.isSome

/-- A block is allocated. -/
def Machine.hasBlocks (s : Machine) : Bool := !s.heap.blocks.isEmpty

theorem hasBlocks_eq_false {s : Machine} : s.hasBlocks = false ↔ s.heap.blocks = [] := by
  rw [Machine.hasBlocks, Bool.not_eq_false', List.isEmpty_iff]

/-- The table goes with `OI_Dispatch_Terminate` only. -/
theorem change_hasTable {b b' : Books} (hchange : Change b b') (h : b.table.isSome = true) :
    b'.table.isSome = true := by
  have hput (i : Nat) (entry : DispatchEntry) : (b.put i entry).table.isSome = true := by
    rw [Books.put, Option.isSome_map]
    exact h
  cases hchange with
  | wait => exact h
  | prepare => exact hput _ _
  | take => exact hput _ _
  | announce => exact h
  | free => exact hput _ _
  | cancel => exact hput _ _
  | suspend => exact hput _ _
  | suspendAgain => exact h
  | setTimeout => exact hput _ _
  | begin => exact h
  | mark => exact hput _ _
  | run => exact hput _ _
  | call => exact hput _ _

/-- Without the table nothing happens to the heap. -/
theorem change_without {b b' : Books} {heap : Heap} (hchange : Change b b')
    (h : b.table = none ∧ b.heap = heap) : b'.table = none ∧ b'.heap = heap := by
  obtain ⟨htable, hheap⟩ := h
  have hno {i : Nat} {entry : DispatchEntry} (hentry : b.slot? i = some entry) : False := by
    obtain ⟨table, htable', -⟩ := Books.slot?_eq_some.1 hentry
    rw [htable] at htable'
    cases htable'
  cases hchange with
  | wait => exact ⟨htable, hheap⟩
  | prepare timeout hentry => exact (hno hentry).elim
  | take hentry => exact (hno hentry).elim
  | announce => exact ⟨htable, hheap⟩
  | free hentry => exact (hno hentry).elim
  | cancel hentry => exact (hno hentry).elim
  | suspend hentry => exact (hno hentry).elim
  | suspendAgain => exact ⟨htable, hheap⟩
  | setTimeout hentry => exact (hno hentry).elim
  | begin => exact ⟨htable, hheap⟩
  | mark _ _ hentry => exact (hno hentry).elim
  | run hentry => exact (hno hentry).elim
  | call hentry => exact (hno hentry).elim

theorem inert_step : Inert step Machine.hasTable Machine.hasBlocks := by
  intro input t t' hstep hgone
  have htable : t.books.table = none := Option.not_isSome_iff_eq_none.1 (by
    rw [Bool.not_eq_true]
    exact hgone)
  have hsame := stays_step (I := fun b => b.table = none ∧ b.heap = t.heap) change_without
    (fun h => ⟨rfl, h.2⟩) input t () t' hstep ⟨htable, rfl⟩
  obtain ⟨htable', hheap⟩ := hsame
  change t'.dispatcher.table = none at htable'
  change t'.heap = t.heap at hheap
  refine ⟨?_, ?_⟩
  · rw [Machine.hasTable, htable']
    rfl
  · rw [Machine.hasBlocks, Machine.hasBlocks, hheap]
    exact id

section Runs

variable (debug serviceCallback : Bool) (tableSize : Fin (2 ^ 15)) (clock : Nat)
  (inputs : List Input)

/-- In every state of a run the accounts are balanced, or the table is gone and with it every
block. -/
def AlwaysBalanced : Prop :=
  ∀ t, Passes step inputs (init debug serviceCallback tableSize clock) t →
    (∀ table, t.dispatcher.table = some table → Balanced t table) ∧
      (t.dispatcher.table = none → t.heap.blocks = [])

/-- Whenever the dispatcher terminates in a run, the entry at the mark has no block. -/
def TerminatesClean : Prop :=
  ∀ before delay after t, inputs = before ++ ⟨delay, .terminate⟩ :: after →
    Ends (perform step before) (init debug serviceCallback tableSize clock) () t →
    t.dispatcher.table.isSome = true → t.lastHasNoBlock

variable {debug serviceCallback tableSize clock inputs}

theorem accounted_of_reached {before : List Input} {t : Machine}
    (h : Ends (perform step before) (init debug serviceCallback tableSize clock) () t) :
    Accounted t.books :=
  reached_keeps Accounted.change Accounted.drop h accounted_init

theorem goesAlone_iff :
    GoesAlone step Machine.hasTable Machine.hasBlocks inputs
        (init debug serviceCallback tableSize clock) ↔
      TerminatesClean debug serviceCallback tableSize clock inputs := by
  have hterminate {delay : Nat} {t : Machine} (h : Accounted t.books)
      (htable : t.dispatcher.table.isSome = true) :
      ∃ t', Ends (step ⟨delay, .terminate⟩) t () t' ∧ t'.dispatcher.table = none ∧
        (t'.heap.blocks = [] ↔ t.lastHasNoBlock) := by
    obtain ⟨table, htable⟩ := Option.isSome_iff_exists.1 htable
    have hwaited : Accounted ({ t with clock := t.clock + delay } : Machine).books :=
      h.of_same rfl rfl rfl rfl
    exact terminate_ends hwaited htable
  constructor
  · intro halone before delay after t hinputs hbefore htable
    obtain ⟨t', hstep, hnone, hblocks⟩ := hterminate (accounted_of_reached hbefore) htable
    have hgone : t'.hasTable = false := by
      rw [Machine.hasTable, hnone]
      rfl
    exact hblocks.1 (hasBlocks_eq_false.1
      (halone before _ after t t' hinputs hbefore hstep htable hgone))
  · intro hclean before input after t t' hinputs hbefore hstep htable hgone
    obtain ⟨delay, operation⟩ := input
    by_cases hoperation : operation = .terminate
    · subst hoperation
      obtain ⟨t'', hstep', -, hblocks⟩ := hterminate (accounted_of_reached hbefore) htable
      obtain ⟨-, rfl⟩ := hstep.unique hstep'
      exact hasBlocks_eq_false.2 (hblocks.2 (hclean before delay after t hinputs hbefore htable))
    · have hother : (⟨delay, operation⟩ : Input).operation ≠ .terminate := hoperation
      have hchanges := changes_step hother t () t' hstep
      have hthere : t'.books.table.isSome = true := Changes.keeps change_hasTable hchanges htable
      change t'.hasTable = true at hthere
      rw [hgone] at hthere
      cases hthere

/-- The accounts are balanced all the time, and no block is left at the end, exactly if the
entry at the mark has no block whenever the dispatcher terminates. -/
theorem alwaysBalanced_iff (debug serviceCallback : Bool) (tableSize : Fin (2 ^ 15))
    (clock : Nat) (inputs : List Input) :
    AlwaysBalanced debug serviceCallback tableSize clock inputs ↔
      TerminatesClean debug serviceCallback tableSize clock inputs := by
  rw [← goesAlone_iff, ← neverLate_iff inert_step rfl]
  constructor
  · intro h t hpasses hblocks
    cases htable : t.hasTable with
    | true => rfl
    | false =>
        have hnone : t.dispatcher.table = none :=
          Option.isNone_iff_eq_none.1 (Option.isSome_eq_false_iff.1 htable)
        rw [hasBlocks_eq_false.2 ((h t hpasses).2 hnone)] at hblocks
        cases hblocks
  · intro h t hpasses
    have ⟨before, after, _, hbefore⟩ := hpasses
    refine ⟨fun table htable => (accounted_of_reached hbefore).balanced htable, fun hnone => ?_⟩
    cases hblocks : t.hasBlocks with
    | false => exact hasBlocks_eq_false.1 hblocks
    | true =>
        have hthere := h t hpasses hblocks
        rw [Machine.hasTable, hnone] at hthere
        cases hthere

end Runs

/-- Arguments that do not fit into an entry. -/
def nineBytes : DispatchArg := ⟨[1, 2, 3, 4, 5, 6, 7, 8, 9], by decide⟩

/-- A function with nine bytes of arguments waits when the dispatcher terminates. -/
theorem leaks_last : ¬ AlwaysBalanced true false 16 0
    [⟨0, .registerTimedFunc (some 1) (some nineBytes) 0 true⟩, ⟨0, .terminate⟩] := by
  intro h
  obtain ⟨t, ht, hleft⟩ := reaches_iff.1 (by decide +kernel : reaches (perform step
    [⟨0, .registerTimedFunc (some 1) (some nineBytes) 0 true⟩, ⟨0, .terminate⟩])
    (init true false 16 0) (fun s => s.dispatcher.table.isNone && s.hasBlocks) = true)
  obtain ⟨hnone, hblocks⟩ := (Bool.and_eq_true _ _).mp hleft
  have hempty := (h t ⟨_, [], (append_nil _).symm, ht⟩).2 (Option.isNone_iff_eq_none.1 hnone)
  rw [hasBlocks_eq_false.2 hempty] at hblocks
  cases hblocks

end Stack.Dispatch
