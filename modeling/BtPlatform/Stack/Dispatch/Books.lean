import BtPlatform.Stack.Dispatch.Machine
import Mathlib.Logic.Relation

/-!
# The books of the dispatcher

What the dispatcher keeps of the functions that are registered: the table with its mark and its
count, the blocks, and the history. `Change` lists all that can happen to the books, each time
with what the dispatcher has checked before. Whatever the machine does is a sequence of these
changes, until it terminates.
-/

namespace Stack.Dispatch

open Support Program Program.Prog List

/-- The part of a machine that has to do with the functions that are registered. -/
structure Books where
  table : Option (List DispatchEntry)
  mark : Int
  active : Int
  heap : Heap
  registrations : Nat
  clock : Nat
  log : List Event

/-- The books of a machine. -/
def Machine.books (s : Machine) : Books where
  table := s.dispatcher.table
  mark := s.dispatcher.maxUsedEntry
  active := s.dispatcher.numActiveEntries
  heap := s.heap
  registrations := s.registrations
  clock := s.clock
  log := s.log

namespace DispatchEntry

/-- The handle of the entry is valid. -/
def Valid (entry : DispatchEntry) : Prop :=
  entry.state ≠ .freeSlot ∧ entry.state ≠ .funcRunning

/-- The entry counts as active. -/
def active (entry : DispatchEntry) : Bool := entry.state = .funcActive

/-- The entry when its function is gone. -/
def released (entry : DispatchEntry) : DispatchEntry :=
  { entry with cbFunc := none, state := .freeSlot }

end DispatchEntry

/-- 1 for something that counts. -/
def one (c : Bool) : Int := if c then 1 else 0

/-! ## What happens to the books -/

namespace Books

variable (b : Books) (i : Nat) (entry : DispatchEntry)

/-- An entry of the table. -/
def slot? : Option DispatchEntry := b.table.bind fun table => table[i]?

/-- Assign to an entry. -/
def put : Books := { b with table := b.table.map fun table => table.set i entry }

/-- Add to the count. -/
def count (k : Int) : Books := { b with active := b.active + k }

/-- Add to the history. -/
def record (event : Event) : Books := { b with log := b.log ++ [event] }

/-- A function takes an entry. -/
def take (heap : Heap) : Books :=
  { b.put i entry with
    mark := if b.mark < i then i else b.mark
    active := b.active + 1
    heap := heap
    registrations := b.registrations + 1 }

/-- The function of an entry is gone. -/
def free : Books :=
  { b.put i entry.released with
    mark := if i = b.mark then
        highWater ((b.put i entry.released).table.getD []) (b.mark + 1).toNat
      else b.mark
    active := b.active - one entry.active
    heap := entry.block.elim b.heap b.heap.free }

/-- An entry goes from one state into another one. -/
def enter (state : EntryState) : Books :=
  (b.put i { entry with state := state }).count
    (one (decide (state = .funcActive)) - one entry.active)

/-- The timeout of an entry begins anew. -/
def setTimeout (timeout : OIInterval) : Books :=
  b.enter i { entry with timeout := timeNowInterval b.clock + timeout }
    (if entry.state = .funcSuspended then .funcActive else entry.state)

/-- The registrations of the functions that are running. -/
def runningFuncs : List Nat :=
  ((b.table.getD []).filter fun entry => entry.state = .funcRunning).map
    DispatchEntry.registration

variable {b : Books} {i j : Nat} {entry entry' : DispatchEntry}

theorem slot?_eq_some :
    b.slot? i = some entry ↔ ∃ table, b.table = some table ∧ table[i]? = some entry :=
  Option.bind_eq_some_iff

/-- What is assigned is read back. -/
theorem slot?_put (h : b.slot? i = some entry) : (b.put i entry').slot? i = some entry' := by
  obtain ⟨table, htable, hget⟩ := slot?_eq_some.1 h
  obtain ⟨hi, -⟩ := List.getElem?_eq_some_iff.1 hget
  refine slot?_eq_some.2 ⟨table.set i entry', ?_, getElem?_set_self hi⟩
  rw [put, htable]
  rfl

/-- The other entries are as before. -/
theorem slot?_put_ne (h : i ≠ j) : (b.put i entry).slot? j = b.slot? j := by
  unfold slot? put
  cases b.table with
  | none => rfl
  | some table => exact getElem?_set_ne h

theorem put_put : (b.put i entry).put i entry' = b.put i entry' := by
  unfold put
  rw [Option.map_map]
  congr 2
  funext table
  exact set_set entry

theorem count_zero : b.count 0 = b := by
  unfold count
  rw [Int.add_zero]

/-- To stay in a state is no change. -/
theorem enter_self : b.enter i entry entry.state = b.put i entry := by
  have hzero : one (decide (entry.state = .funcActive)) - one entry.active = 0 := Int.sub_self _
  rw [enter, hzero, count_zero]

theorem slot?_enter {state : EntryState} (h : b.slot? i = some entry) :
    (b.enter i entry' state).slot? i = some { entry' with state := state } := slot?_put h

/-- Where a state is entered that is not active, the count does not go up. -/
theorem enter_of_ne {state : EntryState} (h : state ≠ .funcActive) :
    b.enter i entry state = (b.count (-one entry.active)).put i { entry with state := state } := by
  rw [enter, decide_eq_false h]
  exact congrArg _ (Int.zero_sub _)

theorem slot?_setTimeout {timeout : OIInterval} (h : b.slot? i = some entry) :
    (b.setTimeout i entry timeout).slot? i =
      some { entry with
        timeout := timeNowInterval b.clock + timeout
        state := if entry.state = .funcSuspended then .funcActive else entry.state } :=
  slot?_enter h

theorem slot?_take {heap : Heap} (h : b.slot? i = some entry) :
    (b.take i entry' heap).slot? i = some entry' := slot?_put h

theorem take_put {heap heap' : Heap} :
    { (b.take i entry heap).put i entry' with heap := heap' } = b.take i entry' heap' := by
  have hput : (b.put i entry).put i entry' = b.put i entry' := put_put
  exact congrArg (fun p : Books =>
    { p with
      mark := if b.mark < i then i else b.mark
      active := b.active + 1
      heap := heap'
      registrations := b.registrations + 1 }) hput

theorem put_take {heap : Heap} :
    (b.take i entry heap).put i entry' = b.take i entry' heap := take_put

end Books

/-- The arguments of an entry are in a new block, if they are in one. -/
def Stored (entry : DispatchEntry) (heap heap' : Heap) : Prop :=
  entry.block = none ∧ heap' = heap ∨
    entry.block = some heap.next ∧ ∃ bytes, heap' = heap.malloc bytes

/-- An entry of a new function. -/
structure Fresh (b : Books) (entry : DispatchEntry) (heap : Heap) : Prop where
  inUse : entry.inUse = true
  state : entry.state = .funcActive
  registration : entry.registration = b.registrations
  stored : Stored entry b.heap heap

/-- All that can happen to the books while the table is there. -/
inductive Change (b : Books) : Books → Prop
  /-- time passes -/
  | wait (delay : Nat) : Change b { b with clock := b.clock + delay }
  /-- a timeout is set in an entry that is to be taken -/
  | prepare {i : Nat} {entry : DispatchEntry} (timeout : OIInterval)
      (hentry : b.slot? i = some entry) (hfree : entry.inUse = false) :
      Change b (b.setTimeout i entry timeout)
  /-- a function takes an entry that is not in use -/
  | take {i : Nat} {old entry : DispatchEntry} {heap : Heap} (hentry : b.slot? i = some old)
      (hfree : old.inUse = false) (hfresh : Fresh b entry heap) : Change b (b.take i entry heap)
  /-- its registration has succeeded -/
  | announce {i : Nat} {entry : DispatchEntry} (handle : CBHandle) {timeout : OIInterval}
      (hentry : b.slot? i = some entry) (hstate : entry.state = .funcActive)
      (htimeout : entry.timeout = timeNowInterval b.clock + timeout)
      (hmax : timeout ≤ maxInterval) :
      Change b (b.record (.registered entry.registration handle timeout b.clock))
  /-- a function is gone -/
  | free {i : Nat} {entry : DispatchEntry} (hentry : b.slot? i = some entry) :
      Change b (b.free i entry)
  /-- a function is gone because it is cancelled -/
  | cancel {i : Nat} {entry : DispatchEntry} (hentry : b.slot? i = some entry)
      (hvalid : entry.Valid) :
      Change b ((b.free i entry).record (.cancelled entry.registration))
  /-- a function that is active is suspended -/
  | suspend {i : Nat} {entry : DispatchEntry} (hentry : b.slot? i = some entry)
      (hstate : entry.state = .funcActive) :
      Change b ((b.enter i entry .funcSuspended).record (.suspended entry.registration false))
  /-- a function that is not active is to be suspended -/
  | suspendAgain {i : Nat} {entry : DispatchEntry} (hentry : b.slot? i = some entry)
      (hvalid : entry.Valid) (hstate : entry.state ≠ .funcActive) :
      Change b (b.record (.suspended entry.registration (entry.state = .funcRunnable)))
  /-- a timeout begins anew -/
  | setTimeout {i : Nat} {entry : DispatchEntry} {timeout : OIInterval}
      (hentry : b.slot? i = some entry) (hvalid : entry.Valid) (hmax : timeout ≤ maxInterval) :
      Change b ((b.setTimeout i entry timeout).record
        (.timeoutSet entry.registration timeout (entry.state = .funcRunnable) b.clock))
  /-- a run begins -/
  | begin : Change b (b.record (.runBegan b.runningFuncs))
  /-- the run finds a function whose time has come -/
  | mark {i : Nat} {entry : DispatchEntry} {before : List Event} {running : List Nat}
      (hlog : b.log = before ++ [.runBegan running])
      (hrunning : entry.state = .funcRunning → entry.registration ∈ running)
      (hentry : b.slot? i = some entry) (hinUse : entry.inUse = true)
      (hstate : entry.state ≠ .funcSuspended)
      (hdue : entry.due (timeNowInterval b.clock) = true) :
      Change b (b.enter i entry .funcRunnable)
  /-- a run calls a function -/
  | run {i : Nat} {entry : DispatchEntry} {function : CBFunc} {arg : Option (List UInt8)}
      (hentry : b.slot? i = some entry) (hstate : entry.state = .funcRunnable) :
      Change b ((b.enter i entry .funcRunning).record
        (.invoked entry.registration function arg .run b.clock))
  /-- a user calls a function -/
  | call {i : Nat} {entry : DispatchEntry} {function : CBFunc} {arg : Option (List UInt8)}
      (hentry : b.slot? i = some entry) (hvalid : entry.Valid) :
      Change b ((b.enter i entry .funcRunning).record
        (.invoked entry.registration function arg .callFunc b.clock))

/-- The books without the table. -/
def Books.drop (b : Books) : Books := { b with table := none }

/-- One machine comes from another one by changes to the books. -/
def Changes (s s' : Machine) : Prop := Relation.ReflTransGen Change s.books s'.books

instance : IsPreorder Machine Changes where
  refl _ := .refl
  trans _ _ _ := .trans

theorem Changes.of_eq {s s' : Machine} (h : s'.books = s.books) : Changes s s' := by
  unfold Changes
  rw [h]

theorem Changes.of_change {s s' : Machine} {b : Books} (h : Change s.books b)
    (hb : s'.books = b) : Changes s s' := by
  subst hb
  exact .single h

/-- What every change keeps, every sequence of changes keeps. -/
theorem Changes.keeps {I : Books → Prop} (hI : ∀ {b b'}, Change b b' → I b → I b')
    {s s' : Machine} (h : Changes s s') (hs : I s.books) : I s'.books := by
  unfold Changes at h
  generalize s'.books = b at h
  induction h with
  | refl => exact hs
  | tail _ hchange ih => exact hI hchange ih

/-! ## The primitives -/

section Primitives

variable {s s' : Machine} {i : Nat} {entry : DispatchEntry} {u : Unit}

theorem ends_entryAt : Ends (entryAt i) s entry s' ↔ s.slot? i = some entry ∧ s' = s := by
  unfold entryAt Machine.slot?
  rw [ends_bind_view]
  cases htable : s.dispatcher.table with
  | none => exact ⟨fun h => absurd h ends_fault, nofun⟩
  | some table =>
      rw [Option.bind_some]
      cases hget : table[i]? with
      | none =>
          dsimp only
          rw [hget]
          exact ⟨fun h => absurd h ends_fault, nofun⟩
      | some e =>
          dsimp only
          rw [hget, ends_pure]
          exact and_congr ⟨fun h => congrArg some h.symm, fun h => (Option.some.inj h).symm⟩ Iff.rfl

theorem ends_bind_entryAt {α : Type} {f : DispatchEntry → Run α} {a : α} :
    Ends (entryAt i >>= f) s a s' ↔ ∃ entry, s.slot? i = some entry ∧ Ends (f entry) s a s' := by
  rw [ends_bind]
  constructor
  · rintro ⟨entry, t, hentry, h⟩
    obtain ⟨hentry, rfl⟩ := ends_entryAt.1 hentry
    exact ⟨entry, hentry, h⟩
  · rintro ⟨entry, hentry, h⟩
    exact ⟨entry, s, ends_entryAt.2 ⟨hentry, rfl⟩, h⟩

theorem ends_oiAssert {c : Prop} [Decidable c] (h : Ends (oiAssert c) s u s') : s' = s := by
  unfold oiAssert at h
  rw [ends_bind_view] at h
  obtain ⟨-, h⟩ | ⟨-, rfl⟩ := ends_only.1 h
  · exact absurd h ends_fault
  · rfl

theorem ends_bind_oiAssert {α : Type} {c : Prop} [Decidable c] {f : Unit → Run α} {a : α}
    (h : Ends (oiAssert c >>= f) s a s') : Ends (f ()) s a s' := by
  obtain ⟨_, t, hassert, hf⟩ := ends_bind.1 h
  rw [ends_oiAssert hassert] at hf
  exact hf

/-- A change of the dispatcher that the books do not see. -/
theorem within_same_modify {f : DispatchState → DispatchState}
    (h : ∀ s : Machine, ({ s with dispatcher := f s.dispatcher } : Machine).books = s.books) :
    Within (Same Machine.books) (modify f) :=
  .update h

theorem within_same_requestService {timeout : OIInterval} :
    Within (Same Machine.books) (requestService timeout) :=
  Within.view.seq <| Within.only (Within.update fun _ => rfl)

theorem within_changes_same {α : Type} {m : Run α} (h : Within (Same Machine.books) m) :
    Within Changes m :=
  h.mono fun _ _ => Changes.of_eq

theorem books_put (h : Ends (putEntry i entry) s u s') : s'.books = s.books.put i entry := by
  obtain rfl := ends_update.1 h
  rfl

theorem books_count {k : Int} (h : Ends (countActive k) s u s') : s'.books = s.books.count k := by
  obtain rfl := ends_update.1 h
  rfl

theorem books_record {event : Event} (h : Ends (record event) s u s') :
    s'.books = s.books.record event := by
  obtain rfl := ends_update.1 h
  rfl

end Primitives

/-! ## Freeing -/

section Free

variable {s s' : Machine} {i : Nat} {entry : DispatchEntry} {u : Unit}

theorem books_freeArg
    (h : Ends (only (entry.inUse = true ∧ maxInlineArgSize < entry.argSize)
      (freeArg entry.arg)) s u s') :
    s'.books = { s.books with heap := entry.block.elim s.heap s.heap.free } := by
  unfold DispatchEntry.block
  obtain ⟨hc, h⟩ | ⟨hc, rfl⟩ := ends_only.1 h
  · rw [if_pos hc]
    cases harg : entry.arg with
    | inlineArg bytes =>
        rw [harg] at h
        obtain ⟨-, rfl⟩ := ends_pure.1 h
        rfl
    | mallocArg block =>
        rw [harg] at h
        cases block with
        | none =>
            obtain ⟨-, rfl⟩ := ends_pure.1 h
            rfl
        | some block =>
            obtain rfl := ends_update.1 h
            rfl
  · rw [if_neg hc]
    rfl

/-- Where an entry is left that was active, the count goes down. -/
theorem books_leave (h : Ends (only (entry.state = .funcActive) (countActive (-1))) s u s') :
    s'.books = s.books.count (-one entry.active) := by
  unfold DispatchEntry.active
  obtain ⟨hc, h⟩ | ⟨hc, rfl⟩ := ends_only.1 h
  · rw [decide_eq_true hc]
    exact books_count h
  · rw [decide_eq_false hc]
    exact congrArg (fun k => { s'.books with active := k }) (Int.add_zero _).symm

theorem books_lowerMark (h : Ends (only ((i : Int) = s.dispatcher.maxUsedEntry) lowerMark) s u s') :
    s'.books = { s.books with
      mark := if i = s.books.mark then
          highWater (s.books.table.getD []) (s.books.mark + 1).toNat
        else s.books.mark } := by
  obtain ⟨hc, h⟩ | ⟨hc, rfl⟩ := ends_only.1 h
  · obtain rfl := ends_update.1 h
    have hmark : (i : Int) = s.books.mark := hc
    rw [if_pos hmark]
    rfl
  · have hmark : ¬ (i : Int) = s'.books.mark := hc
    rw [if_neg hmark]

theorem books_freeCBEntry (h : Ends (freeCBEntry i) s u s') :
    ∃ entry, s.books.slot? i = some entry ∧ s'.books = s.books.free i entry := by
  obtain ⟨entry, hentry, h₀⟩ := ends_bind_entryAt.1 h
  obtain ⟨_, t₁, harg, h₁⟩ := ends_bind.1 h₀
  rw [ends_bind_view] at h₁
  obtain ⟨_, t₂, hcount, h₂⟩ := ends_bind.1 (ends_bind_oiAssert h₁)
  obtain ⟨_, t₃, hput, h₃⟩ := ends_bind.1 h₂
  rw [ends_bind_view] at h₃
  refine ⟨entry, hentry, ?_⟩
  rw [books_lowerMark h₃, books_put hput, books_leave hcount, books_freeArg harg]
  rfl

theorem changes_freeCBEntry : Within Changes (freeCBEntry i) := by
  intro s u s' h
  obtain ⟨entry, hentry, hs'⟩ := books_freeCBEntry h
  exact .of_change (.free hentry) hs'

theorem changes_freeBelow {k : Nat} : Within Changes (freeBelow k i) := by
  induction k generalizing i with
  | zero => exact .pure
  | succ k ih =>
      exact Within.view.seq <| Within.only (changes_freeCBEntry.seq ih)

/-- Entries are freed, and then the table is. -/
theorem changes_terminate (h : Ends terminate s u s') :
    s' = s ∨ ∃ t, Changes s t ∧ s'.books = t.books.drop := by
  unfold terminate at h
  rw [ends_bind_view] at h
  obtain ⟨-, h₁⟩ | ⟨-, rfl⟩ := ends_only.1 h
  · obtain ⟨_, t, hbelow, h₂⟩ := ends_bind.1 h₁
    exact .inr ⟨t, changes_freeBelow _ _ _ hbelow, congrArg Machine.books (ends_update.1 h₂)⟩
  · exact .inl rfl

end Free

/-! ## Registering -/

section Register

variable {s s' : Machine} {i : Nat} {timeout : OIInterval} {u : Unit}

theorem books_internalSetTimeout (h : Ends (internalSetTimeout i timeout) s u s') :
    ∃ entry, s.books.slot? i = some entry ∧
      s'.books = s.books.setTimeout i entry timeout := by
  unfold internalSetTimeout at h
  rw [ends_bind_view, ends_bind_view] at h
  obtain ⟨entry, hentry, h₀⟩ := ends_bind_entryAt.1 h
  obtain ⟨_, t₁, hput, h₁⟩ := ends_bind.1 h₀
  obtain ⟨_, t₂, hrequest, h₂⟩ := ends_bind.1 h₁
  have hsame : t₂.books = t₁.books := by
    refine (?_ : Within (Same Machine.books) _) _ _ _ hrequest
    exact .only ((within_same_modify fun _ => rfl).seq within_same_requestService)
  refine ⟨entry, hentry, ?_⟩
  obtain ⟨hstate, h₃⟩ | ⟨hstate, rfl⟩ := ends_only.1 h₂
  · replace hstate : entry.state = .funcSuspended := hstate
    obtain ⟨_, t₃, hput', hcount⟩ := ends_bind.1 h₃
    rw [books_count hcount, books_put hput', hsame, books_put hput, Books.put_put,
      Books.setTimeout, Books.enter, if_pos hstate, DispatchEntry.active, hstate]
    rfl
  · replace hstate : ¬ entry.state = .funcSuspended := hstate
    rw [hsame, books_put hput, Books.setTimeout, if_neg hstate]
    exact Books.enter_self.symm

/-- The entry that a new function takes, with the arguments of the function before. -/
def DispatchEntry.taken (old : DispatchEntry) (function : CBFunc) (timeout : OIInterval)
    (registration : Nat) : DispatchEntry :=
  { old with
    timeout := timeout
    state := .funcActive
    cbFunc := some function
    salt := nextSalt old.salt
    registration := registration }

theorem books_takeEntry {function : CBFunc} (h : Ends (takeEntry i function timeout) s u s') :
    ∃ old, s.books.slot? i = some old ∧
      s'.books = (s.books.setTimeout i old timeout).take i
        (old.taken function (timeNowInterval s.clock + timeout) s.registrations) s.heap := by
  unfold takeEntry at h
  rw [ends_bind_view] at h
  obtain ⟨_, t₁, hraise, h₁⟩ := ends_bind.1 h
  have hmark : t₁.books =
      { s.books with mark := if s.books.mark < i then i else s.books.mark } := by
    obtain ⟨hc, hraise⟩ | ⟨hc, rfl⟩ := ends_only.1 hraise
    · obtain rfl := ends_update.1 hraise
      have hlt : s.books.mark < i := hc
      rw [if_pos hlt]
      rfl
    · have hlt : ¬ t₁.books.mark < i := hc
      rw [if_neg hlt]
  obtain ⟨_, t₂, hset, h₂⟩ := ends_bind.1 h₁
  obtain ⟨old, hold, hbooks⟩ := books_internalSetTimeout hset
  rw [hmark] at hold hbooks
  obtain ⟨entry, hentry, h₃⟩ := ends_bind_entryAt.1 h₂
  have hread : t₂.books.slot? i = some entry := hentry
  rw [hbooks] at hread
  obtain rfl := Option.some.inj ((Books.slot?_put hold).symm.trans hread)
  rw [ends_bind_view] at h₃
  obtain ⟨_, t₃, hput, h₄⟩ := ends_bind.1 h₃
  obtain ⟨_, t₄, hcount, h₅⟩ := ends_bind.1 h₄
  have hregistrations : t₂.registrations = s.registrations := congrArg Books.registrations hbooks
  refine ⟨old, hold, ?_⟩
  rw [congrArg Machine.books (ends_update.1 h₅)]
  change { t₄.books with registrations := t₄.books.registrations + 1 } = _
  rw [books_count hcount, books_put hput, hregistrations, hbooks]
  rfl

/-- The entry with other arguments. -/
def DispatchEntry.WithArg (entry new : DispatchEntry) : Prop :=
  ∃ argSize arg, new = { entry with argSize := argSize, arg := arg }

variable {args : Option DispatchArg}

theorem books_copyArg {entry : DispatchEntry} {memory : Bool} {status : Status}
    (hentry : s.books.slot? i = some entry) (hinUse : entry.inUse = true)
    (h : Ends (copyArg i args memory) s status s') :
    ∃ new, entry.WithArg new ∧
      ((status = .ok ∧ ∃ heap, Stored new s.heap heap ∧
          s'.books = { s.books.put i new with heap := heap }) ∨
        (status ≠ .ok ∧ new.block = none ∧ s'.books = (s.books.put i new).free i new)) := by
  unfold copyArg at h
  obtain ⟨entry', hentry', h₀⟩ := ends_bind_entryAt.1 h
  obtain rfl := Option.some.inj (hentry.symm.trans hentry')
  cases args with
  | none =>
      obtain ⟨_, t₁, hput, h₁⟩ := ends_bind.1 h₀
      obtain ⟨rfl, rfl⟩ := ends_pure.1 h₁
      refine ⟨_, ⟨0, entry.arg, rfl⟩, .inl ⟨rfl, s.heap, .inl ⟨?_, rfl⟩, books_put hput⟩⟩
      exact if_neg fun hc => absurd hc.2 (by decide : ¬ maxInlineArgSize < 0)
  | some args =>
      obtain ⟨hsize, h₁⟩ | ⟨hsize, h₁⟩ := ends_branch.1 h₀
      · obtain ⟨_, t₁, hput, h₂⟩ := ends_bind.1 h₁
        obtain ⟨rfl, rfl⟩ := ends_pure.1 h₂
        refine ⟨_, ⟨_, _, rfl⟩, .inl ⟨rfl, s.heap, .inl ⟨?_, rfl⟩, books_put hput⟩⟩
        exact if_neg fun hc => absurd hc.2 (UInt16.not_lt.2 hsize)
      · obtain ⟨-, h₂⟩ | ⟨-, h₂⟩ := ends_branch.1 h₁
        · rw [ends_bind_view, ends_bind_update] at h₂
          obtain ⟨_, t₁, hput, h₃⟩ := ends_bind.1 h₂
          obtain ⟨rfl, rfl⟩ := ends_pure.1 h₃
          refine ⟨_, ⟨_, _, rfl⟩, .inl ⟨rfl, _, .inr ⟨?_, args.data, rfl⟩, books_put hput⟩⟩
          exact if_pos ⟨hinUse, UInt16.not_le.1 hsize⟩
        · obtain ⟨_, t₁, hput, h₃⟩ := ends_bind.1 h₂
          obtain ⟨_, t₂, hfree, h₄⟩ := ends_bind.1 h₃
          obtain ⟨rfl, rfl⟩ := ends_pure.1 h₄
          obtain ⟨freed, hfreed, hbooks⟩ := books_freeCBEntry hfree
          rw [books_put hput] at hfreed hbooks
          obtain rfl := Option.some.inj ((Books.slot?_put hentry).symm.trans hfreed)
          refine ⟨_, ⟨_, _, rfl⟩, .inr ⟨by decide, ?_, hbooks⟩⟩
          exact ite_self none

theorem firstFree_eq_some (h : s.firstFree = some i) :
    ∃ old, s.books.slot? i = some old ∧ old.inUse = false := by
  have hfound := find?_some h
  obtain ⟨old, hold, hfree⟩ := (Option.any_eq_true _ _).1 hfound
  exact ⟨old, hold, Bool.not_eq_true' _ ▸ hfree⟩

/-- Once the entry is found, it is prepared and taken, and then announced or freed again. -/
theorem changes_register {old : DispatchEntry} {function : CBFunc} {memory : Bool} {status : Status}
    {t : Machine} (hold : s.books.slot? i = some old) (hfree : old.inUse = false)
    (hmax : timeout ≤ maxInterval) (htake : Ends (takeEntry i function timeout) s u t) (h : Ends (do
        let status ← copyArg i args memory
        let clock ← view Machine.clock
        let entry ← entryAt i
        only (status = .ok) (record
          (.registered entry.registration (cbHandle i entry.salt) timeout clock))
        pure status) t status s') : Changes s s' := by
  obtain ⟨old', hold', hbooks⟩ := books_takeEntry htake
  obtain rfl := Option.some.inj (hold.symm.trans hold')
  have hprepare : Change s.books (s.books.setTimeout i old timeout) := .prepare timeout hold hfree
  have hprepared := @Books.slot?_setTimeout _ _ _ timeout hold
  have htaken : t.books.slot? i = some (old.taken function
      (timeNowInterval s.clock + timeout) s.registrations) := by
    rw [hbooks]
    exact Books.slot?_take hprepared
  obtain ⟨status', t₁, hcopy, h₁⟩ := ends_bind.1 h
  rw [ends_bind_view] at h₁
  obtain ⟨entry, hentry, h₂⟩ := ends_bind_entryAt.1 h₁
  obtain ⟨_, t₂, hrecord, h₃⟩ := ends_bind.1 h₂
  obtain ⟨rfl, rfl⟩ := ends_pure.1 h₃
  obtain ⟨new, hnew, hcopied⟩ := books_copyArg htaken rfl hcopy
  have hread : t₁.books.slot? i = some entry := hentry
  have hheap : t.heap = s.heap := congrArg Books.heap hbooks
  rw [hbooks, hheap] at hcopied
  have hfresh {heap : Heap} (hstored : Stored new s.heap heap) :
      Fresh (s.books.setTimeout i old timeout) new heap := by
    obtain ⟨argSize, arg, rfl⟩ := hnew
    exact ⟨rfl, rfl, rfl, hstored⟩
  obtain ⟨rfl, heap, hstored, ht₁⟩ | ⟨hfailed, hblock, ht₁⟩ := hcopied
  · obtain ⟨-, hrecord⟩ | ⟨hno, -⟩ := ends_only.1 hrecord
    · rw [Books.take_put] at ht₁
      rw [ht₁, Books.slot?_take hprepared] at hread
      obtain rfl := Option.some.inj hread
      have htimeout : new.timeout = timeNowInterval s.clock + timeout := by
        obtain ⟨argSize, arg, rfl⟩ := hnew
        rfl
      have hannounce := Change.announce (cbHandle i new.salt)
        (@Books.slot?_take _ _ _ _ heap hprepared) (hfresh hstored).state htimeout hmax
      have hs' := books_record hrecord
      have hclock : t₁.clock = s.clock := congrArg Books.clock ht₁
      rw [ht₁, hclock] at hs'
      unfold Changes
      rw [hs']
      exact ((Relation.ReflTransGen.single hprepare).tail
        (.take hprepared hfree (hfresh hstored))).tail hannounce
    · exact absurd rfl hno
  · obtain ⟨hok, -⟩ | ⟨-, rfl⟩ := ends_only.1 hrecord
    · exact absurd hok hfailed
    · rw [Books.put_take] at ht₁
      unfold Changes
      rw [ht₁]
      exact ((Relation.ReflTransGen.single hprepare).tail
        (.take hprepared hfree (hfresh (.inl ⟨hblock, rfl⟩)))).tail
          (.free (Books.slot?_take hprepared))

theorem changes_registerTimedFunc {function : Option CBFunc} {memory : Bool} :
    Within Changes (registerTimedFunc function args timeout memory) := by
  intro s status s' h
  unfold registerTimedFunc at h
  rw [ends_bind_view] at h
  replace h := ends_bind_oiAssert (ends_bind_oiAssert (ends_bind_oiAssert h))
  cases function with
  | none =>
      obtain ⟨-, rfl⟩ := ends_pure.1 h
      exact .refl
  | some function =>
      obtain ⟨-, h₁⟩ | ⟨hc, h₁⟩ := ends_branch.1 h
      · obtain ⟨-, rfl⟩ := ends_pure.1 h₁
        exact .refl
      · obtain ⟨_, t₁, himmediate, h₂⟩ := ends_bind.1 h₁
        have hsame : t₁.books = s.books := by
          refine (?_ : Within (Same Machine.books) _) _ _ _ himmediate
          exact .only (within_same_modify fun _ => rfl)
        rw [ends_bind_view] at h₂
        replace h₂ := ends_bind_oiAssert h₂
        refine trans_of Changes (Changes.of_eq hsame) ?_
        cases hfree : t₁.firstFree with
        | none =>
            rw [hfree] at h₂
            obtain ⟨-, rfl⟩ := ends_pure.1 h₂
            exact .refl
        | some i =>
            rw [hfree] at h₂
            obtain ⟨old, hold, hinUse⟩ := firstFree_eq_some hfree
            obtain ⟨_, t₂, htake, h₃⟩ := ends_bind.1 h₂
            have hmax : timeout ≤ maxInterval := UInt16.not_lt.1 fun hlt => hc (.inl hlt)
            exact changes_register hold hinUse hmax htake h₃

end Register

/-! ## The operations on a handle -/

section Handles

variable {s s' : Machine} {h : CBHandle} {i : Nat} {entry : DispatchEntry}

theorem ends_isValidHandle {valid : Bool} (hm : Ends (isValidHandle h) s valid s') :
    s' = s ∧ (valid = true → ∃ entry, s.slot? (cbIndex h) = some entry ∧ entry.Valid ∧
      cbSalt entry.salt.toUInt32 = cbSalt h) := by
  unfold isValidHandle at hm
  rw [ends_bind_view] at hm
  obtain ⟨-, hm₁⟩ | ⟨-, hm₁⟩ := ends_branch.1 (ends_bind_oiAssert hm)
  · obtain ⟨rfl, rfl⟩ := ends_pure.1 hm₁
    exact ⟨rfl, nofun⟩
  · obtain ⟨entry, hentry, hm₂⟩ := ends_bind_entryAt.1 hm₁
    obtain ⟨rfl, rfl⟩ := ends_pure.1 hm₂
    refine ⟨rfl, fun hvalid => ⟨entry, hentry, ?_⟩⟩
    rw [Bool.and_eq_true, Bool.and_eq_true] at hvalid
    obtain ⟨⟨hfree, hrunning⟩, hsalt⟩ := hvalid
    exact ⟨⟨of_decide_eq_true hfree, of_decide_eq_true hrunning⟩, of_decide_eq_true hsalt⟩

/-- An operation on a handle does what it does with a valid handle, or nothing. -/
theorem changes_valid {m : Run Status}
    (hm : ∀ s status s' entry, s.slot? (cbIndex h) = some entry → entry.Valid →
      Ends m s status s' → Changes s s') :
    Within Changes (do
      let valid ← isValidHandle h
      branch (valid = true) m (pure invalidCBHandle)) := by
  intro s status s' hrun
  obtain ⟨valid, t, hvalid, hrun₁⟩ := ends_bind.1 hrun
  obtain ⟨ht, hentry⟩ := ends_isValidHandle hvalid
  rw [ht] at hrun₁
  obtain ⟨hc, hrun₂⟩ | ⟨-, hrun₂⟩ := ends_branch.1 hrun₁
  · obtain ⟨entry, hentry, hvalid, -⟩ := hentry hc
    exact hm s status s' entry hentry hvalid hrun₂
  · obtain ⟨-, rfl⟩ := ends_pure.1 hrun₂
    exact .refl

theorem changes_setFuncTimeout {timeout : OIInterval} :
    Within Changes (setFuncTimeout h timeout) := by
  refine changes_valid fun s status s' entry hentry hvalid hm => ?_
  obtain ⟨hmax, hm₁⟩ | ⟨-, hm₁⟩ := ends_branch.1 (ends_bind_oiAssert hm)
  · obtain ⟨entry', hentry', hm₂⟩ := ends_bind_entryAt.1 hm₁
    obtain rfl := Option.some.inj (hentry.symm.trans hentry')
    rw [ends_bind_view] at hm₂
    obtain ⟨_, t₁, hset, hm₃⟩ := ends_bind.1 hm₂
    obtain ⟨_, hrecord, -⟩ := ends_bind_return.1 hm₃
    obtain ⟨entry', hentry', hbooks⟩ := books_internalSetTimeout hset
    obtain rfl := Option.some.inj (hentry.symm.trans hentry')
    refine .of_change (.setTimeout hentry hvalid hmax) ?_
    rw [books_record hrecord, hbooks]
    rfl
  · obtain ⟨-, rfl⟩ := ends_pure.1 hm₁
    exact .refl

theorem changes_suspendFunc : Within Changes (suspendFunc h) := by
  refine changes_valid fun s status s' entry hentry hvalid hm => ?_
  obtain ⟨entry', hentry', hm₁⟩ := ends_bind_entryAt.1 hm
  obtain rfl := Option.some.inj (hentry.symm.trans hentry')
  obtain ⟨_, t₁, hsuspend, hm₂⟩ := ends_bind.1 hm₁
  obtain ⟨_, hrecord, -⟩ := ends_bind_return.1 hm₂
  have hs' := books_record hrecord
  obtain ⟨hstate, hsuspend⟩ | ⟨hstate, rfl⟩ := ends_only.1 hsuspend
  · obtain ⟨_, t₃, hput, hm₄⟩ := ends_bind.1 hsuspend
    rw [ends_bind_view] at hm₄
    have hcount := books_count (ends_bind_oiAssert hm₄)
    refine .of_change (.suspend hentry hstate) ?_
    rw [hs', hcount, books_put hput, Books.enter, DispatchEntry.active, hstate]
    rfl
  · refine .of_change (.suspendAgain hentry hvalid hstate) hs'

theorem changes_cancelFunc : Within Changes (cancelFunc h) := by
  refine changes_valid fun s status s' entry hentry hvalid hm => ?_
  obtain ⟨entry', hentry', hm₁⟩ := ends_bind_entryAt.1 hm
  obtain rfl := Option.some.inj (hentry.symm.trans hentry')
  obtain ⟨_, t₁, hfree, hm₂⟩ := ends_bind.1 hm₁
  obtain ⟨_, hrecord, -⟩ := ends_bind_return.1 hm₂
  obtain ⟨entry', hentry', hbooks⟩ := books_freeCBEntry hfree
  obtain rfl := Option.some.inj (hentry.symm.trans hentry')
  refine .of_change (.cancel hentry hvalid) ?_
  rw [books_record hrecord, hbooks]

theorem ends_argument {arg : Option (List UInt8)} (hm : Ends (argument entry) s arg s') :
    s' = s := by
  have hstays : Within (Same id) (argument entry) := by
    unfold argument
    refine Within.view.bind fun heap => Within.ite Within.pure (Within.ite ?_ ?_)
    · split
      · exact Within.pure
      · exact .fault
    · split
      · exact .fault
      · exact .fault
      · split
        · exact .fault
        · exact .pure
  exact hstays _ _ _ hm

theorem books_invoke {caller : Caller} {frame : Frame} {u : Unit}
    (hm : Ends (invoke i entry caller frame) s u s') :
    ∃ function arg, s'.books = (s.books.put i { entry with state := .funcRunning }).record
      (.invoked entry.registration function arg caller s.clock) := by
  obtain ⟨_, t₁, hput, hm₁⟩ := ends_bind.1 hm
  obtain ⟨arg, t₂, harg, hm₂⟩ := ends_bind.1 hm₁
  rw [ends_argument harg, ends_bind_view] at hm₂
  have hclock : t₁.clock = s.clock := congrArg Books.clock (books_put hput)
  cases hfunction : entry.cbFunc with
  | none =>
      rw [hfunction] at hm₂
      exact absurd hm₂ ends_fault
  | some function =>
      rw [hfunction] at hm₂
      obtain ⟨_, t₃, hrecord, hm₃⟩ := ends_bind.1 hm₂
      refine ⟨function, arg, ?_⟩
      rw [congrArg Machine.books (ends_update.1 hm₃)]
      change t₃.books = _
      rw [books_record hrecord, books_put hput, hclock, hfunction]

theorem changes_callFunc : Within Changes (callFunc h) := by
  refine changes_valid fun s status s' entry hentry hvalid hm => ?_
  obtain ⟨entry', hentry', hm₁⟩ := ends_bind_entryAt.1 hm
  obtain rfl := Option.some.inj (hentry.symm.trans hentry')
  obtain ⟨_, t₁, hleave, hm₂⟩ := ends_bind.1 hm₁
  obtain ⟨_, hinvoke, -⟩ := ends_bind_return.1 hm₂
  have ht₁ := books_leave hleave
  have hclock : t₁.clock = s.clock := congrArg Books.clock ht₁
  obtain ⟨function, arg, hs'⟩ := books_invoke hinvoke
  rw [ht₁, hclock, ← Books.enter_of_ne (by decide)] at hs'
  exact .of_change (.call hentry hvalid) hs'

end Handles

/-! ## Running -/

section Running

variable {s s' : Machine} {intervalNow : OIInterval} {calls i : Nat}

theorem within_same_endRun : Within (Same Machine.books) (endRun calls intervalNow) := by
  refine Within.view.bind fun d => (within_same_modify fun _ => rfl).bind fun _ => ?_
  refine (Within.only within_same_requestService).bind fun _ => ?_
  exact (within_same_modify fun _ => rfl).seq <|
    .only (within_same_modify fun _ => rfl)

theorem changes_secondPass {k : Nat} : Within Changes (secondPass calls intervalNow k i) := by
  induction k generalizing i with
  | zero => exact within_changes_same within_same_endRun
  | succ k ih =>
      intro s u s' h
      unfold secondPass at h
      rw [ends_bind_view] at h
      obtain ⟨-, h₁⟩ | ⟨-, h₁⟩ := ends_branch.1 h
      · obtain ⟨entry, hentry, h₂⟩ := ends_bind_entryAt.1 h₁
        obtain ⟨hstate, h₃⟩ | ⟨-, h₃⟩ := ends_branch.1 h₂
        · obtain ⟨function, arg, hs'⟩ := books_invoke h₃
          refine .of_change (@Change.run _ _ _ function arg hentry hstate) ?_
          rw [hs', Books.enter_of_ne (by decide), DispatchEntry.active, hstate]
          exact congrArg (fun b : Books => (b.put i _).record _) Books.count_zero.symm
        · exact ih _ _ _ h₃
      · exact within_changes_same within_same_endRun _ _ _ h₁

/-- A run that has begun knows the functions that are running. -/
structure Begun (s : Machine) (intervalNow : OIInterval) (running : List Nat) : Prop where
  log : ∃ before, s.log = before ++ [.runBegan running]
  clock : timeNowInterval s.clock = intervalNow
  running : ∀ i entry, s.slot? i = some entry → entry.state = .funcRunning →
    entry.registration ∈ running

theorem changes_firstPass {running : List Nat} {calls' : Nat} (k : Nat)
    (hbegun : Begun s intervalNow running)
    (h : Ends (firstPass intervalNow k i calls) s calls' s') : Changes s s' := by
  induction k generalizing s i calls with
  | zero =>
      obtain ⟨-, rfl⟩ := ends_pure.1 h
      exact .refl
  | succ k ih =>
      unfold firstPass at h
      rw [ends_bind_view] at h
      obtain ⟨-, h₁⟩ | ⟨-, h₁⟩ := ends_branch.1 h
      · obtain ⟨entry, hentry, h₂⟩ := ends_bind_entryAt.1 h₁
        obtain ⟨⟨hinUse, hstate, hdue⟩, h₃⟩ | ⟨-, h₃⟩ := ends_branch.1 h₂
        · obtain ⟨_, t₁, hleave, h₄⟩ := ends_bind.1 h₃
          obtain ⟨_, t₂, hput, h₅⟩ := ends_bind.1 h₄
          have ht₂ := books_put hput
          rw [books_leave hleave, ← Books.enter_of_ne (by decide)] at ht₂
          obtain ⟨before, hlog⟩ := hbegun.log
          rw [← hbegun.clock] at hdue
          refine IsTrans.trans (r := Changes) _ t₂ _ (.of_change
            (.mark hlog (hbegun.running i entry hentry) hentry hinUse hstate hdue) ht₂) (ih ?_ h₅)
          refine ⟨⟨before, (congrArg Books.log ht₂).trans hlog⟩,
            (congrArg timeNowInterval (congrArg Books.clock ht₂)).trans hbegun.clock, ?_⟩
          intro j entry' hentry' hstate'
          have hread : t₂.books.slot? j = some entry' := hentry'
          rw [ht₂] at hread
          by_cases hij : i = j
          · subst hij
            rw [Books.slot?_enter (b := s.books) hentry] at hread
            obtain rfl := Option.some.inj hread
            cases hstate'
          · exact hbegun.running j entry'
              ((Books.slot?_put_ne hij).symm.trans hread) hstate'
        · exact ih hbegun h₃
      · obtain ⟨-, rfl⟩ := ends_pure.1 h₁
        exact .refl

theorem mem_runningFuncs {entry : DispatchEntry} (hentry : s.slot? i = some entry)
    (hstate : entry.state = .funcRunning) :
    entry.registration ∈ s.dispatcher.runningFuncs := by
  obtain ⟨table, htable, hget⟩ := (Books.slot?_eq_some (b := s.books)).1 hentry
  have htable' : s.dispatcher.table = some table := htable
  unfold DispatchState.runningFuncs
  rw [htable', Option.getD_some]
  exact mem_map_of_mem (mem_filter.2
    ⟨mem_of_getElem? hget, decide_eq_true hstate⟩)

theorem changes_dispatchRun : Within Changes dispatchRun := by
  refine fun s u s' h => ?_
  unfold dispatchRun at h
  rw [ends_bind_view] at h
  obtain ⟨-, h₁⟩ | ⟨-, rfl⟩ := ends_only.1 h
  · replace h₁ := ends_bind_oiAssert h₁
    obtain ⟨_, t₁, hrunning, h₂⟩ := ends_bind.1 h₁
    have ht₁ : t₁.books = s.books := by
      obtain rfl := ends_update.1 hrunning
      rfl
    rw [ends_bind_view] at h₂
    obtain ⟨_, t₂, hrecord, h₃⟩ := ends_bind.1 h₂
    obtain ⟨calls, t₃, hfirst, h₄⟩ := ends_bind.1 h₃
    have ht₂ := books_record hrecord
    rw [ht₁] at ht₂
    have hbegun : Begun t₂ (timeNowInterval t₁.clock) s.dispatcher.runningFuncs := by
      refine ⟨⟨s.log, congrArg Books.log ht₂⟩, ?_, ?_⟩
      · have hclock₁ : t₁.clock = s.clock := congrArg Books.clock ht₁
        have hclock₂ : t₂.clock = s.clock := congrArg Books.clock ht₂
        rw [hclock₁, hclock₂]
      · intro i entry hentry hstate
        have hread : t₂.books.slot? i = some entry := hentry
        rw [ht₂] at hread
        exact mem_runningFuncs hread hstate
    have hbegin : Changes s t₂ := .of_change .begin ht₂
    have hfirst' := changes_firstPass _ hbegun hfirst
    refine trans_of Changes (trans_of Changes hbegin hfirst') ?_
    refine (?_ : Within Changes _) _ _ _ h₄
    exact .branch changes_secondPass (within_changes_same within_same_endRun)
  · exact .refl

theorem changes_immediateRun : Within Changes immediateRun :=
  Within.view.seq <| Within.only
    ((within_changes_same (within_same_modify fun _ => rfl)).seq changes_dispatchRun)

theorem changes_returns : Within Changes returns := by
  refine Within.view.bind fun frames => ?_
  cases frames with
  | nil => exact Within.pure
  | cons frame frames =>
      have hpop : Within Changes
          (update fun s : Machine => { s with frames := frames } : Run Unit) :=
        .update fun _ => Changes.of_eq rfl
      refine hpop.bind fun _ => ?_
      cases frame with
      | callFunc i => exact changes_freeCBEntry
      | run i calls intervalNow =>
          exact changes_freeCBEntry.seq <| Within.view.seq changes_secondPass

end Running

/-! ## The machine -/

theorem changes_wait {delay : Nat} :
    Within Changes (update fun s : Machine => { s with clock := s.clock + delay } : Run Unit) :=
  .update fun _ => .of_change (.wait delay) rfl

/-- Whatever the machine does, it does by changes to the books, unless it terminates. -/
theorem changes_step {input : Input} (h : input.operation ≠ .terminate) :
    Within Changes (step input) := by
  refine changes_wait.bind fun _ => ?_
  cases hoperation : input.operation with
  | registerTimedFunc function args timeout memory =>
      exact changes_registerTimedFunc.seq .pure
  | setFuncTimeout h timeout => exact changes_setFuncTimeout.seq .pure
  | suspendFunc h => exact changes_suspendFunc.seq .pure
  | cancelFunc h => exact changes_cancelFunc.seq .pure
  | callFunc h => exact changes_callFunc.seq .pure
  | run => exact changes_dispatchRun
  | immediateRun => exact changes_immediateRun
  | terminate => exact absurd hoperation h
  | returns => exact changes_returns

section Keeps

variable {I : Books → Prop}

/-- What every change and the loss of the table keep, every step keeps. -/
theorem stays_step (hI : ∀ {b b'}, Change b b' → I b → I b')
    (hdrop : ∀ {b : Books}, I b → I b.drop) (input : Input) :
    Within (Stays fun s : Machine => I s.books) (step input) := by
  by_cases hoperation : input.operation = .terminate
  · intro s u s' hm hs
    obtain ⟨_, t, hwait, hm₁⟩ := ends_bind.1 hm
    have ht := Changes.keeps hI (changes_wait _ _ _ hwait) hs
    rw [hoperation] at hm₁
    obtain rfl | ⟨t', hchanges, hbooks⟩ := changes_terminate hm₁
    · exact ht
    · change I s'.books
      rw [hbooks]
      exact hdrop (Changes.keeps hI hchanges ht)
  · exact (changes_step hoperation).mono fun _ _ hchanges => Changes.keeps hI hchanges

/-- So it holds in every state that a run reaches. -/
theorem reached_keeps (hI : ∀ {b b'}, Change b b' → I b → I b')
    (hdrop : ∀ {b : Books}, I b → I b.drop) {inputs : List Input} {s s' : Machine}
    (h : Ends (perform step inputs) s () s') (hs : I s.books) : I s'.books :=
  Within.perform (stays_step hI hdrop) inputs s () s' h hs

end Keeps

end Stack.Dispatch
