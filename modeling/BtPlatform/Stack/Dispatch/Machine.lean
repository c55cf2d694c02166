import BtPlatform.Program.Prog
import BtPlatform.Support.Status
import Mathlib.Algebra.Group.Nat.Defs
import Mathlib.Tactic.Common

/-!
# The dispatcher

`oi_dispatch.c`: functions are registered in a table and called by `OI_Dispatch_Run` when their
time has come, or by `OI_Dispatch_CallFunc`. A function that is called can use the dispatcher in
its turn. So a call is a frame that stays until the function returns, and the operations that
come in between are those of the function.
-/

namespace Stack.Dispatch

open Support Program Program.Prog List

/-! ## The data -/

/-- `_ENTRY_STATE`. -/
inductive EntryState
  | freeSlot
  | funcRunning
  | funcActive
  | funcRunnable
  | funcSuspended
  deriving DecidableEq, Repr

/-- `OI_INTERVAL`, in tenths of a second. -/
abbrev OIInterval := UInt16

/-- `OI_MAX_INTERVAL`. -/
def maxInterval : OIInterval := 0x7fff

/-- `MAX_INLINE_ARG_SIZE`. -/
def maxInlineArgSize : UInt16 := 8

/-- `DISPATCH_CB_FUNC`; a pointer that is `NULL` is `none`. -/
abbrev CBFunc := Nat

/-- `DISPATCH_CB_HANDLE`. -/
abbrev CBHandle := UInt32

/-- `DISPATCH_ARG`. The size is an `OI_INT16`. -/
structure DispatchArg where
  data : List UInt8
  size_lt : data.length < 2 ^ 15

/-- The union `arg` of an entry; a block is known by a number. -/
inductive EntryArg
  | inlineArg (bytes : List UInt8)
  | mallocArg (block : Option Nat)
  deriving DecidableEq, Repr

/-- `DISPATCH_ENTRY`. That the registrations are numbered is not in the source. -/
structure DispatchEntry where
  state : EntryState
  timeout : OIInterval
  salt : UInt16
  argSize : UInt16
  cbFunc : Option CBFunc
  arg : EntryArg
  registration : Nat
  deriving DecidableEq, Repr

/-- An entry of a table that has just been allocated. -/
def DispatchEntry.zero : DispatchEntry := ⟨.freeSlot, 0, 0, 0, none, .inlineArg [], 0⟩

/-- `ENTRY_IN_USE`. -/
def DispatchEntry.inUse (entry : DispatchEntry) : Bool := entry.cbFunc.isSome

/-- The block that holds the arguments of a function. -/
def DispatchEntry.block (entry : DispatchEntry) : Option Nat :=
  if entry.inUse ∧ maxInlineArgSize < entry.argSize then
    match entry.arg with
    | .mallocArg block => block
    | .inlineArg _ => none
  else none

/-- `DISPATCH_STATE`. Of `serviceCallback` there is only whether it is set. -/
structure DispatchState where
  running : Bool
  immediateDispatch : Bool
  maxUsedEntry : Int
  numActiveEntries : Int
  tableSize : Nat
  nextTimeout : OIInterval
  table : Option (List DispatchEntry)
  serviceCallback : Bool

/-- The blocks that are allocated, with their contents, and those that have been freed. -/
structure Heap where
  blocks : List (Nat × List UInt8)
  next : Nat
  freed : List Nat

/-- `OI_Malloc` of a block that is then filled. -/
def Heap.malloc (heap : Heap) (bytes : List UInt8) : Heap :=
  { heap with blocks := (heap.next, bytes) :: heap.blocks, next := heap.next + 1 }

/-- `OI_Free`. -/
def Heap.free (heap : Heap) (block : Nat) : Heap :=
  { heap with
    blocks := heap.blocks.eraseP fun b => b.1 = block
    freed := block :: heap.freed }

/-- Which function of the dispatcher calls a function. -/
inductive Caller
  | run
  | callFunc
  deriving DecidableEq, Repr

/-- A function that has been called and has not returned: what its caller does next. The loop of
`OI_Dispatch_Run` has come to the entry `i`, in a run that began with `calls` runnable functions
at `intervalNow`. -/
inductive Frame
  | callFunc (i : Nat)
  | run (i calls : Nat) (intervalNow : OIInterval)
  deriving DecidableEq, Repr

/-- What happens to a registration. `late` tells that the function was runnable already, and a
run begins with the functions that are running. -/
inductive Event
  | registered (registration : Nat) (handle : CBHandle) (timeout : OIInterval) (clock : Nat)
  | cancelled (registration : Nat)
  | suspended (registration : Nat) (late : Bool)
  | timeoutSet (registration : Nat) (timeout : OIInterval) (late : Bool) (clock : Nat)
  | runBegan (running : List Nat)
  | invoked (registration : Nat) (function : CBFunc) (arg : Option (List UInt8))
      (caller : Caller) (clock : Nat)
  deriving DecidableEq, Repr

/-- The dispatcher with its surroundings: whether it is compiled with `OI_DEBUG`, the heap, the
clock of `OI_Time_Now` in milliseconds, the calls that have not returned, the number of
registrations, what `serviceCallback` was asked for, and what has happened. -/
structure Machine where
  debug : Bool
  dispatcher : DispatchState
  heap : Heap
  clock : Nat
  frames : List Frame
  registrations : Nat
  requests : List Nat
  log : List Event

abbrev Run := Prog Machine Fault

/-- What `OI_Dispatch_Init` leaves. The indexes and counts of the dispatcher are `OI_INT16`. -/
def init (debug serviceCallback : Bool) (tableSize : Fin (2 ^ 15)) (clock : Nat) : Machine where
  debug := debug
  dispatcher := ⟨false, false, -1, 0, tableSize, 0,
    some (replicate tableSize DispatchEntry.zero), serviceCallback⟩
  heap := ⟨[], 0, []⟩
  clock := clock
  frames := []
  registrations := 0
  requests := []
  log := []

/-! ## Access -/

/-- An entry of the table. -/
def Machine.slot? (s : Machine) (i : Nat) : Option DispatchEntry :=
  s.dispatcher.table.bind fun table => table[i]?

/-- `OI_ASSERT`, which is there with `OI_DEBUG` only. -/
def oiAssert (c : Prop) [Decidable c] : Run Unit := do
  let debug ← view Machine.debug
  only (debug = true ∧ ¬ c) (fault .assertion)

/-- `Dispatcher.Table[i]`. -/
def entryAt (i : Nat) : Run DispatchEntry := do
  let table ← view fun s => s.dispatcher.table
  match table with
  | none => fault .nullDeref
  | some table =>
      match table[i]? with
      | none => fault .outOfBounds
      | some entry => pure entry

/-- Change the dispatcher. -/
def modify (f : DispatchState → DispatchState) : Run Unit :=
  update fun s => { s with dispatcher := f s.dispatcher }

/-- Assign to `Dispatcher.Table[i]`. -/
def putEntry (i : Nat) (entry : DispatchEntry) : Run Unit :=
  modify fun d => { d with table := d.table.map fun table => table.set i entry }

/-- Add to `Dispatcher.numActiveEntries`. -/
def countActive (k : Int) : Run Unit :=
  modify fun d => { d with numActiveEntries := d.numActiveEntries + k }

/-- Add to the history. -/
def record (event : Event) : Run Unit := update fun s => { s with log := s.log ++ [event] }

/-! ## Time -/

/-- The tenths of a second that the dispatcher counts: `OI_SECONDS` of the seconds and
`OI_MSECONDS` of the milliseconds, of which the latter rounds up. -/
def intervals (clock : Nat) : Nat := clock / 1000 * 10 + (clock % 1000 + 100 - 1) / 100

/-- `Dispatch_timeNowInterval`. -/
def timeNowInterval (clock : Nat) : OIInterval :=
  UInt16.ofNat (clock / 1000 * 10) + UInt16.ofNat ((clock % 1000 + 100 - 1) / 100)

/-- The cast to `OI_INT16`. -/
def signed (t : OIInterval) : Int := t.toBitVec.toInt

/-- The time of an entry has come. -/
def DispatchEntry.due (entry : DispatchEntry) (intervalNow : OIInterval) : Bool :=
  signed (entry.timeout - intervalNow) ≤ 0

/-- `Dispatch_RequestService`. -/
def requestService (timeout : OIInterval) : Run Unit := do
  let d ← view Machine.dispatcher
  only (d.serviceCallback = true)
    (update fun s => { s with requests := timeout.toNat * 100 :: s.requests })

/-! ## Handles -/

/-- `CB_INDEX`. -/
def cbIndex (h : CBHandle) : Nat := (h >>> 16).toUInt16.toNat

/-- `CB_SALT`. -/
def cbSalt (h : UInt32) : UInt32 := h &&& 0xFFFF

/-- `CB_HANDLE`. -/
def cbHandle (i : Nat) (salt : UInt16) : CBHandle :=
  (UInt32.ofNat i <<< 16) ||| cbSalt salt.toUInt32

/-- `OI_Dispatch_IsValidHandle`. -/
def isValidHandle (h : CBHandle) : Run Bool := do
  let d ← view Machine.dispatcher
  oiAssert (d.table.isSome = true)
  branch (d.tableSize ≤ cbIndex h) (pure false) do
    let entry ← entryAt (cbIndex h)
    pure (entry.state ≠ .freeSlot && entry.state ≠ .funcRunning &&
      cbSalt entry.salt.toUInt32 = cbSalt h)

/-- `OI_DISPATCH_INVALID_CB_HANDLE`. -/
def invalidCBHandle : Status := .other 1001

/-- `OI_DISPATCH_TABLE_OVERFLOW`. -/
def tableOverflow : Status := .other 1002

/-! ## Freeing an entry -/

/-- Where the high-water mark comes to rest from below `n`. -/
def highWater (table : List DispatchEntry) : Nat → Int
  | 0 => -1
  | n + 1 => if table[n]?.any DispatchEntry.inUse then n else highWater table n

/-- The loop that lowers `MaxUsedEntry`. -/
def lowerMark : Run Unit :=
  modify fun d =>
    { d with maxUsedEntry := highWater (d.table.getD []) (d.maxUsedEntry + 1).toNat }

/-- `OI_Free` of the arguments. -/
def freeArg : EntryArg → Run Unit
  | .mallocArg (some block) => update fun s => { s with heap := s.heap.free block }
  | _ => pure ()

def freeCBEntry (i : Nat) : Run Unit := do
  let entry ← entryAt i
  only (entry.inUse = true ∧ maxInlineArgSize < entry.argSize) (freeArg entry.arg)
  let d ← view Machine.dispatcher
  oiAssert (0 ≤ d.numActiveEntries)
  only (entry.state = .funcActive) (countActive (-1))
  putEntry i { entry with cbFunc := none, state := .freeSlot }
  let d ← view Machine.dispatcher
  only (i = d.maxUsedEntry) lowerMark

/-- The loop of `OI_Dispatch_Terminate`, from `i`. -/
def freeBelow : Nat → Nat → Run Unit
  | 0, _ => pure ()
  | k + 1, i => do
      let d ← view Machine.dispatcher
      only (i < d.maxUsedEntry) do
        freeCBEntry i
        freeBelow k (i + 1)

/-- `OI_Dispatch_Terminate`. -/
def terminate : Run Unit := do
  let d ← view Machine.dispatcher
  only (d.table.isSome = true) do
    freeBelow d.maxUsedEntry.toNat 0
    modify fun d => { d with table := none }

/-! ## Registering -/

def internalSetTimeout (i : Nat) (timeout : OIInterval) : Run Unit := do
  let clock ← view Machine.clock
  let d ← view Machine.dispatcher
  let entry ← entryAt i
  let intervalNow := timeNowInterval clock
  let entry := { entry with timeout := intervalNow + timeout }
  putEntry i entry
  only (d.numActiveEntries = 0 ∨ timeout.toNat ≤ signed (d.nextTimeout - intervalNow)) do
    modify fun d => { d with nextTimeout := entry.timeout }
    requestService timeout
  only (entry.state = .funcSuspended) do
    putEntry i { entry with state := .funcActive }
    countActive 1

/-- The salt of the next handle of an entry, which is never 0. -/
def nextSalt (salt : UInt16) : UInt16 := if salt + 1 = 0 then 1 else salt + 1

/-- The first entry that is not in use. -/
def Machine.firstFree (s : Machine) : Option Nat :=
  (range s.dispatcher.tableSize).find? fun i => (s.slot? i).any fun entry => !entry.inUse

/-- The loop of `OI_Dispatch_RegisterTimedFunc` at the entry that it takes. -/
def takeEntry (i : Nat) (function : CBFunc) (timeout : OIInterval) : Run Unit := do
  let d ← view Machine.dispatcher
  only (d.maxUsedEntry < i) (modify fun d => { d with maxUsedEntry := i })
  internalSetTimeout i timeout
  let entry ← entryAt i
  let registration ← view Machine.registrations
  putEntry i
    { entry with
      state := .funcActive
      cbFunc := some function
      salt := nextSalt entry.salt
      registration := registration }
  countActive 1
  update fun s => { s with registrations := s.registrations + 1 }

/-- The copy of the arguments; `memory` tells whether `OI_Malloc` has a block. -/
def copyArg (i : Nat) (args : Option DispatchArg) (memory : Bool) : Run Status := do
  let entry ← entryAt i
  match args with
  | none => do
      putEntry i { entry with argSize := 0 }
      pure .ok
  | some args =>
      let size := UInt16.ofNat args.data.length
      branch (size ≤ maxInlineArgSize)
        (do
          putEntry i { entry with arg := .inlineArg args.data, argSize := size }
          pure .ok)
        (branch (memory = true)
          (do
            let heap ← view Machine.heap
            update fun s => { s with heap := s.heap.malloc args.data }
            putEntry i { entry with arg := .mallocArg (some heap.next), argSize := size }
            pure .ok)
          (do
            putEntry i { entry with arg := .mallocArg none }
            freeCBEntry i
            pure .outOfMemory))

/-- `OI_Dispatch_RegisterTimedFunc`; with a timeout of 0 it is `OI_Dispatch_RegisterFunc`. -/
def registerTimedFunc (function : Option CBFunc) (args : Option DispatchArg)
    (timeout : OIInterval) (memory : Bool) : Run Status := do
  let d ← view Machine.dispatcher
  oiAssert (d.table.isSome = true)
  oiAssert (function.isSome = true)
  oiAssert (timeout ≤ maxInterval)
  match function with
  | none => pure .invalidParameters
  | some function =>
      branch (maxInterval < timeout ∨ d.table.isSome = false) (pure .invalidParameters) do
        only (timeout = 0) (modify fun d => { d with immediateDispatch := true })
        let free ← view Machine.firstFree
        oiAssert (free.isSome = true)
        match free with
        | none => pure tableOverflow
        | some i => do
            takeEntry i function timeout
            let status ← copyArg i args memory
            let clock ← view Machine.clock
            let entry ← entryAt i
            only (status = .ok) (record
              (.registered entry.registration (cbHandle i entry.salt) timeout clock))
            pure status

/-! ## The operations on a handle -/

/-- `OI_Dispatch_SetFuncTimeout`. -/
def setFuncTimeout (h : CBHandle) (timeout : OIInterval) : Run Status := do
  let valid ← isValidHandle h
  branch (valid = true)
    (do
      oiAssert (timeout ≤ maxInterval)
      branch (timeout ≤ maxInterval)
        (do
          let entry ← entryAt (cbIndex h)
          let clock ← view Machine.clock
          internalSetTimeout (cbIndex h) timeout
          record (.timeoutSet entry.registration timeout (entry.state = .funcRunnable) clock)
          pure .ok)
        (pure .invalidParameters))
    (pure invalidCBHandle)

/-- `OI_Dispatch_SuspendFunc`. -/
def suspendFunc (h : CBHandle) : Run Status := do
  let valid ← isValidHandle h
  branch (valid = true)
    (do
      let entry ← entryAt (cbIndex h)
      only (entry.state = .funcActive) do
        putEntry (cbIndex h) { entry with state := .funcSuspended }
        let d ← view Machine.dispatcher
        oiAssert (0 < d.numActiveEntries)
        countActive (-1)
      record (.suspended entry.registration (entry.state = .funcRunnable))
      pure .ok)
    (pure invalidCBHandle)

/-- `OI_Dispatch_CancelFunc`. -/
def cancelFunc (h : CBHandle) : Run Status := do
  let valid ← isValidHandle h
  branch (valid = true)
    (do
      let entry ← entryAt (cbIndex h)
      freeCBEntry (cbIndex h)
      record (.cancelled entry.registration)
      pure .ok)
    (pure invalidCBHandle)

/-! ## Calling a function -/

/-- The arguments that a function is called with. -/
def argument (entry : DispatchEntry) : Run (Option (List UInt8)) := do
  let heap ← view Machine.heap
  if entry.argSize = 0 then pure none
  else if entry.argSize ≤ maxInlineArgSize then
    match entry.arg with
    | .inlineArg bytes => pure (some bytes)
    | .mallocArg _ => fault .outOfBounds
  else
    match entry.arg with
    | .inlineArg _ => fault .outOfBounds
    | .mallocArg none => fault .nullDeref
    | .mallocArg (some block) =>
        match heap.blocks.lookup block with
        | none => fault .useAfterFree
        | some bytes => pure (some bytes)

/-- Call the function of an entry, which is running from now on. -/
def invoke (i : Nat) (entry : DispatchEntry) (caller : Caller) (frame : Frame) : Run Unit := do
  putEntry i { entry with state := .funcRunning }
  let arg ← argument entry
  let clock ← view Machine.clock
  match entry.cbFunc with
  | none => fault .nullDeref
  | some function => do
      record (.invoked entry.registration function arg caller clock)
      update fun s => { s with frames := frame :: s.frames }

/-- `OI_Dispatch_CallFunc`, until the function returns. -/
def callFunc (h : CBHandle) : Run Status := do
  let valid ← isValidHandle h
  branch (valid = true)
    (do
      let entry ← entryAt (cbIndex h)
      only (entry.state = .funcActive) (countActive (-1))
      invoke (cbIndex h) entry .callFunc (.callFunc (cbIndex h))
      pure .ok)
    (pure invalidCBHandle)

/-! ## Running -/

/-- The first pass of `OI_Dispatch_Run`, from `i`: count the functions whose time has come, which
are runnable from now on. -/
def firstPass (intervalNow : OIInterval) : Nat → Nat → Nat → Run Nat
  | 0, _, calls => pure calls
  | k + 1, i, calls => do
      let d ← view Machine.dispatcher
      branch (i ≤ d.maxUsedEntry)
        (do
          let entry ← entryAt i
          branch (entry.inUse = true ∧ entry.state ≠ .funcSuspended ∧
              entry.due intervalNow = true)
            (do
              only (entry.state = .funcActive) (countActive (-1))
              putEntry i { entry with state := .funcRunnable }
              firstPass intervalNow k (i + 1) (calls + 1))
            (firstPass intervalNow k (i + 1) calls))
        (pure calls)

/-- The smallest timeout that is pending, with the time it stands for. -/
def smallestTimeout (d : DispatchState) (intervalNow : OIInterval) : OIInterval × OIInterval :=
  let entries := (d.table.getD []).take (d.maxUsedEntry + 1).toNat
  (entries.filter fun entry => entry.inUse && entry.state ≠ .funcSuspended).foldl
    (fun smallest entry =>
      let timeout := entry.timeout - intervalNow
      if timeout < smallest.1 then (timeout, entry.timeout) else smallest)
    (0xFFFF, d.nextTimeout)

/-- The end of `OI_Dispatch_Run`. -/
def endRun (calls : Nat) (intervalNow : OIInterval) : Run Unit := do
  let d ← view Machine.dispatcher
  let smallest := smallestTimeout d intervalNow
  modify fun d => { d with nextTimeout := smallest.2 }
  only (smallest.1 < 0xFFFF) (requestService smallest.1)
  modify fun d => { d with running := false }
  only (calls = 0) (modify fun d => { d with immediateDispatch := false })

/-- The second pass of `OI_Dispatch_Run`, from `i` to the next function that is runnable. -/
def secondPass (calls : Nat) (intervalNow : OIInterval) : Nat → Nat → Run Unit
  | 0, _ => endRun calls intervalNow
  | k + 1, i => do
      let d ← view Machine.dispatcher
      branch (i ≤ d.maxUsedEntry)
        (do
          let entry ← entryAt i
          branch (entry.state = .funcRunnable)
            (invoke i entry .run (.run i calls intervalNow))
            (secondPass calls intervalNow k (i + 1)))
        (endRun calls intervalNow)

/-- The registrations of the functions that are running. -/
def DispatchState.runningFuncs (d : DispatchState) : List Nat :=
  ((d.table.getD []).filter fun entry => entry.state = .funcRunning).map
    DispatchEntry.registration

/-- `OI_Dispatch_Run`, until the first function is called. -/
def dispatchRun : Run Unit := do
  let d ← view Machine.dispatcher
  only (d.table.isSome = true) do
    oiAssert (d.running = false)
    modify fun d => { d with running := true }
    let clock ← view Machine.clock
    let intervalNow := timeNowInterval clock
    record (.runBegan d.runningFuncs)
    let calls ← firstPass intervalNow d.tableSize 0 0
    branch (calls ≠ 0) (secondPass calls intervalNow d.tableSize 0) (endRun calls intervalNow)

/-- One round of the loop of `OI_Dispatch_Immediate_Run`, which goes round again and again until
there is no immediate dispatch. -/
def immediateRun : Run Unit := do
  let d ← view Machine.dispatcher
  only (d.running = false ∧ d.immediateDispatch = true) do
    modify fun d => { d with immediateDispatch := false }
    dispatchRun

/-- The function that was called last returns. -/
def returns : Run Unit := do
  let frames ← view Machine.frames
  match frames with
  | [] => pure ()
  | frame :: frames => do
      update fun s => { s with frames := frames }
      match frame with
      | .callFunc i => freeCBEntry i
      | .run i calls intervalNow => do
          freeCBEntry i
          let d ← view Machine.dispatcher
          secondPass calls intervalNow d.tableSize (i + 1)

/-! ## The machine -/

/-- What the users of the dispatcher can do. -/
inductive Operation
  | registerTimedFunc (function : Option CBFunc) (args : Option DispatchArg)
      (timeout : OIInterval) (memory : Bool)
  | setFuncTimeout (h : CBHandle) (timeout : OIInterval)
  | suspendFunc (h : CBHandle)
  | cancelFunc (h : CBHandle)
  | callFunc (h : CBHandle)
  | run
  | immediateRun
  | terminate
  | returns

/-- An operation, and the time that passes before it. -/
structure Input where
  delay : Nat
  operation : Operation

/-- Carry out an operation. -/
def operate : Operation → Run Unit
  | .registerTimedFunc function args timeout memory => do
      let _ ← registerTimedFunc function args timeout memory
  | .setFuncTimeout h timeout => do
      let _ ← setFuncTimeout h timeout
  | .suspendFunc h => do
      let _ ← suspendFunc h
  | .cancelFunc h => do
      let _ ← cancelFunc h
  | .callFunc h => do
      let _ ← callFunc h
  | .run => dispatchRun
  | .immediateRun => immediateRun
  | .terminate => terminate
  | .returns => returns

/-- One step. -/
def step (input : Input) : Run Unit := do
  update fun s => { s with clock := s.clock + input.delay }
  operate input.operation

end Stack.Dispatch
