import Mathlib.Data.List.Basic

/-!
# The dispatcher

Functions that have been registered wait until the dispatcher calls them, or until a caller
that has kept the handle calls or cancels one. A handle is not used again.
-/

namespace Support

/-- The registered functions under their handles, and the next handle. -/
structure Dispatcher (τ : Type) where
  entries : List (Nat × τ)
  next : Nat
  deriving Repr

namespace Dispatcher

variable {τ : Type}

/-- Nothing is registered. -/
def empty : Dispatcher τ := ⟨[], 0⟩

/-- `OI_Dispatch_RegisterFunc`; `room` tells whether the table has a free entry. -/
def register (d : Dispatcher τ) (room : Bool) (task : τ) : Option Nat × Dispatcher τ :=
  if room then (some d.next, ⟨d.entries ++ [(d.next, task)], d.next + 1⟩) else (none, d)

/-- `OI_Dispatch_CancelFunc`, and what becomes of an entry that is called. -/
def remove (d : Dispatcher τ) (handle : Nat) : Dispatcher τ :=
  { d with entries := d.entries.filter fun e => e.1 ≠ handle }

/-- The function behind a handle, if the handle is valid. -/
def find (d : Dispatcher τ) (handle : Nat) : Option τ :=
  (d.entries.find? fun e => e.1 = handle).map Prod.snd

end Dispatcher

end Support
