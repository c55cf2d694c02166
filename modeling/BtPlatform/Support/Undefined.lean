import Mathlib.Tactic.Common

/-!
# Undefined behaviour of C++

The outcomes for which the language gives no meaning, and the arithmetic of `int` that
can run into one of them.
-/

namespace Support

/-- Why a step has no meaning. -/
inductive Undefined where
  /-- an `int` leaves its range -/
  | signedOverflow
  /-- an iterator is used after its element was erased -/
  | erasedIterator
  /-- a null pointer is dereferenced -/
  | nullPointer
  /-- an element is taken from an empty container -/
  | emptyContainer
  /-- a variable is read before it was written -/
  | uninitialized
  deriving DecidableEq, Repr

def INT_MIN : Int := -2147483648

/-- `--i`. -/
def decrement (i : Int) : Except Undefined Int :=
  if i = INT_MIN then .error .signedOverflow else .ok (i - 1)

theorem decrement_ok {i : Int} (h : i ≠ INT_MIN) : decrement i = .ok (i - 1) := if_neg h

end Support
