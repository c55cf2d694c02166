import BtPlatform.Linked.Ring
import BtPlatform.Support.Status

/-!
# The event loop: registration and the passes over the list

`OI_EVENTLOOP_Register` and `OI_EVENTLOOP_Deregister` keep the items of the event loop in
a circular list. A pass of `eventThread` puts a marker at its end and takes one element
after the other from its front, puts it back at the end and calls a function of its item,
until it takes the marker. Between two turns of a pass the function that was called may
register and deregister. The descriptor sets are not modelled, nor what `select` does with
them, only what it returns.
-/

namespace EventLoop

open Linked
open Support (Status)

/-- The address of the links of an item, or of `callbackList`. -/
abbrev Ptr : Type := Nat

/-- A function pointer; `0` is `NULL`. -/
abbrev Callback : Type := Nat

def callbackList : Ptr := 0

/-- `EVENTLOOP_REGISTERED_ITEM`. The last two fields are ghosts: the number of the
registration, and the validate function that was passed to it. -/
structure Item where
  getDescriptors : Callback
  handleEvents : Callback
  validate : Callback
  id : Nat
  given : Callback
  deriving DecidableEq, Repr

/-- What goes wrong in a broken list. -/
inductive Fault
  /-- the list has no end -/
  | endless
  /-- there is no element where the marker should be -/
  | nullDeref
  | useAfterFree
  /-- the marker, which is on the stack, is freed -/
  | badFree
  deriving DecidableEq, Repr

/-- The function that a pass calls. -/
inductive Called
  | getDescriptors (callback : Callback)
  | handleEvents (callback : Callback)
  | validate (callback : Callback)
  deriving DecidableEq, Repr

/-- A call, with the number of the item's registration. -/
structure Call where
  id : Nat
  called : Called
  deriving DecidableEq, Repr

/-- The event loop. The last three fields are ghosts: how many items have been registered,
and of the last pass the items at its start and the calls it has made. -/
structure Loop where
  links : Links Ptr
  items : Ptr → Option Item
  /-- the marker of a pass, with what its `validate` happens to hold -/
  marker : Option (Ptr × Callback)
  /-- what is left of the result of `select`; `none` in the pass before it -/
  numSet : Option Int
  registered : Nat
  atStart : List Nat
  calls : List Call

/-- `OI_EVENTLOOP_Init`. -/
def Loop.init : Loop where
  links := ⟨fun p => p, fun p => p⟩
  items := fun _ => none
  marker := none
  numSet := none
  registered := 0
  atStart := []
  calls := []

/-! ## Lists -/

/-- `OI_List_Add`. -/
def listAdd (newElem list : Ptr) (l : Links Ptr) : Links Ptr := l.insert newElem list (l.next list)

/-- `OI_List_AddTail`. -/
def listAddTail (newElem list : Ptr) (l : Links Ptr) : Links Ptr :=
  l.insert newElem (l.prev list) list

/-- `OI_List_Del`. -/
def listDel (elem : Ptr) (l : Links Ptr) : Links Ptr :=
  if l.next (l.prev elem) ≠ elem ∨ l.prev (l.next elem) ≠ elem then l else l.unlink elem

/-- `OI_List_RemoveHead`. -/
def listRemoveHead (list : Ptr) (l : Links Ptr) : Option Ptr × Links Ptr :=
  if l.next list = list then (none, l) else (some (l.next list), listDel (l.next list) l)

namespace Loop

/-- `OI_LIST_FOREACH`: the elements of the list, the marker among them. -/
def foreach (s : Loop) : Option (List Ptr) :=
  s.links.walk callbackList (s.registered + 2) (s.links.next callbackList)

/-- The items in the order of the list. -/
def order (s : Loop) : List Item := (s.foreach.getD []).filterMap s.items

/-- The item of an element. The functions of the marker are `NULL`. -/
def entry (s : Loop) (p : Ptr) : Option Item :=
  match s.marker with
  | some (marker, stale) => if p = marker then some ⟨0, 0, stale, 0, stale⟩ else s.items p
  | none => s.items p

/-! ## Registration -/

/-- `OI_EVENTLOOP_Register`: `malloc` gives a block and what its `validate` happens to
hold. -/
def register (getDescriptors handleEvents validate : Callback) (frequentEvents : Bool)
    (malloc : Option (Ptr × Callback)) (s : Loop) : Status × Loop :=
  if getDescriptors = 0 ∨ handleEvents = 0 ∨ validate = 0 then (.invalidParameters, s)
  else
    match malloc with
    | none => (.outOfMemory, s)
    | some (newItem, stale) =>
        -- `validate` is not stored
        let item := ⟨getDescriptors, handleEvents, stale, s.registered, validate⟩
        (.ok, { s with
          links := if frequentEvents then listAdd newItem callbackList s.links
            else listAddTail newItem callbackList s.links
          items := Function.update s.items newItem (some item)
          registered := s.registered + 1 })

/-- The first element whose item has the three functions. -/
def search (s : Loop) (getDescriptors handleEvents validate : Callback) :
    List Ptr → Except Fault (Option Ptr)
  | [] => .ok none
  | elem :: rest =>
      match s.entry elem with
      | none => .error .useAfterFree
      | some item =>
          if item.getDescriptors = getDescriptors ∧ item.handleEvents = handleEvents ∧
              item.validate = validate then .ok (some elem)
          else s.search getDescriptors handleEvents validate rest

/-- `OI_EVENTLOOP_Deregister`. -/
def deregister (getDescriptors handleEvents validate : Callback) (s : Loop) :
    Except Fault (Status × Loop) :=
  match s.foreach with
  | none => .error .endless
  | some elems =>
      match s.search getDescriptors handleEvents validate elems with
      | .error fault => .error fault
      | .ok none => .ok (.invalidParameters, s)
      | .ok (some elem) =>
          if s.marker.map Prod.fst = some elem then .error .badFree
          else .ok (.ok, { s with
            links := listDel elem s.links
            items := Function.update s.items elem none })

/-! ## Passes -/

/-- The beginning of a pass: the marker is put at the end of the list. -/
def startPass (marker : Ptr) (stale : Callback) (numSet : Option Int) (s : Loop) : Loop :=
  { s with
    links := listAddTail marker callbackList s.links
    marker := some (marker, stale)
    numSet := numSet
    atStart := s.order.map Item.id
    calls := [] }

/-- The function of an item that the pass calls. -/
def chosen (numSet : Option Int) (item : Item) : Called :=
  match numSet with
  | none => .getDescriptors item.getDescriptors
  | some n => if 0 ≤ n then .handleEvents item.handleEvents else .validate item.validate

/-- One turn of a pass: `result` is what `handleEvents` will return. -/
def turn (result : Int) (s : Loop) : Except Fault Loop :=
  match s.marker with
  | none => .ok s
  | some (marker, _) =>
      match listRemoveHead callbackList s.links with
      | (none, _) => .error .nullDeref
      | (some head, links) =>
          if head = marker then .ok { s with links := links, marker := none }
          else
            match s.items head with
            | none => .error .useAfterFree
            | some item => .ok { s with
                links := listAddTail head callbackList links
                numSet := s.numSet.map fun n => if 0 ≤ n then result else n
                calls := s.calls ++ [⟨item.id, chosen s.numSet item⟩] }

end Loop

/-! ## Runs -/

/-- What happens to the event loop. -/
inductive Event
  | register (getDescriptors handleEvents validate : Callback) (frequentEvents : Bool)
      (malloc : Option (Ptr × Callback))
  | deregister (getDescriptors handleEvents validate : Callback)
  | startPass (marker : Ptr) (stale : Callback) (numSet : Option Int)
  | turn (result : Int)
  deriving DecidableEq, Repr

/-- The transition function. -/
def step (s : Loop) : Event → Except Fault (Status × Loop)
  | .register getDescriptors handleEvents validate frequentEvents malloc =>
      .ok (s.register getDescriptors handleEvents validate frequentEvents malloc)
  | .deregister getDescriptors handleEvents validate =>
      s.deregister getDescriptors handleEvents validate
  | .startPass marker stale numSet => .ok (.ok, s.startPass marker stale numSet)
  | .turn result => (s.turn result).map fun s' => (.ok, s')

/-- An address at which nothing is. -/
structure Loop.Unused (s : Loop) (p : Ptr) : Prop where
  list : p ≠ callbackList
  item : s.items p = none
  marker : s.marker.map Prod.fst ≠ some p

/-- The events that can occur: memory and stack give unused addresses, and one pass follows
the other. -/
def Possible (s : Loop) : Event → Prop
  | .register _ _ _ _ malloc => ∀ p ∈ malloc.map Prod.fst, s.Unused p
  | .deregister _ _ _ => True
  | .startPass marker _ _ => s.marker = none ∧ s.Unused marker
  | .turn _ => s.marker.isSome = true

end EventLoop
