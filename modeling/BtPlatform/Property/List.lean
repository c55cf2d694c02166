import Mathlib.Data.List.Basic
import Mathlib.Logic.Function.Basic

/-!
# The list of properties

The list of `ll.c` and the operations of `property_ops.c` on it. A search takes the first
node whose name starts with the name that is searched, since only as many characters are
compared as that name has. `__free_list` frees the nodes and leaves `glisthead` as it is.
-/

namespace Property

open List

def MAX_NAME_LEN : Nat := 80
def MAX_VALUE_LEN : Nat := 80

/-- A string that fits, with its terminator, in an array of `size` characters. -/
@[ext] structure CString (size : Nat) where
  chars : List UInt8
  noTerminator : 0 ∉ chars
  fits : chars.length < size
  deriving DecidableEq

abbrev Name := CString MAX_NAME_LEN
abbrev Value := CString MAX_VALUE_LEN

/-- `property_unit`. Nothing sets `callback_to_be_invoked`, which is zero in every node. -/
@[ext] structure PropertyUnit where
  propertyName : Name
  propertyValue : Value
  deriving DecidableEq

/-- `!strncmp(ln->unit.property_name, search_name, strlen(search_name))` -/
def PropertyUnit.matchesName (searchName : Name) (u : PropertyUnit) : Bool :=
  searchName.chars.isPrefixOf u.propertyName.chars

def listMatchesPropName (searchName : Name) (list : List PropertyUnit) : Option PropertyUnit :=
  list.find? (PropertyUnit.matchesName searchName)

/-- The write into the node that `listMatchesPropName` returns. -/
def updateFirst (searchName : Name) (value : Value) : List PropertyUnit → List PropertyUnit
  | [] => []
  | u :: list =>
      if u.matchesName searchName then { u with propertyValue := value } :: list
      else u :: updateFirst searchName value list

/-- `__list_add`, which always returns 0: a node whose name is found is not added. -/
def listAdd (u : PropertyUnit) (list : List PropertyUnit) : List PropertyUnit :=
  match list with
  | [] => [u]
  | _ =>
      match listMatchesPropName u.propertyName list with
      | none => list ++ [u]
      | some _ => list

/-- `__create_list_and_add` returns 0 in both cases: as the result of `__list_add`, and as
`false` without memory. -/
def createListAndAdd (allocated : Bool) (searchName : Name) (value : Value)
    (list : List PropertyUnit) : List PropertyUnit × Bool :=
  if allocated then (listAdd ⟨searchName, value⟩ list, false) else (list, false)

/-- `__update_prop_value`, which takes 0 for success. -/
def updatePropValue (allocated : Bool) (searchName : Name) (value : Value)
    (list : List PropertyUnit) : List PropertyUnit × Bool :=
  match listMatchesPropName searchName list with
  | some _ => (updateFirst searchName value list, true)
  | none =>
      let created := createListAndAdd allocated searchName value list
      (created.1, created.2 == false)

/-- `__remove_node_from_list`. Without a match in a list with nodes the variable that is
returned was never written: its value is `garbage`. -/
def removeNodeFromList (garbage : Bool) (name : Name) (list : List PropertyUnit) :
    List PropertyUnit × Bool :=
  match list with
  | [] => ([], false)
  | _ =>
      match listMatchesPropName name list with
      | some _ => (list.eraseP (PropertyUnit.matchesName name), true)
      | none => (list, garbage)

def getPropertyValueBt (name : Name) (list : List PropertyUnit) : Option Value :=
  (listMatchesPropName name list).map PropertyUnit.propertyValue

/-- `glisthead`: the nodes it leads to, or the address of a node that was freed. -/
inductive Head where
  | nodes (list : List PropertyUnit)
  | freed
  deriving DecidableEq

inductive Op where
  | set (name : Name) (value : Value)
  | get (name : Name)
  | remove (name : Name)
  | clear

/-- What a call does not decide: whether `calloc` finds memory, and the content of a
variable that is not initialized. -/
structure Env where
  allocated : Bool
  garbage : Bool

inductive Answer where
  | value (found : Option Value)
  | status (success : Bool)
  deriving DecidableEq

/-- `__free_list`; its result is written for the empty list only. -/
def freeList (garbage : Bool) : List PropertyUnit → Head × Bool
  | [] => (.nodes [], false)
  | _ => (.freed, garbage)

/-- One call. With `glisthead` at a freed node each of them reads freed memory. -/
def Head.step (env : Env) : Head → Op → Option (Head × Answer)
  | .freed, _ => none
  | .nodes list, .set name value =>
      let updated := updatePropValue env.allocated name value list
      some (.nodes updated.1, .status updated.2)
  | .nodes list, .get name => some (.nodes list, .value (getPropertyValueBt name list))
  | .nodes list, .remove name =>
      let removed := removeNodeFromList env.garbage name list
      some (.nodes removed.1, .status removed.2)
  | .nodes list, .clear =>
      let cleared := freeList env.garbage list
      some (cleared.1, .status cleared.2)

/-! ## What the operations do to the nodes -/

section Nodes

variable {name : Name} {value : Value} {list : List PropertyUnit} {u : PropertyUnit}

@[simp] theorem matchesName_self (u : PropertyUnit) : u.matchesName u.propertyName = true :=
  isPrefixOf_iff_prefix.2 (prefix_refl _)

theorem listMatchesPropName_eq_none :
    listMatchesPropName name list = none ↔ ∀ u ∈ list, ¬ u.matchesName name = true :=
  find?_eq_none

/-- The node that is found splits the list. -/
theorem exists_split (h : listMatchesPropName name list = some u) :
    ∃ front back, list = front ++ u :: back ∧
      updateFirst name value list = front ++ { u with propertyValue := value } :: back ∧
      list.eraseP (PropertyUnit.matchesName name) = front ++ back := by
  induction list with
  | nil => cases h
  | cons v list ih =>
      by_cases hv : v.matchesName name = true
      · have huv : v = u := by
          simpa [listMatchesPropName, hv] using h
        subst huv
        exact ⟨[], list, rfl, by simp [updateFirst, hv], by simp [hv]⟩
      · have hrest : listMatchesPropName name list = some u := by
          simpa [listMatchesPropName, hv] using h
        obtain ⟨front, back, hlist, hupdated, herased⟩ := ih hrest
        refine ⟨v :: front, back, ?_, ?_, ?_⟩
        · rw [hlist, cons_append]
        · rw [updateFirst, if_neg hv, hupdated, cons_append]
        · rw [eraseP_cons_of_neg hv, herased, cons_append]

theorem listAdd_of_none (h : listMatchesPropName u.propertyName list = none) :
    listAdd u list = list ++ [u] := by
  cases list with
  | nil => rfl
  | cons v list => simp only [listAdd, h]

theorem removeNodeFromList_of_some {garbage : Bool}
    (h : listMatchesPropName name list = some u) :
    removeNodeFromList garbage name list =
      (list.eraseP (PropertyUnit.matchesName name), true) := by
  cases list with
  | nil => cases h
  | cons v list => simp only [removeNodeFromList, h]

theorem removeNodeFromList_of_none {garbage : Bool}
    (h : listMatchesPropName name list = none) :
    (removeNodeFromList garbage name list).1 = list := by
  cases list with
  | nil => rfl
  | cons v list => simp only [removeNodeFromList, h]

end Nodes

end Property
