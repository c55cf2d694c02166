import BtPlatform.Property.List
import Mathlib.Data.List.Nodup

/-!
# The list as a map

The map from names to values that the operations describe, and when the list of nodes
follows it: as long as the first node whose name starts with the name of an operation is
the node of that name, a node that is needed can be allocated, and no list with a node in it
is freed.
-/

namespace Property

open List Function

/-- What a sequence of operations has set. -/
abbrev Store := Name → Option Value

/-- The last successful operation on a name decides; freeing the list removes all. -/
def Store.after (m : Store) : Op → Answer → Store
  | .set name value, .status true => update m name (some value)
  | .remove name, .status true => update m name none
  | .clear, _ => fun _ => none
  | _, _ => m

/-- The value in the node with exactly this name. -/
def lookup (name : Name) (list : List PropertyUnit) : Option Value :=
  (list.find? fun u => decide (u.propertyName = name)).map PropertyUnit.propertyValue

/-- At most one node for each name, and the values of the map in the nodes. -/
structure Holds (list : List PropertyUnit) (m : Store) : Prop where
  distinct : (list.map PropertyUnit.propertyName).Nodup
  values : ∀ name, lookup name list = m name

def Head.Agrees : Head → Store → Prop
  | .nodes list, m => Holds list m
  | .freed, _ => False

/-- The answer to a `get` is the value of the map. -/
def Answer.Right (m : Store) : Op → Answer → Prop
  | .get name, answer => answer = .value (m name)
  | _, _ => True

/-- The call has a meaning, answers as the map does and leaves the list in agreement with
the map as the operations reported as successful have changed it. -/
def Meets (env : Env) (head : Head) (m : Store) (op : Op) : Prop :=
  match head.step env op with
  | none => False
  | some (head', answer) => answer.Right m op ∧ head'.Agrees (m.after op answer)

/-- The condition on one operation, in terms of the first node whose name starts with the
name of the operation. -/
def CarefulOn (env : Env) (list : List PropertyUnit) : Op → Prop
  | .set name value =>
      match listMatchesPropName name list with
      | none => env.allocated = true
      | some u => u.propertyName = name ∨
          u.propertyValue = value ∧ lookup name list = some value
  | .get name =>
      ∀ u, listMatchesPropName name list = some u → lookup name list = some u.propertyValue
  | .remove name => ∀ u, listMatchesPropName name list = some u → u.propertyName = name
  | .clear => list = []

def Careful (env : Env) : Head → Op → Prop
  | .nodes list, op => CarefulOn env list op
  | .freed, _ => False

/-- The states of the runs in which every operation is careful, each with the map of the
operations so far. -/
inductive Reaches : Head → Store → Prop
  | start : Reaches (.nodes []) (fun _ => none)
  | step {head head' : Head} {m : Store} {answer : Answer} (env : Env) (op : Op) :
      Reaches head m → Careful env head op → head.step env op = some (head', answer) →
      Reaches head' (m.after op answer)

/-! ## Values by name -/

section Lookup

variable {name other : Name} {value : Value} {list front back : List PropertyUnit}
  {u : PropertyUnit} {m : Store}

theorem lookup_append (name : Name) (front back : List PropertyUnit) :
    lookup name (front ++ back) = (lookup name front).or (lookup name back) := by
  rw [lookup, find?_append, Option.map_or]
  rfl

theorem lookup_cons (name : Name) (u : PropertyUnit) (list : List PropertyUnit) :
    lookup name (u :: list) =
      if u.propertyName = name then some u.propertyValue else lookup name list := by
  by_cases h : u.propertyName = name
  · simp [lookup, h]
  · simp [lookup, h]

theorem lookup_eq_none :
    lookup name list = none ↔ name ∉ list.map PropertyUnit.propertyName := by
  rw [lookup, Option.map_eq_none_iff, find?_eq_none]
  constructor
  · intro h hmem
    obtain ⟨u, hu, hname⟩ := mem_map.1 hmem
    exact h u hu (decide_eq_true hname)
  · intro h u hu hname
    exact h (mem_map.2 ⟨u, hu, of_decide_eq_true hname⟩)

/-- Without a match there is no node of that name. -/
theorem lookup_of_no_match (h : listMatchesPropName name list = none) :
    lookup name list = none := by
  rw [lookup_eq_none]
  intro hmem
  obtain ⟨u, hu, rfl⟩ := mem_map.1 hmem
  exact listMatchesPropName_eq_none.1 h u hu (matchesName_self u)

theorem name_notMem_of_nodup
    (h : ((front ++ u :: back).map PropertyUnit.propertyName).Nodup) :
    u.propertyName ∉ front.map PropertyUnit.propertyName ∧
      u.propertyName ∉ back.map PropertyUnit.propertyName := by
  rw [map_append, map_cons, nodup_middle, nodup_cons,
    mem_append] at h
  exact not_or.1 h.1

/-- The node of a list without a duplicate name decides the value of its name. -/
theorem lookup_split
    (h : ((front ++ u :: back).map PropertyUnit.propertyName).Nodup) (name : Name) :
    lookup name (front ++ u :: back) =
      if u.propertyName = name then some u.propertyValue else lookup name (front ++ back) := by
  rw [lookup_append, lookup_cons, lookup_append]
  split
  · next hname =>
      have hfront := (name_notMem_of_nodup h).1
      rw [hname] at hfront
      rw [lookup_eq_none.2 hfront, Option.none_or]
  · rfl

theorem lookup_rest
    (h : ((front ++ u :: back).map PropertyUnit.propertyName).Nodup) :
    lookup u.propertyName (front ++ back) = none := by
  obtain ⟨hfront, hback⟩ := name_notMem_of_nodup h
  rw [lookup_append, lookup_eq_none.2 hfront, lookup_eq_none.2 hback, Option.none_or]

end Lookup

/-! ## One operation -/

section Operations

variable {name : Name} {value : Value} {list : List PropertyUnit} {u : PropertyUnit}
  {m : Store} {env : Env}

/-- A new node at the end. -/
theorem Holds.add (h : Holds list m) (hnone : lookup name list = none) (value : Value) :
    Holds (list ++ [⟨name, value⟩]) (update m name (some value)) := by
  refine ⟨?_, ?_⟩
  · rw [map_append, map_cons, map_nil, nodup_append]
    refine ⟨h.distinct, nodup_singleton _, ?_⟩
    intro a ha b hb heq
    obtain rfl := mem_singleton.1 hb
    exact lookup_eq_none.1 hnone (heq ▸ ha)
  · intro other
    rw [lookup_append, lookup_cons, h.values]
    by_cases hother : name = other
    · subst hother
      rw [if_pos rfl, update_self, ← h.values, hnone, Option.none_or]
    · rw [if_neg hother, update_of_ne (Ne.symm hother)]
      exact Option.or_none

variable {front back : List PropertyUnit}

/-- The value of the node that is found. -/
theorem Holds.found (h : Holds (front ++ u :: back) m) :
    m u.propertyName = some u.propertyValue := by
  rw [← h.values, lookup_split h.distinct, if_pos rfl]

/-- A write into a node. -/
theorem Holds.write (h : Holds (front ++ u :: back) m) (value : Value) :
    Holds (front ++ { u with propertyValue := value } :: back)
      (update m u.propertyName (some value)) := by
  have hdistinct : ((front ++ { u with propertyValue := value } :: back).map
      PropertyUnit.propertyName).Nodup := by
    have hold := h.distinct
    rw [map_append, map_cons] at hold ⊢
    exact hold
  refine ⟨hdistinct, ?_⟩
  intro other
  rw [lookup_split hdistinct]
  by_cases hother : u.propertyName = other
  · rw [if_pos hother, ← hother, update_self]
  · rw [if_neg hother, update_of_ne (Ne.symm hother), ← h.values,
      lookup_split h.distinct, if_neg hother]

theorem Holds.removed (h : Holds (front ++ u :: back) m) :
    Holds (front ++ back) (update m u.propertyName none) := by
  have hdistinct := h.distinct
  refine ⟨?_, ?_⟩
  · rw [map_append, map_cons, nodup_middle] at hdistinct
    rw [map_append]
    exact (nodup_cons.1 hdistinct).2
  · intro other
    by_cases hother : u.propertyName = other
    · rw [← hother, update_self]
      exact lookup_rest h.distinct
    · rw [update_of_ne (Ne.symm hother), ← h.values, lookup_split h.distinct,
        if_neg hother]

/-- A list follows one map only. -/
theorem Holds.unique {m' : Store} (h : Holds list m) (h' : Holds list m') : m = m' := by
  funext name
  rw [← h.values, ← h'.values]

theorem get_meets_iff (h : Holds list m) :
    Meets env (.nodes list) m (.get name) ↔ CarefulOn env list (.get name) := by
  have hafter : m.after (.get name) (.value (getPropertyValueBt name list)) = m := rfl
  simp only [Meets, Head.step, Answer.Right, Answer.value.injEq, hafter, CarefulOn]
  constructor
  · rintro ⟨hanswer, -⟩ u hu
    rw [h.values, ← hanswer, getPropertyValueBt, hu]
    rfl
  · intro hcareful
    refine ⟨?_, h⟩
    rw [getPropertyValueBt]
    cases hfound : listMatchesPropName name list with
    | none => rw [← h.values, lookup_of_no_match hfound]; rfl
    | some u => rw [← h.values, hcareful u hfound]; rfl

theorem set_meets_iff (h : Holds list m) :
    Meets env (.nodes list) m (.set name value) ↔ CarefulOn env list (.set name value) := by
  cases hfound : listMatchesPropName name list with
  | none =>
      have hnone := lookup_of_no_match hfound
      by_cases hallocated : env.allocated = true
      · have hholds := h.add hnone value
        have hadd : listAdd ⟨name, value⟩ list = list ++ [⟨name, value⟩] :=
          listAdd_of_none hfound
        simp only [Meets, Head.step, updatePropValue, createListAndAdd, hfound, hallocated,
          if_true, hadd, CarefulOn, iff_true]
        exact ⟨trivial, hholds⟩
      · -- the failed allocation is reported as a success
        have hcreated : createListAndAdd env.allocated name value list = (list, false) :=
          if_neg hallocated
        simp only [Meets, Head.step, updatePropValue, hcreated, hfound, CarefulOn]
        refine iff_of_false ?_ hallocated
        rintro ⟨-, hagrees⟩
        have hset := hagrees.values name
        rw [hnone] at hset
        simp [Store.after] at hset
  | some u =>
      obtain ⟨front, back, hlist, hupdated, -⟩ := @exists_split name value list u hfound
      subst hlist
      have hwrite := h.write value
      simp only [Meets, Head.step, updatePropValue, hfound, hupdated, CarefulOn]
      constructor
      · rintro ⟨-, hagrees⟩
        by_cases hname : u.propertyName = name
        · exact .inl hname
        · -- both maps describe the list, so the write into the other node changed nothing
          have hmaps := hwrite.unique hagrees
          have hu := congrFun hmaps u.propertyName
          have hn := congrFun hmaps name
          simp only [Store.after, update_self, update_of_ne hname,
            h.found, Option.some.injEq] at hu
          simp only [Store.after, update_self,
            update_of_ne (Ne.symm hname)] at hn
          exact .inr ⟨hu.symm, (h.values name).trans hn⟩
      · rintro (rfl | ⟨rfl, hsame⟩)
        · exact ⟨trivial, hwrite⟩
        · refine ⟨trivial, ?_⟩
          have hm : update m name (some u.propertyValue) = m := by
            rw [update_eq_self_iff, ← hsame, h.values]
          have hu : update m u.propertyName (some u.propertyValue) = m := by
            rw [update_eq_self_iff, h.found]
          simp only [Store.after, hm]
          rw [hu] at hwrite
          exact hwrite

theorem remove_meets_iff (h : Holds list m) :
    Meets env (.nodes list) m (.remove name) ↔ CarefulOn env list (.remove name) := by
  cases hfound : listMatchesPropName name list with
  | none =>
      have hlist := @removeNodeFromList_of_none name list env.garbage hfound
      have hm : update m name none = m := by
        rw [update_eq_self_iff, ← h.values, lookup_of_no_match hfound]
      have hafter : ∀ success, m.after (.remove name) (.status success) = m := by
        rintro (_ | _)
        · rfl
        · exact hm
      have hmeets : Meets env (.nodes list) m (.remove name) := by
        simp only [Meets, Head.step, hlist, hafter]
        exact ⟨trivial, h⟩
      simp only [hmeets, CarefulOn, hfound, true_iff]
      rintro u hu
      cases hu
  | some u =>
      obtain ⟨front, back, hlist, -, herased⟩ :=
        @exists_split name u.propertyValue list u hfound
      have hremoved := @removeNodeFromList_of_some name list u env.garbage hfound
      rw [herased] at hremoved
      subst hlist
      have hrest := h.removed
      simp only [Meets, Head.step, hremoved, CarefulOn, hfound, Option.some.injEq]
      constructor
      · rintro ⟨-, hagrees⟩ v rfl
        by_contra hname
        have hu := congrFun (hrest.unique hagrees) u.propertyName
        simp [Store.after, update_of_ne hname, h.found] at hu
      · intro hname
        obtain rfl := hname u rfl
        exact ⟨trivial, hrest⟩

theorem clear_meets_iff :
    Meets env (.nodes list) m .clear ↔ CarefulOn env list .clear := by
  cases list with
  | nil =>
      simp only [Meets, Head.step, freeList, CarefulOn, iff_true]
      exact ⟨trivial, nodup_nil, fun _ => rfl⟩
  | cons u list =>
      simp only [Meets, Head.step, freeList, CarefulOn, reduceCtorEq, iff_false]
      exact fun h => h.2

end Operations

/-! ## Runs -/

theorem meets_iff {env : Env} {head : Head} {m : Store} (h : head.Agrees m) (op : Op) :
    Meets env head m op ↔ Careful env head op := by
  cases head with
  | freed => exact h.elim
  | nodes list =>
      cases op with
      | set name value => exact set_meets_iff h
      | get name => exact get_meets_iff h
      | remove name => exact remove_meets_iff h
      | clear => exact clear_meets_iff

theorem Meets.agrees {env : Env} {head head' : Head} {m : Store} {op : Op} {answer : Answer}
    (h : Meets env head m op) (hstep : head.step env op = some (head', answer)) :
    head'.Agrees (m.after op answer) := by
  unfold Meets at h
  rw [hstep] at h
  exact h.2

theorem Reaches.agrees {head : Head} {m : Store} (h : Reaches head m) : head.Agrees m := by
  induction h with
  | start => exact ⟨nodup_nil, fun _ => rfl⟩
  | step env op _ hcareful hstep ih => exact ((meets_iff ih op).2 hcareful).agrees hstep

/-- In a run of careful operations the list is the map of the operations reported as
successful, and the next operation keeps to the map exactly when it is careful. -/
theorem map_of_careful {head : Head} {m : Store} (h : Reaches head m) :
    head.Agrees m ∧ ∀ env op, Meets env head m op ↔ Careful env head op := by
  refine ⟨h.agrees, ?_⟩
  intro env op
  exact meets_iff h.agrees op

/-- The property `bt` with the value `1`, set first. -/
theorem map_of_careful_set :
    let bt : Name := ⟨[98, 116], by decide, by decide⟩
    let one : Value := ⟨[49], by decide, by decide⟩
    Head.Agrees (.nodes [⟨bt, one⟩]) (update (fun _ => none) bt (some one)) ∧
      ∀ env op, Meets env (.nodes [⟨bt, one⟩])
          (update (fun _ => none) bt (some one)) op ↔
        Careful env (.nodes [⟨bt, one⟩]) op := by
  intro bt one
  exact map_of_careful (.step ⟨true, false⟩ (.set bt one) .start rfl rfl)

/-- With the property `bt` set alone, a `get` of `b` succeeds. -/
theorem prefix_is_found :
    let bt : Name := ⟨[98, 116], by decide, by decide⟩
    let b : Name := ⟨[98], by decide, by decide⟩
    let one : Value := ⟨[49], by decide, by decide⟩
    let env : Env := ⟨true, false⟩
    ∃ head, (Head.nodes []).step env (.set bt one) = some (head, .status true) ∧
      head.step env (.get b) = some (head, .value (some one)) ∧
      ¬ Meets env head (Store.after (fun _ => none) (.set bt one) (.status true)) (.get b) := by
  intro bt b one env
  refine ⟨.nodes [⟨bt, one⟩], rfl, rfl, ?_⟩
  rintro ⟨hanswer, -⟩
  cases hanswer

end Property
