import BtPlatform.Gatt.Server.Requests
import BtPlatform.Support.Lists

/-!
# What the handle map is for

The handle map is to know the attributes that are registered and the attribute that each
request is for. Its operations are followed beside this purpose, on entries with all their
fields.
-/

namespace Gatt

open Support List Function

/-- `HandleMap::Entry` with all its fields. -/
structure FullEntry extends HandleEntry where
  uuid : Uuid
  instanceId : Int := 0
  serviceType : Int := 0
  charHandle : Int := 0
  started : Bool := false
  advertisePreferred : Bool := false
  deriving DecidableEq

/-- `HandleMap` with all its fields. -/
structure FullHandleMap where
  mEntries : List FullEntry
  mRequestMap : Table Int Int
  mLastCharacteristic : Int

namespace FullEntry

/-! ## The constructors -/

def service (serverIf handle : Int) (uuid : Uuid) (serviceType instanceId : Int)
    (advertisePreferred : Bool) : FullEntry :=
  { serverIf, type := .service, handle, serviceHandle := 0, uuid, instanceId, serviceType,
    advertisePreferred }

def characteristic (serverIf handle : Int) (uuid : Uuid) (serviceHandle : Int) : FullEntry :=
  { serverIf, type := .characteristic, handle, serviceHandle, uuid }

def descriptor (serverIf handle : Int) (uuid : Uuid) (serviceHandle charHandle : Int) :
    FullEntry :=
  { serverIf, type := .descriptor, handle, serviceHandle, uuid, charHandle }

/-- The entry is the service, or belongs to it. -/
def BelongsTo (entry : FullEntry) (serverIf serviceHandle : Int) : Prop :=
  entry.serverIf = serverIf ∧
    (entry.handle = serviceHandle ∨ entry.serviceHandle = serviceHandle)

instance (entry : FullEntry) (serverIf serviceHandle : Int) :
    Decidable (entry.BelongsTo serverIf serviceHandle) :=
  inferInstanceAs (Decidable (_ ∧ _))

/-- The entry is that of a service of this server with this handle. -/
def IsService (entry : FullEntry) (serverIf handle : Int) : Prop :=
  entry.type = .service ∧ entry.serverIf = serverIf ∧ entry.handle = handle

instance (entry : FullEntry) (serverIf handle : Int) :
    Decidable (entry.IsService serverIf handle) :=
  inferInstanceAs (Decidable (_ ∧ _))

end FullEntry

namespace FullHandleMap

def empty : FullHandleMap := ⟨[], ∅, 0⟩

/-! ## The operations -/

def addService (m : FullHandleMap) (serverIf handle : Int) (uuid : Uuid)
    (serviceType instanceId : Int) (advertisePreferred : Bool) : FullHandleMap :=
  { m with mEntries := m.mEntries ++
      [.service serverIf handle uuid serviceType instanceId advertisePreferred] }

def addCharacteristic (m : FullHandleMap) (serverIf handle : Int) (uuid : Uuid)
    (serviceHandle : Int) : FullHandleMap :=
  { m with
    mLastCharacteristic := handle
    mEntries := m.mEntries ++ [.characteristic serverIf handle uuid serviceHandle] }

def addDescriptor (m : FullHandleMap) (serverIf handle : Int) (uuid : Uuid)
    (serviceHandle : Int) : FullHandleMap :=
  { m with mEntries := m.mEntries ++
      [.descriptor serverIf handle uuid serviceHandle m.mLastCharacteristic] }

def setStarted (m : FullHandleMap) (serverIf handle : Int) (started : Bool) : FullHandleMap :=
  { m with mEntries := m.mEntries.replaceF fun entry =>
      if entry.IsService serverIf handle then some { entry with started := started } else none }

def getByHandle (m : FullHandleMap) (handle : Int) : Option FullEntry :=
  m.mEntries.find? fun entry => decide (entry.handle = handle)

/-- `deleteService`: one entry is erased, the first one that belongs to the service. -/
def deleteService (m : FullHandleMap) (serverIf serviceHandle : Int) : FullHandleMap :=
  { m with mEntries := m.mEntries.eraseP fun entry =>
      decide (entry.BelongsTo serverIf serviceHandle) }

def addRequest (m : FullHandleMap) (requestId handle : Int) : FullHandleMap :=
  { m with mRequestMap := m.mRequestMap.emplace requestId handle }

def deleteRequest (m : FullHandleMap) (requestId : Int) : FullHandleMap :=
  { m with mRequestMap := m.mRequestMap.erase requestId }

def getByRequestId (m : FullHandleMap) (requestId : Int) : Option FullEntry :=
  match m.mRequestMap.lookup requestId with
  | none => none
  | some handle => m.getByHandle handle

/-! ## The map of the library -/

end FullHandleMap

/-! ## The purpose -/

/-- The attributes that are registered in the order of their registration, the characteristic
that came last, and what the open requests are for. -/
structure Attributes where
  entries : List FullEntry
  lastCharacteristic : Int
  requests : Int → Option Int

namespace Attributes

def empty : Attributes := ⟨[], 0, fun _ => none⟩

def register (a : Attributes) (entry : FullEntry) : Attributes :=
  { a with entries := a.entries ++ [entry] }

def setStarted (a : Attributes) (serverIf handle : Int) (started : Bool) : Attributes :=
  { a with entries := a.entries.map fun entry =>
      if entry.IsService serverIf handle then { entry with started := started } else entry }

/-- The service goes with everything that belongs to it. -/
def deleteService (a : Attributes) (serverIf serviceHandle : Int) : Attributes :=
  { a with entries := a.entries.filter fun entry =>
      decide (¬entry.BelongsTo serverIf serviceHandle) }

def setRequest (a : Attributes) (requestId : Int) (handle : Option Int) : Attributes :=
  { a with requests := update a.requests requestId handle }

/-- The latest registration of the handle. -/
def latest (a : Attributes) (handle : Int) : Option FullEntry :=
  a.entries.reverse.find? fun entry => decide (entry.handle = handle)

end Attributes

inductive HandleEvent
  | addService (serverIf handle : Int) (uuid : Uuid) (serviceType instanceId : Int)
      (advertisePreferred : Bool)
  | addCharacteristic (serverIf handle : Int) (uuid : Uuid) (serviceHandle : Int)
  | addDescriptor (serverIf handle : Int) (uuid : Uuid) (serviceHandle : Int)
  | setStarted (serverIf handle : Int) (started : Bool)
  | deleteService (serverIf serviceHandle : Int)
  | addRequest (requestId handle : Int)
  | deleteRequest (requestId : Int)

def FullHandleMap.step (m : FullHandleMap) : HandleEvent → FullHandleMap
  | .addService serverIf handle uuid serviceType instanceId advertisePreferred =>
      m.addService serverIf handle uuid serviceType instanceId advertisePreferred
  | .addCharacteristic serverIf handle uuid serviceHandle =>
      m.addCharacteristic serverIf handle uuid serviceHandle
  | .addDescriptor serverIf handle uuid serviceHandle =>
      m.addDescriptor serverIf handle uuid serviceHandle
  | .setStarted serverIf handle started => m.setStarted serverIf handle started
  | .deleteService serverIf serviceHandle => m.deleteService serverIf serviceHandle
  | .addRequest requestId handle => m.addRequest requestId handle
  | .deleteRequest requestId => m.deleteRequest requestId

namespace Attributes

def step (a : Attributes) : HandleEvent → Attributes
  | .addService serverIf handle uuid serviceType instanceId advertisePreferred =>
      a.register (.service serverIf handle uuid serviceType instanceId advertisePreferred)
  | .addCharacteristic serverIf handle uuid serviceHandle =>
      { a.register (.characteristic serverIf handle uuid serviceHandle) with
        lastCharacteristic := handle }
  | .addDescriptor serverIf handle uuid serviceHandle =>
      a.register (.descriptor serverIf handle uuid serviceHandle a.lastCharacteristic)
  | .setStarted serverIf handle started => a.setStarted serverIf handle started
  | .deleteService serverIf serviceHandle => a.deleteService serverIf serviceHandle
  | .addRequest requestId handle => a.setRequest requestId (some handle)
  | .deleteRequest requestId => a.setRequest requestId none

/-- The stack gives a handle again only after the attribute that had it has been deleted. -/
def Legal (a : Attributes) : HandleEvent → Prop
  | .addService _ handle _ _ _ _ | .addCharacteristic _ handle _ _ |
    .addDescriptor _ handle _ _ => ∀ entry ∈ a.entries, entry.handle ≠ handle
  | _ => True

/-- The operations that do what they are for: a service is deleted when nothing else belongs to
it, and a request id is not given again for another attribute while its request is open. -/
def Careful (a : Attributes) : HandleEvent → Prop
  | .deleteService serverIf serviceHandle => ∀ entry ∈ a.entries, ∀ entry' ∈ a.entries,
      entry.BelongsTo serverIf serviceHandle → entry'.BelongsTo serverIf serviceHandle →
        entry = entry'
  | .addRequest requestId handle => ∀ handle' ∈ a.requests requestId, handle' = handle
  | _ => True

end Attributes

/-- The map is what it is for: it has the registered attributes, and what it finds is the
latest registration. -/
structure Resolves (m : FullHandleMap) (a : Attributes) : Prop where
  entries : m.mEntries = a.entries
  byHandle : ∀ handle, m.getByHandle handle = a.latest handle
  byRequestId : ∀ requestId, m.getByRequestId requestId =
    (a.requests requestId).bind a.latest

/-- The states of all legal runs, beside what the map is for. -/
inductive RunsHandles : FullHandleMap → Attributes → Prop
  | empty : RunsHandles FullHandleMap.empty Attributes.empty
  | step {m : FullHandleMap} {a : Attributes} {event : HandleEvent} : RunsHandles m a →
      a.Legal event → RunsHandles (m.step event) (a.step event)

/-- The states of the legal runs of which every operation does what it is for. -/
inductive ReachesHandles : FullHandleMap → Attributes → Prop
  | empty : ReachesHandles FullHandleMap.empty Attributes.empty
  | step {m : FullHandleMap} {a : Attributes} {event : HandleEvent} : ReachesHandles m a →
      a.Legal event → a.Careful event → ReachesHandles (m.step event) (a.step event)

/-! ## The invariant of careful runs -/

/-- The map is what it is for, and no two attributes have the same handle. -/
structure Attributes.Sound (m : FullHandleMap) (a : Attributes) : Prop where
  entries : m.mEntries = a.entries
  last : m.mLastCharacteristic = a.lastCharacteristic
  requests : ∀ requestId, m.mRequestMap.lookup requestId = a.requests requestId
  handles : (a.entries.map fun entry => entry.handle).Nodup

namespace Attributes.Sound

variable {m : FullHandleMap} {a : Attributes}

theorem eq_of_handle (h : Sound m a) {entry entry' : FullEntry} (hmem : entry ∈ a.entries)
    (hmem' : entry' ∈ a.entries) (heq : entry.handle = entry'.handle) : entry = entry' :=
  inj_on_of_nodup_map h.handles hmem hmem' heq

theorem byHandle (h : Sound m a) (handle : Int) : m.getByHandle handle = a.latest handle := by
  unfold FullHandleMap.getByHandle Attributes.latest
  rw [h.entries]
  refine (find?_reverse_of_unique fun entry hmem entry' hmem' hp hp' => ?_).symm
  exact h.eq_of_handle hmem hmem'
    ((of_decide_eq_true hp).trans (of_decide_eq_true hp').symm)

theorem resolves (h : Sound m a) : Resolves m a where
  entries := h.entries
  byHandle := h.byHandle
  byRequestId := by
    intro requestId
    unfold FullHandleMap.getByRequestId
    rw [h.requests]
    cases a.requests requestId with
    | none => rfl
    | some handle => exact h.byHandle handle

theorem empty : Sound FullHandleMap.empty Attributes.empty where
  entries := rfl
  last := rfl
  requests := fun _ => rfl
  handles := nodup_nil

/-- An attribute with a new handle comes to the others. -/
theorem register (h : Sound m a) {entry : FullEntry}
    (hnew : ∀ entry' ∈ a.entries, entry'.handle ≠ entry.handle) :
    Sound { m with mEntries := m.mEntries ++ [entry] } (a.register entry) where
  entries := congrArg (· ++ [entry]) h.entries
  last := h.last
  requests := h.requests
  handles := by
    change ((a.entries ++ [entry]).map _).Nodup
    rw [map_append, nodup_append]
    refine ⟨h.handles, nodup_singleton _, ?_⟩
    intro handle hhandle handle' hhandle'
    obtain ⟨entry', hmem, rfl⟩ := mem_map.1 hhandle
    obtain rfl := mem_singleton.1 hhandle'
    exact hnew entry' hmem

theorem characteristic (h : Sound m a) (handle : Int) :
    Sound { m with mLastCharacteristic := handle }
      { a with lastCharacteristic := handle } :=
  ⟨h.entries, rfl, h.requests, h.handles⟩

theorem setStarted (h : Sound m a) (serverIf handle : Int) (started : Bool) :
    Sound (m.setStarted serverIf handle started) (a.setStarted serverIf handle started) where
  entries := by
    have hreplace := @replaceF_eq_map _ _
      (fun entry => decide (entry.IsService serverIf handle)) _ (fun entry => entry.handle)
      (fun entry : FullEntry => { entry with started := started }) h.handles
      fun entry _ entry' _ hp hp' =>
        (of_decide_eq_true hp).2.2.trans (of_decide_eq_true hp').2.2.symm
    simp only [decide_eq_true_eq] at hreplace
    unfold FullHandleMap.setStarted
    dsimp only
    rw [h.entries, hreplace]
    rfl
  last := h.last
  requests := h.requests
  handles := by
    unfold Attributes.setStarted
    rw [map_map]
    refine (map_congr_left fun entry _ => ?_).symm ▸ h.handles
    rw [comp_apply]
    split
    · rfl
    · rfl

theorem deleteService (h : Sound m a) {serverIf serviceHandle : Int}
    (hone : ∀ entry ∈ a.entries, ∀ entry' ∈ a.entries, entry.BelongsTo serverIf serviceHandle →
      entry'.BelongsTo serverIf serviceHandle → entry = entry') :
    Sound (m.deleteService serverIf serviceHandle) (a.deleteService serverIf serviceHandle) where
  entries := by
    change m.mEntries.eraseP _ = a.entries.filter _
    rw [h.entries]
    cases hfind : a.entries.find? fun entry => decide (entry.BelongsTo serverIf serviceHandle) with
    | none =>
        have hother : ∀ entry ∈ a.entries, ¬entry.BelongsTo serverIf serviceHandle :=
          fun entry hmem hbelongs =>
            find?_eq_none.1 hfind entry hmem (decide_eq_true hbelongs)
        rw [filter_eq_self.2 fun entry hmem => decide_eq_true (hother entry hmem)]
        exact eraseP_of_forall_not fun entry hmem hbelongs =>
          hother entry hmem (of_decide_eq_true hbelongs)
    | some entry =>
        have hmem := mem_of_find?_eq_some hfind
        have hbelongs : entry.BelongsTo serverIf serviceHandle := by
          simpa using find?_some hfind
        refine eraseP_eq_filter h.handles.of_map hfind fun entry' hmem' => ?_
        rw [decide_eq_false_iff_not, not_not]
        constructor
        · exact fun hbelongs' => hone entry' hmem' entry hmem hbelongs' hbelongs
        · rintro rfl
          exact hbelongs
  last := h.last
  requests := h.requests
  handles := h.handles.sublist (filter_sublist.map _)

theorem addRequest (h : Sound m a) {requestId handle : Int}
    (hsame : ∀ handle' ∈ a.requests requestId, handle' = handle) :
    Sound (m.addRequest requestId handle) (a.setRequest requestId (some handle)) := { h with
  requests := by
    intro requestId'
    change (m.mRequestMap.emplace requestId handle).lookup requestId' = _
    unfold Attributes.setRequest
    rw [Table.lookup_emplace, h.requests]
    dsimp only
    by_cases heq : requestId' = requestId
    · subst heq
      rw [if_pos rfl, update_self]
      cases hrequest : a.requests requestId' with
      | none => rfl
      | some handle' => rw [hsame handle' hrequest, Option.some_or]
    · rw [if_neg heq, update_of_ne heq, Option.or_none] }

theorem deleteRequest (h : Sound m a) (requestId : Int) :
    Sound (m.deleteRequest requestId) (a.setRequest requestId none) := { h with
  requests := by
    intro requestId'
    change (m.mRequestMap.erase requestId).lookup requestId' = _
    unfold Attributes.setRequest
    rw [Table.lookup_erase, h.requests]
    dsimp only
    by_cases heq : requestId' = requestId
    · rw [if_pos heq, heq, update_self]
    · rw [if_neg heq, update_of_ne heq] }

/-! ### The runs -/

theorem step (h : Sound m a) {event : HandleEvent} (legal : a.Legal event)
    (careful : a.Careful event) : Sound (m.step event) (a.step event) := by
  cases event with
  | addService serverIf handle uuid serviceType instanceId advertisePreferred =>
      exact h.register legal
  | addCharacteristic serverIf handle uuid serviceHandle =>
      exact (h.register (show ∀ entry' ∈ a.entries, entry'.handle ≠
        (FullEntry.characteristic serverIf handle uuid serviceHandle).handle from
          legal)).characteristic handle
  | addDescriptor serverIf handle uuid serviceHandle =>
      have hadd := h.register (show ∀ entry' ∈ a.entries, entry'.handle ≠
        (FullEntry.descriptor serverIf handle uuid serviceHandle m.mLastCharacteristic).handle
          from legal)
      change Sound (m.addDescriptor serverIf handle uuid serviceHandle)
        (a.register (.descriptor serverIf handle uuid serviceHandle a.lastCharacteristic))
      rw [← h.last]
      exact hadd
  | setStarted serverIf handle started => exact h.setStarted serverIf handle started
  | deleteService serverIf serviceHandle => exact h.deleteService careful
  | addRequest requestId handle => exact h.addRequest careful
  | deleteRequest requestId => exact h.deleteRequest requestId

end Attributes.Sound

theorem ReachesHandles.sound {m : FullHandleMap} {a : Attributes} (h : ReachesHandles m a) :
    Attributes.Sound m a := by
  induction h with
  | empty => exact Attributes.Sound.empty
  | step _ legal careful ih => exact ih.step legal careful

/-- In a run of careful operations the map resolves handles and requests as it is to. -/
theorem handleMap_resolves {m : FullHandleMap} {a : Attributes} (h : ReachesHandles m a) :
    Resolves m a :=
  h.sound.resolves

/-! ## A service and its characteristic -/

/-- The service is registered, deleted and registered again, and a request comes for it. -/
def reusedService : List HandleEvent :=
  [.addService 1 40 .empty 0 0 false, .deleteService 1 40, .addService 1 40 .empty 0 0 true,
    .addRequest 5 40]

theorem reusedService_reached :
    ReachesHandles (reusedService.foldl FullHandleMap.step .empty)
      (reusedService.foldl Attributes.step .empty) := by
  have added : ReachesHandles (FullHandleMap.empty.step (.addService 1 40 .empty 0 0 false))
      (Attributes.empty.step (.addService 1 40 .empty 0 0 false)) :=
    ReachesHandles.empty.step (fun _ hmem => absurd hmem not_mem_nil) trivial
  have deleted := @ReachesHandles.step _ _ (.deleteService 1 40) added trivial
    fun entry hmem entry' hmem' _ _ =>
      (mem_singleton.1 hmem).trans (mem_singleton.1 hmem').symm
  have again := @ReachesHandles.step _ _ (.addService 1 40 .empty 0 0 true) deleted
    (fun _ hmem => absurd hmem not_mem_nil) trivial
  exact @ReachesHandles.step _ _ (.addRequest 5 40) again trivial fun _ hhandle => by cases hhandle

theorem reusedService_resolves :
    Resolves (reusedService.foldl FullHandleMap.step .empty)
      (reusedService.foldl Attributes.step .empty) :=
  handleMap_resolves reusedService_reached

/-- The characteristic of a service that is deleted stays registered. -/
theorem characteristic_stays :
    ¬∀ (m : FullHandleMap) (a : Attributes), RunsHandles m a → Resolves m a := by
  intro hall
  have service := @RunsHandles.step _ _ (.addService 1 40 .empty 0 0 false) .empty
    fun _ hmem => absurd hmem not_mem_nil
  have both := @RunsHandles.step _ _ (.addCharacteristic 1 41 .empty 40) service
    fun entry hmem => by
      obtain rfl := mem_singleton.1 hmem
      decide
  have deleted := @RunsHandles.step _ _ (.deleteService 1 40) both trivial
  have hentries := (hall _ _ deleted).entries
  revert hentries
  decide

end Gatt
