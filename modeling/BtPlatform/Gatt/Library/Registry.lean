import BtPlatform.Gatt.Library.ContextMap
import Mathlib.Data.Set.Basic

/-!
# What the application map is for

The map is to know the applications that are registered and the connections of each. The
operations of `ContextMap` are followed beside this purpose, from an empty map on. The id of a
new application is not initialised; what its memory holds comes with the registration.
-/

namespace Gatt

open Support List

/-- An application that is registered, with its id once that is known. -/
structure LiveApp (C : Type) where
  uuid : Uuid
  id : Option Int
  memory : Int
  callback : C

/-- The applications, and the connections that belong to them. -/
structure Registry (C : Type) where
  apps : List (LiveApp C)
  connections : Set AppConnection

variable {C : Type}

/-- What the field `id` of the entry holds. -/
def LiveApp.field (app : LiveApp C) : Int := app.id.getD app.memory

def LiveApp.entry (app : LiveApp C) : App C := ⟨app.uuid, some app.field, app.callback⟩

/-- The application with the id, if it is the one with the UUID. -/
def LiveApp.withId (uuid : Uuid) (id : Int) (app : LiveApp C) : LiveApp C :=
  if app.uuid = uuid then { app with id := some id } else app

theorem LiveApp.withId_uuid {uuid : Uuid} {id : Int} (app : LiveApp C) :
    (app.withId uuid id).uuid = app.uuid := by
  unfold LiveApp.withId
  split
  · rfl
  · rfl

namespace Registry

def empty : Registry C := ⟨[], ∅⟩

def add (a : Registry C) (uuid : Uuid) (memory : Int) (callback : C) : Registry C :=
  { a with apps := a.apps ++ [⟨uuid, none, memory, callback⟩] }

/-- The connection belongs to the application with this UUID. -/
def Owns (a : Registry C) (uuid : Uuid) (c : AppConnection) : Prop :=
  ∃ app ∈ a.apps, app.uuid = uuid ∧ app.id = some c.appId

def removeUuid (a : Registry C) (uuid : Uuid) : Registry C where
  apps := a.apps.filter fun app => decide (app.uuid ≠ uuid)
  connections := { c | c ∈ a.connections ∧ ¬a.Owns uuid c }

def remove (a : Registry C) (id : Int) : Registry C where
  apps := a.apps.filter fun app => decide (app.id ≠ some id)
  connections := { c | c ∈ a.connections ∧ c.appId ≠ id }

/-- The connections of the application go over to its new id. -/
def setId (a : Registry C) (uuid : Uuid) (id : Int) : Registry C where
  apps := a.apps.map (LiveApp.withId uuid id)
  connections := { c | (c ∈ a.connections ∧ ¬a.Owns uuid c) ∨
    ∃ c' ∈ a.connections, a.Owns uuid c' ∧ c = { c' with appId := id } }

def Known (a : Registry C) (id : Int) : Prop := ∃ app ∈ a.apps, app.id = some id

def addConnection (a : Registry C) (id connId : Int) (address : String) : Registry C :=
  { a with connections :=
      { c | c ∈ a.connections ∨ a.Known id ∧ c = ⟨connId, address, id⟩ } }

def removeConnection (a : Registry C) (id connId : Int) : Registry C :=
  { a with connections := { c | c ∈ a.connections ∧ ¬(c.appId = id ∧ c.connId = connId) } }

end Registry

/-- The operations on the map; `order` is that of the set with a new connection. -/
inductive MapEvent (C : Type)
  | add (uuid : Uuid) (memory : Int) (callback : C)
  | removeUuid (uuid : Uuid)
  | remove (id : Int)
  | setId (uuid : Uuid) (id : Int)
  | addConnection (id connId : Int) (address : String) (order : List AppConnection)
  | removeConnection (id connId : Int)
  | clear

namespace ContextMap

/-- `add`, with what the memory of the id holds. -/
def addWith (m : ContextMap C) (uuid : Uuid) (memory : Int) (callback : C) : ContextMap C :=
  { m with mApps := m.mApps ++ [⟨uuid, some memory, callback⟩] }

/-- `removeConnection(id, connId)`. -/
def removeConnectionOf (m : ContextMap C) (_id connId : Int) : ContextMap C :=
  m.removeConnection connId

def clear (_m : ContextMap C) : ContextMap C := ⟨[], []⟩

def step (m : ContextMap C) : MapEvent C → ContextMap C
  | .add uuid memory callback => m.addWith uuid memory callback
  | .removeUuid uuid => m.removeUuid uuid
  | .remove id => m.remove id
  | .setId uuid id => m.setId uuid id
  | .addConnection id connId address order => m.addConnection id connId address order
  | .removeConnection id connId => m.removeConnectionOf id connId
  | .clear => m.clear

end ContextMap

namespace Registry

def step (a : Registry C) : MapEvent C → Registry C
  | .add uuid memory callback => a.add uuid memory callback
  | .removeUuid uuid => a.removeUuid uuid
  | .remove id => a.remove id
  | .setId uuid id => a.setId uuid id
  | .addConnection id connId address _ => a.addConnection id connId address
  | .removeConnection id connId => a.removeConnection id connId
  | .clear => Registry.empty

/-- UUIDs and ids of live applications are distinct, and so are the pairs of a connection. -/
def Legal (a : Registry C) : MapEvent C → Prop
  | .add uuid _ _ => ∀ app ∈ a.apps, app.uuid ≠ uuid
  | .setId uuid id => ∀ app ∈ a.apps, app.uuid ≠ uuid → app.id ≠ some id
  | .addConnection id connId _ _ => ∀ c ∈ a.connections, ¬(c.appId = id ∧ c.connId = connId)
  | _ => True

/-- The first application whose field holds this value has not been given an id. -/
def Hits (a : Registry C) (id : Int) : Prop :=
  ∃ app, a.apps.find? (fun app => decide (app.field = id)) = some app ∧ app.id = none

/-- The operations that do what they are for: an application that is removed has no connection if
it is removed by its UUID, and no more than one if by its id; an id is not changed under a
connection; the connection id that is removed is found with the application's own connection
first; and no id that is passed is one that only the memory of a new application holds. -/
def Careful (a : Registry C) (m : ContextMap C) : MapEvent C → Prop
  | .removeUuid uuid => ∀ c ∈ a.connections, ¬a.Owns uuid c
  | .remove id => ¬a.Hits id ∧
      ∀ c ∈ a.connections, ∀ c' ∈ a.connections, c.appId = id → c'.appId = id → c = c'
  | .setId uuid id => ∀ c ∈ a.connections, a.Owns uuid c → c.appId = id
  | .addConnection id _ _ _ => a.Hits id → a.Known id
  | .removeConnection id connId =>
      ∀ c, m.mConnections.find? (fun c => decide (c.connId = connId)) = some c → c.appId = id
  | _ => True

end Registry

/-- The map is what it is for. -/
structure Agrees (m : ContextMap C) (a : Registry C) : Prop where
  apps : m.mApps = a.apps.map LiveApp.entry
  connections : ∀ c, c ∈ m.mConnections ↔ c ∈ a.connections
  live : ∀ c ∈ a.connections, a.Known c.appId

/-- What the searches find: a live entry with the key if there is one, and nothing otherwise. A
search by id is spoilt by the memory of a new application that holds the id. -/
structure Answers (m : ContextMap C) (a : Registry C) : Prop where
  byId : ∀ id, ¬a.Hits id → ∀ entry, m.getById id = some entry ↔
    ∃ app ∈ a.apps, app.id = some id ∧ app.entry = entry
  byUuid : ∀ uuid entry, m.getByUuid uuid = some entry ↔
    ∃ app ∈ a.apps, app.uuid = uuid ∧ app.entry = entry
  byConnId : ∀ connId, (∀ c ∈ a.connections, c.connId = connId → ¬a.Hits c.appId) →
    (∃ c ∈ a.connections, c.connId = connId ∧
      ∃ app ∈ a.apps, app.id = some c.appId ∧ m.getByConnId connId = some app.entry) ∨
    (∀ c ∈ a.connections, c.connId ≠ connId) ∧ m.getByConnId connId = none
  idByAddress : ∀ id address,
    (∃ c ∈ a.connections, c.appId = id ∧ c.address = address ∧
      m.connIdByAddress id address = c.connId) ∨
    (∀ c ∈ a.connections, ¬(c.appId = id ∧ c.address = address)) ∧
      m.connIdByAddress id address = -1
  addressById : ∀ connId,
    (∃ c ∈ a.connections, c.connId = connId ∧ m.addressByConnId connId = c.address) ∨
    (∀ c ∈ a.connections, c.connId ≠ connId) ∧ m.addressByConnId connId = ""

/-- The states of all legal runs, beside what the map is for. -/
inductive RunsMap : ContextMap C → Registry C → Prop
  | empty : RunsMap ContextMap.empty Registry.empty
  | step {m : ContextMap C} {a : Registry C} {event : MapEvent C} : RunsMap m a →
      a.Legal event → RunsMap (m.step event) (a.step event)

/-- The states of the legal runs of which every operation does what it is for. -/
inductive ReachesMap : ContextMap C → Registry C → Prop
  | empty : ReachesMap ContextMap.empty Registry.empty
  | step {m : ContextMap C} {a : Registry C} {event : MapEvent C} : ReachesMap m a →
      a.Legal event → a.Careful m event → ReachesMap (m.step event) (a.step event)

/-! ## The invariant of careful runs -/

/-- The map is what it is for, and its keys are distinct. -/
structure Sound (m : ContextMap C) (a : Registry C) : Prop extends Agrees m a where
  uuids : (a.apps.map LiveApp.uuid).Nodup
  ids : ∀ app ∈ a.apps, ∀ app' ∈ a.apps, ∀ id, app.id = some id → app'.id = some id → app = app'
  pairs : ∀ c ∈ a.connections, ∀ c' ∈ a.connections,
    c.appId = c'.appId → c.connId = c'.connId → c = c'
  nodup : m.mConnections.Nodup

namespace Sound

variable {m : ContextMap C} {a : Registry C} {app : LiveApp C} {id connId : Int} {uuid : Uuid}

theorem getById_eq (h : Agrees m a) (id : Int) :
    m.getById id = (a.apps.find? fun app => decide (app.field = id)).map LiveApp.entry := by
  unfold ContextMap.getById
  rw [h.apps, find?_map]
  refine congrArg (Option.map LiveApp.entry) (congrArg (find? · a.apps) (funext fun app => ?_))
  exact decide_eq_decide.2 Option.some_inj

/-- A search by id that is not spoilt finds an application with this id. -/
theorem id_of_find (hits : ¬a.Hits id)
    (hfind : a.apps.find? (fun app => decide (app.field = id)) = some app) :
    app ∈ a.apps ∧ app.id = some id := by
  refine ⟨mem_of_find?_eq_some hfind, ?_⟩
  have hfield : app.field = id := by simpa using find?_some hfind
  cases hid : app.id with
  | none => exact absurd ⟨app, hfind, hid⟩ hits
  | some id' =>
      unfold LiveApp.field at hfield
      rw [hid] at hfield
      exact congrArg some hfield

theorem field_of_id (hid : app.id = some id) : app.field = id := by
  unfold LiveApp.field
  rw [hid]
  rfl

theorem find_of_known (hmem : app ∈ a.apps) (hid : app.id = some id) :
    ∃ app', a.apps.find? (fun app => decide (app.field = id)) = some app' :=
  Option.isSome_iff_exists.1
    (find?_isSome.2 ⟨app, hmem, decide_eq_true (field_of_id hid)⟩)

/-- The application with an id is the one that is found. -/
theorem find_eq (h : Sound m a) (hits : ¬a.Hits id) (hmem : app ∈ a.apps)
    (hid : app.id = some id) :
    a.apps.find? (fun app => decide (app.field = id)) = some app := by
  obtain ⟨app', hfind⟩ := find_of_known hmem hid
  obtain ⟨hmem', hid'⟩ := id_of_find hits hfind
  rw [hfind, h.ids app' hmem' app hmem id hid' hid]

theorem uuid_eq (h : Sound m a) {app' : LiveApp C} (hmem : app ∈ a.apps) (hmem' : app' ∈ a.apps)
    (heq : app.uuid = app'.uuid) : app = app' :=
  inj_on_of_nodup_map h.uuids hmem hmem' heq

theorem apps_nodup (h : Sound m a) : a.apps.Nodup := h.uuids.of_map

/-! ### The searches -/

theorem byId (h : Sound m a) (hits : ¬a.Hits id) (entry : App C) :
    m.getById id = some entry ↔ ∃ app ∈ a.apps, app.id = some id ∧ app.entry = entry := by
  rw [getById_eq h.toAgrees, Option.map_eq_some_iff]
  constructor
  · rintro ⟨app, hfind, hentry⟩
    obtain ⟨hmem, hid⟩ := id_of_find hits hfind
    exact ⟨app, hmem, hid, hentry⟩
  · rintro ⟨app, hmem, hid, hentry⟩
    exact ⟨app, h.find_eq hits hmem hid, hentry⟩

theorem byUuid (h : Sound m a) (uuid : Uuid) (entry : App C) :
    m.getByUuid uuid = some entry ↔ ∃ app ∈ a.apps, app.uuid = uuid ∧ app.entry = entry := by
  have hfind : m.getByUuid uuid =
      (a.apps.find? fun app => decide (app.uuid = uuid)).map LiveApp.entry := by
    unfold ContextMap.getByUuid
    rw [h.apps, find?_map]
    rfl
  rw [hfind, Option.map_eq_some_iff]
  constructor
  · rintro ⟨app, hfind, hentry⟩
    exact ⟨app, mem_of_find?_eq_some hfind, by simpa using find?_some hfind, hentry⟩
  · rintro ⟨app, hmem, huuid, hentry⟩
    refine ⟨app, find?_of_unique hmem (decide_eq_true huuid) ?_, hentry⟩
    intro app' hmem' huuid'
    exact h.uuid_eq hmem' hmem ((of_decide_eq_true huuid').trans huuid.symm)

theorem byConnId (h : Sound m a)
    (hits : ∀ c ∈ a.connections, c.connId = connId → ¬a.Hits c.appId) :
    (∃ c ∈ a.connections, c.connId = connId ∧
      ∃ app ∈ a.apps, app.id = some c.appId ∧ m.getByConnId connId = some app.entry) ∨
    (∀ c ∈ a.connections, c.connId ≠ connId) ∧ m.getByConnId connId = none := by
  unfold ContextMap.getByConnId
  cases hfind : m.mConnections.find? fun c => decide (c.connId = connId) with
  | none =>
      refine .inr ⟨fun c hc heq => ?_, rfl⟩
      have := find?_eq_none.1 hfind c ((h.connections c).2 hc)
      exact this (decide_eq_true heq)
  | some c =>
      have hc : c ∈ a.connections := (h.connections c).1 (mem_of_find?_eq_some hfind)
      have hconnId : c.connId = connId := by simpa using find?_some hfind
      obtain ⟨app, hmem, hid⟩ := h.live c hc
      refine .inl ⟨c, hc, hconnId, app, hmem, hid, ?_⟩
      exact (h.byId (hits c hc hconnId) app.entry).2 ⟨app, hmem, hid, rfl⟩

theorem idByAddress (h : Sound m a) (id : Int) (address : String) :
    (∃ c ∈ a.connections, c.appId = id ∧ c.address = address ∧
      m.connIdByAddress id address = c.connId) ∨
    (∀ c ∈ a.connections, ¬(c.appId = id ∧ c.address = address)) ∧
      m.connIdByAddress id address = -1 := by
  unfold ContextMap.connIdByAddress
  cases hentry : m.getById id with
  | none =>
      refine .inr ⟨?_, rfl⟩
      rintro c hc ⟨rfl, -⟩
      obtain ⟨app, hmem, hid⟩ := h.live c hc
      obtain ⟨app', hfind⟩ := find_of_known hmem hid
      rw [getById_eq h.toAgrees, hfind] at hentry
      cases hentry
  | some entry =>
      dsimp only
      cases hfind : m.mConnections.find? fun c => decide (c.address = address ∧ c.appId = id) with
      | none =>
          refine .inr ⟨fun c hc heq => ?_, rfl⟩
          have := find?_eq_none.1 hfind c ((h.connections c).2 hc)
          exact this (decide_eq_true ⟨heq.2, heq.1⟩)
      | some c =>
          have hc : c ∈ a.connections := (h.connections c).1 (mem_of_find?_eq_some hfind)
          have hkeys : c.address = address ∧ c.appId = id := by simpa using find?_some hfind
          exact .inl ⟨c, hc, hkeys.2, hkeys.1, rfl⟩

theorem addressById (h : Sound m a) (connId : Int) :
    (∃ c ∈ a.connections, c.connId = connId ∧ m.addressByConnId connId = c.address) ∨
    (∀ c ∈ a.connections, c.connId ≠ connId) ∧ m.addressByConnId connId = "" := by
  unfold ContextMap.addressByConnId
  cases hfind : m.mConnections.find? fun c => decide (c.connId = connId) with
  | none =>
      refine .inr ⟨fun c hc heq => ?_, rfl⟩
      have := find?_eq_none.1 hfind c ((h.connections c).2 hc)
      exact this (decide_eq_true heq)
  | some c =>
      have hc : c ∈ a.connections := (h.connections c).1 (mem_of_find?_eq_some hfind)
      exact .inl ⟨c, hc, by simpa using find?_some hfind, rfl⟩

theorem answers (h : Sound m a) : Answers m a where
  byId := fun _ hits entry => h.byId hits entry
  byUuid := h.byUuid
  byConnId := fun _ hits => h.byConnId hits
  idByAddress := h.idByAddress
  addressById := h.addressById

/-! ### The operations -/

theorem empty : Sound (ContextMap.empty : ContextMap C) Registry.empty where
  apps := rfl
  connections := fun _ => iff_of_false not_mem_nil id
  live := fun _ hc => absurd hc id
  uuids := nodup_nil
  ids := fun _ hmem => absurd hmem not_mem_nil
  pairs := fun _ hc => absurd hc id
  nodup := nodup_nil

theorem add (h : Sound m a) (hnew : ∀ app ∈ a.apps, app.uuid ≠ uuid) (memory : Int)
    (callback : C) : Sound (m.addWith uuid memory callback) (a.add uuid memory callback) where
  apps := by
    change m.mApps ++ _ = (a.apps ++ _).map LiveApp.entry
    rw [h.apps, map_append]
    rfl
  connections := h.connections
  live := by
    intro c hc
    obtain ⟨app, hmem, hid⟩ := h.live c hc
    exact ⟨app, mem_append_left _ hmem, hid⟩
  uuids := by
    change ((a.apps ++ _).map LiveApp.uuid).Nodup
    rw [map_append, nodup_append]
    refine ⟨h.uuids, nodup_singleton _, ?_⟩
    intro u hu v hv
    obtain ⟨app, hmem, rfl⟩ := mem_map.1 hu
    obtain rfl := mem_singleton.1 hv
    exact hnew app hmem
  ids := by
    intro app hmem app' hmem' id hid hid'
    rcases mem_append.1 hmem with hmem | hmem
    · rcases mem_append.1 hmem' with hmem' | hmem'
      · exact h.ids app hmem app' hmem' id hid hid'
      · obtain rfl := mem_singleton.1 hmem'
        cases hid'
    · obtain rfl := mem_singleton.1 hmem
      cases hid
  pairs := h.pairs
  nodup := h.nodup

/-- The applications that are left keep their keys. -/
theorem ids_filter (h : Sound m a) (p : LiveApp C → Bool) :
    ∀ app ∈ a.apps.filter p, ∀ app' ∈ a.apps.filter p, ∀ id,
      app.id = some id → app'.id = some id → app = app' :=
  fun app hmem app' hmem' => h.ids app (mem_of_mem_filter hmem) app'
    (mem_of_mem_filter hmem')

theorem uuids_filter (h : Sound m a) (p : LiveApp C → Bool) :
    ((a.apps.filter p).map LiveApp.uuid).Nodup :=
  h.uuids.sublist (filter_sublist.map _)

theorem removeUuid (h : Sound m a) (hnone : ∀ c ∈ a.connections, ¬a.Owns uuid c) :
    Sound (m.removeUuid uuid) (a.removeUuid uuid) where
  apps := by
    change m.mApps.eraseP _ = (a.apps.filter _).map LiveApp.entry
    rw [h.apps, eraseP_map]
    refine congrArg (map LiveApp.entry) ?_
    cases hfind : a.apps.find? fun app => decide (app.uuid = uuid) with
    | none =>
        have hother : ∀ app ∈ a.apps, app.uuid ≠ uuid := fun app hmem heq =>
          find?_eq_none.1 hfind app hmem (decide_eq_true heq)
        rw [filter_eq_self.2 fun app hmem => decide_eq_true (hother app hmem)]
        exact eraseP_of_forall_not fun app hmem heq =>
          hother app hmem (of_decide_eq_true heq)
    | some app =>
        refine eraseP_eq_filter h.apps_nodup hfind fun app' hmem' => ?_
        have huuid : app.uuid = uuid := by simpa using find?_some hfind
        rw [decide_eq_false_iff_not, not_not]
        constructor
        · intro heq
          exact h.uuid_eq hmem' (mem_of_find?_eq_some hfind) (heq.trans huuid.symm)
        · rintro rfl
          exact huuid
  connections := by
    intro c
    rw [show c ∈ (m.removeUuid uuid).mConnections ↔ c ∈ a.connections from h.connections c]
    exact ⟨fun hc => ⟨hc, hnone c hc⟩, fun hc => hc.1⟩
  live := by
    rintro c ⟨hc, howns⟩
    obtain ⟨app, hmem, hid⟩ := h.live c hc
    refine ⟨app, mem_filter.2 ⟨hmem, decide_eq_true fun heq => ?_⟩, hid⟩
    exact howns ⟨app, hmem, heq, hid⟩
  uuids := h.uuids_filter _
  ids := h.ids_filter _
  pairs := fun c hc c' hc' => h.pairs c hc.1 c' hc'.1
  nodup := h.nodup

/-- The application that is found goes, and its only connection with it. -/
theorem remove_of_find (h : Sound m a) (hits : ¬a.Hits id)
    (hone : ∀ c ∈ a.connections, ∀ c' ∈ a.connections, c.appId = id → c'.appId = id → c = c')
    (hfind : a.apps.find? (fun app => decide (app.field = id)) = some app) :
    (m.remove id).mApps = (a.remove id).apps.map LiveApp.entry ∧
      (∀ c, c ∈ (m.remove id).mConnections ↔ c ∈ (a.remove id).connections) ∧
      (m.remove id).mConnections.Nodup := by
  obtain ⟨hmem, hid⟩ := id_of_find hits hfind
  have hremove : m.remove id =
      { m.removeConnectionsByAppId id with
        mApps := m.mApps.eraseP fun app => decide (app.id = some id) } := by
    unfold ContextMap.remove
    rw [getById_eq h.toAgrees, hfind]
    rfl
  rw [hremove]
  refine ⟨?_, ?_, h.nodup.sublist eraseP_sublist⟩
  · change m.mApps.eraseP _ = (a.apps.filter _).map LiveApp.entry
    rw [h.apps, eraseP_map]
    refine congrArg (map LiveApp.entry) ?_
    have hfind' : a.apps.find? ((fun app : App C => decide (app.id = some id)) ∘ LiveApp.entry) =
        some app := by
      rw [← hfind]
      refine congrArg (find? · a.apps) (funext fun app => ?_)
      exact decide_eq_decide.2 Option.some_inj
    refine eraseP_eq_filter h.apps_nodup hfind' fun app' hmem' => ?_
    rw [decide_eq_false_iff_not, not_not]
    constructor
    · exact fun hid' => h.ids app' hmem' app hmem id hid' hid
    · rintro rfl
      exact hid
  · intro c
    change c ∈ m.mConnections.eraseP _ ↔ c ∈ a.connections ∧ c.appId ≠ id
    cases hconnection : m.mConnections.find? fun c => decide (c.appId = id) with
    | none =>
        have hother : ∀ c ∈ m.mConnections, c.appId ≠ id := fun c hc heq =>
          find?_eq_none.1 hconnection c hc (decide_eq_true heq)
        rw [eraseP_of_forall_not fun c hc heq => hother c hc (of_decide_eq_true heq),
          h.connections c]
        exact ⟨fun hc => ⟨hc, hother c ((h.connections c).2 hc)⟩, And.left⟩
    | some c' =>
        have hc' := (h.connections c').1 (mem_of_find?_eq_some hconnection)
        have hid' : c'.appId = id := by simpa using find?_some hconnection
        rw [mem_eraseP_of_nodup h.nodup hconnection, h.connections c]
        refine and_congr_right fun hc => not_congr ⟨?_, fun heq => hone c hc c' hc' heq hid'⟩
        rintro rfl
        exact hid'

theorem remove (h : Sound m a) (hits : ¬a.Hits id)
    (hone : ∀ c ∈ a.connections, ∀ c' ∈ a.connections, c.appId = id → c'.appId = id → c = c') :
    Sound (m.remove id) (a.remove id) := by
  have hlive : ∀ c ∈ (a.remove id).connections, (a.remove id).Known c.appId := by
    rintro c ⟨hc, hne⟩
    obtain ⟨app, hmem, hid⟩ := h.live c hc
    refine ⟨app, mem_filter.2 ⟨hmem, decide_eq_true fun heq => ?_⟩, hid⟩
    exact hne (Option.some.inj (hid.symm.trans heq))
  have hpairs : ∀ c ∈ (a.remove id).connections, ∀ c' ∈ (a.remove id).connections,
      c.appId = c'.appId → c.connId = c'.connId → c = c' :=
    fun c hc c' hc' => h.pairs c hc.1 c' hc'.1
  cases hfind : a.apps.find? fun app => decide (app.field = id) with
  | none =>
      have hunknown : ∀ app ∈ a.apps, app.id ≠ some id := fun app hmem hid =>
        find?_eq_none.1 hfind app hmem (decide_eq_true (field_of_id hid))
      have hremove : m.remove id = m := by
        unfold ContextMap.remove
        rw [getById_eq h.toAgrees, hfind]
        rfl
      rw [hremove]
      have happs : (a.remove id).apps = a.apps :=
        filter_eq_self.2 fun app hmem => decide_eq_true (hunknown app hmem)
      refine ⟨⟨?_, ?_, hlive⟩, h.uuids_filter _, h.ids_filter _, hpairs, h.nodup⟩
      · rw [happs]
        exact h.apps
      · intro c
        rw [h.connections c]
        refine ⟨fun hc => ⟨hc, ?_⟩, And.left⟩
        rintro rfl
        obtain ⟨app, hmem, hid⟩ := h.live c hc
        exact hunknown app hmem hid
  | some app =>
      obtain ⟨happs, hconnections, hnodup⟩ := h.remove_of_find hits hone hfind
      exact ⟨⟨happs, hconnections, hlive⟩, h.uuids_filter _, h.ids_filter _, hpairs, hnodup⟩

/-- The id is given to the application with the UUID. -/
theorem setId_apps (h : Sound m a) (uuid : Uuid) (id : Int) :
    (m.setId uuid id).mApps = (a.apps.map (LiveApp.withId uuid id)).map LiveApp.entry := by
  have huuids : ((a.apps.map LiveApp.entry).map App.uuid).Nodup := by
    rw [map_map]
    exact h.uuids
  have hreplace := @replaceF_eq_map _ _ (fun app => decide (app.uuid = uuid)) _ App.uuid
    (fun app : App C => { app with id := some id }) huuids
    fun app _ app' _ hp hp' => (of_decide_eq_true hp).trans (of_decide_eq_true hp').symm
  simp only [decide_eq_true_eq] at hreplace
  unfold ContextMap.setId
  dsimp only
  rw [h.apps, hreplace, map_map, map_map]
  refine map_congr_left fun app _ => ?_
  rw [Function.comp_apply, Function.comp_apply]
  unfold LiveApp.withId
  by_cases huuid : app.uuid = uuid
  · rw [if_pos huuid]
    exact if_pos huuid
  · rw [if_neg huuid]
    exact if_neg huuid

/-- No connection changes, where those of the application have the new id already. -/
theorem setId_connections
    (hsame : ∀ c ∈ a.connections, a.Owns uuid c → c.appId = id) (c : AppConnection) :
    c ∈ (a.setId uuid id).connections ↔ c ∈ a.connections := by
  constructor
  · rintro (⟨hc, -⟩ | ⟨c', hc', howns, rfl⟩)
    · exact hc
    · rw [← hsame c' hc' howns]
      exact hc'
  · intro hc
    by_cases howns : a.Owns uuid c
    · refine .inr ⟨c, hc, howns, ?_⟩
      rw [← hsame c hc howns]
    · exact .inl ⟨hc, howns⟩

theorem setId (h : Sound m a) (hfree : ∀ app ∈ a.apps, app.uuid ≠ uuid → app.id ≠ some id)
    (hsame : ∀ c ∈ a.connections, a.Owns uuid c → c.appId = id) :
    Sound (m.setId uuid id) (a.setId uuid id) where
  apps := h.setId_apps uuid id
  connections := fun c => (h.connections c).trans (setId_connections hsame c).symm
  live := by
    intro c hc
    have hc := (setId_connections hsame c).1 hc
    obtain ⟨app, hmem, hid⟩ := h.live c hc
    refine ⟨app.withId uuid id, mem_map_of_mem hmem, ?_⟩
    unfold LiveApp.withId
    split
    · next huuid => exact congrArg some (hsame c hc ⟨app, hmem, huuid, hid⟩).symm
    · exact hid
  uuids := by
    change ((a.apps.map (LiveApp.withId uuid id)).map LiveApp.uuid).Nodup
    rw [map_map]
    have hsame : LiveApp.uuid ∘ LiveApp.withId uuid id = (LiveApp.uuid : LiveApp C → Uuid) :=
      funext LiveApp.withId_uuid
    rw [hsame]
    exact h.uuids
  ids := by
    intro first hfirst second hsecond id' hid hid'
    obtain ⟨app, hmem, rfl⟩ := mem_map.1 hfirst
    obtain ⟨app', hmem', rfl⟩ := mem_map.1 hsecond
    change (app.withId uuid id).id = some id' at hid
    change (app'.withId uuid id).id = some id' at hid'
    unfold LiveApp.withId at hid hid'
    split at hid
    · next huuid =>
      obtain rfl := Option.some.inj hid
      split at hid'
      · next huuid' => rw [h.uuid_eq hmem hmem' (huuid.trans huuid'.symm)]
      · next hne => exact absurd hid' (hfree app' hmem' hne)
    · next hne =>
      split at hid'
      · obtain rfl := Option.some.inj hid'
        exact absurd hid (hfree app hmem hne)
      · rw [h.ids app hmem app' hmem' id' hid hid']
  pairs := by
    intro c hc c' hc'
    exact h.pairs c ((setId_connections hsame c).1 hc) c' ((setId_connections hsame c').1 hc')
  nodup := h.nodup

theorem addConnection (h : Sound m a) {address : String} {order : List AppConnection}
    (hnew : ∀ c ∈ a.connections, ¬(c.appId = id ∧ c.connId = connId))
    (hits : a.Hits id → a.Known id) :
    Sound (m.addConnection id connId address order) (a.addConnection id connId address) := by
  have hlive : ∀ c ∈ (a.addConnection id connId address).connections, a.Known c.appId := by
    rintro c (hc | ⟨hknown, rfl⟩)
    · exact h.live c hc
    · exact hknown
  cases hfind : a.apps.find? fun app => decide (app.field = id) with
  | none =>
      have hunknown : ¬a.Known id := by
        rintro ⟨app, hmem, hid⟩
        exact find?_eq_none.1 hfind app hmem (decide_eq_true (field_of_id hid))
      have hadd : m.addConnection id connId address order = m := by
        unfold ContextMap.addConnection
        rw [getById_eq h.toAgrees, hfind]
        rfl
      have hsame : a.addConnection id connId address = a := by
        unfold Registry.addConnection
        simp [hunknown]
      rw [hadd, hsame]
      exact h
  | some app =>
      have hknown : a.Known id := by
        cases hid : app.id with
        | none => exact hits ⟨app, hfind, hid⟩
        | some id' =>
            have hfield : app.field = id := by simpa using find?_some hfind
            refine ⟨app, mem_of_find?_eq_some hfind, ?_⟩
            unfold LiveApp.field at hfield
            rw [hid] at hfield ⊢
            exact congrArg some hfield
      have hadd : m.addConnection id connId address order =
          m.insertConnection ⟨connId, address, id⟩ order := by
        unfold ContextMap.addConnection
        rw [getById_eq h.toAgrees, hfind]
        rfl
      have hfresh : (⟨connId, address, id⟩ : AppConnection) ∉ m.mConnections := fun hc =>
        hnew _ ((h.connections _).1 hc) ⟨rfl, rfl⟩
      rw [hadd]
      refine ⟨⟨h.apps, ?_, hlive⟩, h.uuids, h.ids, ?_, ?_⟩
      · intro c
        rw [ContextMap.mem_insertConnection, h.connections c]
        constructor
        · rintro (rfl | hc)
          · exact .inr ⟨hknown, rfl⟩
          · exact .inl hc
        · rintro (hc | ⟨-, rfl⟩)
          · exact .inr hc
          · exact .inl rfl
      · rintro c (hc | ⟨-, rfl⟩) c' (hc' | ⟨-, rfl⟩) happ hid
        · exact h.pairs c hc c' hc' happ hid
        · exact absurd ⟨happ, hid⟩ (hnew c hc)
        · exact absurd ⟨happ.symm, hid.symm⟩ (hnew c' hc')
        · rfl
      · unfold ContextMap.insertConnection
        dsimp only
        have hcons : (⟨connId, address, id⟩ :: m.mConnections : List AppConnection).Nodup :=
          nodup_cons.2 ⟨hfresh, h.nodup⟩
        split
        · next hperm => exact (isPerm_iff.1 hperm).nodup_iff.2 hcons
        · exact hcons

theorem removeConnection (h : Sound m a)
    (hown : ∀ c, m.mConnections.find? (fun c => decide (c.connId = connId)) = some c →
      c.appId = id) :
    Sound (m.removeConnectionOf id connId) (a.removeConnection id connId) where
  apps := h.apps
  connections := by
    intro c
    change c ∈ m.mConnections.eraseP _ ↔ c ∈ a.connections ∧ ¬(c.appId = id ∧ c.connId = connId)
    cases hfind : m.mConnections.find? fun c => decide (c.connId = connId) with
    | none =>
        have hother : ∀ c ∈ m.mConnections, c.connId ≠ connId := fun c hc heq =>
          find?_eq_none.1 hfind c hc (decide_eq_true heq)
        rw [eraseP_of_forall_not fun c hc heq => hother c hc (of_decide_eq_true heq),
          h.connections c]
        exact ⟨fun hc => ⟨hc, fun heq => hother c ((h.connections c).2 hc) heq.2⟩, And.left⟩
    | some c' =>
        have hc' := (h.connections c').1 (mem_of_find?_eq_some hfind)
        have hid' : c'.connId = connId := by simpa using find?_some hfind
        rw [mem_eraseP_of_nodup h.nodup hfind, h.connections c]
        refine and_congr_right fun hc => not_congr ⟨?_, ?_⟩
        · rintro rfl
          exact ⟨hown c hfind, hid'⟩
        · rintro ⟨happ, hid⟩
          exact h.pairs c hc c' hc' (happ.trans (hown c' hfind).symm) (hid.trans hid'.symm)
  live := fun c hc => h.live c hc.1
  uuids := h.uuids
  ids := h.ids
  pairs := fun c hc c' hc' => h.pairs c hc.1 c' hc'.1
  nodup := h.nodup.sublist eraseP_sublist

/-! ### The runs -/

theorem step (h : Sound m a) {event : MapEvent C} (legal : a.Legal event)
    (careful : a.Careful m event) : Sound (m.step event) (a.step event) := by
  cases event with
  | add uuid memory callback => exact h.add legal memory callback
  | removeUuid uuid => exact h.removeUuid careful
  | remove id => exact h.remove careful.1 careful.2
  | setId uuid id => exact h.setId legal careful
  | addConnection id connId address order => exact h.addConnection legal careful
  | removeConnection id connId => exact h.removeConnection careful
  | clear => exact Sound.empty

end Sound

theorem ReachesMap.sound {m : ContextMap C} {a : Registry C} (h : ReachesMap m a) :
    Sound m a := by
  induction h with
  | empty => exact Sound.empty
  | step _ legal careful ih => exact ih.step legal careful

/-- In a run of careful operations the map is what it is for, and its searches find a live entry
with the key if there is one. -/
theorem contextMap_answers {m : ContextMap C} {a : Registry C} (h : ReachesMap m a) :
    Agrees m a ∧ Answers m a :=
  ⟨h.sound.toAgrees, h.sound.answers⟩

/-! ## An application with two connections -/

/-- One application, with the id 1. -/
def oneApp : Registry Unit := (Registry.empty.add .empty 0 ()).setId .empty 1

def oneAppMap : ContextMap Unit := (ContextMap.empty.addWith .empty 0 ()).setId .empty 1

theorem oneApp_known : oneApp.Known 1 :=
  ⟨⟨.empty, some 1, 0, ()⟩, mem_singleton_self _, rfl⟩

theorem oneApp_reached : ReachesMap oneAppMap oneApp := by
  have added : ReachesMap (ContextMap.empty.step (.add .empty 0 ()))
      (Registry.empty.step (.add .empty 0 ())) :=
    ReachesMap.step .empty (fun _ hmem => absurd hmem not_mem_nil) trivial
  have legal : (Registry.empty.step (.add .empty 0 ())).Legal (.setId .empty 1) := by
    intro app hmem hne
    obtain rfl := mem_singleton.1 hmem
    exact absurd rfl hne
  exact ReachesMap.step added legal fun c hc => absurd hc id

/-- The application with its first connection. -/
theorem oneConnection_reached :
    ReachesMap (oneAppMap.step (.addConnection 1 7 "00:00:00:00:00:01" []))
      (oneApp.step (.addConnection 1 7 "00:00:00:00:00:01" [])) := by
  refine ReachesMap.step oneApp_reached ?_ fun _ => oneApp_known
  rintro c (⟨hc, -⟩ | ⟨c', hc', -⟩)
  · exact absurd hc id
  · exact absurd hc' id

theorem oneConnection_answers :
    Agrees (oneAppMap.step (.addConnection 1 7 "00:00:00:00:00:01" []))
        (oneApp.step (.addConnection 1 7 "00:00:00:00:00:01" [])) ∧
      Answers (oneAppMap.step (.addConnection 1 7 "00:00:00:00:00:01" []))
        (oneApp.step (.addConnection 1 7 "00:00:00:00:00:01" [])) :=
  contextMap_answers oneConnection_reached

theorem ReachesMap.runs {m : ContextMap C} {a : Registry C} (h : ReachesMap m a) :
    RunsMap m a := by
  induction h with
  | empty => exact RunsMap.empty
  | step _ legal _ ih => exact ih.step legal

/-- An application that goes by its id leaves its second connection behind. -/
theorem second_connection_stays :
    ¬∀ (m : ContextMap Unit) (a : Registry Unit), RunsMap m a → Agrees m a ∧ Answers m a := by
  intro hall
  have second := oneConnection_reached.runs.step
    (show (oneApp.step (.addConnection 1 7 "00:00:00:00:00:01" [])).Legal
      (.addConnection 1 8 "00:00:00:00:00:02" []) from by
        rintro c ((⟨hc, -⟩ | ⟨c', hc', -⟩) | ⟨-, rfl⟩) ⟨-, hid⟩
        · exact absurd hc id
        · exact absurd hc' id
        · exact absurd hid (by decide))
  have removed := second.step
    (show ((oneApp.step (.addConnection 1 7 "00:00:00:00:00:01" [])).step
      (.addConnection 1 8 "00:00:00:00:00:02" [])).Legal (.remove 1) from trivial)
  have left := ((hall _ _ removed).1.connections ⟨7, "00:00:00:00:00:01", 1⟩).1 (by decide)
  exact left.2 rfl

end Gatt
