import BtPlatform.Gatt.Uuid
import BtPlatform.Support.Lists

/-!
# The applications of the GATT library

`ContextMap` keeps the registered applications and their connections. The connections are a
set of pointers, so the order in which a search goes through them is arbitrary: a new
connection brings the order of the set along.
-/

namespace Gatt

open List

/-- `ContextMap::App`. Until the stack has answered the registration the application has no
id, and no search by id finds it. -/
structure App (C : Type) where
  uuid : Uuid
  id : Option Int
  callback : C

/-- `ContextMap::Connection`. -/
structure AppConnection where
  connId : Int
  address : String
  appId : Int
  deriving DecidableEq

structure ContextMap (C : Type) where
  mApps : List (App C)
  mConnections : List AppConnection

namespace ContextMap

variable {C : Type}

def empty : ContextMap C := ⟨[], []⟩

def add (m : ContextMap C) (uuid : Uuid) (callback : C) : ContextMap C :=
  { m with mApps := m.mApps ++ [⟨uuid, none, callback⟩] }

/-- `remove` of a UUID. -/
def removeUuid (m : ContextMap C) (uuid : Uuid) : ContextMap C :=
  { m with mApps := m.mApps.eraseP fun app => decide (app.uuid = uuid) }

def getById (m : ContextMap C) (id : Int) : Option (App C) :=
  m.mApps.find? fun app => decide (app.id = some id)

def getByUuid (m : ContextMap C) (uuid : Uuid) : Option (App C) :=
  m.mApps.find? fun app => decide (app.uuid = uuid)

/-- The assignment of an id to the application that `getByUuid` finds. -/
def setId (m : ContextMap C) (uuid : Uuid) (id : Int) : ContextMap C :=
  { m with mApps := m.mApps.replaceF fun app =>
      if app.uuid = uuid then some { app with id := some id } else none }

def removeConnectionsByAppId (m : ContextMap C) (appId : Int) : ContextMap C :=
  { m with mConnections := m.mConnections.eraseP fun c => decide (c.appId = appId) }

/-- `remove` of an id. -/
def remove (m : ContextMap C) (id : Int) : ContextMap C :=
  match m.getById id with
  | none => m
  | some _ =>
      { m.removeConnectionsByAppId id with
        mApps := m.mApps.eraseP fun app => decide (app.id = some id) }

/-- The set with a new connection, in this order if it is one of the set. -/
def insertConnection (m : ContextMap C) (c : AppConnection) (order : List AppConnection) :
    ContextMap C :=
  { m with mConnections :=
      if order.isPerm (c :: m.mConnections) then order else c :: m.mConnections }

def addConnection (m : ContextMap C) (id connId : Int) (address : String)
    (order : List AppConnection) : ContextMap C :=
  match m.getById id with
  | none => m
  | some _ => m.insertConnection ⟨connId, address, id⟩ order

/-- `removeConnection`; the application id is not looked at. -/
def removeConnection (m : ContextMap C) (connId : Int) : ContextMap C :=
  { m with mConnections := m.mConnections.eraseP fun c => decide (c.connId = connId) }

def getByConnId (m : ContextMap C) (connId : Int) : Option (App C) :=
  match m.mConnections.find? fun c => decide (c.connId = connId) with
  | some c => m.getById c.appId
  | none => none

/-- `connIdByAddress`, with `INVALID_INT` if there is no connection. -/
def connIdByAddress (m : ContextMap C) (id : Int) (address : String) : Int :=
  match m.getById id with
  | none => -1
  | some _ =>
      match m.mConnections.find? fun c => decide (c.address = address ∧ c.appId = id) with
      | some c => c.connId
      | none => -1

def addressByConnId (m : ContextMap C) (connId : Int) : String :=
  match m.mConnections.find? fun c => decide (c.connId = connId) with
  | some c => c.address
  | none => ""

/-! ## What a search finds -/

variable {m : ContextMap C}

variable {id : Int} {app : App C} {c : AppConnection} {uuid : Uuid}

theorem getById_mem (h : m.getById id = some app) : app ∈ m.mApps ∧ app.id = some id := by
  unfold getById at h
  exact ⟨mem_of_find?_eq_some h, by simpa using find?_some h⟩

/-- An application with this id is registered. -/
def Registered (m : ContextMap C) (id : Int) : Prop := ∃ app ∈ m.mApps, app.id = some id

theorem registered_iff : m.Registered id ↔ (m.getById id).isSome := by
  unfold getById
  rw [find?_isSome]
  constructor
  · rintro ⟨app, hmem, hid⟩
    exact ⟨app, hmem, decide_eq_true hid⟩
  · rintro ⟨app, hmem, hid⟩
    exact ⟨app, hmem, of_decide_eq_true hid⟩

theorem Registered.getById (h : m.Registered id) : ∃ app, m.getById id = some app :=
  Option.isSome_iff_exists.1 (registered_iff.1 h)

/-- No two connections share their id, or their application and address. -/
def Distinct (m : ContextMap C) : Prop :=
  ∀ c ∈ m.mConnections, ∀ c' ∈ m.mConnections,
    c.connId = c'.connId ∨ (c.address = c'.address ∧ c.appId = c'.appId) → c = c'

theorem Distinct.connIdByAddress (h : m.Distinct) (hc : c ∈ m.mConnections)
    (hregistered : m.Registered c.appId) : m.connIdByAddress c.appId c.address = c.connId := by
  obtain ⟨app, happ⟩ := hregistered.getById
  have hfind := @Support.find?_of_unique _ m.mConnections
    (fun c' => decide (c'.address = c.address ∧ c'.appId = c.appId)) c hc
    (decide_eq_true ⟨rfl, rfl⟩)
    fun c' hc' hp => h c' hc' c hc (.inr (of_decide_eq_true hp))
  unfold ContextMap.connIdByAddress
  rw [happ]
  dsimp only
  rw [hfind]

theorem Distinct.getByConnId (h : m.Distinct) (hc : c ∈ m.mConnections) :
    m.getByConnId c.connId = m.getById c.appId := by
  have hfind := @Support.find?_of_unique _ m.mConnections
    (fun c' => decide (c'.connId = c.connId)) c hc
    (decide_eq_true rfl) fun c' hc' hp => h c' hc' c hc (.inl (of_decide_eq_true hp))
  unfold ContextMap.getByConnId
  rw [hfind]

/-- An id that is found is the one of a connection. -/
theorem connIdByAddress_mem {address : String} (h : 0 ≤ m.connIdByAddress id address) :
    ∃ c ∈ m.mConnections, c.connId = m.connIdByAddress id address ∧ c.address = address ∧
      c.appId = id := by
  have hinvalid : ¬ (0 : Int) ≤ -1 := by decide
  unfold connIdByAddress at h ⊢
  cases happ : m.getById id with
  | none =>
      rw [happ] at h
      exact absurd h hinvalid
  | some app =>
      rw [happ] at h
      dsimp only at h ⊢
      cases hfind : m.mConnections.find? fun c => decide (c.address = address ∧ c.appId = id) with
      | none =>
          rw [hfind] at h
          exact absurd h hinvalid
      | some c =>
          have hc : c.address = address ∧ c.appId = id := by simpa using find?_some hfind
          exact ⟨c, mem_of_find?_eq_some hfind, rfl, hc⟩

/-! ## What the operations keep -/

theorem mem_insertConnection {c' : AppConnection} {order : List AppConnection} :
    c' ∈ (m.insertConnection c order).mConnections ↔ c' = c ∨ c' ∈ m.mConnections := by
  unfold insertConnection
  dsimp only
  split
  · next hperm => rw [(isPerm_iff.1 hperm).mem_iff, mem_cons]
  · rw [mem_cons]

/-- The connection may be added without a clash. -/
def Fresh (m : ContextMap C) (c : AppConnection) : Prop :=
  ∀ c' ∈ m.mConnections, c'.connId ≠ c.connId ∧ ¬ (c'.address = c.address ∧ c'.appId = c.appId)

theorem Distinct.insertConnection (h : m.Distinct) (hfresh : m.Fresh c)
    (order : List AppConnection) :
    (m.insertConnection c order).Distinct := by
  intro c₁ h₁ c₂ h₂ hsame
  obtain rfl | hold₁ := mem_insertConnection.1 h₁
  · obtain rfl | hold₂ := mem_insertConnection.1 h₂
    · rfl
    · obtain ⟨hid, hpair⟩ := hfresh c₂ hold₂
      obtain heq | ⟨haddress, happ⟩ := hsame
      · exact absurd heq.symm hid
      · exact absurd ⟨haddress.symm, happ.symm⟩ hpair
  · obtain rfl | hold₂ := mem_insertConnection.1 h₂
    · obtain ⟨hid, hpair⟩ := hfresh c₁ hold₁
      obtain heq | hboth := hsame
      · exact absurd heq hid
      · exact absurd hboth hpair
    · exact h c₁ hold₁ c₂ hold₂ hsame

theorem Distinct.subset {m' : ContextMap C} (h : m.Distinct)
    (hsub : ∀ c ∈ m'.mConnections, c ∈ m.mConnections) : m'.Distinct :=
  fun c hc c' hc' => h c (hsub c hc) c' (hsub c' hc')

theorem removeConnection_subset {connId : Int} (hc : c ∈ (m.removeConnection connId).mConnections) :
    c ∈ m.mConnections :=
  mem_of_mem_eraseP hc

theorem mem_removeConnection {connId : Int} (hc : c ∈ m.mConnections) (hne : c.connId ≠ connId) :
    c ∈ (m.removeConnection connId).mConnections :=
  (mem_eraseP_of_neg (by simpa using hne)).2 hc

theorem remove_subset (hc : c ∈ (m.remove id).mConnections) : c ∈ m.mConnections := by
  unfold remove at hc
  split at hc
  · exact hc
  · exact mem_of_mem_eraseP hc

theorem mem_remove (hc : c ∈ m.mConnections) (hne : c.appId ≠ id) :
    c ∈ (m.remove id).mConnections := by
  unfold remove
  split
  · exact hc
  · exact (mem_eraseP_of_neg (by simpa using hne)).2 hc

theorem Registered.remove {id' : Int} (h : m.Registered id') (hne : id' ≠ id) :
    (m.remove id).Registered id' := by
  obtain ⟨app, hmem, hid⟩ := h
  unfold ContextMap.remove
  split
  · exact ⟨app, hmem, hid⟩
  · refine ⟨app, (mem_eraseP_of_neg ?_).2 hmem, hid⟩
    rw [hid]
    simpa using hne

theorem Registered.add (h : m.Registered id) (uuid : Uuid) (callback : C) :
    (m.add uuid callback).Registered id := by
  obtain ⟨app, hmem, hid⟩ := h
  exact ⟨app, mem_append_left _ hmem, hid⟩

/-- No two applications share their UUID. -/
def UuidsDistinct (m : ContextMap C) : Prop := (m.mApps.map App.uuid).Nodup

theorem UuidsDistinct.add (h : m.UuidsDistinct) (hnew : ∀ app ∈ m.mApps, app.uuid ≠ uuid)
    (callback : C) : (m.add uuid callback).UuidsDistinct := by
  unfold UuidsDistinct ContextMap.add
  rw [map_append, nodup_append]
  refine ⟨h, nodup_singleton _, ?_⟩
  intro u hu v hv
  obtain ⟨app, hmem, rfl⟩ := mem_map.1 hu
  obtain rfl := mem_singleton.1 hv
  exact hnew app hmem

theorem UuidsDistinct.remove (h : m.UuidsDistinct) (id : Int) : (m.remove id).UuidsDistinct := by
  unfold UuidsDistinct ContextMap.remove
  split
  · exact h
  · exact h.sublist (eraseP_sublist.map _)

/-- The first application with the UUID gets the id. -/
theorem setId_cons (app : App C) (apps : List (App C)) (connections : List AppConnection)
    (uuid : Uuid) (id : Int) : (setId ⟨app :: apps, connections⟩ uuid id).mApps =
      if app.uuid = uuid then { app with id := some id } :: apps
      else app :: (setId ⟨apps, connections⟩ uuid id).mApps := by
  unfold setId
  dsimp only
  by_cases huuid : app.uuid = uuid
  · simp [replaceF, huuid]
  · simp [replaceF, huuid]

theorem uuid_setId (m : ContextMap C) (uuid : Uuid) (id : Int) :
    (m.setId uuid id).mApps.map App.uuid = m.mApps.map App.uuid := by
  obtain ⟨apps, connections⟩ := m
  induction apps with
  | nil => rfl
  | cons app apps ih =>
      rw [setId_cons]
      split
      · rfl
      · rw [map_cons, map_cons, ih]

theorem UuidsDistinct.setId (h : m.UuidsDistinct) (uuid : Uuid) (id : Int) :
    (m.setId uuid id).UuidsDistinct := by
  unfold UuidsDistinct
  rwa [uuid_setId]

/-- Applications with other UUIDs stay as they are. -/
theorem mem_setId (hmem : app ∈ m.mApps) (hne : app.uuid ≠ uuid) :
    app ∈ (m.setId uuid id).mApps := by
  obtain ⟨apps, connections⟩ := m
  induction apps with
  | nil => cases hmem
  | cons first apps ih =>
      rw [setId_cons]
      obtain rfl | hmem := mem_cons.1 hmem
      · rw [if_neg hne]
        exact mem_cons_self
      · split
        · exact mem_cons_of_mem _ hmem
        · exact mem_cons_of_mem _ (ih hmem)

theorem UuidsDistinct.eq (h : m.UuidsDistinct) {app' : App C} (hmem : app ∈ m.mApps)
    (hmem' : app' ∈ m.mApps) (heq : app.uuid = app'.uuid) : app = app' :=
  inj_on_of_nodup_map h hmem hmem' heq

/-- An application without an id has a UUID that none with an id has. -/
theorem UuidsDistinct.uuid_ne (h : m.UuidsDistinct)
    (hnone : ∃ app ∈ m.mApps, app.uuid = uuid ∧ app.id = none) (hmem : app ∈ m.mApps)
    (hid : app.id = some id) : app.uuid ≠ uuid := by
  obtain ⟨app', hmem', huuid, hnone⟩ := hnone
  intro heq
  obtain rfl := h.eq hmem hmem' (heq.trans huuid.symm)
  rw [hid] at hnone
  cases hnone

/-- An id for an application without one takes none from another. -/
theorem Registered.setId {id' : Int} (h : m.Registered id') (hdistinct : m.UuidsDistinct)
    (hnone : ∃ app ∈ m.mApps, app.uuid = uuid ∧ app.id = none) :
    (m.setId uuid id).Registered id' := by
  obtain ⟨app, hmem, hid⟩ := h
  exact ⟨app, mem_setId hmem (hdistinct.uuid_ne hnone hmem hid), hid⟩

/-- Nor does the removal of one. -/
theorem Registered.removeUuid (h : m.Registered id) (hdistinct : m.UuidsDistinct)
    (hnone : ∃ app ∈ m.mApps, app.uuid = uuid ∧ app.id = none) :
    (m.removeUuid uuid).Registered id := by
  obtain ⟨app, hmem, hid⟩ := h
  have hne := hdistinct.uuid_ne hnone hmem hid
  exact ⟨app, (mem_eraseP_of_neg (by simpa using hne)).2 hmem, hid⟩

theorem UuidsDistinct.removeUuid (h : m.UuidsDistinct) (uuid : Uuid) :
    (m.removeUuid uuid).UuidsDistinct :=
  h.sublist (eraseP_sublist.map _)

end ContextMap

end Gatt
