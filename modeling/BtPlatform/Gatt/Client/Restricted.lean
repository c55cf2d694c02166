import BtPlatform.Gatt.Client.Library

/-!
# Restricted attributes

The characteristics of HID reports with their descriptors and the attributes of FIDO services
are restricted. What happens at the library of GATT clients is followed together with the
connections that are open, each with the database that was last discovered on it.
-/

namespace Gatt

open Support List

/-! ## The attributes of a database -/

/-- An attribute that an access can be for: a characteristic or a descriptor. -/
structure DbAttribute where
  uuid : Uuid
  handle : Int
  restricted : Bool
  deriving DecidableEq

/-- A characteristic and its descriptors are restricted together. -/
def characteristicAttributes (service : GattService) (characteristic : GattCharacteristic) :
    List DbAttribute :=
  ⟨characteristic.uuid, characteristic.instanceId,
      isRestrictedCharUuid characteristic.uuid || isRestrictedSrvcUuid service.uuid⟩ ::
    characteristic.descriptors.map fun descriptor =>
      ⟨descriptor.uuid, descriptor.instanceId,
        isRestrictedCharUuid characteristic.uuid || isRestrictedSrvcUuid service.uuid⟩

def dbAttributes (db : List GattService) : List DbAttribute :=
  db.flatMap fun service => service.characteristics.flatMap (characteristicAttributes service)

/-- No two attributes share their handle. -/
def HandlesDistinct (db : List GattService) : Prop :=
  ((dbAttributes db).map DbAttribute.handle).Nodup

instance (db : List GattService) : Decidable (HandlesDistinct db) :=
  inferInstanceAs (Decidable (List.Nodup _))

theorem find?_characteristicAttributes (service : GattService)
    (characteristic : GattCharacteristic) (handle : Int) :
    ((characteristicAttributes service characteristic).find? fun a =>
        decide (handle = a.handle)).map (!·.restricted) =
      if ClientLib.holdsHandle characteristic handle then
        some (!(isRestrictedCharUuid characteristic.uuid || isRestrictedSrvcUuid service.uuid))
      else none := by
  have hholds : ((characteristicAttributes service characteristic).any fun a =>
      decide (handle = a.handle)) = ClientLib.holdsHandle characteristic handle := by
    unfold characteristicAttributes ClientLib.holdsHandle
    rw [any_cons, any_map]
    rfl
  rw [← hholds]
  apply map_find?_of_const
  intro a ha
  obtain rfl | hdescriptor := mem_cons.1 ha
  · rfl
  · obtain ⟨descriptor, -, rfl⟩ := mem_map.1 hdescriptor
    rfl

namespace ClientLib

variable {C : Type} {s : ClientLib C}

/-- The check looks at the first attribute with the handle. -/
theorem permissionCheck_eq {connId handle : Int} {db : List GattService}
    (hdb : s.mGattClientDatabases.lookup connId = some db) :
    s.permissionCheck connId handle = (((dbAttributes db).find? fun a =>
      decide (handle = a.handle)).map (!·.restricted)).getD true := by
  unfold permissionCheck dbAttributes
  rw [hdb]
  dsimp only
  rw [find?_flatMap, map_findSome?]
  congr 2
  funext service
  rw [Function.comp_apply, find?_flatMap, map_findSome?]
  congr 1
  funext characteristic
  exact (find?_characteristicAttributes service characteristic handle).symm

/-- In a database whose handles are distinct, the restricted attributes are not permitted, and
the others are. -/
theorem permissionCheck_of_mem {connId : Int} {db : List GattService} {a : DbAttribute}
    (hdb : s.mGattClientDatabases.lookup connId = some db) (hdistinct : HandlesDistinct db)
    (ha : a ∈ dbAttributes db) : s.permissionCheck connId a.handle = !a.restricted := by
  have hfind := @find?_of_unique _ (dbAttributes db)
    (fun b => decide (a.handle = b.handle)) a ha (decide_eq_true rfl)
    fun b hb hp => (inj_on_of_nodup_map hdistinct ha hb (of_decide_eq_true hp)).symm
  rw [permissionCheck_eq hdb, hfind]
  rfl

end ClientLib

/-! ## Accesses -/

/-- The calls of a client that access attributes. -/
inductive ClientRequest
  | readCharacteristic (handle authReq : Int)
  | readUsingCharacteristicUuid (uuid : Uuid) (startHandle endHandle authReq : Int)
  | writeCharacteristic (handle writeType authReq : Int) (value : List UInt8)
  | readDescriptor (handle authReq : Int)
  | writeDescriptor (handle authReq : Int) (value : List UInt8)
  | registerForNotification (handle : Int) (enable : Bool)
  deriving DecidableEq

/-- The access is for the attribute; a read by UUID is for every attribute of this type in
its range. -/
def ClientRequest.Targets : ClientRequest → DbAttribute → Prop
  | .readCharacteristic handle _, a => a.handle = handle
  | .readUsingCharacteristicUuid uuid startHandle endHandle _, a =>
      a.uuid = uuid ∧ startHandle ≤ a.handle ∧ a.handle ≤ endHandle
  | .writeCharacteristic handle _ _ _, a => a.handle = handle
  | .readDescriptor handle _, a => a.handle = handle
  | .writeDescriptor handle _ _, a => a.handle = handle
  | .registerForNotification handle _, a => a.handle = handle

/-- The UUID of a read by UUID. -/
def ClientRequest.uuid : ClientRequest → Option Uuid
  | .readUsingCharacteristicUuid uuid _ _ _ => some uuid
  | _ => none

/-- A write without a value. -/
def ClientRequest.isEmpty : ClientRequest → Bool
  | .writeCharacteristic _ _ _ value => decide (ClientLib.cValue value = [])
  | .writeDescriptor _ _ value => decide (ClientLib.cValue value = [])
  | _ => false

/-- The access is for attributes of the database, and for no restricted one. -/
def ClientRequest.Allowed (request : ClientRequest) (db : List GattService) : Prop :=
  (∃ a ∈ dbAttributes db, request.Targets a) ∧
    ∀ a ∈ dbAttributes db, request.Targets a → a.restricted = false

/-- The call of the stack for an access over a connection. -/
def ClientRequest.call (c : AppConnection) (prepared : Bool) : ClientRequest → ClientCall
  | .readCharacteristic handle authReq => .readCharacteristic c.connId handle authReq
  | .readUsingCharacteristicUuid uuid startHandle endHandle authReq =>
      .readUsingCharacteristicUuid c.connId uuid startHandle endHandle authReq
  | .writeCharacteristic handle writeType authReq value =>
      .writeCharacteristic c.connId handle (if prepared then 3 else writeType) authReq
        (ClientLib.cValue value)
  | .readDescriptor handle authReq => .readDescriptor c.connId handle authReq
  | .writeDescriptor handle authReq value =>
      .writeDescriptor c.connId handle authReq (ClientLib.cValue value)
  | .registerForNotification handle enable =>
      .registerForNotifications c.appId c.address handle enable

/-- The stack is called for an attribute of the device that the connection leads to. -/
def ClientCall.Touches (c : AppConnection) (a : DbAttribute) : ClientCall → Prop
  | .readCharacteristic connId handle _ => connId = c.connId ∧ a.handle = handle
  | .readUsingCharacteristicUuid connId uuid startHandle endHandle _ =>
      connId = c.connId ∧ a.uuid = uuid ∧ startHandle ≤ a.handle ∧ a.handle ≤ endHandle
  | .writeCharacteristic connId handle _ _ _ => connId = c.connId ∧ a.handle = handle
  | .readDescriptor connId handle _ => connId = c.connId ∧ a.handle = handle
  | .writeDescriptor connId handle _ _ => connId = c.connId ∧ a.handle = handle
  | .executeWrite _ _ => False
  | .registerForNotifications clientIf address handle _ =>
      (clientIf = c.appId ∧ address = c.address) ∧ a.handle = handle

namespace ClientLib

variable {C : Type}

def request (s : ClientLib C) (clientIf : Int) (address : String) :
    ClientRequest → List ClientCall
  | .readCharacteristic handle authReq => s.readCharacteristic clientIf address handle authReq
  | .readUsingCharacteristicUuid uuid startHandle endHandle authReq =>
      s.readUsingCharacteristicUuid clientIf address uuid startHandle endHandle authReq
  | .writeCharacteristic handle writeType authReq value =>
      s.writeCharacteristic clientIf address handle writeType authReq value
  | .readDescriptor handle authReq => s.readDescriptor clientIf address handle authReq
  | .writeDescriptor handle authReq value =>
      s.writeDescriptor clientIf address handle authReq value
  | .registerForNotification handle enable =>
      s.registerForNotification clientIf address handle enable

/-! ## Runs -/

inductive Event (C : Type)
  | registerClient (uuid : Uuid) (callback : C)
  | onClientRegistered (status clientIf : Int) (uuid : Uuid)
  | unregisterClient (clientIf : Int)
  | onConnected (clientIf connId status : Int) (address : String) (order : List AppConnection)
  | onDisconnected (connId : Int)
  | onGetGattDb (connId : Int) (db : List GattDbElement)
  | request (clientIf : Int) (address : String) (request : ClientRequest)
  | beginReliableWrite (address : String)
  | endReliableWrite (clientIf : Int) (address : String) (execute : Bool)
  | onNotify (connId : Int) (address : String) (handle : Int) (data : List UInt8)

/-- `none` is a pointer that is `NULL`. -/
def step (s : ClientLib C) : Event C → Option (ClientLib C × ClientEffect C)
  | .registerClient uuid callback => some (s.registerClient uuid callback, .none)
  | .onClientRegistered status clientIf uuid =>
      some (s.onClientRegistered status clientIf uuid, .none)
  | .unregisterClient clientIf => some (s.unregisterClient clientIf, .none)
  | .onConnected clientIf connId status address order =>
      some (s.onConnected clientIf connId status address order, .none)
  | .onDisconnected connId => some (s.onDisconnected connId, .none)
  | .onGetGattDb connId db => s.onGetGattDb connId db
  | .request clientIf address request => some (s, ⟨s.request clientIf address request, []⟩)
  | .beginReliableWrite address => some (s.beginReliableWrite address, .none)
  | .endReliableWrite clientIf address execute =>
      some (s.endReliableWrite clientIf address execute)
  | .onNotify connId address handle data => some (s, ⟨[], s.onNotify connId address handle data⟩)

/-- A connection that is open, with the database last discovered on it. -/
structure Link where
  connection : AppConnection
  db : Option (List GattService)

def Link.discover (link : Link) (connId : Int) (db : Option (List GattService)) : Link :=
  if link.connection.connId = connId then { link with db := db } else link

/-- The open connections after an event. -/
def linksAfter (s : ClientLib C) (w : List Link) : Event C → List Link
  | .unregisterClient clientIf => w.filter fun link => link.connection.appId != clientIf
  | .onConnected clientIf connId status address _ =>
      if status = 0 ∧ (s.mClientMap.getById clientIf).isSome then
        w ++ [⟨⟨connId, address, clientIf⟩, none⟩]
      else w
  | .onDisconnected connId => w.filter fun link => link.connection.connId != connId
  | .onGetGattDb connId db => w.map (·.discover connId (Gatt.onGetGattDb db))
  | _ => w

/-- What the stack and the callers do. UUIDs are drawn at random, and a registration is
answered once, with an interface that no other client has. No open connection has the id of a
new one, and the attributes of a device have handles of their own. -/
def Legal (s : ClientLib C) (w : List Link) : Event C → Prop
  | .registerClient uuid _ => ∀ app ∈ s.mClientMap.mApps, app.uuid ≠ uuid
  | .onClientRegistered status clientIf uuid =>
      (∃ app ∈ s.mClientMap.mApps, app.uuid = uuid ∧ app.id = none) ∧
        (status = 0 → ¬ s.mClientMap.Registered clientIf)
  | .onConnected _ connId status _ _ =>
      status = 0 → 0 ≤ connId ∧ ∀ link ∈ w, link.connection.connId ≠ connId
  | .onGetGattDb _ db => ∀ dbOut ∈ Gatt.onGetGattDb db, HandlesDistinct dbOut
  | _ => True

/-- No restricted attribute of a device is accessed. -/
def Guarded (w : List Link) (calls : List ClientCall) : Prop :=
  ∀ link ∈ w, ∀ db ∈ link.db, ∀ a ∈ dbAttributes db, a.restricted = true →
    ∀ call ∈ calls, ¬ call.Touches link.connection a

/-- What is promised of an event: no restricted attribute is accessed, an access to other
attributes is passed on, and a notification is reported if and only if its attribute is not
restricted. -/
def Correct (s : ClientLib C) (w : List Link) (event : Event C) (effect : ClientEffect C) : Prop :=
  Guarded w effect.calls ∧
    match event with
    | .request clientIf address request =>
        ∀ link ∈ w, link.connection.appId = clientIf → link.connection.address = address →
          ∀ db ∈ link.db, request.Allowed db → effect.calls =
            [request.call link.connection (decide (address ∈ s.mReliableQueue))]
    | .onNotify connId address handle data =>
        ∀ link ∈ w, link.connection.connId = connId →
          ∀ db ∈ link.db, ∀ a ∈ dbAttributes db, a.handle = handle →
            (a.restricted = true → effect.reports = []) ∧
            (a.restricted = false → ∃ app ∈ s.mClientMap.mApps,
              app.id = some link.connection.appId ∧
                effect.reports = [.onNotify app.callback address handle data])
    | _ => True

/-- The condition. A connection that is recorded finds none with its id, nor one of its client
to its address. A discovery finds no database under its connection id, or the same one. A
write has a value, and the attributes that a read by UUID is for are restricted because of this
UUID, or not at all. -/
def Careful (s : ClientLib C) (w : List Link) : Event C → Prop
  | .onConnected clientIf connId status address _ =>
      status = 0 → s.mClientMap.Registered clientIf →
        s.mClientMap.Fresh ⟨connId, address, clientIf⟩
  | .onGetGattDb connId db => ∀ app, s.mClientMap.getByConnId connId = some app →
      ∀ old, s.mGattClientDatabases.lookup connId = some old → Gatt.onGetGattDb db = some old
  | .request clientIf address request =>
      request.isEmpty = false ∧ ∀ uuid ∈ request.uuid, ∀ link ∈ w,
        link.connection.appId = clientIf → link.connection.address = address →
          ∀ db ∈ link.db, ∀ a ∈ dbAttributes db, request.Targets a →
            a.restricted = isRestrictedCharUuid uuid
  | _ => True

/-- The runs of a library, with the open connections in each state. -/
inductive Runs : ClientLib C → List Link → Prop
  | start : Runs .empty []
  | step {s s' : ClientLib C} {w : List Link} {effect : ClientEffect C} (event : Event C) :
      Runs s w → Legal s w event → s.step event = some (s', effect) →
      Runs s' (s.linksAfter w event)

/-- The runs whose events meet the condition. -/
inductive Reaches : ClientLib C → List Link → Prop
  | start : Reaches .empty []
  | step {s s' : ClientLib C} {w : List Link} {effect : ClientEffect C} (event : Event C) :
      Reaches s w → Legal s w event → Careful s w event → s.step event = some (s', effect) →
      Reaches s' (s.linksAfter w event)

end ClientLib

end Gatt
