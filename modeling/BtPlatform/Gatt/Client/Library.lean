import BtPlatform.Gatt.Database.Tree
import BtPlatform.Gatt.Library.ContextMap
import BtPlatform.Support.Table

/-!
# GATT clients in the library

The library keeps the database of every connection id from the first discovery on it, and
looks there whether an attribute may be accessed. The services that it keeps are shared with
the client object; that the client deletes them in the end is left out.
-/

namespace Gatt

open Support

/-- `HID_UUIDS` and `FIDO_UUIDS`. -/
def hidUuids : List Uuid := [0x2A4A, 0x2A4B, 0x2A4C, 0x2A4D].map Uuid.from16Bit
def fidoUuids : List Uuid := [Uuid.from16Bit 0xFFFD]

def isRestrictedCharUuid (charUuid : Uuid) : Bool := decide (charUuid ∈ hidUuids)
def isRestrictedSrvcUuid (srvcUuid : Uuid) : Bool := decide (srvcUuid ∈ fidoUuids)

/-! ## The library -/

/-- The calls of the stack that access attributes. -/
inductive ClientCall
  | readCharacteristic (connId handle authReq : Int)
  | readUsingCharacteristicUuid (connId : Int) (uuid : Uuid) (startHandle endHandle authReq : Int)
  | writeCharacteristic (connId handle writeType authReq : Int) (value : List UInt8)
  | readDescriptor (connId handle authReq : Int)
  | writeDescriptor (connId handle authReq : Int) (value : List UInt8)
  | executeWrite (connId : Int) (execute : Bool)
  | registerForNotifications (clientIf : Int) (address : String) (handle : Int) (enable : Bool)
  deriving DecidableEq

/-- What is passed to the callback of a client. -/
inductive ClientReport (C : Type)
  | onSearchComplete (callback : C) (address : String) (services : List GattService) (status : Int)
  | onNotify (callback : C) (address : String) (handle : Int) (data : List UInt8)

structure ClientEffect (C : Type) where
  calls : List ClientCall
  reports : List (ClientReport C)

def ClientEffect.none {C : Type} : ClientEffect C := ⟨[], []⟩

/-- The part of `GattLibService` that serves clients. -/
structure ClientLib (C : Type) where
  mClientMap : ContextMap C
  mGattClientDatabases : Table Int (List GattService)
  mReliableQueue : List String

namespace ClientLib

variable {C : Type}

def empty : ClientLib C := ⟨.empty, ∅, []⟩

/-- `registerClient`, up to the call of the stack. -/
def registerClient (s : ClientLib C) (uuid : Uuid) (callback : C) : ClientLib C :=
  { s with mClientMap := s.mClientMap.add uuid callback }

def onClientRegistered (s : ClientLib C) (status clientIf : Int) (uuid : Uuid) : ClientLib C :=
  if status = 0 then { s with mClientMap := s.mClientMap.setId uuid clientIf }
  else { s with mClientMap := s.mClientMap.removeUuid uuid }

def unregisterClient (s : ClientLib C) (clientIf : Int) : ClientLib C :=
  { s with mClientMap := s.mClientMap.remove clientIf }

def onConnected (s : ClientLib C) (clientIf connId status : Int) (address : String)
    (order : List AppConnection) : ClientLib C :=
  if status = 0 then
    { s with mClientMap := s.mClientMap.addConnection clientIf connId address order }
  else s

/-- `onDisconnected`: the database stays. -/
def onDisconnected (s : ClientLib C) (connId : Int) : ClientLib C :=
  { s with mClientMap := s.mClientMap.removeConnection connId }

/-- `onGetGattDb`; `none` is a pointer that is `NULL`. -/
def onGetGattDb (s : ClientLib C) (connId : Int) (db : List GattDbElement) :
    Option (ClientLib C × ClientEffect C) :=
  match s.mClientMap.getByConnId connId with
  | none => some (s, .none)
  | some app =>
      (Gatt.onGetGattDb db).map fun dbOut =>
        ({ s with mGattClientDatabases := s.mGattClientDatabases.emplace connId dbOut },
          ⟨[], [.onSearchComplete app.callback (s.mClientMap.addressByConnId connId) dbOut 0]⟩)

/-- The characteristic, or one of its descriptors, has the handle. -/
def holdsHandle (characteristic : GattCharacteristic) (handle : Int) : Bool :=
  decide (handle = characteristic.instanceId) ||
    characteristic.descriptors.any fun descriptor => decide (handle = descriptor.instanceId)

/-- `permissionCheck` of a connection and a handle: without a database nothing is permitted,
and what is not in the database is. -/
def permissionCheck (s : ClientLib C) (connId handle : Int) : Bool :=
  match s.mGattClientDatabases.lookup connId with
  | none => false
  | some db =>
      (db.findSome? fun service => service.characteristics.findSome? fun characteristic =>
        if holdsHandle characteristic handle then
          some (!(isRestrictedCharUuid characteristic.uuid || isRestrictedSrvcUuid service.uuid))
        else none).getD true

/-- `permissionCheck` of a UUID. -/
def permissionCheckUuid (uuid : Uuid) : Bool := !isRestrictedCharUuid uuid

/-- The frame of the accesses: the connection is looked up, and the access is passed on if it
is permitted. -/
def access (s : ClientLib C) (clientIf : Int) (address : String) (permitted : Int → Bool)
    (call : Int → ClientCall) : List ClientCall :=
  if s.mClientMap.connIdByAddress clientIf address < 0 then []
  else if permitted (s.mClientMap.connIdByAddress clientIf address) then
    [call (s.mClientMap.connIdByAddress clientIf address)]
  else []

/-- A value ends in front of its first zero byte. -/
def cValue (value : List UInt8) : List UInt8 := value.takeWhile (· ≠ 0)

def readCharacteristic (s : ClientLib C) (clientIf : Int) (address : String)
    (handle authReq : Int) : List ClientCall :=
  s.access clientIf address (s.permissionCheck · handle) fun connId =>
    .readCharacteristic connId handle authReq

def readUsingCharacteristicUuid (s : ClientLib C) (clientIf : Int) (address : String) (uuid : Uuid)
    (startHandle endHandle authReq : Int) : List ClientCall :=
  s.access clientIf address (fun _ => permissionCheckUuid uuid) fun connId =>
    .readUsingCharacteristicUuid connId uuid startHandle endHandle authReq

/-- `writeCharacteristic`: a prepared write while writes are collected. The native interface
ignores an empty value. -/
def writeCharacteristic (s : ClientLib C) (clientIf : Int) (address : String)
    (handle writeType authReq : Int) (value : List UInt8) : List ClientCall :=
  if cValue value = [] then []
  else
    s.access clientIf address (s.permissionCheck · handle) fun connId =>
      .writeCharacteristic connId handle (if address ∈ s.mReliableQueue then 3 else writeType)
        authReq (cValue value)

def readDescriptor (s : ClientLib C) (clientIf : Int) (address : String) (handle authReq : Int) :
    List ClientCall :=
  s.access clientIf address (s.permissionCheck · handle) fun connId =>
    .readDescriptor connId handle authReq

def writeDescriptor (s : ClientLib C) (clientIf : Int) (address : String) (handle authReq : Int)
    (value : List UInt8) : List ClientCall :=
  if cValue value = [] then []
  else
    s.access clientIf address (s.permissionCheck · handle) fun connId =>
      .writeDescriptor connId handle authReq (cValue value)

def registerForNotification (s : ClientLib C) (clientIf : Int) (address : String) (handle : Int)
    (enable : Bool) : List ClientCall :=
  s.access clientIf address (s.permissionCheck · handle) fun _ =>
    .registerForNotifications clientIf address handle enable

def beginReliableWrite (s : ClientLib C) (address : String) : ClientLib C :=
  { s with mReliableQueue := s.mReliableQueue.insert address }

def endReliableWrite (s : ClientLib C) (clientIf : Int) (address : String) (execute : Bool) :
    ClientLib C × ClientEffect C :=
  ({ s with mReliableQueue := s.mReliableQueue.erase address },
    ⟨s.access clientIf address (fun _ => true) (.executeWrite · execute), []⟩)

def onNotify (s : ClientLib C) (connId : Int) (address : String) (handle : Int)
    (data : List UInt8) : List (ClientReport C) :=
  if s.permissionCheck connId handle then
    match s.mClientMap.getByConnId connId with
    | none => []
    | some app => [.onNotify app.callback address handle data]
  else []

end ClientLib

end Gatt
