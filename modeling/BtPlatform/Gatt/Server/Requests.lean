import BtPlatform.Gatt.Database.Tree
import BtPlatform.Gatt.Library.ContextMap
import BtPlatform.Support.Table

/-!
# Requests to GATT servers

The stack passes requests for attributes to the library, which finds the server by the
handle and remembers the handle by the transaction id. The application answers with the
transaction id, and the library passes the answer back with what it remembers. What else is
reported to the application is left out.
-/

namespace Gatt

open Support

/-! ## The handle map -/

/-- `TYPE_SERVICE`, `TYPE_CHARACTERISTIC` and `TYPE_DESCRIPTOR`. -/
inductive EntryType
  | service
  | characteristic
  | descriptor
  deriving DecidableEq

/-- `HandleMap::Entry`. -/
structure HandleEntry where
  serverIf : Int
  type : EntryType
  handle : Int
  serviceHandle : Int
  deriving DecidableEq

structure HandleMap where
  mEntries : List HandleEntry
  mRequestMap : Table Int Int

namespace HandleMap

def empty : HandleMap := ⟨[], ∅⟩

def getByHandle (m : HandleMap) (handle : Int) : Option HandleEntry :=
  m.mEntries.find? fun entry => decide (entry.handle = handle)

/-- `addService`, `addCharacteristic` and `addDescriptor` for an element of a service. -/
def entryOf (serverIf srvcHandle : Int) (el : GattDbElement) : Option HandleEntry :=
  match el.type with
  | .primaryService | .secondaryService => some ⟨serverIf, .service, el.attributeHandle, 0⟩
  | .characteristic => some ⟨serverIf, .characteristic, el.attributeHandle, srvcHandle⟩
  | .descriptor => some ⟨serverIf, .descriptor, el.attributeHandle, srvcHandle⟩
  | .includedService => none

/-- `deleteService`: one entry is erased, the first one that belongs to the service. -/
def deleteService (m : HandleMap) (serverIf serviceHandle : Int) : HandleMap :=
  { m with mEntries := m.mEntries.eraseP fun entry => decide (entry.serverIf = serverIf ∧
      (entry.handle = serviceHandle ∨ entry.serviceHandle = serviceHandle)) }

def addRequest (m : HandleMap) (requestId handle : Int) : HandleMap :=
  { m with mRequestMap := m.mRequestMap.emplace requestId handle }

def deleteRequest (m : HandleMap) (requestId : Int) : HandleMap :=
  { m with mRequestMap := m.mRequestMap.erase requestId }

def getByRequestId (m : HandleMap) (requestId : Int) : Option HandleEntry :=
  match m.mRequestMap.lookup requestId with
  | none => none
  | some handle => m.getByHandle handle

end HandleMap

/-! ## The library -/

/-- What a request asks for. -/
inductive Access
  | readCharacteristic (offset : Int) (isLong : Bool)
  | readDescriptor (offset : Int) (isLong : Bool)
  | writeCharacteristic (offset length : Int) (isPrep needRsp : Bool) (data : List UInt8)
  | writeDescriptor (offset length : Int) (isPrep needRsp : Bool) (data : List UInt8)
  deriving DecidableEq

/-- A request that is passed to a callback of an application. -/
inductive Delivered (C : Type)
  | request (callback : C) (address : String) (transId handle : Int) (access : Access)
  | executeWrite (callback : C) (address : String) (transId : Int) (execute : Bool)

/-- The arguments of `gattServerSendResponseNative`. -/
structure NativeResponse where
  serverIf : Int
  connId : Int
  transId : Int
  status : UInt8
  handle : Int
  offset : Int
  value : List UInt8
  authReq : UInt8
  deriving DecidableEq

/-- A call of the stack. -/
inductive NativeCall
  | sendResponse (response : NativeResponse)
  | deleteService (serverIf handle : Int)
  | unregisterApp (serverIf : Int)
  deriving DecidableEq

/-- What an event leads to. -/
structure Effect (C : Type) where
  delivered : List (Delivered C)
  calls : List NativeCall

def Effect.none {C : Type} : Effect C := ⟨[], []⟩

/-- The part of `GattLibService` that serves servers. -/
structure ServerLib (C : Type) where
  mServerMap : ContextMap C
  mHandleMap : HandleMap

namespace ServerLib

variable {C : Type}

def empty : ServerLib C := ⟨.empty, .empty⟩

/-- `registerServer`, up to the call of the stack. -/
def registerServer (s : ServerLib C) (uuid : Uuid) (callback : C) : ServerLib C :=
  { s with mServerMap := s.mServerMap.add uuid callback }

def onServerRegistered (s : ServerLib C) (serverIf : Int) (uuid : Uuid) : ServerLib C :=
  { s with mServerMap := s.mServerMap.setId uuid serverIf }

/-- `deleteServices`: the services that the stack is told to delete. -/
def deleteServices (s : ServerLib C) (serverIf : Int) : List NativeCall :=
  (s.mHandleMap.mEntries.filter fun entry =>
    decide (entry.type = .service ∧ entry.serverIf = serverIf)).map fun entry =>
      .deleteService serverIf entry.handle

def unregisterServer (s : ServerLib C) (serverIf : Int) : ServerLib C × Effect C :=
  ({ s with mServerMap := s.mServerMap.remove serverIf },
    ⟨[], s.deleteServices serverIf ++ [.unregisterApp serverIf]⟩)

/-- `onServiceAdded`; an answer has at least the element of the service itself. -/
def onServiceAdded (s : ServerLib C) (status serverIf : Int) (service : List GattDbElement) :
    ServerLib C :=
  if status ≠ 0 then s
  else
    match service with
    | [] => s
    | svcEl :: _ =>
        { s with mHandleMap := { s.mHandleMap with
            mEntries := s.mHandleMap.mEntries ++
              service.filterMap (HandleMap.entryOf serverIf svcEl.attributeHandle) } }

/-- `onServiceDeleted`; the status is not looked at. -/
def onServiceDeleted (s : ServerLib C) (serverIf srvcHandle : Int) : ServerLib C :=
  { s with mHandleMap := s.mHandleMap.deleteService serverIf srvcHandle }

def onClientConnected (s : ServerLib C) (address : String) (connected : Bool)
    (connId serverIf : Int) (order : List AppConnection) : ServerLib C :=
  match s.mServerMap.getById serverIf with
  | none => s
  | some _ =>
      if connected then
        { s with mServerMap := s.mServerMap.addConnection serverIf connId address order }
      else { s with mServerMap := s.mServerMap.removeConnection connId }

/-- The handlers of the four requests: the request is recorded before the server is
looked for. The connection id is not looked at. -/
def onRequest (s : ServerLib C) (address : String) (transId handle : Int) (access : Access) :
    ServerLib C × Effect C :=
  match s.mHandleMap.getByHandle handle with
  | none => (s, .none)
  | some entry =>
      let s := { s with mHandleMap := s.mHandleMap.addRequest transId handle }
      match s.mServerMap.getById entry.serverIf with
      | none => (s, .none)
      | some app => (s, ⟨[.request app.callback address transId handle access], []⟩)

def onServerReadCharacteristic (s : ServerLib C) (address : String)
    (transId handle offset : Int) (isLong : Bool) : ServerLib C × Effect C :=
  s.onRequest address transId handle (.readCharacteristic offset isLong)

def onServerReadDescriptor (s : ServerLib C) (address : String)
    (transId handle offset : Int) (isLong : Bool) : ServerLib C × Effect C :=
  s.onRequest address transId handle (.readDescriptor offset isLong)

def onServerWriteCharacteristic (s : ServerLib C) (address : String)
    (transId handle offset length : Int) (needRsp isPrep : Bool) (data : List UInt8) :
    ServerLib C × Effect C :=
  s.onRequest address transId handle (.writeCharacteristic offset length isPrep needRsp data)

def onServerWriteDescriptor (s : ServerLib C) (address : String)
    (transId handle offset length : Int) (needRsp isPrep : Bool) (data : List UInt8) :
    ServerLib C × Effect C :=
  s.onRequest address transId handle (.writeDescriptor offset length isPrep needRsp data)

/-- `onExecuteWrite`: the server is the one of the connection, nothing is recorded. -/
def onExecuteWrite (s : ServerLib C) (address : String) (connId transId execWrite : Int) :
    ServerLib C × Effect C :=
  match s.mServerMap.getByConnId connId with
  | none => (s, .none)
  | some app =>
      (s, ⟨[.executeWrite app.callback address transId (decide (execWrite = 1))], []⟩)

/-- The handle that a response is sent with. -/
def responseHandle (s : ServerLib C) (requestId : Int) : Int :=
  match s.mHandleMap.getByRequestId requestId with
  | some entry => entry.handle
  | none => 0

/-- The connection that a response is sent on. -/
def responseConnId (s : ServerLib C) (serverIf : Int) (address : String) : Int :=
  if s.mServerMap.connIdByAddress serverIf address < 0 then 0
  else s.mServerMap.connIdByAddress serverIf address

/-- `sendResponse`: the value ends in front of its first zero byte. -/
def sendResponse (s : ServerLib C) (serverIf : Int) (address : String)
    (requestId status offset : Int) (value : Option (List UInt8)) : ServerLib C × Effect C :=
  ({ s with mHandleMap := s.mHandleMap.deleteRequest requestId },
    ⟨[], [.sendResponse
      { serverIf := serverIf
        connId := s.responseConnId serverIf address
        transId := requestId
        status := UInt8.ofInt status
        handle := s.responseHandle requestId
        offset := offset
        value := (value.getD []).takeWhile (· ≠ 0)
        authReq := 0 }]⟩)

end ServerLib

end Gatt
