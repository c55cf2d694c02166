import BtPlatform.Opp.Common
import BtPlatform.Opp.Formats
import BtPlatform.Support.Dispatcher

/-!
# Object push: a connection of the server

An `OPPSRV_CONNECTION` with the functions that the dispatcher will call for it, and its
handlers: the indications of the OBEX server, the confirmations of the object store, and
what the application decides. The store and the OBEX server answer each call with a status
from the event's `Surroundings`; a confirmation comes as an event of its own.
-/

namespace Opp

open Obex Support

/-- `OI_STATUS_INTERNAL_ERROR` and `OI_STATUS_END_OF_FILE`. -/
def internalError : Status := .other 105
def endOfFile : Status := .other 135

/-- An `OI_OPP_HANDLE` that is not null. -/
abbrev Handle : Type := Nat

/-- What is decided outside the program during one event. -/
structure Surroundings where
  memory : Memory
  /-- the dispatcher has room for another function -/
  room : Bool
  /-- the status of the call to the object store -/
  ofs : Status
  /-- the status of the call to OBEX -/
  obex : Status
  /-- the status of `OI_OBEXSRV_GetClientAddr` -/
  clientAddr : Status
  deriving DecidableEq, Repr

/-- Nothing fails outside the program. -/
def Surroundings.friendly : Surroundings where
  memory := .plenty
  room := true
  ofs := .ok
  obex := .ok
  clientAddr := .ok

/-- `OPP_SERVER_STATE`. -/
inductive ServerState
  | disconnected
  | connecting
  | connected
  | pullPending
  | clientPulling
  | pushPending
  | clientPushing
  deriving DecidableEq, Repr

/-- `state > OPP_SERVER_CONNECTED`. -/
def ServerState.isBusy : ServerState → Bool
  | .disconnected | .connecting | .connected => false
  | _ => true

/-- What the server has been registered with. -/
structure Registration where
  supportedFormats : UInt32
  /-- `callbacks->eventInd` is set -/
  eventInd : Bool
  /-- `callbacks->connectInd` and `callbacks->disconnectInd` are set -/
  connectInd : Bool
  /-- `objops->OpenWrite` and `objops->OpenRead` are set -/
  canWrite : Bool
  canRead : Bool
  deriving DecidableEq, Repr

/-- A server that asks nobody. -/
def plainServer (supportedFormats : UInt32) : Registration where
  supportedFormats := supportedFormats
  eventInd := false
  connectInd := false
  canWrite := true
  canRead := true

/-- A function on the dispatcher. -/
inductive Task
  | deferredObjectClose
  | firstBodyHeader
  deriving DecidableEq, Repr

/-- What the server calls. -/
inductive ServerAct
  | openWrite (name : Option (List UInt16)) (objType : Option (List UInt8)) (objSize : Nat)
  | openRead (maxReadSize : Nat)
  | write (handle : Option Handle) (data : List UInt8)
  | read (handle : Option Handle) (maxReadSize : Nat)
  | close (handle : Handle) (status : Status)
  | push (localName : Option (List UInt16)) (totalSize : Nat) (objType : List UInt8)
  | pull (localName : Option (List UInt16)) (totalSize : Nat) (objType : List UInt8)
  | pushComplete (finalSize : Nat) (status : Status)
  | pullComplete (finalSize : Nat) (status : Status)
  | connectInd
  | disconnectInd
  | acceptConnect (accept : Bool)
  | putResponse (status : Status)
  | getResponse (headers : List Header) (status : Status)
  deriving DecidableEq, Repr

/-- `OPPSRV_CONNECTION`. -/
structure ServerConnection where
  state : ServerState
  ofsHandle : Option Handle
  maxReadSize : Nat
  rcvObj : GenericObject
  closeCB : Option Nat
  final : Bool
  allowPush : Bool
  allowPull : Bool
  ofsAcceptPending : Bool
  ofsCfmPending : Bool
  deferredPPError : Bool
  deferredErrorStatus : Status
  deriving DecidableEq, Repr

/-- What `OI_Calloc` gives `ServerConnectInd`. -/
def ServerConnection.new : ServerConnection where
  state := .connecting
  ofsHandle := none
  maxReadSize := 0
  rcvObj := .zero
  closeCB := none
  final := false
  allowPush := false
  allowPull := false
  ofsAcceptPending := false
  ofsCfmPending := false
  deferredPPError := false
  deferredErrorStatus := .ok

/-- The connection after the body of a packet has been handed to the object store. -/
def ServerConnection.afterWrite (c : ServerConnection) (env : Surroundings) : ServerConnection :=
  { c with ofsCfmPending := env.ofs.success, rcvObj := { c.rcvObj with objData := [] } }

/-- The call that hands over the body. -/
def ServerConnection.bodyWrite (c : ServerConnection) : ServerAct :=
  .write c.ofsHandle c.rcvObj.objData

/-- The context of an OBEX connection, if it has one, and what surrounds it. -/
structure Serving where
  connection : Option ServerConnection
  dispatcher : Dispatcher Task
  acts : List ServerAct

namespace Serving

/-- Nothing has happened on the OBEX connection. -/
def start : Serving := ⟨none, .empty, []⟩

/-- Write to the connection. -/
def set (s : Serving) (c : ServerConnection) : Serving := { s with connection := some c }

/-- Call something. -/
def emit (s : Serving) (act : ServerAct) : Serving := { s with acts := s.acts ++ [act] }

variable (reg : Registration)

/-! ## The end of an operation -/

/-- The completion event of `ObjectClose`. -/
def completion (c : ServerConnection) (status : Status) : List ServerAct :=
  if reg.eventInd then
    match c.state with
    | .pullPending | .clientPulling => [.pullComplete c.rcvObj.objSize status]
    | .pushPending | .clientPushing => [.pushComplete c.rcvObj.objSize status]
    | _ => []
  else []

/-- `ObjectClose`. The error that was deferred is not forgotten. -/
def objectClose (s : Serving) (c : ServerConnection) (disconnected : Bool) (status : Status) :
    Serving :=
  { s with
    connection :=
      if disconnected then none
      else some { c with state := .connected, ofsHandle := none, rcvObj := .zero,
                         ofsAcceptPending := false, ofsCfmPending := false }
    acts := s.acts ++ c.ofsHandle.toList.map (ServerAct.close · status) ++
      completion reg c status ++
      if disconnected && reg.connectInd then [.disconnectInd] else [] }

def deferredObjectClose (s : Serving) : Serving :=
  match s.connection with
  | none => s
  | some c => s.objectClose reg { c with closeCB := none } false c.deferredErrorStatus

def setupDeferredObjectClose (s : Serving) (env : Surroundings) (c : ServerConnection)
    (status : Status) : Serving :=
  let (handle, dispatcher) := s.dispatcher.register env.room .deferredObjectClose
  { s with
    connection := some { c with
      deferredErrorStatus := if status = .obexCleanup then .ok else status
      closeCB := handle <|> c.closeCB }
    dispatcher := dispatcher }

/-- `CheckDeferredObjectClose` for a connection that exists. -/
def checkDeferredObjectClose (s : Serving) (c : ServerConnection) : Serving :=
  match c.closeCB with
  | none => s
  | some handle =>
      if (s.dispatcher.find handle).isSome then
        { s with dispatcher := s.dispatcher.remove handle }.deferredObjectClose reg
      else s

/-! ## A push -/

def pushWriteCfm (s : Serving) (env : Surroundings) (status : Status) : Serving :=
  match s.connection with
  | none => s
  | some c =>
      if c.state ≠ .clientPushing ∨ c.ofsCfmPending = false then s
      else
        let c := { c with ofsCfmPending := false }
        if status.success then
          let s := (s.set c).emit (.putResponse (if c.final then .ok else .obexContinue))
          if env.obex.success then s else s.setupDeferredObjectClose env c env.obex
        else ((s.set c).emit (.putResponse status)).setupDeferredObjectClose env c status

def firstBodyHeader (s : Serving) (env : Surroundings) : Serving :=
  match s.connection with
  | none => s
  | some c =>
      let s := (s.set (c.afterWrite env)).emit c.bodyWrite
      if env.ofs.success then s
      else (s.emit (.putResponse env.ofs)).setupDeferredObjectClose env (c.afterWrite env) env.ofs

def pushOpenCfm (s : Serving) (env : Surroundings) (handle : Option Handle) (status : Status) :
    Serving :=
  match s.connection with
  | none => s
  | some c =>
      if c.state ≠ .pushPending ∨ c.ofsCfmPending = false then s
      else if status.success then
        { s with
          connection := some { c with
            ofsCfmPending := false, ofsHandle := handle, state := .clientPushing }
          dispatcher := (s.dispatcher.register env.room .firstBodyHeader).2 }
      else
        let c := { c with ofsCfmPending := false, ofsHandle := none }
        ((s.set c).emit (.putResponse status)).setupDeferredObjectClose env c status

/-- The exit of `ObjPushInd` after an error. -/
def objPushError (s : Serving) (env : Surroundings) (c : ServerConnection) (status : Status) :
    Status × Serving :=
  (status, s.setupDeferredObjectClose env c status)

/-- `ObjPushInd` after the filter: the object is opened, or the application asked. -/
def objPushOpen (s : Serving) (env : Surroundings) (c : ServerConnection)
    (name : List UInt16) (objType : List UInt8) : Status × Serving :=
  if reg.eventInd then
    let s := s.set { c with ofsAcceptPending := true }
    (.ok, s.emit (.push (some name) c.rcvObj.objSize objType))
  else
    let c := { c with ofsCfmPending := env.ofs.success }
    let s := (s.set c).emit (.openWrite (some name) (some objType) c.rcvObj.objSize)
    if env.ofs.success then (.ok, s) else s.objPushError env c env.ofs

/-- `ObjPushInd` for an object that is not open yet. -/
def objPushPending (s : Serving) (env : Surroundings) (c : ServerConnection) :
    Except Fault (Status × Serving) :=
  match c.rcvObj.name with
  | none => .ok (s.objPushError env c .obexAccessDenied)
  | some name => do
      let objType := c.rcvObj.type.getD (objTypeFromSuffix name)
      let supported ← isSupportedType objType reg.supportedFormats
      return if supported then s.objPushOpen reg env c name objType
        else s.objPushError env c .obexUnsupportedMediaType

/-- `ObjPushInd` from the headers on. -/
def objPushHeaders (s : Serving) (env : Surroundings) (c : ServerConnection)
    (cmdHeaders : List Header) : Except Fault (Status × Serving) := do
  let (status, parsed) ← Parsing.parseHeaders ⟨c.rcvObj, env.memory⟩ cmdHeaders
  let c := { c with rcvObj := parsed.obj }
  if status ≠ .ok then return s.objPushError env c status
  else if c.state = .pushPending then (s.set c).objPushPending reg env c
  else
    let s := (s.set (c.afterWrite env)).emit c.bodyWrite
    return if env.ofs.success then (.ok, s) else s.objPushError env (c.afterWrite env) env.ofs

/-- `ObjPushInd` after the check for an outstanding close. -/
def objPushConnection (s : Serving) (env : Surroundings) (c : ServerConnection)
    (cmdHeaders : Option (List Header)) (obexStatus : Status) :
    Except Fault (Status × Serving) :=
  if c.ofsCfmPending then
    if obexStatus = .obexNotConnected then .ok (.ok, s)
    else
      .ok (if obexStatus.success then internalError else .ok,
        s.set { c with deferredPPError := true, deferredErrorStatus := obexStatus })
  else if obexStatus ≠ .ok ∧ obexStatus ≠ .obexContinue then
    .ok (.ok, s.setupDeferredObjectClose env c obexStatus)
  else if c.allowPush = false then .ok (.obexAccessDenied, s)
  else
    match cmdHeaders with
    | none => .ok (s.objPushError env c .obexRequiredHeaderNotFound)
    | some cmdHeaders =>
        let c := if c.state = .connected then { c with state := .pushPending } else c
        if c.state ≠ .clientPushing ∧ c.state ≠ .pushPending then
          .ok (.obexServiceUnavailable, s)
        else s.objPushHeaders reg env { c with final := decide (obexStatus ≠ .obexContinue) }
          cmdHeaders

def objPushInd (s : Serving) (env : Surroundings) (cmdHeaders : Option (List Header))
    (obexStatus : Status) : Except Fault (Status × Serving) :=
  match s.connection with
  | none => .ok (.invalidHandle, s)
  | some c =>
      let s := s.checkDeferredObjectClose reg c
      match s.connection with
      | none => .ok (.ok, s)
      | some c => s.objPushConnection reg env c cmdHeaders obexStatus

/-- `OI_OPPServer_AcceptPush`: without a name the object keeps its own. -/
def acceptPush (s : Serving) (env : Surroundings) (objname : Option (List UInt16))
    (accept : Bool) : Status × Serving :=
  match s.connection with
  | none => (.invalidHandle, s)
  | some c =>
      if c.state ≠ .pushPending ∨ c.ofsAcceptPending = false then (.invalidState, s)
      else
        let c := { c with ofsAcceptPending := false }
        let rejected := { c with ofsCfmPending := false, state := .connected, rcvObj := .zero }
        if accept then
          let call := .openWrite (objname <|> c.rcvObj.name) c.rcvObj.type c.rcvObj.objSize
          if env.ofs.success then (.ok, (s.set { c with ofsCfmPending := true }).emit call)
          else
            (env.ofs, ((s.set rejected).emit call).emit (.putResponse .obexAccessDenied))
        else (env.obex, (s.set rejected).emit (.putResponse .obexAccessDenied))

/-! ## A pull -/

/-- `PullOpenCfm` for an object that is open: the application hears of the pull, and the
client gets the basic headers. -/
def pullOpened (s : Serving) (env : Surroundings) (c : ServerConnection) (name : List UInt16)
    (type : List UInt8) (size : Nat) : Serving :=
  let c := if reg.eventInd then { c with rcvObj := { c.rcvObj with objSize := size } } else c
  let s := if reg.eventInd then (s.set c).emit (.pull (some name) size type) else s.set c
  let headers := [.uInt32 3 (UInt32.ofNat size), .unicode 1 name, .byteseq 2 (literal type)]
  let s := s.emit (.getResponse headers .obexContinue)
  if env.obex.success then s.set { c with state := .clientPulling }
  else s.setupDeferredObjectClose env c env.obex

def pullOpenCfm (s : Serving) (env : Surroundings) (handle : Option Handle)
    (name : List UInt16) (type : List UInt8) (size : Nat) (status : Status) : Serving :=
  match s.connection with
  | none => s
  | some c =>
      if c.state ≠ .pullPending ∨ c.ofsCfmPending = false then s
      else
        let opened := if status.success then handle else none
        let status := if c.deferredPPError then c.deferredErrorStatus else status
        let c := { c with ofsCfmPending := false, ofsHandle := opened, deferredPPError := false }
        if status.success then s.pullOpened reg env c name type size
        else ((s.set c).emit (.getResponse [] status)).setupDeferredObjectClose env c status

/-- `PullReadCfm`. An error of the store is reported; the object is closed with it. -/
def pullReadCfm (s : Serving) (env : Surroundings) (data : List UInt8) (status : Status) :
    Serving :=
  match s.connection with
  | none => s
  | some c =>
      if c.state ≠ .clientPulling ∨ c.ofsCfmPending = false then s
      else
        let c := { c with ofsCfmPending := false }
        let s := s.set c
        if ¬ status.success ∧ status ≠ endOfFile then
          (s.emit (.getResponse [] status)).setupDeferredObjectClose env c status
        else
          let s := if status = endOfFile then s.emit (.getResponse [.byteseq 9 data] .ok)
            else s.emit (.getResponse [.byteseq 8 data] .obexContinue)
          if env.obex.success then s else s.setupDeferredObjectClose env c env.obex

/-- The exit of `ObjPullInd` that closes the object. -/
def objPullComplete (s : Serving) (env : Surroundings) (c : ServerConnection) (status : Status) :
    Status × Serving :=
  (status, s.setupDeferredObjectClose env c status)

/-- The headers of a pull: a name with characters is refused, the last type counts. -/
def pullHeaders : List Header → Option (List UInt8) → Except Status (Option (List UInt8))
  | [], type => .ok type
  | .unicode 1 str :: headers, type =>
      if str ≠ [] then .error .obexAccessDenied else pullHeaders headers type
  | .byteseq 2 data :: headers, _ => pullHeaders headers (some data)
  | _ :: headers, type => pullHeaders headers type

/-- `ObjPullInd` for a connection without an operation. -/
def objPullStart (s : Serving) (env : Surroundings) (c : ServerConnection)
    (cmdHeaders : List Header) : Except Fault (Status × Serving) :=
  if ¬ env.clientAddr.success then .ok (s.objPullComplete env c env.clientAddr)
  else
    match pullHeaders cmdHeaders none with
    | .error status => .ok (s.objPullComplete env c status)
    | .ok type =>
        if type.getD [] = [] then .ok (s.objPullComplete env c .obexAccessDenied)
        else do
          let same ← strncmpInsensitive vCardType (type.getD []) vCardType.length
          if same then
            let c := { c with state := .pullPending, ofsCfmPending := env.ofs.success }
            let s := (s.set c).emit (.openRead c.maxReadSize)
            return if env.ofs.success then (.ok, s) else s.objPullComplete env c env.ofs
          else return s.objPullComplete env c .obexNotFound

/-- `ObjPullInd` for an object that is open. At the end of the file the confirmation is
made at once. -/
def objPullRead (s : Serving) (env : Surroundings) (c : ServerConnection) : Status × Serving :=
  let c := { c with ofsCfmPending := true }
  let s := (s.set c).emit (.read c.ofsHandle c.maxReadSize)
  if env.ofs = endOfFile then (.ok, s.pullReadCfm env [] endOfFile)
  else if env.ofs.success then (.ok, s)
  else
    let c := { c with ofsCfmPending := false }
    (s.set c).objPullComplete env c env.ofs

/-- `ObjPullInd` after the check for an outstanding close. -/
def objPullConnection (s : Serving) (env : Surroundings) (c : ServerConnection)
    (cmdHeaders : List Header) (obexStatus : Status) : Except Fault (Status × Serving) :=
  if obexStatus ≠ .ok ∧ obexStatus ≠ .obexContinue then
    if c.ofsCfmPending then
      .ok (.ok, s.set { c with deferredPPError := true, deferredErrorStatus := obexStatus })
    else .ok (.ok, s.setupDeferredObjectClose env c obexStatus)
  else if c.ofsCfmPending then
    .ok (.obexAccessDenied,
      s.set { c with deferredPPError := true, deferredErrorStatus := .obexAccessDenied })
  else if c.allowPull = false then .ok (.obexAccessDenied, s)
  else if obexStatus = .ok then .ok (s.objPullComplete env c .ok)
  else if c.state = .connected then s.objPullStart env c cmdHeaders
  else if c.state ≠ .clientPulling then .ok (.obexServiceUnavailable, s)
  else .ok (s.objPullRead env c)

def objPullInd (s : Serving) (env : Surroundings) (cmdHeaders : List Header)
    (obexStatus : Status) : Except Fault (Status × Serving) :=
  match s.connection with
  | none => .ok (.invalidHandle, s)
  | some c =>
      let s := s.checkDeferredObjectClose reg c
      match s.connection with
      | none => .ok (.ok, s)
      | some c => s.objPullConnection env c cmdHeaders obexStatus

/-! ## The connection -/

/-- `OI_OPP_AcceptConnect`. -/
def acceptConnect (s : Serving) (env : Surroundings) (allowPush allowPull : Bool) :
    Status × Serving :=
  match s.connection with
  | none => (.invalidHandle, s)
  | some c =>
      if c.state ≠ .connecting then (.obexInvalidOperation, s)
      else if (allowPush && !reg.canWrite) || (allowPull && !reg.canRead) then
        (.invalidParameters, { s.emit (.acceptConnect false) with connection := none })
      else
        let accept := allowPush || allowPull
        let s := s.emit (.acceptConnect accept)
        if accept && env.obex.success then
          (.ok, s.set { c with allowPush := allowPush, allowPull := allowPull,
                               state := .connected })
        else (env.obex, { s with connection := none })

/-- `ServerConnectInd`. Where nobody is asked and the connection cannot be accepted, it is
freed a second time. -/
def serverConnectInd (s : Serving) (env : Surroundings) (unauthorized : Bool) :
    Except Fault Serving :=
  if unauthorized then .ok (s.emit (.acceptConnect false))
  else if env.memory.takeBlock.1 = false then .ok (s.emit (.acceptConnect false))
  else if ¬ env.clientAddr.success then
    .ok ({ s with connection := none }.emit (.acceptConnect false))
  else if reg.connectInd then .ok ((s.set .new).emit .connectInd)
  else
    let (status, s) := (s.set .new).acceptConnect reg env true true
    if status.success then .ok s else .error .useAfterFree

def serverDisconnectInd (s : Serving) : Serving :=
  match s.connection with
  | none => s
  | some c =>
      let dispatcher := c.closeCB.elim s.dispatcher s.dispatcher.remove
      { s with dispatcher := dispatcher }.objectClose reg c true
        (if c.state.isBusy then .obexNotConnected else .ok)

/-- The dispatcher calls a function. -/
def dispatch (s : Serving) (env : Surroundings) (handle : Nat) : Serving :=
  let called := { s with dispatcher := s.dispatcher.remove handle }
  match s.dispatcher.find handle with
  | none => s
  | some .deferredObjectClose => called.deferredObjectClose reg
  | some .firstBodyHeader => called.firstBodyHeader env

end Serving

/-- What can happen to a connection of the server. -/
inductive ServerEvent
  | serverConnectInd (unauthorized : Bool)
  | acceptConnect (allowPush allowPull : Bool)
  | serverDisconnectInd
  | objPushInd (cmdHeaders : Option (List Header)) (obexStatus : Status)
  | acceptPush (objname : Option (List UInt16)) (accept : Bool)
  | pushOpenCfm (handle : Option Handle) (status : Status)
  | pushWriteCfm (status : Status)
  | objPullInd (cmdHeaders : List Header) (obexStatus : Status)
  | pullOpenCfm (handle : Option Handle) (name : List UInt16) (type : List UInt8) (size : Nat)
      (status : Status)
  | pullReadCfm (data : List UInt8) (status : Status)
  | dispatch (handle : Nat)
  deriving DecidableEq, Repr

/-- The handler of an event. -/
def Serving.step (reg : Registration) (s : Serving) (env : Surroundings) :
    ServerEvent → Except Fault Serving
  | .serverConnectInd unauthorized => s.serverConnectInd reg env unauthorized
  | .acceptConnect allowPush allowPull => .ok (s.acceptConnect reg env allowPush allowPull).2
  | .serverDisconnectInd => .ok (s.serverDisconnectInd reg)
  | .objPushInd cmdHeaders obexStatus =>
      (s.objPushInd reg env cmdHeaders obexStatus).map Prod.snd
  | .acceptPush objname accept => .ok (s.acceptPush env objname accept).2
  | .pushOpenCfm handle status => .ok (s.pushOpenCfm env handle status)
  | .pushWriteCfm status => .ok (s.pushWriteCfm env status)
  | .objPullInd cmdHeaders obexStatus =>
      (s.objPullInd reg env cmdHeaders obexStatus).map Prod.snd
  | .pullOpenCfm handle name type size status =>
      .ok (s.pullOpenCfm reg env handle name type size status)
  | .pullReadCfm data status => .ok (s.pullReadCfm env data status)
  | .dispatch handle => .ok (s.dispatch reg env handle)

end Opp
