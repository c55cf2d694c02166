import BtPlatform.Opp.Server

/-!
# Object push: a connection of the client

An `OPP_CLIENT` with the functions that the dispatcher will call for it, and its handlers:
the functions of its interface, the callbacks of the OBEX client, and the confirmations of
the object store. The handlers find the record through the handle of the OBEX connection,
which the OBEX client frees after it has indicated a disconnect.
-/

namespace Opp

open Obex Support

/-- `OPP_CLIENT_STATE`. -/
inductive ClientState
  | disconnected
  | connecting
  | connected
  | pushPending
  | pushing
  | pullPending
  | pulling
  deriving DecidableEq, Repr

/-- `state > CLIENT_STATE_CONNECTED`. -/
def ClientState.isBusy : ClientState → Bool
  | .disconnected | .connecting | .connected => false
  | _ => true

/-- `OPP_ABORT_STATE`. -/
inductive AbortState
  | noAbort
  | abortSent
  | abortConfirmed
  deriving DecidableEq, Repr

/-- `OI_OBEX_OFS_ERROR`. -/
def ofsError : Status := .other 1755

/-- A function on the dispatcher. -/
inductive ClientTask
  | closeObjectCB
  | firstBodyHeader
  deriving DecidableEq, Repr

/-- What the client calls. -/
inductive ClientAct
  | openRead (name : Option (List UInt16)) (type : Option (List UInt8)) (override : Bool)
  | openWrite (name : Option (List UInt16)) (type : Option (List UInt8)) (objSize : Nat)
  | read (handle : Option Handle)
  | write (handle : Option Handle) (data : List UInt8)
  | close (handle : Option Handle) (status : Status)
  | connected (status : Status)
  | pushStarted (fileName : Option (List UInt16)) (totalBytes : Nat) (status : Status)
  | pullStarted (fileName : Option (List UInt16)) (totalBytes : Nat)
  | pushComplete (finalSize : Nat) (status : Status)
  | pullComplete (finalSize : Nat) (status : Status)
  | cancelCfm
  | disconnect
  | put (headers : List Header) (status : Status)
  | bulkPut (data : Option (List UInt8)) (status : Status)
  | get (cmdHeaders : List Header)
  | abort
  deriving DecidableEq, Repr

/-- `OPP_CLIENT`. -/
structure Client where
  curObj : GenericObject
  /-- `cancelCfm` is set -/
  cancelCfm : Bool
  handle : Option Handle
  pendingClose : Option Nat
  state : ClientState
  abortState : AbortState
  final : Bool
  ofsCfmPending : Bool
  disconnected : Bool
  nameOverrideEnabled : Bool
  nameOverridePending : Bool
  pullStarted : Bool
  closeStatus : Status
  deriving DecidableEq, Repr

/-- The record that `OI_OPPClient_Connect` allocates. -/
def Client.new : Client where
  curObj := .zero
  cancelCfm := false
  handle := none
  pendingClose := none
  state := .connecting
  abortState := .noAbort
  final := false
  ofsCfmPending := false
  disconnected := false
  nameOverrideEnabled := false
  nameOverridePending := false
  pullStarted := false
  closeStatus := .ok

/-- The functions of the object store that confirm an open, one of `PushOpenCfm`. -/
structure OpenConfirm where
  handle : Option Handle
  type : Option (List UInt8)
  size : Nat
  data : List UInt8
  status : Status
  deriving DecidableEq, Repr

/-- The record of the client, the handle that leads to it, and what surrounds them. -/
structure Calling where
  client : Option Client
  /-- the handle of the OBEX connection is valid -/
  id : Bool
  dispatcher : Dispatcher ClientTask
  acts : List ClientAct

namespace Calling

/-- Nothing has been connected. -/
def start : Calling := ⟨none, false, .empty, []⟩

/-- `LookupClient`. -/
def lookup (s : Calling) : Option Client := if s.id then s.client else none

/-- Write to the record. -/
def set (s : Calling) (c : Client) : Calling := { s with client := some c }

/-- Call something. -/
def emit (s : Calling) (act : ClientAct) : Calling := { s with acts := s.acts ++ [act] }

/-! ## The end of an operation -/

def closeObject (s : Calling) (env : Surroundings) (c : Client) (status : Status) : Calling :=
  if c.pendingClose.isSome then s.set c
  else
    let (handle, dispatcher) := s.dispatcher.register env.room .closeObjectCB
    { s with
      client := some { c with closeStatus := status, pendingClose := handle }
      dispatcher := dispatcher }

/-- What `CloseObjectCB` calls for the operation that ends. -/
def completion (c : Client) (status : Status) : List ClientAct :=
  match c.state with
  | .pushing => [.close c.handle status, .pushComplete c.curObj.objSize status]
  | .pushPending => [.pushComplete c.curObj.objSize status]
  | .pulling => [.close c.handle status, .pullComplete c.curObj.objSize status]
  | .pullPending => [.pullComplete c.curObj.objSize status]
  | _ => []

/-- The record after `CloseObjectCB`, if it is not freed. -/
def closed (c : Client) : Client :=
  let confirmed := c.abortState = .abortConfirmed
  { c with
    curObj := .zero
    pendingClose := none
    nameOverridePending := false
    ofsCfmPending := false
    final := false
    state :=
      if confirmed then .connected
      else if c.disconnected then .disconnected
      else if c.state.isBusy then .connected
      else c.state
    cancelCfm := if confirmed then false else c.cancelCfm
    abortState := if confirmed then .noAbort else c.abortState }

def closeObjectCB (s : Calling) : Calling :=
  match s.lookup with
  | none => s
  | some c =>
      let status := if c.abortState ≠ .noAbort then .obexClientAbortedCommand else c.closeStatus
      { s with
        client := if c.disconnected then none else some (closed c)
        acts := s.acts ++ completion c status ++
          (if c.abortState = .abortConfirmed then [.cancelCfm] else []) ++
          if c.disconnected then [.disconnect] else [] }

/-- `OI_Dispatch_CallFunc` for the close that is pending. -/
def callPendingClose (s : Calling) : Calling :=
  match s.client.bind Client.pendingClose with
  | none => s
  | some handle =>
      if (s.dispatcher.find handle).isSome then
        { s with dispatcher := s.dispatcher.remove handle }.closeObjectCB
      else s

/-! ## Connecting and disconnecting -/

/-- `OI_OPPClient_Connect`. -/
def connect (s : Calling) (env : Surroundings) : Status × Calling :=
  if env.memory.takeBlock.1 = false then (.noResources, s)
  else if env.obex.success then (.ok, { s with client := some .new, id := true })
  else (env.obex, s)

def clientConnectCfm (s : Calling) (status : Status) : Calling :=
  match s.lookup with
  | none => s
  | some c =>
      if status.success then (s.set { c with state := .connected }).emit (.connected .ok)
      else { s.emit (.connected status) with client := none, id := false }

/-- `ClientDisconnectInd`; the OBEX client frees the connection behind it. -/
def clientDisconnectInd (s : Calling) (env : Surroundings) : Calling :=
  match s.lookup with
  | none => { s with id := false }
  | some c =>
      let c := { c with disconnected := true }
      let s :=
        if c.pendingClose.isSome then (s.set c).callPendingClose
        else if c.ofsCfmPending then s.set c
        else
          (s.closeObject env c
            (if c.state.isBusy then .obexNotConnected else .ok)).callPendingClose
      { s with id := false }

/-! ## A push -/

def pushReadCfm (s : Calling) (env : Surroundings) (data : List UInt8) (status : Status) :
    Calling :=
  match s.lookup with
  | none => s
  | some c =>
      if c.state ≠ .pushing ∨ c.ofsCfmPending = false then s
      else
        let c := { c with ofsCfmPending := false }
        if c.disconnected ∨ c.abortState ≠ .noAbort then
          s.closeObject env c .obexNotConnected
        else
          let call :=
            if status = endOfFile then ClientAct.bulkPut (some data) .ok
            else if status.success then .bulkPut (some data) .obexContinue
            else .bulkPut none status
          let s := (s.set c).emit call
          if env.obex.success then s else s.closeObject env c env.obex

/-- The confirmations of a PUT and of a bulk PUT: after an error `terminate` tells OBEX,
and gives the status that the object is closed with. -/
def putConfirmed (terminate : Surroundings → Status → ClientAct × Status) (s : Calling)
    (env : Surroundings) (status : Status) : Calling :=
  match s.lookup with
  | none => s
  | some c =>
      if status = .obexContinue then
        if c.final then
          let (call, status) := terminate env .obexInvalidOperation
          (s.emit call).closeObject env c status
        else
          let reading := { c with ofsCfmPending := true }
          let s := (s.set reading).emit (.read c.handle)
          if env.ofs = endOfFile then s.pushReadCfm env [] endOfFile
          else if env.ofs.success then s
          else
            let (call, status) := terminate env env.ofs
            (s.emit call).closeObject env { c with ofsCfmPending := false } status
      else if c.abortState = .noAbort then
        s.closeObject env { c with ofsCfmPending := false } status
      else s

/-- `ClientBulkPutCfm`: the object is closed with what OBEX answers. -/
def clientBulkPutCfm : Calling → Surroundings → Status → Calling :=
  putConfirmed fun env status => (.bulkPut none status, env.obex)

/-- `ClientPutCfm`: the object is closed with the error. -/
def clientPutCfm : Calling → Surroundings → Status → Calling :=
  putConfirmed fun _ status => (.put [] status, status)

/-- The last part of a path: what `StripPath` keeps, unless nothing is left. -/
def stripPath (name : Option (List UInt16)) (room : Bool) : Option (List UInt16) :=
  name.map fun str =>
    let base := str.rtakeWhile fun c => ¬ IsSeparator c
    if base = [] ∨ room = false then str else base

def deferredPushOpenCfm (s : Calling) (env : Surroundings) (confirm : OpenConfirm) : Calling :=
  match s.lookup with
  | none => s
  | some c =>
      let c := { c with ofsCfmPending := false }
      let status := confirm.status
      if c.disconnected ∨ c.abortState ≠ .noAbort then
        s.closeObject env (if status.success then { c with state := .pushing } else c)
          .obexNotConnected
      else if status.success ∨ status = endOfFile then
        let c := { c with state := .pushing, handle := confirm.handle,
                          curObj := { c.curObj with objSize := confirm.size } }
        let type := confirm.type.getD []
        let headers := [.uInt32 3 (UInt32.ofNat confirm.size), .unicode 1 (c.curObj.name.getD [])]
          ++ (if type ≠ [] then [.byteseq 2 (literal type)] else [])
          ++ (if confirm.data ≠ [] then [.byteseq 8 confirm.data] else [])
        let s := (s.set c).emit
          (.put headers (if status = endOfFile then .ok else .obexContinue))
        if env.obex.success then s else s.closeObject env c env.obex
      else s.closeObject env c status

/-- `PushOpenCfm`, where the application may give another name. -/
def pushOpenCfm (s : Calling) (env : Surroundings) (confirm : OpenConfirm) : Calling :=
  match s.lookup with
  | none => s
  | some c =>
      if c.state ≠ .pushPending ∨ c.ofsCfmPending = false then s
      else if confirm.status.success then
        (s.set { c with handle := confirm.handle,
                        curObj := { c.curObj with objSize := confirm.size } }).emit
          (.pushStarted c.curObj.name confirm.size .ok)
      else s.deferredPushOpenCfm env confirm

def pushOpenCfmWithoutOverride (s : Calling) (env : Surroundings) (confirm : OpenConfirm) :
    Calling :=
  match s.lookup with
  | none => s
  | some c =>
      let s := s.emit (.pushStarted c.curObj.name confirm.size confirm.status)
      let name := stripPath c.curObj.name env.memory.takeBlock.1
      (s.set { c with curObj := { c.curObj with name := name } }).deferredPushOpenCfm env confirm

/-- `IS_CLIENT_CONNECTED`. -/
def isConnected (c : Client) : Bool := c.state.isBusy || c.state = .connected

/-- `IS_CLIENT_IDLE`. -/
def isIdle (c : Client) : Bool := c.state = .connected && c.abortState = .noAbort

/-- A copy of a string, unless there is no memory for it. -/
def duplicate {α : Type} (text : Option α) (memory : Memory) : Option α × Memory :=
  match text with
  | none => (none, memory)
  | some text => (if memory.takeBlock.1 then some text else none, memory.takeBlock.2)

/-- `OI_OPPClient_Push`. A push that fails leaves its name in the object. -/
def push (s : Calling) (env : Surroundings) (name : Option (List UInt16))
    (type : Option (List UInt8)) : Status × Calling :=
  match s.lookup with
  | none => (.obexNotConnected, s)
  | some c =>
      if !isConnected c then (.obexNotConnected, s)
      else if !isIdle c then (.obexOperationInProgress, s)
      else
        let (nameCopy, memory) := duplicate name env.memory
        let (typeCopy, _) := duplicate (type.map literal) memory
        let c := { c with
          final := false
          state := .pushPending
          ofsCfmPending := true
          curObj := { c.curObj with name := nameCopy, type := typeCopy }
          nameOverridePending := c.nameOverridePending || c.nameOverrideEnabled }
        let s := (s.set c).emit (.openRead name type c.nameOverrideEnabled)
        if env.ofs.success then (.ok, s)
        else (env.ofs, s.set { c with ofsCfmPending := false, state := .connected })

/-! ## A pull -/

def pullAbortCfm (s : Calling) (env : Surroundings) : Calling :=
  match s.lookup with
  | none => s
  | some c => s.closeObject env c ofsError

def pullWriteCfm (s : Calling) (env : Surroundings) (status : Status) : Calling :=
  match s.lookup with
  | none => s
  | some c =>
      if c.state ≠ .pulling ∨ c.ofsCfmPending = false then s
      else
        let c := { c with ofsCfmPending := false }
        if c.disconnected ∨ c.abortState ≠ .noAbort then
          s.closeObject env c .obexNotConnected
        else if c.final then s.closeObject env c status
        else
          let s := (s.set c).emit (if status.success then .get [] else .abort)
          if env.obex.success then s else s.closeObject env c env.obex

/-- Hand the body of a packet to the object store. -/
def writeBody (s : Calling) (env : Surroundings) (c : Client) : Calling :=
  let call := ClientAct.write c.handle c.curObj.objData
  let c := { c with ofsCfmPending := env.ofs.success,
                    curObj := { c.curObj with objData := [] } }
  if env.ofs.success then (s.set c).emit call else (s.emit call).closeObject env c env.ofs

def firstBodyHeader (s : Calling) (env : Surroundings) : Calling :=
  match s.lookup with
  | none => s
  | some c => s.writeBody env c

def getRcvData (s : Calling) (env : Surroundings) (rspHeaders : List Header)
    (rcvStatus : Status) : Except Fault Calling :=
  match s.lookup with
  | none => .ok s
  | some c =>
      if rcvStatus.success ∨ rcvStatus = .obexContinue then do
        let (status, parsed) ← Parsing.parseHeaders ⟨c.curObj, env.memory⟩ rspHeaders
        let c := { c with final := rcvStatus.success, curObj := parsed.obj }
        return if status.success then s.writeBody env c else s.closeObject env c status
      else .ok (s.closeObject env c rcvStatus)

def pullOpenCfm (s : Calling) (env : Surroundings) (handle : Option Handle) (status : Status) :
    Calling :=
  match s.lookup with
  | none => s
  | some c =>
      if c.state ≠ .pullPending ∨ c.ofsCfmPending = false then s
      else
        let c := { c with ofsCfmPending := false }
        if c.disconnected ∨ c.abortState ≠ .noAbort then
          s.closeObject env (if status.success then { c with state := .pulling } else c)
            .obexNotConnected
        else if status.success then
          { s with
            client := some { c with state := .pulling, handle := handle }
            dispatcher := (s.dispatcher.register env.room .firstBodyHeader).2 }
        else if c.final then s.closeObject env c status
        else
          let s := (s.set c).emit .abort
          if env.obex.success then s else s.closeObject env c env.obex

/-- The text of a type that ends with a terminator. -/
def typeText (type : Option (List UInt8)) : Option (List UInt8) :=
  type.map (List.takeWhile (· ≠ 0))

def nameOverride (s : Calling) (env : Surroundings) (c : Client) (name : Option (List UInt16)) :
    Status × Calling :=
  match c.state with
  | .pullPending =>
      let call := ClientAct.openWrite (name <|> c.curObj.name) c.curObj.type c.curObj.objSize
      (env.ofs, (s.set { c with
        ofsCfmPending := c.ofsCfmPending && env.ofs.success }).emit call)
  | .pushPending =>
      let room := env.memory.takeBlock.1
      let kept :=
        match name with
        | some (first :: rest) =>
            if first = 0 then stripPath c.curObj.name room
            else if room then some (first :: rest)
            else c.curObj.name
        | _ => stripPath c.curObj.name room
      let c := { c with curObj := { c.curObj with name := kept } }
      (.ok, (s.set c).deferredPushOpenCfm env
        ⟨c.handle, typeText c.curObj.type, c.curObj.objSize, [], .ok⟩)
  | _ => (.invalidState, s.set c)

/-- The event of `GetRcv` that tells the application of the pull, once. -/
def startPull (s : Calling) (status : Status) : Status × Calling :=
  match s.client with
  | none => (status, s)
  | some c =>
      if c.pullStarted then (status, s)
      else
        (status, (s.set { c with pullStarted := true }).emit
          (.pullStarted c.curObj.name c.curObj.objSize))

/-- `GetRcv` once a body has been seen: the object is opened, or the application asked for
its name. The name is handed over even if the headers were refused. -/
def getRcvStart (s : Calling) (env : Surroundings) (c : Client) (status : Status) :
    Status × Calling :=
  let c := { c with ofsCfmPending := true }
  let (status, s) :=
    if c.nameOverrideEnabled then (status, s.set { c with nameOverridePending := true })
    else s.nameOverride env c none
  s.startPull status

def getRcv (s : Calling) (env : Surroundings) (rspHeaders : List Header) (rcvStatus : Status) :
    Except Fault Calling :=
  match s.lookup with
  | none => .ok s
  | some c =>
      if rcvStatus.success ∨ rcvStatus = .obexContinue then do
        let (status, parsed) ← Parsing.parseHeaders ⟨c.curObj, env.memory⟩ rspHeaders
        let c := { c with final := rcvStatus.success, curObj := parsed.obj }
        let (status, s) :=
          if c.final ∨ c.curObj.objData ≠ [] then s.getRcvStart env c status
          else (env.obex, (s.set c).emit (.get []))
        return match s.client with
          | none => s
          | some c => if status.success then s else s.closeObject env c status
      else .ok (s.closeObject env c rcvStatus)

/-- `OI_OPPClient_NameOverride`. -/
def clientNameOverride (s : Calling) (env : Surroundings) (name : Option (List UInt16)) :
    Status × Calling :=
  match s.lookup with
  | none => (.obexNotConnected, s)
  | some c =>
      if !isConnected c then (.obexNotConnected, s)
      else if c.nameOverridePending then
        s.nameOverride env { c with nameOverridePending := false } name
      else (.invalidState, s)

/-- `OI_OPPClient_Pull`. -/
def pull (s : Calling) (env : Surroundings) : Status × Calling :=
  match s.lookup with
  | none => (.obexNotConnected, s)
  | some c =>
      if !isConnected c then (.obexNotConnected, s)
      else if !isIdle c then (.obexOperationInProgress, s)
      else
        let c := { c with final := false, pullStarted := false }
        let s := s.emit (.get [.byteseq 2 (literal vCardType)])
        if env.obex.success then (.ok, s.set { c with state := .pullPending })
        else (env.obex, s.set { c with state := .connected })

/-! ## Cancelling -/

def abortCfm (s : Calling) (env : Surroundings) : Calling :=
  match s.lookup with
  | none => s
  | some c =>
      if c.abortState ≠ .abortSent then s
      else (s.closeObject env { c with abortState := .abortConfirmed }
        .obexClientAbortedCommand).callPendingClose

/-- `OI_OPPClient_Cancel`. -/
def cancel (s : Calling) (env : Surroundings) : Status × Calling :=
  match s.lookup with
  | none => (.obexNotConnected, s)
  | some c =>
      if !isConnected c then (.obexNotConnected, s)
      else if isIdle c then (.obexInvalidOperation, s)
      else
        let s := s.emit .abort
        if env.obex.success then
          (.ok, s.set { c with abortState := .abortSent, cancelCfm := true })
        else (env.obex, s.closeObject env c .obexClientAbortedCommand)

/-- `OI_OPPClient_EnableNameOverride`. -/
def enableNameOverride (s : Calling) (enabled : Bool) : Status × Calling :=
  match s.lookup with
  | none => (.obexNotConnected, s)
  | some c =>
      if isConnected c then (.ok, s.set { c with nameOverrideEnabled := enabled })
      else (.obexNotConnected, s)

/-- The dispatcher calls a function. -/
def dispatch (s : Calling) (env : Surroundings) (handle : Nat) : Calling :=
  let called := { s with dispatcher := s.dispatcher.remove handle }
  match s.dispatcher.find handle with
  | none => s
  | some .closeObjectCB => called.closeObjectCB
  | some .firstBodyHeader => called.firstBodyHeader env

end Calling

/-- What can happen to a client. The confirmation of an open names the callback. -/
inductive ClientEvent
  | connect
  | clientConnectCfm (status : Status)
  | clientDisconnectInd
  | push (name : Option (List UInt16)) (type : Option (List UInt8))
  | pushOpenCfm (confirm : OpenConfirm)
  | pushOpenCfmWithoutOverride (confirm : OpenConfirm)
  | pushReadCfm (data : List UInt8) (status : Status)
  | clientPutCfm (status : Status)
  | clientBulkPutCfm (status : Status)
  | pull
  | getRcv (rspHeaders : List Header) (rcvStatus : Status)
  | getRcvData (rspHeaders : List Header) (rcvStatus : Status)
  | pullOpenCfm (handle : Option Handle) (status : Status)
  | pullWriteCfm (status : Status)
  | pullAbortCfm
  | nameOverride (name : Option (List UInt16))
  | enableNameOverride (enabled : Bool)
  | cancel
  | abortCfm
  | dispatch (handle : Nat)
  deriving DecidableEq, Repr

/-- The handler of an event. -/
def Calling.step (s : Calling) (env : Surroundings) : ClientEvent → Except Fault Calling
  | .connect => .ok (s.connect env).2
  | .clientConnectCfm status => .ok (s.clientConnectCfm status)
  | .clientDisconnectInd => .ok (s.clientDisconnectInd env)
  | .push name type => .ok (s.push env name type).2
  | .pushOpenCfm confirm => .ok (s.pushOpenCfm env confirm)
  | .pushOpenCfmWithoutOverride confirm => .ok (s.pushOpenCfmWithoutOverride env confirm)
  | .pushReadCfm data status => .ok (s.pushReadCfm env data status)
  | .clientPutCfm status => .ok (s.clientPutCfm env status)
  | .clientBulkPutCfm status => .ok (s.clientBulkPutCfm env status)
  | .pull => .ok (s.pull env).2
  | .getRcv rspHeaders rcvStatus => s.getRcv env rspHeaders rcvStatus
  | .getRcvData rspHeaders rcvStatus => s.getRcvData env rspHeaders rcvStatus
  | .pullOpenCfm handle status => .ok (s.pullOpenCfm env handle status)
  | .pullWriteCfm status => .ok (s.pullWriteCfm env status)
  | .pullAbortCfm => .ok (s.pullAbortCfm env)
  | .nameOverride name => .ok (s.clientNameOverride env name).2
  | .enableNameOverride enabled => .ok (s.enableNameOverride enabled).2
  | .cancel => .ok (s.cancel env).2
  | .abortCfm => .ok (s.abortCfm env)
  | .dispatch handle => .ok (s.dispatch env handle)

end Opp
