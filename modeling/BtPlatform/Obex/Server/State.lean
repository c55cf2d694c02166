import BtPlatform.Obex.Auth
import BtPlatform.Obex.Bulk
import BtPlatform.Obex.Parse

/-!
# The server: state of one connection

An `OBEXSRV_CONNECTION` with everything that takes part in its life: the channel
below it, the dispatcher, and the application above it. What the application does
inside a callback is decided outside the program: a `Reply` is a list of calls of
the interface followed by the status that the callback returns. The history is a
ghost: it records every event, call and callback, each input together with the
state it met.
-/

namespace Obex.Server

open Support Program Linked

/-- `CONNECTION_STATE`. -/
inductive ConnectionState
  | disconnected
  | lowerLayerConnecting
  | lowerLayerConnected
  | obexConnecting
  | connectCompleting
  | obexConnected
  | getInProgress
  | getCompleting
  | bulkGetInProgress
  | bulkGetCompleting
  | bulkGetFailed
  | putInProgress
  | putCompleting
  | settingPath
  | doAction
  | obexDisconnecting
  | obexDisconnectCompleting
  deriving DecidableEq, Repr

/-- `OI_OBEXSRV_AUTHENTICATION`. -/
inductive AuthRequired
  | none
  | password
  | useridAndPassword
  deriving DecidableEq, Repr

/-- `OI_OBEXSRV_CB_LIST`: which callbacks the application provides. -/
structure CBList where
  connectInd : Bool
  disconnectInd : Bool
  getInd : Bool
  putInd : Bool
  setPathInd : Bool
  bulkGetInd : Bool
  actionInd : Bool
  progressInd : Bool
  authInd : Bool
  abortInd : Bool
  deriving DecidableEq, Repr

/-- `OBEXSRV_TARGET_INFO`. -/
structure TargetInfo where
  target : List UInt8
  cbList : CBList
  authRequired : AuthRequired
  deriving DecidableEq, Repr

/-- `OBEX_SERVER`: the primary target, the secondary ones, and the flags set at
registration. -/
structure ObexServer where
  targetInfo : TargetInfo
  secondary : List TargetInfo
  srm : Srm
  deriving DecidableEq, Repr

/-- The list of blocks of a bulk get. -/
structure BulkGet where
  busy : Bool
  current : Option Ptr
  head : Option Ptr
  tail : Option Ptr
  deriving DecidableEq, Repr

/-- `OBEXSRV_CONNECTION` without its `OBEX_COMMON`; `connectTimeout` tells whether
the timer is running. -/
structure Connection where
  obexServer : ObexServer
  clientSpecifiedTarget : Bool
  currentTarget : Option TargetInfo
  connectTimeout : Bool
  abortPending : Bool
  abortResponsePending : Bool
  abortMbuf : Option Mbuf
  authTries : UInt8
  forcedDisconnect : Bool
  unauthorized : Bool
  authRequested : Bool
  connectIndicated : Bool
  final : Bool
  state : ConnectionState
  bulkGet : BulkGet
  deriving DecidableEq, Repr

/-- A received header list: the headers refer to the bytes of the packet. -/
structure Request where
  headers : List ParsedHeader
  packet : List UInt8
  deriving DecidableEq, Repr

/-- A callback into the application. `none` stands for a null header list. -/
inductive Indication
  | connectInd (unauthorized : Bool) (userId : Option (List UInt8)) (realm : Option Realm)
  | disconnectInd
  | getInd (headers : Option Request) (status : Status)
  | putInd (headers : Option Request) (status : Status)
  | setPathInd (name : Option ParsedValue) (upLevel create : Bool) (rawHeaders : Request)
  | bulkGetInd (buffers : List (Option BufferId × Nat)) (status : Status)
  | actionInd (actionId : UInt8) (name : ParsedValue) (headers : Request)
  | progressInd (cmd : UInt8) (progressBytes : Nat)
  | authInd
  | abortInd (headers : Request)
  deriving DecidableEq, Repr

/-- Whether the application provides the callback. -/
def CBList.provides (cbList : CBList) : Indication → Bool
  | .connectInd .. => cbList.connectInd
  | .disconnectInd => cbList.disconnectInd
  | .getInd .. => cbList.getInd
  | .putInd .. => cbList.putInd
  | .setPathInd .. => cbList.setPathInd
  | .bulkGetInd .. => cbList.bulkGetInd
  | .actionInd .. => cbList.actionInd
  | .progressInd .. => cbList.progressInd
  | .authInd => cbList.authInd
  | .abortInd .. => cbList.abortInd

/-- A call of the application's interface, `OI_OBEXSRV_…`. The buffers of a bulk
get response are as many as an eight-bit counter allows. -/
inductive Call
  | bulkGetResponse (buffers : List Buffer) (rspStatus : Status)
  | getResponse (rspHeaders : Option (List Header)) (rspStatus : Status)
  | putResponse (rspHeaders : Option (List Header)) (rspStatus : Status)
  | actionResponse (rspStatus : Status) (optHeaders : Option (List Header))
  | confirmSetpath (status : Status) (optHeaders : Option (List Header))
  | acceptConnect (accept : Bool) (status : Status) (optHeaders : Option (List Header))
  | authenticationResponse (userId : Option (List UInt8)) (userIdLen : Nat)
      (password : List UInt8) (readOnly : Bool)
  | authAccept (realm : Option Realm) (accept : Bool)
  | abortResponse (rspHeaders : Option (List Header)) (rspStatus : Status)
  | forceDisconnect
  deriving DecidableEq, Repr

/-- What the application does in a callback: calls, then a status. -/
structure Reply where
  calls : List Call
  status : Status
  deriving DecidableEq, Repr

/-- An event at one connection. -/
inductive Event
  /-- the lower layer reports the outcome of accepting the connection -/
  | lowerConnectCfm (recvMtu sendMtu : Nat) (l2cap : Bool) (result : Status)
  | lowerDisconnectInd (reason : Status)
  /-- the oldest message buffer in flight is confirmed -/
  | lowerWriteCfm (queueFull : Bool) (result : Status)
  /-- a packet arrives in a buffer at the given address -/
  | lowerRecvDataInd (dataBuf : List UInt8) (addr : Nat)
  | connectTimeout
  /-- the dispatcher runs one of its functions -/
  | dispatch (index : Nat)
  | call (call : Call)
  deriving DecidableEq, Repr

/-- A function registered with the dispatcher. -/
inductive Task
  | reIndicateConnect
  | dispatchedAbortCommand
  deriving DecidableEq, Repr

/-- The records an input meets. -/
structure Snapshot where
  connection : Connection
  channel : Channel
  deriving DecidableEq, Repr

/-- What the history records. -/
inductive Act
  | event (event : Event) (before : Snapshot)
  | called (call : Call) (before : Snapshot)
  | answered (call : Call) (status : Status)
  | indicated (ind : Indication) (status : Status)
  /-- a connect request for the target is accepted -/
  | accepted (target : TargetInfo)
  /-- `OI_OBEXAUTH_Authenticate` is evaluated for the target -/
  | authenticated (target : TargetInfo) (status : Status)
  /-- the connection record is freed -/
  | freed
  deriving DecidableEq, Repr

/-- The surroundings and the state of one connection. -/
structure Session where
  connection : Connection
  channel : Channel
  live : Bool
  tasks : List Task
  replies : List Reply
  timestamps : List (List UInt8)
  history : List Act
  deriving DecidableEq, Repr

/-- What does not change: the processor, the configuration table, the address of the
connection record, which serves as connection identifier, and the hash. -/
structure Config where
  order : CpuByteOrder
  md5 : Md5
  privateKey : List UInt8
  maxPktLen : Nat
  connectionAddr : UInt32

/-- A program on the session. -/
abbrev Srv (α : Type) : Type := Prog Session Fault α

namespace Srv

/-- A function of `obexcommon.c`. -/
def onChannel {α : Type} (m : OnChannel α) : Srv α :=
  Prog.zoom Session.channel (fun channel s => { s with channel := channel }) m

/-- The connection record. -/
def connection : Srv Connection := Prog.view Session.connection

/-- `connection->common`. -/
def common : Srv Common := Prog.view fun s => s.channel.common

/-- Change the connection record. -/
def setConnection (f : Connection → Connection) : Srv Unit :=
  Prog.update fun s => { s with connection := f s.connection }

/-- Change `connection->common`. -/
def setCommon (f : Common → Common) : Srv Unit := onChannel (OnChannel.setCommon f)

def setState (state : ConnectionState) : Srv Unit :=
  setConnection fun c => { c with state := state }

/-- Change the list of blocks. -/
def setBulkGet (f : BulkGet → BulkGet) : Srv Unit :=
  setConnection fun c => { c with bulkGet := f c.bulkGet }

/-- `connection->common.srm &= ~OI_OBEX_SRM_ENABLED`. -/
def srmOff : Srv Unit :=
  setCommon fun common => { common with srm := { common.srm with enabled := false } }

/-- Add to the history. -/
def record (act : Act) : Srv Unit :=
  Prog.update fun s => { s with history := s.history ++ [act] }

/-- Add to the history what concerns the current target. -/
def recordTarget (act : TargetInfo → Act) : Srv Unit := do
  let c ← connection
  match c.currentTarget with
  | some target => record (act target)
  | none => pure ()

/-- `OI_Dispatch_RegisterFunc`. -/
def register (task : Task) : Srv Status := do
  let room ← onChannel OnChannel.takeBlock
  if room then
    Prog.update fun s => { s with tasks := s.tasks ++ [task] }
    return .ok
  else return .noResources

/-- `connection->currentTarget->...`. -/
def currentTarget : Srv TargetInfo := do
  let c ← connection
  match c.currentTarget with
  | some target => pure target
  | none => Prog.fault .nullDeref

/-- `connection->common.authentication->...`. -/
def authentication : Srv Authentication := do
  let c ← common
  match c.authentication with
  | some auth => pure auth
  | none => Prog.fault .nullDeref

/-- Change the authentication record. -/
def setAuthentication (auth : Option Authentication) : Srv Unit :=
  setCommon fun common => { common with authentication := auth }

end Srv

/-! ## Responses -/

def mapStatus : Status → UInt8
  | .ok => obexFinal rspOk
  | .obexError => obexFinal 0x50
  | .obexBadPacket | .obexBadRequest => obexFinal 0x40
  | .obexOperationInProgress | .obexAccessDenied | .obexForbidden | .accessDenied =>
      obexFinal 0x43
  | .obexNotFound => obexFinal 0x44
  | .obexUnknownCommand | .obexNotImplemented | .notImplemented => obexFinal 0x51
  | .obexLengthRequired => obexFinal 0x4B
  | .obexServiceUnavailable => obexFinal 0x53
  | .obexValueNotAcceptable => obexFinal 0x46
  | .obexRequiredHeaderNotFound | .obexUnsupportedVersion | .obexIncompletePacket =>
      obexFinal 0x40
  | .obexPreconditionFailed => obexFinal 0x4C
  | .obexDatabaseFull => obexFinal 0x60
  | .obexDatabaseLocked => obexFinal 0x61
  | .obexUnsupportedMediaType => obexFinal 0x4F
  | .obexConflict => obexFinal 0x49
  | .obexUnauthorized => obexFinal 0x41
  | .obexPartialContent => obexFinal 0x26
  | .obexMethodNotAllowed => obexFinal 0x45
  | .obexFolderBrowsingNotAllowed => obexFinal 0x41
  | .obexNotModified => obexFinal 0x34
  | _ => obexFinal 0x50

open Srv

def sendSimpleWithHeaders (opcode : UInt8) (headerList : Option (List Header)) : Srv Status :=
  match headerList with
  | none | some [] => onChannel (OnChannel.sendSimple opcode)
  | some headers => do
      let pkt ← onChannel (OnChannel.initPacket opcode)
      let status ← onChannel (OnChannel.marshalPacket pkt [] headers)
      if status.success then onChannel OnChannel.sendPacket else pure status

def errorResponse (status : Status) : Srv Unit := do
  srmOff
  let _ ← onChannel (OnChannel.sendSimple (mapStatus status))

def serverSendBodySegment : Srv Status := do
  let status ← onChannel OnChannel.marshalBodySegment
  if status.success then onChannel OnChannel.sendPacket else pure status

/-- `OI_OBEXCOMMON_ParseHeaderList` on the rest of a received packet. -/
def parseRequest (cfg : Config) (rcvPacket : ByteStream) : Srv (Status × Request) := do
  let room ← onChannel OnChannel.takeBlock
  let common ← common
  let (status, headers, common, bs) ←
    Prog.lift (parseHeaderList cfg.order room common rcvPacket)
  setCommon fun _ => common
  return (status, ⟨headers.list.getD [], bs.bsdata⟩)

end Obex.Server
