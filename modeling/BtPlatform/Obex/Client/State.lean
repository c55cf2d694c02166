import BtPlatform.Obex.Auth
import BtPlatform.Obex.Bulk
import BtPlatform.Obex.Parse
import BtPlatform.Obex.Client.Response

/-!
# The client: state of one connection

An `OBEXCLI_CONNECTION` with the channel below it, the dispatcher, and the
application above it. As for the server, what the application does inside a callback
is decided outside the program, here as a list of calls of the interface, and the
history is a ghost: it records every event, call and callback with the state it met,
where a put or a get starts, and the responses to it.
-/

namespace Obex.Client

open Support Program Linked

/-- `CONNECTION_STATE`. -/
inductive ConnectionState
  | invalidConnection
  | lowerLayerConnecting
  | lowerLayerConnected
  | obexDisconnecting
  | obexConnected
  | obexAborting
  | obexGetting
  | obexPutting
  | obexSettingPath
  | obexBulkPutting
  | obexDoAction
  deriving DecidableEq, Repr

/-- The order of the states matters. -/
def ConnectionState.rank : ConnectionState → Nat
  | .invalidConnection => 0
  | .lowerLayerConnecting => 1
  | .lowerLayerConnected => 2
  | .obexDisconnecting => 3
  | .obexConnected => 4
  | .obexAborting => 5
  | .obexGetting => 6
  | .obexPutting => 7
  | .obexSettingPath => 8
  | .obexBulkPutting => 9
  | .obexDoAction => 10

/-- `state >= OBEX_CONNECTED`. -/
def ConnectionState.connected (state : ConnectionState) : Bool :=
  ConnectionState.rank .obexConnected ≤ state.rank

/-- `COMMAND_IN_PROGRESS`. -/
def ConnectionState.commandInProgress (state : ConnectionState) : Bool :=
  ConnectionState.rank .obexGetting ≤ state.rank

/-- `ABORT_STATE`. -/
inductive AbortState
  | noAbort
  | abortPending
  | abortSent
  deriving DecidableEq, Repr

/-- An `OI_OBEXCLI_ABORT_CFM`: the function of this file, or one of the application. -/
inductive AbortCfm
  | default
  | supplied (id : Nat)
  deriving DecidableEq, Repr

/-- `OI_OBEXCLI_AUTHENTICATION`. -/
inductive AuthRequired
  | none
  | password
  | useridAndPassword
  deriving DecidableEq, Repr

/-- The first word of the union `CB`: the callback of the current command, or the
status of a bulk put. -/
inductive Word
  | connectConfirm
  | putConfirm
  | getRecvData
  | setpathConfirm
  | actionConfirm
  | bulkPutStatus (status : Status)
  deriving DecidableEq, Repr

/-- The union `CB`. The pointers of a bulk put are behind the first word, where no other
member reaches. -/
structure CB where
  word : Word
  current : Option Ptr
  head : Option Ptr
  tail : Option Ptr
  deriving DecidableEq, Repr

/-- `OBEXCLI_CONNECTION` without its `OBEX_COMMON`. The callbacks that may be missing are
named by whether they are there. -/
structure Connection where
  timeoutCB : Bool
  disconnectInd : Bool
  challengeCB : Bool
  progressCB : Bool
  bulkPutCfm : Bool
  cb : CB
  connectHdrs : List Header
  cid : UInt32
  abort : AbortState
  abortingState : ConnectionState
  abortConfirm : Option AbortCfm
  busy : Bool
  srmRequested : Bool
  disconnectingLowerLayer : Bool
  authRequired : AuthRequired
  state : ConnectionState
  deriving DecidableEq, Repr

/-- A received header list: the headers refer to the bytes of the packet. -/
structure Response where
  headers : ParsedList
  packet : List UInt8
  deriving DecidableEq, Repr

/-- A callback into the application. `none` stands for a null header list. -/
inductive Indication
  | connectCfm (readOnly : Bool) (status : Status)
  | disconnectInd
  | authChallengeInd (userIdRequired : Bool) (realm : Option Realm)
  | progressInd (cmd : UInt8) (progressBytes : Nat)
  | bulkPutCfm (buffers : List (Option BufferId × Nat)) (status : Status)
  | putCfm (headers : Option Response) (status : Status)
  | getRecvData (headers : Option Response) (status : Status)
  | setpathCfm (status : Status)
  | actionCfm (status : Status)
  | abortCfm (id : Nat)
  deriving DecidableEq, Repr

/-- A call of the application's interface, `OI_OBEXCLI_…`. The password of an
authentication may be missing, and so may the callback of an abort. -/
inductive Call
  | bulkPut (buffers : List Buffer) (status : Status)
  | put (cmdHeaders : Option (List Header)) (status : Status)
  | get (cmdHeaders : Option (List Header)) (final : Bool)
  | authentication (userId : Option (List UInt8)) (userIdLen : Nat)
      (password : Option (List UInt8)) (realm : Option Realm)
  | disconnect (cmdHeaders : Option (List Header))
  | abort (abortCfm : Option Nat)
  | setPath (folder : Option (List UInt16)) (dontCreate upLevel : Bool)
      (cmdHeaders : Option (List Header))
  | doAction (actionId : UInt8) (objectName : List UInt16) (actionHdrs : List Header)
  deriving DecidableEq, Repr

/-- An event at one connection. -/
inductive Event
  | lowerConnectCfm (recvMtu sendMtu : Nat) (result : Status)
  | lowerDisconnectInd (reason : Status)
  /-- the oldest message buffer in flight is confirmed -/
  | lowerWriteCfm (queueFull : Bool) (result : Status)
  /-- a packet arrives in a buffer at the given address -/
  | lowerRecvDataInd (dataBuf : List UInt8) (addr : Nat)
  | responseTimeout
  /-- the dispatcher runs one of its functions -/
  | dispatch (index : Nat)
  | call (call : Call)
  deriving DecidableEq, Repr

/-- The records an input meets. -/
structure Snapshot where
  connection : Connection
  channel : Channel
  deriving DecidableEq, Repr

/-- What the history records. -/
inductive Act
  | event (event : Event) (before : Snapshot)
  | called (call : Call) (before : Snapshot)
  | answered (call : Call) (status : Status)
  | indicated (ind : Indication) (before : Snapshot)
  /-- a put or a get starts -/
  | started
  /-- the headers of a response to a put or a get are parsed -/
  | responded (rspCode : UInt8) (headers : ParsedList) (before : Snapshot)
  /-- the connection record is freed -/
  | freed
  deriving DecidableEq, Repr

/-- The surroundings and the state of one connection. A registered `CommandError` is named
by its status; a reply lists the calls that the application makes in a callback. -/
structure Session where
  connection : Connection
  channel : Channel
  live : Bool
  tasks : List Status
  replies : List (List Call)
  timestamps : List (List UInt8)
  history : List Act
  deriving DecidableEq, Repr

/-- What does not change: the processor, the configuration table and the hash. -/
structure Config where
  order : CpuByteOrder
  md5 : Md5
  privateKey : List UInt8
  maxPktLen : Nat

/-- A program on the session. -/
abbrev Cli (α : Type) : Type := Prog Session Fault α

namespace Cli

/-- A function of `obexcommon.c`. -/
def onChannel {α : Type} (m : OnChannel α) : Cli α :=
  Prog.zoom Session.channel (fun channel s => { s with channel := channel }) m

/-- The connection record. -/
def connection : Cli Connection := Prog.view Session.connection

/-- `connection->common`. -/
def common : Cli Common := Prog.view fun s => s.channel.common

/-- Change the connection record. -/
def setConnection (f : Connection → Connection) : Cli Unit :=
  Prog.update fun s => { s with connection := f s.connection }

/-- Change `connection->common`. -/
def setCommon (f : Common → Common) : Cli Unit := onChannel (OnChannel.setCommon f)

def setState (state : ConnectionState) : Cli Unit :=
  setConnection fun c => { c with state := state }

def setAbortState (abort : AbortState) : Cli Unit :=
  setConnection fun c => { c with abort := abort }

/-- `connection->busy = busy`. -/
def setBusy (busy : Bool) : Cli Unit := setConnection fun c => { c with busy := busy }

/-- Change the union `CB`. -/
def setCB (f : CB → CB) : Cli Unit := setConnection fun c => { c with cb := f c.cb }

/-- Store the first word of the union `CB`. -/
def setWord (word : Word) : Cli Unit := setCB fun cb => { cb with word := word }

/-- `connection->CB.bulkPut.status`. A function pointer is not a status. -/
def bulkPutStatus : Cli Status := do
  let c ← connection
  match c.cb.word with
  | .bulkPutStatus status => pure status
  | _ => Prog.fault .outOfBounds

/-- The union holds the callback that is about to be called. -/
def expectWord (word : Word) : Cli Unit := do
  let c ← connection
  if c.cb.word = word then pure () else Prog.fault .outOfBounds

/-- `connection->common.srm |= OI_OBEX_SRM_ENABLED`, or `&=` its complement. -/
def setSrmEnabled (enabled : Bool) : Cli Unit :=
  setCommon fun common => { common with srm := { common.srm with enabled := enabled } }

/-- Add to the history. -/
def record (act : Act) : Cli Unit :=
  Prog.update fun s => { s with history := s.history ++ [act] }

/-- `OI_Dispatch_RegisterFunc` for `CommandError`. -/
def register (status : Status) : Cli Unit := do
  let room ← onChannel OnChannel.takeBlock
  Prog.only (room = true) (Prog.update fun s => { s with tasks := s.tasks ++ [status] })

/-- `connection->common.authentication->...`. -/
def authentication : Cli Authentication := do
  let c ← common
  match c.authentication with
  | some auth => pure auth
  | none => Prog.fault .nullDeref

/-- Change the authentication record. -/
def setAuthentication (auth : Option Authentication) : Cli Unit :=
  setCommon fun common => { common with authentication := auth }

end Cli

end Obex.Client
