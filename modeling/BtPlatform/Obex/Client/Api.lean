import BtPlatform.Obex.Client.State

/-!
# The client: interface to the application

The functions of `obexcli.c` that the application calls, from inside a callback or
outside, and what they are made of. None of them calls back into the application.
-/

namespace Obex.Client

open Support Program Linked Cli

/-- `OI_OBEX_VERSION_NUMBER`. -/
def versionNumber : UInt8 := 0x10

/-- `OI_OBEX_INVALID_CONNECTION_ID`. -/
def invalidConnectionId : UInt32 := 0xFFFFFFFF

/-- `OI_OBEX_SRM_ENABLED` as a header value. -/
def srmEnabled : UInt8 := 1

/-- `OI_STATUS_NOT_CONNECTED`. -/
def statusNotConnected : Status := .other 122

/-- The connection exists and is up: the check at the start of most functions. -/
def Session.isConnected (s : Session) : Bool := s.live && s.connection.state.connected

/-! ## Sending -/

/-- `SetCommandTimeout`: a timer that runs is extended. -/
def setCommandTimeout : Cli Unit := do
  let c ← connection
  Prog.only (c.timeoutCB = false) (do
    let room ← onChannel OnChannel.takeBlock
    setConnection fun c => { c with timeoutCB := room })

def clientSendPacket : Cli Status := do
  let status ← onChannel OnChannel.sendPacket
  let common ← common
  Prog.only (status.success ∧ common.currentOpcode ≠ cmdDisconnect) setCommandTimeout
  return status

def clientSendBodySegment : Cli Status := do
  let status ← onChannel OnChannel.marshalBodySegment
  if status.success then clientSendPacket else return status

/-- `OI_OBEXCOMMON_MarshalPacket` and `ClientSendPacket`. -/
def sendHeaders (pkt : ByteStream) (headers cmdHeaders : List Header) : Cli Status := do
  let status ← onChannel (OnChannel.marshalPacket pkt headers cmdHeaders)
  if status.success then clientSendPacket else return status

/-- If a target was specified at connect time the connection identifier must be sent. -/
def Connection.idHeaders (c : Connection) : List Header :=
  if c.cid ≠ invalidConnectionId then [.uInt32 (hdrLow hdrConnectionId) c.cid] else []

def clientSendCommand (opcode : UInt8) (optHeaders : Option (List Header)) : Cli Status := do
  let pkt ← onChannel (OnChannel.initPacket opcode)
  let c ← connection
  let status ← sendHeaders pkt c.idHeaders (optHeaders.getD [])
  setBusy true
  return status

/-- `FatalObexError` where there is a lower layer connection, as in every function that
the application calls. -/
def dropLowerLayer : Cli Unit := do
  setAbortState .noAbort
  setConnection fun c => { c with disconnectingLowerLayer := true }
  let _ ← onChannel OnChannel.disconnect

def sendAbort : Cli Unit := do
  let c ← connection
  if c.abort = .abortSent then pure ()
  else if !c.state.commandInProgress then pure ()
  else
    setConnection fun c => { c with abortingState := c.state }
    setState .obexAborting
    setConnection fun c => { c with abortConfirm := c.abortConfirm.or (some .default) }
    let status ← clientSendCommand cmdAbort none
    if status.success then
      setBusy true
      setAbortState .abortSent
    else dropLowerLayer

/-! ## Bulk put -/

/-- The loop of `CanConfirmAllBulkPuts`: all the bytes sent are confirmed. -/
def canConfirmAll (blocks : Heap BulkData) : Nat → Option Ptr → Except Fault Bool
  | 0, _ => .error .fuel
  | _ + 1, none => .ok true
  | fuel + 1, some p => do
      let (_, node) ← derefBlock blocks (some p)
      if node.val.bytesConfirmed < node.val.bytesSent then return false
      else canConfirmAll blocks fuel node.next

def canConfirmAllBulkPuts : Cli Bool := do
  let s ← Prog.view id
  Prog.lift (canConfirmAll s.channel.blocks (s.channel.blocks.fresh + 1) s.connection.cb.head)

def sendBulk : Cli Status := do
  let c ← connection
  if c.busy then Prog.fault .assertion
  else if c.cb.head.isNone then return .ok
  else
    let sent ← onChannel (OnChannel.sendBulk c.cb.current c.busy)
    setCB fun cb => { cb with current := sent.current }
    setBusy sent.busy
    let common ← common
    -- the last packet, or any without single response mode, is answered
    Prog.only (sent.status.success ∧ (sent.final ∨ ¬ common.srm.enabled)) setCommandTimeout
    return sent.status

/-- Whether the last block of the list is the final one. -/
def tailIsFinal : Cli Bool := do
  let c ← connection
  if c.cb.tail.isSome then
    let (_, node) ← onChannel (OnChannel.deref c.cb.tail)
    return node.val.final
  else return false

def appendBulkData (bulkDataHead bulkDataTail : Option Ptr) : Cli Unit := do
  let c ← connection
  if c.cb.tail.isSome then
    let final ← tailIsFinal
    if final then Prog.fault .assertion
    else onChannel (OnChannel.setNext c.cb.tail bulkDataHead)
  else if c.cb.head.isSome then Prog.fault .assertion
  else setCB fun cb => { cb with head := bulkDataHead }
  setCB fun cb => { cb with tail := bulkDataTail, current := cb.current.or bulkDataHead }

/-- `bulkDataTail->final = final`. -/
def setFinal (p : Option Ptr) (final : Bool) : OnChannel Unit := do
  let (p, node) ← OnChannel.deref p
  OnChannel.setBlocks fun blocks =>
    blocks.write p { node with val := { node.val with final := final } }

/-- Take the buffers of a bulk put; they are queued if the lower layer is busy. -/
def takeBuffers (buffers : List Buffer) (final : Bool) : Cli Status := do
  let (status, bulkDataHead, bulkDataTail) ← onChannel (OnChannel.allocBulkData buffers)
  if status.success then
    onChannel (setFinal bulkDataTail final)
    appendBulkData bulkDataHead bulkDataTail
    let c ← connection
    if c.busy then return .ok else sendBulk
  else return status

/-- `OI_OBEXCLI_BulkPut` with a status that is not an error. -/
def queueBuffers (buffers : List Buffer) (final : Bool) : Cli Status := do
  let c ← connection
  if c.state ≠ .obexBulkPutting then return .invalidState
  else
    -- no more puts are allowed after the final one
    let last ← tailIsFinal
    if last then return .invalidState
    else if buffers.length = 0 then return .invalidParameters
    else
      let status ← takeBuffers buffers final
      -- the disconnect handles the cleanup
      Prog.only (¬ status.success) dropLowerLayer
      return .ok

/-- The only way to terminate a put is to send an abort, now or when the blocks that are
being sent are confirmed. -/
def abortBulkPut (status : Status) : Cli Unit := do
  setAbortState .abortPending
  setWord (.bulkPutStatus status)
  let can ← canConfirmAllBulkPuts
  Prog.only (can = true) sendAbort

/-- The first bulk put of an operation. -/
def startBulkPut (status : Status) : Cli Unit := do
  setState .obexBulkPutting
  setCB fun _ =>
    ⟨.bulkPutStatus (if status = .obexContinue then .ok else status), none, none, none⟩

/-- `OI_OBEXCLI_BulkPut`. -/
def bulkPut (buffers : List Buffer) (status : Status) : Cli Status := do
  let s ← Prog.view id
  let c := s.connection
  if !s.isConnected then return .obexNotConnected
  else if !c.bulkPutCfm then return .invalidParameters
  else if c.abort ≠ .noAbort then return .obexClientAbortedCommand
  else if c.busy && c.state ≠ .obexBulkPutting then return .obexOperationInProgress
  else
    Prog.only (c.state = .obexPutting) (startBulkPut status)
    if status ≠ .ok ∧ status ≠ .obexContinue then
      abortBulkPut status
      return .ok
    else queueBuffers buffers (status ≠ .obexContinue)

/-! ## PUT and GET -/

/-- The first packet of a put or a get. Single response mode is not enabled unless the
server says so. -/
def startOperation (state : ConnectionState) : Cli (List Header) := do
  setConnection fun c => { c with srmRequested := false }
  setSrmEnabled false
  setState state
  setCommon fun common => { common with progressBytes := 0 }
  record .started
  let c ← connection
  return c.idHeaders

/-- The single response mode header of a request. -/
def srmHeader : Header := .uInt8 (hdrLow hdrSingleResponseMode) srmEnabled

/-- Send the packet of a request; the connection is busy until the response. -/
def sendRequest (pkt : ByteStream) (headers cmdHeaders : List Header) : Cli Status := do
  let status ← sendHeaders pkt headers cmdHeaders
  if status.success then
    setBusy true
    return .ok
  else
    setState .obexConnected
    return status

/-- Request single response mode for a put. -/
def requestPutSrm : Cli (List Header) := do
  let c ← connection
  let common ← common
  if !c.srmRequested && common.srm.supported then
    setConnection fun c => { c with srmRequested := true }
    return [srmHeader]
  else return []

/-- The packet of `OI_OBEXCLI_Put`. -/
def sendPut (cmd : UInt8) (cmdHeaders : List Header) : Cli Status := do
  let pkt ← onChannel (OnChannel.initPacket cmd)
  let c ← connection
  let idHeaders ← Prog.branch (c.state = .obexConnected) (startOperation .obexPutting) (pure [])
  let srmHeaders ← requestPutSrm
  sendRequest pkt (idHeaders ++ srmHeaders) cmdHeaders

/-- `OI_OBEXCLI_Put`. -/
def put (cmdHeaders : Option (List Header)) (status : Status) : Cli Status := do
  let s ← Prog.view id
  let c := s.connection
  if !s.isConnected then return .obexNotConnected
  else if c.abort ≠ .noAbort then return .obexClientAbortedCommand
  else if c.busy || (c.state ≠ .obexConnected && c.state ≠ .obexPutting) then
    return .obexOperationInProgress
  else
    setWord .putConfirm
    if status ≠ .ok ∧ status ≠ .obexContinue then
      sendAbort
      return .ok
    else
      match cmdHeaders with
      | none => return .invalidParameters
      | some headers =>
          sendPut (if status = .obexContinue then cmdPut else obexFinal cmdPut) headers

/-- Request single response mode for a get, not before the request is final. Unlike a
put this forgets the parameters of an earlier operation. -/
def requestGetSrm (final : Bool) : Cli (List Header) := do
  let c ← connection
  let common ← common
  if final && !c.srmRequested && common.srm.supported then
    setCommon fun common => { common with srmpValid := false, srmpWaitReceived := false }
    setConnection fun c => { c with srmRequested := true }
    return [srmHeader]
  else return []

/-- The packet of `OI_OBEXCLI_Get`. -/
def sendGet (final : Bool) (cmdHeaders : List Header) : Cli Status := do
  let pkt ← onChannel (OnChannel.initPacket (if final then obexFinal cmdGet else cmdGet))
  let c ← connection
  let idHeaders ← Prog.branch (c.state = .obexConnected) (startOperation .obexGetting) (pure [])
  let srmHeaders ← requestGetSrm final
  sendRequest pkt (idHeaders ++ srmHeaders) cmdHeaders

/-- `OI_OBEXCLI_Get`. -/
def get (cmdHeaders : Option (List Header)) (final : Bool) : Cli Status := do
  let s ← Prog.view id
  let c := s.connection
  if !s.isConnected then return .obexNotConnected
  else if c.busy || (c.state ≠ .obexConnected && c.state ≠ .obexGetting) then
    return .obexOperationInProgress
  else if c.abort ≠ .noAbort then return .ok
  else
    setWord .getRecvData
    if final && c.state = .obexGetting && s.channel.common.srm.enabled then
      -- with single response mode the server sends without being asked
      setCommandTimeout
      return .ok
    else sendGet final (cmdHeaders.getD [])

/-! ## The other commands -/

/-- `OI_OBEXCLI_Abort`. -/
def abort (abortCfm : Option Nat) : Cli Status := do
  let s ← Prog.view id
  let c := s.connection
  if !s.isConnected then return .obexNotConnected
  else if c.state ≠ .obexGetting ∧ c.state ≠ .obexPutting ∧ c.state ≠ .obexBulkPutting then
    return .invalidState
  else
    -- a callback is expected: the abort waits for it
    if c.busy then setAbortState .abortPending else sendAbort
    setConnection fun c => { c with abortConfirm := abortCfm.map .supplied }
    return .ok

/-- `OI_OBEXCLI_Disconnect`. An operation in progress is cut off. -/
def disconnect (cmdHeaders : Option (List Header)) : Cli Status := do
  let s ← Prog.view id
  if !s.isConnected then return statusNotConnected
  else
    let status ← Prog.branch (s.connection.state = .obexConnected)
      (clientSendCommand cmdDisconnect cmdHeaders) (pure .obexOperationInProgress)
    if status.success then
      setBusy true
      setState .obexDisconnecting
    else dropLowerLayer
    return .ok

/-- The checks that `OI_OBEXCLI_SetPath` and `OI_OBEXCLI_DoAction` make. -/
def Session.checkIdle (s : Session) : Status :=
  if !s.isConnected then .obexNotConnected
  else if s.connection.busy || s.connection.state ≠ .obexConnected then .obexOperationInProgress
  else .ok

/-- `OI_OBEX_SETPATH_UP_LEVEL` and `OI_OBEX_SETPATH_NO_CREATE`. -/
def setpathFlags (dontCreate upLevel : Bool) : UInt8 :=
  (if dontCreate then 2 else 0) ||| (if upLevel then 1 else 0)

/-- `OI_OBEXCLI_SetPath`. An empty name header sets the path to the root folder. -/
def setPath (folder : Option (List UInt16)) (dontCreate upLevel : Bool)
    (cmdHeaders : Option (List Header)) : Cli Status := do
  let s ← Prog.view id
  if !s.checkIdle.success then return s.checkIdle
  else
    setWord .setpathConfirm
    let pkt ← onChannel (OnChannel.initPacket (obexFinal cmdSetPath))
    let pkt ← Prog.lift (pkt.putUINT8 (setpathFlags dontCreate upLevel).toNat)
    let pkt ← Prog.lift (pkt.putUINT8 0)
    setState .obexSettingPath
    sendRequest pkt (s.connection.idHeaders ++ [.unicode (hdrLow hdrName) (folder.getD [])])
      (cmdHeaders.getD [])

/-- `OI_OBEXCLI_DoAction`. -/
def doAction (actionId : UInt8) (objectName : List UInt16) (actionHdrs : List Header) :
    Cli Status := do
  let s ← Prog.view id
  if !s.checkIdle.success then return s.checkIdle
  else
    setWord .actionConfirm
    let pkt ← onChannel (OnChannel.initPacket (obexFinal cmdAction))
    setState .obexDoAction
    sendRequest pkt
      (s.connection.idHeaders ++
        [.uInt8 (hdrLow hdrActionId) actionId, .unicode (hdrLow hdrName) objectName])
      actionHdrs

/-! ## Connecting -/

/-- The challenge of a client that requires authentication. -/
def sendChallenge (cfg : Config) (realm : Option Realm) : Cli Header := do
  let common ← common
  let auth ← authentication
  let timestamp ← Prog.view fun s => s.timestamps.headD []
  Prog.update fun s => { s with timestamps := s.timestamps.tail }
  let (challenge, auth) := composeChallenge cfg.md5 cfg.privateKey timestamp realm common auth
  setAuthentication (some auth)
  return challenge

/-- The authentication headers of a connect request. -/
def authHeaders (cfg : Config) (realm : Option Realm) : Cli (List Header) := do
  let c ← connection
  let challenge ← Prog.branch (c.authRequired ≠ .none)
    (do let header ← sendChallenge cfg realm; return [header]) (pure [])
  let common ← common
  let response ← Prog.branch (common.authenticating ≠ 0)
    (do let auth ← authentication; return [composeResponse cfg.md5 auth]) (pure [])
  return challenge ++ response

def sendConnectRequest (cfg : Config) (realm : Option Realm) : Cli Status := do
  let c ← connection
  if c.state ≠ .lowerLayerConnected then Prog.fault .assertion
  else
    let pkt ← onChannel (OnChannel.initPacket cmdConnect)
    let common ← common
    let pkt ← Prog.lift (pkt.putUINT8 versionNumber.toNat)
    let pkt ← Prog.lift (pkt.putUINT8 0)
    let pkt ← Prog.lift (pkt.putUINT16 common.maxRecvPktLen)
    let headers ← authHeaders cfg realm
    let status ← sendHeaders pkt headers c.connectHdrs
    Prog.only (status.success = true) (setBusy true)
    return status

/-- `OI_OBEXAUTH_Reset`. -/
def resetAuthentication : Cli Unit := do
  let _ ← authentication
  setAuthentication (some .zero)

/-- `OI_OBEXCLI_Authentication` with a password: save it and repeat the request. -/
def reissueConnect (cfg : Config) (userId : Option (List UInt8)) (userIdLen : Nat)
    (password : List UInt8) (realm : Option Realm) : Cli Status := do
  let auth ← authentication
  let (status, auth) := saveAuthInfo auth userId userIdLen password
  setAuthentication (some auth)
  if status.success then sendConnectRequest cfg realm else return status

/-- `OI_OBEXCLI_Authentication`. Without a password the application gives up. -/
def authenticate (cfg : Config) (userId : Option (List UInt8)) (userIdLen : Nat)
    (password : Option (List UInt8)) (realm : Option Realm) : Cli Status := do
  let s ← Prog.view id
  if !s.live then return .invalidParameters
  else if s.connection.busy then return .obexOperationInProgress
  else if s.channel.common.authenticating = 0 ∧ s.connection.authRequired = .none then
    return .obexMethodNotAllowed
  else
    let status ← match password with
      | none => pure .obexClientAbortedCommand
      | some password => reissueConnect cfg userId userIdLen password realm
    if status.success then
      setBusy true
      return .ok
    else
      resetAuthentication
      register .obexClientAbortedCommand
      return status

/-! ## Calls and callbacks -/

/-- The function behind a call. -/
def callFunction (cfg : Config) : Call → Cli Status
  | .bulkPut buffers status => bulkPut buffers status
  | .put cmdHeaders status => put cmdHeaders status
  | .get cmdHeaders final => get cmdHeaders final
  | .authentication userId userIdLen password realm =>
      authenticate cfg userId userIdLen password realm
  | .disconnect cmdHeaders => disconnect cmdHeaders
  | .abort abortCfm => abort abortCfm
  | .setPath folder dontCreate upLevel cmdHeaders => setPath folder dontCreate upLevel cmdHeaders
  | .doAction actionId objectName actionHdrs => doAction actionId objectName actionHdrs

/-- A call of the application. -/
def call (cfg : Config) (c : Call) : Cli Unit := do
  let s ← Prog.view id
  record (.called c ⟨s.connection, s.channel⟩)
  let status ← callFunction cfg c
  record (.answered c status)

/-- The calls of one reply. -/
def calls (cfg : Config) (cs : List Call) : Cli Unit := Prog.perform (call cfg) cs

/-- A callback, in which the application makes the calls of its next reply. -/
def indicate (cfg : Config) (ind : Indication) : Cli Unit := do
  let s ← Prog.view id
  Prog.update fun s => { s with replies := s.replies.tail }
  record (.indicated ind ⟨s.connection, s.channel⟩)
  calls cfg (s.replies.headD [])

end Obex.Client
