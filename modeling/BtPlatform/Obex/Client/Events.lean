import BtPlatform.Obex.Client.Commands

/-!
# The client: events

The callbacks that `obexcli.c` registers with the lower layer and with the dispatcher,
and the transition function `step` of a connection. `Session.connecting` is the session
in which `OI_OBEXCLI_Connect` leaves a new connection.
-/

namespace Obex.Client

open Support Program Linked Cli

/-! ## The response to a connect request -/

/-- `OI_OBEX_MIN_PACKET_SIZE`. -/
def minPacketSize : Nat := 255

/-- The parameters before the headers of a connect response: the packet size, or the
status of a failure. -/
def connectParameters (rcvPacket : ByteStream) :
    Except Fault (Except Status Nat × ByteStream) := do
  let (version, bs) ← rcvPacket.getUINT8Checked 0
  if version >>> 4 ≠ 1 then return (.error .obexUnsupportedVersion, bs)
  else
    let bs ← bs.skip 1
    let (maxSendPktLen, bs) ← bs.getUINT16Checked 0
    if bs.error then return (.error .obexIncompletePacket, bs) else return (.ok maxSendPktLen, bs)

/-- The server requires authentication: ask the application for a password. -/
def challengeReceived (cfg : Config) (response : Response) : Cli Status := do
  setCommon fun common => { common with authenticating := 1 }
  let authChallenge ←
    Prog.lift (findHeader response.headers hdrAuthenticationChallenge)
  let common ← common
  match authChallenge, common.authentication with
  | none, _ => return .obexRequiredHeaderNotFound
  | some _, none => return .obexNotImplemented
  | some header, some auth => do
      let (packet, len) := sequenceValue response header
      let (_, auth, readOnly) ← Prog.lift (saveChallenge auth packet len)
      setCommon fun common => { common with authentication := some auth, readOnly := readOnly }
      let c ← connection
      Prog.only (c.challengeCB = true) (do
        setBusy false
        indicate cfg (.authChallengeInd auth.userIdRequested
          (if auth.realm.realm.length > 0 then some auth.realm else none)))
      return .ok

/-- The check of the user identifier that the server sent. -/
def checkUserId (auth : Authentication) : Status :=
  if auth.userIdRequired then
    if auth.userIdRemote.length > 0 ∧ auth.userId = auth.userIdRemote then .ok
    else .obexAccessDenied
  else .ok

/-- The server has to authenticate itself. -/
def authenticateServer (cfg : Config) (response : Response) : Cli Status := do
  let authResponse ← Prog.lift (findHeader response.headers hdrAuthenticationResponse)
  match authResponse with
  | none => return .obexRequiredHeaderNotFound
  | some header => do
      let auth ← authentication
      let (packet, len) := sequenceValue response header
      let (_, auth) ← Prog.lift (saveResponse auth packet len)
      setAuthentication (some auth)
      let status := checkUserId auth
      let status := if status.success then Obex.authenticate cfg.md5 auth else status
      if status.success then return .ok
      else
        resetAuthentication
        return .obexAccessDenied

/-- The connection is established. -/
def connectionReceived (cfg : Config) (response : Response) : Cli Status := do
  let connectionId ← Prog.lift (findHeader response.headers hdrConnectionId)
  Prog.only (connectionId.isSome = true) (setConnection fun c =>
    { c with cid :=
        match connectionId.map ParsedHeader.val with
        | some (.uInt32 val) => UInt32.ofNat val
        | _ => c.cid })
  let c ← connection
  let status ← Prog.branch (c.authRequired ≠ .none) (authenticateServer cfg response) (pure .ok)
  if status.success then
    setState .obexConnected
    setBusy false
    let common ← common
    indicateWord cfg .connectConfirm (.connectCfm common.readOnly .ok)
    return .ok
  else return status

/-- `ConnectResponse` from the parameters on. -/
def connectHeaders (cfg : Config) (notAuthorized : Bool) (maxSendPktLen : Nat)
    (rcvPacket : ByteStream) : Cli Status := do
  setCommon fun common => { common with maxSendPktLen := min common.maxSendPktLen maxSendPktLen }
  let common ← common
  if common.maxSendPktLen < minPacketSize then return .obexValueNotAcceptable
  else
    let (status, response) ← parseResponse cfg rcvPacket
    if !status.success then return status
    else if notAuthorized then challengeReceived cfg response
    else connectionReceived cfg response

/-- `ConnectResponse` up to its error label. -/
def connectResponseBody (cfg : Config) (rcvPacket : ByteStream) (rspCode : UInt8) :
    Cli Status := do
  let status := mapResponse rspCode .obexConnectFailed
  if status ≠ .ok ∧ status ≠ .obexUnauthorized then return status
  else
    let (parameters, rcvPacket) ← Prog.lift (connectParameters rcvPacket)
    match parameters with
    | .error status => return status
    | .ok maxSendPktLen =>
        connectHeaders cfg (status = .obexUnauthorized) maxSendPktLen rcvPacket

def connectResponse (cfg : Config) (rcvPacket : ByteStream) (rspCode : UInt8) : Cli Unit := do
  let status ← connectResponseBody cfg rcvPacket rspCode
  Prog.only (¬ status.success) (fatalObexError cfg status)

/-! ## Write confirmations -/

/-- The loop of `BulkPutWriteCfm` that distributes the confirmed bytes over the blocks
from the first one of the packet on. -/
def confirmBytes : Nat → Nat → Option Ptr → OnChannel Unit
  | 0, _, _ => Prog.fault .fuel
  | fuel + 1, bytesConfirmed, list => do
      if bytesConfirmed = 0 then pure ()
      else
        let (p, node) ← OnChannel.deref list
        let block := node.val
        let unconfirmed := block.bytesSent - block.bytesConfirmed
        let max := min unconfirmed bytesConfirmed
        let left := if bytesConfirmed ≥ unconfirmed then bytesConfirmed - max else bytesConfirmed
        OnChannel.setBlocks fun blocks =>
          blocks.write p
            { node with val := { block with bytesConfirmed := block.bytesConfirmed + max } }
        if block.bytesConfirmed + max < block.blockSize then pure ()
        else confirmBytes fuel left node.next

/-- The error path of `BulkPutWriteCfm`: abort or disconnect once nothing is being sent. -/
def failBulkPut (cfg : Config) (status : Status) : Cli Unit := do
  let can ← canConfirmAllBulkPuts
  Prog.only (can = true) (do
    let c ← connection
    if c.abort ≠ .noAbort then sendAbort else fatalObexError cfg status)

/-- The end of `BulkPutWriteCfm`: with single response mode more data can be sent. An
error is kept for later while data is queued with the lower layer. -/
def sendMore : Cli Status := do
  setBusy false
  let status ← sendBulk
  if status.success then return .ok
  else
    let c ← connection
    let (_, node) ← onChannel (OnChannel.deref c.cb.head)
    if node.val.bytesConfirmed < node.val.bytesSent then
      setWord (.bulkPutStatus status)
      return .ok
    else return status

def bulkPutWriteCfm (cfg : Config) (bytesConfirmed : Nat) (bulkData : Option Ptr)
    (queueFull : Bool) (status : Status) : Cli Status := do
  let s ← Prog.view id
  setCommon fun common => common.addProgress bytesConfirmed
  onChannel (confirmBytes (s.channel.blocks.fresh + 1) bytesConfirmed bulkData)
  let status := if s.connection.abort ≠ .noAbort then .obexClientAbortedCommand else status
  let stored ← bulkPutStatus
  let status := if stored.success then status else stored
  setWord (.bulkPutStatus status)
  if !status.success then
    failBulkPut cfg status
    return .ok
  else if !s.channel.common.srm.enabled then return .ok
  else
    let _ ← confirmBulkPuts cfg .obexContinue .completed
    if queueFull then return .ok else sendMore

/-- The end of `LowerWriteCfm`. -/
def packetSent (cfg : Config) (result : Status) : Cli Unit := do
  let common ← common
  if result.success then
    Prog.only (common.srm.enabled = true) (reportPutProgress cfg)
  else fatalObexError cfg result

/-- The oldest mbuf in flight. -/
def takeInFlight : Cli (Option Sent) := do
  let s ← Prog.view id
  onChannel (Prog.update fun ch =>
    { ch with lower := { ch.lower with inFlight := ch.lower.inFlight.tail } })
  return s.channel.lower.inFlight.head?

/-- `LowerWriteCfm`. Nothing happens if nothing is in flight. -/
def lowerWriteCfm (cfg : Config) (queueFull : Bool) (result : Status) : Cli Unit := do
  let sent ← takeInFlight
  match sent with
  | none => pure ()
  | some sent => do
      setCommon fun common => { common with mbuf := none }
      let c ← connection
      -- a sixteen-bit difference
      let bytesConfirmed := (sent.mbuf.bytes.length + 65536 - bulkHdrSize) % 65536
      let result ← Prog.branch (c.state = .obexBulkPutting)
        (bulkPutWriteCfm cfg bytesConfirmed sent.context queueFull result) (pure result)
      packetSent cfg result

/-! ## Received packets -/

/-- The opcode of a packet; the packet length is skipped. -/
def openPacket (dataBuf : List UInt8) (addr : Nat) : Except Fault (UInt8 × ByteStream) := do
  let rcvPacket := ByteStream.open' dataBuf addr .read
  let (rspCode, rcvPacket) ← rcvPacket.getUINT8
  let rcvPacket ← rcvPacket.skip 2
  return (rspCode, rcvPacket)

/-- `ABORT_RSP_LEN`. -/
def abortRspLen : Nat := 3

/-- What `LowerRecvDataInd` takes for the response to an abort. -/
def isAbortResponse (rspCode : UInt8) (dataLen : Nat) : Bool :=
  rspCode = obexFinal rspOk && dataLen ≤ abortRspLen

/-- The switch of `LowerRecvDataInd` over the state. -/
def dispatchResponse (cfg : Config) (rspCode : UInt8) (dataLen : Nat) (rcvPacket : ByteStream) :
    Cli Unit := do
  let c ← connection
  match c.state with
  | .lowerLayerConnected => connectResponse cfg rcvPacket rspCode
  | .obexDisconnecting => disconnectResponse cfg rspCode
  | .obexBulkPutting => bulkPutResponse cfg rcvPacket rspCode
  | .obexPutting =>
      if c.abort ≠ .noAbort then sendAbort else putResponse cfg rcvPacket rspCode
  | .obexGetting =>
      if c.abort ≠ .noAbort then sendAbort else getResponse cfg rcvPacket rspCode
  | .obexSettingPath => setpathResponse cfg rcvPacket rspCode
  | .obexDoAction => actionResponse cfg rcvPacket rspCode
  | .obexAborting =>
      -- anything that obviously is not an abort response is discarded
      if isAbortResponse rspCode dataLen then abortConfirm cfg else setCommandTimeout
  | _ => fatalObexError cfg .obexError

def lowerRecvDataInd (cfg : Config) (dataBuf : List UInt8) (addr : Nat) : Cli Unit := do
  setConnection fun c => { c with timeoutCB := false }
  let c ← connection
  if c.disconnectingLowerLayer then pure ()
  else
    let (rspCode, rcvPacket) ← Prog.lift (openPacket dataBuf addr)
    dispatchResponse cfg rspCode dataBuf.length rcvPacket

/-! ## The transition function -/

/-- `LowerConnectCfm` with a lower layer connection: send the connect request, or ask the
application for a password first. -/
def lowerLayerUp (cfg : Config) (recvMtu sendMtu : Nat) : Cli Status := do
  setCommon fun common =>
    { common with
      maxRecvPktLen := min recvMtu common.maxRecvPktLen
      maxSendPktLen := sendMtu }
  setState .lowerLayerConnected
  let c ← connection
  if c.authRequired = .none then sendConnectRequest cfg none
  else
    setBusy false
    let auth ← authentication
    indicate cfg (.authChallengeInd auth.userIdRequired none)
    return .ok

def lowerConnectCfm (cfg : Config) (recvMtu sendMtu : Nat) (result : Status) : Cli Unit := do
  let status ← Prog.branch (result.success = true) (lowerLayerUp cfg recvMtu sendMtu) (pure result)
  Prog.only (¬ status.success) (fatalObexError cfg status)

def lowerDisconnectInd (cfg : Config) (reason : Status) : Cli Unit := do
  let c ← connection
  freeConnection cfg
    (if reason.success && c.state.connected then .obexNotConnected else reason)

/-- `ResponseTimeout`. The dispatcher holds the address of the connection record. -/
def responseTimeout (cfg : Config) : Cli Unit := do
  let s ← Prog.view id
  setConnection fun c => { c with timeoutCB := false }
  if s.live then fatalObexError cfg .obexConnectionTimeout else Prog.fault .useAfterFree

/-- `CommandError`. The dispatcher holds the address of the connection record. -/
def commandError (cfg : Config) (status : Status) : Cli Unit := do
  let s ← Prog.view id
  if s.live then fatalObexError cfg status else Prog.fault .useAfterFree

/-- The dispatcher runs one of its functions. -/
def dispatchTask (cfg : Config) (index : Nat) : Cli Unit := do
  let s ← Prog.view id
  Prog.update fun s => { s with tasks := s.tasks.eraseIdx index }
  match s.tasks[index]? with
  | none => pure ()
  | some status => commandError cfg status

/-- What an event does. The lower layer has no events for a connection that is gone,
and the timer does not fire when it is not running: `timeoutCB` tells whether it is, also
when the record is gone. -/
def handle (cfg : Config) (event : Event) : Cli Unit := do
  let s ← Prog.view id
  match event with
  | .lowerConnectCfm recvMtu sendMtu result =>
      Prog.only (s.live ∧ s.connection.state = .lowerLayerConnecting)
        (lowerConnectCfm cfg recvMtu sendMtu result)
  | .lowerDisconnectInd reason => Prog.only (s.live = true) (lowerDisconnectInd cfg reason)
  | .lowerWriteCfm queueFull result =>
      Prog.only (s.live = true) (lowerWriteCfm cfg queueFull result)
  | .lowerRecvDataInd dataBuf addr =>
      Prog.only (s.live = true) (lowerRecvDataInd cfg dataBuf addr)
  | .responseTimeout =>
      Prog.only (s.connection.timeoutCB = true) (responseTimeout cfg)
  | .dispatch index => dispatchTask cfg index
  | .call c => call cfg c

/-- One event at the connection. -/
def step (cfg : Config) (event : Event) : Cli Unit := do
  let s ← Prog.view id
  record (.event event ⟨s.connection, s.channel⟩)
  handle cfg event

/-- A sequence of events. -/
def run (cfg : Config) (events : List Event) : Cli Unit := Prog.perform (step cfg) events

/-! ## A new connection -/

/-- What the application passes to `OI_OBEXCLI_Connect`: which callbacks it provides, the
authentication it requires, the headers of the connect request, and whether single
response mode may be used, which also needs the right lower layer. -/
structure ConnectRequest where
  authChallengeInd : Bool
  progressInd : Bool
  bulkPutCfm : Bool
  authRequired : AuthRequired
  cmdHeaders : List Header
  enableSrm : Bool
  deriving DecidableEq, Repr

/-- The record that `OI_OBEXCLI_Connect` makes for a new connection. -/
def Connection.new (request : ConnectRequest) : Connection where
  timeoutCB := false
  disconnectInd := true
  challengeCB := request.authChallengeInd
  progressCB := request.progressInd
  bulkPutCfm := request.bulkPutCfm
  cb := ⟨.connectConfirm, none, none, none⟩
  connectHdrs := request.cmdHeaders
  cid := invalidConnectionId
  abort := .noAbort
  abortingState := .invalidConnection
  abortConfirm := none
  busy := false
  srmRequested := false
  disconnectingLowerLayer := false
  authRequired := request.authRequired
  state := .lowerLayerConnecting

/-- What the surroundings of a connection will do. -/
structure Surroundings where
  memory : Memory
  writes : List (Status × Bool)
  disconnects : List Status
  replies : List (List Call)
  timestamps : List (List UInt8)
  deriving DecidableEq, Repr

/-- A request for a connection that `OI_OBEXCLI_Connect` does not refuse: a client that
requires authentication needs the callback for it. -/
def ConnectRequest.valid (request : ConnectRequest) : Bool :=
  request.authRequired = .none || request.authChallengeInd

/-- The session after `OI_OBEXCLI_Connect` has returned `OI_OK`. -/
def Session.connecting (cfg : Config) (request : ConnectRequest) (env : Surroundings) :
    Session where
  connection := .new request
  channel := {
    common := { Common.zero with
      maxRecvPktLen := cfg.maxPktLen
      srm := ⟨request.enableSrm, false, false⟩
      authentication :=
        if request.authChallengeInd || request.authRequired ≠ .none then
          some { Authentication.zero with
            userIdRequired := request.authRequired = .useridAndPassword }
        else none }
    memory := env.memory
    lower := ⟨env.writes, env.disconnects, [], []⟩
    blocks := .empty }
  live := true
  tasks := []
  replies := env.replies
  timestamps := env.timestamps
  history := []

/-- The session that a sequence of events leads to. -/
def Reaches (cfg : Config) (request : ConnectRequest) (env : Surroundings)
    (events : List Event) (s : Session) : Prop :=
  Prog.Ends (run cfg events) (.connecting cfg request env) () s

end Obex.Client
