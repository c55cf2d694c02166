import BtPlatform.Obex.Server.Commands

/-!
# The server: events

The callbacks that `obexsrv.c` registers with the lower layer and with the
dispatcher, and the transition function `step` of a connection. `accepted` is the
session in which `LowerConnectInd` leaves a new connection; `run` takes events one
after the other.
-/

namespace Obex.Server

open Support Program Linked Srv List

/-! ## Abort -/

/-- `lowerConnection->ifc->write` of `connection->abortMbuf`. -/
def sendAbortMbuf (mbuf : Mbuf) : Srv Unit := do
  let (status, _) ← onChannel (OnChannel.write none .abortMbuf mbuf)
  Prog.only (¬ status.success) (setConnection fun c => { c with abortMbuf := none })

/-- The answer to an abort, unless it has to wait for the cleanup. -/
def answerAbort : Srv Unit := do
  let c ← connection
  if c.abortPending then pure ()
  else
    match c.abortMbuf with
    | some mbuf => sendAbortMbuf mbuf
    | none => do
        let _ ← onChannel OnChannel.sendOk

/-- The cleanup of `AbortOperation`, depending on the state. -/
def abortCleanup (cfg : Config) : Srv Unit := do
  let c ← connection
  match c.state with
  | .putInProgress | .putCompleting =>
      setState .obexConnected
      srmOff
      let _ ← indicate cfg (.putInd none .obexClientAbortedCommand)
  | .getInProgress | .getCompleting =>
      setState .obexConnected
      let _ ← indicate cfg (.getInd none .obexClientAbortedCommand)
  | .bulkGetInProgress | .bulkGetCompleting | .bulkGetFailed =>
      if c.bulkGet.head.isNone then
        srmOff
        setState .obexConnected
        let _ ← indicate cfg (.bulkGetInd [] .obexClientAbortedCommand)
      else
        let (all, _) ← confirmBulkGets cfg .obexClientAbortedCommand .all
        if all then
          setConnection fun c => { c with abortPending := false }
          srmOff
          setState .obexConnected
        else
          -- wait for the lower layer confirms to clean up
          setConnection fun c => { c with abortPending := true }
  | _ => pure ()

def abortOperation (cfg : Config) : Srv Unit := do
  abortCleanup cfg
  answerAbort

/-- `connection->abortMbuf = NULL`. -/
def clearAbortMbuf : Srv Unit := do
  onChannel (OnChannel.disown .abortMbuf)
  setConnection fun c => { c with abortMbuf := none }

def handleAbortCommand (cfg : Config) (rcvPacket : ByteStream) : Srv Unit := do
  clearAbortMbuf
  let c ← connection
  match c.currentTarget with
  | none => pure ()
  | some target =>
      if target.cbList.abortInd then
        let (status, request) ← parseRequest cfg rcvPacket
        if status.success then
          setConnection fun c => { c with abortPending := true, abortResponsePending := true }
          let _ ← indicate cfg (.abortInd request)
        else errorResponse status
      else abortOperation cfg

def dispatchedAbortCommand (cfg : Config) : Srv Unit := do
  let s ← Prog.view id
  Prog.only s.live (do
    setConnection fun c => { c with abortPending := false }
    abortOperation cfg)

/-! ## The end of a connection -/

/-- The operation that `ServerDisconnect` reports as ended, depending on the state. -/
def endOperation (cfg : Config) (state : ConnectionState) (reason : Status) : Srv Unit :=
  match state with
  | .putInProgress | .putCompleting => do
      let _ ← indicate cfg (.putInd none .obexNotConnected)
  | .getInProgress | .getCompleting => do
      let _ ← indicate cfg (.getInd none .obexNotConnected)
  | .bulkGetInProgress | .bulkGetCompleting | .bulkGetFailed => do
      let _ ← confirmBulkGets cfg reason .all
  | _ => pure ()

/-- The connection record is unlinked and freed. -/
def freeConnection : Srv Unit := do
  Prog.update fun s => { s with live := false }
  record .freed

def serverDisconnect (cfg : Config) (reason : Status) : Srv Unit := do
  let c ← connection
  setState .disconnected
  setConnection fun c => { c with connectTimeout := false }
  endOperation cfg c.state reason
  setAuthentication none
  let c ← connection
  Prog.only c.connectIndicated (do
    setConnection fun c => { c with connectIndicated := false }
    let _ ← indicate cfg .disconnectInd)
  freeConnection

/-- Drop the lower layer connection, and clean up if that fails. -/
def dropLowerConnection (cfg : Config) : Srv Unit := do
  setState .obexDisconnectCompleting
  let status ← onChannel OnChannel.disconnect
  Prog.only (¬ status.success) (serverDisconnect cfg status)

def connectTimeout : Srv Unit := do
  let s ← Prog.view id
  Prog.only s.live (do
    setConnection fun c => { c with connectTimeout := false }
    let _ ← forceDisconnect)

def lowerDisconnectInd (cfg : Config) (reason : Status) : Srv Unit := do
  let c ← connection
  serverDisconnect cfg (if c.forcedDisconnect then .obexServerForcedDisconnect else reason)

/-! ## Write confirmations -/

/-- The loop of `BulkGetWriteCfm` that distributes the confirmed bytes over the blocks
from the first one of the packet on. -/
def confirmBytes : Nat → Nat → Option Ptr → OnChannel Unit
  | 0, _, _ => Prog.fault .fuel
  | fuel + 1, bytesConfirmed, list => do
      if bytesConfirmed = 0 then pure ()
      else
        let (p, node) ← OnChannel.deref list
        let block := node.val
        let unconfirmed := block.bytesSent - block.bytesConfirmed
        let max := min unconfirmed bytesConfirmed
        let left := if bytesConfirmed ≥ unconfirmed then bytesConfirmed - max else bytesConfirmed
        OnChannel.setBlocks fun blocks =>
          blocks.write p
            { node with val := { block with bytesConfirmed := block.bytesConfirmed + max } }
        if block.bytesConfirmed + max < block.blockSize then pure ()
        else confirmBytes fuel left node.next

/-- The error path of `BulkGetWriteCfm`: confirm all unsent blocks. -/
def failBulkGet (cfg : Config) (status : Status) : Srv Unit := do
  let (all, _) ← confirmBulkGets cfg status .all
  Prog.only all (do
    let c ← connection
    -- if the application has not answered the abort, keep waiting
    Prog.only (c.abortPending ∧ ¬ c.abortResponsePending) (do
      let _ ← onChannel OnChannel.sendOk
      setConnection fun c => { c with abortPending := false })
    srmOff
    setState .obexConnected)

/-- Confirm the completed blocks; the get is complete with the final one. -/
def completeBlocks (cfg : Config) (continueStatus : Status) : Srv Unit := do
  let (_, final) ← confirmBulkGets cfg continueStatus .completed
  Prog.only final (do
    let _ ← indicate cfg (.bulkGetInd [] .obexCleanup)
    srmOff
    setState .obexConnected)

/-- The end of `BulkGetWriteCfm`: with single response mode more data can be sent. -/
def sendMore : Srv Unit := do
  let c ← connection
  let sent ← onChannel (OnChannel.sendBulk c.bulkGet.current false)
  setBulkGet fun b => { b with current := sent.current }
  Prog.only (¬ sent.status.success) (do
    -- only the status reported depends on the head
    let c ← connection
    let _ ← onChannel (OnChannel.deref c.bulkGet.head))
  setBulkGet fun b => { b with busy := sent.busy }

def bulkGetWriteCfm (cfg : Config) (bytesConfirmed : Nat) (bulkData : Option Ptr)
    (queueFull : Bool) (status : Status) : Srv Unit := do
  let s ← Prog.view id
  let continueStatus : Status :=
    if s.connection.state = .bulkGetInProgress then .obexContinue else .ok
  setCommon fun common => common.addProgress bytesConfirmed
  onChannel (confirmBytes (s.channel.blocks.fresh + 1) bytesConfirmed bulkData)
  let status := if s.connection.abortPending then .obexClientAbortedCommand else status
  if !status.success then failBulkGet cfg status
  else
    Prog.only (s.channel.common.srm.enabled ∨ continueStatus = .ok)
      (completeBlocks cfg continueStatus)
    let common ← common
    Prog.only (¬ queueFull ∧ common.srm.enabled) sendMore

/-- A write confirmation in state `GET_IN_PROGRESS` after the whole request. -/
def continueGet (cfg : Config) : Srv Unit := do
  let target ← currentTarget
  let common ← common
  if target.cbList.bulkGetInd then
    setState .bulkGetInProgress
    -- there will be no command to ask for data
    Prog.only common.srm.enabled (do
      let _ ← indicate cfg (.bulkGetInd [] .obexContinue))
  else
    Prog.only common.srm.enabled (do
      let _ ← indicate cfg (.getInd none .obexContinue))
    reportProgress cfg cmdGet

/-- The end of a get or put whose last response has been sent. -/
def completeOperation (cfg : Config) (ind : Indication) : Srv Unit := do
  setState .obexConnected
  srmOff
  let _ ← indicate cfg ind

/-- The status that reports a completed operation. -/
def cleanupStatus (result : Status) : Status := if result.success then .obexCleanup else result

/-- A write confirmation in one of the states of a bulk get. -/
def bulkGetSent (cfg : Config) (sent : Sent) (queueFull : Bool) (result : Status) : Srv Unit := do
  -- a sixteen-bit difference
  let bytesConfirmed := (sent.mbuf.bytes.length + 65536 - bulkHdrSize) % 65536
  bulkGetWriteCfm cfg bytesConfirmed sent.context queueFull result
  Prog.only result.success (reportProgress cfg cmdGet)

/-- The switch of `LowerWriteCfm` over the state. -/
def operationSent (cfg : Config) (sent : Sent) (queueFull : Bool) (result : Status) :
    Srv Unit := do
  let c ← connection
  let common ← common
  match c.state with
  | .connectCompleting =>
      setAuthentication none
      setState .obexConnected
      setConnection fun c => { c with connectTimeout := false }
  | .getCompleting =>
      -- not done until the entire body has been sent
      if (common.bodySegment.map fun h => isABodyHeader h.id) = some true then pure ()
      else completeOperation cfg (.getInd none (cleanupStatus result))
  | .putCompleting => completeOperation cfg (.putInd none (cleanupStatus result))
  | .obexDisconnecting => dropLowerConnection cfg
  | .bulkGetFailed => bulkGetSent cfg sent queueFull .obexError
  | .bulkGetCompleting | .bulkGetInProgress => bulkGetSent cfg sent queueFull result
  | .getInProgress =>
      if !result.success then setState .getCompleting
      else Prog.only c.final (continueGet cfg)
  | _ => pure ()

/-- The oldest mbuf in flight. -/
def takeInFlight : Srv (Option Sent) := do
  let s ← Prog.view id
  onChannel (Prog.update fun ch =>
    { ch with lower := { ch.lower with inFlight := ch.lower.inFlight.tail } })
  return s.channel.lower.inFlight.head?

/-- The variable that refers to the mbuf is cleared. -/
def clearSlot (slot : Slot) : Srv Unit :=
  match slot with
  | .commonMbuf => setCommon fun common => { common with mbuf := none }
  | .abortMbuf => setConnection fun c => { c with abortMbuf := none }
  | .unnamed => pure ()

/-- `LowerWriteCfm`. Nothing happens if nothing is in flight. -/
def lowerWriteCfm (cfg : Config) (queueFull : Bool) (result : Status) : Srv Unit := do
  let sent ← takeInFlight
  match sent with
  | none => pure ()
  | some sent => do
      clearSlot sent.slot
      Prog.only (¬ result.success) (do
        let _ ← onChannel OnChannel.disconnect)
      operationSent cfg sent queueFull result

/-! ## Received packets -/

/-- A disconnect request is acknowledged; the disconnect completes when the response
has been sent. -/
def disconnectCommand (cfg : Config) : Srv Unit := do
  let status ← onChannel OnChannel.sendOk
  if status.success then setState .obexDisconnecting else dropLowerConnection cfg

/-- The switch of `LowerRecvDataInd` over the command. -/
def dispatchCommand (cfg : Config) (cmdCode : UInt8) (rcvPacket : ByteStream) : Srv Unit :=
  if obexFinal cmdCode = obexFinal cmdConnect then connectCommand cfg rcvPacket
  else if obexFinal cmdCode = obexFinal cmdDisconnect then disconnectCommand cfg
  else if obexFinal cmdCode = obexFinal cmdPut then
    putCommand cfg rcvPacket (obexIsFinal cmdCode)
  else if obexFinal cmdCode = obexFinal cmdGet then
    getCommand cfg rcvPacket (obexIsFinal cmdCode)
  else if obexFinal cmdCode = obexFinal cmdSetPath then setPathCommand cfg rcvPacket
  else if obexFinal cmdCode = obexFinal cmdAction then actionCommand cfg rcvPacket
  else if obexFinal cmdCode = obexFinal cmdSession then sessionCommand cfg rcvPacket
  else if obexFinal cmdCode = obexFinal cmdAbort then handleAbortCommand cfg rcvPacket
  else errorResponse .obexBadRequest

/-- The opcode of a packet; the packet length is skipped. -/
def openPacket (dataBuf : List UInt8) (addr : Nat) : Except Fault (UInt8 × ByteStream) := do
  let rcvPacket := ByteStream.open' dataBuf addr .read
  let (cmdCode, rcvPacket) ← rcvPacket.getUINT8
  let rcvPacket ← rcvPacket.skip 2
  return (cmdCode, rcvPacket)

def lowerRecvDataInd (cfg : Config) (dataBuf : List UInt8) (addr : Nat) : Srv Unit := do
  let c ← connection
  if c.state = .obexDisconnectCompleting then pure ()
  else if c.state = .obexDisconnecting then dropLowerConnection cfg
  else
    let (cmdCode, rcvPacket) ← Prog.lift (openPacket dataBuf addr)
    dispatchCommand cfg cmdCode rcvPacket

/-! ## The transition function -/

def lowerConnectCfm (recvMtu sendMtu : Nat) (l2cap : Bool) (result : Status) : Srv Unit := do
  if result.success then
    let c ← connection
    setCommon fun common =>
      { common with
        maxRecvPktLen := min recvMtu common.maxRecvPktLen
        maxSendPktLen := sendMtu
        srm :=
          if c.obexServer.srm.supported && l2cap then ⟨true, false, false⟩
          else { common.srm with supported := false } }
    setState .lowerLayerConnected
    let room ← onChannel OnChannel.takeBlock
    setConnection fun c => { c with connectTimeout := room }
  else freeConnection

/-- `ReIndicateConnect`. The dispatcher holds the address of the connection record. -/
def reIndicateConnect (cfg : Config) : Srv Unit := do
  let s ← Prog.view id
  if !s.live then Prog.fault .useAfterFree
  else
    setConnection fun c => { c with connectIndicated := true }
    let _ ← indicate cfg (.connectInd false none none)

/-- The dispatcher runs one of its functions. -/
def dispatchTask (cfg : Config) (index : Nat) : Srv Unit := do
  let s ← Prog.view id
  Prog.update fun s => { s with tasks := s.tasks.eraseIdx index }
  match s.tasks[index]? with
  | none => pure ()
  | some .reIndicateConnect => reIndicateConnect cfg
  | some .dispatchedAbortCommand => dispatchedAbortCommand cfg

/-- What an event does. The lower layer has no events for a connection that is gone,
and the timer does not fire when it is not running. -/
def handle (cfg : Config) (event : Event) : Srv Unit := do
  let s ← Prog.view id
  match event with
  | .lowerConnectCfm recvMtu sendMtu l2cap result =>
      Prog.only (s.live ∧ s.connection.state = .lowerLayerConnecting)
        (lowerConnectCfm recvMtu sendMtu l2cap result)
  | .lowerDisconnectInd reason => Prog.only s.live (lowerDisconnectInd cfg reason)
  | .lowerWriteCfm queueFull result => Prog.only s.live (lowerWriteCfm cfg queueFull result)
  | .lowerRecvDataInd dataBuf addr => Prog.only s.live (lowerRecvDataInd cfg dataBuf addr)
  | .connectTimeout => Prog.only s.connection.connectTimeout connectTimeout
  | .dispatch index => dispatchTask cfg index
  | .call c => call cfg c

/-- One event at the connection. -/
def step (cfg : Config) (event : Event) : Srv Unit := do
  let s ← Prog.view id
  record (.event event ⟨s.connection, s.channel⟩)
  handle cfg event

/-- A sequence of events. -/
def run (cfg : Config) (events : List Event) : Srv Unit := Prog.perform (step cfg) events

/-! ## A new connection -/

/-- The record that `LowerConnectInd` makes for a new connection. -/
def Connection.new (server : ObexServer) : Connection where
  obexServer := server
  clientSpecifiedTarget := false
  currentTarget := none
  connectTimeout := false
  abortPending := false
  abortResponsePending := false
  abortMbuf := none
  authTries := 0
  forcedDisconnect := false
  unauthorized := false
  authRequested := false
  connectIndicated := false
  final := false
  state := .lowerLayerConnecting
  bulkGet := ⟨false, none, none, none⟩

/-- What the surroundings of a connection will do. -/
structure Surroundings where
  memory : Memory
  writes : List (Status × Bool)
  disconnects : List Status
  replies : List Reply
  timestamps : List (List UInt8)
  deriving DecidableEq, Repr

/-- The session after `LowerConnectInd` has accepted a connection. -/
def accepted (cfg : Config) (server : ObexServer) (env : Surroundings) : Session where
  connection := .new server
  channel := {
    common := { Common.zero with
      srm := server.srm
      maxSendPktLen := minPacketSize
      maxRecvPktLen := cfg.maxPktLen }
    memory := env.memory
    lower := ⟨env.writes, env.disconnects, [], []⟩
    blocks := .empty }
  live := true
  tasks := []
  replies := env.replies
  timestamps := env.timestamps
  history := []

/-! ## A server to run -/

/-- A configuration. Its hash is constant; what is run with it does not depend on the
hash. -/
def sampleConfig : Config where
  order := .littleEndian
  md5 := ⟨fun _ => replicate authDigestLen 0, fun _ => length_replicate⟩
  privateKey := []
  maxPktLen := 1000
  connectionAddr := 77

/-- A server with one target, which takes every request. -/
def sampleServer (authRequired : AuthRequired) (abortInd : Bool) (bulkGetInd : Bool) :
    ObexServer where
  targetInfo :=
    { target := []
      cbList := ⟨true, true, !bulkGetInd, true, true, bulkGetInd, true, true, true, abortInd⟩
      authRequired := authRequired }
  secondary := []
  srm := ⟨true, false, false⟩

/-- Nothing fails below the connection, and the application replies as listed. -/
def friendly (replies : List Reply) : Surroundings := ⟨.plenty, [], [], replies, []⟩

/-- A connect request is accepted, then a put request is received. -/
def connectThenPut : List Event :=
  [.lowerConnectCfm 1000 1000 true .ok, .lowerRecvDataInd [0x80, 0, 7, 0x10, 0, 4, 0] 0,
    .call (.acceptConnect true .ok none), .lowerWriteCfm false .ok,
    .lowerRecvDataInd [0x82, 0, 3] 0]

end Obex.Server
