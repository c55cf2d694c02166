import BtPlatform.Obex.Client.Api

/-!
# The client: responses of the server

The functions of `obexcli.c` that handle a received response, up to and including the
callbacks they make, and those that end an abort or a connection.
-/

namespace Obex.Client

open Support Program Linked Cli

/-! ## Header lists -/

/-- `OI_OBEX_FindHeader`. The headers of a response are looked at even if parsing it has
failed; after a failed allocation there is a count without a list. -/
def findHeader (headers : ParsedList) (headerId : UInt8) : Except Fault (Option ParsedHeader) :=
  match headers.list with
  | some list => .ok (list.find? fun header => header.id == headerId)
  | none => if headers.count = 0 then .ok none else .error .nullDeref

/-- `OI_OBEXCOMMON_DeleteHeaderFromList`, for a header that is there. -/
def deleteHeader (headers : ParsedList) (headerId : UInt8) : ParsedList where
  count := headers.count - 1
  list := headers.list.map fun list => list.eraseP fun header => header.id == headerId

/-- The value of a one-byte header. -/
def headerByte (header : ParsedHeader) : UInt8 :=
  match header.val with
  | .uInt8 val => val
  | _ => 0

/-- The packet from the start of a sequence value on, and the length of the value. -/
def sequenceValue (response : Response) (header : ParsedHeader) : List UInt8 × Nat :=
  match header.val with
  | .byteseq len (some data) => (response.packet.drop data, len)
  | _ => ([], 0)

/-- `OI_OBEXCOMMON_ParseHeaderList` on the rest of a received packet. -/
def parseResponse (cfg : Config) (rcvPacket : ByteStream) : Cli (Status × Response) := do
  let room ← onChannel OnChannel.takeBlock
  let common ← common
  let (status, headers, common, bs) ←
    Prog.lift (parseHeaderList cfg.order room common rcvPacket)
  setCommon fun _ => common
  return (status, ⟨headers, bs.bsdata⟩)

/-- The headers of a response to a put or a get, and the status it means. -/
def parseOperation (cfg : Config) (rcvPacket : ByteStream) (rspCode : UInt8) (status : Status) :
    Cli (Status × Response) := do
  let (parsed, response) ← parseResponse cfg rcvPacket
  let s ← Prog.view id
  record (.responded rspCode response.headers ⟨s.connection, s.channel⟩)
  return (if parsed.success then mapResponse rspCode status else parsed, response)

/-! ## Single response mode -/

def srmParamRsvp : UInt8 := 0
def srmParamWait : UInt8 := 1

/-- The single response mode header of a response, and whether there is one. A put leaves
a header with another value to the application, a get does not. -/
def takeSrm (keepOther : Bool) (headers : ParsedList) : Cli (Bool × ParsedList) := do
  let srmHdr ← Prog.lift (findHeader headers hdrSingleResponseMode)
  match srmHdr with
  | none => return (false, headers)
  | some header => do
      Prog.only (headerByte header = srmEnabled) (setSrmEnabled true)
      return (true,
        if headerByte header = srmEnabled ∨ ¬ keepOther then
          deleteHeader headers hdrSingleResponseMode
        else headers)

/-- A single response parameter in the first response. -/
def firstSrmParam (param : UInt8) (common : Common) : Common :=
  if param = srmParamWait ∧ common.srm.enabled then
    { common with
      srmpValid := true
      srmpWaitReceived := true
      srm := { common.srm with enabled := false } }
  else { common with srmpValid := true }

/-- A single response parameter in a later response. -/
def laterSrmParam (param : UInt8) (common : Common) : Common :=
  if common.srmpValid then
    if param = srmParamWait ∧ ¬ common.srmpWaitReceived then
      { common with srmpWaitReceived := true, srm := { common.srm with enabled := false } }
    else if param = srmParamRsvp ∧ common.srmpWaitReceived then
      { common with srmpWaitReceived := false, srm := { common.srm with enabled := true } }
    else common
  else common

/-- The server no longer waits. -/
def removeWait (common : Common) : Common :=
  { common with srmpWaitReceived := false, srm := { common.srm with enabled := true } }

/-- The single response parameter header of a response. The first result tells whether a
wait has ended because there is none. -/
def takeSrmParam (srmHdr : Bool) (headers : ParsedList) : Cli (Bool × ParsedList) := do
  let srmpHdr ← Prog.lift (findHeader headers hdrSingleResponseParameters)
  match srmpHdr with
  | some header => do
      setCommon (if srmHdr then firstSrmParam (headerByte header)
        else laterSrmParam (headerByte header))
      return (false, deleteHeader headers hdrSingleResponseParameters)
  | none => do
      let common ← common
      if common.srmpWaitReceived then
        setCommon removeWait
        return (true, headers)
      else return (false, headers)

/-- Both headers. -/
def takeSrmHeaders (keepOther : Bool) (response : Response) : Cli (Bool × Response) := do
  let (srmHdr, headers) ← takeSrm keepOther response.headers
  let (removed, headers) ← takeSrmParam srmHdr headers
  return (removed, { response with headers := headers })

/-! ## Confirming the blocks of a bulk put -/

/-- `CONFIRM_FILTER`. -/
inductive ConfirmFilter
  | completed
  | all
  deriving DecidableEq, Repr

/-- `MAX_CONFIRM`. -/
def maxConfirm : Nat := 16

/-- `connection->bulkPutCfm`. -/
def confirmBuffers (cfg : Config) (cfm : List (Option BufferId × Nat)) (cfmStatus : Status) :
    Cli Unit := do
  let c ← connection
  if c.bulkPutCfm then indicate cfg (.bulkPutCfm cfm cfmStatus) else Prog.fault .nullDeref

/-- A bound on the blocks that a confirm pass can meet: those allocated so far and
those that the application can still supply. -/
def confirmBound (s : Session) : Nat :=
  s.channel.blocks.fresh + 1 +
    (s.replies.flatten.map fun c =>
      match c with
      | .bulkPut buffers _ => buffers.length
      | _ => 0).sum

/-- The status with which a block is confirmed, if a confirm pass gets past it. The final
block needs an `OI_OK`. -/
def blockStatus (final : Bool) (cfmStatus : Status) : Option Status :=
  if final then
    if cfmStatus = .obexContinue then none else some cfmStatus
  else some (if cfmStatus.success then .obexContinue else cfmStatus)

/-- Take the first block off the list and free it. -/
def popBlock (p : Ptr) (next : Option Ptr) : Cli Unit := do
  setCB fun cb => { cb with head := next }
  Prog.only (next = none) (setCB fun cb => { cb with tail := none, current := none })
  onChannel (OnChannel.setBlocks fun blocks => blocks.free p)

/-- The loop of `ConfirmBulkPuts`; the result is whether all blocks are confirmed. -/
def confirmBlocks (cfg : Config) (status : Status) (filter : ConfirmFilter) :
    Nat → Option Ptr → List (Option BufferId × Nat) → Status → Cli Bool
  | 0, _, _, _ => Prog.fault .fuel
  | _ + 1, none, cfm, cfmStatus => do
      confirmBuffers cfg cfm cfmStatus
      return true
  | fuel + 1, some bulkData, cfm, _ => do
      let (p, node) ← onChannel (OnChannel.deref (some bulkData))
      let stored ← bulkPutStatus
      -- a stored error status overrides the one passed in
      let cfmStatus := if stored.success then status else stored
      if filter = .completed ∧ node.val.bytesConfirmed < node.val.blockSize then
        setWord (.bulkPutStatus (if cfmStatus = .obexContinue then .ok else cfmStatus))
        confirmBuffers cfg cfm cfmStatus
        return false
      else
        match blockStatus node.val.final cfmStatus with
        | none => do
            confirmBuffers cfg cfm cfmStatus
            return false
        | some cfmStatus => do
            popBlock p node.next
            let cfm := cfm ++ [(node.val.blockBuffer, node.val.blockSize)]
            if cfm.length = maxConfirm then
              confirmBuffers cfg cfm cfmStatus
              confirmBlocks cfg status filter fuel node.next [] cfmStatus
            else confirmBlocks cfg status filter fuel node.next cfm cfmStatus

def confirmBulkPuts (cfg : Config) (status : Status) (filter : ConfirmFilter) : Cli Bool := do
  let s ← Prog.view id
  confirmBlocks cfg status filter (confirmBound s) s.connection.cb.head [] .ok

/-! ## The end of an abort and of a connection -/

/-- A callback stored in the union `CB`. -/
def indicateWord (cfg : Config) (word : Word) (ind : Indication) : Cli Unit := do
  expectWord word
  indicate cfg ind

/-- `connection->abortConfirm`. -/
def callAbortConfirm (cfg : Config) : Cli Unit := do
  let c ← connection
  match c.abortConfirm with
  | none => Prog.fault .nullDeref
  | some .default => pure ()
  | some (.supplied id) => indicate cfg (.abortCfm id)

/-- The callback of the operation that was aborted. -/
def confirmAborted (cfg : Config) : Cli Unit := do
  let c ← connection
  match c.abortingState with
  | .obexBulkPutting =>
      if c.cb.head.isSome then
        let _ ← confirmBulkPuts cfg .obexClientAbortedCommand .all
      else
        let status ← bulkPutStatus
        confirmBuffers cfg [] status
  | .obexPutting => indicateWord cfg .putConfirm (.putCfm none .obexClientAbortedCommand)
  | .obexGetting => indicateWord cfg .getRecvData (.getRecvData none .obexClientAbortedCommand)
  | _ => pure ()

def abortConfirm (cfg : Config) : Cli Unit := do
  confirmAborted cfg
  setAbortState .noAbort
  setState .obexConnected
  setBusy false
  callAbortConfirm cfg

/-- The second test of the abort state in `FreeConnection`. -/
def confirmPendingAbort (cfg : Config) : Cli Unit := do
  let c ← connection
  Prog.only (c.abort ≠ .noAbort) (callAbortConfirm cfg)

/-- What `FreeConnection` reports, depending on the state. -/
def endOperation (cfg : Config) (state : ConnectionState) (status : Status) : Cli Unit := do
  let c ← connection
  match state with
  | .lowerLayerConnecting | .lowerLayerConnected =>
      indicateWord cfg .connectConfirm (.connectCfm false status)
      -- no disconnect is indicated
      setConnection fun c => { c with disconnectInd := false }
  | .obexGetting =>
      Prog.only (c.busy = true) (indicateWord cfg .getRecvData (.getRecvData none status))
      confirmPendingAbort cfg
  | .obexBulkPutting =>
      let _ ← confirmBulkPuts cfg status .all
      confirmPendingAbort cfg
  | .obexPutting =>
      Prog.only (c.busy = true) (indicateWord cfg .putConfirm (.putCfm none status))
      confirmPendingAbort cfg
  | .obexDoAction => indicateWord cfg .actionConfirm (.actionCfm status)
  | .obexSettingPath => indicateWord cfg .setpathConfirm (.setpathCfm status)
  | .obexAborting => abortConfirm cfg
  | _ => pure ()

/-- The connection record and its handle are freed. -/
def freeRecord : Cli Unit := do
  Prog.update fun s => { s with live := false }
  record .freed

def freeConnection (cfg : Config) (status : Status) : Cli Unit := do
  let c ← connection
  setState .invalidConnection
  setConnection fun c => { c with timeoutCB := false }
  setCommon fun common => { common with mbuf := none }
  -- an abort status overrides the disconnect status
  Prog.only (c.abort ≠ .noAbort) (setAbortState .noAbort)
  endOperation cfg c.state (if c.abort ≠ .noAbort then .obexClientAbortedCommand else status)
  setAuthentication none
  let c ← connection
  Prog.only (c.disconnectInd = true) (indicate cfg .disconnectInd)
  freeRecord

def fatalObexError (cfg : Config) (status : Status) : Cli Unit := do
  let c ← connection
  if ConnectionState.rank .lowerLayerConnected ≤ c.state.rank then dropLowerLayer
  else
    setAbortState .noAbort
    freeConnection cfg status

/-! ## Responses -/

/-- `connection->progressCB`, if the application wants to know and there is progress. -/
def reportProgress (cfg : Config) (cmd : UInt8) : Cli Unit := do
  let c ← connection
  let common ← common
  Prog.only (c.progressCB ∧ common.progressBytes ≠ 0)
    (indicate cfg (.progressInd cmd common.progressBytes))

/-- The progress of a put, reported only in one of its states. -/
def reportPutProgress (cfg : Config) : Cli Unit := do
  let c ← connection
  Prog.only (c.state = .obexPutting ∨ c.state = .obexBulkPutting) (reportProgress cfg cmdPut)

def setpathResponse (cfg : Config) (rcvPacket : ByteStream) (rspCode : UInt8) : Cli Unit := do
  setState .obexConnected
  let _ ← parseResponse cfg rcvPacket
  setBusy false
  indicateWord cfg .setpathConfirm (.setpathCfm (setpathStatus rspCode))

def actionResponse (cfg : Config) (rcvPacket : ByteStream) (rspCode : UInt8) : Cli Unit := do
  setState .obexConnected
  let _ ← parseResponse cfg rcvPacket
  setBusy false
  indicateWord cfg .actionConfirm (.actionCfm (mapResponse rspCode .obexError))

/-- `BulkPutResponse` with an abort requested. If a block is still being sent the abort
is sent when it is confirmed. -/
def abortBulkPutResponse (cfg : Config) : Cli Unit := do
  let c ← connection
  Prog.only (c.abort = .abortPending) (do
    let can ← canConfirmAllBulkPuts
    Prog.only (can = true) (do
      if c.state = .obexBulkPutting then sendAbort
      else
        let _ ← confirmBulkPuts cfg .obexClientAbortedCommand .all
        setState .obexConnected
        setAbortState .noAbort
        setBusy false
        callAbortConfirm cfg))

/-- The end of `BulkPutResponse`: confirm the blocks, and send those that are queued. -/
def confirmBulkPutResponse (cfg : Config) (status : Status) : Cli Unit := do
  let all ← confirmBulkPuts cfg status .completed
  if status ≠ .obexContinue then
    setState .obexConnected
    setBusy false
    -- more was expected while there are unconfirmed blocks
    Prog.only (all = false) (setWord (.bulkPutStatus .obexError))
  else
    setBusy false
    let _ ← sendBulk

/-- `BulkPutResponse` after the headers of single response mode. -/
def finishBulkPutResponse (cfg : Config) (status : Status) : Cli Unit := do
  -- bulk puts during the callback are queued
  setBusy true
  let common ← common
  if !status.success && (common.srm.enabled || status ≠ .obexContinue) then
    let can ← Prog.branch (status = .obexAccessDenied) canConfirmAllBulkPuts (pure false)
    if can then confirmBulkPutResponse cfg status
    else
      let stored ← bulkPutStatus
      Prog.only (stored.success = true) (setWord (.bulkPutStatus status))
      fatalObexError cfg status
  else
    Prog.only (common.srm.supported = false) (reportPutProgress cfg)
    confirmBulkPutResponse cfg status

def bulkPutResponse (cfg : Config) (rcvPacket : ByteStream) (rspCode : UInt8) : Cli Unit := do
  let (status, response) ← parseOperation cfg rcvPacket rspCode .obexPutResponseError
  let c ← connection
  if c.abort ≠ .noAbort then abortBulkPutResponse cfg
  else
    let (removed, _) ← takeSrmHeaders true response
    if removed then
      let _ ← confirmBulkPuts cfg status .completed
      setBusy false
      let _ ← sendBulk
    else finishBulkPutResponse cfg status

/-- The common part holds a body header that has not been sent as a whole. -/
def Common.hasBodySegment (common : Common) : Bool :=
  (common.bodySegment.map fun h => isABodyHeader h.id) = some true

/-- Keep sending body segments in the given state. The result is the status for the
callback, unless a segment was sent. -/
def continueBody (state : ConnectionState) (status : Status) : Cli (Option Status) := do
  let c ← connection
  let common ← common
  if c.state = state ∧ Common.hasBodySegment common then
    let status ← clientSendBodySegment
    return if status.success then none else some status
  else return some status

/-- `PutResponse` with an abort requested. -/
def abortPutResponse (cfg : Config) : Cli Unit := do
  let c ← connection
  Prog.only (c.abort = .abortPending) (do
    if c.state = .obexPutting then sendAbort
    else
      setState .obexConnected
      setAbortState .noAbort
      setBusy false
      indicateWord cfg .putConfirm (.putCfm none .obexClientAbortedCommand)
      callAbortConfirm cfg)

def putResponse (cfg : Config) (rcvPacket : ByteStream) (rspCode : UInt8) : Cli Unit := do
  let (status, response) ← parseOperation cfg rcvPacket rspCode .obexPutResponseError
  Prog.only (status ≠ .obexContinue) (setState .obexConnected)
  let c ← connection
  if c.abort ≠ .noAbort then abortPutResponse cfg
  else
    let (_, response) ← takeSrmHeaders true response
    let status ← continueBody .obexPutting status
    match status with
    | none => pure ()
    | some status => do
        setBusy false
        indicateWord cfg .putConfirm (.putCfm (some response) status)

def getResponse (cfg : Config) (rcvPacket : ByteStream) (rspCode : UInt8) : Cli Unit := do
  let (status, response) ← parseOperation cfg rcvPacket rspCode .obexGetResponseError
  Prog.only (status ≠ .obexContinue) (do
    setState .obexConnected
    setAbortState .noAbort)
  let c ← connection
  if c.abort ≠ .noAbort then sendAbort
  else
    let (_, response) ← takeSrmHeaders false response
    let status ← continueBody .obexGetting status
    match status with
    | none => pure ()
    | some status => do
        setBusy false
        indicateWord cfg .getRecvData (.getRecvData (some response) status)
        reportProgress cfg cmdGet

def disconnectResponse (cfg : Config) (rspCode : UInt8) : Cli Unit := do
  let status := mapResponse rspCode .obexDisconnectFailed
  if !status.success then fatalObexError cfg status
  else
    setConnection fun c => { c with disconnectingLowerLayer := true }
    let status ← onChannel OnChannel.disconnect
    Prog.only (¬ status.success) (fatalObexError cfg .obexDisconnectFailed)

end Obex.Client
