import BtPlatform.Obex.Server.Api

/-!
# The server: commands of the client

The functions of `obexsrv.c` that handle a received command, up to and including
the callbacks they make. A handler that leaves through its error label is split
there: the part before the label returns the status with which the source jumps.
-/

namespace Obex.Server

open Support Program Linked Srv

/-! ## Header lists -/

/-- `OI_OBEX_FindHeader`. -/
def Request.find (request : Request) (headerId : UInt8) : Option ParsedHeader :=
  request.headers.find? fun header => header.id == headerId

/-- `OI_OBEXCOMMON_DeleteHeaderFromList`. -/
def Request.delete (request : Request) (headerId : UInt8) : Request :=
  { request with headers := request.headers.eraseP fun header => header.id == headerId }

/-- The packet from the start of a sequence value on, and the length of the value. -/
def Request.sequence (request : Request) (header : ParsedHeader) : List UInt8 × Nat :=
  match header.val with
  | .byteseq len (some data) => (request.packet.drop data, len)
  | _ => ([], 0)

/-- The value of a one-byte header. -/
def ParsedHeader.byte (header : ParsedHeader) : UInt8 :=
  match header.val with
  | .uInt8 val => val
  | _ => 0

def verifyConnectionId (cfg : Config) (c : Connection) (request : Request) : Status :=
  if c.clientSpecifiedTarget then
    match request.find hdrConnectionId with
    | none => .obexRequiredHeaderNotFound
    | some conId =>
        if conId.val = .uInt32 cfg.connectionAddr.toNat then .ok else .obexServiceUnavailable
  else .ok

/-- The client requests single response mode with this header. -/
def requestsSrm (request : Request) : Bool :=
  match request.find hdrSingleResponseMode with
  | some header => ParsedHeader.byte header == srmEnabled
  | none => false

/-- `connection->common.srm |= OI_OBEX_SRM_REQUESTED`, if supported. -/
def srmRequested : Srv Unit :=
  setCommon fun common =>
    if common.srm.supported then { common with srm := { common.srm with requested := true } }
    else common

/-- Save the single response parameter and take its header away. -/
def takeSrmParam (request : Request) : Srv Request :=
  match request.find hdrSingleResponseParameters with
  | some header => do
      setCommon fun common => { common with srmParam := (ParsedHeader.byte header).toNat }
      return request.delete hdrSingleResponseParameters
  | none => do
      setCommon fun common => { common with srmParam := srmParamNone }
      return request

/-! ## Confirming the blocks of a bulk get -/

/-- `CONFIRM_FILTER`. -/
inductive ConfirmFilter
  | completed
  | all
  deriving DecidableEq, Repr

/-- `MAX_CONFIRM`. -/
def maxConfirm : Nat := 16

/-- A bound on the blocks that a confirm pass can meet: those allocated so far and
those that the application can still supply. -/
def confirmBound (s : Session) : Nat :=
  s.channel.blocks.fresh + 1 +
    ((s.replies.flatMap Reply.calls).map fun c =>
      match c with
      | .bulkGetResponse buffers _ => buffers.length
      | _ => 0).sum

/-- Report the blocks gathered. -/
def confirmBuffers (cfg : Config) (cfm : List (Option BufferId × Nat)) (cfmStatus : Status) :
    Srv Unit :=
  Prog.only (cfm.length > 0) (do
    let _ ← indicate cfg (.bulkGetInd cfm cfmStatus))

/-- Whether a confirm pass stops at a block. -/
def confirmStops (filter : ConfirmFilter) (block : BulkData) : Bool :=
  -- cannot confirm blocks that are being sent
  block.bytesConfirmed < block.bytesSent ||
    (filter = .completed && block.bytesConfirmed < block.blockSize)

/-- Take the first block off the list and free it. -/
def popBlock (p : Ptr) (next : Option Ptr) : Srv Unit := do
  setBulkGet fun b => { b with head := next }
  Prog.only (next = none) (setBulkGet fun b => { b with tail := none, current := none })
  onChannel (OnChannel.setBlocks fun blocks => blocks.free p)

/-- The loop of `ConfirmBulkGets`; the results are whether all blocks are confirmed and
whether the last one was the final one. -/
def confirmBlocks (cfg : Config) (status : Status) (filter : ConfirmFilter) :
    Nat → Option Ptr → List (Option BufferId × Nat) → Status → Bool → Srv (Bool × Bool)
  | 0, _, _, _, _ => Prog.fault .fuel
  | _ + 1, none, cfm, cfmStatus, final => do
      confirmBuffers cfg cfm cfmStatus
      return (true, final)
  | fuel + 1, some bulkData, cfm, cfmStatus, final => do
      let (p, node) ← onChannel (OnChannel.deref (some bulkData))
      if confirmStops filter node.val then
        confirmBuffers cfg cfm cfmStatus
        return (false, final)
      else
        popBlock p node.next
        -- an error is reported only with the last block
        let cfmStatus := if node.next = none then status else cfmStatus
        let cfm := cfm ++ [(node.val.blockBuffer, node.val.blockSize)]
        if cfm.length = maxConfirm then
          let _ ← indicate cfg (.bulkGetInd cfm cfmStatus)
          confirmBlocks cfg status filter fuel node.next [] cfmStatus node.val.final
        else confirmBlocks cfg status filter fuel node.next cfm cfmStatus node.val.final

def confirmBulkGets (cfg : Config) (status : Status) (filter : ConfirmFilter) :
    Srv (Bool × Bool) := do
  let s ← Prog.view id
  let cfmStatus := if status = .obexContinue then status else .ok
  confirmBlocks cfg status filter (confirmBound s) s.connection.bulkGet.head [] cfmStatus false

/-! ## GET -/

/-- The checks of `GetCommand` on the state: whether this is a new request, or the
status of a refusal. -/
def getCommandState : Srv (Except Status Bool) := do
  -- not busy after receiving a get request
  setBulkGet fun b => { b with busy := false }
  let c ← connection
  match c.state with
  | .obexConnected =>
      setState .getInProgress
      setBulkGet fun b => { b with head := none, tail := none, busy := false }
      setConnection fun c => { c with final := false }
      setCommon fun common => { common with progressBytes := 0 }
      return .ok true
  | .getInProgress | .getCompleting =>
      let target ← currentTarget
      return if target.cbList.getInd then .ok false else .error .obexServiceUnavailable
  | .bulkGetInProgress | .bulkGetCompleting =>
      let target ← currentTarget
      return if target.cbList.bulkGetInd then .ok false else .error .obexServiceUnavailable
  | .bulkGetFailed => return .error .obexError
  | _ => return .error .obexOperationInProgress

/-- The single response mode headers of a get request are not for the application. -/
def takeGetSrm (request : Request) : Srv Request :=
  if requestsSrm request then do
    srmRequested
    takeSrmParam (request.delete hdrSingleResponseMode)
  else takeSrmParam request

/-- The checks on the headers of a new request. -/
def checkNewGet (cfg : Config) (c : Connection) (request : Request) : Status :=
  if (request.find hdrName).isNone && (request.find hdrType).isNone then
    .obexRequiredHeaderNotFound
  else verifyConnectionId cfg c request

/-- `GetCommand`, from the point where the application or the queue supplies the data. -/
def serveGet (cfg : Config) (request : Request) (final : Bool) : Srv Status := do
  let c ← connection
  if c.state = .bulkGetInProgress ∨ c.state = .bulkGetCompleting then
    if c.bulkGet.head.isSome then
      let _ ← confirmBulkGets cfg .obexContinue .completed
    else
      let _ ← indicate cfg (.bulkGetInd [] .obexContinue)
    let c ← connection
    if c.bulkGet.current.isSome then sendBulkGet else return .ok
  else
    indicate cfg (.getInd (some request) (if final then .obexContinue else .obexSrvIncompleteGet))

/-- `GetCommand` once the headers are parsed. -/
def serveHeaders (cfg : Config) (newRequest final : Bool) (request : Request) : Srv Status := do
  let request ← takeGetSrm request
  let c ← connection
  let common ← common
  if newRequest then
    let status := checkNewGet cfg c request
    if !status.success then return status
    else
      setCommon fun common => { common with bodySegment := none }
      serveGet cfg request final
  else if (common.bodySegment.map fun h => isABodyHeader h.id) = some true then
    -- the application is called again when this body header is done
    serverSendBodySegment
  else serveGet cfg request final

/-- `GetCommand` up to its error label. -/
def getCommandBody (cfg : Config) (rcvPacket : ByteStream) (final : Bool) : Srv Status := do
  let entry ← getCommandState
  match entry with
  | .error status => return status
  | .ok newRequest => do
      let c ← connection
      let common ← common
      -- with single response mode no command is expected after the final one
      if c.final && common.srm.enabled then return .obexOperationInProgress
      else
        setConnection fun c => { c with final := final }
        let (status, request) ← parseRequest cfg rcvPacket
        if !status.success then return status
        else serveHeaders cfg newRequest final request

/-- The cleanup at the label `GetCommandError`, depending on the state. -/
def getCommandCleanup (cfg : Config) (status : Status) : Srv Unit := do
  let c ← connection
  match c.state with
  | .getInProgress | .getCompleting =>
      let target ← currentTarget
      Prog.only target.cbList.getInd (do
        let _ ← indicate cfg (.getInd none status))
  | .bulkGetInProgress | .bulkGetCompleting =>
      let target ← currentTarget
      Prog.only target.cbList.bulkGetInd (do
        let _ ← indicate cfg (.bulkGetInd [] status))
  | .bulkGetFailed =>
      let _ ← confirmBulkGets cfg status .all
  | _ => pure ()

/-- The label `GetCommandError`. -/
def getCommandError (cfg : Config) (status : Status) : Srv Unit := do
  srmOff
  getCommandCleanup cfg status
  setState .obexConnected
  errorResponse status

def getCommand (cfg : Config) (rcvPacket : ByteStream) (final : Bool) : Srv Unit := do
  let status ← getCommandBody cfg rcvPacket final
  Prog.only (¬ status.success) (getCommandError cfg status)

/-! ## PUT -/

/-- The label `PutCommandError`. -/
def putCommandError (cfg : Config) (status : Status) : Srv Unit := do
  let c ← connection
  Prog.only (c.state = .obexConnected ∨ c.state = .putInProgress ∨ c.state = .putCompleting) (do
    let _ ← indicate cfg (.putInd none status)
    setState .obexConnected)
  errorResponse status

/-- Report progress, if there is any and the application wants to know. -/
def reportProgress (cfg : Config) (cmd : UInt8) : Srv Unit := do
  let target ← currentTarget
  let common ← common
  Prog.only (target.cbList.progressInd ∧ common.progressBytes ≠ 0) (do
    let _ ← indicate cfg (.progressInd cmd common.progressBytes))

/-- `PutCommand`, from the callback on. -/
def indicatePut (cfg : Config) (request : Request) (final : Bool) : Srv Unit := do
  let status ← indicate cfg (.putInd (some request) (if final then .ok else .obexContinue))
  if status.success then reportProgress cfg cmdPut
  else
    -- the application reported an error
    setState .obexConnected
    errorResponse status

/-- The start of a new put request. -/
def newPut (request : Request) : Srv Request := do
  setState .putInProgress
  setCommon fun common => { common with progressBytes := 0 }
  if requestsSrm request then
    srmRequested
    -- the source deletes the parameter header, not the one it has found
    return request.delete hdrSingleResponseParameters
  else return request

/-- `PutCommand` in a state in which it is legal. -/
def continuePut (cfg : Config) (request : Request) (final : Bool) : Srv Unit := do
  setConnection fun c => { c with final := final }
  let target ← currentTarget
  if !target.cbList.putInd then putCommandError cfg .obexServiceUnavailable
  else
    let request ← takeSrmParam request
    indicatePut cfg request final

def putCommand (cfg : Config) (rcvPacket : ByteStream) (final : Bool) : Srv Unit := do
  let (status, request) ← parseRequest cfg rcvPacket
  let c ← connection
  if !status.success then putCommandError cfg status
  else if c.state = .obexConnected then
    let status := verifyConnectionId cfg c request
    if !status.success then putCommandError cfg status
    else
      let request ← newPut request
      continuePut cfg request final
  else if c.state = .putInProgress then continuePut cfg request final
  else putCommandError cfg .obexOperationInProgress

/-! ## SETPATH, ACTION and SESSION -/

/-- `OI_OBEX_SETPATH_UP_LEVEL` and `OI_OBEX_SETPATH_NO_CREATE`. -/
def setpathUpLevel : UInt8 := 1
def setpathNoCreate : UInt8 := 2

/-- `SetPathCommand` after the checks. -/
def indicateSetPath (cfg : Config) (flags : UInt8) (request : Request) : Srv Status := do
  let uplevel := flags &&& setpathUpLevel ≠ 0
  let create := flags &&& setpathNoCreate = 0
  -- an empty name is no name
  let name :=
    match (request.find hdrName).map ParsedHeader.val with
    | some (.unicode len str) => if len ≠ 0 then some (.unicode len str) else none
    | _ => none
  if (name.isSome ∧ uplevel) ∨ (name.isNone ∧ create) then return .obexValueNotAcceptable
  else
    setState .settingPath
    indicate cfg (.setPathInd name uplevel create request)

/-- `SetPathCommand` up to its error label. -/
def setPathCommandBody (cfg : Config) (rcvPacket : ByteStream) : Srv Status := do
  let c ← connection
  if c.state ≠ .obexConnected then return .obexOperationInProgress
  else
    let target ← currentTarget
    if !target.cbList.setPathInd then return .obexServiceUnavailable
    else
      let (flags, rcvPacket) ← Prog.lift (rcvPacket.getUINT8Checked 0)
      let rcvPacket := rcvPacket.skipChecked 1
      if rcvPacket.error then return .obexBadRequest
      else
        let (status, request) ← parseRequest cfg rcvPacket
        if !status.success then return status
        else
          let status := verifyConnectionId cfg c request
          if !status.success then return status else indicateSetPath cfg flags request

def setPathCommand (cfg : Config) (rcvPacket : ByteStream) : Srv Unit := do
  let status ← setPathCommandBody cfg rcvPacket
  Prog.only (¬ status.success) (do
    let c ← connection
    Prog.only (c.state = .settingPath) (setState .obexConnected)
    errorResponse status)

/-- `ActionCommand` up to its error label. -/
def actionCommandBody (cfg : Config) (rcvPacket : ByteStream) : Srv Status := do
  let c ← connection
  if c.state ≠ .obexConnected then return .obexOperationInProgress
  else
    let target ← currentTarget
    if !target.cbList.actionInd then return .obexNotImplemented
    else
      let (status, request) ← parseRequest cfg rcvPacket
      if !status.success then return status
      else
        let status := verifyConnectionId cfg c request
        if !status.success then return status
        else
          match request.find hdrActionId, request.find hdrName with
          | some actionId, some name => do
              setState .doAction
              let status ←
                indicate cfg (.actionInd (ParsedHeader.byte actionId) name.val request)
              Prog.only (¬ status.success) (setState .obexConnected)
              return status
          | _, _ => return .obexRequiredHeaderNotFound

def actionCommand (cfg : Config) (rcvPacket : ByteStream) : Srv Unit := do
  let status ← actionCommandBody cfg rcvPacket
  Prog.only (¬ status.success) (errorResponse status)

/-- The status of a session command: sessions are not implemented. The parameters
after the first one are only logged. -/
def sessionStatus : List UInt8 → Status
  | tag :: len :: opcode :: _ =>
      -- the first parameter must be the session opcode
      if tag ≠ 0x06 ∨ len ≠ 1 then .invalidParameters
      else if opcode = 0x00 then .obexServiceUnavailable
      else if opcode = 0x01 then .obexForbidden
      else if opcode = 0x02 then .obexNotImplemented
      else if opcode = 0x03 then .obexServiceUnavailable
      else if opcode = 0x04 then .obexNotImplemented
      else .ok
  | _ => .obexIncompletePacket

/-- `SessionCommand`. A session opcode that is not known is not answered. -/
def sessionCommand (cfg : Config) (rcvPacket : ByteStream) : Srv Unit := do
  let c ← connection
  if c.state ≠ .obexConnected then errorResponse .obexOperationInProgress
  else
    let (status, request) ← parseRequest cfg rcvPacket
    if !status.success then errorResponse status
    else
      match request.find hdrSessionParams with
      | none => errorResponse .obexRequiredHeaderNotFound
      | some header => do
          let (packet, len) := request.sequence header
          let status := sessionStatus (packet.take len)
          Prog.only (¬ status.success) (errorResponse status)

/-! ## CONNECT -/

/-- `OI_OBEX_MIN_PACKET_SIZE`. -/
def minPacketSize : Nat := 255

/-- `MatchTarget`; the target of the client may be missing. -/
def matchTarget (clientTarget : Option (List UInt8)) (target : List UInt8) : Bool :=
  match clientTarget with
  | some data =>
      if data.length = target.length then data == target
      else data.length = 0 && target.length = 0
  | none => target.length = 0

def findTarget (server : ObexServer) (clientTarget : Option (List UInt8)) : Option TargetInfo :=
  (server.targetInfo :: server.secondary).find? fun info => matchTarget clientTarget info.target

/-- The parameters before the headers of a connect request: the packet size, or the
status of a refusal. -/
def connectParameters (rcvPacket : ByteStream) :
    Except Fault (Except Status Nat × ByteStream) := do
  let (version, bs) ← rcvPacket.getUINT8Checked 0
  if version >>> 4 ≠ 1 then return (.error .obexUnsupportedVersion, bs)
  else
    let (flags, bs) ← bs.getUINT8Checked 0
    if flags ≠ 0 then return (.error .obexCommandError, bs)
    else
      let (maxSendPktLen, bs) ← bs.getUINT16Checked 0
      if bs.error then return (.error .obexIncompletePacket, bs)
      else return (.ok maxSendPktLen, bs)

/-- Allocate the authentication record, unless there is one. -/
def needAuthentication : Srv Bool := do
  let common ← common
  if common.authentication.isSome then return true
  else
    let room ← onChannel OnChannel.takeBlock
    Prog.only room (setAuthentication (some .zero))
    return room

/-- The challenge of the client, if there is one. -/
def connectChallenge (request : Request) : Srv Status := do
  match request.find hdrAuthenticationChallenge with
  | some header => do
      let room ← needAuthentication
      if !room then return .noResources
      else
        let auth ← authentication
        let (packet, len) := request.sequence header
        let (_, auth, readOnly) ← Prog.lift (saveChallenge auth packet len)
        setAuthentication (some auth)
        setCommon fun common => { common with readOnly := readOnly }
        setConnection fun c => { c with authRequested := true }
        return .ok
  | none => do
      setConnection fun c => { c with authRequested := false }
      return .ok

/-- The response of the client to an earlier challenge, saved: whether there is one. -/
def connectResponse (request : Request) : Srv (Status × Bool) :=
  match request.find hdrAuthenticationResponse with
  | some header => do
      let auth ← authentication
      let (packet, len) := request.sequence header
      let (_, auth) ← Prog.lift (saveResponse auth packet len)
      setAuthentication (some auth)
      if auth.userIdRequired && auth.userIdRemote.length = 0 then
        resetAuthentication
        return (.obexAccessDenied, true)
      else return (.ok, true)
  | none => pure (.ok, false)

/-- What the server requires of a connect request: its status, and whether it holds an
authentication response. -/
def connectAuthentication (target : TargetInfo) (request : Request) : Srv (Status × Bool) := do
  if target.authRequired ≠ .none then
    setCommon fun common => { common with authenticating := 1 }
    -- until we know better
    setConnection fun c => { c with unauthorized := true }
    let room ← needAuthentication
    if !room then return (.noResources, false)
    else
      let auth ← authentication
      Prog.only (target.authRequired = .useridAndPassword)
        (setAuthentication (some { auth with userIdRequired := true }))
      let c ← connection
      if c.authTries ≥ maxAuthenticationAttempts then
        resetAuthentication
        return (.obexAccessDenied, false)
      else connectResponse request
  else
    setCommon fun common => { common with authenticating := 0 }
    setConnection fun c => { c with unauthorized := false }
    return (.ok, false)

/-- Indicate the connect request. -/
def indicateConnect (cfg : Config) : Srv Unit := do
  setConnection fun c => { c with authTries := c.authTries + 1 }
  setConnection fun c => { c with connectIndicated := true }
  let c ← connection
  let common ← common
  let realm :=
    match common.authentication with
    | some auth => if auth.realm.realm.length > 0 then some auth.realm else none
    | none => none
  let userId :=
    match common.authentication with
    | some auth =>
        if c.unauthorized && auth.userIdRemote.length > 0 then some auth.userIdRemote else none
    | none => none
  let _ ← indicate cfg (.connectInd (c.unauthorized || c.authRequested) userId realm)

/-- `ConnectCommand` in state `OBEX_CONNECTING`. -/
def connecting (cfg : Config) (havePassword : Bool) : Srv Status := do
  setState .obexConnecting
  let c ← connection
  if c.unauthorized && !havePassword then
    let target ← currentTarget
    if c.authTries = 0 && target.cbList.authInd then
      let _ ← indicate cfg .authInd
      return .ok
    else
      -- continue to get all the authentication information
      acceptConnectCall cfg true .ok none
  else
    indicateConnect cfg
    return .ok

/-- `ConnectCommand` once the headers are parsed. -/
def connectHeadersParsed (cfg : Config) (request : Request) : Srv Status := do
  let c ← connection
  let target := request.find hdrTarget
  let clientTarget := target.map fun header =>
    ((request.sequence header).1.take (request.sequence header).2)
  match findTarget c.obexServer clientTarget with
  | none => return .obexServiceUnavailable
  | some info => do
      setConnection fun c => { c with currentTarget := some info }
      setConnection fun c => { c with clientSpecifiedTarget := target.isSome }
      let status ← connectChallenge request
      if !status.success then return status
      else
        let (status, havePassword) ← connectAuthentication info request
        if !status.success then return status else connecting cfg havePassword

/-- `ConnectCommand` up to its error label. -/
def connectCommandBody (cfg : Config) (rcvPacket : ByteStream) : Srv Status := do
  let c ← connection
  -- reject a connect command if we are already connected
  if c.state ≠ .lowerLayerConnected then return .obexServiceUnavailable
  else
    let (parameters, rcvPacket) ← Prog.lift (connectParameters rcvPacket)
    match parameters with
    | .error status => return status
    | .ok maxSendPktLen => do
        setCommon fun common =>
          { common with maxSendPktLen := min maxSendPktLen common.maxSendPktLen }
        let common ← common
        if common.maxSendPktLen < minPacketSize then return .obexValueNotAcceptable
        else
          let (status, request) ← parseRequest cfg rcvPacket
          if !status.success then return status else connectHeadersParsed cfg request

def connectCommand (cfg : Config) (rcvPacket : ByteStream) : Srv Unit := do
  let status ← connectCommandBody cfg rcvPacket
  Prog.only (¬ status.success) (do
    let _ ← acceptConnect cfg none false status none
    setAuthentication none)

end Obex.Server
