import BtPlatform.Obex.Server.State

/-!
# The server: interface to the application

The functions of `obexsrv.c` that the application calls, from inside a callback or
outside. None of them calls back into the application. `call` runs one of them and
records it with its result; `indicate` makes a callback, in which the application
makes the calls of its next reply.
-/

namespace Obex.Server

open Support Program Linked Srv

/-- `OI_OBEX_VERSION_NUMBER`. -/
def versionNumber : UInt8 := 0x10

/-- `MAX_AUTHENTICATION_ATTEMPTS`. -/
def maxAuthenticationAttempts : UInt8 := 3

/-- `SRM_PARAM_NONE`. -/
def srmParamNone : Nat := 255

def srmParamRsvp : Nat := 0
def srmParamRsvpAndWait : Nat := 2

/-- `OI_OBEX_SRM_ENABLED` and `OI_OBEX_SRM_SUPPORTED` as header values. -/
def srmEnabled : UInt8 := 1
def srmSupported : UInt8 := 2

/-- `OI_OBEXSRV_ForceDisconnect`. -/
def forceDisconnect : Srv Status := do
  let s ← Prog.view id
  if !s.live then return .invalidHandle
  else if s.connection.state = .disconnected then return .obexNotConnected
  else
    setConnection fun c => { c with forcedDisconnect := true }
    setState .obexDisconnectCompleting
    onChannel OnChannel.disconnect

/-! ## Responses to a bulk get -/

def appendBulkData (bulkDataHead bulkDataTail : Option Ptr) : Srv Unit := do
  let c ← connection
  if c.bulkGet.tail.isSome then
    onChannel (OnChannel.setNext c.bulkGet.tail bulkDataHead)
  else
    setBulkGet fun b => { b with head := bulkDataHead }
  setBulkGet fun b => { b with tail := bulkDataTail, current := b.current.or bulkDataHead }

/-- `OI_OBEXCOMMON_SendBulk` on the list of the connection. -/
def sendBulkGet : Srv Status := do
  let c ← connection
  let sent ← onChannel (OnChannel.sendBulk c.bulkGet.current c.bulkGet.busy)
  setBulkGet fun b => { b with current := sent.current, busy := sent.busy }
  return sent.status

/-- The error exit of `OI_OBEXSRV_BulkGetResponse`. -/
def bulkGetResponseError (status : Status) : Srv Status := do
  setState .bulkGetFailed
  let common ← common
  let c ← connection
  if common.srm.enabled then
    -- if there is nothing to confirm we are done
    Prog.only (c.bulkGet.head = none) (do srmOff; setState .obexConnected)
    errorResponse status
    return .obexError
  else return .obexError

/-- Send the blocks just appended. If nothing was sent they are freed. -/
def sendNewBlocks (bulkDataHead : Option Ptr) : Srv Status := do
  let status ← sendBulkGet
  if status.success then return .ok
  else
    let (_, node) ← onChannel (OnChannel.deref bulkDataHead)
    if node.val.bytesSent = node.val.bytesConfirmed then
      onChannel (OnChannel.freeBulkData bulkDataHead)
      bulkGetResponseError status
    else
      let status ← forceDisconnect
      if status.success then return .ok else bulkGetResponseError status

/-- `bulkDataTail->final = TRUE`. -/
def setFinal (p : Option Ptr) : OnChannel Unit := do
  let (p, node) ← OnChannel.deref p
  OnChannel.setBlocks fun blocks =>
    blocks.write p { node with val := { node.val with final := true } }

/-- The end of `OI_OBEXSRV_BulkGetResponse`: take the buffers. -/
def queueBuffers (buffers : List Buffer) (rspStatus : Status) : Srv Status := do
  let (status, bulkDataHead, bulkDataTail) ← onChannel (OnChannel.allocBulkData buffers)
  if !status.success then bulkGetResponseError status
  else
    Prog.only (rspStatus ≠ .obexContinue) (do
      onChannel (setFinal bulkDataTail)
      setState .bulkGetCompleting)
    let c ← connection
    appendBulkData bulkDataHead bulkDataTail
    -- queued only, if a block is being sent or the lower layer is busy
    if c.bulkGet.current.isSome || c.bulkGet.busy then return .ok
    else sendNewBlocks bulkDataHead

/-- Whether the last block of the list is the final one. -/
def tailIsFinal : Srv Bool := do
  let c ← connection
  if c.bulkGet.tail.isSome then
    let (_, node) ← onChannel (OnChannel.deref c.bulkGet.tail)
    return node.val.final
  else return false

/-- `OI_OBEXSRV_BulkGetResponse`. -/
def bulkGetResponse (buffers : List Buffer) (rspStatus : Status) : Srv Status := do
  let s ← Prog.view id
  if !s.live then return .invalidParameters
  else if s.connection.state = .bulkGetFailed then return .invalidState
  else if s.connection.state = .bulkGetCompleting then
    if buffers.length > 0 then return .invalidState else return .ok
  else if s.connection.state ≠ .bulkGetInProgress then return .invalidState
  else if s.connection.abortPending then return .obexClientAbortedCommand
  else
    -- no more responses are allowed after the final one
    let final ← tailIsFinal
    if final then return .invalidState
    else if rspStatus ≠ .obexContinue ∧ rspStatus ≠ .ok then bulkGetResponseError rspStatus
    else if buffers.length = 0 then return .invalidParameters
    else queueBuffers buffers rspStatus

/-! ## Responses to a get and to a put -/

/-- The error exit of `OI_OBEXSRV_GetResponse` and `OI_OBEXSRV_PutResponse`. -/
def responseError (rspStatus : Status) : Srv Unit := do
  setState .obexConnected
  errorResponse rspStatus

/-- The single response mode header of a response. -/
def srmHeader : Header := .uInt8 (hdrLow hdrSingleResponseMode) srmEnabled

/-- Enable single response mode if the client requested it. -/
def enableSrm : Srv (List Header) := do
  let common ← common
  if common.srm.requested then
    setCommon fun common =>
      { common with srm := { common.srm with requested := false, enabled := true } }
    return [srmHeader]
  else return []

/-- `OI_OBEXCOMMON_MarshalPacket` and `ServerSendPacket`. -/
def sendHeaders (pkt : ByteStream) (hdrs : List Header) (rspHeaders : Option (List Header)) :
    Srv Status := do
  let status ← onChannel (OnChannel.marshalPacket pkt hdrs (rspHeaders.getD []))
  if status.success then onChannel OnChannel.sendPacket else pure status

/-- The response of `OI_OBEXSRV_GetResponse`. -/
def sendGetResponse (rspHeaders : Option (List Header)) (rspStatus : Status) : Srv Status := do
  Prog.only (rspStatus ≠ .obexContinue) (setState .getCompleting)
  let rsp := if rspStatus = .obexContinue then rspContinue else rspOk
  let pkt ← onChannel (OnChannel.initPacket (obexFinal rsp))
  let srmHeaders ← enableSrm
  let c ← connection
  let common ← common
  -- an incomplete request: ask for another command
  let paramHeaders : List Header :=
    if !c.final && common.srm.enabled then
      [.uInt8 (hdrLow hdrSingleResponseParameters) (UInt8.ofNat srmParamRsvp)]
    else []
  sendHeaders pkt (srmHeaders ++ paramHeaders) rspHeaders

/-- `OI_OBEXSRV_GetResponse`. -/
def getResponse (rspHeaders : Option (List Header)) (rspStatus : Status) : Srv Status := do
  let s ← Prog.view id
  if !s.live then return .invalidParameters
  else if s.connection.state ≠ .getInProgress then return .obexOperationInProgress
  else if rspStatus ≠ .ok ∧ rspStatus ≠ .obexContinue then
    responseError rspStatus
    return .ok
  else
    let status ← sendGetResponse rspHeaders rspStatus
    Prog.only (¬ status.success) (responseError status)
    return status

def responseRequired : Srv Bool := do
  let c ← connection
  let common ← common
  if !common.srm.enabled then return true
  else if c.final then
    setCommon fun common => { common with srmParam := srmParamNone }
    return true
  else if common.srmParam = srmParamRsvp then
    setCommon fun common => { common with srmParam := srmParamNone }
    return true
  else return common.srmParam = srmParamRsvpAndWait

/-- The response of `OI_OBEXSRV_PutResponse`, if one is required. -/
def sendPutResponse (rspHeaders : Option (List Header)) (rspStatus : Status) : Srv Status := do
  let required ← responseRequired
  if required then
    let srmHeaders ← Prog.branch (rspStatus = .obexContinue) enableSrm (pure [])
    let rsp := if rspStatus = .obexContinue then obexFinal rspContinue else mapStatus rspStatus
    if rspHeaders.isSome || srmHeaders.length > 0 then
      let pkt ← onChannel (OnChannel.initPacket rsp)
      sendHeaders pkt srmHeaders rspHeaders
    else onChannel (OnChannel.sendSimple rsp)
  else return .ok

/-- `OI_OBEXSRV_PutResponse`. -/
def putResponse (rspHeaders : Option (List Header)) (rspStatus : Status) : Srv Status := do
  let s ← Prog.view id
  if !s.live then return .invalidParameters
  else if s.connection.state ≠ .putInProgress then return .obexOperationInProgress
  else if rspStatus ≠ .ok ∧ rspStatus ≠ .obexContinue ∧ rspStatus ≠ .obexPartialContent then
    responseError rspStatus
    return .ok
  else if rspStatus = .obexContinue ∧ s.connection.final then
    -- the response sent is the one for the status of the caller
    responseError rspStatus
    return .invalidState
  else
    Prog.only (rspStatus ≠ .obexContinue) (do
      setState .putCompleting
      srmOff)
    let status ← sendPutResponse rspHeaders rspStatus
    Prog.only (¬ status.success) (responseError status)
    return status

/-- `OI_OBEXSRV_ActionResponse`. -/
def actionResponse (rspStatus : Status) (optHeaders : Option (List Header)) : Srv Status := do
  let s ← Prog.view id
  if !s.live then return .invalidParameters
  else if s.connection.state ≠ .doAction then return .obexOperationInProgress
  else
    let status ← sendSimpleWithHeaders (mapStatus rspStatus) optHeaders
    setState .obexConnected
    Prog.only (¬ status.success) (errorResponse status)
    return status

/-- `OI_OBEXSRV_ConfirmSetpath`. -/
def confirmSetpath (status : Status) (optHeaders : Option (List Header)) : Srv Status := do
  let s ← Prog.view id
  if !s.live || s.connection.state ≠ .settingPath then return .obexInvalidOperation
  else
    setState .obexConnected
    if status.success then sendSimpleWithHeaders (obexFinal rspOk) optHeaders
    else
      errorResponse status
      return .ok

/-! ## Accepting a connection -/

/-- The challenge that rejects an unauthorized connect request. -/
def sendChallenge (cfg : Config) (realm : Option Realm) : Srv Header := do
  let common ← common
  let auth ← authentication
  let timestamp ← Prog.view fun s => s.timestamps.headD []
  Prog.update fun s => { s with timestamps := s.timestamps.tail }
  let (challenge, auth) := composeChallenge cfg.md5 cfg.privateKey timestamp realm common auth
  setAuthentication (some auth)
  return challenge

/-- If the client specified a target, the response names it. -/
def targetHeaders (cfg : Config) : Srv (List Header) := do
  let target ← currentTarget
  return [.uInt32 (hdrLow hdrConnectionId) cfg.connectionAddr,
    .byteseq (hdrLow hdrWho) target.target]

/-- The response to the challenge of the client. -/
def responseHeaders (cfg : Config) : Srv (List Header) := do
  let auth ← authentication
  return [composeResponse cfg.md5 auth]

/-- The headers of the response that completes a connection. -/
def connectHeaders (cfg : Config) : Srv (List Header) := do
  let c ← connection
  let common ← common
  let idHeaders ← Prog.branch c.clientSpecifiedTarget (targetHeaders cfg) (pure [])
  let authHeaders ← Prog.branch c.authRequested (responseHeaders cfg) (pure [])
  let srmHeaders : List Header :=
    if common.srm.supported && common.srm.requested then
      [.uInt8 (hdrLow hdrSingleResponseMode) srmSupported]
    else []
  return idHeaders ++ authHeaders ++ srmHeaders

/-- The three ways in which `acceptConnect` answers: response code and headers. -/
def connectAnswer (cfg : Config) (realm : Option Realm) (accept : Bool) (status : Status) :
    Srv (UInt8 × List Header) := do
  let c ← connection
  if accept then
    if c.unauthorized then
      -- reject the request and send an authentication challenge
      setState .lowerLayerConnected
      let challenge ← sendChallenge cfg realm
      return (obexFinal 0x41, [challenge])
    else
      setState .connectCompleting
      recordTarget .accepted
      let headers ← connectHeaders cfg
      return (obexFinal rspOk, headers)
  else
    setState .lowerLayerConnected
    setConnection fun c => { c with connectIndicated := false }
    return (mapStatus status, [])

/-- The packet of a response to a connect request. -/
def sendConnectAnswer (rsp : UInt8) (headers : List Header) (optHeaders : Option (List Header)) :
    Srv Status := do
  let pkt ← onChannel (OnChannel.initPacket rsp)
  let common ← common
  let pkt ← Prog.lift (pkt.putUINT8 versionNumber.toNat)
  let pkt ← Prog.lift (pkt.putUINT8 0)
  let pkt ← Prog.lift (pkt.putUINT16 common.maxRecvPktLen)
  sendHeaders pkt headers optHeaders

def acceptConnect (cfg : Config) (realm : Option Realm) (accept : Bool) (status : Status)
    (optHeaders : Option (List Header)) : Srv Status := do
  let s ← Prog.view id
  if !s.live then return .obexInvalidOperation
  else
    let (rsp, headers) ← connectAnswer cfg realm accept status
    let status ← sendConnectAnswer rsp headers optHeaders
    Prog.only (¬ status.success) (do
      -- the lower layer connection is still up, the OBEX connection is not
      setState .lowerLayerConnected
      setAuthentication none
      setConnection fun c => { c with connectIndicated := false })
    return status

/-- `OI_OBEXSRV_AcceptConnect`. -/
def acceptConnectCall (cfg : Config) (accept : Bool) (status : Status)
    (optHeaders : Option (List Header)) : Srv Status := do
  let s ← Prog.view id
  if !s.live || s.connection.state ≠ .obexConnecting then return .obexInvalidOperation
  else if (accept && !status.success) || (!accept && status.success) then
    return .invalidParameters
  else acceptConnect cfg none accept status optHeaders

/-- The part of `OI_OBEXSRV_AuthenticationResponse` after the password is saved. -/
def checkAuthentication (cfg : Config) : Srv Status := do
  let c ← connection
  if c.unauthorized then
    let auth ← authentication
    let result := authenticate cfg.md5 auth
    recordTarget fun target => .authenticated target result
    if result.success then
      setConnection fun c => { c with unauthorized := false }
      let _ ← register .reIndicateConnect
      return .ok
    else if c.authTries < maxAuthenticationAttempts then
      -- a challenge lets the authentication proceed
      acceptConnectCall cfg true .ok none
    else return .obexAccessDenied
  else
    let _ ← register .reIndicateConnect
    return .ok

/-- `OI_OBEXAUTH_Reset`. -/
def resetAuthentication : Srv Unit := do
  let _ ← authentication
  setAuthentication (some .zero)

/-- `OI_OBEXSRV_AuthenticationResponse`. -/
def authenticationResponse (cfg : Config) (userId : Option (List UInt8)) (userIdLen : Nat)
    (password : List UInt8) (readOnly : Bool) : Srv Status := do
  let s ← Prog.view id
  if !s.live || s.connection.state ≠ .obexConnecting then return .obexInvalidOperation
  else if !s.connection.unauthorized && !s.connection.authRequested then
    return .obexInvalidOperation
  else
    setCommon fun common => { common with readOnly := readOnly }
    let auth ← authentication
    let (status, auth) := saveAuthInfo auth userId userIdLen password
    setAuthentication (some auth)
    let status ← Prog.branch status.success (checkAuthentication cfg) (pure status)
    if status.success then return status
    else
      let _ ← acceptConnect cfg none false status none
      setState .lowerLayerConnected
      resetAuthentication
      return status

/-- `OI_OBEXSRV_AuthAccept`. -/
def authAccept (cfg : Config) (realm : Option Realm) (accept : Bool) : Srv Status := do
  let s ← Prog.view id
  if !s.live || s.connection.state ≠ .obexConnecting then return .obexInvalidOperation
  else if (realm.map fun r => r.realm.length).getD 0 > maxRealmLen then return .invalidParameters
  else
    let status ← acceptConnect cfg realm accept .ok none
    Prog.only status.success (setConnection fun c => { c with authTries := c.authTries + 1 })
    return status

/-! ## Responses to an abort -/

/-- The packet that `OI_OBEXSRV_AbortResponse` prepares. -/
def composeAbort (rspHeaders : Option (List Header)) (rspStatus : Status) :
    Srv (Status × Option Mbuf) := do
  let opcode := obexFinal (UInt8.ofNat rspStatus.code)
  match rspHeaders with
  | some headers => do
      let pkt ← onChannel (OnChannel.initPacket opcode)
      let channel ← Prog.view Session.channel
      let (status, mbuf, common, memory) ←
        Prog.lift (marshalPacketMbuf channel.common pkt [] headers channel.memory)
      onChannel (Prog.update fun ch => { ch with common := common, memory := memory })
      return (status, mbuf)
  | none => do
      let room ← onChannel OnChannel.takeMbuf
      return (.ok, if room then some (Mbuf.wrap [opcode, 0, 3]) else none)

/-- `OI_OBEXSRV_AbortResponse`. -/
def abortResponse (rspHeaders : Option (List Header)) (rspStatus : Status) : Srv Status := do
  let s ← Prog.view id
  if !s.live || !s.connection.abortResponsePending then return .obexInvalidOperation
  else
    setConnection fun c => { c with abortResponsePending := false }
    let (status, mbuf) ← composeAbort rspHeaders rspStatus
    onChannel (OnChannel.disown .abortMbuf)
    setConnection fun c => { c with abortMbuf := mbuf }
    if status.success then register .dispatchedAbortCommand else return status

/-! ## Calls and callbacks -/

/-- The function behind a call. -/
def callFunction (cfg : Config) : Call → Srv Status
  | .bulkGetResponse buffers rspStatus => bulkGetResponse buffers rspStatus
  | .getResponse rspHeaders rspStatus => getResponse rspHeaders rspStatus
  | .putResponse rspHeaders rspStatus => putResponse rspHeaders rspStatus
  | .actionResponse rspStatus optHeaders => actionResponse rspStatus optHeaders
  | .confirmSetpath status optHeaders => confirmSetpath status optHeaders
  | .acceptConnect accept status optHeaders => acceptConnectCall cfg accept status optHeaders
  | .authenticationResponse userId userIdLen password readOnly =>
      authenticationResponse cfg userId userIdLen password readOnly
  | .authAccept realm accept => authAccept cfg realm accept
  | .abortResponse rspHeaders rspStatus => abortResponse rspHeaders rspStatus
  | .forceDisconnect => forceDisconnect

/-- A call of the application. -/
def call (cfg : Config) (c : Call) : Srv Unit := do
  let s ← Prog.view id
  record (.called c ⟨s.connection, s.channel⟩)
  let status ← callFunction cfg c
  record (.answered c status)

/-- The calls of one reply. -/
def calls (cfg : Config) (cs : List Call) : Srv Unit := Prog.perform (call cfg) cs

/-- A callback through the callback list of the current target. -/
def indicate (cfg : Config) (ind : Indication) : Srv Status := do
  let target ← currentTarget
  if target.cbList.provides ind then
    let reply ← Prog.view fun s => s.replies.headD ⟨[], .ok⟩
    Prog.update fun s => { s with replies := s.replies.tail }
    record (.indicated ind reply.status)
    calls cfg reply.calls
    return reply.status
  else Prog.fault .nullDeref

end Obex.Server
