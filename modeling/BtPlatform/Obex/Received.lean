import BtPlatform.Obex.Client.Agreed
import BtPlatform.Obex.Server.Reject
import BtPlatform.Obex.Server.Stripped

/-!
# Reading a received packet

Both `LowerRecvDataInd` functions open a byte stream over the packet and hand it to the
handler of a command or of a response. Each is cut here where its handler has made its last
access to the stream: `receive` reads, and what comes after it has the parsed headers only.
-/

namespace Obex

open Support Program Prog

/-- No stream of a packet is anything but readable: the header parser returns. -/
theorem parseHeaderList_returns (order : CpuByteOrder) (memory : Bool) (common : Common)
    {bs : ByteStream} (h : bs.Readable) :
    ∃ result, parseHeaderList order memory common bs = .ok result := by
  by_cases hwf : ∃ hs : List WireHeader, bs.rest = headerCodec.encodeAll hs
  · obtain ⟨hs, hr⟩ := hwf
    by_cases hmem : memory = true ∨ hs.length % 256 = 0
    · obtain ⟨list, common', bs', hrun, -⟩ :=
        parseHeaderList_encodeAll order memory common h hr hmem
      exact ⟨_, hrun⟩
    · obtain ⟨hmem, hcount⟩ := not_or.1 hmem
      obtain ⟨list, bs', hrun⟩ := parseHeaderList_noMemory order common h hr hcount
      have hfalse : memory = false := by simpa using hmem
      exact ⟨_, hfalse ▸ hrun⟩
  · obtain ⟨bs', hrun⟩ :=
      parseHeaderList_malformed order memory common h fun hs hr => hwf ⟨hs, hr⟩
    exact ⟨_, hrun⟩

/-- Take what was read further, unless it was refused. -/
def proceed {σ α : Type} (read : Except Status α) (f : α → Prog σ Fault Status) :
    Prog σ Fault Status :=
  match read with
  | .error status => pure status
  | .ok a => f a

end Obex

namespace Obex.Server

open Support Program Prog Srv

/-! ## The server -/

/-- What the server has of a packet when it is done with the stream. -/
inductive Incoming
  /-- the lower connection is being dropped -/
  | ignored
  /-- the client sends again after its disconnect request -/
  | closing
  | connect (request : Except Status Request)
  | disconnect
  | put (final : Bool) (status : Status) (request : Request)
  | get (final : Bool) (request : Except Status (Bool × Request))
  | setPath (request : Except Status (Connection × UInt8 × Request))
  | action (request : Except Status (Connection × Request))
  | session (request : Except Status Request)
  /-- an abort, with its headers if the application is told of aborts -/
  | abort (request : Option (Status × Request))
  | unknown

/-- `ConnectCommand` up to the parsed headers. -/
def receiveConnect (cfg : Config) (rcvPacket : ByteStream) : Srv (Except Status Request) := do
  let c ← connection
  if c.state ≠ .lowerLayerConnected then return .error .obexServiceUnavailable
  else
    let (parameters, rcvPacket) ← Prog.lift (connectParameters rcvPacket)
    match parameters with
    | .error status => return .error status
    | .ok maxSendPktLen => do
        setCommon fun common =>
          { common with maxSendPktLen := min maxSendPktLen common.maxSendPktLen }
        let common ← common
        if common.maxSendPktLen < minPacketSize then return .error .obexValueNotAcceptable
        else
          let (status, request) ← parseRequest cfg rcvPacket
          if !status.success then return .error status else return .ok request

/-- `SetPathCommand` up to the parsed headers. -/
def receiveSetPath (cfg : Config) (rcvPacket : ByteStream) :
    Srv (Except Status (Connection × UInt8 × Request)) := do
  let c ← connection
  if c.state ≠ .obexConnected then return .error .obexOperationInProgress
  else
    let target ← currentTarget
    if !target.cbList.setPathInd then return .error .obexServiceUnavailable
    else
      let (flags, rcvPacket) ← Prog.lift (rcvPacket.getUINT8Checked 0)
      let rcvPacket := rcvPacket.skipChecked 1
      if rcvPacket.error then return .error .obexBadRequest
      else
        let (status, request) ← parseRequest cfg rcvPacket
        if !status.success then return .error status else return .ok (c, flags, request)

/-- `ActionCommand` up to the parsed headers. -/
def receiveAction (cfg : Config) (rcvPacket : ByteStream) :
    Srv (Except Status (Connection × Request)) := do
  let c ← connection
  if c.state ≠ .obexConnected then return .error .obexOperationInProgress
  else
    let target ← currentTarget
    if !target.cbList.actionInd then return .error .obexNotImplemented
    else
      let (status, request) ← parseRequest cfg rcvPacket
      if !status.success then return .error status else return .ok (c, request)

/-- `SessionCommand` up to the parsed headers. -/
def receiveSession (cfg : Config) (rcvPacket : ByteStream) : Srv (Except Status Request) := do
  let c ← connection
  if c.state ≠ .obexConnected then return .error .obexOperationInProgress
  else
    let (status, request) ← parseRequest cfg rcvPacket
    if !status.success then return .error status else return .ok request

/-- `handleAbortCommand` up to the parsed headers. -/
def receiveAbort (cfg : Config) (rcvPacket : ByteStream) : Srv Incoming := do
  clearAbortMbuf
  let c ← connection
  match c.currentTarget with
  | none => return .ignored
  | some target =>
      if target.cbList.abortInd then
        let parsed ← parseRequest cfg rcvPacket
        return .abort (some parsed)
      else return .abort none

/-- What `LowerRecvDataInd` and its handlers read of a packet. -/
def receiveCommand (cfg : Config) (cmdCode : UInt8) (rcvPacket : ByteStream) : Srv Incoming :=
  if obexFinal cmdCode = obexFinal cmdConnect then do
    let request ← receiveConnect cfg rcvPacket
    return .connect request
  else if obexFinal cmdCode = obexFinal cmdDisconnect then return .disconnect
  else if obexFinal cmdCode = obexFinal cmdPut then do
    let (status, request) ← parseRequest cfg rcvPacket
    return .put (obexIsFinal cmdCode) status request
  else if obexFinal cmdCode = obexFinal cmdGet then do
    let request ← receiveGet cfg rcvPacket (obexIsFinal cmdCode)
    return .get (obexIsFinal cmdCode) request
  else if obexFinal cmdCode = obexFinal cmdSetPath then do
    let request ← receiveSetPath cfg rcvPacket
    return .setPath request
  else if obexFinal cmdCode = obexFinal cmdAction then do
    let request ← receiveAction cfg rcvPacket
    return .action request
  else if obexFinal cmdCode = obexFinal cmdSession then do
    let request ← receiveSession cfg rcvPacket
    return .session request
  else if obexFinal cmdCode = obexFinal cmdAbort then receiveAbort cfg rcvPacket
  else return .unknown

/-- `LowerRecvDataInd` up to the last access to the stream. -/
def receive (cfg : Config) (dataBuf : List UInt8) (addr : Nat) : Srv Incoming := do
  let c ← connection
  if c.state = .obexDisconnectCompleting then return .ignored
  else if c.state = .obexDisconnecting then return .closing
  else
    let (cmdCode, rcvPacket) ← Prog.lift (openPacket dataBuf addr)
    receiveCommand cfg cmdCode rcvPacket

/-- `ActionCommand` from the parsed headers to its error label. -/
def serveAction (cfg : Config) (c : Connection) (request : Request) : Srv Status :=
  let status := verifyConnectionId cfg c request
  if !status.success then return status
  else
    match request.find hdrActionId, request.find hdrName with
    | some actionId, some name => do
        setState .doAction
        let status ← indicate cfg (.actionInd (ParsedHeader.byte actionId) name.val request)
        Prog.only (¬ status.success) (setState .obexConnected)
        return status
    | _, _ => return .obexRequiredHeaderNotFound

/-- `SessionCommand` after the parsed headers. -/
def serveSession (request : Request) : Srv Unit :=
  match request.find hdrSessionParams with
  | none => errorResponse .obexRequiredHeaderNotFound
  | some header => do
      let (packet, len) := request.sequence header
      let status := sessionStatus (packet.take len)
      Prog.only (¬ status.success) (errorResponse status)

/-- `LowerRecvDataInd` after the last access to the stream. -/
def serve (cfg : Config) : Incoming → Srv Unit
  | .ignored => pure ()
  | .closing => dropLowerConnection cfg
  | .connect request => do
      let status ← proceed request (connectHeadersParsed cfg)
      Prog.only (¬ status.success) (do
        let _ ← acceptConnect cfg none false status none
        setAuthentication none)
  | .disconnect => disconnectCommand cfg
  | .put final status request =>
      if !status.success then putCommandError cfg status
      else takePut cfg final request >>= finishPut cfg final
  | .get final request => do
      let status ← proceed request fun (newRequest, request) =>
        takeGet cfg newRequest request >>= finishGet cfg final
      Prog.only (¬ status.success) (getCommandError cfg status)
  | .setPath request => do
      let status ← proceed request fun (c, flags, request) =>
        let status := verifyConnectionId cfg c request
        if !status.success then return status else indicateSetPath cfg flags request
      Prog.only (¬ status.success) (do
        let c ← connection
        Prog.only (c.state = .settingPath) (setState .obexConnected)
        errorResponse status)
  | .action request => do
      let status ← proceed request fun (c, request) => serveAction cfg c request
      Prog.only (¬ status.success) (errorResponse status)
  | .session request =>
      match request with
      | .error status => errorResponse status
      | .ok request => serveSession request
  | .abort none => abortOperation cfg
  | .abort (some (status, request)) =>
      if status.success then do
        setConnection fun c => { c with abortPending := true, abortResponsePending := true }
        let _ ← indicate cfg (.abortInd request)
      else errorResponse status
  | .unknown => errorResponse .obexBadRequest

theorem connectCommand_eq (cfg : Config) (rcvPacket : ByteStream) :
    connectCommand cfg rcvPacket =
      receiveConnect cfg rcvPacket >>= fun request => serve cfg (.connect request) := by
  have hbody : connectCommandBody cfg rcvPacket =
      receiveConnect cfg rcvPacket >>= fun request =>
        proceed request (connectHeadersParsed cfg) := by
    unfold connectCommandBody receiveConnect
    rw [bind_bind]
    congr 1
    funext c
    rw [ite_then]
    congr 1
    rw [bind_bind]
    congr 1
    funext ⟨parameters, rcvPacket⟩
    cases parameters with
    | error status => rfl
    | ok maxSendPktLen =>
        dsimp only
        rw [bind_bind]
        congr 1
        funext _
        rw [bind_bind]
        congr 1
        funext common
        rw [ite_then]
        congr 1
        rw [bind_bind]
        congr 1
        funext ⟨status, request⟩
        rw [ite_then]
        rfl
  unfold connectCommand
  rw [hbody, bind_bind]
  rfl

theorem setPathCommand_eq (cfg : Config) (rcvPacket : ByteStream) :
    setPathCommand cfg rcvPacket =
      receiveSetPath cfg rcvPacket >>= fun request => serve cfg (.setPath request) := by
  have hbody : setPathCommandBody cfg rcvPacket =
      receiveSetPath cfg rcvPacket >>= fun request =>
        proceed request fun (c, flags, request) =>
          let status := verifyConnectionId cfg c request
          if !status.success then return status else indicateSetPath cfg flags request := by
    unfold setPathCommandBody receiveSetPath
    rw [bind_bind]
    congr 1
    funext c
    rw [ite_then]
    congr 1
    rw [bind_bind]
    congr 1
    funext target
    rw [ite_then]
    congr 1
    rw [bind_bind]
    congr 1
    funext ⟨flags, rcvPacket⟩
    dsimp only
    rw [ite_then]
    congr 1
    rw [bind_bind]
    congr 1
    funext ⟨status, request⟩
    dsimp only
    rw [ite_then]
    rfl
  unfold setPathCommand
  rw [hbody, bind_bind]
  rfl

theorem actionCommand_eq (cfg : Config) (rcvPacket : ByteStream) :
    actionCommand cfg rcvPacket =
      receiveAction cfg rcvPacket >>= fun request => serve cfg (.action request) := by
  have hbody : actionCommandBody cfg rcvPacket =
      receiveAction cfg rcvPacket >>= fun request =>
        proceed request fun (c, request) => serveAction cfg c request := by
    unfold actionCommandBody receiveAction
    rw [bind_bind]
    congr 1
    funext c
    rw [ite_then]
    congr 1
    rw [bind_bind]
    congr 1
    funext target
    rw [ite_then]
    congr 1
    rw [bind_bind]
    congr 1
    funext ⟨status, request⟩
    dsimp only
    rw [ite_then]
    rfl
  unfold actionCommand
  rw [hbody, bind_bind]
  rfl

theorem sessionCommand_eq (cfg : Config) (rcvPacket : ByteStream) :
    sessionCommand cfg rcvPacket =
      receiveSession cfg rcvPacket >>= fun request => serve cfg (.session request) := by
  unfold sessionCommand receiveSession
  rw [bind_bind]
  congr 1
  funext c
  rw [ite_then]
  congr 1
  rw [bind_bind]
  congr 1
  funext ⟨status, request⟩
  dsimp only
  rw [ite_then]
  rfl

theorem handleAbortCommand_eq (cfg : Config) (rcvPacket : ByteStream) :
    handleAbortCommand cfg rcvPacket = receiveAbort cfg rcvPacket >>= serve cfg := by
  unfold handleAbortCommand receiveAbort
  rw [bind_bind]
  congr 1
  funext _
  rw [bind_bind]
  congr 1
  funext c
  cases c.currentTarget with
  | none => rfl
  | some target =>
      dsimp only
      rw [ite_then, bind_bind]
      rfl

theorem getCommand_eq (cfg : Config) (rcvPacket : ByteStream) (final : Bool) :
    getCommand cfg rcvPacket final =
      receiveGet cfg rcvPacket final >>= fun request => serve cfg (.get final request) := by
  unfold getCommand
  rw [getCommandBody_eq, bind_bind]
  congr 1
  funext request
  cases request with
  | error status => rfl
  | ok parsed => rfl

theorem dispatchCommand_eq (cfg : Config) (cmdCode : UInt8) (rcvPacket : ByteStream) :
    dispatchCommand cfg cmdCode rcvPacket =
      receiveCommand cfg cmdCode rcvPacket >>= serve cfg := by
  unfold dispatchCommand receiveCommand
  simp only [ite_then, bind_bind, pure_then, connectCommand_eq, setPathCommand_eq,
    actionCommand_eq, sessionCommand_eq, handleAbortCommand_eq, putCommand_eq, getCommand_eq]
  rfl

theorem lowerRecvDataInd_eq (cfg : Config) (dataBuf : List UInt8) (addr : Nat) :
    lowerRecvDataInd cfg dataBuf addr = receive cfg dataBuf addr >>= serve cfg := by
  unfold lowerRecvDataInd receive
  rw [bind_bind]
  congr 1
  funext c
  rw [ite_then, ite_then, bind_bind]
  simp only [dispatchCommand_eq]
  rfl

section Reads

variable {cfg : Config} {rcvPacket : ByteStream}

theorem setCommon_avoids (f : Common → Common) : Avoids .assertion (setCommon f) := by
  unfold setCommon onChannel OnChannel.setCommon
  exact .zoom .update

theorem parseRequest_avoids (h : rcvPacket.Readable) :
    Avoids .assertion (parseRequest cfg rcvPacket) := by
  apply Avoids.bind (Avoids.zoom (Avoids.bind Avoids.view fun _ => Avoids.bind Avoids.update
    fun _ => .pure))
  intro room
  apply Avoids.bind Avoids.view
  intro common
  obtain ⟨result, hrun⟩ := parseHeaderList_returns cfg.order room common h
  rw [hrun, lift_ok_then]
  exact .bind (setCommon_avoids _) fun _ => .pure

/-- The parsed headers, or the status of a refusal. -/
theorem parsed_avoids {α : Type} (h : rcvPacket.Readable) (f : Request → α) :
    Avoids .assertion (do
      let (status, request) ← parseRequest cfg rcvPacket
      if !status.success then return .error status else return .ok (f request) :
        Srv (Except Status α)) :=
  .bind (parseRequest_avoids h) fun _ => .ite .pure .pure

/-- The parameters of a connect request are read with checked accessors only. -/
theorem connectParameters_returns (h : rcvPacket.Reading) :
    ∃ parameters bs, connectParameters rcvPacket = .ok (parameters, bs) ∧
      ∀ n, parameters = .ok n → bs.Readable := by
  obtain ⟨version, bs₁, hversion, h₁⟩ := h.getUINT8Checked 0
  unfold connectParameters
  rw [hversion, ok_bind]
  dsimp only
  split
  · exact ⟨_, _, rfl, nofun⟩
  · obtain ⟨flags, bs₂, hflags, h₂⟩ := h₁.getUINT8Checked 0
    rw [hflags, ok_bind]
    dsimp only
    split
    · exact ⟨_, _, rfl, nofun⟩
    · obtain ⟨n, bs₃, hn, h₃⟩ := h₂.getUINT16Checked 0
      rw [hn, ok_bind]
      dsimp only
      split
      · exact ⟨_, _, rfl, nofun⟩
      · next herr => exact ⟨_, _, rfl, fun _ _ => h₃.readable herr⟩

theorem currentTarget_avoids : Avoids .assertion currentTarget := by
  apply Avoids.bind Avoids.view
  intro c
  cases c.currentTarget with
  | none => exact Avoids.fault nofun
  | some target => exact .pure

theorem receiveConnect_avoids (h : rcvPacket.Readable) :
    Avoids .assertion (receiveConnect cfg rcvPacket) := by
  apply Avoids.bind Avoids.view
  intro c
  apply Avoids.ite Avoids.pure
  obtain ⟨parameters, bs, hrun, hread⟩ := connectParameters_returns h.isReading
  rw [hrun, lift_ok_then]
  cases parameters with
  | error status => exact .pure
  | ok maxSendPktLen =>
      apply Avoids.bind (setCommon_avoids _)
      intro _
      apply Avoids.bind Avoids.view
      intro common
      exact .ite .pure (parsed_avoids (hread _ rfl) id)

theorem receiveSetPath_avoids (h : rcvPacket.Readable) :
    Avoids .assertion (receiveSetPath cfg rcvPacket) := by
  apply Avoids.bind Avoids.view
  intro c
  apply Avoids.ite Avoids.pure
  apply Avoids.bind currentTarget_avoids
  intro target
  apply Avoids.ite Avoids.pure
  obtain ⟨flags, bs, hrun, hread⟩ := h.isReading.getUINT8Checked 0
  rw [hrun, lift_ok_then]
  dsimp only
  split
  · exact .pure
  · next herr =>
      exact parsed_avoids ((hread.skipChecked 1).readable herr)
        fun request => (c, flags, request)

theorem receiveAction_avoids (h : rcvPacket.Readable) :
    Avoids .assertion (receiveAction cfg rcvPacket) := by
  apply Avoids.bind Avoids.view
  intro c
  apply Avoids.ite Avoids.pure
  apply Avoids.bind currentTarget_avoids
  intro target
  exact Avoids.ite Avoids.pure (parsed_avoids h fun request => (c, request))

theorem receiveSession_avoids (h : rcvPacket.Readable) :
    Avoids .assertion (receiveSession cfg rcvPacket) := by
  apply Avoids.bind Avoids.view
  intro c
  exact Avoids.ite Avoids.pure (parsed_avoids h id)

theorem receiveAbort_avoids (h : rcvPacket.Readable) :
    Avoids .assertion (receiveAbort cfg rcvPacket) := by
  apply Avoids.bind (Avoids.bind (Avoids.zoom Avoids.update) fun _ => Avoids.update)
  intro _
  apply Avoids.bind Avoids.view
  intro c
  cases c.currentTarget with
  | none => exact .pure
  | some target =>
      exact .ite (.bind (parseRequest_avoids h) fun _ => .pure) .pure

theorem getCommandState_avoids : Avoids .assertion getCommandState := by
  apply Avoids.bind Avoids.update
  intro _
  apply Avoids.bind Avoids.view
  intro c
  cases c.state with
  | obexConnected =>
      exact .bind .update fun _ => .bind .update fun _ =>
        .bind .update fun _ => .bind (setCommon_avoids _) fun _ => .pure
  | getInProgress | getCompleting | bulkGetInProgress | bulkGetCompleting =>
      exact .bind currentTarget_avoids fun _ => .pure
  | _ => exact .pure

theorem receiveGet_avoids (h : rcvPacket.Readable) (final : Bool) :
    Avoids .assertion (receiveGet cfg rcvPacket final) := by
  apply Avoids.bind getCommandState_avoids
  intro entry
  cases entry with
  | error status => exact Avoids.pure
  | ok newRequest =>
      apply Avoids.bind Avoids.view
      intro c
      apply Avoids.bind Avoids.view
      intro common
      apply Avoids.ite Avoids.pure
      exact Avoids.bind Avoids.update fun _ => parsed_avoids h fun request => (newRequest, request)

theorem receiveCommand_avoids (h : rcvPacket.Readable) (cmdCode : UInt8) :
    Avoids .assertion (receiveCommand cfg cmdCode rcvPacket) := by
  apply Avoids.ite (Avoids.bind (receiveConnect_avoids h) fun _ => Avoids.pure)
  apply Avoids.ite Avoids.pure
  apply Avoids.ite (Avoids.bind (parseRequest_avoids h) fun _ => Avoids.pure)
  apply Avoids.ite (Avoids.bind (receiveGet_avoids h _) fun _ => Avoids.pure)
  apply Avoids.ite (Avoids.bind (receiveSetPath_avoids h) fun _ => Avoids.pure)
  apply Avoids.ite (Avoids.bind (receiveAction_avoids h) fun _ => Avoids.pure)
  apply Avoids.ite (Avoids.bind (receiveSession_avoids h) fun _ => Avoids.pure)
  exact Avoids.ite (receiveAbort_avoids h) Avoids.pure

end Reads

/-- No packet trips an assertion of the server's stream. -/
theorem receive_avoids (cfg : Config) (cmdCode hi lo : UInt8) {body : List UInt8} (addr : Nat)
    (hlen : (cmdCode :: hi :: lo :: body).length < 65536) :
    Avoids .assertion (receive cfg (cmdCode :: hi :: lo :: body) addr) := by
  apply Avoids.bind Avoids.view
  intro c
  apply Avoids.ite Avoids.pure
  apply Avoids.ite Avoids.pure
  rw [openPacket_eq hlen, lift_ok_then]
  exact receiveCommand_avoids (received_readable hlen) cmdCode

end Obex.Server

namespace Obex.Client

open Support Program Prog Cli

/-! ## The client -/

/-- What the client has of a packet when it is done with the stream. -/
inductive Incoming
  /-- the lower connection is being dropped -/
  | ignored
  /-- the response to a connect request; the flag tells that it asks for authentication -/
  | connect (response : Except Status (Bool × Response))
  | disconnect (rspCode : UInt8)
  | bulkPut (status : Status) (response : Response)
  | put (status : Status) (response : Response)
  | get (status : Status) (response : Response)
  /-- a put or a get whose abort has been requested -/
  | aborting
  | setpath (rspCode : UInt8)
  | action (rspCode : UInt8)
  /-- a packet that arrives while the client waits for the answer to an abort -/
  | abort (answered : Bool)
  | unexpected

/-- `ConnectResponse` up to the parsed headers. -/
def receiveConnect (cfg : Config) (rcvPacket : ByteStream) (rspCode : UInt8) :
    Cli (Except Status (Bool × Response)) := do
  let status := mapResponse rspCode .obexConnectFailed
  if status ≠ .ok ∧ status ≠ .obexUnauthorized then return .error status
  else
    let (parameters, rcvPacket) ← Prog.lift (connectParameters rcvPacket)
    match parameters with
    | .error status => return .error status
    | .ok maxSendPktLen => do
        setCommon fun common =>
          { common with maxSendPktLen := min common.maxSendPktLen maxSendPktLen }
        let common ← common
        if common.maxSendPktLen < minPacketSize then return .error .obexValueNotAcceptable
        else
          let (parsed, response) ← parseResponse cfg rcvPacket
          if !parsed.success then return .error parsed
          else return .ok (status = .obexUnauthorized, response)

/-- What the handlers of `LowerRecvDataInd` read of a packet, depending on the connection. -/
def receiveResponse (cfg : Config) (rspCode : UInt8) (dataLen : Nat) (rcvPacket : ByteStream)
    (c : Connection) : Cli Incoming :=
  match c.state with
  | .lowerLayerConnected => do
      let response ← receiveConnect cfg rcvPacket rspCode
      return .connect response
  | .obexDisconnecting => pure (.disconnect rspCode)
  | .obexBulkPutting => do
      let (status, response) ← parseOperation cfg rcvPacket rspCode .obexPutResponseError
      return .bulkPut status response
  | .obexPutting =>
      if c.abort ≠ .noAbort then pure .aborting
      else do
        let (status, response) ← parseOperation cfg rcvPacket rspCode .obexPutResponseError
        return .put status response
  | .obexGetting =>
      if c.abort ≠ .noAbort then pure .aborting
      else do
        let (status, response) ← parseOperation cfg rcvPacket rspCode .obexGetResponseError
        return .get status response
  | .obexSettingPath => do
      setState .obexConnected
      let _ ← parseResponse cfg rcvPacket
      return .setpath rspCode
  | .obexDoAction => do
      setState .obexConnected
      let _ ← parseResponse cfg rcvPacket
      return .action rspCode
  | .obexAborting => pure (.abort (isAbortResponse rspCode dataLen))
  | _ => pure .unexpected

/-- `LowerRecvDataInd` up to the last access to the stream. -/
def receive (cfg : Config) (dataBuf : List UInt8) (addr : Nat) : Cli Incoming := do
  setConnection fun c => { c with timeoutCB := false }
  let c ← connection
  if c.disconnectingLowerLayer then return .ignored
  else
    let (rspCode, rcvPacket) ← Prog.lift (openPacket dataBuf addr)
    let c ← connection
    receiveResponse cfg rspCode dataBuf.length rcvPacket c

/-- `BulkPutResponse` after the parsed headers. -/
def serveBulkPut (cfg : Config) (status : Status) (response : Response) : Cli Unit := do
  let c ← connection
  if c.abort ≠ .noAbort then abortBulkPutResponse cfg
  else
    let (removed, _) ← takeSrmHeaders true response
    if removed then
      let _ ← confirmBulkPuts cfg status .completed
      setBusy false
      let _ ← sendBulk
    else finishBulkPutResponse cfg status

/-- `PutResponse` after the parsed headers. -/
def servePut (cfg : Config) (status : Status) (response : Response) : Cli Unit := do
  Prog.only (status ≠ .obexContinue) (setState .obexConnected)
  let c ← connection
  if c.abort ≠ .noAbort then abortPutResponse cfg
  else
    let (_, response) ← takeSrmHeaders true response
    let status ← continueBody .obexPutting status
    match status with
    | none => pure ()
    | some status => do
        setBusy false
        indicateWord cfg .putConfirm (.putCfm (some response) status)

/-- `GetResponse` after the parsed headers. -/
def serveGet (cfg : Config) (status : Status) (response : Response) : Cli Unit := do
  Prog.only (status ≠ .obexContinue) (do
    setState .obexConnected
    setAbortState .noAbort)
  let c ← connection
  if c.abort ≠ .noAbort then sendAbort
  else
    let (_, response) ← takeSrmHeaders false response
    let status ← continueBody .obexGetting status
    match status with
    | none => pure ()
    | some status => do
        setBusy false
        indicateWord cfg .getRecvData (.getRecvData (some response) status)
        reportProgress cfg cmdGet

/-- `LowerRecvDataInd` after the last access to the stream. -/
def serve (cfg : Config) : Incoming → Cli Unit
  | .ignored => pure ()
  | .connect response => do
      let status ← proceed response fun (notAuthorized, response) =>
        if notAuthorized then challengeReceived cfg response else connectionReceived cfg response
      Prog.only (¬ status.success) (fatalObexError cfg status)
  | .disconnect rspCode => disconnectResponse cfg rspCode
  | .bulkPut status response => serveBulkPut cfg status response
  | .put status response => servePut cfg status response
  | .get status response => serveGet cfg status response
  | .aborting => sendAbort
  | .setpath rspCode => do
      setBusy false
      indicateWord cfg .setpathConfirm (.setpathCfm (setpathStatus rspCode))
  | .action rspCode => do
      setBusy false
      indicateWord cfg .actionConfirm (.actionCfm (mapResponse rspCode .obexError))
  | .abort answered => if answered then abortConfirm cfg else setCommandTimeout
  | .unexpected => fatalObexError cfg .obexError

theorem connectResponse_eq (cfg : Config) (rcvPacket : ByteStream) (rspCode : UInt8) :
    connectResponse cfg rcvPacket rspCode =
      receiveConnect cfg rcvPacket rspCode >>= fun response => serve cfg (.connect response) := by
  have hbody : connectResponseBody cfg rcvPacket rspCode =
      receiveConnect cfg rcvPacket rspCode >>= fun response =>
        proceed response fun (notAuthorized, response) =>
          if notAuthorized then challengeReceived cfg response
          else connectionReceived cfg response := by
    unfold connectResponseBody receiveConnect
    dsimp only
    rw [ite_then]
    congr 1
    rw [bind_bind]
    congr 1
    funext ⟨parameters, rcvPacket⟩
    cases parameters with
    | error status => rfl
    | ok maxSendPktLen =>
        dsimp only
        unfold connectHeaders
        rw [bind_bind]
        congr 1
        funext _
        rw [bind_bind]
        congr 1
        funext common
        rw [ite_then]
        congr 1
        rw [bind_bind]
        congr 1
        funext ⟨parsed, response⟩
        dsimp only
        rw [ite_then]
        rfl
  unfold connectResponse
  rw [hbody, bind_bind]
  rfl

theorem dispatchResponse_eq (cfg : Config) (rspCode : UInt8) (dataLen : Nat)
    (rcvPacket : ByteStream) :
    dispatchResponse cfg rspCode dataLen rcvPacket =
      (connection >>= receiveResponse cfg rspCode dataLen rcvPacket) >>= serve cfg := by
  unfold dispatchResponse receiveResponse
  rw [bind_bind]
  congr 1
  funext c
  cases c.state with
  | lowerLayerConnected =>
      dsimp only
      rw [connectResponse_eq, bind_bind]
      rfl
  | obexPutting | obexGetting =>
      dsimp only
      rw [ite_then, bind_bind]
      rfl
  | obexBulkPutting =>
      dsimp only
      rw [bind_bind]
      rfl
  | obexSettingPath | obexDoAction =>
      dsimp only
      simp only [setpathResponse, actionResponse, bind_bind]
      rfl
  | _ => rfl

theorem lowerRecvDataInd_eq (cfg : Config) (dataBuf : List UInt8) (addr : Nat) :
    lowerRecvDataInd cfg dataBuf addr = receive cfg dataBuf addr >>= serve cfg := by
  unfold lowerRecvDataInd receive
  rw [bind_bind]
  congr 1
  funext _
  rw [bind_bind]
  congr 1
  funext c
  rw [ite_then, bind_bind]
  simp only [dispatchResponse_eq]
  rfl

section Reads

variable {cfg : Config} {rcvPacket : ByteStream} {s : Session}

theorem setCommon_avoids (f : Common → Common) : Avoids .assertion (setCommon f) := by
  unfold setCommon onChannel OnChannel.setCommon
  exact .zoom .update

theorem parseResponse_avoids (h : rcvPacket.Readable) :
    Avoids .assertion (parseResponse cfg rcvPacket) := by
  apply Avoids.bind (Avoids.zoom (Avoids.bind Avoids.view fun _ => Avoids.bind Avoids.update
    fun _ => .pure))
  intro room
  apply Avoids.bind Avoids.view
  intro common
  obtain ⟨result, hrun⟩ := parseHeaderList_returns cfg.order room common h
  rw [hrun, lift_ok_then]
  exact .bind (setCommon_avoids _) fun _ => .pure

theorem parseOperation_avoids (h : rcvPacket.Readable) (rspCode : UInt8) (status : Status) :
    Avoids .assertion (parseOperation cfg rcvPacket rspCode status) := by
  apply Avoids.bind (parseResponse_avoids h)
  intro parsed
  apply Avoids.bind Avoids.view
  intro s
  exact .bind .update fun _ => .pure

/-- The parameters of a response to a connect request trip the assertion of the byte that is
skipped when the packet ends behind a version that is understood. -/
theorem connectParameters_cases (h : rcvPacket.Readable) :
    (∃ version, rcvPacket.rest = [version] ∧ version >>> 4 = 1 ∧
        connectParameters rcvPacket = .error .assertion) ∨
      ((∀ version, rcvPacket.rest = [version] → version >>> 4 ≠ 1) ∧
        ∃ parameters bs, connectParameters rcvPacket = .ok (parameters, bs) ∧
          ∀ n, parameters = .ok n → bs.Readable) := by
  cases hrest : rcvPacket.rest with
  | nil =>
      refine .inr ⟨nofun, .error .obexUnsupportedVersion, rcvPacket.setError, ?_, nofun⟩
      rw [connectParameters, ByteStream.getUINT8Checked_nil h 0 hrest, ok_bind]
      rfl
  | cons version tl =>
      have hread : rcvPacket.getUINT8Checked 0 = .ok (version, rcvPacket.advance 1) :=
        ByteStream.getUINT8Checked_cons h 0 hrest
      have hnext : (rcvPacket.advance 1).Readable := h.advance (by simp [hrest])
      have htl : (rcvPacket.advance 1).rest = tl := by
        rw [ByteStream.rest_advance, hrest, List.drop_one, List.tail_cons]
      by_cases hversion : version >>> 4 = 1
      · cases tl with
        | nil =>
            refine .inl ⟨version, rfl, hversion, ?_⟩
            have hskip : (rcvPacket.advance 1).skip 1 = .error .assertion :=
              if_neg (hnext.noRoom (by simp [htl]))
            rw [connectParameters, hread, ok_bind]
            dsimp only
            rw [if_neg (not_not.2 hversion), hskip]
            rfl
        | cons flags tl =>
            refine .inr ⟨nofun, ?_⟩
            have hskip := ByteStream.skip_of_le hnext (n := 1) (by simp [htl])
            obtain ⟨n, bs, hn, hbs⟩ :=
              (hnext.advance (n := 1) (by simp [htl])).isReading.getUINT16Checked 0
            rw [connectParameters, hread, ok_bind]
            dsimp only
            rw [if_neg (not_not.2 hversion), hskip, ok_bind, hn, ok_bind]
            dsimp only
            split
            · exact ⟨_, _, rfl, nofun⟩
            · next herr => exact ⟨_, _, rfl, fun _ _ => hbs.readable herr⟩
      · refine .inr ⟨?_, .error .obexUnsupportedVersion, rcvPacket.advance 1, ?_, nofun⟩
        · rintro version' heq
          obtain ⟨rfl, -⟩ := List.cons.inj heq
          exact hversion
        · rw [connectParameters, hread, ok_bind]
          dsimp only
          rw [if_pos hversion]
          rfl

/-- The codes OK and UNAUTHORIZED: `ConnectResponse` looks at the parameters. -/
def looksFurther (rspCode : UInt8) : Prop := rspCode = 0xA0 ∨ rspCode = 0xC1

theorem looksFurther_iff (rspCode : UInt8) :
    looksFurther rspCode ↔ mapResponse rspCode .obexConnectFailed = .ok ∨
      mapResponse rspCode .obexConnectFailed = .obexUnauthorized := by
  unfold looksFurther
  constructor
  · rintro (rfl | rfl)
    · exact .inl rfl
    · exact .inr rfl
  · intro h
    unfold mapResponse at h
    split at h <;> simp_all

theorem receiveConnect_error_iff (h : rcvPacket.Readable) (rspCode : UInt8) :
    receiveConnect cfg rcvPacket rspCode s = .error .assertion ↔
      looksFurther rspCode ∧ ∃ version, rcvPacket.rest = [version] ∧ version >>> 4 = 1 := by
  rw [looksFurther_iff]
  unfold receiveConnect
  dsimp only
  split
  · next hstatus =>
      constructor
      · nofun
      · rintro ⟨hlooks, -⟩
        rcases hlooks with hok | hunauthorized
        · exact absurd hok hstatus.1
        · exact absurd hunauthorized hstatus.2
  · next hstatus =>
      have hlooks : mapResponse rspCode .obexConnectFailed = .ok ∨
          mapResponse rspCode .obexConnectFailed = .obexUnauthorized := by
        by_contra hneither
        exact hstatus (not_or.1 hneither)
      rcases connectParameters_cases h with
        ⟨version, hrest, hversion, hrun⟩ | ⟨hnone, parameters, bs, hrun, hread⟩
      · rw [hrun]
        exact ⟨fun _ => ⟨hlooks, version, hrest, hversion⟩, fun _ => rfl⟩
      · constructor
        · intro hfault
          rw [hrun, lift_ok_then] at hfault
          refine absurd hfault ((?_ : Avoids Fault.assertion _) s)
          cases parameters with
          | error status => exact .pure
          | ok maxSendPktLen =>
              apply Avoids.bind (setCommon_avoids _)
              intro _
              apply Avoids.bind Avoids.view
              intro common
              exact .ite .pure (.bind (parseResponse_avoids (hread _ rfl))
                fun _ => .ite .pure .pure)
        · rintro ⟨-, version, hrest, hversion⟩
          exact absurd hversion (hnone version hrest)

theorem receiveResponse_avoids (h : rcvPacket.Readable) (rspCode : UInt8) (dataLen : Nat)
    {c : Connection} (hstate : c.state ≠ .lowerLayerConnected) :
    Avoids .assertion (receiveResponse cfg rspCode dataLen rcvPacket c) := by
  unfold receiveResponse
  cases hc : c.state with
  | lowerLayerConnected => exact absurd hc hstate
  | obexBulkPutting =>
      exact .bind (parseOperation_avoids h _ _) fun _ => .pure
  | obexPutting | obexGetting =>
      exact .ite .pure
        (.bind (parseOperation_avoids h _ _) fun _ => .pure)
  | obexSettingPath | obexDoAction =>
      apply Avoids.bind Avoids.update
      intro _
      exact Avoids.bind (parseResponse_avoids h) fun _ => Avoids.pure
  | _ => exact .pure

theorem receiveResponse_error_iff (h : rcvPacket.Readable) (rspCode : UInt8) (dataLen : Nat)
    {c : Connection} :
    receiveResponse cfg rspCode dataLen rcvPacket c s = .error .assertion ↔
      c.state = .lowerLayerConnected ∧ looksFurther rspCode ∧
        ∃ version, rcvPacket.rest = [version] ∧ version >>> 4 = 1 := by
  by_cases hstate : c.state = .lowerLayerConnected
  · have hrun : receiveResponse cfg rspCode dataLen rcvPacket c =
        receiveConnect cfg rcvPacket rspCode >>= fun response => pure (.connect response) := by
      simp only [receiveResponse, hstate]
    rw [hrun, bind_error_iff fun _ => .pure, receiveConnect_error_iff h]
    exact (and_iff_right hstate).symm
  · exact iff_of_false (receiveResponse_avoids h rspCode dataLen hstate s) fun hc => hstate hc.1

end Reads

/-- The packet is a response to a connect request that is understood and that ends behind
the version of the protocol. -/
def EndsAtVersion (s : Session) (dataBuf : List UInt8) : Prop :=
  s.connection.disconnectingLowerLayer = false ∧ s.connection.state = .lowerLayerConnected ∧
    ∃ rspCode hi lo version, dataBuf = [rspCode, hi, lo, version] ∧ looksFurther rspCode ∧
      version >>> 4 = 1

/-- A packet trips an assertion of the client's stream exactly when it ends there. -/
theorem receive_error_iff (cfg : Config) (rspCode hi lo : UInt8) {body : List UInt8} (addr : Nat)
    (s : Session) (hlen : (rspCode :: hi :: lo :: body).length < 65536) :
    receive cfg (rspCode :: hi :: lo :: body) addr s = .error .assertion ↔
      EndsAtVersion s (rspCode :: hi :: lo :: body) := by
  have hopen : openPacket (rspCode :: hi :: lo :: body) addr =
      .ok (rspCode, Server.received rspCode hi lo body addr) := Server.openPacket_eq hlen
  have hrest : (Server.received rspCode hi lo body addr).rest = body := by
    rw [Server.received, ByteStream.rest_advance, ByteStream.rest_open']
    rfl
  unfold EndsAtVersion
  by_cases hdisc : s.connection.disconnectingLowerLayer = true
  · refine iff_of_false ?_ fun hends => ?_
    · have hrun : receive cfg (rspCode :: hi :: lo :: body) addr s = .ok (.ignored,
          { s with connection := { s.connection with timeoutCB := false } }) := by
        simp only [receive, setConnection, connection, bind, andThen, view, update, hdisc, if_true]
        rfl
      rw [hrun]
      nofun
    · rw [hdisc] at hends
      exact absurd hends.1 nofun
  · have hrun : receive cfg (rspCode :: hi :: lo :: body) addr s =
        receiveResponse cfg rspCode (rspCode :: hi :: lo :: body).length
          (Server.received rspCode hi lo body addr) { s.connection with timeoutCB := false }
          { s with connection := { s.connection with timeoutCB := false } } := by
      simp only [receive, hopen, setConnection, connection, bind, andThen, view, update, hdisc]
      rfl
    rw [hrun, receiveResponse_error_iff (Server.received_readable hlen), hrest]
    have hfalse : s.connection.disconnectingLowerLayer = false := by simpa using hdisc
    constructor
    · rintro ⟨hstate, hlooks, version, rfl, hversion⟩
      exact ⟨hfalse, hstate, rspCode, hi, lo, version, rfl, hlooks, hversion⟩
    · rintro ⟨-, hstate, rspCode', hi', lo', version, heq, hlooks, hversion⟩
      obtain ⟨rfl, rfl, rfl, rfl⟩ : rspCode = rspCode' ∧ hi = hi' ∧ lo = lo' ∧
          body = [version] := by
        simpa using heq
      exact ⟨hstate, hlooks, version, rfl, hversion⟩

end Obex.Client

namespace Obex

open Support Program Prog

/-- Nothing that a server reads from a packet trips an assertion of the stream; what a client
reads does so exactly when a response to a connect request ends behind its version. -/
theorem stream_assertions_hold_iff (server : Server.Config) (client : Client.Config)
    (dataBuf : List UInt8) (addr : Nat) (s : Server.Session) (c : Client.Session)
    (hlow : 3 ≤ dataBuf.length) (hhigh : dataBuf.length < 65536) :
    Server.lowerRecvDataInd server dataBuf addr =
        Server.receive server dataBuf addr >>= Server.serve server ∧
      Client.lowerRecvDataInd client dataBuf addr =
        Client.receive client dataBuf addr >>= Client.serve client ∧
      Server.receive server dataBuf addr s ≠ .error .assertion ∧
      (Client.receive client dataBuf addr c ≠ .error .assertion ↔
        ¬ Client.EndsAtVersion c dataBuf) := by
  match dataBuf, hlow with
  | code :: hi :: lo :: body, _ =>
      refine ⟨Server.lowerRecvDataInd_eq _ _ _, Client.lowerRecvDataInd_eq _ _ _, ?_, ?_⟩
      · exact Server.receive_avoids server code hi lo addr hhigh s
      · exact not_congr (Client.receive_error_iff client code hi lo addr c hhigh)

/-- A response that ends behind the flags is read to its end. -/
theorem stream_assertions_hold_flags :
    Client.receive Client.sampleConfig [0xA0, 0, 5, 0x10, 0] 0
      (.connecting Client.sampleConfig Client.srmRequest Client.plentiful) ≠
        .error .assertion := by
  have hholds := stream_assertions_hold_iff Server.sampleConfig Client.sampleConfig
    [0xA0, 0, 5, 0x10, 0] 0
    (Server.accepted Server.sampleConfig (Server.sampleServer .none false false)
      (Server.friendly []))
    (.connecting Client.sampleConfig Client.srmRequest Client.plentiful) (by decide) (by decide)
  apply hholds.2.2.2.2
  rintro ⟨-, -, rspCode, hi, lo, version, heq, -⟩
  cases heq

/-- The response to a connect request is cut off behind the version: the client skips a byte
that is not there. -/
theorem skips_behind_version :
    ¬ ∀ (cfg : Client.Config) (request : Client.ConnectRequest) (env : Client.Surroundings)
      (events : List Client.Event) (s : Client.Session),
        Client.Reaches cfg request env events s →
        ∀ (dataBuf : List UInt8) (addr : Nat), 3 ≤ dataBuf.length → dataBuf.length < 65536 →
          Client.receive cfg dataBuf addr s ≠ .error .assertion := by
  intro hall
  have hreach : reaches (Client.run Client.sampleConfig [.lowerConnectCfm 1000 1000 .ok])
      (.connecting Client.sampleConfig Client.srmRequest Client.plentiful)
      (fun s => match Client.receive Client.sampleConfig [0xA0, 0, 4, 0x10] 0 s with
        | .error .assertion => true
        | _ => false) = true := by
    decide +kernel
  obtain ⟨s, hends, hcheck⟩ := reaches_iff.1 hreach
  have hholds := hall _ _ _ _ s hends [0xA0, 0, 4, 0x10] 0 (by decide) (by decide)
  split at hcheck
  · next hfault => exact hholds hfault
  · cases hcheck

end Obex
