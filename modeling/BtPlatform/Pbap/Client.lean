import BtPlatform.Pbap.Session

/-!
# The client: requests, confirmations and deferred closes

The functions of `pbap_client.c`, lowest first: the deferred close, the confirmation of
a write and the data callback, opening a file and sending the GET, the way to a folder,
the interface, and the callbacks that the OBEX client and the dispatcher call.
-/

namespace Pbap

open Support Program Repository Phonebook

namespace Cli

def fileClose (status : Status) : Cli Unit := do
  let room ← takeBlock
  Prog.only room do
    Prog.update fun s =>
      { s with tasks := s.tasks ++ [⟨s.nextHandle, status, s.client.req.cb⟩],
               client := { s.client with dispatchHandle := some s.nextHandle },
               nextHandle := s.nextHandle + 1 }

/-! ## Responses to GET -/

def pullAbortCfm : Cli Unit := do
  match ← pbapClient with
  | none => pure ()
  | some _ => fileClose (.other 1756)

/-- `PbapWriteCfm`, with `VALIDATE_CFM_STATE`. -/
def pbapWriteCfm (status : Status) : Cli Unit := do
  match ← pbapClient with
  | none => pure ()
  | some c =>
      Prog.only (c.state.pullsFile = true ∧ c.fileOpCfmPending = true) do
        setClient fun c => { c with fileOpCfmPending := false }
        if c.disconnected then fileClose .obexNotConnected
        else if c.final then fileClose status
        else if status.success then
          let status ← obexGet
          Prog.only (status.success = false) (fileClose status)
        else
          let status ← obexAbort .pullAbortCfm
          Prog.only (status.success = false) (fileClose status)

/-- The loop of `ExtractAppParams` over the bytes left, with the results so far. A tag
whose length does not fit what it holds leads the count of bytes astray; the loop then
ends when the bytes do. -/
def extractLoop : Nat → Nat → List UInt8 → UInt16 × UInt8 → Except Fault (UInt16 × UInt8)
  | 0, _, _, _ => .error .fuel
  | fuel + 1, bufLen, data, results =>
      if bufLen = 0 then .ok results
      else
        match data with
        | tagId :: tagLen :: rest =>
            let left := (bufLen + 65536 - 2 + 65536 - tagLen.toNat) % 65536
            if tagId = 0x09 then
              match rest with
              | missed :: rest => extractLoop fuel left rest (results.1, missed)
              | [] => .ok results
            else if tagId = 0x08 then
              match rest with
              | hi :: lo :: rest =>
                  extractLoop fuel left rest
                    (UInt16.ofNat (hi.toNat * 256 + lo.toNat), results.2)
              | _ => .ok results
            else if tagLen.toNat ≤ rest.length then
              extractLoop fuel left (rest.drop tagLen.toNat) results
            else .ok results
        | _ => .ok results

def extractAppParams (data : List UInt8) : Cli Unit := do
  let c ← client
  let (phonebookSize, newMissedCalls) ← Prog.lift
    (extractLoop (data.length + 1) data.length data (c.req.phonebookSize, c.req.newMissedCalls))
  setReq fun req => { req with phonebookSize := phonebookSize, newMissedCalls := newMissedCalls }

/-- The loop over the response headers in `PbapDataCB`: it extracts the application
parameters and returns the last body. -/
def readHeaders : List RspHeader → Option (List UInt8) → Cli (Option (List UInt8))
  | [], body => return body
  | .body data :: rest, _ => readHeaders rest (some data)
  | .applicationParams data :: rest, body => do
      extractAppParams data
      readHeaders rest body
  | .other :: rest, body => readHeaders rest body

/-- The application confirms a write. -/
def writeCfm (status : Status) : Cli Unit := do
  recordOwn fun ticket => .written ticket status
  pbapWriteCfm status

/-- The confirmation of a write inside it. -/
def confirmWrite : Option (Nat × Status) → Cli Unit
  | some (_, status) => writeCfm status
  | none => pure ()

/-- `PbapDataCB`, the part for a file: whether the function goes on after it. -/
def writeBody (body : Option (List UInt8)) : Cli Bool := do
  setClient fun c => { c with fileOpCfmPending := true }
  match body with
  | none | some [] =>
      pbapWriteCfm .ok
      return false
  | some data =>
      let c ← client
      recordOwn fun ticket => .writing ticket c.fh data
      let answer ← takeAnswer
      confirmWrite answer.confirm
      Prog.only (answer.status.success = false) do
        let _ ← obexAbort .pullAbortCfm
      return true

/-- `PbapDataCB`, the part for a successful response: whether the function goes on after
it. -/
def dataReceived (rspHeaders : Option (List RspHeader)) (rcvStatus : Status) : Cli Bool := do
  match rspHeaders with
  | none => Prog.fault .nullDeref
  | some headers =>
      let body ← readHeaders headers none
      setClient fun c => { c with final := rcvStatus == .ok }
      let c ← client
      if c.state = .pullingPhonebookSize then
        Prog.only (rcvStatus ≠ .ok) do
          let _ ← obexAbort .null
        return true
      else writeBody body

def pbapDataCB (rspHeaders : Option (List RspHeader)) (rcvStatus : Status) : Cli Unit := do
  match ← pbapClient with
  | none => pure ()
  | some c =>
      Prog.only (c.state.isConnected = true) do
        let goesOn ← Prog.branch (rcvStatus = .ok ∨ rcvStatus = .obexContinue)
          (dataReceived rspHeaders rcvStatus) (pure true)
        Prog.only (goesOn = true ∧ rcvStatus ≠ .obexContinue) (fileClose rcvStatus)

/-- The GET of `FinishReq`. -/
def sendGet : Cli Status := do
  setReq fun req => { req with phonebookSize := 0, newMissedCalls := 0 }
  setClient fun c => { c with final := false }
  let c ← client
  let status ← obexGet
  Prog.only (status.success = true) (record (.getSent c.req.cb c.req.pathStr))
  return status

def finishReq (status : Status) : Cli Unit := do
  let status ← Prog.branch (status.success = true) sendGet (pure status)
  Prog.only (status.success = false) (pbapDataCB none status)

/-! ## Opening a file -/

/-- `PbapOpenCfm`, with `VALIDATE_CFM_STATE`. -/
def pbapOpenCfm (handle : Nat) (openStatus : Status) : Cli Unit := do
  match ← pbapClient with
  | none => pure ()
  | some c =>
      Prog.only (c.state.pullsFile = true ∧ c.fileOpCfmPending = true) do
        setClient fun c => { c with fileOpCfmPending := false }
        if c.disconnected then fileClose .obexNotConnected
        else if openStatus.success then
          setClient fun c => { c with fileOpen := true, fh := handle }
          recordOwn fun ticket => .opened ticket handle
          finishReq .ok
        else fileClose openStatus

/-- The application confirms an open. -/
def openCfm (handle : Nat) (openStatus : Status) : Cli Unit := do
  record (.openConfirmed handle openStatus)
  pbapOpenCfm handle openStatus

/-- The confirmation of an open inside it. -/
def confirmOpen : Option (Nat × Status) → Cli Unit
  | some (handle, openStatus) => openCfm handle openStatus
  | none => pure ()

def pbapOpen (status : Status) : Cli Unit := do
  if status.success then
    setClient fun c => { c with fileOpCfmPending := true }
    let c ← client
    record (.opening c.req.cb c.req.pathStr)
    let answer ← takeAnswer
    confirmOpen answer.confirm
    Prog.only (answer.status.success = false) (setState .connected)
  else fileClose status

/-! ## The way to a folder -/

/-- Build the name of the object of the request. -/
def buildName (entry : Option UInt32)
    (build : PathState → GetReq → Except Fault (List UInt16)) : Cli Unit := do
  let c ← client
  let name ← Prog.lift (build c.pathState c.req)
  setReq fun req => { req with pathStr := name }
  record (.named c.req.type (c.req.appParam.bind AppParams.maxListCount)
    ⟨c.req.repo, c.req.pb, entry⟩ name)

def pbapSetPathDone (status : Status) : Cli Unit := do
  if status.success then
    let c ← client
    match c.state with
    | .pullingPhonebook =>
        buildName none fun p req => p.buildPbVCardPathName req.repo req.pb
        pbapOpen status
    | .pullingVCard =>
        buildName (some c.req.entry) fun p req => p.buildVCardPathName req.repo req.pb req.entry
        pbapOpen status
    | .pullingPhonebookSize =>
        Prog.branch (c.pathState.currPb = invalidPhonebook)
          (buildName none fun p req => p.buildPbVCardPathName req.repo req.pb)
          (buildName none fun p req => p.buildPbDirPathName req.repo req.pb)
        finishReq status
    | .pullingVCardListing =>
        buildName none fun p req => p.buildPbDirPathName req.repo req.pb
        pbapOpen status
    | _ => finishReq .fail
  else finishReq status

def pbapSetExplicitPathDone (status : Status) : Cli Unit := do
  let c ← client
  match c.req.cb with
  | some ticket => record (.completed ticket status)
  | none => pure ()

/-- `pstate->SetPathDone(client, status)`. -/
def callSetPathDone (status : Status) : Cli Unit := do
  let c ← client
  record (.setPathDone status c.pathState)
  match c.setPathDone with
  | some .pbapSetPathDone => pbapSetPathDone status
  | some .pbapSetExplicitPathDone => pbapSetExplicitPathDone status
  | none => Prog.fault .nullDeref

def setPath : Cli Unit := do
  let c ← client
  let request ← Prog.lift c.pathState.setPath
  match request with
  | some request =>
      let status ← obexSetPath request
      Prog.only (status.success = false) (callSetPathDone status)
  | none => callSetPathDone .ok

/-- The confirmation of a SETPATH: where it succeeded the position moves, and `SetPath`
is called again if it `goesOn`. -/
def dirCfm (cfm : SetPathCfm) (goesOn : PathState → Bool) (status : Status) : Cli Unit := do
  match ← pbapClient with
  | none => Prog.fault .assertion
  | some c =>
      if status.success then
        setClient fun c => { c with pathState := c.pathState.confirm cfm }
        if goesOn c.pathState then setPath else callSetPathDone status
      else callSetPathDone status

def toRootDirCfm : Status → Cli Unit :=
  dirCfm .toRootDirCfm fun p => p.destRepo != invalidRepository

def toSim1DirCfm : Status → Cli Unit := dirCfm .toSim1DirCfm fun _ => true

def toTelecomDirCfm : Status → Cli Unit := dirCfm .toTelecomDirCfm fun _ => true

def toPbDirCfm : Status → Cli Unit := dirCfm .toPbDirCfm fun _ => false

/-- The callback of a SETPATH. -/
def setPathCfm : SetPathCfm → Status → Cli Unit
  | .toRootDirCfm => toRootDirCfm
  | .toSim1DirCfm => toSim1DirCfm
  | .toTelecomDirCfm => toTelecomDirCfm
  | .toPbDirCfm => toPbDirCfm

def setPhonebookDir (repo : Repository) (pb : Phonebook) (done : SetPathDone) : Cli Unit := do
  setClient fun c =>
    { c with pathState := { c.pathState with destRepo := repo, destPb := pb },
             setPathDone := some done }
  let c ← client
  record (.setPathStarted c.pathState.target)
  setPath

/-! ## The interface -/

/-- `BuildAppParams`: a search attribute is only sent with a search value. -/
def buildAppParams (params : AppParams) : Cli Status := do
  let room ← takeBlock
  if room then
    setReq fun req =>
      { req with appParam := some { params with
          searchAttribute := if params.searchValue.isSome then params.searchAttribute else none } }
    return .ok
  else
    setReq fun req => { req with appParam := none }
    return .outOfMemory

/-- The checks and the first assignments that the four pulls share, then the rest of
the call under the new state. -/
def pull (ticket : Ticket) (repository : Repository) (phonebook : Phonebook)
    (prepare : GetReq → GetReq) (params : AppParams) (state : ClientState) (go : Cli Unit) :
    Cli Status := do
  if repository = invalidRepository ∨ phonebook = invalidPhonebook then return .invalidParameters
  else
    match ← pbapClient with
    | none => return .obexNotConnected
    | some c =>
        if c.state.isConnected = false then return .obexNotConnected
        else
          setReq fun req =>
            prepare { req with cb := some ticket, repo := repository, pb := phonebook }
          let status ← buildAppParams params
          if status.success then
            setState state
            go
            return .ok
          else return status

/-- `OI_PBAPClient_GetPhonebookSize`. -/
def getPhonebookSize (ticket : Ticket) (repository : Repository) (phonebook : Phonebook) :
    Cli Status :=
  pull ticket repository phonebook id ⟨none, none, none, none, some 0, none, none⟩
    .pullingPhonebookSize do
      let c ← client
      if c.pathState.currPb = invalidPhonebook ∨ c.pathState.currRepo ≠ c.req.repo then
        setReq fun req => { req with type := .phonebook }
        setPhonebookDir invalidRepository invalidPhonebook .pbapSetPathDone
      else
        setReq fun req => { req with type := .vCardListing }
        setPhonebookDir repository phonebook .pbapSetPathDone

/-- `OI_PBAPClient_PullPhonebook`. -/
def pullPhonebook (ticket : Ticket) (repository : Repository) (phonebook : Phonebook)
    (filter : Option UInt64) (format : UInt8) (maxListCount listStartOffset : UInt16) :
    Cli Status :=
  pull ticket repository phonebook (fun req => { req with type := .phonebook })
    ⟨none, none, none, some listStartOffset, some maxListCount, filter, some format⟩
    .pullingPhonebook (setPhonebookDir invalidRepository invalidPhonebook .pbapSetPathDone)

/-- `OI_PBAPClient_PullvCardListing`. -/
def pullvCardListing (ticket : Ticket) (repository : Repository) (phonebook : Phonebook)
    (order searchAttribute : UInt8) (searchValue : Option (List UInt8))
    (maxListCount listStartOffset : UInt16) : Cli Status :=
  pull ticket repository phonebook (fun req => { req with type := .vCardListing })
    ⟨some order, some searchAttribute, searchValue, some listStartOffset, some maxListCount,
      none, none⟩
    .pullingVCardListing (setPhonebookDir repository phonebook .pbapSetPathDone)

/-- `OI_PBAPClient_PullvCardEntry`. -/
def pullvCardEntry (ticket : Ticket) (repository : Repository) (phonebook : Phonebook)
    (entry : UInt32) (filter : Option UInt64) (format : UInt8) : Cli Status :=
  pull ticket repository phonebook (fun req => { req with entry := entry, type := .vCard })
    ⟨none, none, none, none, none, filter, some format⟩
    .pullingVCard (setPhonebookDir repository phonebook .pbapSetPathDone)

/-- `OI_PBAPClient_SetPath`, which checks neither of its arguments. -/
def apiSetPath (ticket : Ticket) (repository : Repository) (phonebook : Phonebook) :
    Cli Status := do
  match ← pbapClient with
  | none => return .obexNotConnected
  | some c =>
      if c.state.isConnected = false then return .obexNotConnected
      else
        setReq fun req => { req with cb := some ticket, repo := repository, pb := phonebook }
        setPhonebookDir repository phonebook .pbapSetExplicitPathDone
        return .ok

/-- `OI_PBAPClient_Abort`. -/
def apiAbort (abortCfm : Bool) : Cli Status := do
  match ← pbapClient with
  | none => return .obexNotConnected
  | some c =>
      if c.state.isConnected = false then return .obexNotConnected
      else
        setClient fun c => { c with abortCfm := abortCfm }
        let status ← obexAbort .abortCfm
        Prog.only (status.success = true) (setState .aborting)
        return status

/-- A call of the interface, under the number `ticket`. -/
def dispatchCall (ticket : Ticket) : Call → Cli Status
  | .getPhonebookSize repository phonebook => getPhonebookSize ticket repository phonebook
  | .pullPhonebook repository phonebook filter format maxListCount listStartOffset =>
      pullPhonebook ticket repository phonebook filter format maxListCount listStartOffset
  | .pullvCardListing repository phonebook order searchAttribute searchValue maxListCount
      listStartOffset =>
      pullvCardListing ticket repository phonebook order searchAttribute searchValue
        maxListCount listStartOffset
  | .pullvCardEntry repository phonebook entry filter format =>
      pullvCardEntry ticket repository phonebook entry filter format
  | .setPath repository phonebook => apiSetPath ticket repository phonebook
  | .abort abortCfm => apiAbort abortCfm

/-- Make a call, and record it. -/
def makeCall (call : Call) : Cli Unit := do
  let s ← Prog.view id
  Prog.update fun s => { s with nextTicket := s.nextTicket + 1 }
  record (.called s.nextTicket call s.obex)
  let status ← dispatchCall s.nextTicket call
  record (.answered s.nextTicket status)

/-- Make calls one after the other. -/
def makeCalls : List Call → Cli Unit
  | [] => pure ()
  | call :: rest => do
      makeCall call
      makeCalls rest

/-! ## The deferred close -/

/-- The completion callback, with the calls that the application makes inside it. -/
def complete (status : Status) : Cli Unit := do
  let s ← Prog.view id
  match s.client.req.cb with
  | none => Prog.fault .nullDeref
  | some ticket =>
      record (.completed ticket status)
      Prog.update fun s => { s with replies := s.replies.tail }
      makeCalls (s.replies.headD [])

def fileCloseCB (info : CloseInfo) : Cli Unit := do
  let s ← Prog.view id
  if s.freed then Prog.fault .useAfterFree
  else
    record (.cleanup info s.client.req.cb)
    setClient fun c =>
      { c with dispatchHandle := none,
               state := if c.disconnected then .disconnected else .connected,
               req := { c.req with appParam := none } }
    Prog.only (s.client.fileOpen = true) do
      recordOwn fun ticket => .closed ticket s.client.fh info.status
      setClient fun c => { c with fh := 0, fileOpen := false }
    Prog.only (s.client.state = .pullingPhonebookSize ∨ s.client.state.pullsFile = true)
      (complete info.status)
    let c ← client
    Prog.only (c.disconnected = true) do
      Prog.update fun s => { s with freed := true }
      record .freed
      record .disconnectInd

/-- Run a function registered with the dispatcher. -/
def runTask (index : Nat) : Cli Unit := do
  let s ← Prog.view id
  match s.tasks[index]? with
  | none => pure ()
  | some info =>
      Prog.update fun s => { s with tasks := s.tasks.eraseIdx index }
      fileCloseCB info

/-- `OI_Dispatch_CallFunc`. -/
def callFunc (handle : Nat) : Cli Unit := do
  let s ← Prog.view id
  match s.tasks.findIdx? fun info => info.handle == handle with
  | none => pure ()
  | some index => runTask index

/-! ## Callbacks of the OBEX client -/

def abortCfm : Cli Unit := do
  match ← pbapClient with
  | none => pure ()
  | some c =>
      Prog.only (c.state.isConnected = true) do
        Prog.only (c.abortCfm = true) (record .abortConfirmed)
        Prog.only (c.state = .aborting) (setState .connected)

/-- The callback for a completed abort. -/
def callAbortCfm : AbortCfm → Cli Unit
  | .pullAbortCfm => pullAbortCfm
  | .abortCfm => abortCfm
  | .defaultAbortCfm => pure ()
  | .null => Prog.fault .nullDeref

/-- The response to a GET. With an abort pending the response is dropped and the abort
is sent. -/
def getResponse (headers : List RspHeader) (status : Status) (srm : Bool) : Cli Unit := do
  let s ← Prog.view id
  match s.obex with
  | .getting _ _ _ (some cfm) =>
      setObex (.aborting (if cfm = .null then .defaultAbortCfm else cfm))
  | .getting busy oldSrm flow none =>
      Prog.only (busy = true ∨ (oldSrm = true ∧ flow = true)) do
        setObex (if status = .obexContinue then .getting false srm (!srm) none else .idle)
        record (.received (s.client.state == .pullingPhonebookSize) headers status)
        pbapDataCB (some headers) status
  | _ => pure ()

/-- The response to a SETPATH. -/
def setPathResponse (status : Status) : Cli Unit := do
  let s ← Prog.view id
  match s.obex with
  | .settingPath request =>
      setObex .idle
      setPathCfm request.cfm status
  | _ => pure ()

/-- The response to an abort: the data callback learns of it before the abort is
confirmed. -/
def abortResponse : Cli Unit := do
  let s ← Prog.view id
  match s.obex with
  | .aborting cfm =>
      pbapDataCB none .obexClientAbortedCommand
      setObex .idle
      callAbortCfm cfm
  | _ => pure ()

def clientDisconnectInd : Cli Unit := do
  match ← pbapClient with
  | none => pure ()
  | some c =>
      setClient fun c => { c with disconnected := true }
      match c.dispatchHandle with
      | some handle => callFunc handle
      | none =>
          Prog.only (c.fileOpCfmPending = false)
            (fileClose (if c.state.isConnected = true ∧ c.state ≠ .connected then
              .obexNotConnected else .ok))

/-- The end of the operation in progress in `FreeConnection`. -/
def endOperation (status : Status) : ObexOp → Cli Unit
  | .settingPath request => setPathCfm request.cfm status
  | .getting true _ _ abort =>
      pbapDataCB none (if abort.isSome then .obexClientAbortedCommand else status)
  | .aborting cfm => do
      pbapDataCB none .obexClientAbortedCommand
      setObex .idle
      callAbortCfm cfm
  | _ => pure ()

/-- The end of the connection in `FreeConnection`: the operation in progress ends with
an error, the client is told, and the handle becomes invalid. -/
def freeConnection (status : Status) : Cli Unit := do
  let s ← Prog.view id
  Prog.only (s.obex ≠ .closed) do
    setObex .closed
    endOperation status s.obex
    clientDisconnectInd
    Prog.update fun s => { s with attached := false, obex := .closed }

/-! ## Runs -/

/-- An event at the connection. -/
inductive Event
  | call (call : Call)
  | setPathRsp (status : Status)
  | getRsp (headers : List RspHeader) (status : Status) (srm : Bool)
  | abortRsp
  | openCfm (handle : Nat) (status : Status)
  | writeCfm (status : Status)
  /-- the dispatcher runs one of its functions -/
  | dispatch (index : Nat)
  | freeConnection (status : Status)
  deriving DecidableEq, Repr

/-- One event. -/
def step : Event → Cli Unit
  | .call call => makeCall call
  | .setPathRsp status => setPathResponse status
  | .getRsp headers status srm => getResponse headers status srm
  | .abortRsp => abortResponse
  | .openCfm handle status => openCfm handle status
  | .writeCfm status => writeCfm status
  | .dispatch index => runTask index
  | .freeConnection status => freeConnection status

end Cli

end Pbap
