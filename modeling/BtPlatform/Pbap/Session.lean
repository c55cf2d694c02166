import BtPlatform.Pbap.Path
import BtPlatform.Program.Prog
import BtPlatform.Support.Memory

/-!
# The client: one connection and its surroundings

A `PBAP_CLIENT` record, the dispatcher with its deferred closes, the application and
the OBEX client below. Of the OBEX client only the contract is modelled: at most one
operation is in progress, a request is refused while another is, and each request gets
one response. What the application does is decided outside the program: `answers` are
its coming answers to open and write, `replies` the calls it makes inside the coming
completion callbacks. The history is a ghost, and so are the tickets that number the
requests.
-/

namespace Pbap

open Support Program

/-- `PBAP_CLIENT_STATE`. -/
inductive ClientState
  | disconnected
  | authenticating
  | connected
  | pullingVCard
  | pullingPhonebook
  | pullingPhonebookSize
  | pullingVCardListing
  | aborting
  deriving DecidableEq, Repr

/-- `state >= CLIENT_STATE_CONNECTED`. -/
def ClientState.isConnected : ClientState → Bool
  | .disconnected | .authenticating => false
  | _ => true

/-- The states in which a file is written. -/
def ClientState.pullsFile : ClientState → Bool
  | .pullingVCard | .pullingPhonebook | .pullingVCardListing => true
  | _ => false

/-- The number of a request. -/
abbrev Ticket : Type := Nat

/-- The application parameters of a GET. -/
structure AppParams where
  order : Option UInt8
  searchAttribute : Option UInt8
  searchValue : Option (List UInt8)
  listStartOffset : Option UInt16
  maxListCount : Option UInt16
  filter : Option UInt64
  format : Option UInt8
  deriving DecidableEq, Repr

/-- `PBAP_GET_REQ`. The callback is known by the request that brought it: the members
of the union all read the callback stored last. -/
structure GetReq where
  repo : Repository
  pb : Phonebook
  entry : UInt32
  type : ObjectType
  appParam : Option AppParams
  pathStr : List UInt16
  cb : Option Ticket
  phonebookSize : UInt16
  newMissedCalls : UInt8
  deriving DecidableEq, Repr

/-- `PBAP_SET_PATH_DONE`: the two functions it takes. -/
inductive SetPathDone
  | pbapSetPathDone
  | pbapSetExplicitPathDone
  deriving DecidableEq, Repr

/-- `PBAP_CLIENT`. -/
structure Client where
  state : ClientState
  pathState : PathState
  setPathDone : Option SetPathDone
  abortCfm : Bool
  fh : Nat
  fileOpen : Bool
  dispatchHandle : Option Nat
  req : GetReq
  disconnected : Bool
  final : Bool
  fileOpCfmPending : Bool
  deriving DecidableEq, Repr

/-- The callback for a completed abort; a pending abort without a callback gets the
OBEX client's own. -/
inductive AbortCfm
  | pullAbortCfm
  | abortCfm
  | defaultAbortCfm
  | null
  deriving DecidableEq, Repr

/-- What the OBEX client is doing. In single response mode a GET is not sent again for
the next part: `flow` tells whether that part may arrive. -/
inductive ObexOp
  | idle
  | settingPath (request : SetPathRequest)
  | getting (busy srm flow : Bool) (abort : Option AbortCfm)
  | aborting (cfm : AbortCfm)
  | closed
  deriving DecidableEq, Repr

/-- `CLOSE_INFO`, registered with the dispatcher under a handle; `owner` is the request
in progress at that time. -/
structure CloseInfo where
  handle : Nat
  status : Status
  owner : Option Ticket
  deriving DecidableEq, Repr

/-- What the application does in `fops->open` or `fops->write`: it may confirm at once,
and it returns a status. -/
structure FileAnswer where
  confirm : Option (Nat × Status)
  status : Status
  deriving DecidableEq, Repr

/-- A call of the application's interface, `OI_PBAPClient_…`. -/
inductive Call
  | getPhonebookSize (repository : Repository) (phonebook : Phonebook)
  | pullPhonebook (repository : Repository) (phonebook : Phonebook) (filter : Option UInt64)
      (format : UInt8) (maxListCount listStartOffset : UInt16)
  | pullvCardListing (repository : Repository) (phonebook : Phonebook)
      (order searchAttribute : UInt8) (searchValue : Option (List UInt8))
      (maxListCount listStartOffset : UInt16)
  | pullvCardEntry (repository : Repository) (phonebook : Phonebook) (entry : UInt32)
      (filter : Option UInt64) (format : UInt8)
  | setPath (repository : Repository) (phonebook : Phonebook)
  | abort (abortCfm : Bool)
  deriving DecidableEq, Repr

/-- A header of a response to GET. -/
inductive RspHeader
  | body (data : List UInt8)
  | applicationParams (data : List UInt8)
  | other
  deriving DecidableEq, Repr

/-- What the history records. -/
inductive Act
  /-- a call, with what the OBEX client was doing -/
  | called (ticket : Ticket) (call : Call) (obex : ObexOp)
  | answered (ticket : Ticket) (status : Status)
  /-- `SetPhonebookDir` starts for a destination -/
  | setPathStarted (target : Target)
  | setPathSent (request : SetPathRequest)
  | setPathDone (status : Status) (path : PathState)
  /-- the name of an object is built -/
  | named (type : ObjectType) (maxListCount : Option UInt16) (object : Object)
      (name : List UInt16)
  | getSent (ticket : Option Ticket) (name : List UInt16)
  | opening (ticket : Option Ticket) (path : List UInt16)
  /-- the application confirms an open -/
  | openConfirmed (handle : Nat) (status : Status)
  | opened (ticket : Option Ticket) (handle : Nat)
  /-- a response to GET is delivered; `size` for the size of a phonebook -/
  | received (size : Bool) (headers : List RspHeader) (status : Status)
  | writing (ticket : Option Ticket) (handle : Nat) (data : List UInt8)
  /-- the application confirms a write -/
  | written (ticket : Option Ticket) (status : Status)
  | closed (ticket : Option Ticket) (handle : Nat) (status : Status)
  | completed (ticket : Ticket) (status : Status)
  /-- a deferred close runs -/
  | cleanup (info : CloseInfo) (ticket : Option Ticket)
  | abortConfirmed
  | disconnectInd
  | freed
  deriving DecidableEq, Repr

/-- One connection and its surroundings. -/
structure Session where
  client : Client
  /-- the connection handle is valid -/
  attached : Bool
  /-- the client record has been freed -/
  freed : Bool
  obex : ObexOp
  tasks : List CloseInfo
  nextHandle : Nat
  nextTicket : Ticket
  memory : Memory
  /-- whether the OBEX client can send the coming requests -/
  outcomes : List Status
  answers : List FileAnswer
  replies : List (List Call)
  history : List Act
  deriving DecidableEq, Repr

/-- A client whose connection has been accepted: `OI_PBAPClient_Connect` starts in the root of
the local repository, the rest is zero. -/
def Client.connected : Client where
  state := .connected
  pathState := ⟨.localRepository, .invalidPhonebook, false, .localRepository, .mainPhonebook⟩
  setPathDone := none
  abortCfm := false
  fh := 0
  fileOpen := false
  dispatchHandle := none
  req := ⟨.localRepository, .mainPhonebook, 0, .phonebook, none, [], none, 0, 0⟩
  disconnected := false
  final := false
  fileOpCfmPending := false

/-- A connection that has just been accepted, in surroundings of any kind. -/
def Session.start (memory : Memory) (outcomes : List Status) (answers : List FileAnswer)
    (replies : List (List Call)) : Session where
  client := .connected
  attached := true
  freed := false
  obex := .idle
  tasks := []
  nextHandle := 1
  nextTicket := 0
  memory := memory
  outcomes := outcomes
  answers := answers
  replies := replies
  history := []

/-- A program on the session. -/
abbrev Cli (α : Type) : Type := Prog Session Fault α

namespace Cli

/-- Change the client record. -/
def setClient (f : Client → Client) : Cli Unit :=
  Prog.update fun s => { s with client := f s.client }

/-- The client record. -/
def client : Cli Client := Prog.view Session.client

def setState (state : ClientState) : Cli Unit := setClient fun c => { c with state := state }

/-- Change the request. -/
def setReq (f : GetReq → GetReq) : Cli Unit := setClient fun c => { c with req := f c.req }

/-- Add to the history. -/
def record (act : Act) : Cli Unit :=
  Prog.update fun s => { s with history := s.history ++ [act] }

/-- Add to the history what concerns the request in progress. -/
def recordOwn (act : Option Ticket → Act) : Cli Unit := do
  let c ← client
  record (act c.req.cb)

/-- `PbapClient`: the client of the connection handle, if the handle is valid. Every
caller goes on to use the record. -/
def pbapClient : Cli (Option Client) := do
  let s ← Prog.view id
  if s.attached = false then return none
  else if s.freed then Prog.fault .useAfterFree
  else return some s.client

/-- `OI_Malloc`. -/
def takeBlock : Cli Bool := do
  let s ← Prog.view id
  let (room, memory) := s.memory.takeBlock
  Prog.update fun s => { s with memory := memory }
  return room

/-- The application's answer to the next open or write. -/
def takeAnswer : Cli FileAnswer := do
  let s ← Prog.view id
  match s.answers with
  | [] => return ⟨none, .ok⟩
  | answer :: rest =>
      Prog.update fun s => { s with answers := rest }
      return answer

/-! ## The OBEX client -/

/-- Whether the OBEX client can send its next request. -/
def takeOutcome : Cli Status := do
  let s ← Prog.view id
  match s.outcomes with
  | [] => return .ok
  | outcome :: rest =>
      Prog.update fun s => { s with outcomes := rest }
      return outcome

/-- Change what the OBEX client is doing. -/
def setObex (obex : ObexOp) : Cli Unit := Prog.update fun s => { s with obex := obex }

/-- `OI_OBEXCLI_SetPath`. -/
def obexSetPath (request : SetPathRequest) : Cli Status := do
  let s ← Prog.view id
  match s.obex with
  | .idle =>
      let status ← takeOutcome
      if status.success then
        setObex (.settingPath request)
        record (.setPathSent request)
        return .ok
      else return status
  | .closed => return .obexNotConnected
  | _ => return .obexOperationInProgress

/-- `OI_OBEXCLI_Get`. -/
def obexGet : Cli Status := do
  let s ← Prog.view id
  match s.obex with
  | .idle =>
      let status ← takeOutcome
      Prog.only (status.success = true) (setObex (.getting true false true none))
      return status
  | .getting false true _ abort =>
      setObex (.getting false true true abort)
      return .ok
  | .getting false false _ abort =>
      let status ← takeOutcome
      setObex (if status.success then .getting true false true abort else .idle)
      return status
  | .closed => return .obexNotConnected
  | _ => return .obexOperationInProgress

/-- `OI_OBEXCLI_Abort`: while a response is awaited the abort is pending. -/
def obexAbort (cfm : AbortCfm) : Cli Status := do
  let s ← Prog.view id
  match s.obex with
  | .getting true srm flow _ =>
      setObex (.getting true srm flow (some cfm))
      return .ok
  | .getting false .. =>
      setObex (.aborting cfm)
      return .ok
  | .closed => return .obexNotConnected
  | _ => return .invalidState

end Cli

end Pbap
