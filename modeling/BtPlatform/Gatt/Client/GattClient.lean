import BtPlatform.Gatt.Client.Restricted

/-!
# The client object

A `GattClient` registers itself at the library when it connects, and connects to its device
when the registration is answered. Its functions return the calls they make of the library
and what they report to the application.
-/

namespace Gatt

/-- `mConnState`; `CONN_STATE_DISCONNECTING` is never set. -/
inductive ConnState
  | idle
  | connecting
  | connected
  | closed
  deriving DecidableEq

/-- `mAuthRetryState` -/
inductive AuthRetryState
  | idle
  | noMitm
  | mitm
  deriving DecidableEq

/-- `mAuthRetryState++`, which is not reached in the last state. -/
def AuthRetryState.next : AuthRetryState → AuthRetryState
  | .idle => .noMitm
  | .noMitm => .mitm
  | .mitm => .mitm

/-- The calls of the library. -/
inductive LibCall
  | registerClient
  | unregisterClient (clientIf : Int)
  | clientConnect (clientIf : Int) (address : List Char) (isDirect : Bool) (transport : Int)
      (opportunistic : Bool) (phy : Int)
  | clientDisconnect (clientIf : Int) (address : List Char)
  | request (clientIf : Int) (address : List Char) (request : ClientRequest)
  | beginReliableWrite (clientIf : Int) (address : List Char)
  | endReliableWrite (clientIf : Int) (address : List Char) (execute : Bool)
  deriving DecidableEq

/-- What is reported to the application. The value of an attribute is set before the report
of a read that succeeded. -/
inductive AppReport
  | onConnectionStateChange (status : Int) (connected : Bool)
  | onServicesDiscovered (status : Int)
  | onCharacteristicRead (handle status : Int) (value : Option (List UInt8))
  | onCharacteristicWrite (handle status : Int)
  | onReliableWriteCompleted (status : Int)
  | onDescriptorRead (handle status : Int) (value : Option (List UInt8))
  | onDescriptorWrite (handle status : Int)
  deriving DecidableEq

structure ClientActs (C : Type) where
  calls : List LibCall
  reports : List (C × AppReport)

def ClientActs.none {C : Type} : ClientActs C := ⟨[], []⟩

/-- The callback of the application is `none` where it is `NULL`, and `mService` is whether it
is not. -/
structure GattClient (C : Type) where
  mService : Bool
  mCallback : Option C
  mClientIf : Int
  mDeviceAddress : List Char
  mAutoConnect : Bool
  mAuthRetryState : AuthRetryState
  mConnState : ConnState
  mDeviceBusy : Bool
  mTransport : Int
  mPhy : Int
  mOpportunistic : Bool
  mServices : List GattService

namespace GattClient

variable {C : Type}

/-- The constructor, which leaves `mClientIf` and `mAutoConnect` as they are. -/
def create (mDeviceAddress : List Char) (mTransport : Int) (mOpportunistic : Bool) (mPhy : Int)
    (mClientIf : Int) (mAutoConnect : Bool) : GattClient C where
  mService := true
  mCallback := none
  mClientIf := mClientIf
  mDeviceAddress := mDeviceAddress
  mAutoConnect := mAutoConnect
  mAuthRetryState := .idle
  mConnState := .idle
  mDeviceBusy := false
  mTransport := mTransport
  mPhy := mPhy
  mOpportunistic := mOpportunistic
  mServices := []

/-- A report, where there is a callback. -/
def report (c : GattClient C) (r : AppReport) : List (C × AppReport) :=
  match c.mCallback with
  | some callback => [(callback, r)]
  | none => []

def GATT_SUCCESS : Int := 0
def GATT_FAILURE : Int := 0x101

def setConnState (c : GattClient C) (state : ConnState) : GattClient C :=
  { c with mConnState := state }

/-- `onClientRegistered`: the state is looked at for the log only. `none` is the report to a
callback that is `NULL`, which is the only one that is made. -/
def onClientRegistered (c : GattClient C) (status clientIf : Int) :
    Option (GattClient C × ClientActs C) :=
  if status ≠ GATT_SUCCESS then
    match c.mCallback with
    | none => none
    | some _ => some ({ c with mClientIf := clientIf, mConnState := .idle }, .none)
  else
    some ({ c with mClientIf := clientIf },
      ⟨if c.mService then
        [.clientConnect clientIf c.mDeviceAddress (!c.mAutoConnect) c.mTransport c.mOpportunistic
          c.mPhy]
      else [], []⟩)

def onConnectionState (c : GattClient C) (status : Int) (connected : Bool) (address : List Char) :
    GattClient C × ClientActs C :=
  if caseInsCompare address c.mDeviceAddress then
    ({ c with mConnState := if connected then .connected else .idle, mDeviceBusy := false },
      ⟨[], c.report (.onConnectionStateChange status connected)⟩)
  else (c, .none)

/-- `registerApp`, and whether it succeeded. The call of the library throws nothing. -/
def registerApp (c : GattClient C) (callback : C) : Bool × GattClient C × List LibCall :=
  if c.mService then (true, { c with mCallback := some callback }, [.registerClient])
  else (false, c, [])

/-- `connect`; in another state than the idle one it throws, and changes nothing. -/
def connect (c : GattClient C) (autoConnect : Bool) (callback : C) : GattClient C × ClientActs C :=
  if c.mConnState = .idle then
    match { c with mConnState := .connecting, mAutoConnect := autoConnect }.registerApp
      callback with
    | (true, c, calls) => (c, ⟨calls, []⟩)
    | (false, c, calls) => (c.setConnState .idle, ⟨calls, []⟩)
  else (c, .none)

def disconnect (c : GattClient C) : ClientActs C :=
  if c.mService = false ∨ c.mClientIf = 0 then .none
  else ⟨[.clientDisconnect c.mClientIf c.mDeviceAddress], []⟩

def unregisterApp (c : GattClient C) : GattClient C × ClientActs C :=
  if c.mService = false ∨ c.mClientIf = 0 then (c, .none)
  else ({ c with mCallback := none, mClientIf := 0 }, ⟨[.unregisterClient c.mClientIf], []⟩)

def close (c : GattClient C) : GattClient C × ClientActs C :=
  ({ c.unregisterApp.1 with mConnState := .closed, mAuthRetryState := .idle }, c.unregisterApp.2)

end GattClient

end Gatt
