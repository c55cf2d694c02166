import BtPlatform.Gatt.Advertiser.Manager
import BtPlatform.Gatt.TotalBytes

/-!
# The advertiser of the applications

`GattLeAdvertiser` is the one advertiser that all applications share. It hands itself to
the advertiser manager as the callback of every set, keeps the callbacks of the
applications in a map, and remembers the one that came last.
-/

namespace Gatt.Advertiser

open Support

/-- `AdvertisingSet`, the handle of an application for a set that was started. -/
structure AdvertisingSet where
  advertiserId : Int
  deriving DecidableEq, Repr

/-- What the advertiser asks `GattLibService` about. -/
structure Service where
  deviceName : List UInt8
  isLeCodedPhySupported : Bool
  isLe2MPhySupported : Bool
  isLePeriodicAdvertisingSupported : Bool
  leMaximumAdvertisingDataLength : Int

/-- The arguments of `startAdvertisingSet` that are checked. -/
structure Request where
  isConnectable : Bool
  isLegacy : Bool
  primaryPhy : Int
  secondaryPhy : Int
  /-- `periodicParameters` is not null -/
  periodicParameters : Bool
  data : SetData

def PHY_LE_2M : Int := 2
def PHY_LE_CODED : Int := 3

/-- The exceptions of `startAdvertisingSet`. -/
inductive Refusal where
  | legacyAdvertisingDataTooBig
  | legacyScanResponseDataTooBig
  | unsupportedPrimaryPhy
  | unsupportedSecondaryPhy
  | advertisingDataTooBig
  | scanResponseDataTooBig
  | periodicAdvertisingDataTooBig
  | periodicAdvertisingNotSupported
  | maxExtendedAdvertisingEventsOutOfRange
  | extendedAdvertisingNotSupported
  | durationOutOfRange
  deriving DecidableEq, Repr

/-- The checks of a legacy set. -/
def checkLegacy (service : Service) (request : Request) : Except Refusal Unit :=
  if totalBytes service.deviceName request.data.advertiseData request.isConnectable >
      MAX_LEGACY_ADVERTISING_DATA_BYTES then
    .error .legacyAdvertisingDataTooBig
  else if totalBytes service.deviceName request.data.scanResponse false >
      MAX_LEGACY_ADVERTISING_DATA_BYTES then
    .error .legacyScanResponseDataTooBig
  else .ok ()

/-- The checks of an extended set. -/
def checkExtended (service : Service) (request : Request) : Except Refusal Unit :=
  let maxData := service.leMaximumAdvertisingDataLength
  if request.primaryPhy = PHY_LE_CODED ∧ ¬ service.isLeCodedPhySupported then
    .error .unsupportedPrimaryPhy
  else if (request.secondaryPhy = PHY_LE_CODED ∧ ¬ service.isLeCodedPhySupported) ∨
      (request.secondaryPhy = PHY_LE_2M ∧ ¬ service.isLe2MPhySupported) then
    .error .unsupportedSecondaryPhy
  else if totalBytes service.deviceName request.data.advertiseData request.isConnectable >
      maxData then
    .error .advertisingDataTooBig
  else if totalBytes service.deviceName request.data.scanResponse false > maxData then
    .error .scanResponseDataTooBig
  else if totalBytes service.deviceName request.data.periodicData false > maxData then
    .error .periodicAdvertisingDataTooBig
  else if request.periodicParameters ∧ ¬ service.isLePeriodicAdvertisingSupported then
    .error .periodicAdvertisingNotSupported
  else .ok ()

/-- The checks at the start of `startAdvertisingSet`. -/
def checkAdvertisingSet (service : Service) (request : Request) : Except Refusal Unit := do
  if request.isLegacy then checkLegacy service request else checkExtended service request
  if request.data.maxExtAdvEvents < 0 ∨ request.data.maxExtAdvEvents > 255 then
    .error .maxExtendedAdvertisingEventsOutOfRange
  else if request.data.maxExtAdvEvents ≠ 0 ∧ ¬ service.isLePeriodicAdvertisingSupported then
    .error .extendedAdvertisingNotSupported
  else if request.data.duration < 0 ∨ request.data.duration > 65535 then
    .error .durationOutOfRange
  else .ok ()

def ADVERTISE_SUCCESS : Int := 0
def ADVERTISE_FAILED_INTERNAL_ERROR : Int := 4

/-- What an application gets to see. -/
inductive AppOutput (A : Type) where
  | threw (refusal : Refusal)
  | started (callback : A) (advertisingSet : Option AdvertisingSet) (txPower status : Int)
  | stopped (callback : A) (advertisingSet : AdvertisingSet)
  | noticed (callback : A) (advertisingSet : AdvertisingSet) (notice : Notice)
  deriving DecidableEq

/-- `GattLeAdvertiser`; the callbacks of the applications are known by their addresses. As
the values of `mCallback` are all the advertiser itself, they carry no data. -/
structure LeAdvertiser (A : Type) where
  mCb : Option A
  mCallback : Table A Unit
  mAdvertisingSets : Table Int AdvertisingSet

namespace LeAdvertiser

variable {A : Type}

/-- `mCb->`. -/
def lastCallback (a : LeAdvertiser A) : Except Undefined A :=
  match a.mCb with
  | some callback => .ok callback
  | none => .error .nullPointer

def onAdvertisingSetStarted (advertiserId txPower status : Int) (a : LeAdvertiser A) :
    Except Undefined (LeAdvertiser A × List (AppOutput A)) := do
  let callback ← a.lastCallback
  if status ≠ ADVERTISE_SUCCESS then return (a, [.started callback none 0 status])
  else
    let advertisingSet : AdvertisingSet := ⟨advertiserId⟩
    return ({ a with mAdvertisingSets := a.mAdvertisingSets.emplace advertiserId advertisingSet },
      [.started callback (some advertisingSet) txPower status])

def onAdvertisingSetStopped (advertiserId : Int) (a : LeAdvertiser A) :
    Except Undefined (LeAdvertiser A × List (AppOutput A)) :=
  match a.mAdvertisingSets.lookup advertiserId with
  | none => .ok (a, [])
  | some advertisingSet => do
      let callback ← a.lastCallback
      return ({ a with mAdvertisingSets := a.mAdvertisingSets.erase advertiserId },
        [.stopped callback advertisingSet])

/-- What the other functions for events do: `onOwnAddressRead`, `onAdvertisingEnabled`,
`onAdvertisingDataSet`, `onScanResponseDataSet`, `onAdvertisingParametersUpdated` and the
three of periodic advertising, each with its own notice. -/
def onNotice (advertiserId : Int) (notice : Notice) (a : LeAdvertiser A) :
    Except Undefined (LeAdvertiser A × List (AppOutput A)) :=
  match a.mAdvertisingSets.lookup advertiserId with
  | none => .ok (a, [])
  | some advertisingSet => do
      let callback ← a.lastCallback
      return (a, [.noticed callback advertisingSet notice])

/-- A call of the advertiser by the manager. -/
def callback (output : Output Unit) (a : LeAdvertiser A) :
    Except Undefined (LeAdvertiser A × List (AppOutput A)) :=
  match output with
  | .startNative _ _ _ _ _ _ => .ok (a, [])
  | .stopNative _ => .ok (a, [])
  | .started _ advertiserId txPower status => a.onAdvertisingSetStarted advertiserId txPower status
  | .stopped _ advertiserId => a.onAdvertisingSetStopped advertiserId
  | .noticed _ advertiserId notice => a.onNotice advertiserId notice

/-- The calls of the manager one after the other. -/
def callbacks : List (Output Unit) → LeAdvertiser A →
    Except Undefined (LeAdvertiser A × List (AppOutput A))
  | [], a => .ok (a, [])
  | output :: outputs, a => do
      let (a, first) ← a.callback output
      let (a, rest) ← callbacks outputs a
      return (a, first ++ rest)

end LeAdvertiser

/-- The advertiser and the manager below it. -/
structure System (A : Type) where
  advertiser : LeAdvertiser A
  manager : Manager Unit

/-- Requests of the applications and events of the controller. An update of a set by its
handle goes straight to the controller. -/
inductive AppEvent (A : Type) where
  | start (service : Option Service) (request : Request) (callback : A)
  | stop (callback : A)
  | update (advertisingSet : AdvertisingSet)
  | started (regId : Int) (advertiserId : UInt8) (txPower status : Int)
  | notice (advertiserId : UInt8) (notice : Notice)

namespace System

variable {A : Type}

def initial : System A := ⟨⟨none, ∅, ∅⟩, Manager.initial⟩

/-- An event of the manager, with the calls of the advertiser it leads to. -/
def throughManager (s : System A) (event : Event Unit) :
    Except Undefined (System A × List (AppOutput A)) := do
  let (manager, outputs) ← s.manager.handle event
  let (advertiser, seen) ← s.advertiser.callbacks outputs
  return (⟨advertiser, manager⟩, seen)

variable [DecidableEq A]

def startAdvertisingSet (service : Option Service) (request : Request) (callback : A)
    (s : System A) : Except Undefined (System A × List (AppOutput A)) :=
  match service with
  | none => .ok (s, [.started callback none 0 ADVERTISE_FAILED_INTERNAL_ERROR])
  | some service =>
      match checkAdvertisingSet service request with
      | .error refusal => .ok (s, [.threw refusal])
      | .ok () =>
          let advertiser := { s.advertiser with
            mCb := some callback
            mCallback := s.advertiser.mCallback.emplace callback () }
          throughManager { s with advertiser := advertiser }
            (.start (some service.deviceName) request.data ())

/-- `stopAdvertisingSet`: the element that was found is erased before it is used. -/
def stopAdvertisingSet (callback : A) (s : System A) :
    Except Undefined (System A × List (AppOutput A)) :=
  match s.advertiser.mCallback.lookup callback with
  | none => .ok (s, [])
  | some _ => .error .erasedIterator

/-- One request or event. -/
def handle (s : System A) : AppEvent A → Except Undefined (System A × List (AppOutput A))
  | .start service request callback => s.startAdvertisingSet service request callback
  | .stop callback => s.stopAdvertisingSet callback
  | .update _ => .ok (s, [])
  | .started regId advertiserId txPower status =>
      s.throughManager (.started regId advertiserId txPower status)
  | .notice advertiserId notice => s.throughManager (.notice advertiserId notice)

end System

end Gatt.Advertiser
