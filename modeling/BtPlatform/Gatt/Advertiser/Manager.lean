import BtPlatform.Gatt.AdvertiseData
import BtPlatform.Support.Undefined

/-!
# The advertiser manager

`AdvertiserManager` keeps a callback for each advertising set: under a negative
registration id until the controller has answered the start, under the advertiser id of
the controller from then on. What the manager asks of the controller and what it reports
to the callbacks are its outputs.
-/

namespace Gatt.Advertiser

open Support

/-- What the controller reports about an advertiser. -/
inductive Notice where
  | enabled (enable : Bool) (status : Int)
  | ownAddressRead (addressType : Int) (address : String)
  | advertisingDataSet (status : Int)
  | scanResponseDataSet (status : Int)
  | parametersUpdated (txPower status : Int)
  | periodicParametersUpdated (status : Int)
  | periodicDataSet (status : Int)
  | periodicEnabled (enable : Bool) (status : Int)
  deriving DecidableEq, Repr

/-- The data of an advertising set. -/
structure SetData where
  advertiseData : Option AdvertiseData
  scanResponse : Option AdvertiseData
  periodicData : Option AdvertiseData
  duration : Int
  maxExtAdvEvents : Int

/-- Calls of the native interface and of the callbacks. -/
inductive Output (C : Type) where
  | startNative (regId : Int) (advDataBytes scanResponseBytes periodicDataBytes : List UInt8)
      (duration maxExtAdvEvents : Int)
  | stopNative (advertiserId : Int)
  | started (callback : C) (advertiserId txPower status : Int)
  | stopped (callback : C) (advertiserId : Int)
  | noticed (callback : C) (advertiserId : Int) (notice : Notice)
  deriving DecidableEq

/-- `AdvertiserManager`. A callback is known by its address. -/
structure Manager (C : Type) where
  sTempRegistrationId : Int
  mAdvertisers : Table Int C

namespace Manager

variable {C : Type}

/-- The manager before the first request. -/
def initial : Manager C := ⟨-1, ∅⟩

/-- `startAdvertisingSet`; the service, if it is up, knows the device name. -/
def startAdvertisingSet (deviceName : Option (List UInt8)) (data : SetData) (callback : C)
    (m : Manager C) : Except Undefined (Manager C × List (Output C)) :=
  match deviceName with
  | none => .ok (m, [])
  | some deviceName => do
      let cbId ← decrement m.sTempRegistrationId
      return (⟨cbId, m.mAdvertisers.emplace cbId callback⟩,
        [.startNative cbId (advertiseDataToBytes data.advertiseData deviceName)
          (advertiseDataToBytes data.scanResponse deviceName)
          (advertiseDataToBytes data.periodicData deviceName) data.duration
          data.maxExtAdvEvents])

/-- The loop of `stopAdvertisingSet` ends at an entry with the callback, or at the end if
there is none. Which entry comes first is up to the map. -/
def Finds (m : Manager C) (callback : C) : Option Int → Prop
  | none => ∀ k, m.mAdvertisers.lookup k ≠ some callback
  | some k => m.mAdvertisers.lookup k = some callback

/-- `stopAdvertisingSet`, from the place where its loop ends. -/
def stopAdvertisingSet (callback : C) (it : Option Int) (m : Manager C) :
    Manager C × List (Output C) :=
  match it with
  | none => (m, [])
  | some advertiserId =>
      -- "Advertiser will be freed once initiated in onAdvertisingSetStarted()"
      if advertiserId < 0 then (m, [])
      else (m, [.stopNative advertiserId, .stopped callback advertiserId])

def onAdvertisingSetStarted (regId advertiserId txPower status : Int) (m : Manager C) :
    Manager C × List (Output C) :=
  match m.mAdvertisers.lookup regId with
  | none => (m, [.stopNative advertiserId])
  | some callback =>
      ({ m with
          mAdvertisers :=
            if status = 0 then (m.mAdvertisers.emplace advertiserId callback).erase regId
            else m.mAdvertisers.erase advertiserId },
        [.started callback advertiserId txPower status])

/-- What the other functions for events of the controller do. -/
def deliver (advertiserId : Int) (notice : Notice) (m : Manager C) : List (Output C) :=
  match m.mAdvertisers.lookup advertiserId with
  | none => []
  | some callback => [.noticed callback advertiserId notice]

def onAdvertisingEnabled (advertiserId : Int) (enable : Bool) (status : Int) :
    Manager C → List (Output C) := deliver advertiserId (.enabled enable status)

def onOwnAddressRead (advertiserId addressType : Int) (address : String) :
    Manager C → List (Output C) := deliver advertiserId (.ownAddressRead addressType address)

def onAdvertisingDataSet (advertiserId status : Int) : Manager C → List (Output C) :=
  deliver advertiserId (.advertisingDataSet status)

def onScanResponseDataSet (advertiserId status : Int) : Manager C → List (Output C) :=
  deliver advertiserId (.scanResponseDataSet status)

def onAdvertisingParametersUpdated (advertiserId txPower status : Int) :
    Manager C → List (Output C) := deliver advertiserId (.parametersUpdated txPower status)

def onPeriodicAdvertisingParametersUpdated (advertiserId status : Int) :
    Manager C → List (Output C) := deliver advertiserId (.periodicParametersUpdated status)

def onPeriodicAdvertisingDataSet (advertiserId status : Int) : Manager C → List (Output C) :=
  deliver advertiserId (.periodicDataSet status)

def onPeriodicAdvertisingEnabled (advertiserId : Int) (enable : Bool) (status : Int) :
    Manager C → List (Output C) := deliver advertiserId (.periodicEnabled enable status)

/-- The function that takes a notice of the controller. -/
def onNotice (advertiserId : Int) : Notice → Manager C → List (Output C)
  | .enabled enable status => onAdvertisingEnabled advertiserId enable status
  | .ownAddressRead addressType address => onOwnAddressRead advertiserId addressType address
  | .advertisingDataSet status => onAdvertisingDataSet advertiserId status
  | .scanResponseDataSet status => onScanResponseDataSet advertiserId status
  | .parametersUpdated txPower status => onAdvertisingParametersUpdated advertiserId txPower status
  | .periodicParametersUpdated status => onPeriodicAdvertisingParametersUpdated advertiserId status
  | .periodicDataSet status => onPeriodicAdvertisingDataSet advertiserId status
  | .periodicEnabled enable status => onPeriodicAdvertisingEnabled advertiserId enable status

theorem onNotice_eq (advertiserId : Int) (notice : Notice) (m : Manager C) :
    m.onNotice advertiserId notice = m.deliver advertiserId notice := by
  cases notice <;> rfl

end Manager

/-- Requests of the service and events of the controller, whose advertiser ids are bytes. -/
inductive Event (C : Type) where
  | start (deviceName : Option (List UInt8)) (data : SetData) (callback : C)
  | stop (callback : C) (it : Option Int)
  | started (regId : Int) (advertiserId : UInt8) (txPower status : Int)
  | notice (advertiserId : UInt8) (notice : Notice)

variable {C : Type}

/-- One request or event. -/
def Manager.handle (m : Manager C) :
    Event C → Except Undefined (Manager C × List (Output C))
  | .start deviceName data callback => m.startAdvertisingSet deviceName data callback
  | .stop callback it => .ok (m.stopAdvertisingSet callback it)
  | .started regId advertiserId txPower status =>
      .ok (m.onAdvertisingSetStarted regId advertiserId.toNat txPower status)
  | .notice advertiserId notice => .ok (m, m.onNotice advertiserId.toNat notice)

end Gatt.Advertiser
