import BtPlatform.Gatt.Client.GattClient
import BtPlatform.Gatt.Value.Transfer

/-!
# Operations of a client

An operation marks the device as busy and is passed to the library; its result marks the
device as free and is reported. A result without enough authentication or encryption is to be
tried again, but the library is asked only where there is none.
-/

namespace Gatt.GattClient

open Value (AUTHENTICATION_NONE GATT_INSUFFICIENT_AUTHENTICATION GATT_INSUFFICIENT_ENCRYPTION
  PROPERTY_WRITE PROPERTY_WRITE_NO_RESPONSE)

variable {C : Type}

/-! ## Calls -/

def PROPERTY_READ : BitVec 32 := 0x02

def isRegistered (c : GattClient C) : Bool := c.mService && decide (c.mClientIf ≠ 0)

/-- The device of the service of an attribute, if there is a service and it has one. -/
def deviceOf (device : Option String) : Option String := device.filter (· ≠ "")

/-- The frame of the operations: what they return, and the call that they make. The call
throws nothing. -/
def operate (c : GattClient C) (ready : Bool) (call : LibCall) :
    Bool × GattClient C × List LibCall :=
  if ready then
    if c.mDeviceBusy then (false, c, []) else (true, { c with mDeviceBusy := true }, [call])
  else (false, c, [])

def readCharacteristic (c : GattClient C) (x : Value.GattCharacteristic) :
    Bool × GattClient C × List LibCall :=
  c.operate
    (decide (x.mProperties &&& PROPERTY_READ ≠ 0) && c.isRegistered && (deviceOf x.device).isSome)
    (.request c.mClientIf ((deviceOf x.device).getD "").toList
      (.readCharacteristic x.mInstance AUTHENTICATION_NONE))

def readUsingCharacteristicUuid (c : GattClient C) (uuid : Uuid) (startHandle endHandle : Int) :
    Bool × GattClient C × List LibCall :=
  c.operate c.isRegistered
    (.request c.mClientIf c.mDeviceAddress
      (.readUsingCharacteristicUuid uuid startHandle endHandle AUTHENTICATION_NONE))

def writeCharacteristic (c : GattClient C) (x : Value.GattCharacteristic) :
    Bool × GattClient C × List LibCall :=
  c.operate
    (!decide (x.mProperties &&& PROPERTY_WRITE = 0 ∧
        x.mProperties &&& PROPERTY_WRITE_NO_RESPONSE = 0) &&
      c.isRegistered && x.mValue.isSome && (deviceOf x.device).isSome)
    (.request c.mClientIf ((deviceOf x.device).getD "").toList
      (.writeCharacteristic x.mInstance x.mWriteType AUTHENTICATION_NONE (x.mValue.getD [])))

def readDescriptor (c : GattClient C) (x : Value.GattDescriptor) :
    Bool × GattClient C × List LibCall :=
  c.operate (c.isRegistered && (deviceOf x.device).isSome)
    (.request c.mClientIf ((deviceOf x.device).getD "").toList
      (.readDescriptor x.mInstance AUTHENTICATION_NONE))

/-- `writeDescriptor` looks whether the device is busy, and leaves it free. -/
def writeDescriptor (c : GattClient C) (x : Value.GattDescriptor) : Bool × List LibCall :=
  if c.isRegistered && x.mValue.isSome && (deviceOf x.device).isSome then
    if c.mDeviceBusy then (false, [])
    else (true, [.request c.mClientIf ((deviceOf x.device).getD "").toList
      (.writeDescriptor x.mInstance AUTHENTICATION_NONE (x.mValue.getD []))])
  else (false, [])

def beginReliableWrite (c : GattClient C) : Bool × List LibCall :=
  if c.isRegistered then (true, [.beginReliableWrite c.mClientIf c.mDeviceAddress])
  else (false, [])

def executeReliableWrite (c : GattClient C) : Bool × GattClient C × List LibCall :=
  c.operate c.isRegistered (.endReliableWrite c.mClientIf c.mDeviceAddress true)

/-- `abortReliableWrite` does not look whether the device is busy. -/
def abortReliableWrite (c : GattClient C) : List LibCall :=
  if c.isRegistered then [.endReliableWrite c.mClientIf c.mDeviceAddress false] else []

/-! ## Results -/

/-- An operation is to be tried again, as long as the last try was not with MITM. -/
def retries (c : GattClient C) (status : Int) : Bool :=
  (decide (status = GATT_INSUFFICIENT_AUTHENTICATION) ||
    decide (status = GATT_INSUFFICIENT_ENCRYPTION)) && decide (c.mAuthRetryState ≠ .mitm)

def getCharacteristicById (c : GattClient C) (instanceId : Int) : Option GattCharacteristic :=
  c.mServices.findSome? fun svc =>
    svc.characteristics.find? fun charac => decide (charac.instanceId = instanceId)

def getDescriptorById (c : GattClient C) (instanceId : Int) : Option GattDescriptor :=
  c.mServices.findSome? fun svc => svc.characteristics.findSome? fun charac =>
    charac.descriptors.find? fun desc => decide (desc.instanceId = instanceId)

def setBusy (c : GattClient C) (busy : Bool) (retry : AuthRetryState) : GattClient C :=
  { c with mDeviceBusy := busy, mAuthRetryState := retry }

/-- `onCharacteristicRead`; `none` is a call of the service where it is `NULL`, here as in the
other results. -/
def onCharacteristicRead (c : GattClient C) (address : List Char) (status handle : Int)
    (value : List UInt8) : Option (GattClient C × ClientActs C) :=
  if caseInsCompare address c.mDeviceAddress = false then some (c, .none)
  else if c.retries status then
    if c.mService then some (c.setBusy false c.mAuthRetryState.next, .none) else none
  else
    match c.getCharacteristicById handle with
    | none => some (c.setBusy false .idle, .none)
    | some _ =>
        some (c.setBusy false .idle, ⟨[], c.report
          (.onCharacteristicRead handle status
            (if status = GATT_SUCCESS then some value else none))⟩)

/-- `onCharacteristicWrite`: after a retry the device stays busy. -/
def onCharacteristicWrite (c : GattClient C) (address : List Char) (status handle : Int) :
    Option (GattClient C × ClientActs C) :=
  if caseInsCompare address c.mDeviceAddress = false then some (c, .none)
  else
    match c.getCharacteristicById handle with
    | none => some (c.setBusy false c.mAuthRetryState, .none)
    | some _ =>
        if c.retries status then
          if c.mService then some (c.setBusy true c.mAuthRetryState.next, .none) else none
        else
          some (c.setBusy false .idle, ⟨[], c.report (.onCharacteristicWrite handle status)⟩)

def onExecuteWrite (c : GattClient C) (address : List Char) (status : Int) :
    GattClient C × ClientActs C :=
  if caseInsCompare address c.mDeviceAddress = false then (c, .none)
  else (c.setBusy false c.mAuthRetryState, ⟨[], c.report (.onReliableWriteCompleted status)⟩)

/-- `onDescriptorRead`: a retry that asks nobody falls through to the report, with the device
busy. -/
def onDescriptorRead (c : GattClient C) (address : List Char) (status handle : Int)
    (value : List UInt8) : Option (GattClient C × ClientActs C) :=
  if caseInsCompare address c.mDeviceAddress = false then some (c, .none)
  else
    match c.getDescriptorById handle with
    | none => some (c.setBusy false c.mAuthRetryState, .none)
    | some _ =>
        if c.retries status && !c.mService then none
        else
          some (c.setBusy (c.retries status) .idle, ⟨[], c.report
            (.onDescriptorRead handle status (if status = GATT_SUCCESS then some value else none))⟩)

/-- `onDescriptorWrite`: as the one of a characteristic. -/
def onDescriptorWrite (c : GattClient C) (address : List Char) (status handle : Int) :
    Option (GattClient C × ClientActs C) :=
  if caseInsCompare address c.mDeviceAddress = false then some (c, .none)
  else
    match c.getDescriptorById handle with
    | none => some (c.setBusy false c.mAuthRetryState, .none)
    | some _ =>
        if c.retries status then
          if c.mService then some (c.setBusy true c.mAuthRetryState.next, .none) else none
        else
          some (c.setBusy false .idle, ⟨[], c.report (.onDescriptorWrite handle status)⟩)

def onSearchComplete (c : GattClient C) (address : List Char) (services : List GattService)
    (status : Int) : GattClient C × ClientActs C :=
  if caseInsCompare address c.mDeviceAddress then
    ({ c with
        mServices := Gatt.onSearchComplete c.mDeviceAddress c.mServices address services status },
      ⟨[], c.report (.onServicesDiscovered status)⟩)
  else (c, .none)

end Gatt.GattClient
