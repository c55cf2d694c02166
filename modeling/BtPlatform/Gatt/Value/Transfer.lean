import BtPlatform.Support.CBuffer

/-!
# The way of a value

A value goes from a characteristic, a descriptor or an answer of the application to the
stack, and from an event of the stack to the application. The interface hands on pointers;
each step that copies asks `strlen` for the length. Every function gives `none` where memory
outside a buffer is read or a null pointer is followed.
-/

namespace Gatt.Value

open Support

def GATT_MAX_ATTR_LEN : Nat := 600

def PROPERTY_WRITE_NO_RESPONSE : BitVec 32 := 0x04
def PROPERTY_WRITE : BitVec 32 := 0x08

def GATT_SUCCESS : Int := 0
def GATT_INSUFFICIENT_AUTHENTICATION : Int := 0x5
def GATT_INSUFFICIENT_ENCRYPTION : Int := 0xf

def AUTHENTICATION_NONE : Int := 0
def AUTHENTICATION_NO_MITM : Int := 1
def AUTHENTICATION_MITM : Int := 2

def AUTH_RETRY_STATE_IDLE : Int := 0
def AUTH_RETRY_STATE_MITM : Int := 2

/-! ## Characteristics and descriptors -/

/-- `GattCharacteristic`, as far as a transfer looks at it. The device is that of its
service, if it has one. -/
structure GattCharacteristic where
  mProperties : BitVec 32
  mWriteType : Int
  mInstance : Int
  device : Option String
  mValue : Option (List UInt8)

/-- `GattDescriptor`; its device is that of the service of its characteristic. -/
structure GattDescriptor where
  mInstance : Int
  device : Option String
  mValue : Option (List UInt8)

/-- `GattCharacteristic::setValue(uint8_t *)`. -/
def GattCharacteristic.setValue (value : Option (List UInt8)) (c : GattCharacteristic) :
    Option GattCharacteristic :=
  match value with
  | none => none
  | some value => do
      let len ← strlen value
      let copy ← memcpy value len
      return { c with mValue := some (terminate copy) }

/-- `GattDescriptor::setValue`, which does nothing for a null pointer. -/
def GattDescriptor.setValue (value : Option (List UInt8)) (d : GattDescriptor) :
    Option GattDescriptor :=
  match value with
  | none => some d
  | some value => do
      let len ← strlen value
      let copy ← memcpy value len
      return { d with mValue := some (terminate copy) }

/-! ## To the stack -/

/-- What the stack is asked with a value. -/
inductive StackCall where
  | writeCharacteristic (connId handle writeType authReq : Int) (value : List UInt8)
  | writeDescriptor (connId handle authReq : Int) (value : List UInt8)
  | sendIndication (serverIf attrHandle connId confirm : Int) (value : List UInt8)
  | sendResponse (connId transId status : Int) (handle authReq offset : Int) (value : List UInt8)
  deriving DecidableEq

/-- What the library finds for a request: the connection of the address, if the attribute is
not a restricted one, whether a reliable write is going on, and the interface of the stack. -/
structure Library where
  connId : Int
  permitted : Bool
  reliable : Bool
  sGattIf : Bool

/-- `std::vector<uint8_t> vect_val(&value[0], &value[len])` with the length of `strlen`. -/
def vectVal (value : List UInt8) : Option (List UInt8) := do
  let len ← strlen value
  memcpy value len

namespace Library

def gattClientWriteCharacteristicNative (lib : Library) (handle writeType authReq : Int)
    (vectVal : List UInt8) : List StackCall :=
  if ¬ lib.sGattIf then []
  else if vectVal.length = 0 then []
  else [.writeCharacteristic lib.connId handle writeType authReq vectVal]

def gattClientWriteDescriptorNative (lib : Library) (handle authReq : Int)
    (vectVal : List UInt8) : List StackCall :=
  if ¬ lib.sGattIf then []
  else if vectVal.length = 0 then []
  else [.writeDescriptor lib.connId handle authReq vectVal]

/-- `GattLibService::writeCharacteristic`; 3 is a prepared write. -/
def writeCharacteristic (lib : Library) (handle writeType authReq : Int) (value : List UInt8) :
    Option (List StackCall) :=
  let writeType := if lib.reliable then 3 else writeType
  if lib.connId < 0 then some []
  else if ¬ lib.permitted then some []
  else do
    return lib.gattClientWriteCharacteristicNative handle writeType authReq (← vectVal value)

def writeDescriptor (lib : Library) (handle authReq : Int) (value : List UInt8) :
    Option (List StackCall) :=
  if lib.connId < 0 then some []
  else if ¬ lib.permitted then some []
  else do
    return lib.gattClientWriteDescriptorNative handle authReq (← vectVal value)

/-- The vector of `sendNotification` and `sendResponse`, empty for a null pointer. -/
def valVec : Option (List UInt8) → Option (List UInt8)
  | none => some []
  | some value => vectVal value

/-- `GattLibService::sendNotification` with the two functions of the native interface. -/
def sendNotification (lib : Library) (serverIf handle : Int) (confirm : Bool)
    (value : Option (List UInt8)) : Option (List StackCall) :=
  if lib.connId < 0 ∨ lib.connId = 0 then some []
  else do
    let valVec ← valVec value
    return if ¬ lib.sGattIf then []
      else [.sendIndication serverIf handle lib.connId (if confirm then 1 else 0) valVec]

/-- The value of the `btgatt_response_t`, whose array has `maxAttrLen` elements. -/
def responseValue (maxAttrLen : Nat) (vectVal : List UInt8) : List UInt8 :=
  if vectVal.length > 0 then
    if vectVal.length < maxAttrLen then vectVal else vectVal.take maxAttrLen
  else []

/-- `GattLibService::sendResponse` with `gattServerSendResponseNative`. The handle is that of
the request, or zero. -/
def sendResponse (lib : Library) (maxAttrLen : Nat) (requestHandle : Option Int)
    (requestId status offset : Int) (value : Option (List UInt8)) : Option (List StackCall) := do
  let connId := if lib.connId < 0 then 0 else lib.connId
  let valVec ← valVec value
  return if ¬ lib.sGattIf then []
    else [.sendResponse connId requestId (status % 256) (requestHandle.getD 0) 0 offset
      (responseValue maxAttrLen valVec)]

end Library

/-- `GattClient`, as far as a transfer looks at it. -/
structure GattClient where
  mService : Bool
  mClientIf : Int
  mCallback : Bool
  mDeviceBusy : Bool
  mAuthRetryState : Int

/-- `GattClient::writeCharacteristic`: what it returns, and what the stack was asked. -/
def GattClient.writeCharacteristic (client : GattClient) (lib : Library)
    (c : GattCharacteristic) : Option (GattClient × Bool × List StackCall) :=
  if c.mProperties &&& PROPERTY_WRITE = 0 ∧ c.mProperties &&& PROPERTY_WRITE_NO_RESPONSE = 0 then
    some (client, false, [])
  else if ¬ client.mService ∨ client.mClientIf = 0 then some (client, false, [])
  else
    match c.mValue, c.device with
    | some value, some device =>
        if device = "" then some (client, false, [])
        else if client.mDeviceBusy then some (client, false, [])
        else do
          let calls ← lib.writeCharacteristic c.mInstance c.mWriteType AUTHENTICATION_NONE value
          return ({ client with mDeviceBusy := true }, true, calls)
    | _, _ => some (client, false, [])

/-- `GattClient::writeDescriptor`, which leaves the device free. -/
def GattClient.writeDescriptor (client : GattClient) (lib : Library) (d : GattDescriptor) :
    Option (GattClient × Bool × List StackCall) :=
  if ¬ client.mService ∨ client.mClientIf = 0 then some (client, false, [])
  else
    match d.mValue, d.device with
    | some value, some device =>
        if device = "" then some (client, false, [])
        else if client.mDeviceBusy then some (client, false, [])
        else do
          let calls ← lib.writeDescriptor d.mInstance AUTHENTICATION_NONE value
          return (client, true, calls)
    | _, _ => some (client, false, [])

/-- `GattServer`, as far as a transfer looks at it. -/
structure GattServer where
  mService : Bool
  mServerIf : Int

/-- What a call of the server came to. -/
inductive ServerOutcome where
  | returned (ok : Bool) (calls : List StackCall)
  /-- `std::invalid_argument` -/
  | thrown

def GattServer.notifyCharacteristicChanged (server : GattServer) (lib : Library)
    (c : GattCharacteristic) (confirm : Bool) : Option ServerOutcome :=
  if ¬ server.mService ∨ server.mServerIf = 0 then some (.returned false [])
  else if c.device = none then some (.returned false [])
  else if c.mValue = none then some .thrown
  else do
    return .returned true (← lib.sendNotification server.mServerIf c.mInstance confirm c.mValue)

def GattServer.sendResponse (server : GattServer) (lib : Library) (maxAttrLen : Nat)
    (requestHandle : Option Int) (requestId status offset : Int) (value : Option (List UInt8)) :
    Option ServerOutcome :=
  if ¬ server.mService ∨ server.mServerIf = 0 then some (.returned false [])
  else do
    return .returned true
      (← lib.sendResponse maxAttrLen requestHandle requestId status offset value)

/-! ## To the application -/

/-- `gatt_unformatted_value_t`. -/
structure Unformatted where
  value : List UInt8
  len : Nat

/-- A value of the stack, with what stands behind it in the array. -/
def Unformatted.holding (bytes rest : List UInt8) : Unformatted := ⟨bytes ++ rest, bytes.length⟩

/-- What the library and the client find for an event: the application that is registered,
the attribute, and whether the address is that of the client's device. -/
structure Arrival where
  permitted : Bool
  app : Bool
  sameAddress : Bool
  found : Bool

/-- `strlen` of the log line of a handler, if there is data. -/
def logLength : Option (List UInt8) → Option Unit
  | none => some ()
  | some data => (strlen data).map fun _ => ()

/-- `HandleGattcNotifyEvent`: as many bytes as there are, and no terminator. -/
def notifyValue (p : Unformatted) : Option (List UInt8) := memcpy p.value p.len

def GattClient.onNotify (client : GattClient) (arrival : Arrival) (value : Option (List UInt8))
    (c : GattCharacteristic) : Option GattCharacteristic :=
  if ¬ arrival.sameAddress ∨ ¬ arrival.found ∨ ¬ client.mCallback then some c
  else c.setValue value

/-- The notification event, from the handler over `GattLibService::onNotify` to the
characteristic. -/
def notificationArrives (client : GattClient) (arrival : Arrival) (p : Unformatted)
    (c : GattCharacteristic) : Option GattCharacteristic := do
  let value ← notifyValue p
  logLength (some value)
  if ¬ arrival.permitted ∨ ¬ arrival.app then return c
  else client.onNotify arrival (some value) c

/-- A copy of the value with a terminator. -/
def terminatedValue (p : Unformatted) : Option (List UInt8) := do
  return terminate (← memcpy p.value p.len)

/-- The authentication is tried again, as long as the last try was not with MITM. -/
def GattClient.retries (client : GattClient) (status : Int) : Prop :=
  (status = GATT_INSUFFICIENT_AUTHENTICATION ∨ status = GATT_INSUFFICIENT_ENCRYPTION) ∧
    client.mAuthRetryState ≠ AUTH_RETRY_STATE_MITM

instance (client : GattClient) (status : Int) : Decidable (client.retries status) :=
  inferInstanceAs (Decidable (_ ∧ _))

/-- `GattClient::onCharacteristicRead`. A retry asks the service only where there is none. -/
def GattClient.onCharacteristicRead (client : GattClient) (arrival : Arrival) (status : Int)
    (value : Option (List UInt8)) (c : GattCharacteristic) :
    Option (GattClient × GattCharacteristic) :=
  if ¬ arrival.sameAddress then some (client, c)
  else
    let client := { client with mDeviceBusy := false }
    if client.retries status then
      if client.mService then
        some ({ client with mAuthRetryState := client.mAuthRetryState + 1 }, c)
      else none
    else
      let client := { client with mAuthRetryState := AUTH_RETRY_STATE_IDLE }
      if ¬ arrival.found ∨ ¬ client.mCallback then some (client, c)
      else if status = GATT_SUCCESS then do return (client, ← c.setValue value)
      else some (client, c)

/-- The read event of a characteristic, from `HandleGattcReadCharacteristicEvent` over
`GattLibService::onReadCharacteristic` to the characteristic. -/
def characteristicReadArrives (client : GattClient) (arrival : Arrival) (status : Int)
    (p : Unformatted) (c : GattCharacteristic) : Option (GattClient × GattCharacteristic) := do
  let value ← if status = GATT_SUCCESS then (terminatedValue p).map some else some none
  logLength value
  if ¬ arrival.app then return (client, c)
  else client.onCharacteristicRead arrival status value c

def GattClient.onDescriptorRead (client : GattClient) (arrival : Arrival) (status : Int)
    (value : Option (List UInt8)) (d : GattDescriptor) : Option (GattClient × GattDescriptor) :=
  if ¬ arrival.sameAddress then some (client, d)
  else
    let client := { client with mDeviceBusy := false }
    if ¬ arrival.found then some (client, d)
    else if client.retries status ∧ ¬ client.mService then none
    else
      let client := { client with
        mDeviceBusy := decide (client.retries status)
        mAuthRetryState := AUTH_RETRY_STATE_IDLE }
      if ¬ client.mCallback then some (client, d)
      else if status = GATT_SUCCESS then do return (client, ← d.setValue value)
      else some (client, d)

/-- The value in the event of a read descriptor: `btgattc_read_descriptor_cb` copies it if
it is not empty, otherwise it is what the memory of the event held. -/
def descriptorEventValue (garbage : Unformatted) (status : Int) (p : Unformatted) : Unformatted :=
  if status = GATT_SUCCESS ∧ p.len ≠ 0 then p else garbage

/-- The read event of a descriptor, from `HandleGattcReadDescriptorEvent` over
`GattLibService::onReadDescriptor` to the descriptor. -/
def descriptorReadArrives (client : GattClient) (arrival : Arrival) (garbage : Unformatted)
    (status : Int) (p : Unformatted) (d : GattDescriptor) :
    Option (GattClient × GattDescriptor) := do
  let event := descriptorEventValue garbage status p
  let value ← if event.len ≠ 0 then (terminatedValue event).map some else some none
  logLength value
  if ¬ arrival.app then return (client, d)
  else client.onDescriptorRead arrival status value d

/-- The buffer of `HandleGattsRequestWriteCharacteristicEvent` and
`HandleGattsRequestWriteDescriptorEvent`, made with a length of eight bits; `garbage` is
what its memory held. -/
def requestWriteValue (garbage : UInt8) (value : List UInt8) : List UInt8 :=
  let len := value.length % 256
  if len = 0 then [garbage] else terminate (value.take len)

/-- What the callback of the application gets for a write request, if the server and the
attribute are found. -/
def requestWriteArrives (arrival : Arrival) (garbage : UInt8) (value : List UInt8) :
    Option (List UInt8) :=
  if arrival.app ∧ arrival.found then some (requestWriteValue garbage value) else none

end Gatt.Value
