import BtPlatform.Support.Scanf
import BtPlatform.Support.Table

/-!
# Bonds of the adapter

The Gap thread keeps a record for each remote device and the list of the bonded ones. The
events of the stack about devices change both, and the main thread is told of bonds. Of the
records the fields that no event sets are left out.
-/

namespace Bonding

open Support Support.Scanf List

/-- `bt_bdaddr_t`. -/
structure BdAddr where
  address : List UInt8
  size : address.length = 6
  deriving DecidableEq

/-- `bdaddr_to_string`: `%02x:%02x:%02x:%02x:%02x:%02x`. -/
def bdaddrToString (addr : BdAddr) : List Char :=
  [':'].intercalate (addr.address.map printPair)

/-- `bt_bond_state_t`. -/
inductive BondState
  | none
  | bonding
  | bonded
  deriving DecidableEq

/-- The value of a name property; a name has at most 248 bytes. -/
structure BdName where
  bytes : List UInt8
  fits : bytes.length ≤ 248

/-- `bt_property_t`, with the type that comes with the value. -/
inductive Property
  | bdaddr (addr : BdAddr)
  | bdname (name : BdName)
  | classOfDevice (cod : UInt32)
  | remoteRssi (rssi : UInt8)
  | typeOfDevice (type : UInt32)
  | adapterBondedDevices (devices : List BdAddr)
  | other

/-- `DeviceProperties`; of `rssi` only the low byte is ever set. -/
structure DeviceProperties where
  address : BdAddr
  name : List UInt8
  bluetoothClass : UInt32
  rssi : UInt8
  deviceType : UInt32
  bondState : BondState
  broadcast : Bool

/-- A message to the main thread. -/
inductive Message
  | bondState (state : BondState) (bdAddr : BdAddr) (bdName : List UInt8)
  | deviceFound (remoteDevice : DeviceProperties)

/-- `remote_device_prop` and `bonded_devices`. -/
structure Bonds where
  remoteDeviceProp : Table (List Char) DeviceProperties
  bondedDevices : List (List Char)

/-! ## Properties -/

/-- A name field that is cleared. -/
def clearedName : List UInt8 := replicate 248 0

/-- A cleared name field with the value copied into it. -/
def BdName.copied (name : BdName) : List UInt8 :=
  name.bytes ++ replicate (248 - name.bytes.length) 0

/-! `GetValueFromPropertyList` for the types that are looked for: the first one counts. -/

def addressOf (properties : List Property) : Option BdAddr :=
  properties.findSome? fun | .bdaddr addr => some addr | _ => none

def nameOf (properties : List Property) : List UInt8 :=
  (properties.findSome? fun | .bdname name => some name.copied | _ => none).getD clearedName

def classOf (properties : List Property) : Option UInt32 :=
  properties.findSome? fun | .classOfDevice cod => some cod | _ => none

def rssiOf (properties : List Property) : Option UInt8 :=
  properties.findSome? fun | .remoteRssi rssi => some rssi | _ => none

def typeOf (properties : List Property) : Option UInt32 :=
  properties.findSome? fun | .typeOfDevice type => some type | _ => none

/-- The bonded devices of the first property with such a list. -/
def devicesOf (properties : List Property) : List BdAddr :=
  (properties.findSome? fun | .adapterBondedDevices devices => some devices | _ => none).getD []

/-- `name[0] != '\0'`. -/
def HasName (name : List UInt8) : Prop := name.headD 0 ≠ 0

instance (name : List UInt8) : Decidable (HasName name) := inferInstanceAs (Decidable (_ ≠ _))

/-- `MAX_BONDED_DEVICES`. -/
def maxBondedDevices : Nat := 20

/-! ## Records -/

/-- A record as `AddDeviceProperties` makes it. -/
def DeviceProperties.fresh (addr : BdAddr) : DeviceProperties where
  address := addr
  name := clearedName
  bluetoothClass := 0
  rssi := 0
  deviceType := 0
  bondState := .none
  broadcast := false

/-- `bd_name` is one byte longer than the name of a record; what follows is copied too. -/
def DeviceProperties.bdName (p : DeviceProperties) : List UInt8 :=
  p.name ++ [p.bluetoothClass.toUInt8]

namespace Bonds

def empty : Bonds := ⟨∅, []⟩

/-- `GetDeviceProperties`, and `AddDeviceProperties` where there is none. -/
def device (b : Bonds) (addr : BdAddr) : DeviceProperties :=
  (b.remoteDeviceProp.lookup (bdaddrToString addr)).getD (.fresh addr)

/-- The record of the device with the changes made to it. -/
def store (b : Bonds) (addr : BdAddr) (p : DeviceProperties) : Bonds :=
  { b with remoteDeviceProp := b.remoteDeviceProp.insert (bdaddrToString addr) p }

/-! ## The handlers -/

def isDeviceBonded (b : Bonds) (addr : BdAddr) : Bool :=
  decide (bdaddrToString addr ∈ b.bondedDevices)

/-- The switch of `OnbondStateChanged`. -/
def listed (b : Bonds) (deviceAddress : List Char) : BondState → List (List Char)
  | .bonded =>
      if deviceAddress ∈ b.bondedDevices then b.bondedDevices
      else b.bondedDevices ++ [deviceAddress]
  | .none => b.bondedDevices.filter fun other => decide (other ≠ deviceAddress)
  | .bonding => b.bondedDevices

def onBondStateChanged (b : Bonds) (addr : BdAddr) (newState : BondState) (notify : Bool) :
    Bonds × List Message :=
  let prop := { b.device addr with bondState := newState }
  let b' := { b with bondedDevices := b.listed (bdaddrToString addr) newState }
  if notify then (b'.store addr prop, [.bondState newState addr prop.bdName])
  else (b'.store addr { prop with broadcast := true }, [])

def handleBondStateEvent (b : Bonds) (addr : BdAddr) (state : BondState) :
    Bonds × List Message :=
  let b' := b.store addr (b.device addr)
  if (b.device addr).bondState = state then (b', [])
  else b'.onBondStateChanged addr state true

/-- `AdapterPropertiesUpdate`: at most so many devices are copied from the list. -/
def adapterPropertiesUpdate (b : Bonds) (properties : List Property) : Bonds :=
  ((devicesOf properties).take maxBondedDevices).foldl
    (fun b addr => (b.onBondStateChanged addr .bonded false).1) b

def deviceFound (b : Bonds) (properties : List Property) : Bonds × List Message :=
  match addressOf properties with
  | none => (b, [])
  | some addr =>
      let prop := b.device addr
      let prop := { prop with
        name := nameOf properties
        address := addr
        bluetoothClass := (classOf properties).getD prop.bluetoothClass
        rssi := (rssiOf properties).getD prop.rssi
        deviceType := (typeOf properties).getD prop.deviceType }
      (b.store addr prop, [.deviceFound prop])

def remoteDeviceProperties (b : Bonds) (addr : BdAddr) (properties : List Property) :
    Bonds × List Message :=
  let old := b.device addr
  let prop := { old with
    address := (addressOf properties).getD old.address
    name := nameOf properties }
  let tell := HasName prop.name ∧ prop.bondState = .bonded ∧
    (prop.broadcast = true ∨ old.name ≠ prop.name)
  (b.store addr { prop with
      broadcast := if tell then false else prop.broadcast
      bluetoothClass := (classOf properties).getD prop.bluetoothClass
      rssi := (rssiOf properties).getD prop.rssi },
    if tell then [.bondState .bonded prop.address prop.bdName] else [])

end Bonds

/-- The events about devices, and the adapter going off and on again. -/
inductive Event
  | bondState (addr : BdAddr) (state : BondState)
  | adapterProperties (properties : List Property)
  | remoteProperties (addr : BdAddr) (properties : List Property)
  | deviceFound (properties : List Property)
  | powerCycle

/-- `ProcessEvent`, for these events: both lists are flushed when the adapter is off. -/
def Bonds.processEvent (b : Bonds) : Event → Bonds × List Message
  | .bondState addr state => b.handleBondStateEvent addr state
  | .adapterProperties properties => (b.adapterPropertiesUpdate properties, [])
  | .remoteProperties addr properties => b.remoteDeviceProperties addr properties
  | .deviceFound properties => b.deviceFound properties
  | .powerCycle => (Bonds.empty, [])

/-! ## Addresses and their texts -/

theorem printPair_injective : Function.Injective printPair := by
  intro byte byte' h
  have hread := hexPairs_printPair [byte]
  rw [flatMap_singleton, h, ← flatMap_singleton printPair byte',
    hexPairs_printPair] at hread
  exact (singleton_inj.1 (Option.some.inj hread)).symm

/-- The text starts with the two characters of the first byte and a colon. -/
theorem bdaddrToString_cons (byte next : UInt8) (bytes : List UInt8) :
    [':'].intercalate ((byte :: next :: bytes).map printPair) =
      printPair byte ++ ':' :: [':'].intercalate ((next :: bytes).map printPair) := by
  simp [intercalate]

theorem intercalate_inj {bytes bytes' : List UInt8} (hlength : bytes.length = bytes'.length)
    (h : [':'].intercalate (bytes.map printPair) = [':'].intercalate (bytes'.map printPair)) :
    bytes = bytes' := by
  induction bytes generalizing bytes' with
  | nil => exact (length_eq_zero_iff.1 hlength.symm).symm
  | cons byte bytes ih =>
      obtain ⟨byte', bytes', rfl⟩ := exists_cons_of_length_eq_add_one hlength.symm
      have hrest : bytes.length = bytes'.length := Nat.succ.inj hlength
      cases bytes with
      | nil =>
          obtain rfl := length_eq_zero_iff.1 hrest.symm
          have hpair : printPair byte = printPair byte' := by
            simpa [intercalate] using h
          rw [printPair_injective hpair]
      | cons next bytes =>
          obtain ⟨next', bytes', rfl⟩ := exists_cons_of_length_eq_add_one hrest.symm
          rw [bdaddrToString_cons, bdaddrToString_cons] at h
          obtain ⟨hpair, htail⟩ := append_inj h rfl
          rw [printPair_injective hpair, ih hrest (cons.inj htail).2]

theorem bdaddrToString_injective : Function.Injective bdaddrToString := by
  rintro ⟨bytes, size⟩ ⟨bytes', size'⟩ h
  obtain rfl := intercalate_inj (size.trans size'.symm) h
  rfl

namespace Bonds

theorem device_store (b : Bonds) (addr addr' : BdAddr) (p : DeviceProperties) :
    (b.store addr p).device addr' = if addr' = addr then p else b.device addr' := by
  unfold device store
  rw [Table.lookup_insert]
  by_cases heq : addr' = addr
  · rw [if_pos (congrArg bdaddrToString heq), if_pos heq]
    rfl
  · rw [if_neg fun htext => heq (bdaddrToString_injective htext), if_neg heq]

end Bonds

end Bonding
