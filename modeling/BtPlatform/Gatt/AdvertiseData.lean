import BtPlatform.Format.Elements
import BtPlatform.Gatt.Uuid
import BtPlatform.Support.Table

/-!
# Advertising data

What an application wants to advertise, and the bytes made of it: a structure for the
device name, one for each manufacturer, one for the transmission power, one for the
service UUIDs of each size, and one for each service with data.
-/

namespace Gatt

open Support Format List

/-- `AdvertiseData`. It is built by its `Builder` only, which refuses the empty UUID, a
negative manufacturer id and empty data; the maps are ordered by their keys. -/
structure AdvertiseData where
  serviceUuids : List Uuid
  manufacturerSpecificData : Table Nat (List UInt8)
  serviceData : Table Uuid (List UInt8)
  includeTxPowerLevel : Bool
  includeDeviceName : Bool
  serviceUuids_ne_empty : ∀ u ∈ serviceUuids, u ≠ Uuid.empty
  manufacturer_ascending : manufacturerSpecificData.keys.Pairwise (· < ·)
  manufacturer_ne_nil : ∀ e ∈ manufacturerSpecificData.entries, e.2 ≠ []
  serviceData_ascending : serviceData.keys.Pairwise (fun u v => u.uu < v.uu)
  serviceData_ne_empty : ∀ e ∈ serviceData.entries, e.1 ≠ Uuid.empty ∧ e.2 ≠ []

def DEVICE_NAME_MAX : Nat := 26
def COMPLETE_LIST_16_BIT_SERVICE_UUIDS : UInt8 := 0x03
def COMPLETE_LIST_32_BIT_SERVICE_UUIDS : UInt8 := 0x05
def COMPLETE_LIST_128_BIT_SERVICE_UUIDS : UInt8 := 0x07
def SHORTENED_LOCAL_NAME : UInt8 := 0x08
def COMPLETE_LOCAL_NAME : UInt8 := 0x09
def TX_POWER_LEVEL : UInt8 := 0x0A
def SERVICE_DATA_16_BIT_UUID : UInt8 := 0x16
def SERVICE_DATA_32_BIT_UUID : UInt8 := 0x20
def SERVICE_DATA_128_BIT_UUID : UInt8 := 0x21
def MANUFACTURER_SPECIFIC_DATA : UInt8 := 0xFF

/-- What one structure of the advertising data is made of. -/
inductive Field where
  | deviceName (nameBytes : List UInt8)
  | manufacturer (id : Nat) (data : List UInt8)
  | txPowerLevel
  | serviceUuids (size : Nat) (uuids : List Uuid)
  | serviceData (uuid : Uuid) (data : List UInt8)
  deriving DecidableEq

namespace Field

def completeListType (size : Nat) : UInt8 :=
  if size = 2 then COMPLETE_LIST_16_BIT_SERVICE_UUIDS
  else if size = 4 then COMPLETE_LIST_32_BIT_SERVICE_UUIDS
  else COMPLETE_LIST_128_BIT_SERVICE_UUIDS

def serviceDataType (size : Nat) : UInt8 :=
  if size = 2 then SERVICE_DATA_16_BIT_UUID
  else if size = 4 then SERVICE_DATA_32_BIT_UUID
  else SERVICE_DATA_128_BIT_UUID

/-- The type and the data of the structure. -/
def element : Field → Element
  | .deviceName nameBytes =>
      if nameBytes.length > DEVICE_NAME_MAX then
        ⟨SHORTENED_LOCAL_NAME, nameBytes.take DEVICE_NAME_MAX⟩
      else ⟨COMPLETE_LOCAL_NAME, nameBytes⟩
  -- the manufacturer id has its least significant byte first
  | .manufacturer id data =>
      ⟨MANUFACTURER_SPECIFIC_DATA, UInt8.ofNat id :: UInt8.ofNat (id / 256) :: data⟩
  | .txPowerLevel => ⟨TX_POWER_LEVEL, [0]⟩
  | .serviceUuids size uuids => ⟨completeListType size, uuids.flatMap Uuid.uuidToByte⟩
  | .serviceData uuid data =>
      ⟨serviceDataType uuid.shortestRepresentationSize, uuid.uuidToByte ++ data⟩

end Field

namespace AdvertiseData

variable (data : AdvertiseData) (name : List UInt8)

/-- The service UUIDs of one size, in their order. -/
def uuidsOfSize (size : Nat) : List Uuid :=
  data.serviceUuids.filter fun u => u.shortestRepresentationSize = size

/-- The UUIDs of one size share a structure. -/
def uuidField (size : Nat) : List Field :=
  if data.uuidsOfSize size = [] then [] else [.serviceUuids size (data.uuidsOfSize size)]

def nameField : List Field :=
  if data.includeDeviceName then [.deviceName (name.takeWhile (· ≠ 0))] else []

def manufacturerFields : List Field :=
  data.manufacturerSpecificData.entries.map fun e => .manufacturer e.1 e.2

def txField : List Field := if data.includeTxPowerLevel then [.txPowerLevel] else []

def uuidFields : List Field := data.uuidField 2 ++ data.uuidField 4 ++ data.uuidField 16

def serviceDataFields : List Field :=
  data.serviceData.entries.map fun e => .serviceData e.1 e.2

/-- The structures in the order in which they are written. -/
def fields : List Field :=
  data.nameField name ++ data.manufacturerFields ++ data.txField ++ data.uuidFields ++
    data.serviceDataFields

end AdvertiseData

/-- `advertiseDataToBytes`, with the device name as the bytes of a string. -/
def advertiseDataToBytes (data : Option AdvertiseData) (name : List UInt8) : List UInt8 :=
  match data with
  | none => []
  | some data => encodeElements ((data.fields name).map Field.element)

namespace AdvertiseData

variable {data : AdvertiseData} {name : List UInt8}

theorem mem_uuidsOfSize {size : Nat} {u : Uuid} :
    u ∈ data.uuidsOfSize size ↔ u ∈ data.serviceUuids ∧ u.shortestRepresentationSize = size := by
  simp [uuidsOfSize]

theorem mem_uuidField {size : Nat} {f : Field} (h : f ∈ data.uuidField size) :
    f = .serviceUuids size (data.uuidsOfSize size) ∧ data.uuidsOfSize size ≠ [] := by
  unfold uuidField at h
  split at h
  · cases h
  · next hne => exact ⟨mem_singleton.1 h, hne⟩

/-- The shape of the structures. -/
inductive Shape (data : AdvertiseData) (name : List UInt8) : Field → Prop where
  | deviceName : data.includeDeviceName = true →
      Shape data name (.deviceName (name.takeWhile (· ≠ 0)))
  | manufacturer (e : (_ : Nat) × List UInt8) : e ∈ data.manufacturerSpecificData.entries →
      Shape data name (.manufacturer e.1 e.2)
  | txPowerLevel : Shape data name .txPowerLevel
  | serviceUuids (size : Nat) : size = 2 ∨ size = 4 ∨ size = 16 → data.uuidsOfSize size ≠ [] →
      Shape data name (.serviceUuids size (data.uuidsOfSize size))
  | serviceData (e : (_ : Uuid) × List UInt8) : e ∈ data.serviceData.entries →
      Shape data name (.serviceData e.1 e.2)

theorem shape_of_mem_fields {f : Field} (h : f ∈ data.fields name) : Shape data name f := by
  simp only [fields, uuidFields, mem_append] at h
  obtain (((h | h) | h) | ((h | h) | h)) | h := h
  · unfold nameField at h
    split at h
    · next hname =>
        obtain rfl := mem_singleton.1 h
        exact .deviceName hname
    · cases h
  · obtain ⟨e, he, rfl⟩ := mem_map.1 h
    exact .manufacturer e he
  · unfold txField at h
    split at h
    · obtain rfl := mem_singleton.1 h
      exact .txPowerLevel
    · cases h
  · obtain ⟨rfl, hne⟩ := mem_uuidField h
    exact .serviceUuids 2 (.inl rfl) hne
  · obtain ⟨rfl, hne⟩ := mem_uuidField h
    exact .serviceUuids 4 (.inr (.inl rfl)) hne
  · obtain ⟨rfl, hne⟩ := mem_uuidField h
    exact .serviceUuids 16 (.inr (.inr rfl)) hne
  · obtain ⟨e, he, rfl⟩ := mem_map.1 h
    exact .serviceData e he

end AdvertiseData

end Gatt
