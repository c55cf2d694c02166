import BtPlatform.Gatt.Scan.Deliver

/-!
# Scan filters

`ScanFilter::matches`. Its criteria are tested in turn: the device address, the local name, the
service UUIDs, the solicited UUIDs, the service data and the manufacturer data. Variables that
the code reads before it writes them hold what `Memory` says.
-/

namespace Gatt

open Support Format
open Scan (ScanResult)

/-- `ScanFilter`, as its builder makes it: data comes with the UUID, or the number of the
company, that it belongs to. -/
structure ScanFilter where
  mDeviceName : List UInt8
  mDeviceAddress : List Char
  mServiceUuid : Uuid
  mServiceUuidMask : Uuid
  mServiceSolicitationUuid : Uuid
  mServiceSolicitationUuidMask : Uuid
  mServiceDataUuid : Uuid
  mServiceData : List UInt8
  mServiceDataMask : List UInt8
  mManufacturerId : Int
  mManufacturerData : List UInt8
  mManufacturerDataMask : List UInt8
  hasUuid : mServiceDataUuid = .empty → mServiceData = []
  hasId : mManufacturerId < 0 → mManufacturerData = []

namespace ScanFilter

/-- `EMPTY`: the fields of a new builder. -/
def EMPTY : ScanFilter :=
  { mDeviceName := [], mDeviceAddress := [], mServiceUuid := .empty, mServiceUuidMask := .empty,
    mServiceSolicitationUuid := .empty, mServiceSolicitationUuidMask := .empty,
    mServiceDataUuid := .empty, mServiceData := [], mServiceDataMask := [],
    mManufacturerId := -1, mManufacturerData := [], mManufacturerDataMask := [],
    hasUuid := fun _ => rfl, hasId := fun _ => rfl }

/-- What the uninitialised variables hold: `res` in `maskedEquals16Bit` and its siblings, and the
mask that `matchesServiceSolicitationUuids` initialises with itself. -/
structure Memory where
  res : Uuid → Bool
  solicitationUuidMask : Uuid

/-- `toupper` of the C locale. -/
def toupper (ch : UInt8) : UInt8 := if 97 ≤ ch ∧ ch ≤ 122 then ch - 32 else ch

def caseInsCharCompareN (a b : UInt8) : Bool := toupper a == toupper b

def caseInsCompare (s1 s2 : List UInt8) : Bool :=
  decide (s1.length = s2.length) && (s1.zip s2).all fun pair => caseInsCharCompareN pair.1 pair.2

/-- `caseInsCompare` of two addresses. -/
def sameAddress (a b : List Char) : Bool := decide (a.map Char.toUpper = b.map Char.toUpper)

/-- The loop over the bytes of a UUID and its mask: `res` keeps the lowest bit only. -/
def maskedBits (res : Bool) (uuidBits maskBits : List UInt8) : Bool :=
  (uuidBits.zip maskBits).foldl
    (fun res pair => res && decide ((pair.1 &&& pair.2) &&& 1 ≠ 0)) res

def maskedEquals16Bit (m : Memory) (uuid mask : Uuid) : Bool :=
  maskedBits (m.res uuid) uuid.as16BitBE mask.as16BitBE

def maskedEquals32Bit (m : Memory) (uuid mask : Uuid) : Bool :=
  maskedBits (m.res uuid) uuid.as32BitBE mask.as32BitBE

def maskedEquals128Bit (m : Memory) (uuid mask : Uuid) : Bool :=
  maskedBits (m.res uuid) uuid.uu mask.uu

def maskedEquals (m : Memory) (a b mask : Uuid) : Bool :=
  if mask = .empty then decide (a = b)
  else if a.shortestRepresentationSize ≠ mask.shortestRepresentationSize ∨
      b.shortestRepresentationSize ≠ mask.shortestRepresentationSize then false
  else if a.shortestRepresentationSize = 2 then
    maskedEquals16Bit m a mask && maskedEquals16Bit m b mask
  else if a.shortestRepresentationSize = 4 then
    maskedEquals32Bit m a mask && maskedEquals32Bit m b mask
  else maskedEquals128Bit m a mask && maskedEquals128Bit m b mask

def matchesServiceUuid (m : Memory) (uuid mask data : Uuid) : Bool := maskedEquals m data uuid mask

def matchesServiceUuids (m : Memory) (uuid uuidMask : Uuid) (uuids : List Uuid) : Bool :=
  if uuid = .empty then true
  else uuids.any fun pUuid => matchesServiceUuid m uuid uuidMask pUuid

/-- The mask of the loop's body hides the one that is passed, and the filter's UUID is compared
with itself. -/
def matchesServiceSolicitationUuids (m : Memory) (solicitationUuid _solicitationUuidMask : Uuid)
    (solicitationUuids : List Uuid) : Bool :=
  if solicitationUuid = .empty then true
  else solicitationUuids.any fun _ =>
    matchesServiceUuid m solicitationUuid m.solicitationUuidMask solicitationUuid

/-- The loop over the bytes under a mask. -/
def matchesMasked : List UInt8 → List UInt8 → List UInt8 → Except Fault Bool
  | [], _, _ => .ok true
  | d :: data, m :: dataMask, p :: parsedData =>
      if caseInsCharCompareN (m &&& p) (m &&& d) then matchesMasked data dataMask parsedData
      else .ok false
  | _ :: _, _, _ => .error .outOfBounds

def matchesPartialData (data dataMask parsedData : List UInt8) : Except Fault Bool :=
  if parsedData = [] ∨ parsedData.length < data.length then .ok false
  else if dataMask = [] then
    .ok ((parsedData.zip data).all fun pair => caseInsCharCompareN pair.1 pair.2)
  else matchesMasked data dataMask parsedData

/-- The record behind its pointer. -/
def deref : Option ScanRecord → Except Fault ScanRecord
  | none => .error .nullDeref
  | some scanRecord => .ok scanRecord

/-- `getServiceData(uuid)` and `getManufacturerSpecificData(id)`: an entry that is missing is
reported and then taken from the end of the map. -/
def entryOf {κ : Type} [DecidableEq κ] (map : Table κ (List UInt8)) (key : κ) :
    Except Fault (List UInt8) :=
  match map.lookup key with
  | none => .error .outOfBounds
  | some data => .ok data

/-- The criteria on a record, in the order in which they are tested. -/
inductive Criterion
  | name
  | serviceUuid
  | solicitationUuid
  | serviceData
  | manufacturerData
  deriving DecidableEq

/-- The test of one criterion, which a criterion that is not set passes. -/
def test (m : Memory) (f : ScanFilter) (scanRecord : Option ScanRecord) :
    Criterion → Except Fault Bool
  | .name =>
      if f.mDeviceName = [] then .ok true
      else do
        let scanRecord ← deref scanRecord
        return caseInsCompare f.mDeviceName scanRecord.deviceName
  | .serviceUuid =>
      if f.mServiceUuid = .empty then .ok true
      else do
        let scanRecord ← deref scanRecord
        return matchesServiceUuids m f.mServiceUuid f.mServiceUuidMask scanRecord.serviceUuids
  | .solicitationUuid =>
      if f.mServiceSolicitationUuid = .empty then .ok true
      else do
        let scanRecord ← deref scanRecord
        return matchesServiceSolicitationUuids m f.mServiceSolicitationUuid
          f.mServiceSolicitationUuidMask scanRecord.serviceSolicitationUuids
  | .serviceData =>
      if f.mServiceDataUuid = .empty then .ok true
      else do
        let scanRecord ← deref scanRecord
        let parsedData ← entryOf scanRecord.serviceData f.mServiceDataUuid
        matchesPartialData f.mServiceData f.mServiceDataMask parsedData
  | .manufacturerData =>
      if f.mManufacturerId < 0 then .ok true
      else do
        let scanRecord ← deref scanRecord
        let parsedData ←
          entryOf scanRecord.manufacturerSpecificData f.mManufacturerId.toNat
        matchesPartialData f.mManufacturerData f.mManufacturerDataMask parsedData

def criteria : List Criterion :=
  [.name, .serviceUuid, .solicitationUuid, .serviceData, .manufacturerData]

/-- The filters on a record that are looked for where there is no record. -/
def FiltersRecord (f : ScanFilter) : Prop :=
  f.mDeviceName ≠ [] ∨ f.mServiceUuid ≠ .empty ∨ f.mManufacturerData ≠ [] ∨
    f.mServiceData ≠ [] ∨ f.mServiceSolicitationUuid ≠ .empty

instance (f : ScanFilter) : Decidable f.FiltersRecord :=
  inferInstanceAs (Decidable (f.mDeviceName ≠ [] ∨ f.mServiceUuid ≠ .empty ∨
    f.mManufacturerData ≠ [] ∨ f.mServiceData ≠ [] ∨ f.mServiceSolicitationUuid ≠ .empty))

/-- `matches`. -/
def matchesResult (m : Memory) (f : ScanFilter) (scanResult : Option ScanResult) :
    Except Fault Bool :=
  match scanResult with
  | none => .ok false
  | some scanResult =>
      if f.mDeviceAddress ≠ [] ∧
          (scanResult.header.address ≠ [] ∨
            sameAddress f.mDeviceAddress scanResult.header.address = false) then
        .ok false
      else if scanResult.scanRecord = none ∧ f.FiltersRecord then .ok false
      else criteria.allM (test m f scanResult.scanRecord)

end ScanFilter

end Gatt
