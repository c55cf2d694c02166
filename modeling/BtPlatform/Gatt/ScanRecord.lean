import BtPlatform.Format.Elements
import BtPlatform.Gatt.Uuid
import BtPlatform.Support.Table

/-!
# Scan records

The scanner's parser of advertising data. A vector with a negative length throws, which
the parser catches and answers with an empty record; an index past the end of the
record is a fault.
-/

namespace Gatt

open Support Format

/-- `ScanRecord`. -/
structure ScanRecord where
  serviceUuids : List Uuid
  serviceSolicitationUuids : List Uuid
  manufacturerSpecificData : Table Nat (List UInt8)
  serviceData : Table Uuid (List UInt8)
  advertiseFlags : Int
  txPowerLevel : Int
  deviceName : List UInt8
  bytes : List UInt8

namespace ScanRecord

def INT_MIN : Int := -2147483648

/-- The record without any field. -/
def start (bytes : List UInt8) : ScanRecord :=
  { serviceUuids := [], serviceSolicitationUuids := [], manufacturerSpecificData := ∅,
    serviceData := ∅, advertiseFlags := -1, txPowerLevel := INT_MIN, deviceName := [],
    bytes := bytes }

/-- Why the parser leaves a record. -/
inductive Failure where
  | thrown
  | fault (f : Fault)
  deriving DecidableEq, Repr

/-- `scanRecord[pos]`. -/
def byteAt (scanRecord : List UInt8) (pos : Nat) : Except Failure UInt8 :=
  match scanRecord[pos]? with
  | some b => .ok b
  | none => .error (.fault .outOfBounds)

/-- `extractBytes`: zeros, unless the bytes end before the end of the record. -/
def extractBytes (scanRecord : List UInt8) (start : Nat) (length : Int) :
    Except Failure (List UInt8) :=
  if length < 0 then .error .thrown
  else if length > 0 ∧ length + start < scanRecord.length then
    .ok ((scanRecord.drop start).take length.toNat)
  else .ok (List.replicate length.toNat 0)

/-- `uuidFromByte`. -/
def uuidOf (uuidBytes : List UInt8) : Except Failure Uuid :=
  match Uuid.uuidFromByte uuidBytes with
  | .ok u => .ok u
  | .error f => .error (.fault f)

/-- `parseServiceUuid` and `parseServiceSolicitationUuid`. Each turn of the loop takes at
least a byte from `dataLength`, which is fuel enough. -/
def parseServiceUuid (scanRecord : List UInt8) (uuidLength : Nat) :
    Nat → Nat → Nat → List Uuid → Except Failure (List Uuid)
  | 0, _, _, serviceUuids => .ok serviceUuids
  | fuel + 1, currentPos, dataLength, serviceUuids =>
      if dataLength > 0 ∧ uuidLength > 0 then do
        let uuidBytes ← extractBytes scanRecord currentPos uuidLength
        if uuidBytes.length = 0 then .ok serviceUuids
        else
          let u ← uuidOf uuidBytes
          parseServiceUuid scanRecord uuidLength fuel (currentPos + uuidLength)
            (dataLength - uuidLength) (serviceUuids ++ [u])
      else .ok serviceUuids

/-- A structure with service UUIDs. -/
def parseUuidField (scanRecord : List UInt8) (uuidLength currentPos dataLength : Nat)
    (s : ScanRecord) : Except Failure ScanRecord := do
  let serviceUuids ←
    parseServiceUuid scanRecord uuidLength dataLength currentPos dataLength s.serviceUuids
  return { s with serviceUuids }

/-- A structure with solicited UUIDs. -/
def parseSolicitationField (scanRecord : List UInt8) (uuidLength currentPos dataLength : Nat)
    (s : ScanRecord) : Except Failure ScanRecord := do
  let serviceSolicitationUuids ←
    parseServiceUuid scanRecord uuidLength dataLength currentPos dataLength
      s.serviceSolicitationUuids
  return { s with serviceSolicitationUuids }

/-- A structure with service data. -/
def parseServiceDataField (scanRecord : List UInt8) (serviceUuidLength currentPos : Nat)
    (dataLength : Nat) (s : ScanRecord) : Except Failure ScanRecord := do
  let serviceDataUuidBytes ← extractBytes scanRecord currentPos serviceUuidLength
  if serviceDataUuidBytes = [] then return s
  else
    let serviceDataUuid ← uuidOf serviceDataUuidBytes
    let serviceDataBytes ← extractBytes scanRecord (currentPos + serviceUuidLength)
      ((dataLength : Int) - serviceUuidLength)
    return { s with serviceData := s.serviceData.emplace serviceDataUuid serviceDataBytes }

/-- A structure with manufacturer data; data without a byte is not kept. -/
def parseManufacturerField (scanRecord : List UInt8) (currentPos dataLength : Nat)
    (s : ScanRecord) : Except Failure ScanRecord := do
  let high ← byteAt scanRecord (currentPos + 1)
  let low ← byteAt scanRecord currentPos
  let manufacturerDataBytes ← extractBytes scanRecord (currentPos + 2) ((dataLength : Int) - 2)
  if manufacturerDataBytes = [] then return s
  else
    return { s with
      manufacturerSpecificData :=
        s.manufacturerSpecificData.emplace (high.toNat * 256 + low.toNat) manufacturerDataBytes }

/-- One structure of the record. -/
def parseField (scanRecord : List UInt8) (fieldType : UInt8) (currentPos dataLength : Nat)
    (s : ScanRecord) : Except Failure ScanRecord :=
  match fieldType.toNat with
  | 0x01 => do return { s with advertiseFlags := (← byteAt scanRecord currentPos).toNat }
  | 0x02 | 0x03 => parseUuidField scanRecord 2 currentPos dataLength s
  | 0x04 | 0x05 => parseUuidField scanRecord 4 currentPos dataLength s
  | 0x06 | 0x07 => parseUuidField scanRecord 16 currentPos dataLength s
  | 0x14 => parseSolicitationField scanRecord 2 currentPos dataLength s
  | 0x1F => parseSolicitationField scanRecord 4 currentPos dataLength s
  | 0x15 => parseSolicitationField scanRecord 16 currentPos dataLength s
  | 0x08 | 0x09 => do
      return { s with deviceName := (← extractBytes scanRecord currentPos dataLength) }
  | 0x0A => do return { s with txPowerLevel := (← byteAt scanRecord currentPos).toNat }
  | 0x16 => parseServiceDataField scanRecord 2 currentPos dataLength s
  | 0x20 => parseServiceDataField scanRecord 4 currentPos dataLength s
  | 0x21 => parseServiceDataField scanRecord 16 currentPos dataLength s
  | 0xFF => parseManufacturerField scanRecord currentPos dataLength s
  | _ => .ok s

/-- `parseFromBytes`: nothing for no bytes, the empty record where the parser threw. The
loop over the structures takes at least a byte in each turn. -/
def parseFromBytes (scanRecord : List UInt8) : Except Fault (Option ScanRecord) :=
  if scanRecord = [] then .ok none
  else
    match readElements (.fault .outOfBounds) (.fault .fuel) (parseField scanRecord)
        scanRecord (scanRecord.length + 1) 0 (start scanRecord) with
    | .ok s => .ok (some s)
    | .error .thrown => .ok (some (start scanRecord))
    | .error (.fault f) => .error f

end ScanRecord

end Gatt
