import BtPlatform.Gatt.ScanRecord
import BtPlatform.Gatt.Scan.Manager

/-!
# Delivery of scan results

A scan report goes to every regular client that asks for it. The event carries the
advertising data; the service copies it once, takes a shortened copy for the clients that
expect advertising data of fixed size, and hands both on from client to client.
-/

namespace Gatt.Scan

open Support

/-- A client in the regular queue, with what only the delivery of results reads. -/
structure ResultClient (F : Type) extends ScanClient F where
  uuids : List Uuid
  legacy : Bool
  deriving DecidableEq

/-- A report of the scanner, apart from the advertising data. -/
structure ReportHeader where
  eventType : Nat
  address : List Char
  primaryPhy : Int
  secondaryPhy : Int
  advertisingSid : Int
  txPower : Int
  rssi : Int
  periodicAdvInt : Int
  deriving DecidableEq

structure ScanResult where
  header : ReportHeader
  scanRecord : Option ScanRecord

def ET_LEGACY_MASK : Nat := 0x10

/-- `Uuid::kBase`. -/
def uuidBase : Uuid := ⟨[0, 0, 0, 0] ++ Uuid.baseTail, Uuid.length_zero_base⟩

/-- The inner loop of `parseUuids` with `n` UUIDs of sixteen bits to read. The text that is
made of each is not the text of a UUID, for which `Uuid::FromString` returns `kBase`. -/
def readUuids16 (advData : List UInt8) : Nat → Nat → List Uuid → Except Fault (List Uuid)
  | 0, _, uuids => .ok uuids
  | n + 1, offset, uuids =>
      if offset + 1 < advData.length then
        readUuids16 advData n (offset + 2) (uuids ++ [uuidBase])
      else .error .outOfBounds

/-- The outer loop of `parseUuids`; each turn takes two bytes at least. The bound
`advData.size() - 2` wraps for less than two bytes. -/
def parseUuidsFrom (advData : List UInt8) : Nat → Nat → List Uuid → Except Fault (List Uuid)
  | 0, _, _ => .error .fuel
  | fuel + 1, offset, uuids =>
      if advData.length < 2 ∨ offset < advData.length - 2 then
        match advData[offset]? with
        | none => .error .outOfBounds
        | some len =>
            if len = 0 then .ok uuids
            else
              match advData[offset + 1]? with
              | none => .error .outOfBounds
              | some type =>
                  if type = 0x02 ∨ type = 0x03 then
                    match readUuids16 advData (len.toNat / 2) (offset + 2) uuids with
                    | .error f => .error f
                    | .ok uuids =>
                        parseUuidsFrom advData fuel (offset + 2 + len.toNat / 2 * 2) uuids
                  else parseUuidsFrom advData fuel (offset + 2 + (len.toNat - 1)) uuids
      else .ok uuids

def parseUuids (advData : List UInt8) : Except Fault (List Uuid) :=
  if advData = [] then .ok [] else parseUuidsFrom advData (advData.length + 1) 0 []

variable {F : Type}

/-- What the delivery depends on beside the report: what a filter matches, and which
scanners have an application, whose callback is never `NULL`. -/
structure DeliveryEnv (F : Type) where
  filterMatches : F → ScanResult → Bool
  registered : Int → Bool

/-- The count of the client's UUIDs that are among the remote ones. -/
def uuidMatches (client : ResultClient F) (remoteUuids : List Uuid) : Bool :=
  client.uuids.isEmpty ||
    !decide ((client.uuids.filter fun search => remoteUuids.contains search).length <
      client.uuids.length)

def matchesFilters (env : DeliveryEnv F) (client : ResultClient F) (scanResult : ScanResult) :
    Bool :=
  client.filters.isEmpty || client.filters.any fun filter => env.filterMatches filter scanResult

/-- The filters and the callback type let the result through. -/
def wantsResult (env : DeliveryEnv F) (client : ResultClient F) (scanResult : ScanResult) : Bool :=
  matchesFilters env client scanResult &&
    client.settings.callbackType &&& CALLBACK_TYPE_ALL_MATCHES != 0

/-- The legacy setting of the client admits the type of the event. -/
def legacyAdmits (client : ResultClient F) (eventType : Nat) : Bool :=
  !client.legacy || eventType &&& ET_LEGACY_MASK != 0

/-- The loop over the clients, with the calls of `onScanResult` that it makes: a client
takes its bytes out of the buffer, and a client without an application ends the loop. -/
def deliverLoop (env : DeliveryEnv F) (header : ReportHeader) (remoteUuids : List Uuid) :
    List (ResultClient F) → List UInt8 → List UInt8 →
      Except Fault (List (ResultClient F × ScanResult))
  | [], _, _ => .ok []
  | client :: clients, legacyAdvData, advData =>
      if uuidMatches client remoteUuids then
        if env.registered client.scannerId then
          if legacyAdmits client header.eventType then
            let scanRecordData := if client.legacy then legacyAdvData else advData
            let legacyAdvData := if client.legacy then [] else legacyAdvData
            let advData := if client.legacy then advData else []
            match ScanRecord.parseFromBytes scanRecordData with
            | .error f => .error f
            | .ok scanRecord =>
                let rest := deliverLoop env header remoteUuids clients legacyAdvData advData
                if wantsResult env client ⟨header, scanRecord⟩ then
                  rest.map ((client, ⟨header, scanRecord⟩) :: ·)
                else rest
          else deliverLoop env header remoteUuids clients legacyAdvData advData
        else .ok []
      else deliverLoop env header remoteUuids clients legacyAdvData advData

/-- `GattLibService::onScanResult` for the clients in the order of the queue. -/
def onScanResult (env : DeliveryEnv F) (clients : List (ResultClient F)) (header : ReportHeader)
    (advData : List UInt8) : Except Fault (List (ResultClient F × ScanResult)) :=
  if advData = [] then .ok []
  else
    match parseUuids advData with
    | .error f => .error f
    | .ok remoteUuids =>
        deliverLoop env header remoteUuids clients (advData.take 62) advData

/-- `p_value`, which is made with as many zeros as the data has bytes before the data is
inserted at its beginning. -/
def eventData (advData : List UInt8) : List UInt8 :=
  advData ++ List.replicate advData.length 0

/-- `GattLibService::HandleBleScannerScanResultEvent`. -/
def handleScanResultEvent (env : DeliveryEnv F) (clients : List (ResultClient F))
    (header : ReportHeader) (advData : List UInt8) :
    Except Fault (List (ResultClient F × ScanResult)) :=
  onScanResult env clients header (eventData advData)

end Gatt.Scan
