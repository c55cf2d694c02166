import BtPlatform.Support.Table
import BtPlatform.Support.Undefined
import Mathlib.Data.Finset.Card

/-!
# The scan manager

`ScanManager` keeps the clients that scan, regular ones and batch ones. It gives out the
filter indices of the controller, switches scanning on and off, and sets the scan
parameters. The controller is modelled by what it was told last. What a batch client asks
of it beside its filters is left out.
-/

namespace Gatt.Scan

open Support

def SCAN_MODE_OPPORTUNISTIC : Int := -1
def SCAN_MODE_LOW_POWER : Int := 0
def SCAN_MODE_BALANCED : Int := 1
def SCAN_MODE_LOW_LATENCY : Int := 2

def CALLBACK_TYPE_ALL_MATCHES : Nat := 1
def CALLBACK_TYPE_FIRST_MATCH : Nat := 2
def CALLBACK_TYPE_MATCH_LOST : Nat := 4
def CALLBACK_TYPE_SENSOR_ROUTING : Nat := 8

def PHY_LE_1M : BitVec 32 := 1
def PHY_LE_CODED : BitVec 32 := 3

def isValidCallbackType (callbackType : Nat) : Bool :=
  callbackType = CALLBACK_TYPE_ALL_MATCHES ∨ callbackType = CALLBACK_TYPE_FIRST_MATCH ∨
    callbackType = CALLBACK_TYPE_MATCH_LOST ∨ callbackType = CALLBACK_TYPE_SENSOR_ROUTING ∨
    callbackType = CALLBACK_TYPE_FIRST_MATCH ||| CALLBACK_TYPE_MATCH_LOST

/-- `ScanSettings`, as far as the manager reads them. Their `Builder` throws for other
modes, callback types and delays. -/
structure ScanSettings where
  scanMode : Int
  callbackType : Nat
  reportDelayMillis : Int
  numOfMatches : Int
  phy : BitVec 32
  scanMode_valid : SCAN_MODE_OPPORTUNISTIC ≤ scanMode ∧ scanMode ≤ SCAN_MODE_LOW_LATENCY
  callbackType_valid : isValidCallbackType callbackType = true
  reportDelay_nonneg : 0 ≤ reportDelayMillis
  deriving DecidableEq

theorem lowPower_valid : SCAN_MODE_OPPORTUNISTIC ≤ SCAN_MODE_LOW_POWER ∧
    SCAN_MODE_LOW_POWER ≤ SCAN_MODE_LOW_LATENCY := by decide

theorem allMatches_valid : isValidCallbackType CALLBACK_TYPE_ALL_MATCHES = true := rfl

theorem noDelay_nonneg : (0 : Int) ≤ 0 := by decide

theorem batchDelay_nonneg : (0 : Int) ≤ 1000 := by decide

/-- `ScanClient`, with the address that makes it an element of the sets of clients. The
filters are only counted and handed on. -/
structure ScanClient (F : Type) where
  address : Nat
  scannerId : Int
  settings : ScanSettings
  filters : List F
  deriving DecidableEq

/-- What was sent with `gattSetScanParametersNative`. An element of the two arrays is `none`
if nothing was written to it. -/
structure ScanParameters where
  clientIf : Int
  scanPhy : BitVec 32
  scanInterval : Option Nat × Option Nat
  scanWindow : Option Nat × Option Nat
  deriving DecidableEq

/-- The controller: whether it scans, its last scan parameters, and the filter indices with
parameters. -/
structure Controller where
  scanning : Bool
  parameters : Option ScanParameters
  filters : Finset Nat

/-- `ScanManager` with its `ScanNative`, and the calls of `onScanManagerErrorCallback`. -/
structure ScanManager (F : Type) where
  mRegularScanClients : Finset (ScanClient F)
  mBatchClients : Finset (ScanClient F)
  mLastConfiguredScanSettingLE1M : Int
  mLastConfiguredScanSettingLECoded : Int
  mCurUsedTrackableAdvertisements : Int
  mFilterIndexStack : List Nat
  mClientFilterIndexMap : Table Int (List Nat)
  mAllPassRegularClients : Finset Int
  mAllPassBatchClients : Finset Int
  controller : Controller
  errors : List (Int × Int)

/-- What a call finds around it: the order in which a set of clients is iterated, whether
offloaded filtering is supported, whether `getGatt` still finds the service, and what the
service knows about the controller. -/
structure Env (F : Type) where
  order : Finset (ScanClient F) → List (ScanClient F)
  filteringSupported : Bool
  service : Bool
  maxFiltersSupported : Nat
  maxTotalTrackableAdvertisements : Int

def DELIVERY_MODE_IMMEDIATE : Nat := 0
def DELIVERY_MODE_ON_FOUND_LOST : Nat := 1
def DELIVERY_MODE_BATCH : Nat := 2
def DELIVERY_MODE_ROUTE : Nat := 8

def ALL_PASS_FILTER_INDEX_REGULAR_SCAN : Nat := 1
def ALL_PASS_FILTER_INDEX_BATCH_SCAN : Nat := 2

def SCAN_FAILED_INTERNAL_ERROR : Int := 3
def SCAN_FAILED_OUT_OF_HARDWARE_RESOURCES : Int := 5

section Clients

variable {F : Type} (client : ScanClient F)

def isOpportunisticScanClient : Bool := client.settings.scanMode = SCAN_MODE_OPPORTUNISTIC

def isFirstMatchScanClient : Bool :=
  client.settings.callbackType &&& CALLBACK_TYPE_FIRST_MATCH ≠ 0

def isRoutingScanClient : Bool := client.settings.callbackType = CALLBACK_TYPE_SENSOR_ROUTING

def isBatchClient : Bool :=
  client.settings.callbackType = CALLBACK_TYPE_ALL_MATCHES ∧ client.settings.reportDelayMillis ≠ 0

def getDeliveryMode : Nat :=
  if client.settings.callbackType &&& CALLBACK_TYPE_FIRST_MATCH ≠ 0 ∨
      client.settings.callbackType &&& CALLBACK_TYPE_MATCH_LOST ≠ 0 then
    DELIVERY_MODE_ON_FOUND_LOST
  else if isRoutingScanClient client then DELIVERY_MODE_ROUTE
  else if client.settings.reportDelayMillis = 0 then DELIVERY_MODE_IMMEDIATE
  else DELIVERY_MODE_BATCH

end Clients

def getScanWindowMillis (scanMode : Int) : Nat :=
  if scanMode = SCAN_MODE_LOW_LATENCY then 4096
  else if scanMode = SCAN_MODE_BALANCED then 1024
  else 512

def getScanIntervalMillis (scanMode : Int) : Nat :=
  if scanMode = SCAN_MODE_LOW_LATENCY then 4096
  else if scanMode = SCAN_MODE_BALANCED then 4096
  else 5120

def millsToUnit (milliseconds : Nat) : Nat := milliseconds * 1000 / 625

structure PhyInfo where
  scanPhy : BitVec 32
  scanModeLE1M : Int
  scanModeLECoded : Int
  deriving DecidableEq

section Lists

variable {F : Type}

def usesLE1M (client : ScanClient F) : Bool := client.settings.phy &&& PHY_LE_1M = PHY_LE_1M

def usesLECoded (client : ScanClient F) : Bool :=
  client.settings.phy &&& PHY_LE_CODED = PHY_LE_CODED

/-- One turn of the loop of `getPhyInfo`. -/
def PhyInfo.see (info : PhyInfo) (client : ScanClient F) : PhyInfo where
  scanPhy := info.scanPhy ||| client.settings.phy
  scanModeLE1M :=
    if usesLE1M client ∧ client.settings.scanMode > info.scanModeLE1M then client.settings.scanMode
    else info.scanModeLE1M
  scanModeLECoded :=
    if usesLECoded client ∧ client.settings.scanMode > info.scanModeLECoded then
      client.settings.scanMode
    else info.scanModeLECoded

/-- `getPhyInfo`: the most aggressive scan mode for each PHY. -/
def getPhyInfo (cList : List (ScanClient F)) : PhyInfo :=
  cList.foldl PhyInfo.see ⟨PHY_LE_1M, INT_MIN, INT_MIN⟩

/-- `getAggressiveClient`: the first client with the highest mode. -/
def getAggressiveClient (cList : List (ScanClient F)) : Option (ScanClient F) :=
  (cList.foldl
    (fun result client =>
      if client.settings.scanMode > result.2 then (some client, client.settings.scanMode)
      else result)
    (none, INT_MIN)).1

end Lists

/-- The two elements of an array after modes were written to it from the start. -/
def slots (millis : Int → Nat) (modes : List Int) : Option Nat × Option Nat :=
  (modes[0]?.map fun mode => millsToUnit (millis mode),
    modes[1]?.map fun mode => millsToUnit (millis mode))

/-- A start or a stop, with what the call finds around it. -/
inductive Event (F : Type) where
  | start (env : Env F) (client : ScanClient F)
  | stop (env : Env F) (scannerId : Int)

namespace ScanManager

variable {F : Type}

def initial : ScanManager F where
  mRegularScanClients := ∅
  mBatchClients := ∅
  mLastConfiguredScanSettingLE1M := INT_MIN
  mLastConfiguredScanSettingLECoded := INT_MIN
  mCurUsedTrackableAdvertisements := 0
  mFilterIndexStack := []
  mClientFilterIndexMap := ∅
  mAllPassRegularClients := ∅
  mAllPassBatchClients := ∅
  controller := ⟨false, none, ∅⟩
  errors := []

/-- `gattClientScanNative`. -/
def scanNative (start : Bool) (s : ScanManager F) : ScanManager F :=
  { s with controller := { s.controller with scanning := start } }

/-- `gattClientScanFilterParamAddNative`. -/
def filterParamAdd (filterIndex : Nat) (s : ScanManager F) : ScanManager F :=
  { s with controller :=
      { s.controller with filters := insert filterIndex s.controller.filters } }

/-- `gattClientScanFilterParamDeleteNative`. -/
def filterParamDelete (filterIndex : Nat) (s : ScanManager F) : ScanManager F :=
  { s with controller := { s.controller with filters := s.controller.filters.erase filterIndex } }

/-- `onScanManagerErrorCallback`. -/
def errorCallback (scannerId errorCode : Int) (s : ScanManager F) : ScanManager F :=
  { s with errors := s.errors ++ [(scannerId, errorCode)] }

/-- `configureRegularScanParams`. The scan mode of a PHY without a client that asks for a
scan is remembered before the other PHY is looked at. -/
def configureRegularScanParams (env : Env F) (s : ScanManager F) :
    Except Undefined (ScanManager F) :=
  let cList := env.order s.mRegularScanClients
  let info := getPhyInfo cList
  let curScanSettingLE1M := info.scanModeLE1M
  let curScanSettingLECoded := info.scanModeLECoded
  let asksLE1M := curScanSettingLE1M ≠ INT_MIN ∧ curScanSettingLE1M ≠ SCAN_MODE_OPPORTUNISTIC
  let changedLE1M := asksLE1M ∧
    (curScanSettingLE1M ≠ s.mLastConfiguredScanSettingLE1M ∨
      curScanSettingLECoded ≠ s.mLastConfiguredScanSettingLECoded)
  let s := if asksLE1M then s else { s with mLastConfiguredScanSettingLE1M := curScanSettingLE1M }
  let asksLECoded :=
    curScanSettingLECoded ≠ INT_MIN ∧ curScanSettingLECoded ≠ SCAN_MODE_OPPORTUNISTIC
  let changedLECoded := asksLECoded ∧
    (curScanSettingLECoded ≠ s.mLastConfiguredScanSettingLECoded ∨
      curScanSettingLE1M ≠ s.mLastConfiguredScanSettingLE1M)
  let s := if asksLECoded then s
    else { s with mLastConfiguredScanSettingLECoded := curScanSettingLECoded }
  if changedLE1M ∨ changedLECoded then
    match getAggressiveClient cList with
    | none => .error .nullPointer
    | some client =>
        let modes := (if changedLE1M then [curScanSettingLE1M] else []) ++
          (if changedLECoded then [curScanSettingLECoded] else [])
        let parameters : ScanParameters :=
          { clientIf := client.scannerId
            scanPhy := info.scanPhy
            scanInterval := slots getScanIntervalMillis modes
            scanWindow := slots getScanWindowMillis modes }
        .ok { s with
          controller := { s.controller with scanning := true, parameters := some parameters }
          mLastConfiguredScanSettingLE1M := curScanSettingLE1M
          mLastConfiguredScanSettingLECoded := curScanSettingLECoded }
  else .ok s

def initFilterIndexStack (env : Env F) (s : ScanManager F) : ScanManager F :=
  if env.service then
    { s with mFilterIndexStack :=
        s.mFilterIndexStack ++ List.range' 3 (env.maxFiltersSupported - 3) }
  else s

def shouldUseAllPassFilter (client : ScanClient F) (s : ScanManager F) : Bool :=
  if isRoutingScanClient client then false
  else if client.filters = [] then true
  else client.filters.length > s.mFilterIndexStack.length

def isExemptFromScanDowngrade (client : ScanClient F) (s : ScanManager F) : Bool :=
  isOpportunisticScanClient client ∨ isFirstMatchScanClient client ∨
    ¬ s.shouldUseAllPassFilter client ∨ isRoutingScanClient client

def shouldAddAllPassFilterToController (client : ScanClient F) (deliveryMode : Nat)
    (s : ScanManager F) : ScanManager F × Bool :=
  if ¬ s.shouldUseAllPassFilter client then (s, true)
  else if deliveryMode = DELIVERY_MODE_BATCH then
    let clients := insert client.scannerId s.mAllPassBatchClients
    ({ s with mAllPassBatchClients := clients }, clients.card = 1)
  else
    let clients := insert client.scannerId s.mAllPassRegularClients
    ({ s with mAllPassRegularClients := clients }, clients.card = 1)

def getNumOfTrackingAdvertisements (env : Env F) (settings : ScanSettings) : Int :=
  if ¬ env.service then 0
  else if settings.numOfMatches = 1 then 1
  else if settings.numOfMatches = 2 then 2
  else if settings.numOfMatches = 3 then env.maxTotalTrackableAdvertisements.tdiv 2
  else 1

def manageAllocationOfTrackingAdvertisement (env : Env F) (numOfTrackableAdvertisement : Int)
    (allocate : Bool) (s : ScanManager F) : ScanManager F × Bool :=
  if ¬ env.service then (s, false)
  else if allocate then
    if env.maxTotalTrackableAdvertisements - s.mCurUsedTrackableAdvertisements ≥
        numOfTrackableAdvertisement then
      ({ s with mCurUsedTrackableAdvertisements :=
          s.mCurUsedTrackableAdvertisements + numOfTrackableAdvertisement }, true)
    else (s, false)
  else if numOfTrackableAdvertisement > s.mCurUsedTrackableAdvertisements then (s, false)
  else
    ({ s with mCurUsedTrackableAdvertisements :=
        s.mCurUsedTrackableAdvertisements - numOfTrackableAdvertisement }, true)

/-- The tracking entries for a filter of an on-found/on-lost client; `false` where the
function returns because the service is gone. -/
def allocateTracking (env : Env F) (client : ScanClient F) (s : ScanManager F) :
    ScanManager F × Bool :=
  let trackEntries := getNumOfTrackingAdvertisements env client.settings
  match s.manageAllocationOfTrackingAdvertisement env trackEntries true with
  | (s, true) => (s, true)
  | (s, false) =>
      if env.service then (s.errorCallback client.scannerId SCAN_FAILED_INTERNAL_ERROR, true)
      else (s, false)

/-- The loop of `configureScanFilters` over the filters of a client, which takes an index
for each of them; no list where the function returns in the middle. -/
def offloadFilters (env : Env F) (client : ScanClient F) (deliveryMode : Nat) :
    List F → List Nat → ScanManager F → Except Undefined (ScanManager F × Option (List Nat))
  | [], clientFilterIndices, s => .ok (s, some clientFilterIndices)
  | _ :: filters, clientFilterIndices, s =>
      match s.mFilterIndexStack with
      | [] => .error .emptyContainer
      | filterIndex :: rest =>
          let s := { s with mFilterIndexStack := rest }
          let (s, goesOn) :=
            if deliveryMode = DELIVERY_MODE_ON_FOUND_LOST then s.allocateTracking env client
            else (s, true)
          if goesOn then
            offloadFilters env client deliveryMode filters (clientFilterIndices ++ [filterIndex])
              (s.filterParamAdd filterIndex)
          else .ok (s, none)

/-- `configureScanFilters`: the all-pass filter if no offload filter can or needs to be set,
otherwise one filter index for each filter. -/
def configureScanFilters (env : Env F) (client : ScanClient F) (s : ScanManager F) :
    Except Undefined (ScanManager F) :=
  let deliveryMode := getDeliveryMode client
  if isOpportunisticScanClient client then .ok s
  else
    let (s, add) := s.shouldAddAllPassFilterToController client deliveryMode
    if ¬ add then .ok s
    else if s.shouldUseAllPassFilter client then
      .ok (s.filterParamAdd
        (if deliveryMode = DELIVERY_MODE_BATCH then ALL_PASS_FILTER_INDEX_BATCH_SCAN
          else ALL_PASS_FILTER_INDEX_REGULAR_SCAN))
    else do
      let (s, clientFilterIndices) ← s.offloadFilters env client deliveryMode client.filters []
      match clientFilterIndices with
      | some clientFilterIndices =>
          return { s with mClientFilterIndexMap :=
            s.mClientFilterIndexMap.emplace client.scannerId clientFilterIndices }
      | none => return s

def numRegularScanClients (s : ScanManager F) : Nat :=
  (s.mRegularScanClients.filter fun client =>
    client.settings.scanMode ≠ SCAN_MODE_OPPORTUNISTIC).card

def startRegularScan (env : Env F) (client : ScanClient F) (s : ScanManager F) :
    Except Undefined (ScanManager F × Bool) :=
  let s := if env.filteringSupported ∧ s.mFilterIndexStack = [] ∧
      s.mClientFilterIndexMap.entries = [] then s.initFilterIndexStack env else s
  if isRoutingScanClient client ∧ client.filters.length > s.mFilterIndexStack.length then
    if env.service then
      .ok (s.errorCallback client.scannerId SCAN_FAILED_OUT_OF_HARDWARE_RESOURCES, false)
    else .ok (s, false)
  else do
    let s ← if env.filteringSupported then s.configureScanFilters env client else .ok s
    -- "Start scan native only for the first client."
    return (if s.numRegularScanClients = 1 then s.scanNative true else s, true)

/-- `startBatchScan`, without the storage and the timing of the batch. -/
def startBatchScan (env : Env F) (client : ScanClient F) (s : ScanManager F) :
    Except Undefined (ScanManager F) :=
  let s := if s.mFilterIndexStack = [] ∧ env.filteringSupported then s.initFilterIndexStack env
    else s
  s.configureScanFilters env client

def regularScanTimeout (env : Env F) (s : ScanManager F) : Except Undefined (ScanManager F) := do
  let s ← s.configureRegularScanParams env
  return if s.numRegularScanClients = 0 then s.scanNative false else s

def isScanSupported (env : Env F) (client : ScanClient F) : Bool :=
  env.filteringSupported ∨
    (client.settings.callbackType = CALLBACK_TYPE_ALL_MATCHES ∧
      client.settings.reportDelayMillis = 0)

section Start

variable [DecidableEq F]

/-- The regular client of `handleStartScan`. -/
def startRegularClient (env : Env F) (client : ScanClient F) (s : ScanManager F) :
    Except Undefined (ScanManager F) := do
  let s := { s with mRegularScanClients := insert client s.mRegularScanClients }
  let (s, ret) ← s.startRegularScan env client
  if ret = false then
    return { s with mRegularScanClients := s.mRegularScanClients.erase client }
  else if isOpportunisticScanClient client then return s
  else
    let s ← s.configureRegularScanParams env
    if s.isExemptFromScanDowngrade client then return s else s.regularScanTimeout env

def handleStartScan (env : Env F) (client : ScanClient F) (s : ScanManager F) :
    Except Undefined (ScanManager F) :=
  if ¬ isScanSupported env client then .ok s
  else if client ∈ s.mRegularScanClients ∨ client ∈ s.mBatchClients then .ok s
  else if isBatchClient client then
    startBatchScan env client { s with mBatchClients := insert client s.mBatchClients }
  else s.startRegularClient env client

/-- `removeFilterIfExisits`. The set is passed by value, so that the scanner stays in the
set of the manager. -/
def removeFilterIfExisits (clients : Finset Int) (scannerId : Int) (filterIndex : Nat)
    (s : ScanManager F) : ScanManager F :=
  if scannerId ∉ clients then s
  else if clients.erase scannerId = ∅ then s.filterParamDelete filterIndex
  else s

/-- The filter indices of a scanner go back to the stack. -/
def recycleIndices (scannerId : Int) (s : ScanManager F) : ScanManager F :=
  match s.mClientFilterIndexMap.lookup scannerId with
  | none => s
  | some filterIndices =>
      filterIndices.foldl (fun s filterIndex => s.filterParamDelete filterIndex)
        { s with mFilterIndexStack := s.mFilterIndexStack ++ filterIndices }

def removeScanFilters (scannerId : Int) (s : ScanManager F) : ScanManager F :=
  let s := s.recycleIndices scannerId
  let s := s.removeFilterIfExisits s.mAllPassRegularClients scannerId
    ALL_PASS_FILTER_INDEX_REGULAR_SCAN
  let s := s.removeFilterIfExisits s.mAllPassBatchClients scannerId
    ALL_PASS_FILTER_INDEX_BATCH_SCAN
  { s with mClientFilterIndexMap := s.mClientFilterIndexMap.erase scannerId }

/-- The tracking entries of the filters of a client are given back; `false` where the
function returns because the service is gone. -/
def freeTracking (env : Env F) (client : ScanClient F) :
    List F → ScanManager F → ScanManager F × Bool
  | [], s => (s, true)
  | _ :: filters, s =>
      let entriesToFree := getNumOfTrackingAdvertisements env client.settings
      match s.manageAllocationOfTrackingAdvertisement env entriesToFree false with
      | (s, true) => freeTracking env client filters s
      | (s, false) =>
          if env.service then
            freeTracking env client filters
              (s.errorCallback client.scannerId SCAN_FAILED_INTERNAL_ERROR)
          else (s, false)

def stopRegularScan (env : Env F) (client : ScanClient F) (s : ScanManager F) : ScanManager F :=
  let (s, goesOn) :=
    if getDeliveryMode client = DELIVERY_MODE_ON_FOUND_LOST then
      freeTracking env client client.filters s
    else (s, true)
  if goesOn = false then s
  else
    let s := { s with mRegularScanClients := s.mRegularScanClients.erase client }
    let s := if s.numRegularScanClients = 0 then s.scanNative false else s
    s.removeScanFilters client.scannerId

/-- `stopBatchScan`, without the storage and the timing of the batch. -/
def stopBatchScan (client : ScanClient F) (s : ScanManager F) : ScanManager F :=
  removeScanFilters client.scannerId { s with mBatchClients := s.mBatchClients.erase client }

def getRegularScanClient (env : Env F) (scannerId : Int) (s : ScanManager F) :
    Option (ScanClient F) :=
  (env.order s.mRegularScanClients).find? fun client => client.scannerId = scannerId

def getBatchScanClient (env : Env F) (scannerId : Int) (s : ScanManager F) :
    Option (ScanClient F) :=
  (env.order s.mBatchClients).find? fun client => client.scannerId = scannerId

/-- The client that a stop is for. -/
def findClient (env : Env F) (scannerId : Int) (s : ScanManager F) : Option (ScanClient F) :=
  (s.getRegularScanClient env scannerId).or (s.getBatchScanClient env scannerId)

def handleStopScan (env : Env F) (scannerId : Int) (s : ScanManager F) :
    Except Undefined (ScanManager F) :=
  match s.findClient env scannerId with
  | none => .ok s
  | some client =>
      if client ∈ s.mRegularScanClients then
        let s := s.stopRegularScan env client
        if isOpportunisticScanClient client then .ok s else s.configureRegularScanParams env
      else if client ∈ s.mBatchClients then .ok (s.stopBatchScan client)
      else .ok s

/-- The messages to the manager. -/
def handle (s : ScanManager F) : Event F → Except Undefined (ScanManager F)
  | .start env client => s.handleStartScan env client
  | .stop env scannerId => s.handleStopScan env scannerId

end Start

end ScanManager

end Gatt.Scan
