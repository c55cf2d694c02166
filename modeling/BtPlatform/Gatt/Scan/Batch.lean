import BtPlatform.Gatt.Scan.Manager

/-!
# Batch scans

What the batch clients ask of the controller beside their filters: the storage and the
timing of one batch scan for all of them, and the reports that are read from it. The model
stands over `ScanManager`, which keeps the sets of clients. Waiting for the callback of a
command changes nothing here: its outcome is not looked at.
-/

namespace Gatt.Scan

open Support

/-- `ScanSettings::SCAN_RESULT_TYPE_FULL` and `SCAN_RESULT_TYPE_ABBREVIATED`; the `Builder`
throws for anything else. -/
inductive ScanResultType where
  | full
  | abbreviated
  deriving DecidableEq, Repr

def SCAN_RESULT_TYPE_TRUNCATED : Int := 1
def SCAN_RESULT_TYPE_FULL : Int := 2
def SCAN_RESULT_TYPE_BOTH : Int := 3

def DISCARD_OLDEST_WHEN_BUFFER_FULL : Nat := 0

def LONG_MAX : Int := 9223372036854775807

structure BatchScanParams where
  scanMode : Int
  fullScanscannerId : Int
  truncatedScanscannerId : Int
  deriving DecidableEq, Repr

/-- The constructor of `BatchScanParams`. -/
def BatchScanParams.new : BatchScanParams := ⟨-1, -1, -1⟩

/-- A `BatchScanParams *`. `wild` is what the memory of a pointer held that nothing was
written to, if that is not a null pointer. -/
inductive ParamsPointer where
  | null
  | wild
  | object (address : Nat) (params : BatchScanParams)
  deriving DecidableEq

namespace ParamsPointer

/-- `!=` between two pointers looks at the addresses only. -/
def ne : ParamsPointer → ParamsPointer → Bool
  | null, null => false
  | wild, wild => false
  | object address _, object address' _ => address ≠ address'
  | _, _ => true

/-- The parameters that are pointed to. -/
def params? : ParamsPointer → Option BatchScanParams
  | object _ params => some params
  | _ => none

end ParamsPointer

/-- A command to the controller. -/
inductive BatchCommand where
  /-- `gattClientStopBatchScanNative` -/
  | stop (clientIf : Int)
  /-- `gattClientConfigBatchScanStorageNative` -/
  | configStorage (clientIf : Int) (maxFullReportsPercent maxTruncatedReportsPercent
      notifyThresholdPercent : Nat)
  /-- `gattClientStartBatchScanNative` -/
  | start (clientIf : Int) (scanMode : Int) (scanInterval scanWindow addressType discardRule : Nat)
  /-- `gattClientReadScanReportsNative` -/
  | readReports (clientIf : Int) (scanType : Int)
  deriving DecidableEq, Repr

def getResultType (params : BatchScanParams) : Int :=
  if params.fullScanscannerId ≠ -1 ∧ params.truncatedScanscannerId ≠ -1 then SCAN_RESULT_TYPE_BOTH
  else if params.truncatedScanscannerId ≠ -1 then SCAN_RESULT_TYPE_TRUNCATED
  else if params.fullScanscannerId ≠ -1 then SCAN_RESULT_TYPE_FULL
  else -1

def getFullScanStoragePercent (resultType : Int) : Nat :=
  if resultType = SCAN_RESULT_TYPE_FULL then 100
  else if resultType = SCAN_RESULT_TYPE_TRUNCATED then 0
  else 50

def getBatchScanWindowMillis (_scanMode : Int) : Nat := 1500

def getBatchScanIntervalMillis (scanMode : Int) : Nat :=
  if scanMode = SCAN_MODE_LOW_LATENCY then 5000
  else if scanMode = SCAN_MODE_BALANCED then 15000
  else 150000

section Params

variable {F : Type} (scanResultType : ScanClient F → ScanResultType)

/-- One turn of the loop of `getBatchScanParams`. -/
def BatchScanParams.see (params : BatchScanParams) (client : ScanClient F) : BatchScanParams :=
  let params := { params with scanMode := max params.scanMode client.settings.scanMode }
  if scanResultType client = .full then { params with fullScanscannerId := client.scannerId }
  else { params with truncatedScanscannerId := client.scannerId }

/-- The object that `getBatchScanParams` makes for the batch clients, if there are any. -/
def batchScanParams (env : Env F) (mBatchClients : Finset (ScanClient F)) :
    Option BatchScanParams :=
  if mBatchClients.card = 0 then none
  else some ((env.order mBatchClients).foldl (BatchScanParams.see scanResultType)
    BatchScanParams.new)

end Params

/-- One turn of the loop of `getBatchTriggerIntervalMillis`. -/
def nearerTrigger {F : Type} (intervalMillis : Int) (client : ScanClient F) : Int :=
  if client.settings.reportDelayMillis > 0 then
    min intervalMillis client.settings.reportDelayMillis
  else intervalMillis

/-- `ScanManager` with its batch scan: the parameters of the last configuration, how many
`BatchScanParams` were made (none is ever deleted), the timer with its delay, and the
commands to the controller so far. -/
structure BatchScan (F : Type) where
  manager : ScanManager F
  mBatchScanParms : ParamsPointer
  allocated : Nat
  batch_scan_timer : Option Int
  commands : List BatchCommand

/-- What happens to the batch scan. A flush is for a client object: one of those in the
sets, or a new one that `flushPendingBatchResults` makes for a scanner. -/
inductive BatchEvent (F : Type) where
  | start (env : Env F) (client : ScanClient F)
  | stop (env : Env F) (scannerId : Int)
  | flush (env : Env F) (address : Nat)
  | timeout (env : Env F)

namespace BatchScan

variable {F : Type}

/-- The constructor writes nothing to `mBatchScanParms`: it is what the memory held. -/
def initial (zeroed : Bool) : BatchScan F where
  manager := ScanManager.initial
  mBatchScanParms := if zeroed then .null else .wild
  allocated := 0
  batch_scan_timer := none
  commands := []

def issue (commands : List BatchCommand) (s : BatchScan F) : BatchScan F :=
  { s with commands := s.commands ++ commands }

/-- `setBatchAlarm`, with the interval of `getBatchTriggerIntervalMillis`. -/
def setBatchAlarm (env : Env F) (s : BatchScan F) : BatchScan F :=
  { s with batch_scan_timer :=
      if s.manager.mBatchClients.card = 0 then none
      else some ((env.order s.manager.mBatchClients).foldl nearerTrigger LONG_MAX) }

/-- The reads of `flushBatchResults`. -/
def reads (params : BatchScanParams) : List BatchCommand :=
  (if params.fullScanscannerId ≠ -1 then
    [.readReports params.fullScanscannerId SCAN_RESULT_TYPE_FULL] else []) ++
  (if params.truncatedScanscannerId ≠ -1 then
    [.readReports params.truncatedScanscannerId SCAN_RESULT_TYPE_TRUNCATED] else [])

/-- `flushBatchResults`, which looks into the parameters without a check of the pointer. -/
def flushBatchResults (env : Env F) (s : BatchScan F) : Except Undefined (BatchScan F) :=
  match s.mBatchScanParms with
  | .null => .error .nullPointer
  | .wild => .error .uninitialized
  | .object _ params => .ok ((s.issue (reads params)).setBatchAlarm env)

/-- The storage and the start of a batch scan, for the client that is reset. -/
def startCommands (scannerId : Int) (params : BatchScanParams) : List BatchCommand :=
  let resultType := getResultType params
  let fullScanPercent := getFullScanStoragePercent resultType
  [.configStorage scannerId fullScanPercent (100 - fullScanPercent) 95,
    .start scannerId resultType (millsToUnit (getBatchScanIntervalMillis params.scanMode))
      (millsToUnit (getBatchScanWindowMillis params.scanMode)) 0 DISCARD_OLDEST_WHEN_BUFFER_FULL]

/-- The first half of `resetBatchScan`: the batch scan stops, and pending results are read. -/
def stopForReset (env : Env F) (scannerId : Int) (pointer : ParamsPointer) (s : BatchScan F) :
    Except Undefined (BatchScan F) :=
  if s.mBatchScanParms.ne .null ∧ s.mBatchScanParms.ne pointer then
    (s.issue [.stop scannerId]).flushBatchResults env
  else .ok s

/-- The second half of `resetBatchScan`: the batch scan starts. -/
def startForReset (scannerId : Int) (pointer : ParamsPointer) (s : BatchScan F) : BatchScan F :=
  match pointer with
  | .object _ params =>
      if pointer.ne s.mBatchScanParms then s.issue (startCommands scannerId params) else s
  | _ => s

section Result

variable (scanResultType : ScanClient F → ScanResultType)

/-- `getBatchScanParams`, which makes a new object. -/
def getBatchScanParams (env : Env F) (s : BatchScan F) : ParamsPointer × BatchScan F :=
  match batchScanParams scanResultType env s.manager.mBatchClients with
  | none => (.null, s)
  | some params => (.object s.allocated params, { s with allocated := s.allocated + 1 })

def resetBatchScan (env : Env F) (client : ScanClient F) (s : BatchScan F) :
    Except Undefined (BatchScan F) := do
  let (pointer, s) := s.getBatchScanParams scanResultType env
  let s ← s.stopForReset env client.scannerId pointer
  let s := s.startForReset client.scannerId pointer
  return ({ s with mBatchScanParms := pointer } : BatchScan F).setBatchAlarm env

variable [DecidableEq F]

/-- The client is a batch client that `handleStartScan` does not refuse. -/
def startsBatch (env : Env F) (client : ScanClient F) (s : BatchScan F) : Bool :=
  ScanManager.isScanSupported env client ∧ client ∉ s.manager.mRegularScanClients ∧
    client ∉ s.manager.mBatchClients ∧ isBatchClient client

/-- `handleStartScan`. The filters come first, then the reset for a batch client. -/
def handleStartScan (env : Env F) (client : ScanClient F) (s : BatchScan F) :
    Except Undefined (BatchScan F) := do
  let manager ← s.manager.handleStartScan env client
  if s.startsBatch env client ∧ ¬ isOpportunisticScanClient client then
    resetBatchScan scanResultType env client { s with manager := manager }
  else return { s with manager := manager }

/-- The batch client that a stop is for. -/
def stopsBatch (env : Env F) (scannerId : Int) (s : BatchScan F) : Option (ScanClient F) :=
  match s.manager.findClient env scannerId with
  | none => none
  | some client =>
      if client ∉ s.manager.mRegularScanClients ∧ client ∈ s.manager.mBatchClients then some client
      else none

/-- `handleStopScan`. The filters come first, then the reset for a batch client. -/
def handleStopScan (env : Env F) (scannerId : Int) (s : BatchScan F) :
    Except Undefined (BatchScan F) := do
  let manager ← s.manager.handleStopScan env scannerId
  match s.stopsBatch env scannerId with
  | some client =>
      if isOpportunisticScanClient client then return { s with manager := manager }
      else resetBatchScan scanResultType env client { s with manager := manager }
  | none => return { s with manager := manager }

/-- The object is a client in the set of batch clients. -/
def isBatchMember (address : Nat) (s : BatchScan F) : Bool :=
  ∃ client ∈ s.manager.mBatchClients, client.address = address

def handleFlushBatchResults (env : Env F) (address : Nat) (s : BatchScan F) :
    Except Undefined (BatchScan F) :=
  if s.isBatchMember address then s.flushBatchResults env else .ok s

/-- `HandleBleBatchScanTimeoutEvent`. `getBatchScanQueue` returns the set by value, so that
the iterator is into a copy that is gone before the first turn. -/
def handleBleBatchScanTimeoutEvent (s : BatchScan F) : Except Undefined (BatchScan F) :=
  if s.manager.mBatchClients.card = 0 then .ok s else .error .erasedIterator

def handle (s : BatchScan F) : BatchEvent F → Except Undefined (BatchScan F)
  | .start env client => s.handleStartScan scanResultType env client
  | .stop env scannerId => s.handleStopScan scanResultType env scannerId
  | .flush env address => s.handleFlushBatchResults env address
  | .timeout _ => s.handleBleBatchScanTimeoutEvent

end Result

end BatchScan

end Gatt.Scan
