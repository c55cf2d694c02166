import BtPlatform.Gatt.Scan.Batch
import BtPlatform.Gatt.Scan.Indices

/-!
# The batch scan and its clients

The controller should run one batch scan with the aggregate of what the batch clients ask
for, and be told so only when the aggregate is a new one.
-/

namespace Gatt.Scan

open Support List

/-! ## The commands -/

/-- Everything but reading reports. -/
def BatchCommand.reconfigures : BatchCommand → Bool
  | .readReports _ _ => false
  | _ => true

/-- The batch scan that runs after a command. -/
def runningAfter (running : Option BatchCommand) : BatchCommand → Option BatchCommand
  | .stop _ => none
  | .start clientIf scanMode scanInterval scanWindow addressType discardRule =>
      some (.start clientIf scanMode scanInterval scanWindow addressType discardRule)
  | _ => running

/-- The batch scan that runs after the commands: the one last started, if it was not stopped
since. -/
def runningBatch (commands : List BatchCommand) : Option BatchCommand :=
  commands.foldl runningAfter none

/-- A batch scan with the parameters runs, or none if there are no parameters. -/
def RunsWith (params : Option BatchScanParams) (commands : List BatchCommand) : Prop :=
  match params with
  | none => runningBatch commands = none
  | some params => ∃ scannerId, runningBatch commands =
      some (.start scannerId (getResultType params)
        (millsToUnit (getBatchScanIntervalMillis params.scanMode))
        (millsToUnit (getBatchScanWindowMillis params.scanMode)) 0 DISCARD_OLDEST_WHEN_BUFFER_FULL)

theorem runningBatch_append (commands more : List BatchCommand) :
    runningBatch (commands ++ more) = more.foldl runningAfter (runningBatch commands) :=
  foldl_append

theorem runningAfter_reads (running : Option BatchCommand) (params : BatchScanParams) :
    (BatchScan.reads params).foldl runningAfter running = running := by
  unfold BatchScan.reads
  split <;> split <;> rfl

theorem RunsWith.reads {params : Option BatchScanParams} {commands : List BatchCommand}
    (h : RunsWith params commands) (flushed : BatchScanParams) :
    RunsWith params (commands ++ BatchScan.reads flushed) := by
  have hrunning : runningBatch (commands ++ BatchScan.reads flushed) = runningBatch commands := by
    rw [runningBatch_append, runningAfter_reads]
  unfold RunsWith
  rw [hrunning]
  exact h

theorem mem_reads {params : BatchScanParams} {command : BatchCommand}
    (h : command ∈ BatchScan.reads params) : command.reconfigures = false := by
  obtain h | h := mem_append.1 h
  · split at h
    · obtain rfl := mem_singleton.1 h
      rfl
    · cases h
  · split at h
    · obtain rfl := mem_singleton.1 h
      rfl
    · cases h

/-- What stops the old batch scan. -/
def stopCommands (scannerId : Int) : Option BatchScanParams → List BatchCommand
  | some params => .stop scannerId :: BatchScan.reads params
  | none => []

/-- What a reset tells the controller. -/
def resetCommands (scannerId : Int) (old new : Option BatchScanParams) : List BatchCommand :=
  stopCommands scannerId old ++ (new.map (BatchScan.startCommands scannerId)).getD []

theorem RunsWith.reset {old : Option BatchScanParams} {commands : List BatchCommand}
    (h : RunsWith old commands) (scannerId : Int) (new : Option BatchScanParams) :
    RunsWith new (commands ++ resetCommands scannerId old new) := by
  cases new with
  | some params =>
      refine ⟨scannerId, ?_⟩
      unfold resetCommands
      rw [← append_assoc, runningBatch_append]
      rfl
  | none =>
      cases old with
      | none =>
          show RunsWith none (commands ++ ([] ++ []))
          rw [append_nil, append_nil]
          exact h
      | some params =>
          show runningBatch (commands ++ ((.stop scannerId :: BatchScan.reads params) ++ [])) = none
          rw [append_nil, runningBatch_append, foldl_cons]
          exact runningAfter_reads none params

theorem mem_resetCommands {scannerId : Int} {old new : Option BatchScanParams}
    (h : old ≠ none ∨ new ≠ none) :
    ∃ command ∈ resetCommands scannerId old new, command.reconfigures = true := by
  cases old with
  | some params => exact ⟨.stop scannerId, mem_append_left _ mem_cons_self, rfl⟩
  | none =>
      cases new with
      | none => exact absurd rfl (h.elim id id)
      | some params => exact ⟨_, mem_append_right _ mem_cons_self, rfl⟩

/-! ## The reset -/

namespace BatchScan

variable {F : Type}

/-- The objects of batch scan parameters get new addresses. -/
def Fresh (s : BatchScan F) : Prop :=
  ∀ address params, s.mBatchScanParms = .object address params → address < s.allocated

variable (scanResultType : ScanClient F → ScanResultType)

theorem flushBatchResults_object (env : Env F) {s : BatchScan F} {address : Nat}
    {params : BatchScanParams} (h : s.mBatchScanParms = .object address params) :
    s.flushBatchResults env = .ok ((s.issue (reads params)).setBatchAlarm env) := by
  unfold flushBatchResults
  rw [h]

theorem stopForReset_spec (env : Env F) (scannerId : Int) {pointer : ParamsPointer}
    {s : BatchScan F} (hwild : s.mBatchScanParms ≠ .wild)
    (hne : ∀ address params, s.mBatchScanParms = .object address params →
      s.mBatchScanParms.ne pointer = true) :
    ∃ s', s.stopForReset env scannerId pointer = .ok s' ∧ s'.manager = s.manager ∧
      s'.mBatchScanParms = s.mBatchScanParms ∧ s'.allocated = s.allocated ∧
      s'.commands = s.commands ++ stopCommands scannerId s.mBatchScanParms.params? := by
  unfold stopForReset
  cases hold : s.mBatchScanParms with
  | wild => exact absurd hold hwild
  | null => exact ⟨s, rfl, rfl, hold, rfl, (append_nil _).symm⟩
  | object address params =>
      have hne' := hne address params hold
      rw [hold] at hne'
      rw [if_pos ⟨rfl, hne'⟩,
        flushBatchResults_object env (show (s.issue [.stop scannerId]).mBatchScanParms =
          _ from hold)]
      refine ⟨_, rfl, rfl, hold, rfl, ?_⟩
      show (s.commands ++ [.stop scannerId]) ++ reads params = _
      exact append_assoc _ _ _

theorem startForReset_spec (scannerId : Int) {pointer : ParamsPointer} {s : BatchScan F}
    (hne : ∀ address params, pointer = .object address params →
      pointer.ne s.mBatchScanParms = true) :
    (s.startForReset scannerId pointer).manager = s.manager ∧
      (s.startForReset scannerId pointer).allocated = s.allocated ∧
      (s.startForReset scannerId pointer).commands = s.commands ++
        (pointer.params?.map (startCommands scannerId)).getD [] := by
  unfold startForReset
  cases pointer with
  | null => exact ⟨rfl, rfl, (append_nil _).symm⟩
  | wild => exact ⟨rfl, rfl, (append_nil _).symm⟩
  | object address params =>
      simp only [hne address params rfl, if_true]
      exact ⟨rfl, rfl, rfl⟩

/-- The new object has an address of its own, so that every reset stops the batch scan that
runs and starts one if there are clients. -/
theorem resetBatchScan_spec (env : Env F) (client : ScanClient F) {s : BatchScan F}
    (hfresh : s.Fresh) (hwild : s.mBatchScanParms ≠ .wild) :
    ∃ s', s.resetBatchScan scanResultType env client = .ok s' ∧ s'.manager = s.manager ∧
      s'.Fresh ∧ s'.mBatchScanParms ≠ .wild ∧
      s'.mBatchScanParms.params? = batchScanParams scanResultType env s.manager.mBatchClients ∧
      s'.commands = s.commands ++ resetCommands client.scannerId s.mBatchScanParms.params?
        (batchScanParams scanResultType env s.manager.mBatchClients) := by
  obtain ⟨pointer, s₁, hmade, hmanager, hold, hcommands, hparams, hnew, hbelow⟩ :
      ∃ pointer s₁, s.getBatchScanParams scanResultType env = (pointer, s₁) ∧
        s₁.manager = s.manager ∧ s₁.mBatchScanParms = s.mBatchScanParms ∧
        s₁.commands = s.commands ∧
        pointer.params? = batchScanParams scanResultType env s.manager.mBatchClients ∧
        pointer ≠ .wild ∧ ∀ address params, pointer = .object address params →
          address = s.allocated ∧ s₁.allocated = s.allocated + 1 := by
    unfold getBatchScanParams
    cases batchScanParams scanResultType env s.manager.mBatchClients with
    | none => exact ⟨_, _, rfl, rfl, rfl, rfl, rfl, nofun, nofun⟩
    | some params =>
        refine ⟨_, _, rfl, rfl, rfl, rfl, rfl, nofun, ?_⟩
        intro address params h
        cases h
        exact ⟨rfl, rfl⟩
  -- every object made so far lies below the new one
  have hdiffers : ∀ address params, s.mBatchScanParms = .object address params →
      s.mBatchScanParms.ne pointer = true := by
    intro address params h
    rw [h]
    cases pointer with
    | null => rfl
    | wild => rfl
    | object address' params' =>
        obtain ⟨rfl, -⟩ := hbelow address' params' rfl
        exact decide_eq_true (hfresh address params h).ne
  have hdiffers' : ∀ address params, pointer = .object address params →
      pointer.ne s.mBatchScanParms = true := by
    rintro address params rfl
    obtain ⟨rfl, -⟩ := hbelow address params rfl
    cases hs : s.mBatchScanParms with
    | null => rfl
    | wild => rfl
    | object address' params' => exact decide_eq_true (hfresh address' params' hs).ne'
  obtain ⟨s₂, hstop, hmanager₂, hold₂, hallocated₂, hcommands₂⟩ :=
    @stopForReset_spec F env client.scannerId pointer s₁ (by rw [hold]; exact hwild)
      (by rw [hold]; exact hdiffers)
  obtain ⟨hmanager₃, hallocated₃, hcommands₃⟩ :=
    @startForReset_spec F client.scannerId pointer s₂ (by rw [hold₂, hold]; exact hdiffers')
  refine ⟨({ s₂.startForReset client.scannerId pointer with mBatchScanParms := pointer } :
    BatchScan F).setBatchAlarm env, ?_, ?_, ?_, hnew, hparams, ?_⟩
  · unfold resetBatchScan
    rw [hmade]
    show (s₁.stopForReset env client.scannerId pointer >>= _) = _
    rw [hstop]
    rfl
  · exact hmanager₃.trans (hmanager₂.trans hmanager)
  · intro address params h
    obtain ⟨rfl, hone⟩ := hbelow address params h
    show s.allocated < (s₂.startForReset client.scannerId pointer).allocated
    rw [hallocated₃, hallocated₂, hone]
    exact Nat.lt_succ_self _
  · show (s₂.startForReset client.scannerId pointer).commands = _
    rw [hcommands₃, hcommands₂, hcommands, hold, hparams, append_assoc]
    rfl

/-- With a pointer that was never written the reset reads the results of no parameters. -/
theorem resetBatchScan_wild (env : Env F) (client : ScanClient F) {s : BatchScan F}
    (h : s.mBatchScanParms = .wild) :
    s.resetBatchScan scanResultType env client = .error .uninitialized := by
  obtain ⟨manager, pointer, allocated, timer, commands⟩ := s
  obtain rfl : pointer = .wild := h
  unfold resetBatchScan getBatchScanParams
  cases hnew : batchScanParams scanResultType env manager.mBatchClients with
  | none => rfl
  | some new => rfl

/-! ## The clients -/

theorem stopRegularScan_batch (env : Env F) (client : ScanClient F) (m : ScanManager F)
    [DecidableEq F] :
    (m.stopRegularScan env client).mBatchClients = m.mBatchClients := by
  obtain ⟨m₁, goesOn, hfreed, hradio⟩ : ∃ m₁ goesOn,
      (if getDeliveryMode client = DELIVERY_MODE_ON_FOUND_LOST then
        ScanManager.freeTracking env client client.filters m else (m, true)) = (m₁, goesOn) ∧
      m.SameRadio m₁ := by
    split
    · exact ⟨_, _, rfl, (ScanManager.freeTracking_same env client client.filters m).1⟩
    · exact ⟨_, _, rfl, ScanManager.SameRadio.refl m⟩
  unfold ScanManager.stopRegularScan
  rw [hfreed]
  cases goesOn with
  | false => exact hradio.batch
  | true =>
      refine (ScanManager.removeScanFilters_radio client.scannerId _).batch.trans ?_
      split
      · exact hradio.batch
      · exact hradio.batch

variable [DecidableEq F]

theorem handleStartScan_batch {env : Env F} (horder : env.Ordered) (client : ScanClient F)
    (s : BatchScan F) :
    ∃ m, s.manager.handleStartScan env client = .ok m ∧
      m.mBatchClients = if s.startsBatch env client then insert client s.manager.mBatchClients
        else s.manager.mBatchClients := by
  unfold ScanManager.handleStartScan
  by_cases hsupported : ScanManager.isScanSupported env client = true
  swap
  · exact ⟨_, if_pos hsupported, (if_neg (by simp [startsBatch, hsupported])).symm⟩
  rw [if_neg (not_not.2 hsupported)]
  by_cases hstarted : client ∈ s.manager.mRegularScanClients ∨ client ∈ s.manager.mBatchClients
  · refine ⟨_, if_pos hstarted, (if_neg ?_).symm⟩
    simp only [startsBatch, decide_eq_true_eq]
    rintro ⟨-, hregular, hbatch, -⟩
    exact hstarted.elim hregular hbatch
  rw [if_neg hstarted]
  obtain ⟨hregular, hbatch⟩ := not_or.1 hstarted
  cases hclient : isBatchClient client with
  | true =>
      have hrouting : isRoutingScanClient client = false := by
        obtain ⟨hall, -⟩ := of_decide_eq_true hclient
        unfold isRoutingScanClient
        rw [hall]
        rfl
      have hready : ∀ m : ScanManager F, ∃ m', ScanManager.startBatchScan env client m = .ok m' ∧
          m.SameRadio m' := by
        intro m
        unfold ScanManager.startBatchScan
        have hstack : m.SameRadio (if m.mFilterIndexStack = [] ∧ env.filteringSupported then
            m.initFilterIndexStack env else m) := by
          split
          · exact ScanManager.initFilterIndexStack_radio env m
          · exact ScanManager.SameRadio.refl m
        obtain ⟨m', hok, hradio⟩ := ScanManager.configureScanFilters_radio env client
          (if m.mFilterIndexStack = [] ∧ env.filteringSupported then
            m.initFilterIndexStack env else m) (by rw [hrouting]; nofun)
        exact ⟨m', hok, hstack.trans hradio⟩
      obtain ⟨m', hok, hradio⟩ := hready
        { s.manager with mBatchClients := insert client s.manager.mBatchClients }
      exact ⟨m', hok, hradio.batch.trans
        (if_pos (decide_eq_true ⟨hsupported, hregular, hbatch, hclient⟩)).symm⟩
  | false =>
      have hnot : s.startsBatch env client = false := by
        simp [startsBatch, hclient]
      rw [hnot]
      by_cases hrefused : ScanManager.refused env client
          { s.manager with mRegularScanClients := insert client s.manager.mRegularScanClients }
      · obtain ⟨m', hok, hradio, -⟩ :=
          ScanManager.startRegularClient_refused env client hregular hrefused
        exact ⟨m', hok, hradio.batch⟩
      · obtain ⟨-, m', -, hok, -, -, hsame⟩ := startRegularClient_filters horder hrefused
        exact ⟨m', hok, hsame⟩

theorem handleStopScan_batch {env : Env F} (horder : env.Ordered) (scannerId : Int)
    (s : BatchScan F) :
    ∃ m, s.manager.handleStopScan env scannerId = .ok m ∧
      m.mBatchClients = match s.stopsBatch env scannerId with
        | some client => s.manager.mBatchClients.erase client
        | none => s.manager.mBatchClients := by
  unfold ScanManager.handleStopScan stopsBatch
  cases s.manager.findClient env scannerId with
  | none => exact ⟨_, rfl, rfl⟩
  | some client =>
      by_cases hregular : client ∈ s.manager.mRegularScanClients
      · have hnot : ¬ (client ∉ s.manager.mRegularScanClients ∧
            client ∈ s.manager.mBatchClients) := fun h => h.1 hregular
        have hstop := stopRegularScan_batch env client s.manager
        simp only [if_pos hregular, if_neg hnot]
        cases isOpportunisticScanClient client with
        | true => exact ⟨_, rfl, hstop⟩
        | false =>
            obtain ⟨m, hok, -, -, hsame⟩ :=
              configureRegularScanParams_filters horder (s.manager.stopRegularScan env client)
            exact ⟨m, hok, hsame.trans hstop⟩
      · simp only [if_neg hregular]
        by_cases hbatch : client ∈ s.manager.mBatchClients
        · simp only [if_pos hbatch, if_pos (And.intro hregular hbatch)]
          exact ⟨_, rfl, (ScanManager.removeScanFilters_radio client.scannerId _).batch⟩
        · simp only [if_neg hbatch, if_neg (fun h : client ∉ s.manager.mRegularScanClients ∧
            client ∈ s.manager.mBatchClients => hbatch h.2)]
          exact ⟨_, rfl, rfl⟩

/-! ## One event -/

/-- The batch clients after the start or the stop of one that is not opportunistic, with what
the call finds around it. -/
def resetBy (s : BatchScan F) : BatchEvent F → Option (Env F × Finset (ScanClient F))
  | .start env client =>
      if s.startsBatch env client ∧ ¬ isOpportunisticScanClient client then
        some (env, insert client s.manager.mBatchClients)
      else none
  | .stop env scannerId =>
      match s.stopsBatch env scannerId with
      | some client =>
          if isOpportunisticScanClient client then none
          else some (env, s.manager.mBatchClients.erase client)
      | none => none
  | _ => none

theorem resetBy_stop {s : BatchScan F} {env : Env F} {scannerId : Int} {client : ScanClient F}
    (h : s.stopsBatch env scannerId = some client) :
    s.resetBy (.stop env scannerId) = if isOpportunisticScanClient client then none
      else some (env, s.manager.mBatchClients.erase client) := by
  simp only [resetBy, h]

/-- A set of clients is iterated in an order of all its elements. -/
def LegalBatch : BatchEvent F → Prop
  | .start env _ => env.Ordered
  | .stop env _ => env.Ordered
  | _ => True

/-- The batch scan is what the clients ask for once one that is not opportunistic is started
or stopped, and the controller is told to stop, configure or start only if that is new. -/
structure Reconfigured (s : BatchScan F) (event : BatchEvent F) (s' : BatchScan F) : Prop where
  aggregate : ∀ env clients, s.resetBy event = some (env, clients) →
    s'.manager.mBatchClients = clients ∧
      s'.mBatchScanParms.params? = batchScanParams scanResultType env clients ∧
      RunsWith (batchScanParams scanResultType env clients) s'.commands
  needed : ∀ more, s'.commands = s.commands ++ more →
    (∃ command ∈ more, command.reconfigures = true) →
    ∃ env clients, s.resetBy event = some (env, clients) ∧
      batchScanParams scanResultType env clients ≠ s.mBatchScanParms.params?

/-- The event is handled without looking into parameters that do not exist, and reconfigures
the batch scan exactly when needed. -/
def MeetsBatch (s : BatchScan F) (event : BatchEvent F) : Prop :=
  ∃ s', s.handle scanResultType event = .ok s' ∧ Reconfigured scanResultType s event s'

/-- A start or stop changes the parameters that were configured last; a client in the set is
flushed only when there are parameters; the timer runs out with no client in the set. -/
def CarefulBatch (s : BatchScan F) : BatchEvent F → Prop
  | .flush _ address => s.isBatchMember address = true → s.mBatchScanParms.params? ≠ none
  | .timeout _ => s.manager.mBatchClients = ∅
  | event => ∀ env clients, s.resetBy event = some (env, clients) →
      s.mBatchScanParms ≠ .wild ∧
        batchScanParams scanResultType env clients ≠ s.mBatchScanParms.params?

/-- What holds after every event. -/
structure BatchInvariant (s : BatchScan F) : Prop where
  fresh : s.Fresh
  runs : RunsWith s.mBatchScanParms.params? s.commands
  configured : ∀ client ∈ s.manager.mBatchClients, isOpportunisticScanClient client = false →
    s.mBatchScanParms.params? ≠ none

omit [DecidableEq F] in
theorem BatchInvariant.initial (zeroed : Bool) :
    BatchInvariant (BatchScan.initial zeroed : BatchScan F) := by
  refine ⟨?_, ?_, ?_⟩
  · intro address params h
    cases zeroed <;> cases h
  · cases zeroed <;> rfl
  · intro client hclient
    exact absurd hclient (Finset.notMem_empty client)

variable {scanResultType} {s s' : BatchScan F} {event : BatchEvent F}

/-- An event with a reset is handled as the reset over the new set of clients. -/
theorem handle_of_reset (hlegal : LegalBatch event) {env : Env F}
    {clients : Finset (ScanClient F)} (h : s.resetBy event = some (env, clients)) :
    ∃ m client, m.mBatchClients = clients ∧ s.handle scanResultType event =
      resetBatchScan scanResultType env client { s with manager := m } := by
  cases event with
  | start env' client =>
      by_cases hreset : s.startsBatch env' client ∧ ¬ isOpportunisticScanClient client
      · obtain ⟨m, hok, hclients⟩ := handleStartScan_batch hlegal client s
        rw [resetBy, if_pos hreset] at h
        cases h
        refine ⟨m, client, hclients.trans (if_pos hreset.1), ?_⟩
        show s.handleStartScan scanResultType _ client = _
        unfold handleStartScan
        rw [hok]
        exact if_pos hreset
      · rw [resetBy, if_neg hreset] at h
        cases h
  | stop env' scannerId =>
      obtain ⟨m, hok, hclients⟩ := handleStopScan_batch hlegal scannerId s
      show ∃ m client, _ ∧ s.handleStopScan scanResultType env' scannerId = _
      unfold handleStopScan
      rw [hok]
      cases hstops : s.stopsBatch env' scannerId with
      | none =>
          simp only [resetBy, hstops] at h
          cases h
      | some client =>
          rw [resetBy_stop hstops] at h
          rw [hstops] at hclients
          cases hopp : isOpportunisticScanClient client with
          | true =>
              rw [hopp] at h
              cases h
          | false =>
              rw [hopp] at h
              cases h
              refine ⟨m, client, hclients, ?_⟩
              show (if isOpportunisticScanClient client = true then _ else _) = _
              rw [if_neg (by rw [hopp]; exact Bool.false_ne_true)]
  | flush _ _ => cases h
  | timeout _ => cases h

/-- A start or a stop without a reset changes no more than the set of clients, by
opportunistic ones. -/
theorem handle_of_no_reset (hlegal : LegalBatch event)
    (hevent : (∃ env client, event = .start env client) ∨
      ∃ env scannerId, event = .stop env scannerId)
    (h : s.resetBy event = none) :
    ∃ m, s.handle scanResultType event = .ok { s with manager := m } ∧
      ∀ client ∈ m.mBatchClients, isOpportunisticScanClient client = false →
        client ∈ s.manager.mBatchClients := by
  obtain ⟨env, client, rfl⟩ | ⟨env, scannerId, rfl⟩ := hevent
  · obtain ⟨m, hok, hclients⟩ := handleStartScan_batch hlegal client s
    have hreset : ¬ (s.startsBatch env client ∧ ¬ isOpportunisticScanClient client) := by
      intro hreset
      rw [resetBy, if_pos hreset] at h
      cases h
    refine ⟨m, ?_, ?_⟩
    · show s.handleStartScan scanResultType env client = _
      unfold handleStartScan
      rw [hok]
      exact if_neg hreset
    · intro member hmember hopp
      rw [hclients] at hmember
      split at hmember
      · next hstarts =>
          obtain rfl | hmember := Finset.mem_insert.1 hmember
          · exact absurd ⟨hstarts, by rw [hopp]; exact Bool.false_ne_true⟩ hreset
          · exact hmember
      · exact hmember
  · obtain ⟨m, hok, hclients⟩ := handleStopScan_batch hlegal scannerId s
    refine ⟨m, ?_, ?_⟩
    · show s.handleStopScan scanResultType env scannerId = _
      unfold handleStopScan
      rw [hok]
      cases hstops : s.stopsBatch env scannerId with
      | none => rfl
      | some client =>
          rw [resetBy_stop hstops] at h
          cases hopp : isOpportunisticScanClient client with
          | true =>
              show (if isOpportunisticScanClient client = true then _ else _) = _
              rw [if_pos hopp]
              rfl
          | false =>
              rw [hopp] at h
              cases h
    · intro member hmember _
      rw [hclients] at hmember
      split at hmember
      · exact Finset.mem_of_mem_erase hmember
      · exact hmember

/-- Nothing but reads was sent. -/
theorem reconfigured_of_reads {more : List BatchCommand} (hreset : s.resetBy event = none)
    (hcommands : s'.commands = s.commands ++ more)
    (hreads : ∀ command ∈ more, command.reconfigures = false) :
    Reconfigured scanResultType s event s' where
  aggregate := by
    intro env clients h
    rw [hreset] at h
    cases h
  needed := by
    rintro more' hmore' ⟨command, hmem, hcommand⟩
    obtain rfl : more = more' := append_cancel_left (hcommands.symm.trans hmore')
    rw [hreads command hmem] at hcommand
    cases hcommand

/-- A reset meets the specification if and only if it brings new parameters. -/
theorem reset_step (h : BatchInvariant s) (hlegal : LegalBatch event) {env : Env F}
    {clients : Finset (ScanClient F)} (hreset : s.resetBy event = some (env, clients))
    (hsome : s.mBatchScanParms.params? = none →
      batchScanParams scanResultType env clients ≠ none) :
    (MeetsBatch scanResultType s event ↔ s.mBatchScanParms ≠ .wild ∧
      batchScanParams scanResultType env clients ≠ s.mBatchScanParms.params?) ∧
    ∀ s', s.mBatchScanParms ≠ .wild → s.handle scanResultType event = .ok s' →
      s'.Fresh ∧ s'.manager.mBatchClients = clients ∧
        s'.mBatchScanParms.params? = batchScanParams scanResultType env clients ∧
        RunsWith s'.mBatchScanParms.params? s'.commands := by
  obtain ⟨m, client, rfl, hhandle⟩ := @handle_of_reset F scanResultType _ s event hlegal env
    clients hreset
  by_cases hwild : s.mBatchScanParms = .wild
  · refine ⟨iff_of_false ?_ fun hmeets => hmeets.1 hwild, fun _ hnot => absurd hwild hnot⟩
    rintro ⟨s', hok, -⟩
    rw [hhandle, @resetBatchScan_wild F scanResultType env client { s with
      manager := m } hwild] at hok
    cases hok
  obtain ⟨s', hok, hmanager, hfresh, -, hparams, hcommands⟩ :=
    @resetBatchScan_spec F scanResultType env client { s with manager := m } h.fresh hwild
  have hruns : RunsWith (batchScanParams scanResultType env m.mBatchClients) s'.commands := by
    rw [hcommands]
    exact h.runs.reset client.scannerId _
  have hclients : s'.manager.mBatchClients = m.mBatchClients := by
    rw [hmanager]
  refine ⟨?_, ?_⟩
  · constructor
    · rintro ⟨s'', hok', hmeets⟩
      rw [hhandle, hok] at hok'
      cases hok'
      refine ⟨hwild, fun hsame => ?_⟩
      have hold : s.mBatchScanParms.params? ≠ none := by
        intro hnone
        exact hsome hnone (hsame.trans hnone)
      obtain ⟨env', clients', hreset', hne⟩ := hmeets.needed _ hcommands
        (mem_resetCommands (.inl hold))
      rw [hreset] at hreset'
      cases hreset'
      exact hne hsame
    · rintro ⟨-, hne⟩
      refine ⟨s', hhandle.trans hok, ?_, ?_⟩
      · intro env' clients' hreset'
        rw [hreset] at hreset'
        cases hreset'
        exact ⟨hclients, hparams, hruns⟩
      · intro _ _ _
        exact ⟨env, m.mBatchClients, hreset, hne⟩
  · intro s'' _ hok'
    rw [hhandle, hok] at hok'
    cases hok'
    refine ⟨hfresh, hclients, hparams, ?_⟩
    rw [hparams]
    exact hruns

/-- What a start or a stop leaves to configure is something, where nothing was configured. -/
theorem BatchInvariant.aggregate (h : BatchInvariant s) {env : Env F}
    {clients : Finset (ScanClient F)} (hreset : s.resetBy event = some (env, clients))
    (hnone : s.mBatchScanParms.params? = none) :
    batchScanParams scanResultType env clients ≠ none := by
  cases event with
  | start env' client =>
      by_cases hstarts : s.startsBatch env' client ∧ ¬ isOpportunisticScanClient client
      · rw [resetBy, if_pos hstarts] at hreset
        cases hreset
        have hcard : (insert client s.manager.mBatchClients).card ≠ 0 :=
          Finset.card_ne_zero_of_mem (Finset.mem_insert_self client _)
        unfold batchScanParams
        rw [if_neg hcard]
        exact Option.some_ne_none _
      · rw [resetBy, if_neg hstarts] at hreset
        cases hreset
  | stop env' scannerId =>
      cases hstops : s.stopsBatch env' scannerId with
      | none =>
          simp only [resetBy, hstops] at hreset
          cases hreset
      | some client =>
          rw [resetBy_stop hstops] at hreset
          cases hopp : isOpportunisticScanClient client with
          | true =>
              rw [hopp] at hreset
              cases hreset
          | false =>
              have hmem : client ∈ s.manager.mBatchClients := by
                unfold stopsBatch at hstops
                split at hstops
                · cases hstops
                · split at hstops
                  · next hmem =>
                      cases hstops
                      exact hmem.2
                  · cases hstops
              exact absurd hnone (h.configured client hmem hopp)
  | flush _ _ => cases hreset
  | timeout _ => cases hreset

theorem not_meetsBatch_of_error {e : Undefined} (h : s.handle scanResultType event = .error e) :
    ¬ MeetsBatch scanResultType s event := by
  rintro ⟨s', hok, -⟩
  rw [h] at hok
  cases hok

/-- The specification and the condition for an event agree, and the invariant goes on. -/
def GoodStep (scanResultType : ScanClient F → ScanResultType) (s : BatchScan F)
    (event : BatchEvent F) : Prop :=
  (MeetsBatch scanResultType s event ↔ CarefulBatch scanResultType s event) ∧
    ∀ s', CarefulBatch scanResultType s event → s.handle scanResultType event = .ok s' →
      BatchInvariant s'

/-- An event that is handled without a reset. -/
theorem goodStep_of_reads {more : List BatchCommand} (hreset : s.resetBy event = none)
    (hok : s.handle scanResultType event = .ok s') (hcommands : s'.commands = s.commands ++ more)
    (hreads : ∀ command ∈ more, command.reconfigures = false)
    (hcareful : CarefulBatch scanResultType s event) (hinv : BatchInvariant s') :
    GoodStep scanResultType s event := by
  refine ⟨iff_of_true ⟨s', hok, reconfigured_of_reads hreset hcommands hreads⟩ hcareful, ?_⟩
  intro s'' _ hok'
  rw [hok] at hok'
  cases hok'
  exact hinv

theorem goodStep_of_error {e : Undefined} (h : s.handle scanResultType event = .error e)
    (hcareful : ¬ CarefulBatch scanResultType s event) : GoodStep scanResultType s event :=
  ⟨iff_of_false (not_meetsBatch_of_error h) hcareful, fun _ h' => absurd h' hcareful⟩

/-- For a start or a stop the condition is about its reset. -/
theorem carefulBatch_of_reset {env : Env F} {clients : Finset (ScanClient F)}
    (hreset : s.resetBy event = some (env, clients)) :
    CarefulBatch scanResultType s event ↔ s.mBatchScanParms ≠ .wild ∧
      batchScanParams scanResultType env clients ≠ s.mBatchScanParms.params? := by
  have hboth : (∀ env clients, s.resetBy event = some (env, clients) →
      s.mBatchScanParms ≠ .wild ∧
        batchScanParams scanResultType env clients ≠ s.mBatchScanParms.params?) ↔
      s.mBatchScanParms ≠ .wild ∧
        batchScanParams scanResultType env clients ≠ s.mBatchScanParms.params? := by
    constructor
    · intro hall
      exact hall env clients hreset
    · rintro hone env' clients' hreset'
      rw [hreset] at hreset'
      cases hreset'
      exact hone
  cases event with
  | start _ _ => exact hboth
  | stop _ _ => exact hboth
  | flush _ _ => cases hreset
  | timeout _ => cases hreset

theorem BatchInvariant.step_reset (h : BatchInvariant s) (hlegal : LegalBatch event)
    {env : Env F} {clients : Finset (ScanClient F)}
    (hreset : s.resetBy event = some (env, clients)) : GoodStep scanResultType s event := by
  obtain ⟨hiff, hnext⟩ := @reset_step F scanResultType _ s event h hlegal env clients hreset
    (h.aggregate hreset)
  refine ⟨hiff.trans (carefulBatch_of_reset hreset).symm, ?_⟩
  intro s' hcareful hok
  obtain ⟨hwild, -⟩ := (carefulBatch_of_reset hreset).1 hcareful
  obtain ⟨hfresh, hclients, hparams, hruns⟩ := hnext s' hwild hok
  refine ⟨hfresh, hruns, ?_⟩
  intro client hmem _
  rw [hparams]
  rw [hclients] at hmem
  unfold batchScanParams
  rw [if_neg (Finset.card_ne_zero_of_mem hmem)]
  exact Option.some_ne_none _

theorem BatchInvariant.step_plain (h : BatchInvariant s) (hlegal : LegalBatch event)
    (hevent : (∃ env client, event = .start env client) ∨
      ∃ env scannerId, event = .stop env scannerId)
    (hreset : s.resetBy event = none) : GoodStep scanResultType s event := by
  obtain ⟨m, hok, hsub⟩ := @handle_of_no_reset F scanResultType _ s event hlegal hevent hreset
  refine @goodStep_of_reads F scanResultType _ s _ event [] hreset hok
    (append_nil s.commands).symm nofun ?_ ⟨h.fresh, h.runs, fun client hmem hopp =>
      h.configured client (hsub client hmem hopp) hopp⟩
  obtain ⟨env, client, rfl⟩ | ⟨env, scannerId, rfl⟩ := hevent
  · intro env' clients' hreset'
    rw [hreset] at hreset'
    cases hreset'
  · intro env' clients' hreset'
    rw [hreset] at hreset'
    cases hreset'

/-- A flush needs parameters if it is for a client in the set. -/
theorem BatchInvariant.step_flush (h : BatchInvariant s) (env : Env F) (address : Nat) :
    GoodStep scanResultType s (.flush env address) := by
  cases hmember : s.isBatchMember address with
  | false =>
      have hok : s.handle scanResultType (.flush env address) = .ok s :=
        if_neg (by rw [hmember]; exact Bool.false_ne_true)
      refine @goodStep_of_reads F scanResultType _ s s _ [] rfl hok
        (append_nil s.commands).symm nofun ?_ h
      intro htrue
      rw [hmember] at htrue
      cases htrue
  | true =>
      have hflush : s.handle scanResultType (.flush env address) =
          s.flushBatchResults env := if_pos hmember
      have hneeds : CarefulBatch scanResultType s (.flush env address) ↔
          s.mBatchScanParms.params? ≠ none := ⟨fun hcareful => hcareful hmember, fun hs _ => hs⟩
      cases hpointer : s.mBatchScanParms with
      | object a params =>
          refine @goodStep_of_reads F scanResultType _ s _ _ (reads params) rfl
            (hflush.trans (flushBatchResults_object env hpointer)) rfl
            (fun _ hmem => mem_reads hmem) (hneeds.2 ?_)
            ⟨h.fresh, h.runs.reads params, h.configured⟩
          rw [hpointer]
          exact Option.some_ne_none _
      | null =>
          have hnone : s.mBatchScanParms.params? = none := by rw [hpointer]; rfl
          exact goodStep_of_error (e := .nullPointer)
            (hflush.trans (by rw [flushBatchResults, hpointer])) fun h' => hneeds.1 h' hnone
      | wild =>
          have hnone : s.mBatchScanParms.params? = none := by rw [hpointer]; rfl
          exact goodStep_of_error (e := .uninitialized)
            (hflush.trans (by rw [flushBatchResults, hpointer])) fun h' => hneeds.1 h' hnone

theorem BatchInvariant.step_timeout (h : BatchInvariant s) (env : Env F) :
    GoodStep scanResultType s (.timeout env) := by
  by_cases hempty : s.manager.mBatchClients = ∅
  · exact @goodStep_of_reads F scanResultType _ s s _ [] rfl
      (if_pos (Finset.card_eq_zero.2 hempty)) (append_nil s.commands).symm nofun hempty h
  · exact goodStep_of_error
      (if_neg fun hcard => hempty (Finset.card_eq_zero.1 hcard)) hempty

theorem BatchInvariant.step (h : BatchInvariant s) (hlegal : LegalBatch event) :
    GoodStep scanResultType s event := by
  cases hreset : s.resetBy event with
  | some reset => exact h.step_reset hlegal hreset
  | none =>
      cases event with
      | start env client => exact h.step_plain hlegal (.inl ⟨env, client, rfl⟩) hreset
      | stop env scannerId => exact h.step_plain hlegal (.inr ⟨env, scannerId, rfl⟩) hreset
      | flush env address => exact h.step_flush env address
      | timeout env => exact h.step_timeout env

/-! ## Runs -/

/-- The states that are reached with events that meet the condition. -/
inductive ReachesBatch (scanResultType : ScanClient F → ScanResultType) : BatchScan F → Prop where
  | initial (zeroed : Bool) : ReachesBatch scanResultType (initial zeroed)
  | step {s s' : BatchScan F} {event : BatchEvent F} :
      ReachesBatch scanResultType s → LegalBatch event → CarefulBatch scanResultType s event →
      s.handle scanResultType event = .ok s' → ReachesBatch scanResultType s'

theorem ReachesBatch.invariant (h : ReachesBatch scanResultType s) : BatchInvariant s := by
  induction h with
  | initial zeroed => exact BatchInvariant.initial zeroed
  | step _ hlegal hcareful hok ih => exact (ih.step hlegal).2 _ hcareful hok

/-- After any run whose events met the condition the controller runs the batch scan that was
configured last, and the next event meets the specification if and only if it meets the
condition. -/
theorem reachesBatch_reconfigured (h : ReachesBatch scanResultType s)
    (hlegal : LegalBatch event) :
    RunsWith s.mBatchScanParms.params? s.commands ∧
      (MeetsBatch scanResultType s event ↔ CarefulBatch scanResultType s event) :=
  ⟨h.invariant.runs, (h.invariant.step hlegal).1⟩

section TwoClients

/-- A client that asks for full results in batches, with a balanced scan. -/
def fullBatch (address : Nat) (scannerId : Int) : ScanClient Unit where
  address := address
  scannerId := scannerId
  settings := ⟨SCAN_MODE_BALANCED, CALLBACK_TYPE_ALL_MATCHES, 1000, 1, PHY_LE_1M, by decide,
    allMatches_valid, batchDelay_nonneg⟩
  filters := []

/-- A controller with offloaded filters. The second client comes first in the set, as an
element with a new bucket does. -/
noncomputable def newestFirst : Env Unit where
  order clients := [fullBatch 2 6, fullBatch 1 5].filter (· ∈ clients) ++
    (clients \ {fullBatch 2 6, fullBatch 1 5}).toList
  filteringSupported := true
  service := true
  maxFiltersSupported := 16
  maxTotalTrackableAdvertisements := 4

def everyFull (_ : ScanClient Unit) : ScanResultType := .full

theorem newestFirst_ordered : newestFirst.Ordered := by
  intro clients client
  show client ∈ [fullBatch 2 6, fullBatch 1 5].filter (· ∈ clients) ++
    (clients \ {fullBatch 2 6, fullBatch 1 5}).toList ↔ _
  rw [mem_append, mem_filter, Finset.mem_toList, Finset.mem_sdiff, decide_eq_true_eq]
  constructor
  · rintro (⟨-, h⟩ | ⟨h, -⟩)
    · exact h
    · exact h
  · intro h
    by_cases hmem : client ∈ [fullBatch 2 6, fullBatch 1 5]
    · exact .inl ⟨hmem, h⟩
    · exact .inr ⟨h, fun h' => hmem (by simpa using h')⟩

theorem batchScanParams_first :
    batchScanParams everyFull newestFirst {fullBatch 1 5} = some ⟨SCAN_MODE_BALANCED, 5, -1⟩ := by
  have horder : newestFirst.order {fullBatch 1 5} = [fullBatch 1 5] := by
    show [fullBatch 2 6, fullBatch 1 5].filter (· ∈ ({fullBatch 1 5} : Finset _)) ++
      (({fullBatch 1 5} : Finset (ScanClient Unit)) \ {fullBatch 2 6, fullBatch 1 5}).toList = _
    have hrest : ({fullBatch 1 5} : Finset (ScanClient Unit)) \
        {fullBatch 2 6, fullBatch 1 5} = ∅ := by decide
    rw [hrest, Finset.toList_empty]
    rfl
  unfold batchScanParams
  rw [horder]
  rfl

theorem batchScanParams_both :
    batchScanParams everyFull newestFirst (insert (fullBatch 2 6) {fullBatch 1 5}) =
      some ⟨SCAN_MODE_BALANCED, 5, -1⟩ := by
  have horder : newestFirst.order (insert (fullBatch 2 6) {fullBatch 1 5}) =
      [fullBatch 2 6, fullBatch 1 5] := by
    show [fullBatch 2 6, fullBatch 1 5].filter
        (· ∈ (insert (fullBatch 2 6) {fullBatch 1 5} : Finset _)) ++
      ((insert (fullBatch 2 6) {fullBatch 1 5} : Finset (ScanClient Unit)) \
        {fullBatch 2 6, fullBatch 1 5}).toList = _
    have hrest : (insert (fullBatch 2 6) {fullBatch 1 5} : Finset (ScanClient Unit)) \
        {fullBatch 2 6, fullBatch 1 5} = ∅ := by decide
    rw [hrest, Finset.toList_empty]
    rfl
  unfold batchScanParams
  rw [horder]
  rfl

theorem resetBy_first :
    (initial true : BatchScan Unit).resetBy (.start newestFirst (fullBatch 1 5)) =
      some (newestFirst, {fullBatch 1 5}) := rfl

/-- The first client of a manager in zeroed memory. -/
theorem first_batch_client_reconfigured :
    RunsWith none [] ∧
      MeetsBatch everyFull (initial true) (.start newestFirst (fullBatch 1 5)) := by
  have hreached := @reachesBatch_reconfigured Unit everyFull _ (initial true)
    (.start newestFirst (fullBatch 1 5)) (.initial true) newestFirst_ordered
  refine ⟨hreached.1, hreached.2.2 ?_⟩
  intro env clients h
  rw [resetBy_first] at h
  cases h
  refine ⟨nofun, ?_⟩
  rw [batchScanParams_first]
  exact Option.some_ne_none _

/-- The second client changes nothing that the controller was told, and still the batch scan
is stopped, configured and started again. -/
theorem second_batch_client_restarts :
    ∃ s, (initial true).handle everyFull (.start newestFirst (fullBatch 1 5)) = .ok s ∧
      LegalBatch (.start newestFirst (fullBatch 2 6)) ∧
      s.mBatchScanParms.params? =
        batchScanParams everyFull newestFirst (insert (fullBatch 2 6) s.manager.mBatchClients) ∧
      ¬ MeetsBatch everyFull s (.start newestFirst (fullBatch 2 6)) := by
  have hinitial : BatchInvariant (initial true : BatchScan Unit) := BatchInvariant.initial true
  have hlegal : ∀ client, LegalBatch (.start newestFirst client) := fun _ => newestFirst_ordered
  obtain ⟨m, hm, hregular, hbatch⟩ : ∃ m : ScanManager Unit,
      (initial true : BatchScan Unit).manager.handleStartScan newestFirst (fullBatch 1 5) = .ok m ∧
      m.mRegularScanClients = ∅ ∧ m.mBatchClients = {fullBatch 1 5} := ⟨_, rfl, rfl, rfl⟩
  obtain ⟨s, hreset, hmanager, -, -, hparams, -⟩ := resetBatchScan_spec everyFull newestFirst
    (fullBatch 1 5) (s := { (initial true : BatchScan Unit) with manager := m }) nofun nofun
  have hok : (initial true).handle everyFull (.start newestFirst (fullBatch 1 5)) = .ok s := by
    show (initial true).handleStartScan everyFull newestFirst (fullBatch 1 5) = _
    unfold handleStartScan
    rw [hm]
    exact hreset
  have hcareful : CarefulBatch everyFull (initial true) (.start newestFirst (fullBatch 1 5)) := by
    refine (carefulBatch_of_reset resetBy_first).2 ⟨nofun, ?_⟩
    rw [batchScanParams_first]
    exact Option.some_ne_none _
  have hinv : BatchInvariant s := (hinitial.step (hlegal (fullBatch 1 5))).2 s hcareful hok
  have hclients : s.manager.mBatchClients = {fullBatch 1 5} := by rw [hmanager, hbatch]
  have hsame : s.mBatchScanParms.params? =
      batchScanParams everyFull newestFirst (insert (fullBatch 2 6) {fullBatch 1 5}) := by
    rw [hparams, hbatch, batchScanParams_first, batchScanParams_both]
  have hreset₂ : s.resetBy (.start newestFirst (fullBatch 2 6)) =
      some (newestFirst, insert (fullBatch 2 6) {fullBatch 1 5}) := by
    have hstarts : s.startsBatch newestFirst (fullBatch 2 6) ∧
        ¬ isOpportunisticScanClient (fullBatch 2 6) = true := by
      refine ⟨?_, by decide⟩
      unfold startsBatch
      rw [hclients, hmanager, hregular]
      rfl
    rw [resetBy, if_pos hstarts, hclients]
  refine ⟨s, hok, hlegal _, by rw [hclients]; exact hsame, ?_⟩
  intro hmeets
  have hcareful₂ := (hinv.step (hlegal (fullBatch 2 6))).1.1 hmeets
  exact ((carefulBatch_of_reset hreset₂).1 hcareful₂).2 hsame.symm

end TwoClients

end BatchScan

end Gatt.Scan
