import BtPlatform.Gatt.Scan.Manager

/-!
# Scan filters

What the functions that give out and take back filter indices do. They leave the clients,
the remembered modes and the scanning of the controller as they are.
-/

namespace Gatt.Scan.ScanManager

open Support List

variable {F : Type}

/-- The two states have the same clients, and the same scan was asked of the controller. -/
structure SameRadio (s s' : ScanManager F) : Prop where
  regular : s'.mRegularScanClients = s.mRegularScanClients
  batch : s'.mBatchClients = s.mBatchClients
  lastLE1M : s'.mLastConfiguredScanSettingLE1M = s.mLastConfiguredScanSettingLE1M
  lastLECoded : s'.mLastConfiguredScanSettingLECoded = s.mLastConfiguredScanSettingLECoded
  scanning : s'.controller.scanning = s.controller.scanning
  parameters : s'.controller.parameters = s.controller.parameters

/-- The two states agree on all that belongs to the filter indices. -/
structure SameFilters (s s' : ScanManager F) : Prop where
  stack : s'.mFilterIndexStack = s.mFilterIndexStack
  map : s'.mClientFilterIndexMap = s.mClientFilterIndexMap
  allPassRegular : s'.mAllPassRegularClients = s.mAllPassRegularClients
  allPassBatch : s'.mAllPassBatchClients = s.mAllPassBatchClients
  filters : s'.controller.filters = s.controller.filters

theorem SameRadio.refl (s : ScanManager F) : SameRadio s s := ⟨rfl, rfl, rfl, rfl, rfl, rfl⟩

theorem SameFilters.refl (s : ScanManager F) : SameFilters s s := ⟨rfl, rfl, rfl, rfl, rfl⟩

section Trans

variable {s s' s'' : ScanManager F}

theorem SameRadio.trans (h : SameRadio s s') (h' : SameRadio s' s'') : SameRadio s s'' :=
  ⟨h'.regular.trans h.regular, h'.batch.trans h.batch, h'.lastLE1M.trans h.lastLE1M,
    h'.lastLECoded.trans h.lastLECoded, h'.scanning.trans h.scanning,
    h'.parameters.trans h.parameters⟩

theorem SameFilters.trans (h : SameFilters s s') (h' : SameFilters s' s'') : SameFilters s s'' :=
  ⟨h'.stack.trans h.stack, h'.map.trans h.map, h'.allPassRegular.trans h.allPassRegular,
    h'.allPassBatch.trans h.allPassBatch, h'.filters.trans h.filters⟩

end Trans

theorem errorCallback_radio (scannerId errorCode : Int) (s : ScanManager F) :
    SameRadio s (s.errorCallback scannerId errorCode) := ⟨rfl, rfl, rfl, rfl, rfl, rfl⟩

theorem errorCallback_filters (scannerId errorCode : Int) (s : ScanManager F) :
    SameFilters s (s.errorCallback scannerId errorCode) := ⟨rfl, rfl, rfl, rfl, rfl⟩

theorem filterParamAdd_radio (filterIndex : Nat) (s : ScanManager F) :
    SameRadio s (s.filterParamAdd filterIndex) := ⟨rfl, rfl, rfl, rfl, rfl, rfl⟩

theorem stack_radio (s : ScanManager F) (rest : List Nat) :
    SameRadio s { s with mFilterIndexStack := rest } := ⟨rfl, rfl, rfl, rfl, rfl, rfl⟩

/-! ## Tracking entries -/

variable (env : Env F) (client : ScanClient F)

theorem manageAllocation_radio (entries : Int) (allocate : Bool) (s : ScanManager F) :
    SameRadio s (s.manageAllocationOfTrackingAdvertisement env entries allocate).1 ∧
      SameFilters s (s.manageAllocationOfTrackingAdvertisement env entries allocate).1 := by
  unfold manageAllocationOfTrackingAdvertisement
  split_ifs
  all_goals exact ⟨⟨rfl, rfl, rfl, rfl, rfl, rfl⟩, ⟨rfl, rfl, rfl, rfl, rfl⟩⟩

theorem allocateTracking_same (s : ScanManager F) :
    SameRadio s (s.allocateTracking env client).1 ∧
      SameFilters s (s.allocateTracking env client).1 ∧
      (env.service = true → (s.allocateTracking env client).2 = true) := by
  obtain ⟨hradio, hfilters⟩ := manageAllocation_radio env
    (getNumOfTrackingAdvertisements env client.settings) true s
  rcases heq : s.manageAllocationOfTrackingAdvertisement env
    (getNumOfTrackingAdvertisements env client.settings) true with ⟨s', _ | _⟩
  · rw [heq] at hradio hfilters
    simp only [allocateTracking, heq]
    split
    · exact ⟨hradio.trans (errorCallback_radio _ _ s'),
        hfilters.trans (errorCallback_filters _ _ s'), fun _ => rfl⟩
    · next hservice => exact ⟨hradio, hfilters, fun h => absurd h hservice⟩
  · rw [heq] at hradio hfilters
    simp only [allocateTracking, heq]
    exact ⟨hradio, hfilters, fun _ => trivial⟩

theorem freeTracking_same (filters : List F) (s : ScanManager F) :
    SameRadio s (freeTracking env client filters s).1 ∧
      SameFilters s (freeTracking env client filters s).1 ∧
      (env.service = true → (freeTracking env client filters s).2 = true) := by
  induction filters generalizing s with
  | nil => exact ⟨SameRadio.refl s, SameFilters.refl s, fun _ => rfl⟩
  | cons filter filters ih =>
      obtain ⟨hradio, hfilters⟩ := manageAllocation_radio env
        (getNumOfTrackingAdvertisements env client.settings) false s
      rcases heq : s.manageAllocationOfTrackingAdvertisement env
        (getNumOfTrackingAdvertisements env client.settings) false with ⟨s', _ | _⟩
      · rw [heq] at hradio hfilters
        simp only [freeTracking, heq]
        split
        · obtain ⟨hradio', hfilters', hends⟩ :=
            ih (s'.errorCallback client.scannerId SCAN_FAILED_INTERNAL_ERROR)
          exact ⟨hradio.trans ((errorCallback_radio _ _ s').trans hradio'),
            hfilters.trans ((errorCallback_filters _ _ s').trans hfilters'), hends⟩
        · next hservice => exact ⟨hradio, hfilters, fun h => absurd h hservice⟩
      · rw [heq] at hradio hfilters
        obtain ⟨hradio', hfilters', hends⟩ := ih s'
        simp only [freeTracking, heq]
        exact ⟨hradio.trans hradio', hfilters.trans hfilters', hends⟩

theorem freeTracking_gone (hservice : env.service = false) (filter : F) (filters : List F)
    (s : ScanManager F) : freeTracking env client (filter :: filters) s = (s, false) := by
  simp [freeTracking, manageAllocationOfTrackingAdvertisement, hservice]

/-! ## Giving out indices -/

/-- `count` indices were taken from the stack and configured. -/
structure Offloaded (count : Nat) (s s' : ScanManager F) : Prop extends SameRadio s s' where
  stack : s'.mFilterIndexStack = s.mFilterIndexStack.drop count
  map : s'.mClientFilterIndexMap = s.mClientFilterIndexMap
  allPassRegular : s'.mAllPassRegularClients = s.mAllPassRegularClients
  allPassBatch : s'.mAllPassBatchClients = s.mAllPassBatchClients
  filters : s.controller.filters ⊆ s'.controller.filters

/-- With enough indices on the stack the loop ends, in the middle only if the service is
gone. -/
theorem offloadFilters_spec (mode : Nat) (filters : List F) (indices : List Nat)
    (s : ScanManager F) (henough : filters.length ≤ s.mFilterIndexStack.length) :
    ∃ s' result count, s.offloadFilters env client mode filters indices = .ok (s', result) ∧
      Offloaded count s s' ∧
      ((mode = DELIVERY_MODE_ON_FOUND_LOST → env.service = true) →
        count = filters.length ∧
          result = some (indices ++ s.mFilterIndexStack.take filters.length)) := by
  induction filters generalizing indices s with
  | nil =>
      refine ⟨s, some indices, 0, rfl, ⟨SameRadio.refl s, rfl, rfl, rfl, rfl, subset_rfl⟩, ?_⟩
      intro _
      exact ⟨rfl, by rw [length_nil, take_zero, append_nil]⟩
  | cons filter filters ih =>
      cases hstack : s.mFilterIndexStack with
      | nil =>
          rw [hstack] at henough
          exact absurd henough (Nat.not_succ_le_zero _)
      | cons filterIndex rest =>
          have htracked : ∃ s' goesOn,
              (if mode = DELIVERY_MODE_ON_FOUND_LOST then
                allocateTracking env client { s with mFilterIndexStack := rest }
              else ({ s with mFilterIndexStack := rest }, true)) = (s', goesOn) ∧
              SameRadio s s' ∧ SameFilters { s with mFilterIndexStack := rest } s' ∧
              ((mode = DELIVERY_MODE_ON_FOUND_LOST → env.service = true) → goesOn = true) := by
            split
            · next hmode =>
                obtain ⟨hradio, hsame, hgoes⟩ :=
                  allocateTracking_same env client { s with mFilterIndexStack := rest }
                refine ⟨_, _, rfl, (stack_radio s rest).trans hradio, hsame, ?_⟩
                exact fun hservice => hgoes (hservice hmode)
            · exact ⟨_, _, rfl, ⟨rfl, rfl, rfl, rfl, rfl, rfl⟩, SameFilters.refl _, fun _ => rfl⟩
          obtain ⟨s₁, goesOn, heq, hradio, hsame, hgoes⟩ := htracked
          simp only [offloadFilters, hstack, heq]
          cases goesOn with
          | false =>
              refine ⟨s₁, none, 1, rfl, ⟨hradio, ?_, hsame.map, hsame.allPassRegular,
                hsame.allPassBatch, hsame.filters.symm.subset⟩, ?_⟩
              · rw [hsame.stack, hstack]
                rfl
              · intro hservice
                cases hgoes hservice
          | true =>
              have hrest : (s₁.filterParamAdd filterIndex).mFilterIndexStack = rest := hsame.stack
              have henough' : filters.length ≤
                  (s₁.filterParamAdd filterIndex).mFilterIndexStack.length := by
                rw [hrest]
                rw [hstack] at henough
                exact Nat.le_of_succ_le_succ henough
              obtain ⟨s', result, count, hok, hoff, hresult⟩ :=
                ih (indices ++ [filterIndex]) (s₁.filterParamAdd filterIndex) henough'
              refine ⟨s', result, count + 1, hok, ⟨hradio.trans
                ((filterParamAdd_radio filterIndex s₁).trans hoff.toSameRadio), ?_,
                hoff.map.trans hsame.map, hoff.allPassRegular.trans hsame.allPassRegular,
                hoff.allPassBatch.trans hsame.allPassBatch, ?_⟩, ?_⟩
              · rw [hoff.stack, hrest, hstack]
                rfl
              · have hadded : s.controller.filters ⊆
                    (s₁.filterParamAdd filterIndex).controller.filters := by
                  show s.controller.filters ⊆ insert filterIndex s₁.controller.filters
                  rw [hsame.filters]
                  exact Finset.subset_insert _ _
                exact hadded.trans hoff.filters
              · intro hservice
                obtain ⟨rfl, rfl⟩ := hresult hservice
                refine ⟨rfl, ?_⟩
                rw [hrest, length_cons, take_succ_cons, append_assoc,
                  singleton_append]

/-- The client was added to the clients of an all-pass filter, which is configured for the
first of them. -/
structure AllPassed (client : ScanClient F) (s s' : ScanManager F) : Prop
    extends SameRadio s s' where
  stack : s'.mFilterIndexStack = s.mFilterIndexStack
  map : s'.mClientFilterIndexMap = s.mClientFilterIndexMap
  allPassRegular : s'.mAllPassRegularClients =
    if getDeliveryMode client = DELIVERY_MODE_BATCH then s.mAllPassRegularClients
    else insert client.scannerId s.mAllPassRegularClients
  allPassBatch : s'.mAllPassBatchClients =
    if getDeliveryMode client = DELIVERY_MODE_BATCH then
      insert client.scannerId s.mAllPassBatchClients
    else s.mAllPassBatchClients
  filters : s'.controller.filters =
    if getDeliveryMode client = DELIVERY_MODE_BATCH then
      if s'.mAllPassBatchClients.card = 1 then
        insert ALL_PASS_FILTER_INDEX_BATCH_SCAN s.controller.filters
      else s.controller.filters
    else if s'.mAllPassRegularClients.card = 1 then
      insert ALL_PASS_FILTER_INDEX_REGULAR_SCAN s.controller.filters
    else s.controller.filters

theorem configureScanFilters_opportunistic (s : ScanManager F)
    (hopp : isOpportunisticScanClient client = true) :
    s.configureScanFilters env client = .ok s := by
  simp only [configureScanFilters, hopp, if_true]

theorem configureScanFilters_allPass (s : ScanManager F)
    (hopp : isOpportunisticScanClient client = false)
    (hall : s.shouldUseAllPassFilter client = true) :
    ∃ s', s.configureScanFilters env client = .ok s' ∧ AllPassed client s s' := by
  have hall' : ∀ regular batch : Finset Int,
      shouldUseAllPassFilter client { s with
        mAllPassRegularClients := regular, mAllPassBatchClients := batch } = true :=
    fun _ _ => hall
  by_cases hmode : getDeliveryMode client = DELIVERY_MODE_BATCH
  · by_cases hcard : (insert client.scannerId s.mAllPassBatchClients).card = 1
    · refine ⟨filterParamAdd ALL_PASS_FILTER_INDEX_BATCH_SCAN { s with
        mAllPassBatchClients := insert client.scannerId s.mAllPassBatchClients }, ?_,
        ⟨⟨rfl, rfl, rfl, rfl, rfl, rfl⟩, rfl, rfl, ?_, ?_, ?_⟩⟩
      · simp [configureScanFilters, shouldAddAllPassFilterToController, hopp, hall, hmode, hcard,
          hall' s.mAllPassRegularClients]
      · rw [if_pos hmode]
        rfl
      · rw [if_pos hmode]
        rfl
      · rw [if_pos hmode]
        exact (if_pos hcard).symm
    · refine ⟨{ s with
        mAllPassBatchClients := insert client.scannerId s.mAllPassBatchClients }, ?_,
        ⟨⟨rfl, rfl, rfl, rfl, rfl, rfl⟩, rfl, rfl, ?_, ?_, ?_⟩⟩
      · simp [configureScanFilters, shouldAddAllPassFilterToController, hopp, hall, hmode, hcard]
      · rw [if_pos hmode]
      · rw [if_pos hmode]
      · rw [if_pos hmode, if_neg hcard]
  · by_cases hcard : (insert client.scannerId s.mAllPassRegularClients).card = 1
    · refine ⟨filterParamAdd ALL_PASS_FILTER_INDEX_REGULAR_SCAN { s with
        mAllPassRegularClients := insert client.scannerId s.mAllPassRegularClients }, ?_,
        ⟨⟨rfl, rfl, rfl, rfl, rfl, rfl⟩, rfl, rfl, ?_, ?_, ?_⟩⟩
      · simp [configureScanFilters, shouldAddAllPassFilterToController, hopp, hall, hmode, hcard,
          hall' _ s.mAllPassBatchClients]
      · rw [if_neg hmode]
        rfl
      · rw [if_neg hmode]
        rfl
      · rw [if_neg hmode]
        exact (if_pos hcard).symm
    · refine ⟨{ s with
        mAllPassRegularClients := insert client.scannerId s.mAllPassRegularClients }, ?_,
        ⟨⟨rfl, rfl, rfl, rfl, rfl, rfl⟩, rfl, rfl, ?_, ?_, ?_⟩⟩
      · simp [configureScanFilters, shouldAddAllPassFilterToController, hopp, hall, hmode, hcard]
      · rw [if_neg hmode]
      · rw [if_neg hmode]
      · rw [if_neg hmode, if_neg hcard]

/-- The indices of the client are recorded, unless the service went away. -/
theorem configureScanFilters_offload (s : ScanManager F)
    (hopp : isOpportunisticScanClient client = false)
    (hall : s.shouldUseAllPassFilter client = false)
    (henough : client.filters.length ≤ s.mFilterIndexStack.length) :
    ∃ s' s₁ count, s.configureScanFilters env client = .ok s' ∧ Offloaded count s s₁ ∧
      SameRadio s s' ∧
      ((getDeliveryMode client = DELIVERY_MODE_ON_FOUND_LOST → env.service = true) →
        count = client.filters.length ∧
          s' = { s₁ with
            mClientFilterIndexMap := s₁.mClientFilterIndexMap.emplace client.scannerId
              (s.mFilterIndexStack.take client.filters.length) }) := by
  obtain ⟨s₁, result, count, hok, hoff, hresult⟩ :=
    offloadFilters_spec env client (getDeliveryMode client) client.filters [] s henough
  have hadd : s.shouldAddAllPassFilterToController client (getDeliveryMode client) = (s, true) := by
    simp [shouldAddAllPassFilterToController, hall]
  cases result with
  | none =>
      refine ⟨s₁, s₁, count, ?_, hoff, hoff.toSameRadio, ?_⟩
      · simp only [configureScanFilters, hopp, hadd, hall, hok, Bool.false_eq_true,
          not_true_eq_false, if_false]
        rfl
      · intro hservice
        cases (hresult hservice).2
  | some indices =>
      refine ⟨{ s₁ with mClientFilterIndexMap :=
        s₁.mClientFilterIndexMap.emplace client.scannerId indices }, s₁, count, ?_, hoff,
        hoff.toSameRadio.trans ⟨rfl, rfl, rfl, rfl, rfl, rfl⟩, ?_⟩
      · simp only [configureScanFilters, hopp, hadd, hall, hok, Bool.false_eq_true,
          not_true_eq_false, if_false]
        rfl
      · intro hservice
        obtain ⟨hcount, hindices⟩ := hresult hservice
        cases hindices
        exact ⟨hcount, rfl⟩

/-- A client that is not a routing one gets no more indices than the stack has. -/
theorem enough_of_not_routing {s : ScanManager F} (hrouting : isRoutingScanClient client = false)
    (hall : s.shouldUseAllPassFilter client = false) :
    client.filters.length ≤ s.mFilterIndexStack.length := by
  rw [shouldUseAllPassFilter, if_neg (by rw [hrouting]; exact Bool.false_ne_true)] at hall
  split at hall
  · cases hall
  · simpa using hall

theorem configureScanFilters_radio (s : ScanManager F)
    (henough : isRoutingScanClient client = true →
      client.filters.length ≤ s.mFilterIndexStack.length) :
    ∃ s', s.configureScanFilters env client = .ok s' ∧ SameRadio s s' := by
  cases hopp : isOpportunisticScanClient client with
  | true => exact ⟨s, configureScanFilters_opportunistic env client s hopp, SameRadio.refl s⟩
  | false =>
      cases hall : s.shouldUseAllPassFilter client with
      | true =>
          obtain ⟨s', hok, hpassed⟩ := configureScanFilters_allPass env client s hopp hall
          exact ⟨s', hok, hpassed.toSameRadio⟩
      | false =>
          have henough' : client.filters.length ≤ s.mFilterIndexStack.length := by
            cases hrouting : isRoutingScanClient client with
            | true => exact henough hrouting
            | false => exact enough_of_not_routing client hrouting hall
          obtain ⟨s', -, -, hok, -, hradio, -⟩ :=
            configureScanFilters_offload env client s hopp hall henough'
          exact ⟨s', hok, hradio⟩

/-! ## Taking indices back -/

/-- The indices that are recorded for a scanner. -/
def recorded (scannerId : Int) (s : ScanManager F) : List Nat :=
  (s.mClientFilterIndexMap.lookup scannerId).getD []

theorem filterParamDelete_foldl (indices : List Nat) (s : ScanManager F) :
    indices.foldl (fun s filterIndex => s.filterParamDelete filterIndex) s =
      { s with controller :=
          { s.controller with filters := s.controller.filters \ indices.toFinset } } := by
  induction indices generalizing s with
  | nil => simp
  | cons filterIndex indices ih =>
      rw [foldl_cons, ih]
      simp only [filterParamDelete, toFinset_cons, Finset.sdiff_insert,
        Finset.erase_sdiff_comm]

theorem recycleIndices_eq (scannerId : Int) (s : ScanManager F) :
    s.recycleIndices scannerId =
      { s with
        mFilterIndexStack := s.mFilterIndexStack ++ s.recorded scannerId
        controller := { s.controller with
          filters := s.controller.filters \ (s.recorded scannerId).toFinset } } := by
  unfold recycleIndices recorded
  cases s.mClientFilterIndexMap.lookup scannerId with
  | none => simp
  | some indices =>
      simp only [filterParamDelete_foldl]
      rfl

/-- The index of an all-pass filter that is taken back with the last of its clients. -/
def takenBack (clients : Finset Int) (scannerId : Int) (filterIndex : Nat) : Finset Nat :=
  if scannerId ∈ clients ∧ clients.erase scannerId = ∅ then {filterIndex} else ∅

theorem removeFilterIfExisits_eq (clients : Finset Int) (scannerId : Int) (filterIndex : Nat)
    (s : ScanManager F) :
    s.removeFilterIfExisits clients scannerId filterIndex =
      { s with controller := { s.controller with
          filters := s.controller.filters \ takenBack clients scannerId filterIndex } } := by
  unfold removeFilterIfExisits takenBack
  by_cases hmem : scannerId ∈ clients
  · by_cases hlast : clients.erase scannerId = ∅
    · rw [if_neg (not_not.2 hmem), if_pos hlast, if_pos ⟨hmem, hlast⟩, filterParamDelete,
        Finset.sdiff_singleton_eq_erase]
    · rw [if_neg (not_not.2 hmem), if_neg hlast, if_neg (fun h => hlast h.2), Finset.sdiff_empty]
  · rw [if_pos hmem, if_neg (fun h => hmem h.1), Finset.sdiff_empty]

theorem removeScanFilters_eq (scannerId : Int) (s : ScanManager F) :
    s.removeScanFilters scannerId =
      { s with
        mFilterIndexStack := s.mFilterIndexStack ++ s.recorded scannerId
        mClientFilterIndexMap := s.mClientFilterIndexMap.erase scannerId
        controller := { s.controller with
          filters := ((s.controller.filters \ (s.recorded scannerId).toFinset) \
            takenBack s.mAllPassRegularClients scannerId ALL_PASS_FILTER_INDEX_REGULAR_SCAN) \
            takenBack s.mAllPassBatchClients scannerId ALL_PASS_FILTER_INDEX_BATCH_SCAN } } := by
  simp only [removeScanFilters, recycleIndices_eq, removeFilterIfExisits_eq]

theorem removeScanFilters_radio (scannerId : Int) (s : ScanManager F) :
    SameRadio s (s.removeScanFilters scannerId) := by
  rw [removeScanFilters_eq]
  exact ⟨rfl, rfl, rfl, rfl, rfl, rfl⟩

/-! ## The start of a regular client -/

/-- The pool as `startRegularScan` finds it after the initialisation. -/
def readyRegular (s : ScanManager F) : ScanManager F :=
  if env.filteringSupported ∧ s.mFilterIndexStack = [] ∧ s.mClientFilterIndexMap.entries = [] then
    s.initFilterIndexStack env
  else s

/-- A routing client is refused if it has more filters than indices are left. -/
def refused (s : ScanManager F) : Prop :=
  isRoutingScanClient client = true ∧
    client.filters.length > (s.readyRegular env).mFilterIndexStack.length

theorem initFilterIndexStack_radio (s : ScanManager F) :
    SameRadio s (s.initFilterIndexStack env) := by
  unfold initFilterIndexStack
  split
  · exact stack_radio s _
  · exact SameRadio.refl s

theorem readyRegular_radio (s : ScanManager F) : SameRadio s (s.readyRegular env) := by
  unfold readyRegular
  split
  · exact initFilterIndexStack_radio env s
  · exact SameRadio.refl s

theorem SameRadio.numRegularScanClients {s s' : ScanManager F} (h : SameRadio s s') :
    s'.numRegularScanClients = s.numRegularScanClients := by
  unfold ScanManager.numRegularScanClients
  rw [h.regular]

/-- The filters of a client that is not refused, where the controller has any. -/
def filtersOf (s : ScanManager F) : Except Undefined (ScanManager F) :=
  if env.filteringSupported then (s.readyRegular env).configureScanFilters env client
  else .ok (s.readyRegular env)

theorem startRegularScan_eq (s : ScanManager F) :
    s.startRegularScan env client =
      if isRoutingScanClient client = true ∧
          client.filters.length > (s.readyRegular env).mFilterIndexStack.length then
        .ok (if env.service then
          (s.readyRegular env).errorCallback client.scannerId SCAN_FAILED_OUT_OF_HARDWARE_RESOURCES
          else s.readyRegular env, false)
      else (s.filtersOf env client).map fun s =>
        (if s.numRegularScanClients = 1 then s.scanNative true else s, true) := by
  unfold startRegularScan filtersOf
  show (if isRoutingScanClient client = true ∧
    client.filters.length > (s.readyRegular env).mFilterIndexStack.length then _ else _) = _
  split
  · split
    · rfl
    · rfl
  · show (if env.filteringSupported = true then _ else _) = _
    split
    · show ((s.readyRegular env).configureScanFilters env client >>= _) = _
      cases (s.readyRegular env).configureScanFilters env client with
      | error e => rfl
      | ok s' => rfl
    · rfl

theorem startRegularScan_refused (s : ScanManager F) (h : s.refused env client) :
    ∃ s', s.startRegularScan env client = .ok (s', false) ∧ SameRadio s s' ∧
      SameFilters (s.readyRegular env) s' := by
  have hready := readyRegular_radio env s
  unfold refused at h
  rw [startRegularScan_eq, if_pos h]
  split
  · exact ⟨_, rfl, hready.trans (errorCallback_radio _ _ _), errorCallback_filters _ _ _⟩
  · exact ⟨_, rfl, hready, SameFilters.refl _⟩

theorem startRegularScan_accepted (s : ScanManager F) (h : ¬ s.refused env client) :
    ∃ s', s.filtersOf env client = .ok s' ∧ SameRadio s s' ∧
      s.startRegularScan env client =
        .ok (if s.numRegularScanClients = 1 then s'.scanNative true else s', true) := by
  have hready := readyRegular_radio env s
  have hfilters : ∃ s', s.filtersOf env client = .ok s' ∧ SameRadio s s' := by
    unfold filtersOf
    split
    · obtain ⟨s', hok, hradio⟩ := configureScanFilters_radio env client (s.readyRegular env)
        fun hrouting => Nat.not_lt.1 fun hless => h ⟨hrouting, hless⟩
      exact ⟨s', hok, hready.trans hradio⟩
    · exact ⟨_, rfl, hready⟩
  obtain ⟨s', hok, hradio⟩ := hfilters
  refine ⟨s', hok, hradio, ?_⟩
  unfold refused at h
  rw [startRegularScan_eq, if_neg h, hok, ← hradio.numRegularScanClients]
  rfl

theorem refused_clients_iff (s : ScanManager F) (clients : Finset (ScanClient F)) :
    refused env client { s with mRegularScanClients := clients } ↔
      s.refused env client := by
  have hstack : (readyRegular env
      { s with mRegularScanClients := clients }).mFilterIndexStack =
        (s.readyRegular env).mFilterIndexStack := by
    unfold readyRegular initFilterIndexStack
    split
    · split
      · rfl
      · rfl
    · rfl
  unfold refused
  rw [hstack]

variable [DecidableEq F]

/-- A refused client is not among the clients any more. -/
theorem startRegularClient_refused {s : ScanManager F} (hnew : client ∉ s.mRegularScanClients)
    (hrefused : refused env client
      { s with mRegularScanClients := insert client s.mRegularScanClients }) :
    ∃ s', s.startRegularClient env client = .ok s' ∧ SameRadio s s' ∧
      SameFilters (readyRegular env
        { s with mRegularScanClients := insert client s.mRegularScanClients }) s' := by
  obtain ⟨s₁, hok, hradio, hfilters⟩ := startRegularScan_refused env client _ hrefused
  unfold startRegularClient
  simp only [hok]
  refine ⟨{ s₁ with mRegularScanClients := s₁.mRegularScanClients.erase client }, rfl, ?_, ?_⟩
  · refine ⟨?_, hradio.batch, hradio.lastLE1M, hradio.lastLECoded, hradio.scanning,
      hradio.parameters⟩
    show s₁.mRegularScanClients.erase client = s.mRegularScanClients
    rw [hradio.regular]
    exact Finset.erase_insert hnew
  · exact hfilters.trans ⟨rfl, rfl, rfl, rfl, rfl⟩

/-! ## The stop of a regular client -/

/-- Where the service is there for the tracking entries of the client, the stop goes on. -/
theorem stopRegularScan_reaches (s : ScanManager F)
    (hservice : getDeliveryMode client = DELIVERY_MODE_ON_FOUND_LOST → client.filters ≠ [] →
      env.service = true) :
    ∃ s₁, SameRadio s s₁ ∧ SameFilters s s₁ ∧
      s.stopRegularScan env client = removeScanFilters client.scannerId
        (if numRegularScanClients
              { s₁ with mRegularScanClients := s₁.mRegularScanClients.erase client } = 0 then
          scanNative false
            { s₁ with mRegularScanClients := s₁.mRegularScanClients.erase client }
        else { s₁ with mRegularScanClients := s₁.mRegularScanClients.erase client }) := by
  have hfreed : ∃ s₁, (if getDeliveryMode client = DELIVERY_MODE_ON_FOUND_LOST then
        freeTracking env client client.filters s else (s, true)) = (s₁, true) ∧
      SameRadio s s₁ ∧ SameFilters s s₁ := by
    split
    · next hmode =>
        obtain ⟨hradio, hfilters, hends⟩ := freeTracking_same env client client.filters s
        refine ⟨(freeTracking env client client.filters s).1, ?_, hradio, hfilters⟩
        by_cases hnone : client.filters = []
        · rw [hnone]
          rfl
        · exact Prod.ext rfl (hends (hservice hmode hnone))
    · exact ⟨s, rfl, SameRadio.refl s, SameFilters.refl s⟩
  obtain ⟨s₁, heq, hradio, hfilters⟩ := hfreed
  refine ⟨s₁, hradio, hfilters, ?_⟩
  unfold stopRegularScan
  rw [heq]
  rfl

end Gatt.Scan.ScanManager
