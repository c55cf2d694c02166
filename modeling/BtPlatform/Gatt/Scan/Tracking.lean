import BtPlatform.Gatt.Scan.Filters
import BtPlatform.Support.Status
import Mathlib.Algebra.BigOperators.Group.Finset.Basic
import Mathlib.Algebra.Order.BigOperators.Group.Finset

/-!
# Tracking entries

The controller tracks a limited number of advertisements for the clients that ask for the first
and the last match. Entries are taken for each filter when such a client starts, and given back
for each filter when it stops. What every client got is followed beside the manager's count.
-/

namespace Gatt.Scan

open Support Function List

variable {F : Type}

/-- The entries for one filter, while the service is there. -/
def entriesFor (total : Int) (settings : ScanSettings) : Int :=
  if settings.numOfMatches = 1 then 1
  else if settings.numOfMatches = 2 then 2
  else if settings.numOfMatches = 3 then total.tdiv 2
  else 1

/-- What a number of filters is granted when some entries are in use. -/
def granted (total entries : Int) : Nat → Int → Int
  | 0, _ => 0
  | n + 1, used =>
      if total - used ≥ entries then entries + granted total entries n (used + entries)
      else granted total entries n used

/-- What is in use after the entries of a number of filters were given back. -/
def leftAfter (entries : Int) : Nat → Int → Int
  | 0, used => used
  | n + 1, used =>
      if entries > used then leftAfter entries n used else leftAfter entries n (used - entries)

theorem succ_mul_entries (n : Nat) (entries : Int) :
    ((n + 1 : Nat) : Int) * entries = n * entries + entries := by
  rw [Int.natCast_add, Int.natCast_one, Int.add_mul, Int.one_mul]

theorem entriesFor_nonneg {total : Int} (htotal : 0 ≤ total) (settings : ScanSettings) :
    0 ≤ entriesFor total settings := by
  unfold entriesFor
  split
  · decide
  · split
    · decide
    · split
      · exact Int.tdiv_nonneg htotal (by decide)
      · decide

/-- All filters are granted their entries if these fit. -/
theorem granted_all {total entries used : Int} (hentries : 0 ≤ entries) {n : Nat}
    (hfit : n * entries ≤ total - used) : granted total entries n used = n * entries := by
  induction n generalizing used with
  | zero => simp [granted]
  | succ n ih =>
      have hsplit := succ_mul_entries n entries
      have hpos : 0 ≤ (n : Int) * entries := Int.mul_nonneg (Int.natCast_nonneg n) hentries
      rw [hsplit] at hfit ⊢
      unfold granted
      rw [if_pos (by omega), ih (by omega)]
      omega

theorem granted_none {total entries used : Int} (hfull : total - used < entries) (n : Nat) :
    granted total entries n used = 0 := by
  induction n with
  | zero => rfl
  | succ n ih =>
      unfold granted
      rw [if_neg (Int.not_le.2 hfull), ih]

theorem leftAfter_all {entries used : Int} (hentries : 0 ≤ entries) {n : Nat}
    (hheld : n * entries ≤ used) : leftAfter entries n used = used - n * entries := by
  induction n generalizing used with
  | zero => simp [leftAfter]
  | succ n ih =>
      have hsplit := succ_mul_entries n entries
      have hpos : 0 ≤ (n : Int) * entries := Int.mul_nonneg (Int.natCast_nonneg n) hentries
      rw [hsplit] at hheld ⊢
      unfold leftAfter
      rw [if_neg (by omega), ih (by omega)]
      omega

theorem leftAfter_none {entries used : Int} (hfew : used < entries) (n : Nat) :
    leftAfter entries n used = used := by
  induction n with
  | zero => rfl
  | succ n ih =>
      unfold leftAfter
      rw [if_pos hfew, ih]

namespace ScanManager

/-! ## The count of the entries in use -/

variable {env : Env F} {client : ScanClient F} {s s' : ScanManager F}

theorem getNumOfTrackingAdvertisements_eq (hservice : env.service = true)
    (settings : ScanSettings) : getNumOfTrackingAdvertisements env settings =
      entriesFor env.maxTotalTrackableAdvertisements settings := by
  unfold getNumOfTrackingAdvertisements entriesFor
  rw [if_neg (not_not.2 hservice)]

theorem manageAllocation_allocate (hservice : env.service = true) (entries : Int)
    (s : ScanManager F) :
    s.manageAllocationOfTrackingAdvertisement env entries true =
      if env.maxTotalTrackableAdvertisements - s.mCurUsedTrackableAdvertisements ≥ entries then
        ({ s with mCurUsedTrackableAdvertisements :=
          s.mCurUsedTrackableAdvertisements + entries }, true)
      else (s, false) := by
  unfold manageAllocationOfTrackingAdvertisement
  rw [if_neg (not_not.2 hservice), if_pos rfl]

theorem manageAllocation_free (hservice : env.service = true) (entries : Int)
    (s : ScanManager F) :
    s.manageAllocationOfTrackingAdvertisement env entries false =
      if entries > s.mCurUsedTrackableAdvertisements then (s, false)
      else ({ s with mCurUsedTrackableAdvertisements :=
        s.mCurUsedTrackableAdvertisements - entries }, true) := by
  unfold manageAllocationOfTrackingAdvertisement
  rw [if_neg (not_not.2 hservice), if_neg Bool.false_ne_true]

theorem manageAllocation_gone (hservice : ¬env.service = true) (entries : Int)
    (allocate : Bool) (s : ScanManager F) :
    s.manageAllocationOfTrackingAdvertisement env entries allocate = (s, false) := by
  unfold manageAllocationOfTrackingAdvertisement
  rw [if_pos hservice]

theorem allocateTracking_used (hservice : env.service = true) (s : ScanManager F) :
    (s.allocateTracking env client).2 = true ∧
      (s.allocateTracking env client).1.mCurUsedTrackableAdvertisements =
        s.mCurUsedTrackableAdvertisements +
          if env.maxTotalTrackableAdvertisements - s.mCurUsedTrackableAdvertisements ≥
            entriesFor env.maxTotalTrackableAdvertisements client.settings then
            entriesFor env.maxTotalTrackableAdvertisements client.settings
          else 0 := by
  unfold allocateTracking
  dsimp only
  rw [getNumOfTrackingAdvertisements_eq hservice, manageAllocation_allocate hservice]
  by_cases hfit : env.maxTotalTrackableAdvertisements - s.mCurUsedTrackableAdvertisements ≥
      entriesFor env.maxTotalTrackableAdvertisements client.settings
  · rw [if_pos hfit, if_pos hfit]
    exact ⟨rfl, rfl⟩
  · rw [if_neg hfit, if_neg hfit]
    dsimp only
    rw [if_pos hservice]
    exact ⟨rfl, (Int.add_zero _).symm⟩

theorem allocateTracking_gone (hservice : ¬env.service = true) (s : ScanManager F) :
    s.allocateTracking env client = (s, false) := by
  unfold allocateTracking
  dsimp only
  rw [manageAllocation_gone hservice]
  dsimp only
  rw [if_neg hservice]

/-- What the loop over the filters takes. -/
theorem offloadFilters_used {mode : Nat} {filters : List F} {indices : List Nat}
    {result : Option (List Nat)}
    (hok : s.offloadFilters env client mode filters indices = .ok (s', result)) :
    s'.mCurUsedTrackableAdvertisements = s.mCurUsedTrackableAdvertisements +
      if mode = DELIVERY_MODE_ON_FOUND_LOST ∧ env.service = true then
        granted env.maxTotalTrackableAdvertisements
          (entriesFor env.maxTotalTrackableAdvertisements client.settings) filters.length
          s.mCurUsedTrackableAdvertisements
      else 0 := by
  induction filters generalizing indices s with
  | nil =>
      cases hok
      simp [granted]
  | cons filter filters ih =>
      cases hstack : s.mFilterIndexStack with
      | nil =>
          simp only [offloadFilters, hstack] at hok
          cases hok
      | cons filterIndex rest =>
          simp only [offloadFilters, hstack] at hok
          by_cases hmode : mode = DELIVERY_MODE_ON_FOUND_LOST
          · by_cases hservice : env.service = true
            · obtain ⟨hgoes, hused⟩ := @allocateTracking_used F env client hservice
                { s with mFilterIndexStack := rest }
              rw [if_pos hmode, hgoes, if_pos rfl] at hok
              have hrest := ih hok
              rw [if_pos ⟨hmode, hservice⟩] at hrest ⊢
              rw [hrest]
              change (allocateTracking env client _).1.mCurUsedTrackableAdvertisements +
                granted _ _ _ (allocateTracking env client _).1.mCurUsedTrackableAdvertisements = _
              rw [hused, length_cons]
              change s.mCurUsedTrackableAdvertisements + _ + granted _ _ _
                (s.mCurUsedTrackableAdvertisements + _) = _
              conv_rhs => unfold granted
              split
              · rw [Int.add_assoc]
              · rw [Int.add_zero]
            · rw [if_pos hmode, allocateTracking_gone hservice] at hok
              simp only [Bool.false_eq_true, if_false] at hok
              cases hok
              rw [if_neg (fun h => hservice h.2), Int.add_zero]
          · rw [if_neg hmode] at hok
            simp only [if_true] at hok
            have hrest := ih hok
            rw [if_neg (fun h => hmode h.1)] at hrest ⊢
            exact hrest

/-- The client takes entries for its filters. -/
def Tracks (env : Env F) (client : ScanClient F) (s : ScanManager F) : Prop :=
  isOpportunisticScanClient client = false ∧ s.shouldUseAllPassFilter client = false ∧
    getDeliveryMode client = DELIVERY_MODE_ON_FOUND_LOST ∧ env.service = true

instance (env : Env F) (client : ScanClient F) (s : ScanManager F) :
    Decidable (s.Tracks env client) :=
  inferInstanceAs (Decidable (_ ∧ _ ∧ _ ∧ _))

/-- The entries that the client gets. -/
def taken (env : Env F) (client : ScanClient F) (s : ScanManager F) : Int :=
  if s.Tracks env client then
    granted env.maxTotalTrackableAdvertisements
      (entriesFor env.maxTotalTrackableAdvertisements client.settings) client.filters.length
      s.mCurUsedTrackableAdvertisements
  else 0

theorem shouldAddAllPass_same (mode : Nat) (s : ScanManager F) :
    (s.shouldAddAllPassFilterToController client mode).1.mCurUsedTrackableAdvertisements =
        s.mCurUsedTrackableAdvertisements ∧
      (s.shouldAddAllPassFilterToController client mode).1.mFilterIndexStack =
        s.mFilterIndexStack := by
  unfold shouldAddAllPassFilterToController
  split
  · exact ⟨rfl, rfl⟩
  · split
    · exact ⟨rfl, rfl⟩
    · exact ⟨rfl, rfl⟩

theorem shouldUseAllPass_of_stack (h : s'.mFilterIndexStack = s.mFilterIndexStack) :
    s'.shouldUseAllPassFilter client = s.shouldUseAllPassFilter client := by
  unfold shouldUseAllPassFilter
  rw [h]

theorem shouldAddAllPass_not (mode : Nat) (hall : s.shouldUseAllPassFilter client = false) :
    s.shouldAddAllPassFilterToController client mode = (s, true) := by
  unfold shouldAddAllPassFilterToController
  rw [if_pos (by rw [hall]; exact Bool.false_ne_true)]

theorem configureScanFilters_used (hok : s.configureScanFilters env client = .ok s') :
    s'.mCurUsedTrackableAdvertisements =
      s.mCurUsedTrackableAdvertisements + s.taken env client := by
  cases hopp : isOpportunisticScanClient client with
  | true =>
      rw [configureScanFilters_opportunistic env client s hopp] at hok
      cases hok
      have hnot : ¬s.Tracks env client := by
        rintro ⟨h, -⟩
        rw [hopp] at h
        cases h
      rw [taken, if_neg hnot, Int.add_zero]
  | false =>
      unfold configureScanFilters at hok
      dsimp only at hok
      rw [if_neg (by rw [hopp]; exact Bool.false_ne_true)] at hok
      cases hall : s.shouldUseAllPassFilter client with
      | true =>
          have hnot : ¬s.Tracks env client := by
            rintro ⟨-, h, -⟩
            rw [hall] at h
            cases h
          obtain ⟨hused, hstack⟩ :=
            @shouldAddAllPass_same F client (getDeliveryMode client) s
          rw [shouldUseAllPass_of_stack hstack, hall] at hok
          rw [taken, if_neg hnot, Int.add_zero]
          split at hok
          · cases hok
            exact hused
          · rw [if_pos rfl] at hok
            cases hok
            exact hused
      | false =>
          rw [shouldAddAllPass_not _ hall] at hok
          simp only [not_true_eq_false, if_false, hall, Bool.false_eq_true] at hok
          obtain ⟨⟨s₁, indices⟩, hoff, hok⟩ := bind_eq_ok.1 hok
          have hused := offloadFilters_used hoff
          have hsame : s'.mCurUsedTrackableAdvertisements = s₁.mCurUsedTrackableAdvertisements := by
            cases indices with
            | none =>
                cases hok
                rfl
            | some indices =>
                cases hok
                rfl
          rw [hsame, hused]
          unfold taken Tracks
          simp only [hopp, hall, true_and]

/-! ## A start -/

theorem not_tracks_of_mode (h : getDeliveryMode client ≠ DELIVERY_MODE_ON_FOUND_LOST)
    (s : ScanManager F) : s.taken env client = 0 := by
  unfold taken
  rw [if_neg (fun htracks => h htracks.2.2.1)]

theorem readyRegular_used (s : ScanManager F) :
    (s.readyRegular env).mCurUsedTrackableAdvertisements = s.mCurUsedTrackableAdvertisements := by
  unfold readyRegular initFilterIndexStack
  split
  · split
    · rfl
    · rfl
  · rfl

theorem taken_congr (hstack : s'.mFilterIndexStack = s.mFilterIndexStack)
    (hused : s'.mCurUsedTrackableAdvertisements = s.mCurUsedTrackableAdvertisements) :
    s'.taken env client = s.taken env client := by
  have hiff : s'.Tracks env client ↔ s.Tracks env client := by
    unfold Tracks
    rw [shouldUseAllPass_of_stack hstack]
  unfold taken
  simp only [hiff, hused]

/-- What a client that starts gets. -/
def asks (env : Env F) (client : ScanClient F) (s : ScanManager F) : Int :=
  if env.filteringSupported then (s.readyRegular env).taken env client else 0

theorem asks_clients (clients : Finset (ScanClient F)) :
    asks env client { s with mRegularScanClients := clients } = s.asks env client := by
  unfold asks
  split
  · refine taken_congr ?_ ?_
    · unfold readyRegular initFilterIndexStack
      split
      · split
        · rfl
        · rfl
      · rfl
    · rw [readyRegular_used, readyRegular_used]
  · rfl

theorem routing_mode (h : isRoutingScanClient client = true) :
    getDeliveryMode client ≠ DELIVERY_MODE_ON_FOUND_LOST := by
  have htype : client.settings.callbackType = CALLBACK_TYPE_SENSOR_ROUTING := of_decide_eq_true h
  unfold getDeliveryMode
  rw [htype, if_neg (by decide), if_pos h]
  decide

theorem batch_mode (h : isBatchClient client = true) :
    getDeliveryMode client ≠ DELIVERY_MODE_ON_FOUND_LOST := by
  have htype : client.settings.callbackType = CALLBACK_TYPE_ALL_MATCHES :=
    (of_decide_eq_true h).1
  unfold getDeliveryMode
  rw [htype, if_neg (by decide)]
  split
  · decide
  · split
    · decide
    · decide

theorem startRegularScan_used {ret : Bool}
    (hok : s.startRegularScan env client = .ok (s', ret)) :
    s'.mCurUsedTrackableAdvertisements =
        s.mCurUsedTrackableAdvertisements + s.asks env client ∧
      (ret = false → s.asks env client = 0) ∧
      s'.mRegularScanClients = s.mRegularScanClients := by
  by_cases hrefused : s.refused env client
  · obtain ⟨s₁, hok₁, hradio, -⟩ := startRegularScan_refused env client s hrefused
    have hzero : s.asks env client = 0 := by
      unfold asks
      split
      · exact not_tracks_of_mode (routing_mode hrefused.1) _
      · rfl
    have hused : s'.mCurUsedTrackableAdvertisements = s.mCurUsedTrackableAdvertisements := by
      unfold refused at hrefused
      rw [startRegularScan_eq, if_pos hrefused] at hok
      cases hok
      split
      · exact readyRegular_used s
      · exact readyRegular_used s
    rw [hok₁] at hok
    cases hok
    rw [hzero, Int.add_zero]
    exact ⟨hused, fun _ => rfl, hradio.regular⟩
  · obtain ⟨s₁, hfilters, hradio, hok₁⟩ := startRegularScan_accepted env client s hrefused
    rw [hok₁] at hok
    have hused : s₁.mCurUsedTrackableAdvertisements =
        s.mCurUsedTrackableAdvertisements + s.asks env client := by
      unfold filtersOf at hfilters
      unfold asks
      split at hfilters
      · next hsupported =>
          rw [if_pos hsupported, configureScanFilters_used hfilters, readyRegular_used]
      · next hsupported =>
          cases hfilters
          rw [if_neg hsupported, Int.add_zero, readyRegular_used]
    cases hok
    split
    · exact ⟨hused, nofun, hradio.regular⟩
    · exact ⟨hused, nofun, hradio.regular⟩

/-- The parameters of the scan have nothing to do with the entries. -/
theorem configureRegularScanParams_used
    (hok : s.configureRegularScanParams env = .ok s') :
    s'.mCurUsedTrackableAdvertisements = s.mCurUsedTrackableAdvertisements ∧
      s'.mRegularScanClients = s.mRegularScanClients := by
  -- the mode of a PHY without a client that asks for a scan is remembered first
  have hif : ∀ (c c' : Prop) [Decidable c] [Decidable c'] (m m' : Int),
      let s₁ := if c then s else { s with mLastConfiguredScanSettingLE1M := m }
      let s₂ := if c' then s₁ else { s₁ with mLastConfiguredScanSettingLECoded := m' }
      s₂.mCurUsedTrackableAdvertisements = s.mCurUsedTrackableAdvertisements ∧
        s₂.mRegularScanClients = s.mRegularScanClients := by
    intro c c' _ _ m m'
    dsimp only
    split
    · split
      · exact ⟨rfl, rfl⟩
      · exact ⟨rfl, rfl⟩
    · split
      · exact ⟨rfl, rfl⟩
      · exact ⟨rfl, rfl⟩
  unfold configureRegularScanParams at hok
  rcases ite_eq_iff.1 hok with ⟨-, hok⟩ | ⟨-, hok⟩
  · cases hclient : getAggressiveClient (env.order s.mRegularScanClients) with
    | none =>
        rw [hclient] at hok
        cases hok
    | some client =>
        rw [hclient] at hok
        cases hok
        exact hif _ _ _ _
  · cases hok
    exact hif _ _ _ _

theorem regularScanTimeout_used (hok : s.regularScanTimeout env = .ok s') :
    s'.mCurUsedTrackableAdvertisements = s.mCurUsedTrackableAdvertisements ∧
      s'.mRegularScanClients = s.mRegularScanClients := by
  obtain ⟨s₁, hparams, hok⟩ := bind_eq_ok.1 hok
  obtain ⟨hused, hclients⟩ := configureRegularScanParams_used hparams
  cases hok
  split
  · exact ⟨hused, hclients⟩
  · exact ⟨hused, hclients⟩

theorem startBatchScan_used (hbatch : isBatchClient client = true)
    (hok : s.startBatchScan env client = .ok s') :
    s'.mCurUsedTrackableAdvertisements = s.mCurUsedTrackableAdvertisements ∧
      s'.mRegularScanClients = s.mRegularScanClients := by
  unfold startBatchScan at hok
  dsimp only at hok
  have hready : ∀ (c : Prop) [Decidable c],
      (if c then s.initFilterIndexStack env else s).mCurUsedTrackableAdvertisements =
          s.mCurUsedTrackableAdvertisements ∧
        SameRadio s (if c then s.initFilterIndexStack env else s) := by
    intro c _
    split
    · refine ⟨?_, initFilterIndexStack_radio env s⟩
      unfold initFilterIndexStack
      split
      · rfl
      · rfl
    · exact ⟨rfl, SameRadio.refl s⟩
  obtain ⟨hused, hradio⟩ := hready (s.mFilterIndexStack = [] ∧ env.filteringSupported = true)
  have hconfigured := configureScanFilters_used hok
  rw [not_tracks_of_mode (batch_mode hbatch), Int.add_zero] at hconfigured
  obtain ⟨s₁, hok₁, hradio₁⟩ := configureScanFilters_radio env client
    (if s.mFilterIndexStack = [] ∧ env.filteringSupported = true then s.initFilterIndexStack env
      else s) (fun hrouting => by
        have htype : client.settings.callbackType = CALLBACK_TYPE_SENSOR_ROUTING :=
          of_decide_eq_true hrouting
        have hmatches : client.settings.callbackType = CALLBACK_TYPE_ALL_MATCHES :=
          (of_decide_eq_true hbatch).1
        rw [htype] at hmatches
        cases hmatches)
  rw [hok] at hok₁
  cases hok₁
  exact ⟨hconfigured.trans hused, hradio₁.regular.trans hradio.regular⟩

section Handlers

variable [DecidableEq F]

/-- A regular client is added, with the entries it asks for, or nothing changes. -/
theorem startRegularClient_used (hnew : client ∉ s.mRegularScanClients)
    (hok : s.startRegularClient env client = .ok s') :
    (s'.mCurUsedTrackableAdvertisements = s.mCurUsedTrackableAdvertisements ∧
        s'.mRegularScanClients = s.mRegularScanClients) ∨
      s'.mRegularScanClients = insert client s.mRegularScanClients ∧
        s'.mCurUsedTrackableAdvertisements =
          s.mCurUsedTrackableAdvertisements + s.asks env client := by
  obtain ⟨⟨s₁, ret⟩, hstart, hok⟩ := bind_eq_ok.1 hok
  obtain ⟨hused, hnone, hclients⟩ := startRegularScan_used hstart
  rw [asks_clients] at hused hnone
  cases ret with
  | false =>
      cases hok
      refine .inl ⟨?_, ?_⟩
      · rw [hnone rfl, Int.add_zero] at hused
        exact hused
      · change s₁.mRegularScanClients.erase client = _
        rw [hclients]
        exact Finset.erase_insert hnew
  | true =>
      refine .inr ?_
      dsimp only at hok
      rw [if_neg Bool.noConfusion] at hok
      split at hok
      · cases hok
        exact ⟨hclients, hused⟩
      · obtain ⟨s₂, hparams, hok⟩ := bind_eq_ok.1 hok
        obtain ⟨hused₂, hclients₂⟩ := configureRegularScanParams_used hparams
        split at hok
        · cases hok
          exact ⟨hclients₂.trans hclients, hused₂.trans hused⟩
        · obtain ⟨hused₃, hclients₃⟩ := regularScanTimeout_used hok
          exact ⟨hclients₃.trans (hclients₂.trans hclients), hused₃.trans (hused₂.trans hused)⟩

/-- What a start does: nothing to the entries, or a new regular client takes what it asks for. -/
theorem handleStartScan_used (hok : s.handleStartScan env client = .ok s') :
    (s'.mCurUsedTrackableAdvertisements = s.mCurUsedTrackableAdvertisements ∧
        s'.mRegularScanClients = s.mRegularScanClients) ∨
      client ∉ s.mRegularScanClients ∧
        s'.mRegularScanClients = insert client s.mRegularScanClients ∧
        s'.mCurUsedTrackableAdvertisements =
          s.mCurUsedTrackableAdvertisements + s.asks env client := by
  unfold handleStartScan at hok
  split at hok
  · cases hok
    exact .inl ⟨rfl, rfl⟩
  · split at hok
    · cases hok
      exact .inl ⟨rfl, rfl⟩
    · next hnew =>
        have hnew : client ∉ s.mRegularScanClients := fun hmem => hnew (.inl hmem)
        split at hok
        · next hbatch => exact .inl (startBatchScan_used
              (s := { s with mBatchClients := insert client s.mBatchClients }) hbatch hok)
        · rcases startRegularClient_used hnew hok with hsame | ⟨hclients, hused⟩
          · exact .inl hsame
          · exact .inr ⟨hnew, hclients, hused⟩

end Handlers

/-! ## A stop -/

theorem freeTracking_used (hservice : env.service = true) (filters : List F)
    (s : ScanManager F) :
    (freeTracking env client filters s).2 = true ∧
      (freeTracking env client filters s).1.mCurUsedTrackableAdvertisements =
        leftAfter (entriesFor env.maxTotalTrackableAdvertisements client.settings) filters.length
          s.mCurUsedTrackableAdvertisements := by
  induction filters generalizing s with
  | nil => exact ⟨rfl, rfl⟩
  | cons filter filters ih =>
      unfold freeTracking
      dsimp only
      rw [getNumOfTrackingAdvertisements_eq hservice, manageAllocation_free hservice,
        length_cons]
      by_cases hfew : entriesFor env.maxTotalTrackableAdvertisements client.settings >
          s.mCurUsedTrackableAdvertisements
      · rw [if_pos hfew]
        dsimp only
        rw [if_pos hservice, leftAfter, if_pos hfew]
        exact ih _
      · rw [if_neg hfew, leftAfter, if_neg hfew]
        exact ih _

section Handlers

variable [DecidableEq F]

/-- The client of a stop is removed, and its entries are given back; without the service it may
stay. -/
theorem stopRegularScan_used (s : ScanManager F) :
    s.stopRegularScan env client = s ∨
      (getDeliveryMode client = DELIVERY_MODE_ON_FOUND_LOST → client.filters ≠ [] →
          env.service = true) ∧
        (s.stopRegularScan env client).mRegularScanClients = s.mRegularScanClients.erase client ∧
        (s.stopRegularScan env client).mCurUsedTrackableAdvertisements =
          if getDeliveryMode client = DELIVERY_MODE_ON_FOUND_LOST then
            leftAfter (entriesFor env.maxTotalTrackableAdvertisements client.settings)
              client.filters.length s.mCurUsedTrackableAdvertisements
          else s.mCurUsedTrackableAdvertisements := by
  have hrest : ∀ s₁ : ScanManager F,
      let s₂ := { s₁ with mRegularScanClients := s₁.mRegularScanClients.erase client }
      let s₃ := removeScanFilters client.scannerId
        (if s₂.numRegularScanClients = 0 then s₂.scanNative false else s₂)
      s₃.mRegularScanClients = s₁.mRegularScanClients.erase client ∧
        s₃.mCurUsedTrackableAdvertisements = s₁.mCurUsedTrackableAdvertisements := by
    intro s₁
    dsimp only
    rw [removeScanFilters_eq]
    split
    · exact ⟨rfl, rfl⟩
    · exact ⟨rfl, rfl⟩
  by_cases hmode : getDeliveryMode client = DELIVERY_MODE_ON_FOUND_LOST
  · by_cases hservice : env.service = true
    · obtain ⟨hends, hused⟩ := @freeTracking_used F env client hservice client.filters s
      obtain ⟨hradio, -, -⟩ := freeTracking_same env client client.filters s
      obtain ⟨hclients, hsame⟩ := hrest (freeTracking env client client.filters s).1
      have hfreed : freeTracking env client client.filters s =
          ((freeTracking env client client.filters s).1, true) := Prod.ext rfl hends
      unfold stopRegularScan
      rw [if_pos hmode, hfreed]
      dsimp only
      rw [if_neg Bool.noConfusion, if_pos hmode]
      exact .inr ⟨fun _ _ => hservice, hclients.trans (by rw [hradio.regular]), hsame.trans hused⟩
    · cases hfilters : client.filters with
      | nil =>
          obtain ⟨hclients, hsame⟩ := hrest s
          unfold stopRegularScan
          rw [if_pos hmode, hfilters]
          exact .inr ⟨fun _ hne => absurd rfl hne, hclients,
            hsame.trans (by rw [if_pos hmode]; rfl)⟩
      | cons filter filters =>
          unfold stopRegularScan
          rw [if_pos hmode, hfilters,
            freeTracking_gone env client (Bool.eq_false_of_not_eq_true hservice)]
          exact .inl rfl
  · obtain ⟨hclients, hsame⟩ := hrest s
    unfold stopRegularScan
    rw [if_neg hmode]
    exact .inr ⟨fun h => absurd h hmode, hclients, hsame.trans (by rw [if_neg hmode])⟩

/-- What a stop does: nothing to the entries, or a client is removed and gives back. -/
theorem handleStopScan_used {scannerId : Int} (hok : s.handleStopScan env scannerId = .ok s') :
    (s'.mCurUsedTrackableAdvertisements = s.mCurUsedTrackableAdvertisements ∧
        s'.mRegularScanClients = s.mRegularScanClients) ∨
      ∃ client ∈ s.mRegularScanClients, s.findClient env scannerId = some client ∧
        (getDeliveryMode client = DELIVERY_MODE_ON_FOUND_LOST → client.filters ≠ [] →
          env.service = true) ∧
        s'.mRegularScanClients = s.mRegularScanClients.erase client ∧
        s'.mCurUsedTrackableAdvertisements =
          if getDeliveryMode client = DELIVERY_MODE_ON_FOUND_LOST then
            leftAfter (entriesFor env.maxTotalTrackableAdvertisements client.settings)
              client.filters.length s.mCurUsedTrackableAdvertisements
          else s.mCurUsedTrackableAdvertisements := by
  unfold handleStopScan at hok
  cases hfind : s.findClient env scannerId with
  | none =>
      rw [hfind] at hok
      cases hok
      exact .inl ⟨rfl, rfl⟩
  | some client =>
      rw [hfind] at hok
      dsimp only at hok
      by_cases hmem : client ∈ s.mRegularScanClients
      · rw [if_pos hmem] at hok
        have hparams : s'.mCurUsedTrackableAdvertisements =
              (s.stopRegularScan env client).mCurUsedTrackableAdvertisements ∧
            s'.mRegularScanClients = (s.stopRegularScan env client).mRegularScanClients := by
          split at hok
          · cases hok
            exact ⟨rfl, rfl⟩
          · exact configureRegularScanParams_used hok
        rcases @stopRegularScan_used F env client _ s with
          hsame | ⟨hservice, hclients, hused⟩
        · rw [hsame] at hparams
          exact .inl hparams
        · exact .inr ⟨client, hmem, rfl, hservice, hparams.2.trans hclients,
            hparams.1.trans hused⟩
      · rw [if_neg hmem] at hok
        split at hok
        · cases hok
          unfold stopBatchScan
          rw [removeScanFilters_eq]
          exact .inl ⟨rfl, rfl⟩
        · cases hok
          exact .inl ⟨rfl, rfl⟩

end Handlers

end ScanManager

/-! ## What every client holds -/

section Runs

variable [DecidableEq F]

/-- What the clients hold after a start: a new client what it asked for. -/
def heldStarted (env : Env F) (client : ScanClient F) (s s' : ScanManager F)
    (held : ScanClient F → Int) : ScanClient F → Int :=
  if client ∉ s.mRegularScanClients ∧ client ∈ s'.mRegularScanClients then
    update held client (s.asks env client)
  else held

/-- What the clients hold after a stop: a client that was removed nothing. -/
def heldStopped (client : Option (ScanClient F)) (s' : ScanManager F)
    (held : ScanClient F → Int) : ScanClient F → Int :=
  match client with
  | none => held
  | some client =>
      if client ∈ s'.mRegularScanClients then held else update held client 0

/-- The entries that each client got and has not given back. -/
def heldAfter (s s' : ScanManager F) (held : ScanClient F → Int) : Event F → ScanClient F → Int
  | .start env client => heldStarted env client s s' held
  | .stop env scannerId => heldStopped (s.findClient env scannerId) s' held

/-- The entries for all filters of a client. -/
def wanted (total : Int) (client : ScanClient F) : Int :=
  client.filters.length * entriesFor total client.settings

/-- The active clients that ask for the first or the last match. -/
def tracking (s : ScanManager F) : Finset (ScanClient F) :=
  s.mRegularScanClients.filter fun client => getDeliveryMode client = DELIVERY_MODE_ON_FOUND_LOST

/-- The count is the sum of what the clients hold, within the bounds of the controller, and a
client that did not get all entries holds none. -/
structure Balanced (total : Int) (s : ScanManager F) (held : ScanClient F → Int) : Prop where
  sum : s.mCurUsedTrackableAdvertisements = ∑ client ∈ tracking s, held client
  nonneg : 0 ≤ s.mCurUsedTrackableAdvertisements
  le : s.mCurUsedTrackableAdvertisements ≤ total
  stopped : s.mRegularScanClients = ∅ → s.mCurUsedTrackableAdvertisements = 0
  refused : ∀ client ∈ tracking s, held client ≠ wanted total client → held client = 0

/-- The controller has a fixed number of entries. -/
def HasTotal (total : Int) : Event F → Prop
  | .start env _ => env.maxTotalTrackableAdvertisements = total
  | .stop env _ => env.maxTotalTrackableAdvertisements = total

/-- The events after which the count is still right: a client that starts and takes entries gets
them for all of its filters or for none; and one that stops holds the entries of all of its
filters, or fewer entries are in use than one filter would give back. -/
def CarefulTracking (s : ScanManager F) (held : ScanClient F → Int) : Event F → Prop
  | .start env client =>
      client ∉ s.mRegularScanClients → env.filteringSupported = true →
        (s.readyRegular env).Tracks env client →
          wanted env.maxTotalTrackableAdvertisements client ≤
              env.maxTotalTrackableAdvertisements - s.mCurUsedTrackableAdvertisements ∨
            env.maxTotalTrackableAdvertisements - s.mCurUsedTrackableAdvertisements <
              entriesFor env.maxTotalTrackableAdvertisements client.settings
  | .stop env scannerId =>
      ∀ client ∈ tracking s, s.findClient env scannerId = some client → client.filters ≠ [] →
        env.service = true →
          held client = wanted env.maxTotalTrackableAdvertisements client ∨
            s.mCurUsedTrackableAdvertisements <
              entriesFor env.maxTotalTrackableAdvertisements client.settings

/-- The states of all runs, with what the clients hold. -/
inductive RunsTracking (total : Int) : ScanManager F → (ScanClient F → Int) → Prop where
  | initial : RunsTracking total ScanManager.initial fun _ => 0
  | step {s s' : ScanManager F} {held : ScanClient F → Int} {event : Event F} :
      RunsTracking total s held → HasTotal total event → s.handle event = .ok s' →
      RunsTracking total s' (heldAfter s s' held event)

/-- The states of the runs in which every event meets the condition. -/
inductive ReachesTracking (total : Int) : ScanManager F → (ScanClient F → Int) → Prop where
  | initial : ReachesTracking total ScanManager.initial fun _ => 0
  | step {s s' : ScanManager F} {held : ScanClient F → Int} {event : Event F} :
      ReachesTracking total s held → HasTotal total event → CarefulTracking s held event →
      s.handle event = .ok s' → ReachesTracking total s' (heldAfter s s' held event)

/-! ## What one step keeps -/

variable {total : Int} {s s' : ScanManager F} {held held' : ScanClient F → Int}
  {client : ScanClient F} {env : Env F}

omit [DecidableEq F] in
theorem mem_tracking : client ∈ tracking s ↔
    client ∈ s.mRegularScanClients ∧ getDeliveryMode client = DELIVERY_MODE_ON_FOUND_LOST :=
  Finset.mem_filter

omit [DecidableEq F] in
theorem wanted_nonneg (htotal : 0 ≤ total) (client : ScanClient F) : 0 ≤ wanted total client :=
  Int.mul_nonneg (Int.natCast_nonneg _) (entriesFor_nonneg htotal _)

omit [DecidableEq F] in
/-- Nothing changes for the clients that are tracked. -/
theorem Balanced.congr (h : Balanced total s held)
    (hused : s'.mCurUsedTrackableAdvertisements = s.mCurUsedTrackableAdvertisements)
    (htracking : tracking s' = tracking s)
    (hheld : ∀ client ∈ tracking s, held' client = held client) : Balanced total s' held' where
  sum := by
    rw [hused, htracking, h.sum]
    exact Finset.sum_congr rfl fun client hmem => (hheld client hmem).symm
  nonneg := by
    rw [hused]
    exact h.nonneg
  le := by
    rw [hused]
    exact h.le
  stopped := by
    intro hnone
    have hempty : tracking s = ∅ := by
      rw [← htracking]
      unfold tracking
      rw [hnone]
      rfl
    rw [hused, h.sum, hempty]
    rfl
  refused := by
    intro client hmem hne
    rw [htracking] at hmem
    rw [hheld client hmem] at hne ⊢
    exact h.refused client hmem hne

omit [DecidableEq F] in
/-- What a client that starts gets is all or nothing, and fits. -/
theorem asks_cases (htotal : 0 ≤ env.maxTotalTrackableAdvertisements)
    (hcareful : CarefulTracking s held (.start env client))
    (hnew : client ∉ s.mRegularScanClients) :
    s.asks env client = 0 ∨
      s.asks env client = wanted env.maxTotalTrackableAdvertisements client ∧
        s.mCurUsedTrackableAdvertisements + s.asks env client ≤
          env.maxTotalTrackableAdvertisements := by
  unfold ScanManager.asks
  split
  · next hsupported =>
      unfold ScanManager.taken
      split
      · next htracks =>
          rw [ScanManager.readyRegular_used]
          rcases hcareful hnew hsupported htracks with hfit | hfull
          · have hall := granted_all (entriesFor_nonneg htotal client.settings) hfit
            refine .inr ⟨hall, ?_⟩
            rw [hall]
            unfold wanted at hfit
            omega
          · exact .inl (granted_none hfull _)
      · exact .inl rfl
  · exact .inl rfl

omit [DecidableEq F] in
/-- A client that is not tracked gets nothing. -/
theorem asks_of_mode (hmode : getDeliveryMode client ≠ DELIVERY_MODE_ON_FOUND_LOST) :
    s.asks env client = 0 := by
  unfold ScanManager.asks
  split
  · exact ScanManager.not_tracks_of_mode hmode _
  · rfl

theorem Balanced.start (htotal : 0 ≤ total) (h : Balanced total s held)
    (hlegal : env.maxTotalTrackableAdvertisements = total)
    (hcareful : CarefulTracking s held (.start env client))
    (hok : s.handleStartScan env client = .ok s') :
    Balanced total s' (heldStarted env client s s' held) := by
  rcases ScanManager.handleStartScan_used hok with ⟨hused, hclients⟩ | ⟨hnew, hclients, hused⟩
  · have hheld : heldStarted env client s s' held = held := by
      unfold heldStarted
      rw [if_neg]
      rintro ⟨hnew, hmem⟩
      rw [hclients] at hmem
      exact hnew hmem
    rw [hheld]
    refine h.congr hused ?_ (fun _ _ => rfl)
    unfold tracking
    rw [hclients]
  · have hheld : heldStarted env client s s' held =
        update held client (s.asks env client) := by
      unfold heldStarted
      rw [if_pos]
      rw [hclients]
      exact ⟨hnew, Finset.mem_insert_self _ _⟩
    rw [hheld]
    have hother : ∀ other ∈ tracking s,
        update held client (s.asks env client) other = held other := by
      intro other hmem
      refine update_of_ne ?_ _ _
      rintro rfl
      exact hnew (mem_tracking.1 hmem).1
    by_cases hmode : getDeliveryMode client = DELIVERY_MODE_ON_FOUND_LOST
    · have htracking : tracking s' = insert client (tracking s) := by
        unfold tracking
        rw [hclients, Finset.filter_insert, if_pos hmode]
      have hfresh : client ∉ tracking s := fun hmem => hnew (mem_tracking.1 hmem).1
      have hcases := asks_cases (by rw [hlegal]; exact htotal) hcareful hnew
      rw [hlegal] at hcases
      have hnonneg := wanted_nonneg htotal client
      have hbefore := h.nonneg
      have hle := h.le
      constructor
      · rw [htracking, Finset.sum_insert hfresh, update_self,
          Finset.sum_congr rfl hother, ← h.sum, hused, Int.add_comm]
      · rw [hused]
        omega
      · rw [hused]
        omega
      · intro hnone
        rw [hclients] at hnone
        exact absurd hnone (Finset.insert_ne_empty _ _)
      · intro other hmem hne
        rw [htracking] at hmem
        rcases Finset.mem_insert.1 hmem with rfl | hmem
        · rw [update_self] at hne ⊢
          rcases hcases with hzero | ⟨hall, -⟩
          · exact hzero
          · exact absurd hall hne
        · rw [hother other hmem] at hne ⊢
          exact h.refused other hmem hne
    · refine h.congr ?_ ?_ hother
      · rw [hused, asks_of_mode hmode, Int.add_zero]
      · unfold tracking
        rw [hclients, Finset.filter_insert, if_neg hmode]

omit [DecidableEq F] in
theorem Balanced.held_nonneg (htotal : 0 ≤ total) (h : Balanced total s held)
    (hmem : client ∈ tracking s) : 0 ≤ held client := by
  by_cases heq : held client = wanted total client
  · rw [heq]
    exact wanted_nonneg htotal client
  · rw [h.refused client hmem heq]

omit [DecidableEq F] in
theorem Balanced.held_le (htotal : 0 ≤ total) (h : Balanced total s held)
    (hmem : client ∈ tracking s) : held client ≤ s.mCurUsedTrackableAdvertisements := by
  rw [h.sum]
  exact Finset.single_le_sum (fun other hother => h.held_nonneg htotal hother) hmem

omit [DecidableEq F] in
/-- A client that stops gives back what it holds. -/
theorem leftAfter_held (htotal : 0 ≤ total) (h : Balanced total s held)
    (hmem : client ∈ tracking s)
    (hcareful : client.filters ≠ [] → held client = wanted total client ∨
      s.mCurUsedTrackableAdvertisements < entriesFor total client.settings) :
    leftAfter (entriesFor total client.settings) client.filters.length
        s.mCurUsedTrackableAdvertisements =
      s.mCurUsedTrackableAdvertisements - held client := by
  have hle := h.held_le htotal hmem
  by_cases heq : held client = wanted total client
  · rw [heq] at hle ⊢
    exact leftAfter_all (entriesFor_nonneg htotal _) hle
  · rw [h.refused client hmem heq, Int.sub_zero]
    by_cases hfilters : client.filters = []
    · rw [hfilters]
      rfl
    · exact leftAfter_none ((hcareful hfilters).resolve_left heq) _

theorem Balanced.stop {scannerId : Int} (htotal : 0 ≤ total) (h : Balanced total s held)
    (hlegal : env.maxTotalTrackableAdvertisements = total)
    (hcareful : CarefulTracking s held (.stop env scannerId))
    (hok : s.handleStopScan env scannerId = .ok s') :
    Balanced total s' (heldStopped (s.findClient env scannerId) s' held) := by
  rcases ScanManager.handleStopScan_used hok with
    ⟨hused, hclients⟩ | ⟨client, hmem, hfind, hservice, hclients, hused⟩
  · refine h.congr hused ?_ ?_
    · unfold tracking
      rw [hclients]
    · intro other hother
      cases s.findClient env scannerId with
      | none => rfl
      | some client =>
          unfold heldStopped
          dsimp only
          split
          · rfl
          · next hgone =>
              refine update_of_ne ?_ _ _
              rintro rfl
              rw [hclients] at hgone
              exact hgone (mem_tracking.1 hother).1
  · have hheld : heldStopped (s.findClient env scannerId) s' held =
        update held client 0 := by
      rw [hfind]
      unfold heldStopped
      dsimp only
      rw [if_neg]
      rw [hclients]
      exact Finset.notMem_erase _ _
    rw [hheld]
    by_cases hmode : getDeliveryMode client = DELIVERY_MODE_ON_FOUND_LOST
    · have htracked : client ∈ tracking s := mem_tracking.2 ⟨hmem, hmode⟩
      have htracking : tracking s' = (tracking s).erase client := by
        unfold tracking
        rw [hclients, Finset.filter_erase]
      rw [if_pos hmode, hlegal] at hused
      have hback := leftAfter_held htotal h htracked fun hfilters => by
        have := hcareful client htracked hfind hfilters (hservice hmode hfilters)
        rw [hlegal] at this
        exact this
      have hsum : ∑ other ∈ (tracking s).erase client, update held client 0 other =
          s.mCurUsedTrackableAdvertisements - held client := by
        rw [h.sum, ← Finset.add_sum_erase _ _ htracked, add_sub_cancel_left]
        exact Finset.sum_congr rfl fun other hother =>
          update_of_ne (Finset.ne_of_mem_erase hother) _ _
      rw [hback] at hused
      constructor
      · rw [htracking, hused, hsum]
      · have := h.held_le htotal htracked
        omega
      · have := h.held_nonneg htotal htracked
        have := h.le
        omega
      · intro hnone
        have hempty : (tracking s).erase client = ∅ := by
          rw [← htracking]
          unfold tracking
          rw [hnone]
          rfl
        rw [hused, ← hsum, hempty]
        rfl
      · intro other hother hne
        rw [htracking] at hother
        rw [update_of_ne (Finset.ne_of_mem_erase hother)] at hne ⊢
        exact h.refused other (Finset.mem_of_mem_erase hother) hne
    · rw [if_neg hmode] at hused
      have htracking : tracking s' = tracking s := by
        unfold tracking
        rw [hclients, Finset.filter_erase]
        exact Finset.erase_eq_of_notMem fun hmem => hmode (mem_tracking.1 hmem).2
      refine h.congr hused htracking fun other hother => update_of_ne ?_ _ _
      rintro rfl
      exact hmode (mem_tracking.1 hother).2

omit [DecidableEq F] in
theorem Balanced.initial (htotal : 0 ≤ total) :
    Balanced total (ScanManager.initial : ScanManager F) fun _ => 0 where
  sum := rfl
  nonneg := Int.le_refl 0
  le := htotal
  stopped := fun _ => rfl
  refused := fun _ _ _ => rfl

theorem ReachesTracking.balanced (htotal : 0 ≤ total) (h : ReachesTracking total s held) :
    Balanced total s held := by
  induction h with
  | initial => exact Balanced.initial htotal
  | @step s s' held event _ hlegal hcareful hok ih =>
      cases event with
      | start env client => exact ih.start htotal hlegal hcareful hok
      | stop env scannerId => exact ih.stop htotal hlegal hcareful hok

/-- In every state of such a run the count balances, and a client that was refused gives nothing
back. -/
theorem tracking_balanced (htotal : 0 ≤ total) (h : ReachesTracking total s held) :
    Balanced total s held ∧
      ∀ env scannerId client s', HasTotal total (.stop env scannerId : Event F) →
        CarefulTracking s held (.stop env scannerId) → client ∈ tracking s →
        s.findClient env scannerId = some client → held client ≠ wanted total client →
        s.handle (.stop env scannerId) = .ok s' →
        s'.mCurUsedTrackableAdvertisements = s.mCurUsedTrackableAdvertisements := by
  have hbalanced := h.balanced htotal
  refine ⟨hbalanced, ?_⟩
  intro env scannerId client s' hlegal hcareful hmem hfind hne hok
  have hnone := hbalanced.refused client hmem hne
  rcases ScanManager.handleStopScan_used hok with
    ⟨hused, -⟩ | ⟨client', -, hfind', hservice, -, hused⟩
  · exact hused
  · obtain rfl := Option.some.inj (hfind.symm.trans hfind')
    have hmode := (mem_tracking.1 hmem).2
    rw [if_pos hmode, hlegal] at hused
    rw [hused, leftAfter_held htotal hbalanced hmem, hnone, Int.sub_zero]
    intro hfilters
    have := hcareful client hmem hfind hfilters (hservice hmode hfilters)
    rw [hlegal] at this
    exact this

end Runs

section TwoClients

/-- A client that asks for the first match of one filter. -/
def tracker (scannerId : Nat) : ScanClient Unit where
  address := scannerId
  scannerId := scannerId
  settings := ⟨SCAN_MODE_LOW_POWER, CALLBACK_TYPE_FIRST_MATCH, 0, 1, PHY_LE_1M,
    lowPower_valid, by decide, noDelay_nonneg⟩
  filters := [()]

/-- A controller with one entry, and the order of the two clients. -/
def oneEntry : Env Unit where
  order := fun clients => [tracker 1, tracker 2].filter (· ∈ clients)
  filteringSupported := true
  service := true
  maxFiltersSupported := 16
  maxTotalTrackableAdvertisements := 1

/-- The state after an event. -/
def after (s : ScanManager Unit) (event : Event Unit) : ScanManager Unit :=
  match s.handle event with
  | .ok s' => s'
  | .error _ => s

/-- A client with the only entry. -/
def afterFirst : ScanManager Unit := after ScanManager.initial (.start oneEntry (tracker 1))

/-- A second client is refused. -/
def afterSecond : ScanManager Unit := after afterFirst (.start oneEntry (tracker 2))

theorem first_tracking_balanced :
    ∃ s held, ReachesTracking 1 s held ∧ tracking s = {tracker 1} ∧ Balanced 1 s held := by
  have hfirst : ReachesTracking 1 afterFirst _ := ReachesTracking.step .initial
    (show HasTotal 1 (.start oneEntry (tracker 1)) from rfl)
    (fun _ _ _ => .inl (by decide)) rfl
  exact ⟨_, _, hfirst, by decide, (tracking_balanced (by decide) hfirst).1⟩

/-- The second client stops, and the entry of the first one counts as free. -/
theorem refused_tracking_frees :
    ¬∀ (total : Int) (s : ScanManager Unit) (held : ScanClient Unit → Int),
      0 ≤ total → RunsTracking total s held → Balanced total s held := by
  intro hbalanced
  have hfirst : RunsTracking 1 afterFirst _ := RunsTracking.step .initial
    (show HasTotal 1 (.start oneEntry (tracker 1)) from rfl) rfl
  have hsecond : RunsTracking 1 afterSecond _ := RunsTracking.step hfirst
    (show HasTotal 1 (.start oneEntry (tracker 2)) from rfl) rfl
  have hthird : RunsTracking 1 (after afterSecond (.stop oneEntry 2)) _ :=
    RunsTracking.step hsecond (show HasTotal 1 (.stop oneEntry 2) from rfl) rfl
  have hsum := (hbalanced _ _ _ (by decide) hthird).sum
  revert hsum
  decide

end TwoClients

end Gatt.Scan
