import BtPlatform.Gatt.Scan.Manager

/-!
# Scan parameters

What the loops over the clients compute, whatever the order is in which a set is
iterated: the highest mode among the clients of a PHY, and a client with the highest mode
of all. From this follows what `configureRegularScanParams` does.
-/

namespace Gatt.Scan

open Support List

variable {F : Type}

/-- The mode of the clients that use a PHY, as the loop finds it. -/
def topMode (uses : ScanClient F → Bool) (cList : List (ScanClient F)) : Int :=
  cList.foldl
    (fun mode client =>
      if uses client ∧ client.settings.scanMode > mode then client.settings.scanMode else mode)
    INT_MIN

/-- The highest mode among the clients of a set that use a PHY. -/
structure MostAggressive (uses : ScanClient F → Bool) (clients : Finset (ScanClient F))
    (mode : Int) : Prop where
  attained : ∃ client ∈ clients, uses client = true ∧ client.settings.scanMode = mode
  upper : ∀ client ∈ clients, uses client = true → client.settings.scanMode ≤ mode

theorem MostAggressive.unique {uses : ScanClient F → Bool} {clients : Finset (ScanClient F)}
    {m m' : Int} (h : MostAggressive uses clients m) (h' : MostAggressive uses clients m') :
    m = m' := by
  obtain ⟨c, hc, huses, rfl⟩ := h.attained
  obtain ⟨c', hc', huses', rfl⟩ := h'.attained
  exact Int.le_antisymm (h'.upper c hc huses) (h.upper c' hc' huses')

section Loops

variable (uses : ScanClient F → Bool) (cList : List (ScanClient F))

theorem topMode_foldl (start : Int) :
    let mode := cList.foldl
      (fun mode client =>
        if uses client ∧ client.settings.scanMode > mode then client.settings.scanMode else mode)
      start
    start ≤ mode ∧ (∀ client ∈ cList, uses client = true → client.settings.scanMode ≤ mode) ∧
      (mode = start ∨ ∃ client ∈ cList, uses client = true ∧ client.settings.scanMode = mode) := by
  induction cList generalizing start with
  | nil => exact ⟨Int.le_refl _, fun _ h => absurd h not_mem_nil, .inl rfl⟩
  | cons c cs ih =>
      obtain ⟨hstart, hupper, hattained⟩ :=
        ih (if uses c ∧ c.settings.scanMode > start then c.settings.scanMode else start)
      have hle : start ≤
          if uses c ∧ c.settings.scanMode > start then c.settings.scanMode else start := by
        split
        · next h => exact Int.le_of_lt h.2
        · exact Int.le_refl _
      have hfirst : uses c = true → c.settings.scanMode ≤
          if uses c ∧ c.settings.scanMode > start then c.settings.scanMode else start := by
        intro huses
        split
        · exact Int.le_refl _
        · next h => exact Int.not_lt.1 fun hlt => h ⟨huses, hlt⟩
      refine ⟨Int.le_trans hle hstart, ?_, ?_⟩
      · intro client hclient huses
        obtain rfl | hclient := mem_cons.1 hclient
        · exact Int.le_trans (hfirst huses) hstart
        · exact hupper client hclient huses
      · obtain hsame | ⟨client, hclient, huses, hmode⟩ := hattained
        · by_cases h : uses c ∧ c.settings.scanMode > start
          · rw [if_pos h] at hsame
            exact .inr ⟨c, mem_cons_self, h.1, by rw [foldl_cons, if_pos h, hsame]⟩
          · rw [if_neg h] at hsame
            exact .inl (by rw [foldl_cons, if_neg h, hsame])
        · exact .inr ⟨client, mem_cons_of_mem c hclient, huses, hmode⟩

/-- The loop of `getPhyInfo` computes the modes of both PHYs. -/
theorem getPhyInfo_foldl (info : PhyInfo) :
    (cList.foldl PhyInfo.see info).scanModeLE1M =
        cList.foldl
          (fun mode client =>
            if usesLE1M client ∧ client.settings.scanMode > mode then client.settings.scanMode
            else mode)
          info.scanModeLE1M ∧
      (cList.foldl PhyInfo.see info).scanModeLECoded =
        cList.foldl
          (fun mode client =>
            if usesLECoded client ∧ client.settings.scanMode > mode then client.settings.scanMode
            else mode)
          info.scanModeLECoded := by
  induction cList generalizing info with
  | nil => exact ⟨rfl, rfl⟩
  | cons c cs ih => exact ih (info.see c)

theorem getPhyInfo_scanModeLE1M :
    (getPhyInfo cList).scanModeLE1M = topMode usesLE1M cList := (getPhyInfo_foldl cList _).1

theorem getPhyInfo_scanModeLECoded :
    (getPhyInfo cList).scanModeLECoded = topMode usesLECoded cList := (getPhyInfo_foldl cList _).2

theorem getAggressiveClient_foldl (start : Option (ScanClient F) × Int) :
    let result := cList.foldl
      (fun result client =>
        if client.settings.scanMode > result.2 then (some client, client.settings.scanMode)
        else result)
      start
    start.2 ≤ result.2 ∧ (∀ client ∈ cList, client.settings.scanMode ≤ result.2) ∧
      (result = start ∨
        ∃ client ∈ cList, result = (some client, client.settings.scanMode)) := by
  induction cList generalizing start with
  | nil => exact ⟨Int.le_refl _, fun _ h => absurd h not_mem_nil, .inl rfl⟩
  | cons c cs ih =>
      by_cases h : c.settings.scanMode > start.2
      · obtain ⟨hstart, hupper, hresult⟩ := ih (some c, c.settings.scanMode)
        simp only [foldl_cons, if_pos h]
        refine ⟨Int.le_trans (Int.le_of_lt h) hstart, ?_, ?_⟩
        · intro client hclient
          obtain rfl | hclient := mem_cons.1 hclient
          · exact hstart
          · exact hupper client hclient
        · obtain hsame | ⟨client, hclient, hsame⟩ := hresult
          · exact .inr ⟨c, mem_cons_self, hsame⟩
          · exact .inr ⟨client, mem_cons_of_mem c hclient, hsame⟩
      · obtain ⟨hstart, hupper, hresult⟩ := ih start
        simp only [foldl_cons, if_neg h]
        refine ⟨hstart, ?_, ?_⟩
        · intro client hclient
          obtain rfl | hclient := mem_cons.1 hclient
          · exact Int.le_trans (Int.not_lt.1 h) hstart
          · exact hupper client hclient
        · obtain hsame | ⟨client, hclient, hsame⟩ := hresult
          · exact .inl hsame
          · exact .inr ⟨client, mem_cons_of_mem c hclient, hsame⟩

end Loops

theorem ScanSettings.scanMode_gt (settings : ScanSettings) : INT_MIN < settings.scanMode := by
  have h := settings.scanMode_valid.1
  unfold SCAN_MODE_OPPORTUNISTIC at h
  unfold INT_MIN
  omega

/-- The client whose id is sent is one of the clients, unless there is none. -/
theorem getAggressiveClient_some {cList : List (ScanClient F)} (h : cList ≠ []) :
    ∃ client ∈ cList, getAggressiveClient cList = some client ∧
      ∀ other ∈ cList, other.settings.scanMode ≤ client.settings.scanMode := by
  obtain ⟨-, hupper, hresult⟩ := getAggressiveClient_foldl cList (none, INT_MIN)
  obtain ⟨c, hc⟩ := exists_mem_of_ne_nil cList h
  obtain hsame | ⟨client, hclient, hsame⟩ := hresult
  · have hle := hupper c hc
    rw [hsame] at hle
    exact absurd c.settings.scanMode_gt (Int.not_lt.2 hle)
  · refine ⟨client, hclient, congrArg Prod.fst hsame, ?_⟩
    intro other hother
    have hle := hupper other hother
    rw [hsame] at hle
    exact hle

/-- An order in which each set of clients can be iterated. -/
def Env.Ordered (env : Env F) : Prop := ∀ clients client, client ∈ env.order clients ↔
    client ∈ clients

/-- The client that a stop is for is one of the clients with the scanner. -/
theorem findClient_mem {env : Env F} (horder : env.Ordered) {s : ScanManager F} {scannerId : Int}
    {client : ScanClient F} (h : s.findClient env scannerId = some client) :
    (client ∈ s.mRegularScanClients ∨ client ∈ s.mBatchClients) ∧
      client.scannerId = scannerId := by
  obtain hregular | ⟨-, hbatch⟩ := Option.or_eq_some_iff.1 h
  · have hid := find?_some hregular
    exact ⟨.inl ((horder _ _).1 (mem_of_find?_eq_some hregular)), of_decide_eq_true hid⟩
  · have hid := find?_some hbatch
    exact ⟨.inr ((horder _ _).1 (mem_of_find?_eq_some hbatch)), of_decide_eq_true hid⟩

section TopMode

variable {env : Env F} (horder : env.Ordered) (uses : ScanClient F → Bool)
  (clients : Finset (ScanClient F))

include horder

/-- No client, or the highest mode. -/
theorem topMode_order :
    (topMode uses (env.order clients) = INT_MIN ∧ ∀ client ∈ clients, uses client = false) ∨
      MostAggressive uses clients (topMode uses (env.order clients)) := by
  obtain ⟨-, hupper, hattained⟩ := topMode_foldl uses (env.order clients) INT_MIN
  obtain hsame | ⟨client, hclient, huses, hmode⟩ := hattained
  · refine .inl ⟨hsame, ?_⟩
    intro client hclient
    by_contra huses
    have hle := hupper client ((horder _ _).2 hclient) (by simpa using huses)
    rw [hsame] at hle
    exact absurd client.settings.scanMode_gt (Int.not_lt.2 hle)
  · refine .inr ⟨⟨client, (horder _ _).1 hclient, huses, hmode⟩, ?_⟩
    intro other hother hotherUses
    exact hupper other ((horder _ _).2 hother) hotherUses

theorem topMode_cases :
    topMode uses (env.order clients) = INT_MIN ∨
      topMode uses (env.order clients) = SCAN_MODE_OPPORTUNISTIC ∨
      0 ≤ topMode uses (env.order clients) := by
  obtain ⟨hmin, -⟩ | h := topMode_order horder uses clients
  · exact .inl hmin
  · obtain ⟨client, -, -, hmode⟩ := h.attained
    have hvalid := client.settings.scanMode_valid.1
    rw [hmode] at hvalid
    unfold SCAN_MODE_OPPORTUNISTIC at hvalid ⊢
    omega

/-- A PHY asks for a scan if a client that is not opportunistic uses it. -/
theorem topMode_asks_iff :
    (topMode uses (env.order clients) ≠ INT_MIN ∧
        topMode uses (env.order clients) ≠ SCAN_MODE_OPPORTUNISTIC) ↔
      ∃ client ∈ clients, uses client = true ∧ isOpportunisticScanClient client = false := by
  constructor
  · rintro ⟨hmin, hopp⟩
    obtain ⟨hsame, -⟩ | h := topMode_order horder uses clients
    · exact absurd hsame hmin
    · obtain ⟨client, hclient, huses, hmode⟩ := h.attained
      refine ⟨client, hclient, huses, ?_⟩
      rw [isOpportunisticScanClient, hmode]
      simpa using hopp
  · rintro ⟨client, hclient, huses, hopp⟩
    have hvalid := client.settings.scanMode_valid.1
    have hne : client.settings.scanMode ≠ SCAN_MODE_OPPORTUNISTIC := by
      simpa [isOpportunisticScanClient] using hopp
    obtain ⟨-, hnone⟩ | h := topMode_order horder uses clients
    · rw [hnone client hclient] at huses
      cases huses
    · have hle := h.upper client hclient huses
      unfold INT_MIN
      unfold SCAN_MODE_OPPORTUNISTIC at hvalid hne ⊢
      omega

end TopMode

/-- `PHY_LE_CODED` has the bit of `PHY_LE_1M`. -/
theorem usesLE1M_of_usesLECoded {client : ScanClient F} (h : usesLECoded client = true) :
    usesLE1M client = true := by
  have hcoded : client.settings.phy &&& PHY_LE_CODED = PHY_LE_CODED := by
    simpa [usesLECoded] using h
  have hbit : client.settings.phy &&& PHY_LE_1M = PHY_LE_1M := by
    calc client.settings.phy &&& PHY_LE_1M
        = (client.settings.phy &&& PHY_LE_CODED) &&& PHY_LE_1M := by
          rw [BitVec.and_assoc]
          rfl
      _ = PHY_LE_CODED &&& PHY_LE_1M := by rw [hcoded]
      _ = PHY_LE_1M := rfl
  simpa [usesLE1M] using hbit

/-- The highest modes of a set of clients, `INT_MIN` for a PHY that no client uses. -/
structure Modes (clients : Finset (ScanClient F)) (le1M leCoded : Int) : Prop where
  le1M : (le1M = INT_MIN ∧ ∀ client ∈ clients, usesLE1M client = false) ∨
    MostAggressive usesLE1M clients le1M
  leCoded : (leCoded = INT_MIN ∧ ∀ client ∈ clients, usesLECoded client = false) ∨
    MostAggressive usesLECoded clients leCoded

theorem top_unique {uses : ScanClient F → Bool} {clients : Finset (ScanClient F)} {m m' : Int}
    (h : (m = INT_MIN ∧ ∀ client ∈ clients, uses client = false) ∨
      MostAggressive uses clients m)
    (h' : (m' = INT_MIN ∧ ∀ client ∈ clients, uses client = false) ∨
      MostAggressive uses clients m') : m = m' := by
  obtain ⟨rfl, hnone⟩ | hm := h
  · obtain ⟨rfl, -⟩ | hm' := h'
    · rfl
    · obtain ⟨client, hclient, huses, -⟩ := hm'.attained
      rw [hnone client hclient] at huses
      cases huses
  · obtain ⟨rfl, hnone⟩ | hm' := h'
    · obtain ⟨client, hclient, huses, -⟩ := hm.attained
      rw [hnone client hclient] at huses
      cases huses
    · exact hm.unique hm'

theorem Modes.unique {clients : Finset (ScanClient F)} {m mc m' mc' : Int}
    (h : Modes clients m mc) (h' : Modes clients m' mc') : m = m' ∧ mc = mc' :=
  ⟨top_unique h.le1M h'.le1M, top_unique h.leCoded h'.leCoded⟩

/-- Some client of the set asks for a scan. -/
def Asks (clients : Finset (ScanClient F)) : Prop :=
  ∃ client ∈ clients, isOpportunisticScanClient client = false

/-- Some client of the set asks for a scan of the coded PHY. -/
def AsksLECoded (clients : Finset (ScanClient F)) : Prop :=
  ∃ client ∈ clients, usesLECoded client = true ∧ isOpportunisticScanClient client = false

section Configure

variable {env : Env F} (horder : env.Ordered) (clients : Finset (ScanClient F))

include horder

theorem modes_order :
    Modes clients (topMode usesLE1M (env.order clients))
      (topMode usesLECoded (env.order clients)) :=
  ⟨topMode_order horder usesLE1M clients, topMode_order horder usesLECoded clients⟩

theorem Modes.eq_topMode {clients : Finset (ScanClient F)} {m mc : Int} (h : Modes clients m mc) :
    topMode usesLE1M (env.order clients) = m ∧ topMode usesLECoded (env.order clients) = mc :=
  (modes_order horder clients).unique h

/-- A client that asks for a scan of the coded PHY asks for one of LE 1M. -/
theorem topMode_asks_of_leCoded
    (h : topMode usesLECoded (env.order clients) ≠ INT_MIN ∧
      topMode usesLECoded (env.order clients) ≠ SCAN_MODE_OPPORTUNISTIC) :
    topMode usesLE1M (env.order clients) ≠ INT_MIN ∧
      topMode usesLE1M (env.order clients) ≠ SCAN_MODE_OPPORTUNISTIC := by
  obtain ⟨client, hclient, huses, hopp⟩ := (topMode_asks_iff horder usesLECoded clients).1 h
  exact (topMode_asks_iff horder usesLE1M clients).2
    ⟨client, hclient, usesLE1M_of_usesLECoded huses, hopp⟩

variable {s : ScanManager F}

/-- Without a client that asks for a scan, the modes are only remembered. -/
theorem configureRegularScanParams_idle
    (h : ¬ ∃ client ∈ s.mRegularScanClients,
      usesLE1M client = true ∧ isOpportunisticScanClient client = false) :
    s.configureRegularScanParams env = .ok
      { s with
        mLastConfiguredScanSettingLE1M := topMode usesLE1M (env.order s.mRegularScanClients)
        mLastConfiguredScanSettingLECoded :=
          topMode usesLECoded (env.order s.mRegularScanClients) } := by
  have hLE1M := mt (topMode_asks_iff horder usesLE1M s.mRegularScanClients).1 h
  have hLECoded := mt (topMode_asks_of_leCoded horder s.mRegularScanClients) hLE1M
  simp only [ScanManager.configureRegularScanParams, getPhyInfo_scanModeLE1M,
    getPhyInfo_scanModeLECoded, eq_false hLE1M, eq_false hLECoded, false_and, or_self, if_false]

/-- Nothing is sent if the modes are those sent last. -/
theorem configureRegularScanParams_same
    (h : ∃ client ∈ s.mRegularScanClients,
      usesLE1M client = true ∧ isOpportunisticScanClient client = false)
    (hsame : Modes s.mRegularScanClients s.mLastConfiguredScanSettingLE1M
      s.mLastConfiguredScanSettingLECoded) :
    s.configureRegularScanParams env = .ok s := by
  have hLE1M := (topMode_asks_iff horder usesLE1M s.mRegularScanClients).2 h
  obtain ⟨hm, hmc⟩ := hsame.eq_topMode horder
  have hkeep : (if topMode usesLECoded (env.order s.mRegularScanClients) ≠ INT_MIN ∧
        topMode usesLECoded (env.order s.mRegularScanClients) ≠ SCAN_MODE_OPPORTUNISTIC then s
      else { s with
        mLastConfiguredScanSettingLECoded :=
          topMode usesLECoded (env.order s.mRegularScanClients) }) = s := by
    rw [hmc]
    split
    · rfl
    · rfl
  simp only [ScanManager.configureRegularScanParams, getPhyInfo_scanModeLE1M,
    getPhyInfo_scanModeLECoded, if_pos hLE1M, hkeep]
  rw [if_neg]
  rintro (⟨-, hne | hne⟩ | ⟨-, hne | hne⟩)
  · exact hne hm
  · exact hne hmc
  · exact hne hmc
  · exact hne hm

/-- New modes are sent with the id of a client, and scanning is on. The second elements are
written only if a client asks for a scan of the coded PHY. -/
theorem configureRegularScanParams_sends
    (h : ∃ client ∈ s.mRegularScanClients,
      usesLE1M client = true ∧ isOpportunisticScanClient client = false)
    (hnew : ¬ Modes s.mRegularScanClients s.mLastConfiguredScanSettingLE1M
      s.mLastConfiguredScanSettingLECoded) :
    ∃ client ∈ s.mRegularScanClients, ∃ m mc modes, Modes s.mRegularScanClients m mc ∧
      (modes = if mc ≠ INT_MIN ∧ mc ≠ SCAN_MODE_OPPORTUNISTIC then [m, mc] else [m]) ∧
      s.configureRegularScanParams env = .ok
        { s with
          controller :=
            { s.controller with
              scanning := true
              parameters := some
                { clientIf := client.scannerId
                  scanPhy := (getPhyInfo (env.order s.mRegularScanClients)).scanPhy
                  scanInterval := slots getScanIntervalMillis modes
                  scanWindow := slots getScanWindowMillis modes } }
          mLastConfiguredScanSettingLE1M := m
          mLastConfiguredScanSettingLECoded := mc } := by
  have hLE1M := (topMode_asks_iff horder usesLE1M s.mRegularScanClients).2 h
  have hmodes := modes_order horder s.mRegularScanClients
  have hchanged :
      topMode usesLE1M (env.order s.mRegularScanClients) ≠ s.mLastConfiguredScanSettingLE1M ∨
        topMode usesLECoded (env.order s.mRegularScanClients) ≠
          s.mLastConfiguredScanSettingLECoded := by
    by_contra hsame
    obtain ⟨hm, hmc⟩ := not_or.1 hsame
    rw [not_ne_iff.1 hm, not_ne_iff.1 hmc] at hmodes
    exact hnew hmodes
  obtain ⟨asking, hasking, -, -⟩ := h
  have hne : env.order s.mRegularScanClients ≠ [] :=
    ne_nil_of_mem ((horder _ _).2 hasking)
  obtain ⟨client, hclient, haggressive, -⟩ := getAggressiveClient_some hne
  refine ⟨client, (horder _ _).1 hclient, _, _, _, hmodes, rfl, ?_⟩
  by_cases hLECoded : topMode usesLECoded (env.order s.mRegularScanClients) ≠ INT_MIN ∧
      topMode usesLECoded (env.order s.mRegularScanClients) ≠ SCAN_MODE_OPPORTUNISTIC
  · simp only [ScanManager.configureRegularScanParams, getPhyInfo_scanModeLE1M,
      getPhyInfo_scanModeLECoded, eq_true hLE1M, eq_true hLECoded, eq_true hchanged,
      eq_true hchanged.symm, true_and, or_self, if_true, haggressive]
    rfl
  · simp only [ScanManager.configureRegularScanParams, getPhyInfo_scanModeLE1M,
      getPhyInfo_scanModeLECoded, eq_true hLE1M, eq_false hLECoded, eq_true hchanged,
      true_and, false_and, or_false, if_true, if_false, haggressive]
    rfl

end Configure

end Gatt.Scan
