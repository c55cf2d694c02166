import BtPlatform.Gatt.Scan.Filters
import BtPlatform.Gatt.Scan.Parameters

/-!
# What the radio does for the active clients

The controller should scan exactly while a client asks for it, with the parameters of the
most aggressive modes. Both are followed over the starts and stops of regular clients.
-/

namespace Gatt.Scan

open Support

variable {F : Type}

/-- The values for one PHY are those of the highest mode of its clients. -/
def TunedFor (uses : ScanClient F → Bool) (clients : Finset (ScanClient F))
    (interval window : Option Nat) : Prop :=
  ∃ mode, MostAggressive uses clients mode ∧
    interval = some (millsToUnit (getScanIntervalMillis mode)) ∧
    window = some (millsToUnit (getScanWindowMillis mode))

/-- Parameters as the clients ask for them: the id is that of a client, all elements of the
arrays are written, and the values of each PHY in the mask are right. -/
structure AsAsked (p : ScanParameters) (clients : Finset (ScanClient F)) : Prop where
  clientIf : ∃ client ∈ clients, client.scannerId = p.clientIf
  written : p.scanInterval.1.isSome ∧ p.scanInterval.2.isSome ∧
    p.scanWindow.1.isSome ∧ p.scanWindow.2.isSome
  le1M : p.scanPhy &&& PHY_LE_1M = PHY_LE_1M →
    TunedFor usesLE1M clients p.scanInterval.1 p.scanWindow.1
  leCoded : p.scanPhy &&& PHY_LE_CODED = PHY_LE_CODED →
    TunedFor usesLECoded clients p.scanInterval.2 p.scanWindow.2

/-- The radio scans as the active clients ask. -/
structure ScansFor (s : ScanManager F) (active : Finset (ScanClient F)) : Prop where
  scanning : s.controller.scanning = true ↔ Asks active
  parameters : Asks active → ∃ p, s.controller.parameters = some p ∧ AsAsked p active

/-! ## Sets of clients with the same modes -/

section SameModes

variable {clients clients' : Finset (ScanClient F)} {m mc : Int}

theorem TunedFor.of_top {uses : ScanClient F → Bool} {interval window : Option Nat} {mode : Int}
    (htuned : TunedFor uses clients interval window)
    (h : (mode = INT_MIN ∧ ∀ client ∈ clients, uses client = false) ∨
      MostAggressive uses clients mode)
    (h' : (mode = INT_MIN ∧ ∀ client ∈ clients', uses client = false) ∨
      MostAggressive uses clients' mode) : TunedFor uses clients' interval window := by
  obtain ⟨mode', hmode', hinterval, hwindow⟩ := htuned
  obtain rfl : mode' = mode := top_unique (.inr hmode') h
  obtain ⟨hmin, -⟩ | h' := h'
  · obtain ⟨client, -, -, hclient⟩ := hmode'.attained
    have hgt := client.settings.scanMode_gt
    rw [hclient, hmin] at hgt
    exact absurd hgt (Int.lt_irrefl _)
  · exact ⟨mode', h', hinterval, hwindow⟩

theorem AsAsked.of_modes {p : ScanParameters} (hp : AsAsked p clients)
    (h : Modes clients m mc) (h' : Modes clients' m mc)
    (hclientIf : ∃ client ∈ clients', client.scannerId = p.clientIf) : AsAsked p clients' where
  clientIf := hclientIf
  written := hp.written
  le1M := fun hmask => (hp.le1M hmask).of_top h.le1M h'.le1M
  leCoded := fun hmask => (hp.leCoded hmask).of_top h.leCoded h'.leCoded

theorem Modes.nonneg (h : Modes clients m mc) (hcoded : AsksLECoded clients) :
    0 ≤ m ∧ 0 ≤ mc := by
  obtain ⟨client, hclient, huses, hopp⟩ := hcoded
  have hvalid := client.settings.scanMode_valid.1
  have hne : client.settings.scanMode ≠ SCAN_MODE_OPPORTUNISTIC := by
    simpa [isOpportunisticScanClient] using hopp
  have hmode : 0 ≤ client.settings.scanMode := by
    unfold SCAN_MODE_OPPORTUNISTIC at hvalid hne
    omega
  constructor
  · obtain ⟨-, hnone⟩ | h := h.le1M
    · have := hnone client hclient
      rw [usesLE1M_of_usesLECoded huses] at this
      cases this
    · exact Int.le_trans hmode (h.upper client hclient (usesLE1M_of_usesLECoded huses))
  · obtain ⟨-, hnone⟩ | h := h.leCoded
    · have := hnone client hclient
      rw [huses] at this
      cases this
    · exact Int.le_trans hmode (h.upper client hclient huses)

theorem MostAggressive.of_nonneg {uses : ScanClient F → Bool} {mode : Int}
    (h : (mode = INT_MIN ∧ ∀ client ∈ clients, uses client = false) ∨
      MostAggressive uses clients mode) (hmode : 0 ≤ mode) : MostAggressive uses clients mode := by
  obtain ⟨rfl, -⟩ | h := h
  · exact absurd hmode (by decide)
  · exact h

/-- Opportunistic clients do not change modes that are asked for. -/
theorem MostAggressive.of_opportunistic {uses : ScanClient F → Bool} {mode : Int}
    (h : MostAggressive uses clients mode) (hmode : 0 ≤ mode)
    (hsub : ∀ client ∈ clients, isOpportunisticScanClient client = false → client ∈ clients')
    (hsup : ∀ client ∈ clients', isOpportunisticScanClient client = false → client ∈ clients) :
    MostAggressive uses clients' mode := by
  constructor
  · obtain ⟨client, hclient, huses, hattained⟩ := h.attained
    refine ⟨client, hsub client hclient ?_, huses, hattained⟩
    rw [isOpportunisticScanClient, hattained]
    exact decide_eq_false (by unfold SCAN_MODE_OPPORTUNISTIC; omega)
  · intro client hclient huses
    cases hopp : isOpportunisticScanClient client with
    | true =>
        have heq : client.settings.scanMode = SCAN_MODE_OPPORTUNISTIC := by
          simpa [isOpportunisticScanClient] using hopp
        rw [heq]
        exact Int.le_trans (by decide) hmode
    | false => exact h.upper client (hsup client hclient hopp) huses

theorem Modes.of_opportunistic (h : Modes clients m mc) (hcoded : AsksLECoded clients)
    (hsub : ∀ client ∈ clients, isOpportunisticScanClient client = false → client ∈ clients')
    (hsup : ∀ client ∈ clients', isOpportunisticScanClient client = false → client ∈ clients) :
    Modes clients' m mc := by
  obtain ⟨hm, hmc⟩ := h.nonneg hcoded
  exact ⟨.inr ((MostAggressive.of_nonneg h.le1M hm).of_opportunistic hm hsub hsup),
    .inr ((MostAggressive.of_nonneg h.leCoded hmc).of_opportunistic hmc hsub hsup)⟩

end SameModes

/-! ## Parameters -/

/-- What the remembered modes say about the parameters sent last. -/
structure Tuned (s : ScanManager F) : Prop extends ScansFor s s.mRegularScanClients where
  last : Asks s.mRegularScanClients →
    Modes s.mRegularScanClients s.mLastConfiguredScanSettingLE1M
      s.mLastConfiguredScanSettingLECoded
  idle : ¬ Asks s.mRegularScanClients → s.mLastConfiguredScanSettingLE1M < 0

theorem Tuned.of_sameRadio {s s' : ScanManager F} (h : Tuned s) (hsame : s.SameRadio s') :
    Tuned s' where
  scanning := by
    rw [hsame.scanning, hsame.regular]
    exact h.scanning
  parameters := by
    rw [hsame.parameters, hsame.regular]
    exact h.parameters
  last := by
    rw [hsame.regular, hsame.lastLE1M, hsame.lastLECoded]
    exact h.last
  idle := by
    rw [hsame.regular, hsame.lastLE1M]
    exact h.idle

/-- The elements that are written when both PHYs are asked for. -/
theorem tunedFor_slots {clients : Finset (ScanClient F)} {m mc : Int}
    (h : Modes clients m mc) (hm : 0 ≤ m) (hmc : 0 ≤ mc) :
    TunedFor usesLE1M clients (slots getScanIntervalMillis [m, mc]).1
        (slots getScanWindowMillis [m, mc]).1 ∧
      TunedFor usesLECoded clients (slots getScanIntervalMillis [m, mc]).2
        (slots getScanWindowMillis [m, mc]).2 :=
  ⟨⟨m, MostAggressive.of_nonneg h.le1M hm, rfl, rfl⟩,
    ⟨mc, MostAggressive.of_nonneg h.leCoded hmc, rfl, rfl⟩⟩

/-- Where a scan is asked for only together with one of the coded PHY, the parameters are
right after `configureRegularScanParams`. -/
theorem configureRegularScanParams_tuned {env : Env F} (horder : env.Ordered)
    {s : ScanManager F} (hcoded : Asks s.mRegularScanClients → AsksLECoded s.mRegularScanClients)
    (hscanning : s.controller.scanning = true ↔ Asks s.mRegularScanClients)
    (hsent : Asks s.mRegularScanClients →
      Modes s.mRegularScanClients s.mLastConfiguredScanSettingLE1M
        s.mLastConfiguredScanSettingLECoded →
      ∃ p, s.controller.parameters = some p ∧ AsAsked p s.mRegularScanClients) :
    ∃ s', s.configureRegularScanParams env = .ok s' ∧ Tuned s' ∧ s.SameFilters s' ∧
      s'.mRegularScanClients = s.mRegularScanClients ∧ s'.mBatchClients = s.mBatchClients := by
  by_cases hasks : Asks s.mRegularScanClients
  · have hle1M : ∃ client ∈ s.mRegularScanClients,
        usesLE1M client = true ∧ isOpportunisticScanClient client = false := by
      obtain ⟨client, hclient, huses, hopp⟩ := hcoded hasks
      exact ⟨client, hclient, usesLE1M_of_usesLECoded huses, hopp⟩
    by_cases hsame : Modes s.mRegularScanClients s.mLastConfiguredScanSettingLE1M
        s.mLastConfiguredScanSettingLECoded
    · refine ⟨s, configureRegularScanParams_same horder hle1M hsame, ?_,
        ScanManager.SameFilters.refl s, rfl, rfl⟩
      exact ⟨⟨hscanning, fun _ => hsent hasks hsame⟩, fun _ => hsame, fun h => absurd hasks h⟩
    · obtain ⟨client, hclient, m, mc, modes, hmodes, hwritten, hok⟩ :=
        configureRegularScanParams_sends horder hle1M hsame
      obtain ⟨hm, hmc⟩ := hmodes.nonneg (hcoded hasks)
      have hboth : modes = [m, mc] := by
        rw [hwritten, if_pos]
        unfold INT_MIN SCAN_MODE_OPPORTUNISTIC
        omega
      obtain ⟨hLE1M, hLECoded⟩ := tunedFor_slots hmodes hm hmc
      refine ⟨_, hok, ⟨⟨?_, ?_⟩, fun _ => hmodes, fun h => absurd hasks h⟩,
        ⟨rfl, rfl, rfl, rfl, rfl⟩, rfl, rfl⟩
      · exact ⟨fun _ => hasks, fun _ => rfl⟩
      · intro _
        rw [hboth]
        exact ⟨_, rfl, ⟨client, hclient, rfl⟩, ⟨rfl, rfl, rfl, rfl⟩, fun _ => hLE1M,
          fun _ => hLECoded⟩
  · have hnone : ¬ ∃ client ∈ s.mRegularScanClients,
        usesLE1M client = true ∧ isOpportunisticScanClient client = false := by
      rintro ⟨client, hclient, -, hopp⟩
      exact hasks ⟨client, hclient, hopp⟩
    refine ⟨_, configureRegularScanParams_idle horder hnone, ⟨⟨hscanning, ?_⟩, ?_, ?_⟩,
      ⟨rfl, rfl, rfl, rfl, rfl⟩, rfl, rfl⟩
    · exact fun h => absurd h hasks
    · exact fun h => absurd h hasks
    · intro _
      have hidle := mt (topMode_asks_iff horder usesLE1M s.mRegularScanClients).1 hnone
      show topMode usesLE1M (env.order s.mRegularScanClients) < 0
      obtain hmin | hopp | hnonneg := topMode_cases horder usesLE1M s.mRegularScanClients
      · rw [hmin]
        decide
      · rw [hopp]
        decide
      · refine absurd ⟨?_, ?_⟩ hidle
        · unfold INT_MIN
          omega
        · unfold SCAN_MODE_OPPORTUNISTIC
          omega

/-! ## Starts and stops -/

section Events

variable [DecidableEq F]

/-- The regular clients that are active after an event: a client from its start, unless it
was refused, to its stop. -/
def nowActive (s s' : ScanManager F) (active : Finset (ScanClient F)) :
    Event F → Finset (ScanClient F)
  | .start _ client => if client ∈ s'.mRegularScanClients then insert client active else active
  | .stop env scannerId =>
      match s.findClient env scannerId with
      | some client => active.erase client
      | none => active

/-- A set of clients can be iterated, and the clients are regular ones. -/
def LegalRegular : Event F → Prop
  | .start env client => env.Ordered ∧ isBatchClient client = false
  | .stop env _ => env.Ordered

/-- The events after which the radio still does what is asked: with a client that asks for a
scan there is one that asks for a scan of the coded PHY; a stop reaches the client; and if
it leaves the modes that were sent last, it leaves an active client with the id that was
sent. -/
def CarefulRegular (s : ScanManager F) (active : Finset (ScanClient F)) : Event F → Prop
  | .start env client =>
      ScanManager.isScanSupported env client = true → client ∉ active →
        ¬ s.refused env client → Asks (insert client active) → AsksLECoded (insert client active)
  | .stop env scannerId =>
      ∀ client, s.findClient env scannerId = some client →
        (getDeliveryMode client = DELIVERY_MODE_ON_FOUND_LOST → client.filters ≠ [] →
          env.service = true) ∧
        (Asks (active.erase client) → AsksLECoded (active.erase client) ∧
          (Modes (active.erase client) s.mLastConfiguredScanSettingLE1M
              s.mLastConfiguredScanSettingLECoded →
            ∀ p, s.controller.parameters = some p →
              ∃ other ∈ active.erase client, other.scannerId = p.clientIf))

/-- The states of the runs over regular clients in which every event meets the condition. -/
inductive ReachesRegular : ScanManager F → Finset (ScanClient F) → Prop where
  | initial : ReachesRegular ScanManager.initial ∅
  | step {s s' : ScanManager F} {active : Finset (ScanClient F)} {event : Event F} :
      ReachesRegular s active → LegalRegular event → CarefulRegular s active event →
      s.handle event = .ok s' → ReachesRegular s' (nowActive s s' active event)

/-- What the proof carries along. -/
structure RegularInvariant (s : ScanManager F) (active : Finset (ScanClient F)) : Prop
    extends Tuned s where
  clients : s.mRegularScanClients = active
  batch : s.mBatchClients = ∅
  coded : Asks active → AsksLECoded active

omit [DecidableEq F] in
theorem numRegularScanClients_eq_zero_iff (s : ScanManager F) :
    s.numRegularScanClients = 0 ↔ ¬ Asks s.mRegularScanClients := by
  unfold ScanManager.numRegularScanClients Asks
  rw [Finset.card_eq_zero, Finset.filter_eq_empty_iff]
  constructor
  · rintro hnone ⟨client, hclient, hopp⟩
    exact hnone hclient (by simpa [isOpportunisticScanClient] using hopp)
  · intro hnone client hclient hopp
    exact hnone ⟨client, hclient, by simpa [isOpportunisticScanClient] using hopp⟩

/-- The first client that asks for a scan is counted as the only one. -/
theorem numRegularScanClients_first {s : ScanManager F} {client : ScanClient F}
    (hidle : ¬ Asks s.mRegularScanClients) (hopp : isOpportunisticScanClient client = false) :
    ScanManager.numRegularScanClients
      { s with mRegularScanClients := insert client s.mRegularScanClients } = 1 := by
  have hnone := (numRegularScanClients_eq_zero_iff s).2 hidle
  unfold ScanManager.numRegularScanClients at hnone ⊢
  have hmode : client.settings.scanMode ≠ SCAN_MODE_OPPORTUNISTIC := by
    simpa [isOpportunisticScanClient] using hopp
  rw [Finset.filter_insert, if_pos hmode, Finset.card_eq_zero.1 hnone]
  rfl

theorem asks_insert_iff {clients : Finset (ScanClient F)} {client : ScanClient F} :
    Asks (insert client clients) ↔
      isOpportunisticScanClient client = false ∨ Asks clients := by
  constructor
  · rintro ⟨other, hother, hopp⟩
    obtain rfl | hother := Finset.mem_insert.1 hother
    · exact .inl hopp
    · exact .inr ⟨other, hother, hopp⟩
  · rintro (hopp | ⟨other, hother, hopp⟩)
    · exact ⟨client, Finset.mem_insert_self _ _, hopp⟩
    · exact ⟨other, Finset.mem_insert_of_mem hother, hopp⟩

omit [DecidableEq F] in
/-- The parameters sent last stay right for other clients with the same modes. -/
theorem Tuned.parameters_of {s : ScanManager F} (h : Tuned s) (hasks : Asks s.mRegularScanClients)
    {clients : Finset (ScanClient F)}
    (hmodes : Modes clients s.mLastConfiguredScanSettingLE1M s.mLastConfiguredScanSettingLECoded)
    (hclientIf : ∀ p, s.controller.parameters = some p →
      ∃ client ∈ clients, client.scannerId = p.clientIf) :
    ∃ p, s.controller.parameters = some p ∧ AsAsked p clients := by
  obtain ⟨p, hp, hasked⟩ := h.parameters hasks
  exact ⟨p, hp, hasked.of_modes (h.last hasks) hmodes (hclientIf p hp)⟩

omit [DecidableEq F] in
theorem Tuned.clientIf {s : ScanManager F} (h : Tuned s) (hasks : Asks s.mRegularScanClients) :
    ∀ p, s.controller.parameters = some p →
      ∃ client ∈ s.mRegularScanClients, client.scannerId = p.clientIf := by
  intro p hp
  obtain ⟨p', hp', hasked⟩ := h.parameters hasks
  rw [hp] at hp'
  cases hp'
  exact hasked.clientIf

omit [DecidableEq F] in
theorem regularScanTimeout_tuned {env : Env F} (horder : env.Ordered) {s : ScanManager F}
    (h : Tuned s) (hcoded : Asks s.mRegularScanClients → AsksLECoded s.mRegularScanClients) :
    ∃ s', s.regularScanTimeout env = .ok s' ∧ Tuned s' ∧
      s'.mRegularScanClients = s.mRegularScanClients ∧ s'.mBatchClients = s.mBatchClients := by
  obtain ⟨s', hok, htuned, -, hregular, hbatch⟩ := configureRegularScanParams_tuned horder hcoded
    h.scanning fun hasks _ => h.parameters hasks
  unfold ScanManager.regularScanTimeout
  rw [hok]
  by_cases hzero : s'.numRegularScanClients = 0
  · have hidle := (numRegularScanClients_eq_zero_iff s').1 hzero
    refine ⟨s'.scanNative false, ?_, ⟨⟨?_, htuned.parameters⟩, htuned.last, htuned.idle⟩,
      hregular, hbatch⟩
    · show Except.ok (if s'.numRegularScanClients = 0 then s'.scanNative false else s') = _
      rw [if_pos hzero]
    · exact ⟨fun h => absurd h Bool.false_ne_true, fun hasks => absurd hasks hidle⟩
  · refine ⟨s', ?_, htuned, hregular, hbatch⟩
    show Except.ok (if s'.numRegularScanClients = 0 then s'.scanNative false else s') = _
    rw [if_neg hzero]

theorem startRegularClient_tuned {env : Env F} (horder : env.Ordered) {s : ScanManager F}
    {client : ScanClient F} (h : Tuned s)
    (hcoded : Asks s.mRegularScanClients → AsksLECoded s.mRegularScanClients)
    (hcoded' : Asks (insert client s.mRegularScanClients) →
      AsksLECoded (insert client s.mRegularScanClients))
    (hrefused : ¬ ScanManager.refused env client
      { s with mRegularScanClients := insert client s.mRegularScanClients }) :
    ∃ s', s.startRegularClient env client = .ok s' ∧ Tuned s' ∧
      s'.mRegularScanClients = insert client s.mRegularScanClients ∧
      s'.mBatchClients = s.mBatchClients := by
  obtain ⟨s₁, -, hradio, hok⟩ := ScanManager.startRegularScan_accepted env client _ hrefused
  -- scanning is on from the first client that asks for it
  have hstarted : ∃ s₂, ScanManager.startRegularScan env client
        { s with mRegularScanClients := insert client s.mRegularScanClients } = .ok (s₂, true) ∧
      s₂.mRegularScanClients = insert client s.mRegularScanClients ∧
      s₂.mBatchClients = s.mBatchClients ∧
      s₂.mLastConfiguredScanSettingLE1M = s.mLastConfiguredScanSettingLE1M ∧
      s₂.mLastConfiguredScanSettingLECoded = s.mLastConfiguredScanSettingLECoded ∧
      s₂.controller.parameters = s.controller.parameters ∧
      (s₂.controller.scanning = true ↔ Asks (insert client s.mRegularScanClients)) := by
    refine ⟨_, hok, ?_⟩
    split
    · next hone =>
        refine ⟨hradio.regular, hradio.batch, hradio.lastLE1M, hradio.lastLECoded,
          hradio.parameters, fun _ => ?_, fun _ => rfl⟩
        by_contra hidle
        have hzero := (numRegularScanClients_eq_zero_iff
          { s with mRegularScanClients := insert client s.mRegularScanClients }).2 hidle
        rw [hzero] at hone
        cases hone
    · next hmore =>
        refine ⟨hradio.regular, hradio.batch, hradio.lastLE1M, hradio.lastLECoded,
          hradio.parameters, ?_⟩
        rw [hradio.scanning]
        show s.controller.scanning = true ↔ _
        rw [h.scanning, asks_insert_iff]
        constructor
        · exact .inr
        · rintro (hopp | hasks)
          · by_contra hidle
            exact hmore (numRegularScanClients_first hidle hopp)
          · exact hasks
  obtain ⟨s₂, hok₂, hregular, hbatch, hLE1M, hLECoded, hparameters, hscanning⟩ := hstarted
  unfold ScanManager.startRegularClient
  simp only [hok₂]
  cases hopp : isOpportunisticScanClient client with
  | true =>
      have hsame : Asks (insert client s.mRegularScanClients) → Asks s.mRegularScanClients := by
        intro hasks
        obtain hother | hasks := asks_insert_iff.1 hasks
        · rw [hopp] at hother
          cases hother
        · exact hasks
      have hmodes : Asks s.mRegularScanClients →
          Modes (insert client s.mRegularScanClients) s.mLastConfiguredScanSettingLE1M
            s.mLastConfiguredScanSettingLECoded := by
        intro hasks
        refine (h.last hasks).of_opportunistic (hcoded hasks) ?_ ?_
        · exact fun other hother _ => Finset.mem_insert_of_mem hother
        · intro other hother hne
          obtain rfl | hother := Finset.mem_insert.1 hother
          · rw [hopp] at hne
            cases hne
          · exact hother
      refine ⟨s₂, rfl, ⟨⟨?_, ?_⟩, ?_, ?_⟩, hregular, hbatch⟩
      · rw [hregular]
        exact hscanning
      · rw [hregular, hparameters]
        intro hasks
        refine h.parameters_of (hsame hasks) (hmodes (hsame hasks)) ?_
        intro p hp
        obtain ⟨other, hother, hid⟩ := h.clientIf (hsame hasks) p hp
        exact ⟨other, Finset.mem_insert_of_mem hother, hid⟩
      · rw [hregular, hLE1M, hLECoded]
        exact fun hasks => hmodes (hsame hasks)
      · rw [hregular, hLE1M]
        exact fun hidle => h.idle fun hasks => hidle (asks_insert_iff.2 (.inr hasks))
  | false =>
      obtain ⟨s₃, hok₃, htuned, -, hregular₃, hbatch₃⟩ :=
        configureRegularScanParams_tuned horder (s := s₂)
          (by rw [hregular]; exact hcoded') (by rw [hregular]; exact hscanning) (by
            rw [hregular, hLE1M, hLECoded, hparameters]
            intro hasks hmodes
            by_cases hbefore : Asks s.mRegularScanClients
            · refine h.parameters_of hbefore hmodes ?_
              intro p hp
              obtain ⟨other, hother, hid⟩ := h.clientIf hbefore p hp
              exact ⟨other, Finset.mem_insert_of_mem hother, hid⟩
            · exact absurd (hmodes.nonneg (hcoded' hasks)).1 (Int.not_le.2 (h.idle hbefore)))
      obtain ⟨s₄, hok₄, htuned₄, hregular₄, hbatch₄⟩ := regularScanTimeout_tuned horder htuned
        (by rw [hregular₃, hregular]; exact hcoded')
      show ∃ s', (s₂.configureRegularScanParams env >>= fun s =>
          if s.isExemptFromScanDowngrade client then Except.ok s else s.regularScanTimeout env) =
            .ok s' ∧ _
      rw [hok₃]
      show ∃ s', (if s₃.isExemptFromScanDowngrade client then Except.ok s₃
          else s₃.regularScanTimeout env) = .ok s' ∧ _
      split
      · exact ⟨s₃, rfl, htuned, hregular₃.trans hregular, hbatch₃.trans hbatch⟩
      · exact ⟨s₄, hok₄, htuned₄, (hregular₄.trans hregular₃).trans hregular,
          (hbatch₄.trans hbatch₃).trans hbatch⟩

/-- Scanning is off after the last client that asked for it. -/
theorem stopRegularScan_radio {env : Env F} {s : ScanManager F} {client : ScanClient F}
    (h : Tuned s)
    (hservice : getDeliveryMode client = DELIVERY_MODE_ON_FOUND_LOST → client.filters ≠ [] →
      env.service = true) :
    (s.stopRegularScan env client).mRegularScanClients = s.mRegularScanClients.erase client ∧
      (s.stopRegularScan env client).mBatchClients = s.mBatchClients ∧
      (s.stopRegularScan env client).mLastConfiguredScanSettingLE1M =
        s.mLastConfiguredScanSettingLE1M ∧
      (s.stopRegularScan env client).mLastConfiguredScanSettingLECoded =
        s.mLastConfiguredScanSettingLECoded ∧
      (s.stopRegularScan env client).controller.parameters = s.controller.parameters ∧
      ((s.stopRegularScan env client).controller.scanning = true ↔
        Asks (s.mRegularScanClients.erase client)) := by
  obtain ⟨s₁, hradio₁, -, hstop⟩ := ScanManager.stopRegularScan_reaches env client s hservice
  rw [hstop]
  have hmono : Asks (s.mRegularScanClients.erase client) → Asks s.mRegularScanClients := by
    rintro ⟨other, hother, hopp⟩
    exact ⟨other, Finset.mem_of_mem_erase hother, hopp⟩
  have hcount := numRegularScanClients_eq_zero_iff
    { s₁ with mRegularScanClients := s₁.mRegularScanClients.erase client }
  rw [hradio₁.regular] at hcount ⊢
  split
  · next hzero =>
      have hradio := ScanManager.removeScanFilters_radio client.scannerId
        (ScanManager.scanNative false
          { s₁ with mRegularScanClients := s.mRegularScanClients.erase client })
      refine ⟨hradio.regular, hradio.batch.trans hradio₁.batch,
        hradio.lastLE1M.trans hradio₁.lastLE1M, hradio.lastLECoded.trans hradio₁.lastLECoded,
        hradio.parameters.trans hradio₁.parameters, ?_⟩
      rw [hradio.scanning]
      exact ⟨fun h => absurd h Bool.false_ne_true, fun hasks => absurd hasks (hcount.1 hzero)⟩
  · next hmore =>
      have hradio := ScanManager.removeScanFilters_radio client.scannerId
        { s₁ with mRegularScanClients := s.mRegularScanClients.erase client }
      refine ⟨hradio.regular, hradio.batch.trans hradio₁.batch,
        hradio.lastLE1M.trans hradio₁.lastLE1M, hradio.lastLECoded.trans hradio₁.lastLECoded,
        hradio.parameters.trans hradio₁.parameters, ?_⟩
      have hasks : Asks (s.mRegularScanClients.erase client) := by
        by_contra hidle
        exact hmore (hcount.2 hidle)
      rw [hradio.scanning]
      show s₁.controller.scanning = true ↔ _
      rw [hradio₁.scanning, h.scanning]
      exact ⟨fun _ => hasks, fun _ => hmono hasks⟩

/-- A stop that reaches the client, in a state with the client among the regular ones. -/
theorem handleStopScan_tuned {env : Env F} (horder : env.Ordered) {s : ScanManager F}
    {scannerId : Int} {client : ScanClient F} (h : Tuned s)
    (hcoded : Asks s.mRegularScanClients → AsksLECoded s.mRegularScanClients)
    (hfind : s.findClient env scannerId = some client) (hmem : client ∈ s.mRegularScanClients)
    (hservice : getDeliveryMode client = DELIVERY_MODE_ON_FOUND_LOST → client.filters ≠ [] →
      env.service = true)
    (hleft : Asks (s.mRegularScanClients.erase client) →
      AsksLECoded (s.mRegularScanClients.erase client) ∧
        (Modes (s.mRegularScanClients.erase client) s.mLastConfiguredScanSettingLE1M
            s.mLastConfiguredScanSettingLECoded →
          ∀ p, s.controller.parameters = some p →
            ∃ other ∈ s.mRegularScanClients.erase client, other.scannerId = p.clientIf)) :
    ∃ s', s.handleStopScan env scannerId = .ok s' ∧ Tuned s' ∧
      s'.mRegularScanClients = s.mRegularScanClients.erase client ∧
      s'.mBatchClients = s.mBatchClients := by
  obtain ⟨hregular, hbatch, hLE1M, hLECoded, hparameters, hscanning⟩ :=
    stopRegularScan_radio h hservice
  have hmono : Asks (s.mRegularScanClients.erase client) → Asks s.mRegularScanClients := by
    rintro ⟨other, hother, hopp⟩
    exact ⟨other, Finset.mem_of_mem_erase hother, hopp⟩
  -- nothing needs to be sent if the modes are those of the remaining clients
  have hsent : Asks (s.mRegularScanClients.erase client) →
      Modes (s.mRegularScanClients.erase client) s.mLastConfiguredScanSettingLE1M
        s.mLastConfiguredScanSettingLECoded →
      ∃ p, s.controller.parameters = some p ∧
        AsAsked p (s.mRegularScanClients.erase client) := by
    intro hasks hmodes
    exact h.parameters_of (hmono hasks) hmodes ((hleft hasks).2 hmodes)
  unfold ScanManager.handleStopScan
  rw [hfind]
  simp only [if_pos hmem]
  cases hopp : isOpportunisticScanClient client with
  | true =>
      have hstays : ∀ other ∈ s.mRegularScanClients, isOpportunisticScanClient other = false →
          other ∈ s.mRegularScanClients.erase client := by
        intro other hother hne
        refine Finset.mem_erase.2 ⟨?_, hother⟩
        rintro rfl
        rw [hopp] at hne
        cases hne
      have hmodes : Asks (s.mRegularScanClients.erase client) →
          Modes (s.mRegularScanClients.erase client) s.mLastConfiguredScanSettingLE1M
            s.mLastConfiguredScanSettingLECoded := by
        intro hasks
        exact (h.last (hmono hasks)).of_opportunistic (hcoded (hmono hasks)) hstays
          fun other hother _ => Finset.mem_of_mem_erase hother
      refine ⟨_, rfl, ⟨⟨?_, ?_⟩, ?_, ?_⟩, hregular, hbatch⟩
      · rw [hregular]
        exact hscanning
      · rw [hregular, hparameters]
        exact fun hasks => hsent hasks (hmodes hasks)
      · rw [hregular, hLE1M, hLECoded]
        exact hmodes
      · rw [hregular, hLE1M]
        intro hidle
        refine h.idle ?_
        rintro ⟨other, hother, hne⟩
        exact hidle ⟨other, hstays other hother hne, hne⟩
  | false =>
      obtain ⟨s', hok, htuned, -, hregular', hbatch'⟩ :=
        configureRegularScanParams_tuned horder (s := s.stopRegularScan env client)
          (by rw [hregular]; exact fun hasks => (hleft hasks).1)
          (by rw [hregular]; exact hscanning)
          (by rw [hregular, hLE1M, hLECoded, hparameters]; exact hsent)
      exact ⟨s', hok, htuned, hregular'.trans hregular, hbatch'.trans hbatch⟩

namespace RegularInvariant

variable {s s' : ScanManager F} {active : Finset (ScanClient F)} {event : Event F}

omit [DecidableEq F] in
theorem initial : RegularInvariant (ScanManager.initial : ScanManager F) ∅ where
  scanning := by
    refine ⟨fun h => absurd h Bool.false_ne_true, ?_⟩
    rintro ⟨client, hclient, -⟩
    exact absurd hclient (Finset.notMem_empty client)
  parameters := by
    rintro ⟨client, hclient, -⟩
    exact absurd hclient (Finset.notMem_empty client)
  last := by
    rintro ⟨client, hclient, -⟩
    exact absurd hclient (Finset.notMem_empty client)
  idle := fun _ => (by decide : INT_MIN < 0)
  clients := rfl
  batch := rfl
  coded := by
    rintro ⟨client, hclient, -⟩
    exact absurd hclient (Finset.notMem_empty client)

/-- One event that meets the condition. -/
theorem step (h : RegularInvariant s active) (hlegal : LegalRegular event)
    (hcareful : CarefulRegular s active event) :
    ∃ s', s.handle event = .ok s' ∧ RegularInvariant s' (nowActive s s' active event) := by
  obtain ⟨htuned, rfl, hbatch, hcoded⟩ := h
  cases event with
  | start env client =>
      obtain ⟨horder, hregular⟩ := hlegal
      have hkeep : RegularInvariant s (if client ∈ s.mRegularScanClients then
          insert client s.mRegularScanClients else s.mRegularScanClients) := by
        split
        · next hmem =>
            rw [Finset.insert_eq_of_mem hmem]
            exact ⟨htuned, rfl, hbatch, hcoded⟩
        · exact ⟨htuned, rfl, hbatch, hcoded⟩
      show ∃ s', s.handleStartScan env client = .ok s' ∧ _
      unfold ScanManager.handleStartScan
      by_cases hsupported : ScanManager.isScanSupported env client = true
      · by_cases hmem : client ∈ s.mRegularScanClients
        · rw [if_neg (not_not.2 hsupported), if_pos (.inl hmem)]
          exact ⟨s, rfl, hkeep⟩
        · have hnew : ¬ (client ∈ s.mRegularScanClients ∨ client ∈ s.mBatchClients) := by
            rintro (h | h)
            · exact hmem h
            · rw [hbatch] at h
              exact Finset.notMem_empty client h
          rw [if_neg (not_not.2 hsupported), if_neg hnew, if_neg (by rw [hregular]; decide)]
          by_cases hrefused : s.refused env client
          · obtain ⟨s', hok, hradio, -⟩ := ScanManager.startRegularClient_refused env client hmem
              ((ScanManager.refused_clients_iff env client s _).2 hrefused)
            refine ⟨s', hok, ?_⟩
            have hnot : client ∉ s'.mRegularScanClients := by
              rw [hradio.regular]
              exact hmem
            show RegularInvariant s' (if client ∈ s'.mRegularScanClients then _ else _)
            rw [if_neg hnot]
            exact ⟨htuned.of_sameRadio hradio, hradio.regular, hradio.batch.trans hbatch, hcoded⟩
          · have hcoded' := hcareful hsupported hmem hrefused
            obtain ⟨s', hok, htuned', hregular', hbatch'⟩ := startRegularClient_tuned horder htuned
              hcoded hcoded' (mt (ScanManager.refused_clients_iff env client s _).1 hrefused)
            refine ⟨s', hok, ?_⟩
            show RegularInvariant s' (if client ∈ s'.mRegularScanClients then _ else _)
            rw [if_pos (by rw [hregular']; exact Finset.mem_insert_self _ _)]
            exact ⟨htuned', hregular', hbatch'.trans hbatch, hcoded'⟩
      · rw [if_pos hsupported]
        exact ⟨s, rfl, hkeep⟩
  | stop env scannerId =>
      have horder : env.Ordered := hlegal
      cases hfind : s.findClient env scannerId with
      | none =>
          refine ⟨s, ?_, ?_⟩
          · show s.handleStopScan env scannerId = _
            rw [ScanManager.handleStopScan, hfind]
          · simp only [nowActive, hfind]
            exact ⟨htuned, rfl, hbatch, hcoded⟩
      | some client =>
          have hmem : client ∈ s.mRegularScanClients := by
            obtain ⟨hmem | hmem, -⟩ := findClient_mem horder hfind
            · exact hmem
            · rw [hbatch] at hmem
              exact absurd hmem (Finset.notMem_empty client)
          obtain ⟨hservice, hleft⟩ := hcareful client hfind
          obtain ⟨s', hok, htuned', hregular', hbatch'⟩ :=
            handleStopScan_tuned horder htuned hcoded hfind hmem hservice hleft
          refine ⟨s', hok, ?_⟩
          simp only [nowActive, hfind]
          exact ⟨htuned', hregular', hbatch'.trans hbatch, fun hasks => (hleft hasks).1⟩

end RegularInvariant

theorem ReachesRegular.invariant {s : ScanManager F} {active : Finset (ScanClient F)}
    (h : ReachesRegular s active) : RegularInvariant s active := by
  induction h with
  | initial => exact RegularInvariant.initial
  | @step s s' active event _ hlegal hcareful hhandle ih =>
      obtain ⟨s'', hok, hinv⟩ := ih.step hlegal hcareful
      rw [hhandle] at hok
      cases hok
      exact hinv

/-- In every run over regular clients whose events meet the condition the radio scans as
the active clients ask. -/
theorem reachesRegular_scansFor {s : ScanManager F} {active : Finset (ScanClient F)}
    (h : ReachesRegular s active) :
    ScansFor s active ∧ ∀ event, LegalRegular event → CarefulRegular s active event →
      ∃ s', s.handle event = .ok s' ∧ ScansFor s' (nowActive s s' active event) := by
  have hscans : ∀ {s : ScanManager F} {active : Finset (ScanClient F)},
      RegularInvariant s active → ScansFor s active := by
    rintro s active ⟨htuned, rfl, -, -⟩
    exact htuned.toScansFor
  refine ⟨hscans h.invariant, ?_⟩
  intro event hlegal hcareful
  obtain ⟨s', hok, hinv⟩ := h.invariant.step hlegal hcareful
  exact ⟨s', hok, hscans hinv⟩

end Events

section OneClient

/-- A controller without offloaded filters. -/
noncomputable def plain : Env Unit := ⟨Finset.toList, false, true, 16, 4⟩

/-- A client that scans a PHY with low latency. -/
def lowLatency (phy : BitVec 32) : ScanClient Unit where
  address := 1
  scannerId := 5
  settings := ⟨SCAN_MODE_LOW_LATENCY, CALLBACK_TYPE_ALL_MATCHES, 0, 1, phy, by decide,
    allMatches_valid, noDelay_nonneg⟩
  filters := []

/-- After `startRegularScan` for the client of LE 1M. -/
def startedLE1M : ScanManager Unit :=
  { (ScanManager.initial : ScanManager Unit) with
    mRegularScanClients := {lowLatency PHY_LE_1M}
    controller := ⟨true, none, ∅⟩ }

/-- After the start of the client of LE 1M. -/
def afterLE1M : ScanManager Unit :=
  { (ScanManager.initial : ScanManager Unit) with
    mRegularScanClients := {lowLatency PHY_LE_1M}
    mLastConfiguredScanSettingLE1M := SCAN_MODE_LOW_LATENCY
    controller := ⟨true, some ⟨5, PHY_LE_1M, (some 6553, none), (some 6553, none)⟩, ∅⟩ }

theorem plain_ordered : plain.Ordered := fun _ _ => Finset.mem_toList

theorem lowLatency_coded_scansFor :
    ∃ s', ScanManager.initial.handle (.start plain (lowLatency PHY_LE_CODED)) = .ok s' ∧
      ScansFor s' (nowActive ScanManager.initial s' ∅
        (.start plain (lowLatency PHY_LE_CODED))) := by
  refine (reachesRegular_scansFor .initial).2 (.start plain (lowLatency PHY_LE_CODED))
    ⟨plain_ordered, by decide⟩ ?_
  intro _ _ _ _
  exact ⟨lowLatency PHY_LE_CODED, Finset.mem_insert_self _ _, by decide, by decide⟩

/-- A client that scans LE 1M is started: the second elements of the arrays that are sent
were never written. -/
theorem lowLatency_le1M_not_scansFor :
    LegalRegular (.start plain (lowLatency PHY_LE_1M)) ∧
      ∃ s', ScanManager.initial.handle (.start plain (lowLatency PHY_LE_1M)) = .ok s' ∧
        ¬ ScansFor s' (nowActive ScanManager.initial s' ∅
          (.start plain (lowLatency PHY_LE_1M))) := by
  refine ⟨⟨plain_ordered, by decide⟩, afterLE1M, ?_, ?_⟩
  · have horder : plain.order {lowLatency PHY_LE_1M} = [lowLatency PHY_LE_1M] :=
      Finset.toList_singleton _
    have hstarted : ScanManager.startRegularScan plain (lowLatency PHY_LE_1M)
        { (ScanManager.initial : ScanManager Unit) with
          mRegularScanClients := {lowLatency PHY_LE_1M} } =
        .ok (startedLE1M, true) := rfl
    have hsent : startedLE1M.configureRegularScanParams plain = .ok afterLE1M := by
      simp only [ScanManager.configureRegularScanParams, startedLE1M, horder]
      rfl
    have hsame : afterLE1M.configureRegularScanParams plain = .ok afterLE1M := by
      simp only [ScanManager.configureRegularScanParams, afterLE1M, horder]
      rfl
    have htimeout : afterLE1M.regularScanTimeout plain = .ok afterLE1M := by
      rw [ScanManager.regularScanTimeout, hsame]
      rfl
    show (ScanManager.startRegularScan plain (lowLatency PHY_LE_1M)
        { (ScanManager.initial : ScanManager Unit) with
          mRegularScanClients := {lowLatency PHY_LE_1M} } >>= _) = _
    rw [hstarted]
    show (startedLE1M.configureRegularScanParams plain >>= fun s =>
        if s.isExemptFromScanDowngrade (lowLatency PHY_LE_1M) then Except.ok s
        else s.regularScanTimeout plain) = _
    rw [hsent]
    exact htimeout
  · intro hscans
    obtain ⟨p, hp, hasked⟩ := hscans.parameters ⟨lowLatency PHY_LE_1M, by decide, by decide⟩
    cases hp
    exact absurd hasked.written.2.1 Bool.false_ne_true

end OneClient

end Gatt.Scan
