import BtPlatform.Gatt.Scan.Record

/-!
# Whole advertisements

When a client receives the advertisement as it came: it has the legacy setting, the data
fills the fixed size, and no client before it took the bytes or ended the delivery.
-/

namespace Gatt.Scan

open Support List

variable {F : Type} {env : DeliveryEnv F} {header : ReportHeader} {advData : List UInt8}
  {client : ResultClient F} {clients : List (ResultClient F)} {remoteUuids : List Uuid}

/-- The bytes that the record of a client is to be read from. -/
def fullBytes (client : ResultClient F) (advData : List UInt8) : List UInt8 :=
  if client.legacy then advData.take 62 else advData

/-- The client has an application and lets the report through: its UUIDs are in the data,
its legacy setting fits the event, and its filters and callback type take the result. -/
structure Admits (env : DeliveryEnv F) (header : ReportHeader) (advData : List UInt8)
    (client : ResultClient F) : Prop where
  registered : env.registered client.scannerId = true
  uuids : client.uuids = [] ∨
    ∃ remoteUuids, parseUuids (eventData advData) = .ok remoteUuids ∧
      uuidMatches client remoteUuids = true
  legacy : legacyAdmits client header.eventType = true
  wants : ∃ scanRecord, ScanRecord.parseFromBytes (fullBytes client advData) = .ok scanRecord ∧
    wantsResult env client ⟨header, scanRecord⟩ = true

/-- Exactly one result, with the record of the complete data. -/
def ReceivesWhole (env : DeliveryEnv F) (clients : List (ResultClient F)) (header : ReportHeader)
    (advData : List UInt8) (client : ResultClient F) : Prop :=
  ∃ scanRecord front back,
    ScanRecord.parseFromBytes (fullBytes client advData) = .ok scanRecord ∧
    handleScanResultEvent env clients header advData =
      .ok (front ++ (client, ⟨header, scanRecord⟩) :: back) ∧
    ∀ d ∈ front ++ back, d.1 ≠ client

/-- The client is a legacy one, there are 62 bytes at least, the UUIDs of the data are read
within its bounds, and every client before this one whose UUIDs match has an application
and is not a legacy client. -/
def FirstLegacy (env : DeliveryEnv F) (clients : List (ResultClient F)) (advData : List UInt8)
    (client : ResultClient F) : Prop :=
  client.legacy = true ∧ 62 ≤ advData.length ∧
    ∃ remoteUuids, parseUuids (eventData advData) = .ok remoteUuids ∧
      ∃ before after, clients = before ++ client :: after ∧
        ∀ b ∈ before, uuidMatches b remoteUuids = true →
          env.registered b.scannerId = true ∧ b.legacy = false

theorem uuidMatches_nil (h : client.uuids = []) (remoteUuids : List Uuid) :
    uuidMatches client remoteUuids = true := by
  rw [uuidMatches, h]
  rfl

theorem parseFromBytes_nil : ScanRecord.parseFromBytes [] = .ok none := rfl

/-! ## The loop -/

section Loop

variable {legacyAdvData data : List UInt8} {ds : List (ResultClient F × ScanResult)}

/-- Buffers that can be read are delivered without a fault, to clients of the list. -/
theorem deliverLoop_ok (env : DeliveryEnv F) (header : ReportHeader) (remoteUuids : List Uuid)
    (clients : List (ResultClient F))
    (hlegacy : ∃ r, ScanRecord.parseFromBytes legacyAdvData = .ok r)
    (hdata : ∃ r, ScanRecord.parseFromBytes data = .ok r) :
    ∃ ds, deliverLoop env header remoteUuids clients legacyAdvData data = .ok ds ∧
      ∀ d ∈ ds, d.1 ∈ clients := by
  induction clients generalizing legacyAdvData data with
  | nil =>
      refine ⟨[], rfl, ?_⟩
      intro d hd
      cases hd
  | cons c clients ih =>
      have hskip : ∀ {l a : List UInt8}, (∃ r, ScanRecord.parseFromBytes l = .ok r) →
          (∃ r, ScanRecord.parseFromBytes a = .ok r) →
          ∃ ds, deliverLoop env header remoteUuids clients l a = .ok ds ∧
            ∀ d ∈ ds, d.1 ∈ c :: clients := by
        intro l a hl ha
        obtain ⟨ds, hds, hmem⟩ := ih hl ha
        exact ⟨ds, hds, fun d hd => mem_cons_of_mem c (hmem d hd)⟩
      rw [deliverLoop]
      split
      · split
        · split
          · cases hc : c.legacy with
            | true =>
                obtain ⟨r, hr⟩ := hlegacy
                obtain ⟨ds, hds, hmem⟩ := hskip ⟨none, parseFromBytes_nil⟩ hdata
                simp only [if_true, hr]
                split
                · refine ⟨_, by rw [hds]; rfl, ?_⟩
                  intro d hd
                  obtain rfl | hd := mem_cons.1 hd
                  · exact mem_cons_self
                  · exact hmem d hd
                · exact ⟨ds, hds, hmem⟩
            | false =>
                obtain ⟨r, hr⟩ := hdata
                obtain ⟨ds, hds, hmem⟩ := hskip hlegacy ⟨none, parseFromBytes_nil⟩
                simp only [Bool.false_eq_true, if_false, hr]
                split
                · refine ⟨_, by rw [hds]; rfl, ?_⟩
                  intro d hd
                  obtain rfl | hd := mem_cons.1 hd
                  · exact mem_cons_self
                  · exact hmem d hd
                · exact ⟨ds, hds, hmem⟩
          · exact hskip hlegacy hdata
        · refine ⟨[], rfl, ?_⟩
          intro d hd
          cases hd
      · exact hskip hlegacy hdata

/-- What a client gets that is in the list: the buffer of its kind, or an empty one after
another client of its kind; and no client before it ended the loop. -/
theorem mem_deliverLoop {result : ScanResult}
    (h : deliverLoop env header remoteUuids clients legacyAdvData data = .ok ds)
    (hmem : (client, result) ∈ ds) :
    ∃ before after, clients = before ++ client :: after ∧
      (∀ b ∈ before, uuidMatches b remoteUuids = true → env.registered b.scannerId = true) ∧
      (ScanRecord.parseFromBytes [] = .ok result.scanRecord ∨
        ScanRecord.parseFromBytes (if client.legacy then legacyAdvData else data) =
            .ok result.scanRecord ∧
          ∀ b ∈ before, uuidMatches b remoteUuids = true →
            legacyAdmits b header.eventType = true → b.legacy ≠ client.legacy) := by
  induction clients generalizing legacyAdvData data ds with
  | nil =>
      cases h
      cases hmem
  | cons c clients ih =>
      -- a client that is passed over, with the buffers that are left
      have hpass : ∀ {l a : List UInt8} {ds' : List (ResultClient F × ScanResult)},
          deliverLoop env header remoteUuids clients l a = .ok ds' → (client, result) ∈ ds' →
          (uuidMatches c remoteUuids = true → env.registered c.scannerId = true) →
          ((if client.legacy then l else a) = [] ∨
            (if client.legacy then l else a) = (if client.legacy then legacyAdvData else data) ∧
              (uuidMatches c remoteUuids = true → legacyAdmits c header.eventType = true →
                c.legacy ≠ client.legacy)) →
          ∃ before after, c :: clients = before ++ client :: after ∧
            (∀ b ∈ before, uuidMatches b remoteUuids = true →
              env.registered b.scannerId = true) ∧
            (ScanRecord.parseFromBytes [] = .ok result.scanRecord ∨
              ScanRecord.parseFromBytes (if client.legacy then legacyAdvData else data) =
                  .ok result.scanRecord ∧
                ∀ b ∈ before, uuidMatches b remoteUuids = true →
                  legacyAdmits b header.eventType = true → b.legacy ≠ client.legacy) := by
        intro l a ds' hrest hmem' hc hbuffer
        obtain ⟨before, after, hclients, hregistered, hresult⟩ := ih hrest hmem'
        refine ⟨c :: before, after, by rw [hclients, cons_append], ?_, ?_⟩
        · intro b hb
          obtain rfl | hb := mem_cons.1 hb
          · exact hc
          · exact hregistered b hb
        · rcases hresult with hempty | ⟨hparse, hkinds⟩
          · exact .inl hempty
          · rcases hbuffer with hnil | ⟨hsame, hkind⟩
            · rw [hnil] at hparse
              exact .inl hparse
            · rw [hsame] at hparse
              refine .inr ⟨hparse, ?_⟩
              intro b hb
              obtain rfl | hb := mem_cons.1 hb
              · exact hkind
              · exact hkinds b hb
      rw [deliverLoop] at h
      split at h
      · next hmatches =>
          split at h
          · next hregistered =>
              split at h
              · next hadmits =>
                  -- the buffers after this client
                  have hbuffers : (if client.legacy then (if c.legacy then [] else legacyAdvData)
                        else if c.legacy then data else []) = [] ∨
                      (if client.legacy then (if c.legacy then [] else legacyAdvData)
                        else if c.legacy then data else []) =
                          (if client.legacy then legacyAdvData else data) ∧
                        (uuidMatches c remoteUuids = true →
                          legacyAdmits c header.eventType = true → c.legacy ≠ client.legacy) := by
                    cases client.legacy <;> cases c.legacy <;> simp
                  cases hrecord : ScanRecord.parseFromBytes
                      (if c.legacy then legacyAdvData else data) with
                  | error f =>
                      simp only [hrecord] at h
                      cases h
                  | ok scanRecord =>
                      simp only [hrecord] at h
                      by_cases hwants : wantsResult env c ⟨header, scanRecord⟩ = true
                      · cases hrest : deliverLoop env header remoteUuids clients
                            (if c.legacy then [] else legacyAdvData)
                            (if c.legacy then data else []) with
                        | error f =>
                            rw [if_pos hwants, hrest] at h
                            cases h
                        | ok ds' =>
                            rw [if_pos hwants, hrest] at h
                            cases h
                            rcases mem_cons.1 hmem with hhead | htail
                            · cases hhead
                              refine ⟨[], clients, rfl, ?_, .inr ⟨hrecord, ?_⟩⟩
                              · intro b hb
                                cases hb
                              · intro b hb
                                cases hb
                            · exact hpass hrest htail (fun _ => hregistered) hbuffers
                      · rw [if_neg hwants] at h
                        exact hpass h hmem (fun _ => hregistered) hbuffers
              · next hadmits =>
                  exact hpass h hmem (fun _ => hregistered)
                    (.inr ⟨rfl, fun _ hc => absurd hc hadmits⟩)
          · cases h
            cases hmem
      · next hmatches =>
          exact hpass h hmem (fun hc => absurd hc hmatches)
            (.inr ⟨rfl, fun hc => absurd hc hmatches⟩)

/-- The first legacy client, behind clients of the other kind that have applications. -/
theorem deliverLoop_first {before after : List (ResultClient F)} {scanRecord : Option ScanRecord}
    (hdata : ∃ r, ScanRecord.parseFromBytes data = .ok r)
    (hbefore : ∀ b ∈ before, uuidMatches b remoteUuids = true →
      env.registered b.scannerId = true ∧ b.legacy = false)
    (hmatches : uuidMatches client remoteUuids = true)
    (hregistered : env.registered client.scannerId = true)
    (hadmits : legacyAdmits client header.eventType = true) (hlegacy : client.legacy = true)
    (hrecord : ScanRecord.parseFromBytes legacyAdvData = .ok scanRecord)
    (hwants : wantsResult env client ⟨header, scanRecord⟩ = true) :
    ∃ front back, deliverLoop env header remoteUuids (before ++ client :: after) legacyAdvData
        data = .ok (front ++ (client, ⟨header, scanRecord⟩) :: back) ∧
      ∀ d ∈ front ++ back, d.1 ∈ before ++ after := by
  induction before generalizing data with
  | nil =>
      obtain ⟨ds, hds, hmem⟩ := deliverLoop_ok env header remoteUuids after
        ⟨none, parseFromBytes_nil⟩ hdata
      refine ⟨[], ds, ?_, hmem⟩
      rw [nil_append, deliverLoop]
      simp only [hmatches, hregistered, hadmits, hlegacy, if_true, hrecord, hwants, hds]
      rfl
  | cons b before ih =>
      have hrest : ∀ b ∈ before, uuidMatches b remoteUuids = true →
          env.registered b.scannerId = true ∧ b.legacy = false :=
        fun b' hb' => hbefore b' (mem_cons_of_mem b hb')
      have hskip : ∀ {a : List UInt8}, (∃ r, ScanRecord.parseFromBytes a = .ok r) →
          ∃ front back, deliverLoop env header remoteUuids (before ++ client :: after)
              legacyAdvData a = .ok (front ++ (client, ⟨header, scanRecord⟩) :: back) ∧
            ∀ d ∈ front ++ back, d.1 ∈ b :: before ++ after := by
        intro a ha
        obtain ⟨front, back, hds, hmem⟩ := ih ha hrest
        exact ⟨front, back, hds, fun d hd => mem_cons_of_mem b (hmem d hd)⟩
      rw [cons_append, deliverLoop]
      split
      · next hb =>
          obtain ⟨hbRegistered, hbLegacy⟩ := hbefore b mem_cons_self hb
          simp only [hbRegistered, if_true, hbLegacy, Bool.false_eq_true, if_false]
          split
          · obtain ⟨r, hr⟩ := hdata
            obtain ⟨front, back, hds, hmem⟩ := hskip ⟨none, parseFromBytes_nil⟩
            simp only [hr, hds]
            split
            · refine ⟨(b, ⟨header, r⟩) :: front, back, rfl, ?_⟩
              intro d hd
              obtain rfl | hd := mem_cons.1 hd
              · exact mem_cons_self
              · exact hmem d hd
            · exact ⟨front, back, rfl, hmem⟩
          · exact hskip hdata
      · exact hskip hdata

end Loop

/-! ## The whole delivery -/

theorem length_eventData (advData : List UInt8) :
    (eventData advData).length = advData.length + advData.length := by
  rw [eventData, length_append, length_replicate]

theorem eventData_ne_nil (h : advData ≠ []) : eventData advData ≠ [] := by
  intro hnil
  exact h (append_eq_nil_iff.1 hnil).1

/-- The first 62 bytes of the data that the service makes are those of the report only if
there are so many. -/
theorem take_eventData (h : 62 ≤ advData.length) :
    (eventData advData).take 62 = advData.take 62 :=
  take_append_of_le_length h

theorem onScanResult_eq {remoteUuids : List Uuid} (hne : advData ≠ [])
    (huuids : parseUuids (eventData advData) = .ok remoteUuids) :
    handleScanResultEvent env clients header advData =
      deliverLoop env header remoteUuids clients ((eventData advData).take 62)
        (eventData advData) := by
  rw [handleScanResultEvent, onScanResult, if_neg (eventData_ne_nil hne), huuids]

theorem receivesWhole_of_firstLegacy (hnodup : clients.Nodup)
    (hadmits : Admits env header advData client)
    (h : FirstLegacy env clients advData client) :
    ReceivesWhole env clients header advData client := by
  obtain ⟨hlegacy, hlength, remoteUuids, huuids, before, after, rfl, hbefore⟩ := h
  obtain ⟨scanRecord, hrecord, hwants⟩ := hadmits.wants
  have hne : advData ≠ [] := by
    rintro rfl
    exact absurd hlength (by decide)
  have hmatches : uuidMatches client remoteUuids = true := by
    rcases hadmits.uuids with hnil | ⟨remoteUuids', huuids', hmatches⟩
    · exact uuidMatches_nil hnil remoteUuids
    · rw [huuids] at huuids'
      cases huuids'
      exact hmatches
  have hfull : ScanRecord.parseFromBytes ((eventData advData).take 62) = .ok scanRecord := by
    rw [take_eventData hlength]
    rwa [fullBytes, if_pos hlegacy] at hrecord
  obtain ⟨front, back, hds, hmem⟩ := @deliverLoop_first F env header client remoteUuids _ _
    before after scanRecord (ScanRecord.parseFromBytes_eventData advData) hbefore hmatches
    hadmits.registered hadmits.legacy hlegacy hfull hwants
  refine ⟨scanRecord, front, back, hrecord, ?_, ?_⟩
  · rw [onScanResult_eq hne huuids]
    exact hds
  · rintro d hd rfl
    have hnotMem := (nodup_cons.1 (perm_middle.nodup_iff.1 hnodup)).1
    exact hnotMem (hmem d hd)

theorem firstLegacy_of_receivesWhole (hadmits : Admits env header advData client)
    (h : ReceivesWhole env clients header advData client) :
    FirstLegacy env clients advData client := by
  obtain ⟨scanRecord, front, back, hrecord, hds, -⟩ := h
  have hne : advData ≠ [] := by
    rintro rfl
    have hnil : handleScanResultEvent env clients header [] = .ok [] := rfl
    rw [hnil, Except.ok.injEq] at hds
    exact absurd hds.symm (by simp)
  cases huuids : parseUuids (eventData advData) with
  | error f =>
      have hfault : handleScanResultEvent env clients header advData = .error f := by
        rw [handleScanResultEvent, onScanResult, if_neg (eventData_ne_nil hne), huuids]
      rw [hfault] at hds
      cases hds
  | ok remoteUuids =>
      rw [onScanResult_eq hne huuids] at hds
      obtain ⟨before, after, hclients, hregistered, hresult⟩ := mem_deliverLoop hds
        (mem_append_right _ mem_cons_self)
      have hpos : 0 < advData.length := length_pos_iff.2 hne
      -- the record is that of the complete data, so its bytes are
      have hfullNe : fullBytes client advData ≠ [] := by
        intro hnil
        have hlen := congrArg length hnil
        rw [fullBytes] at hlen
        split at hlen
        · rw [length_take, length_nil] at hlen
          omega
        · rw [length_nil] at hlen
          omega
      obtain ⟨r, rfl⟩ : ∃ r, scanRecord = some r := by
        cases scanRecord with
        | none => exact absurd (ScanRecord.parseFromBytes_eq_none hrecord) hfullNe
        | some r => exact ⟨r, rfl⟩
      have hbytes := ScanRecord.parseFromBytes_bytes hrecord
      rcases hresult with hempty | ⟨hparse, hkinds⟩
      · rw [parseFromBytes_nil] at hempty
        cases hempty
      · have hsame := congrArg length
          (hbytes.symm.trans (ScanRecord.parseFromBytes_bytes hparse))
        cases hlegacy : client.legacy with
        | false =>
            rw [fullBytes, hlegacy] at hsame
            simp only [Bool.false_eq_true, if_false, length_eventData] at hsame
            omega
        | true =>
            rw [fullBytes, hlegacy] at hsame
            simp only [if_true, length_take, length_eventData] at hsame
            refine ⟨hlegacy, by omega, remoteUuids, huuids, before, after, hclients, ?_⟩
            intro b hb hmatches
            refine ⟨hregistered b hb hmatches, ?_⟩
            -- the event is a legacy one, so a legacy client would have taken the bytes
            cases hb' : b.legacy with
            | false => rfl
            | true =>
                have hevent := hadmits.legacy
                rw [legacyAdmits, hlegacy] at hevent
                have hbAdmits : legacyAdmits b header.eventType = true := by
                  rw [legacyAdmits, hb']
                  exact hevent
                exact absurd (hb'.trans hlegacy.symm) (hkinds b hb hmatches hbAdmits)

/-- A legacy client of a scanner, without filters and UUIDs. -/
def plainClient (scannerId : Nat) : ResultClient Unit :=
  { address := scannerId, scannerId := scannerId,
    settings := ⟨SCAN_MODE_LOW_POWER, CALLBACK_TYPE_ALL_MATCHES, 0, 3, PHY_LE_1M,
      lowPower_valid, allMatches_valid, noDelay_nonneg⟩,
    filters := [], uuids := [], legacy := true }

/-- The applications of all scanners, and a report of a legacy advertisement. -/
def plainEnv : DeliveryEnv Unit := ⟨fun _ _ => true, fun _ => true⟩

def plainHeader : ReportHeader := ⟨ET_LEGACY_MASK, [], 1, 0, 0, 0, 0, 0⟩

/-- Advertising data with flags only. -/
def flagsData : List UInt8 := [2, 1, 6]

end Gatt.Scan
