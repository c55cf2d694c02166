import BtPlatform.Gatt.Filter.Matches
import BtPlatform.Support.Tests

/-!
# What a filter is to match

A scan result matches if every criterion that is set holds of it. Where the tests of
`matches` go wrong is said criterion by criterion: the ones that have no answer, the ones that
refuse what holds and the ones that take what does not.
-/

namespace Gatt.ScanFilter

open Support Support.Tests Format List
open Scan (ScanResult)

variable {m : Memory} {f : ScanFilter} {r : ScanRecord} {data dataMask parsedData : List UInt8}

/-! ## What the criteria say -/

/-- Two UUIDs agree on the bits of a mask, and on all bits without one. -/
def EqualOn (mask a b : Uuid) : Prop :=
  if mask = .empty then a = b
  else zipWith (· &&& ·) a.uu mask.uu = zipWith (· &&& ·) b.uu mask.uu

/-- The bits of a byte that are compared. -/
def selected (dataMask : List UInt8) (i : Nat) : UInt8 :=
  if dataMask = [] then 0xFF else dataMask.getD i 0

/-- A byte, on the bits that are compared. -/
def onMask (dataMask data : List UInt8) (i : Nat) : UInt8 := selected dataMask i &&& data.getD i 0

/-- The first bytes are those of the filter on the bits of the mask. -/
def BeginsOn (data dataMask parsedData : List UInt8) : Prop :=
  data.length ≤ parsedData.length ∧
    ∀ i < data.length, onMask dataMask parsedData i = onMask dataMask data i

def IsSet (f : ScanFilter) : Criterion → Prop
  | .name => f.mDeviceName ≠ []
  | .serviceUuid => f.mServiceUuid ≠ .empty
  | .solicitationUuid => f.mServiceSolicitationUuid ≠ .empty
  | .serviceData => f.mServiceDataUuid ≠ .empty
  | .manufacturerData => 0 ≤ f.mManufacturerId

/-- What a criterion says of a record. -/
def Satisfied (f : ScanFilter) (r : ScanRecord) : Criterion → Prop
  | .name => r.deviceName = f.mDeviceName
  | .serviceUuid => ∃ u ∈ r.serviceUuids, EqualOn f.mServiceUuidMask u f.mServiceUuid
  | .solicitationUuid => ∃ u ∈ r.serviceSolicitationUuids,
      EqualOn f.mServiceSolicitationUuidMask u f.mServiceSolicitationUuid
  | .serviceData => ∃ parsedData, r.serviceData.lookup f.mServiceDataUuid = some parsedData ∧
      BeginsOn f.mServiceData f.mServiceDataMask parsedData
  | .manufacturerData => ∃ parsedData,
      r.manufacturerSpecificData.lookup f.mManufacturerId.toNat = some parsedData ∧
        BeginsOn f.mManufacturerData f.mManufacturerDataMask parsedData

/-- A scan result is to match: every criterion that is set holds. -/
def Holds (f : ScanFilter) (s : ScanResult) : Prop :=
  (f.mDeviceAddress ≠ [] → s.header.address = f.mDeviceAddress) ∧
    ∀ c, f.IsSet c → ∃ r, s.scanRecord = some r ∧ f.Satisfied r c

/-! ## What the tests do -/

/-- The bytes are the same but for the case of letters. -/
def Caseless (data dataMask parsedData : List UInt8) (i : Nat) : Prop :=
  toupper (onMask dataMask parsedData i) = toupper (onMask dataMask data i)

/-- Data that cannot be compared: there is none, or the mask ends before a difference. -/
def Unreadable (data dataMask : List UInt8) : Option (List UInt8) → Prop
  | none => True
  | some parsedData => parsedData ≠ [] ∧ data.length ≤ parsedData.length ∧ dataMask ≠ [] ∧
      dataMask.length < data.length ∧ ∀ i < dataMask.length, Caseless data dataMask parsedData i

/-- Data that is refused: it is empty or too short, or a byte differs in more than its case. -/
def Refused (data dataMask parsedData : List UInt8) : Prop :=
  parsedData = [] ∨ parsedData.length < data.length ∨
    ∃ i < data.length, (dataMask = [] ∨ i < dataMask.length) ∧ ¬Caseless data dataMask parsedData i

/-- Data that differs, in the case of letters only. -/
def CaseOnly (data dataMask parsedData : List UInt8) : Prop :=
  parsedData ≠ [] ∧ data.length ≤ parsedData.length ∧
    (dataMask = [] ∨ data.length ≤ dataMask.length) ∧
    (∀ i < data.length, Caseless data dataMask parsedData i) ∧
    ∃ i < data.length, onMask dataMask parsedData i ≠ onMask dataMask data i

/-- The criteria whose test has no answer. -/
def Faulty (f : ScanFilter) (r : ScanRecord) : Criterion → Prop
  | .serviceData => f.mServiceDataUuid ≠ .empty ∧
      Unreadable f.mServiceData f.mServiceDataMask (r.serviceData.lookup f.mServiceDataUuid)
  | .manufacturerData => 0 ≤ f.mManufacturerId ∧
      Unreadable f.mManufacturerData f.mManufacturerDataMask
        (r.manufacturerSpecificData.lookup f.mManufacturerId.toNat)
  | _ => False

/-- The criteria whose test says no. -/
def Rejecting (m : Memory) (f : ScanFilter) (r : ScanRecord) : Criterion → Prop
  | .name => f.mDeviceName ≠ [] ∧ caseInsCompare f.mDeviceName r.deviceName = false
  | .serviceUuid => f.mServiceUuid ≠ .empty ∧
      ∀ u ∈ r.serviceUuids, maskedEquals m u f.mServiceUuid f.mServiceUuidMask = false
  | .solicitationUuid => f.mServiceSolicitationUuid ≠ .empty ∧
      (r.serviceSolicitationUuids = [] ∨ maskedEquals m f.mServiceSolicitationUuid
        f.mServiceSolicitationUuid m.solicitationUuidMask = false)
  | .serviceData => f.mServiceDataUuid ≠ .empty ∧
      ∃ parsedData, r.serviceData.lookup f.mServiceDataUuid = some parsedData ∧
        Refused f.mServiceData f.mServiceDataMask parsedData
  | .manufacturerData => 0 ≤ f.mManufacturerId ∧
      ∃ parsedData, r.manufacturerSpecificData.lookup f.mManufacturerId.toNat = some parsedData ∧
        Refused f.mManufacturerData f.mManufacturerDataMask parsedData

/-- The criteria whose test says no although they hold: a UUID under a mask, a solicited UUID,
and empty data. -/
def WronglyRejected (m : Memory) (f : ScanFilter) (r : ScanRecord) : Criterion → Prop
  | .name => False
  | .serviceUuid => f.mServiceUuid ≠ .empty ∧ f.mServiceUuidMask ≠ .empty ∧
      (∃ u ∈ r.serviceUuids, EqualOn f.mServiceUuidMask u f.mServiceUuid) ∧
      ∀ u ∈ r.serviceUuids, maskedEquals m u f.mServiceUuid f.mServiceUuidMask = false
  | .solicitationUuid => f.mServiceSolicitationUuid ≠ .empty ∧
      (∃ u ∈ r.serviceSolicitationUuids,
        EqualOn f.mServiceSolicitationUuidMask u f.mServiceSolicitationUuid) ∧
      maskedEquals m f.mServiceSolicitationUuid f.mServiceSolicitationUuid
        m.solicitationUuidMask = false
  | .serviceData => f.mServiceDataUuid ≠ .empty ∧ f.mServiceData = [] ∧
      r.serviceData.lookup f.mServiceDataUuid = some []
  | .manufacturerData => 0 ≤ f.mManufacturerId ∧ f.mManufacturerData = [] ∧
      r.manufacturerSpecificData.lookup f.mManufacturerId.toNat = some []

/-- The criteria whose test says yes although they do not hold: names and data that differ in
the case of letters, a UUID under a mask, and a solicited UUID. -/
def WronglyAccepted (m : Memory) (f : ScanFilter) (r : ScanRecord) : Criterion → Prop
  | .name => f.mDeviceName ≠ [] ∧ caseInsCompare f.mDeviceName r.deviceName = true ∧
      r.deviceName ≠ f.mDeviceName
  | .serviceUuid => f.mServiceUuid ≠ .empty ∧ f.mServiceUuidMask ≠ .empty ∧
      (∃ u ∈ r.serviceUuids, maskedEquals m u f.mServiceUuid f.mServiceUuidMask = true) ∧
      ∀ u ∈ r.serviceUuids, ¬EqualOn f.mServiceUuidMask u f.mServiceUuid
  | .solicitationUuid => f.mServiceSolicitationUuid ≠ .empty ∧ r.serviceSolicitationUuids ≠ [] ∧
      maskedEquals m f.mServiceSolicitationUuid f.mServiceSolicitationUuid
        m.solicitationUuidMask = true ∧
      ∀ u ∈ r.serviceSolicitationUuids,
        ¬EqualOn f.mServiceSolicitationUuidMask u f.mServiceSolicitationUuid
  | .serviceData => f.mServiceDataUuid ≠ .empty ∧
      ∃ parsedData, r.serviceData.lookup f.mServiceDataUuid = some parsedData ∧
        CaseOnly f.mServiceData f.mServiceDataMask parsedData
  | .manufacturerData => 0 ≤ f.mManufacturerId ∧
      ∃ parsedData, r.manufacturerSpecificData.lookup f.mManufacturerId.toNat = some parsedData ∧
        CaseOnly f.mManufacturerData f.mManufacturerDataMask parsedData

/-! ## The comparison of data -/

theorem caseInsCharCompareN_iff (a b : UInt8) :
    caseInsCharCompareN a b = true ↔ toupper a = toupper b := by
  unfold caseInsCharCompareN
  exact beq_iff_eq

theorem onMask_nil (data : List UInt8) (i : Nat) : onMask [] data i = data.getD i 0 := by
  change 0xFF &&& data.getD i 0 = data.getD i 0
  exact UInt8.neg_one_and

theorem onMask_of_ne (h : dataMask ≠ []) (data : List UInt8) (i : Nat) :
    onMask dataMask data i = dataMask.getD i 0 &&& data.getD i 0 := by
  unfold onMask selected
  rw [if_neg h]

theorem matchesMasked_cons (d m p : UInt8) (data dataMask parsedData : List UInt8) :
    matchesMasked (d :: data) (m :: dataMask) (p :: parsedData) =
      if toupper (m &&& p) = toupper (m &&& d) then matchesMasked data dataMask parsedData
      else .ok false := by
  rw [matchesMasked]
  exact if_congr (caseInsCharCompareN_iff _ _) rfl rfl

/-- The data is taken if the mask is long enough and every byte is the same. -/
theorem matchesMasked_true (hlen : data.length ≤ parsedData.length) :
    matchesMasked data dataMask parsedData = .ok true ↔
      data.length ≤ dataMask.length ∧ ∀ i < data.length,
        toupper (dataMask.getD i 0 &&& parsedData.getD i 0) =
          toupper (dataMask.getD i 0 &&& data.getD i 0) := by
  induction data generalizing dataMask parsedData with
  | nil => simp [matchesMasked]
  | cons d data ih =>
      cases parsedData with
      | nil => cases hlen
      | cons p parsedData =>
          cases dataMask with
          | nil => simp [matchesMasked]
          | cons m dataMask =>
              have hrest := @ih dataMask parsedData (Nat.le_of_succ_le_succ hlen)
              rw [matchesMasked_cons, length_cons, length_cons,
                Nat.forall_lt_succ_left, Nat.succ_le_succ_iff]
              simp only [getD_cons_zero, getD_cons_succ]
              split
              · next heq => rw [hrest, and_iff_right heq]
              · next hne => simp [hne]

/-- The data is refused if a byte within the mask differs. -/
theorem matchesMasked_false (hlen : data.length ≤ parsedData.length) :
    matchesMasked data dataMask parsedData = .ok false ↔
      ∃ i < data.length, i < dataMask.length ∧
        toupper (dataMask.getD i 0 &&& parsedData.getD i 0) ≠
          toupper (dataMask.getD i 0 &&& data.getD i 0) := by
  induction data generalizing dataMask parsedData with
  | nil => simp [matchesMasked]
  | cons d data ih =>
      cases parsedData with
      | nil => cases hlen
      | cons p parsedData =>
          cases dataMask with
          | nil => simp [matchesMasked]
          | cons m dataMask =>
              have hrest := @ih dataMask parsedData (Nat.le_of_succ_le_succ hlen)
              rw [matchesMasked_cons, length_cons, length_cons,
                Nat.exists_lt_succ_left]
              simp only [getD_cons_zero, getD_cons_succ, Nat.succ_lt_succ_iff]
              split
              · next heq =>
                  rw [hrest]
                  simp [heq]
              · next hne => simp [hne]

/-- Without a mask the bytes are compared with one another. -/
theorem all_zip_iff (hlen : data.length ≤ parsedData.length) :
    (parsedData.zip data).all (fun pair => caseInsCharCompareN pair.1 pair.2) = true ↔
      ∀ i < data.length, toupper (parsedData.getD i 0) = toupper (data.getD i 0) := by
  induction data generalizing parsedData with
  | nil => simp
  | cons d data ih =>
      cases parsedData with
      | nil => cases hlen
      | cons p parsedData =>
          have hrest := ih (Nat.le_of_succ_le_succ hlen)
          rw [zip_cons_cons, all_cons, Bool.and_eq_true, hrest,
            caseInsCharCompareN_iff, length_cons, Nat.forall_lt_succ_left]
          rfl

theorem matchesPartialData_true :
    matchesPartialData data dataMask parsedData = .ok true ↔
      parsedData ≠ [] ∧ data.length ≤ parsedData.length ∧
        (dataMask = [] ∨ data.length ≤ dataMask.length) ∧
        ∀ i < data.length, Caseless data dataMask parsedData i := by
  unfold matchesPartialData Caseless
  by_cases hnil : parsedData = []
  · simp [hnil]
  · by_cases hshort : parsedData.length < data.length
    · simp [hshort]
    · rw [if_neg (by simp [hnil, hshort])]
      have hlen : data.length ≤ parsedData.length := Nat.le_of_not_lt hshort
      by_cases hmask : dataMask = []
      · subst hmask
        rw [if_pos rfl, Except.ok.injEq, all_zip_iff hlen]
        simp [hnil, hlen, onMask_nil]
      · rw [if_neg hmask, matchesMasked_true hlen]
        simp [hnil, hlen, hmask, onMask_of_ne hmask]

theorem matchesPartialData_false :
    matchesPartialData data dataMask parsedData = .ok false ↔
      Refused data dataMask parsedData := by
  unfold matchesPartialData Refused Caseless
  by_cases hnil : parsedData = []
  · simp [hnil]
  · by_cases hshort : parsedData.length < data.length
    · simp [hshort]
    · rw [if_neg (by simp [hnil, hshort])]
      have hlen : data.length ≤ parsedData.length := Nat.le_of_not_lt hshort
      by_cases hmask : dataMask = []
      · subst hmask
        rw [if_pos rfl, Except.ok.injEq, ← Bool.not_eq_true, all_zip_iff hlen]
        simp [hnil, hshort, onMask_nil]
      · rw [if_neg hmask, matchesMasked_false hlen]
        simp [hnil, hshort, hmask, onMask_of_ne hmask]

theorem error_iff {ε : Type} (x : Except ε Bool) :
    (∃ e, x = .error e) ↔ x ≠ .ok true ∧ x ≠ .ok false := by
  cases x with
  | error e => simp
  | ok b => cases b <;> simp

/-- Comparing the data of an entry of a map. -/
theorem entryOf_false {κ : Type} [DecidableEq κ] (map : Table κ (List UInt8)) (key : κ) :
    (entryOf map key >>= fun parsedData => matchesPartialData data dataMask parsedData) =
        .ok false ↔
      ∃ parsedData, map.lookup key = some parsedData ∧ Refused data dataMask parsedData := by
  unfold entryOf
  cases map.lookup key with
  | none => simp
  | some parsedData => simp [matchesPartialData_false]

theorem matchesPartialData_error :
    (∃ e, matchesPartialData data dataMask parsedData = .error e) ↔
      Unreadable data dataMask (some parsedData) := by
  rw [error_iff, Ne, Ne, matchesPartialData_true, matchesPartialData_false]
  unfold Refused Unreadable
  constructor
  · rintro ⟨htrue, hfalse⟩
    rw [not_or, not_or] at hfalse
    obtain ⟨hnil, hshort, hsame⟩ := hfalse
    have hlen := Nat.le_of_not_lt hshort
    have hmask : dataMask ≠ [] := by
      rintro rfl
      refine htrue ⟨hnil, hlen, .inl rfl, fun i hi => ?_⟩
      exact not_not.1 fun hdiff => hsame ⟨i, hi, .inl rfl, hdiff⟩
    have hends : dataMask.length < data.length := by
      refine Nat.lt_of_not_le fun hle => htrue ⟨hnil, hlen, .inr hle, fun i hi => ?_⟩
      exact not_not.1 fun hdiff => hsame ⟨i, hi, .inr (Nat.lt_of_lt_of_le hi hle), hdiff⟩
    refine ⟨hnil, hlen, hmask, hends, fun i hi => ?_⟩
    exact not_not.1 fun hdiff => hsame ⟨i, Nat.lt_trans hi hends, .inr hi, hdiff⟩
  · rintro ⟨hnil, hlen, hmask, hends, hsame⟩
    constructor
    · rintro ⟨-, -, hcovers | hcovers, -⟩
      · exact hmask hcovers
      · omega
    · rintro (h | h | ⟨i, -, h | h, hdiff⟩)
      · exact hnil h
      · omega
      · exact hmask h
      · exact hdiff (hsame i h)

theorem entryOf_error {κ : Type} [DecidableEq κ] (map : Table κ (List UInt8)) (key : κ) :
    (∃ e, (entryOf map key >>= fun parsedData => matchesPartialData data dataMask parsedData) =
        .error e) ↔ Unreadable data dataMask (map.lookup key) := by
  unfold entryOf
  cases map.lookup key with
  | none => simp [Unreadable]
  | some parsedData =>
      rw [ok_bind]
      exact matchesPartialData_error

/-! ## The tests, criterion by criterion -/

theorem matchesServiceUuids_false {uuid mask : Uuid} (hset : uuid ≠ .empty) (uuids : List Uuid) :
    matchesServiceUuids m uuid mask uuids = false ↔
      ∀ u ∈ uuids, maskedEquals m u uuid mask = false := by
  unfold matchesServiceUuids matchesServiceUuid
  rw [if_neg hset, any_eq_false]
  simp

theorem matchesSolicitation_false {uuid mask : Uuid} (hset : uuid ≠ .empty) (uuids : List Uuid) :
    matchesServiceSolicitationUuids m uuid mask uuids = false ↔
      uuids = [] ∨ maskedEquals m uuid uuid m.solicitationUuidMask = false := by
  unfold matchesServiceSolicitationUuids matchesServiceUuid
  rw [if_neg hset]
  cases uuids with
  | nil => simp
  | cons u uuids =>
      rw [any_cons, Bool.or_eq_false_iff]
      simp only [any_eq_false, Bool.not_eq_true, cons_ne_nil, false_or]
      exact ⟨And.left, fun h => ⟨h, fun _ _ => h⟩⟩

variable {c : Criterion}

/-- A criterion that is not set is passed without a record, too. -/
theorem test_unset (h : ¬f.IsSet c) (scanRecord : Option ScanRecord) :
    test m f scanRecord c = .ok true := by
  cases c with
  | name => exact if_pos (not_not.1 h)
  | serviceUuid => exact if_pos (not_not.1 h)
  | solicitationUuid => exact if_pos (not_not.1 h)
  | serviceData => exact if_pos (not_not.1 h)
  | manufacturerData => exact if_pos (Int.not_le.1 h)

theorem test_name : test m f (some r) .name =
    if f.mDeviceName = [] then .ok true
    else .ok (caseInsCompare f.mDeviceName r.deviceName) := rfl

theorem test_serviceUuid : test m f (some r) .serviceUuid =
    if f.mServiceUuid = .empty then .ok true
    else .ok (matchesServiceUuids m f.mServiceUuid f.mServiceUuidMask r.serviceUuids) := rfl

theorem test_solicitationUuid : test m f (some r) .solicitationUuid =
    if f.mServiceSolicitationUuid = .empty then .ok true
    else .ok (matchesServiceSolicitationUuids m f.mServiceSolicitationUuid
      f.mServiceSolicitationUuidMask r.serviceSolicitationUuids) := rfl

theorem test_serviceData : test m f (some r) .serviceData =
    if f.mServiceDataUuid = .empty then .ok true
    else entryOf r.serviceData f.mServiceDataUuid >>= fun parsedData =>
      matchesPartialData f.mServiceData f.mServiceDataMask parsedData := rfl

theorem test_manufacturerData : test m f (some r) .manufacturerData =
    if f.mManufacturerId < 0 then .ok true
    else entryOf r.manufacturerSpecificData f.mManufacturerId.toNat >>= fun parsedData =>
      matchesPartialData f.mManufacturerData f.mManufacturerDataMask parsedData := rfl

theorem test_false (c : Criterion) :
    test m f (some r) c = .ok false ↔ Rejecting m f r c := by
  cases c with
  | name =>
      rw [test_name, Rejecting]
      split
      · next hnil => simp [hnil]
      · next hset => simp [hset]
  | serviceUuid =>
      rw [test_serviceUuid, Rejecting]
      split
      · next hempty => simp [hempty]
      · next hset => rw [Except.ok.injEq, matchesServiceUuids_false hset, and_iff_right hset]
  | solicitationUuid =>
      rw [test_solicitationUuid, Rejecting]
      split
      · next hempty => simp [hempty]
      · next hset => rw [Except.ok.injEq, matchesSolicitation_false hset, and_iff_right hset]
  | serviceData =>
      rw [test_serviceData, Rejecting]
      split
      · next hempty => simp [hempty]
      · next hset => rw [entryOf_false, and_iff_right hset]
  | manufacturerData =>
      rw [test_manufacturerData, Rejecting]
      split
      · next hneg => simp [hneg]
      · next hset => rw [entryOf_false, and_iff_right (Int.not_lt.1 hset)]

theorem test_error (c : Criterion) :
    (∃ e, test m f (some r) c = .error e) ↔ Faulty f r c := by
  cases c with
  | name =>
      rw [test_name, Faulty]
      · split
        · simp
        · simp
      · nofun
      · nofun
  | serviceUuid =>
      rw [test_serviceUuid, Faulty]
      · split
        · simp
        · simp
      · nofun
      · nofun
  | solicitationUuid =>
      rw [test_solicitationUuid, Faulty]
      · split
        · simp
        · simp
      · nofun
      · nofun
  | serviceData =>
      rw [test_serviceData, Faulty]
      split
      · next hempty => simp [hempty]
      · next hset => rw [entryOf_error, and_iff_right hset]
  | manufacturerData =>
      rw [test_manufacturerData, Faulty]
      split
      · next hneg => simp [hneg]
      · next hset => rw [entryOf_error, and_iff_right (Int.not_lt.1 hset)]

/-! ## Where a test goes wrong -/

theorem caseInsCompare_self (s : List UInt8) : caseInsCompare s s = true := by
  unfold caseInsCompare
  rw [decide_eq_true rfl, Bool.true_and]
  induction s with
  | nil => rfl
  | cons ch s ih =>
      rw [zip_cons_cons, all_cons, ih, Bool.and_true, caseInsCharCompareN_iff]

theorem maskedEquals_empty (a b : Uuid) : maskedEquals m a b .empty = true ↔ a = b := by
  unfold maskedEquals
  rw [if_pos rfl, decide_eq_true_iff]

theorem equalOn_empty {a b : Uuid} : EqualOn .empty a b ↔ a = b := by
  unfold EqualOn
  rw [if_pos rfl]

/-- Data that begins as it should is refused only if there is no byte at all. -/
theorem refused_of_beginsOn (h : BeginsOn data dataMask parsedData) :
    Refused data dataMask parsedData ↔ data = [] ∧ parsedData = [] := by
  obtain ⟨hlen, hsame⟩ := h
  constructor
  · rintro (hnil | hshort | ⟨i, hi, -, hdiff⟩)
    · rw [hnil] at hlen
      exact ⟨eq_nil_of_length_eq_zero (Nat.le_zero.1 hlen), hnil⟩
    · omega
    · exact absurd (congrArg toupper (hsame i hi)) hdiff
  · rintro ⟨-, hnil⟩
    exact .inl hnil

/-- Data that is taken but does not begin as it should differs in the case of letters. -/
theorem caseOnly_of_not_beginsOn (hrefused : ¬Refused data dataMask parsedData)
    (hread : ¬Unreadable data dataMask (some parsedData)) :
    CaseOnly data dataMask parsedData ↔ ¬BeginsOn data dataMask parsedData := by
  have htrue : matchesPartialData data dataMask parsedData = .ok true := by
    cases hresult : matchesPartialData data dataMask parsedData with
    | error e => exact absurd (matchesPartialData_error.1 ⟨e, hresult⟩) hread
    | ok b =>
        cases b with
        | false => exact absurd (matchesPartialData_false.1 hresult) hrefused
        | true => rfl
  obtain ⟨hnil, hlen, hcovers, hsame⟩ := matchesPartialData_true.1 htrue
  unfold CaseOnly BeginsOn
  constructor
  · rintro ⟨-, -, -, -, i, hi, hdiff⟩ ⟨-, heq⟩
    exact hdiff (heq i hi)
  · intro h
    refine ⟨hnil, hlen, hcovers, hsame, ?_⟩
    by_contra hnone
    refine h ⟨hlen, fun i hi => ?_⟩
    exact not_not.1 fun hdiff => hnone ⟨i, hi, hdiff⟩

theorem beginsOn_nil {dataMask : List UInt8} : BeginsOn [] dataMask [] :=
  ⟨Nat.le_refl 0, fun _ hi => absurd hi (Nat.not_lt_zero _)⟩

/-- The test of a criterion that holds says no exactly where it is wrong. -/
theorem wronglyRejected_iff (c : Criterion) :
    WronglyRejected m f r c ↔ Rejecting m f r c ∧ Satisfied f r c := by
  cases c with
  | name =>
      unfold WronglyRejected Rejecting Satisfied
      refine ⟨False.elim, ?_⟩
      rintro ⟨⟨-, hno⟩, heq⟩
      rw [heq, caseInsCompare_self] at hno
      cases hno
  | serviceUuid =>
      unfold WronglyRejected Rejecting Satisfied
      constructor
      · rintro ⟨hset, -, hequal, hno⟩
        exact ⟨⟨hset, hno⟩, hequal⟩
      · rintro ⟨⟨hset, hno⟩, u, hu, hequal⟩
        refine ⟨hset, ?_, ⟨u, hu, hequal⟩, hno⟩
        intro hmask
        have hfalse := hno u hu
        rw [hmask] at hfalse hequal
        rw [(maskedEquals_empty u f.mServiceUuid).2 (equalOn_empty.1 hequal)] at hfalse
        cases hfalse
  | solicitationUuid =>
      unfold WronglyRejected Rejecting Satisfied
      constructor
      · rintro ⟨hset, hequal, hno⟩
        exact ⟨⟨hset, .inr hno⟩, hequal⟩
      · rintro ⟨⟨hset, hnil | hno⟩, u, hu, hequal⟩
        · rw [hnil] at hu
          cases hu
        · exact ⟨hset, ⟨u, hu, hequal⟩, hno⟩
  | serviceData =>
      unfold WronglyRejected Rejecting Satisfied
      constructor
      · rintro ⟨hset, hnil, hlookup⟩
        rw [hnil]
        exact ⟨⟨hset, [], hlookup, .inl rfl⟩, [], hlookup, beginsOn_nil⟩
      · rintro ⟨⟨hset, parsedData, hlookup, hrefused⟩, parsedData', hlookup', hbegins⟩
        obtain rfl := Option.some.inj (hlookup.symm.trans hlookup')
        obtain ⟨hnil, rfl⟩ := (refused_of_beginsOn hbegins).1 hrefused
        exact ⟨hset, hnil, hlookup⟩
  | manufacturerData =>
      unfold WronglyRejected Rejecting Satisfied
      constructor
      · rintro ⟨hset, hnil, hlookup⟩
        rw [hnil]
        exact ⟨⟨hset, [], hlookup, .inl rfl⟩, [], hlookup, beginsOn_nil⟩
      · rintro ⟨⟨hset, parsedData, hlookup, hrefused⟩, parsedData', hlookup', hbegins⟩
        obtain rfl := Option.some.inj (hlookup.symm.trans hlookup')
        obtain ⟨hnil, rfl⟩ := (refused_of_beginsOn hbegins).1 hrefused
        exact ⟨hset, hnil, hlookup⟩

/-- What is taken under a criterion that does not hold. -/
theorem wronglyAccepted_of (hset : f.IsSet c) (hno : ¬Rejecting m f r c) (hread : ¬Faulty f r c)
    (hsat : ¬Satisfied f r c) : WronglyAccepted m f r c := by
  cases c with
  | name =>
      have hyes : caseInsCompare f.mDeviceName r.deviceName = true := by
        by_contra hfalse
        exact hno ⟨hset, Bool.eq_false_of_not_eq_true hfalse⟩
      exact ⟨hset, hyes, hsat⟩
  | serviceUuid =>
      obtain ⟨u, hu, hyes⟩ :
          ∃ u ∈ r.serviceUuids, maskedEquals m u f.mServiceUuid f.mServiceUuidMask = true := by
        by_contra hnone
        refine hno ⟨hset, fun u hu => Bool.eq_false_of_not_eq_true fun hyes => ?_⟩
        exact hnone ⟨u, hu, hyes⟩
      refine ⟨hset, ?_, ⟨u, hu, hyes⟩, fun u hu hequal => hsat ⟨u, hu, hequal⟩⟩
      intro hmask
      apply hsat
      unfold Satisfied
      rw [hmask] at hyes ⊢
      exact ⟨u, hu, equalOn_empty.2 ((maskedEquals_empty _ _).1 hyes)⟩
  | solicitationUuid =>
      refine ⟨hset, fun hnil => hno ⟨hset, .inl hnil⟩, ?_, fun u hu hequal =>
        hsat ⟨u, hu, hequal⟩⟩
      by_contra hfalse
      exact hno ⟨hset, .inr (Bool.eq_false_of_not_eq_true hfalse)⟩
  | serviceData =>
      cases hlookup : r.serviceData.lookup f.mServiceDataUuid with
      | none =>
          refine absurd ⟨hset, ?_⟩ hread
          rw [hlookup]
          trivial
      | some parsedData =>
          refine ⟨hset, parsedData, hlookup, (caseOnly_of_not_beginsOn ?_ ?_).2 ?_⟩
          · exact fun hrefused => hno ⟨hset, parsedData, hlookup, hrefused⟩
          · intro hends
            refine hread ⟨hset, ?_⟩
            rw [hlookup]
            exact hends
          · exact fun hbegins => hsat ⟨parsedData, hlookup, hbegins⟩
  | manufacturerData =>
      cases hlookup : r.manufacturerSpecificData.lookup f.mManufacturerId.toNat with
      | none =>
          refine absurd ⟨hset, ?_⟩ hread
          rw [hlookup]
          trivial
      | some parsedData =>
          refine ⟨hset, parsedData, hlookup, (caseOnly_of_not_beginsOn ?_ ?_).2 ?_⟩
          · exact fun hrefused => hno ⟨hset, parsedData, hlookup, hrefused⟩
          · intro hends
            refine hread ⟨hset, ?_⟩
            rw [hlookup]
            exact hends
          · exact fun hbegins => hsat ⟨parsedData, hlookup, hbegins⟩

theorem Rejecting.isSet (h : Rejecting m f r c) : f.IsSet c := by
  cases c with
  | name => exact h.1
  | serviceUuid => exact h.1
  | solicitationUuid => exact h.1
  | serviceData => exact h.1
  | manufacturerData => exact h.1

/-- What is wrongly taken is set and does not hold. -/
theorem WronglyAccepted.not_satisfied (h : WronglyAccepted m f r c) :
    f.IsSet c ∧ ¬Satisfied f r c := by
  cases c with
  | name => exact ⟨h.1, h.2.2⟩
  | serviceUuid =>
      refine ⟨h.1, ?_⟩
      rintro ⟨u, hu, hequal⟩
      exact h.2.2.2 u hu hequal
  | solicitationUuid =>
      refine ⟨h.1, ?_⟩
      rintro ⟨u, hu, hequal⟩
      exact h.2.2.2 u hu hequal
  | serviceData =>
      obtain ⟨hset, parsedData, hlookup, -, -, -, -, i, hi, hdiff⟩ := h
      refine ⟨hset, ?_⟩
      rintro ⟨parsedData', hlookup', hbegins⟩
      obtain rfl := Option.some.inj (hlookup.symm.trans hlookup')
      exact hdiff (hbegins.2 i hi)
  | manufacturerData =>
      obtain ⟨hset, parsedData, hlookup, -, -, -, -, i, hi, hdiff⟩ := h
      refine ⟨hset, ?_⟩
      rintro ⟨parsedData', hlookup', hbegins⟩
      obtain rfl := Option.some.inj (hlookup.symm.trans hlookup')
      exact hdiff (hbegins.2 i hi)

/-! ## The whole filter -/

theorem mem_criteria (c : Criterion) : c ∈ criteria := by
  cases c <;> decide

/-- When the answer is right. A filter with a device address never matches; without a record,
data of a UUID or of a company is looked for all the same; and with one, what a test gets wrong
must be made up for by another one. -/
structure RightlyJudged (m : Memory) (f : ScanFilter) (s : ScanResult) : Prop where
  address : f.mDeviceAddress ≠ [] → ¬f.Holds s
  absent : f.mDeviceAddress = [] → s.scanRecord = none → ¬f.FiltersRecord →
    f.mServiceDataUuid = .empty ∧ f.mManufacturerId < 0
  answered : f.mDeviceAddress = [] → ∀ r, s.scanRecord = some r →
    ∀ pre c post, criteria = pre ++ c :: post → Faulty f r c → ∃ b ∈ pre, Rejecting m f r b
  rejected : f.mDeviceAddress = [] → ∀ r, s.scanRecord = some r →
    (∃ c, WronglyRejected m f r c) → ∃ c, f.IsSet c ∧ ¬Satisfied f r c
  accepted : f.mDeviceAddress = [] → ∀ r, s.scanRecord = some r →
    (∃ c, WronglyAccepted m f r c) → ∃ c, Rejecting m f r c

/-- A filter with an address matches nothing. -/
theorem matchesResult_address (haddress : f.mDeviceAddress ≠ []) (s : ScanResult) :
    matchesResult m f (some s) = .ok false := by
  unfold matchesResult
  dsimp only
  rw [if_pos]
  refine ⟨haddress, ?_⟩
  by_cases hnil : s.header.address = []
  · refine .inr (decide_eq_false ?_)
    rw [hnil]
    exact fun h => haddress (map_eq_nil_iff.1 h)
  · exact .inl hnil

theorem matchesResult_absent (haddress : f.mDeviceAddress = []) {s : ScanResult}
    (hnone : s.scanRecord = none) :
    Right (matchesResult m f (some s)) (f.Holds s) ↔
      (¬f.FiltersRecord → f.mServiceDataUuid = .empty ∧ f.mManufacturerId < 0) := by
  unfold matchesResult
  dsimp only
  rw [if_neg (fun h => h.1 haddress)]
  by_cases hfilters : f.FiltersRecord
  · rw [if_pos ⟨hnone, hfilters⟩, right_ok]
    refine iff_of_true ⟨nofun, fun hholds => ?_⟩ (fun h => absurd hfilters h)
    have hset : ∃ c, f.IsSet c := by
      rcases hfilters with h | h | h | h | h
      · exact ⟨.name, h⟩
      · exact ⟨.serviceUuid, h⟩
      · exact ⟨.manufacturerData, Int.not_lt.1 fun hneg => h (f.hasId hneg)⟩
      · exact ⟨.serviceData, fun hempty => h (f.hasUuid hempty)⟩
      · exact ⟨.solicitationUuid, h⟩
    obtain ⟨c, hc⟩ := hset
    obtain ⟨r, hr, -⟩ := hholds.2 c hc
    rw [hnone] at hr
    cases hr
  · rw [if_neg (fun h => hfilters h.2), hnone]
    have hunset := hfilters
    unfold FiltersRecord at hunset
    simp only [not_or, not_not] at hunset
    obtain ⟨hname, huuid, -, -, hsolicitation⟩ := hunset
    have htests : criteria.allM (test m f none) =
        [Criterion.serviceData, .manufacturerData].allM (test m f none) := by
      unfold criteria
      rw [allM_of_true (test_unset (c := .name) (fun h => h hname) none),
        allM_of_true (test_unset (c := .serviceUuid) (fun h => h huuid) none),
        allM_of_true (test_unset (c := .solicitationUuid) (fun h => h hsolicitation) none)]
    rw [htests]
    by_cases hservice : f.mServiceDataUuid = .empty
    · rw [allM_of_true (test_unset (c := .serviceData) (fun h => h hservice) none)]
      by_cases hid : f.mManufacturerId < 0
      · rw [allM_of_true (test_unset (c := .manufacturerData) (Int.not_le.2 hid) none)]
        change Right (.ok true) _ ↔ _
        rw [right_ok]
        refine iff_of_true ?_ (fun _ => ⟨hservice, hid⟩)
        refine iff_of_true rfl ⟨fun hne => absurd haddress hne, fun c hc => ?_⟩
        cases c with
        | name => exact absurd hname hc
        | serviceUuid => exact absurd huuid hc
        | solicitationUuid => exact absurd hsolicitation hc
        | serviceData => exact absurd hservice hc
        | manufacturerData => exact absurd hid (Int.not_lt.2 hc)
      · have herror : test m f none .manufacturerData = .error .nullDeref := if_neg hid
        rw [allM_of_error herror]
        refine iff_of_false (not_right_error _ _) (fun h => hid (h hfilters).2)
    · have herror : test m f none .serviceData = .error .nullDeref := if_neg hservice
      rw [allM_of_error herror]
      refine iff_of_false (not_right_error _ _) (fun h => hservice (h hfilters).1)

theorem matchesResult_present (haddress : f.mDeviceAddress = []) {s : ScanResult}
    (hsome : s.scanRecord = some r) :
    matchesResult m f (some s) = criteria.allM (test m f (some r)) := by
  unfold matchesResult
  dsimp only
  rw [if_neg (fun h => h.1 haddress), hsome, if_neg (fun h => by cases h.1)]

/-- A result is judged as it should be, except where a test goes wrong and no other one makes up
for it. -/
theorem matchesResult_right_iff (m : Memory) (f : ScanFilter) (s : ScanResult) :
    Right (matchesResult m f (some s)) (f.Holds s) ↔ RightlyJudged m f s := by
  by_cases haddress : f.mDeviceAddress = []
  · cases hrecord : s.scanRecord with
    | none =>
        rw [matchesResult_absent haddress hrecord]
        constructor
        · intro h
          refine ⟨fun hne => absurd haddress hne, fun _ _ => h, ?_, ?_, ?_⟩
          all_goals
            intro _ r hr
            rw [hrecord] at hr
            cases hr
        · exact fun h => h.absent haddress hrecord
    | some r =>
        have hholds : f.Holds s ↔ ∀ c, f.IsSet c → Satisfied f r c := by
          unfold Holds
          rw [hrecord]
          simp [haddress]
        rw [matchesResult_present haddress hrecord, hholds, allM_right_iff]
        simp only [test_error, test_false]
        constructor
        · rintro ⟨hanswered, hno, hyes⟩
          refine ⟨fun hne => absurd haddress hne, fun _ hnone => ?_, ?_, ?_, ?_⟩
          · rw [hrecord] at hnone
            cases hnone
          · intro _ r' hr'
            obtain rfl := Option.some.inj (hrecord.symm.trans hr')
            exact hanswered
          · intro _ r' hr'
            obtain rfl := Option.some.inj (hrecord.symm.trans hr')
            rintro ⟨c, hc⟩
            have hfails := hno ⟨c, mem_criteria c, ((wronglyRejected_iff c).1 hc).1⟩
            simpa using hfails
          · intro _ r' hr'
            obtain rfl := Option.some.inj (hrecord.symm.trans hr')
            rintro ⟨c, hc⟩
            by_contra hnone
            obtain ⟨hset, hsat⟩ := hc.not_satisfied
            refine hsat (hyes (fun b _ hb => hnone ⟨b, ?_⟩) c hset)
            exact (test_false b).1 hb
        · intro h
          refine ⟨h.answered haddress r hrecord, ?_, ?_⟩
          · rintro ⟨c, -, hc⟩ hall
            have hset : f.IsSet c := hc.isSet
            obtain ⟨c', hset', hsat'⟩ := h.rejected haddress r hrecord
              ⟨c, (wronglyRejected_iff c).2 ⟨hc, hall c hset⟩⟩
            exact hsat' (hall c' hset')
          · intro hnone c hset
            have hno : ∀ b, ¬Rejecting m f r b := fun b hb =>
              hnone b (mem_criteria b) ((test_false b).2 hb)
            by_contra hsat
            have hread : ¬Faulty f r c := by
              intro hfaulty
              obtain ⟨pre, post, heq⟩ := append_of_mem (mem_criteria c)
              obtain ⟨b, -, hb⟩ := h.answered haddress r hrecord pre c post heq hfaulty
              exact hno b hb
            obtain ⟨b, hb⟩ := h.accepted haddress r hrecord
              ⟨c, wronglyAccepted_of hset (hno c) hread hsat⟩
            exact hno b hb
  · rw [matchesResult_address haddress, right_ok]
    constructor
    · intro h
      refine ⟨fun _ hholds => Bool.false_ne_true (h.2 hholds), ?_, ?_, ?_, ?_⟩
      all_goals exact fun hnil => absurd hnil haddress
    · intro h
      exact ⟨nofun, fun hholds => absurd hholds (h.address haddress)⟩

/-- The device with the address of the filter is refused. -/
theorem matchesResult_same_address :
    ¬∀ m f s, Right (matchesResult m f (some s)) (f.Holds s) := by
  intro hright
  let address : List Char := "00:11:22:33:44:55".toList
  let f : ScanFilter := { EMPTY with mDeviceAddress := address }
  let s : ScanResult :=
    { header := ⟨0, address, 0, 0, 0, 0, 0, 0⟩, scanRecord := none }
  have haddress : f.mDeviceAddress ≠ [] := cons_ne_nil _ _
  have h := hright ⟨fun _ => true, .empty⟩ f s
  rw [matchesResult_address haddress, right_ok] at h
  refine Bool.false_ne_true (h.2 ⟨fun _ => rfl, fun c hc => ?_⟩)
  cases c with
  | name => exact absurd rfl hc
  | serviceUuid => exact absurd rfl hc
  | solicitationUuid => exact absurd rfl hc
  | serviceData => exact absurd rfl hc
  | manufacturerData => exact absurd (show (0 : Int) ≤ -1 from hc) (by decide)

end Gatt.ScanFilter
