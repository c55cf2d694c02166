import BtPlatform.Gatt.Filter.Builder
import BtPlatform.Gatt.Filter.Judged
import BtPlatform.Gatt.Filter.Letters

/-!
# The queue of offloaded filters

`ScanFilterQueue::addScanFilter` turns a filter into entries for the controller, one for each
criterion. An entry with data compares the advertised bytes under its mask; it stands for the
criterion if the mask is as long as the data and selects the bits that the filter compares.
-/

namespace Gatt.ScanFilter

open Support Format List

def DEVICE_TYPE_ALL : Nat := 2

def MAX_LEN_PER_FIELD : Nat := 26

/-- `ScanFilterQueue::Entry`: the type, with the fields that are set for it. -/
inductive Entry
  | deviceAddress (address : List Char) (addrType : Nat)
  | serviceUuid (uuid uuidMask : Uuid)
  | solicitUuid (uuid uuidMask : Uuid)
  | localName (name : List UInt8)
  | manufacturerData (company : Int) (companyMask : Nat) (data dataMask : List UInt8)
  | serviceData (data dataMask : List UInt8)

/-- `assign('F', size)`: as many bytes as the code of the letter says, each the size. -/
def assignF (size : Nat) : List UInt8 := replicate 70 (UInt8.ofNat size)

/-- `concate`: the UUID in front of the data, or nothing if this is too long. -/
def concate (serviceDataUuid : Uuid) (serviceData : List UInt8) : List UInt8 :=
  let uu := serviceDataUuid.uuidToByte
  let dataLen := uu.length + if serviceData = [] then 0 else serviceData.length
  if dataLen > MAX_LEN_PER_FIELD then []
  else if serviceData = [] then uu else uu ++ serviceData

/-- `addManufacturerData` without and with a mask. -/
def manufacturerEntries (filter : ScanFilter) : List Entry :=
  if filter.mManufacturerData = [] then []
  else if filter.mManufacturerDataMask = [] then
    [.manufacturerData filter.mManufacturerId 0xFFFF filter.mManufacturerData
      (assignF filter.mManufacturerData.length)]
  else
    [.manufacturerData filter.mManufacturerId 0xFFFF filter.mManufacturerData
      filter.mManufacturerDataMask]

def serviceDataEntries (filter : ScanFilter) : List Entry :=
  if filter.mServiceDataUuid ≠ .empty ∧ filter.mServiceData ≠ [] then
    let serviceDataMask :=
      if filter.mServiceDataMask = [] then assignF filter.mServiceData.length
      else filter.mServiceDataMask
    let serviceData := concate filter.mServiceDataUuid filter.mServiceData
    let serviceDataMask := concate filter.mServiceDataUuid serviceDataMask
    if serviceData ≠ [] ∧ serviceDataMask ≠ [] then [.serviceData serviceData serviceDataMask]
    else []
  else []

def addScanFilter (mEntries : List Entry) (filter : ScanFilter) : List Entry :=
  mEntries ++
    (if filter.mDeviceName ≠ [] then [.localName filter.mDeviceName] else []) ++
    (if filter.mDeviceAddress ≠ [] then [.deviceAddress filter.mDeviceAddress DEVICE_TYPE_ALL]
      else []) ++
    (if filter.mServiceUuid ≠ .empty then
      [.serviceUuid filter.mServiceUuid filter.mServiceUuidMask] else []) ++
    (if filter.mServiceSolicitationUuid ≠ .empty then
      [.solicitUuid filter.mServiceSolicitationUuid filter.mServiceSolicitationUuidMask]
      else []) ++
    manufacturerEntries filter ++ serviceDataEntries filter

/-! ## What the entries are to say -/

/-- The advertised bytes begin with the data of an entry under its mask. -/
def Accepts (data dataMask advertised : List UInt8) : Prop :=
  data.length ≤ advertised.length ∧
    ∀ i < data.length, dataMask.getD i 0 &&& advertised.getD i 0 =
      dataMask.getD i 0 &&& data.getD i 0

/-- The mask of the bits that the filter compares. -/
def comparedBits (dataMask data : List UInt8) : List UInt8 :=
  if dataMask = [] then replicate data.length 0xFF else dataMask

/-- An entry with data stands for its criterion. The number of a company has sixteen bits, and
service data is advertised with the bytes of its UUID in front. -/
def EntryRight (f : ScanFilter) : Entry → Prop
  | .manufacturerData company companyMask data dataMask =>
      dataMask.length = data.length ∧
      dataMask = comparedBits f.mManufacturerDataMask f.mManufacturerData ∧
      ∀ id < 65536, ∀ parsedData : List UInt8,
        company.toNat &&& companyMask = id &&& companyMask ∧ Accepts data dataMask parsedData ↔
          f.mManufacturerId = id ∧
            matchesPartialData f.mManufacturerData f.mManufacturerDataMask parsedData = .ok true
  | .serviceData data dataMask =>
      dataMask.length = data.length ∧
      dataMask = replicate f.mServiceDataUuid.uuidToByte.length 0xFF ++
        comparedBits f.mServiceDataMask f.mServiceData ∧
      ∀ parsedData : List UInt8,
        Accepts data dataMask (f.mServiceDataUuid.uuidToByte ++ parsedData) ↔
          matchesPartialData f.mServiceData f.mServiceDataMask parsedData = .ok true
  | _ => True

/-- Masks and data are aligned, in the filter and in the entries that are made of it. -/
def Aligned (f : ScanFilter) : Prop :=
  (f.mServiceDataMask = [] ∨ f.mServiceDataMask.length = f.mServiceData.length) ∧
  (f.mManufacturerDataMask = [] ∨
    f.mManufacturerDataMask.length = f.mManufacturerData.length) ∧
  ∀ e ∈ addScanFilter [] f, EntryRight f e

/-! ## What the calls of the builder must be given -/

/-- No byte is a letter, under a mask that selects the bit of its case. -/
def NoLetters (data dataMask : List UInt8) : Prop :=
  ∀ i < data.length, ¬(dataMask.getD i 0 &&& 0x20 ≠ 0 ∧
    IsLetter (dataMask.getD i 0 &&& data.getD i 0))

/-- Masks have the length of their data; manufacturer data comes with a mask and the number of a
company; and service data with a mask that is short enough to be offloaded has a UUID of ones
only, since the bytes of the UUID become its mask. -/
structure Builder.Given.Sound (given : Builder.Given) : Prop where
  serviceLength : given.serviceDataMask = [] ∨
    given.serviceDataMask.length = given.serviceData.length
  manufacturerLength : given.manufacturerDataMask = [] ∨
    given.manufacturerDataMask.length = given.manufacturerData.length
  manufacturer : given.manufacturerData ≠ [] → given.manufacturerDataMask ≠ [] ∧
    given.id < 65536 ∧ NoLetters given.manufacturerData given.manufacturerDataMask
  service : given.uuid ≠ .empty → given.serviceData ≠ [] → given.serviceDataMask ≠ [] →
    given.uuid.uuidToByte.length + given.serviceData.length ≤ MAX_LEN_PER_FIELD →
    (∀ b ∈ given.uuid.uuidToByte, b = 0xFF) ∧
      NoLetters given.serviceData given.serviceDataMask

/-! ## Data under a mask of its length -/

variable {data dataMask parsedData : List UInt8}

theorem accepts_cons (d m p : UInt8) (data dataMask parsedData : List UInt8) :
    Accepts (d :: data) (m :: dataMask) (p :: parsedData) ↔
      m &&& p = m &&& d ∧ Accepts data dataMask parsedData := by
  unfold Accepts
  rw [length_cons, length_cons, Nat.forall_lt_succ_left, Nat.succ_le_succ_iff]
  simp only [getD_cons_zero, getD_cons_succ]
  exact and_left_comm

theorem accepts_self {data dataMask : List UInt8} : Accepts data dataMask data :=
  ⟨le_rfl, fun _ _ => rfl⟩

/-- Bytes that stand in front of both, under a mask of ones. -/
theorem accepts_append (front data dataMask parsedData : List UInt8) :
    Accepts (front ++ data) (replicate front.length 0xFF ++ dataMask)
      (front ++ parsedData) ↔ Accepts data dataMask parsedData := by
  induction front with
  | nil => rfl
  | cons b front ih =>
      rw [length_cons, replicate_succ, cons_append, cons_append,
        cons_append, accepts_cons, ih, and_iff_right rfl]

/-- An entry compares what the filter compares exactly if no letter loses its case. -/
theorem accepts_iff (hdata : data ≠ []) (hlen : dataMask.length = data.length) :
    (∀ parsedData, Accepts data dataMask parsedData ↔
        matchesPartialData data dataMask parsedData = .ok true) ↔ NoLetters data dataMask := by
  have hpos : 0 < data.length := length_pos_iff.2 hdata
  have hmask : dataMask ≠ [] := ne_nil_of_length_pos (by omega)
  have htrue : ∀ parsedData, matchesPartialData data dataMask parsedData = .ok true ↔
      data.length ≤ parsedData.length ∧ ∀ i < data.length,
        toupper (dataMask.getD i 0 &&& parsedData.getD i 0) =
          toupper (dataMask.getD i 0 &&& data.getD i 0) := by
    intro parsedData
    rw [matchesPartialData_true]
    unfold Caseless
    simp only [onMask_of_ne hmask]
    constructor
    · rintro ⟨-, hle, -, hsame⟩
      exact ⟨hle, hsame⟩
    · rintro ⟨hle, hsame⟩
      exact ⟨ne_nil_of_length_pos (by omega), hle, .inr (by omega), hsame⟩
  simp only [htrue]
  constructor
  · intro h i hi
    rw [← caseless_iff]
    intro p hp
    -- the data itself, with another byte in this place
    have hset : (data.set i p).getD i 0 = p := by
      rw [getD_eq_getElem?_getD, getElem?_set_self hi]
      rfl
    have hother : ∀ j, i ≠ j → (data.set i p).getD j 0 = data.getD j 0 := by
      intro j hij
      rw [getD_eq_getElem?_getD, getElem?_set_ne hij, ← getD_eq_getElem?_getD]
    have hsame : ∀ j < data.length, toupper (dataMask.getD j 0 &&& (data.set i p).getD j 0) =
        toupper (dataMask.getD j 0 &&& data.getD j 0) := by
      intro j _
      by_cases hij : i = j
      · subst hij
        rw [hset]
        exact hp
      · rw [hother j hij]
    have hlength : (data.set i p).length = data.length := length_set
    have hbyte := ((h (data.set i p)).2 ⟨hlength.ge, hsame⟩).2 i hi
    rw [hset] at hbyte
    exact hbyte
  · intro h parsedData
    constructor
    · rintro ⟨hle, hsame⟩
      exact ⟨hle, fun i hi => congrArg toupper (hsame i hi)⟩
    · rintro ⟨hle, hsame⟩
      refine ⟨hle, fun i hi => ?_⟩
      exact (caseless_iff _ _).2 (h i hi) (parsedData.getD i 0) (hsame i hi)

/-! ## The entries of a filter -/

theorem assignF_ne {size : Nat} : assignF size ≠ replicate size 0xFF := by
  intro h
  have hlen := congrArg length h
  unfold assignF at h hlen
  rw [length_replicate, length_replicate] at hlen
  rw [← hlen] at h
  revert h
  decide

theorem and_company (n : Nat) : n &&& 0xFFFF = n % 65536 := Nat.and_two_pow_sub_one_eq_mod n 16

theorem company_iff {id : Nat} (hid : id < 65536) {company : Int} (hnonneg : 0 ≤ company)
    (hlt : company < 65536) :
    company.toNat &&& 0xFFFF = id &&& 0xFFFF ↔ company = id := by
  rw [and_company, and_company]
  omega

theorem manufacturerEntries_right_iff {f : ScanFilter} (hlen : f.mManufacturerDataMask = [] ∨
    f.mManufacturerDataMask.length = f.mManufacturerData.length) :
    (∀ e ∈ manufacturerEntries f, EntryRight f e) ↔
      (f.mManufacturerData ≠ [] → f.mManufacturerDataMask ≠ [] ∧ f.mManufacturerId < 65536 ∧
        NoLetters f.mManufacturerData f.mManufacturerDataMask) := by
  unfold manufacturerEntries
  by_cases hdata : f.mManufacturerData = []
  · rw [if_pos hdata]
    exact iff_of_true (fun e he => absurd he not_mem_nil) (fun hne => absurd hdata hne)
  · rw [if_neg hdata]
    have hnonneg : 0 ≤ f.mManufacturerId := Int.not_lt.1 fun hneg => hdata (f.hasId hneg)
    by_cases hmask : f.mManufacturerDataMask = []
    · rw [if_pos hmask]
      refine iff_of_false (fun h => ?_) (fun h => (h hdata).1 hmask)
      obtain ⟨-, hbits, -⟩ := h _ mem_cons_self
      unfold comparedBits at hbits
      rw [if_pos hmask] at hbits
      exact assignF_ne hbits
    · rw [if_neg hmask]
      have hlen := hlen.resolve_left hmask
      have hbits : comparedBits f.mManufacturerDataMask f.mManufacturerData =
          f.mManufacturerDataMask := if_neg hmask
      have haccepts := accepts_iff hdata hlen
      constructor
      · intro h _
        obtain ⟨-, -, hsame⟩ := h _ mem_cons_self
        have hid : f.mManufacturerId < 65536 := by
          by_contra hlarge
          have hmod : f.mManufacturerId.toNat % 65536 < 65536 := Nat.mod_lt _ (by decide)
          have hcompany : f.mManufacturerId.toNat &&& 0xFFFF =
              f.mManufacturerId.toNat % 65536 &&& 0xFFFF := by
            rw [and_company, and_company, Nat.mod_mod]
          obtain ⟨hid, -⟩ := (hsame _ hmod f.mManufacturerData).1 ⟨hcompany, accepts_self⟩
          omega
        refine ⟨hmask, hid, haccepts.1 fun parsedData => ?_⟩
        have hlt : f.mManufacturerId.toNat < 65536 := by omega
        have hparsed := hsame _ hlt parsedData
        rw [and_iff_right rfl, and_iff_right (Int.toNat_of_nonneg hnonneg).symm] at hparsed
        exact hparsed
      · intro h e he
        obtain ⟨-, hid, hletters⟩ := h hdata
        obtain rfl := mem_singleton.1 he
        refine ⟨hlen, hbits.symm, fun id hlt parsedData => ?_⟩
        rw [company_iff hlt hnonneg hid, haccepts.2 hletters parsedData]

theorem replicate_of_all {front : List UInt8} (h : ∀ b ∈ front, b = 0xFF) :
    front = replicate front.length 0xFF := eq_replicate_iff.2 ⟨rfl, h⟩

theorem serviceDataEntries_right_iff {f : ScanFilter} (hlen : f.mServiceDataMask = [] ∨
    f.mServiceDataMask.length = f.mServiceData.length) :
    (∀ e ∈ serviceDataEntries f, EntryRight f e) ↔
      (f.mServiceDataUuid ≠ .empty → f.mServiceData ≠ [] → f.mServiceDataMask ≠ [] →
        f.mServiceDataUuid.uuidToByte.length + f.mServiceData.length ≤ MAX_LEN_PER_FIELD →
        (∀ b ∈ f.mServiceDataUuid.uuidToByte, b = 0xFF) ∧
          NoLetters f.mServiceData f.mServiceDataMask) := by
  unfold serviceDataEntries
  by_cases huuid : f.mServiceDataUuid = .empty
  · rw [if_neg (fun h => h.1 huuid)]
    exact iff_of_true (fun e he => absurd he not_mem_nil) (fun hne => absurd huuid hne)
  by_cases hdata : f.mServiceData = []
  · rw [if_neg (fun h => h.2 hdata)]
    exact iff_of_true (fun e he => absurd he not_mem_nil) (fun _ hne => absurd hdata hne)
  rw [if_pos ⟨huuid, hdata⟩]
  by_cases hmask : f.mServiceDataMask = []
  · -- the mask that is made up is too long
    have hlong : concate f.mServiceDataUuid (assignF f.mServiceData.length) = [] := by
      unfold concate
      rw [if_pos]
      rw [if_neg (by unfold assignF; exact cons_ne_nil _ _)]
      unfold assignF MAX_LEN_PER_FIELD
      rw [length_replicate]
      omega
    dsimp only
    rw [if_pos hmask, hlong, if_neg (fun h => h.2 rfl)]
    exact iff_of_true (fun e he => absurd he not_mem_nil)
      (fun _ _ hne => absurd hmask hne)
  have hlen := hlen.resolve_left hmask
  have hbits : comparedBits f.mServiceDataMask f.mServiceData = f.mServiceDataMask := if_neg hmask
  dsimp only
  rw [if_neg hmask]
  unfold concate
  rw [if_neg hdata, if_neg hmask, hlen]
  dsimp only
  by_cases hlong : f.mServiceDataUuid.uuidToByte.length + f.mServiceData.length > MAX_LEN_PER_FIELD
  · rw [if_pos hlong, if_pos hlong, if_neg (fun h => h.1 rfl)]
    exact iff_of_true (fun e he => absurd he not_mem_nil)
      (fun _ _ _ hshort => absurd hlong (Nat.not_lt.2 hshort))
  rw [if_neg hlong, if_neg hlong, if_neg hdata, if_neg hmask, if_pos (by simp [hdata, hmask])]
  have haccepts := accepts_iff hdata hlen
  constructor
  · intro h _ _ _ _
    obtain ⟨-, hones, hsame⟩ := h _ mem_cons_self
    rw [hbits] at hones
    have huu := append_cancel_right hones
    refine ⟨(eq_replicate_iff.1 huu).2, haccepts.1 fun parsedData => ?_⟩
    rw [← hsame parsedData]
    conv_rhs => rw [hones]
    exact (accepts_append _ _ _ _).symm
  · intro h e he
    obtain ⟨hones, hletters⟩ := h huuid hdata hmask (Nat.not_lt.1 hlong)
    obtain rfl := mem_singleton.1 he
    refine ⟨?_, ?_, fun parsedData => ?_⟩
    · rw [length_append, length_append, hlen]
    · rw [hbits, ← replicate_of_all hones]
    · rw [← haccepts.2 hletters parsedData]
      have hfront := accepts_append f.mServiceDataUuid.uuidToByte f.mServiceData
        f.mServiceDataMask parsedData
      rw [← replicate_of_all hones] at hfront
      exact hfront

theorem mem_optional {c : Prop} [Decidable c] {e e' : Entry} :
    e ∈ (if c then [e'] else []) ↔ c ∧ e = e' := by
  split
  · next hc => simp [hc]
  · next hc => simp [hc]

/-- The filter of a builder is aligned exactly if its last calls were given what they must. -/
theorem aligned_iff {calls : List Builder.Call} {f : ScanFilter}
    (hrun : Builder.run EMPTY calls = some f) :
    Aligned f ↔ (calls.foldl Builder.Given.after Builder.Given.start).Sound := by
  have hgiven := Builder.run_given hrun
  change Builder.given f = calls.foldl Builder.Given.after Builder.Given.start at hgiven
  rw [← hgiven]
  have hmem : (∀ e ∈ addScanFilter [] f, EntryRight f e) ↔
      (∀ e ∈ manufacturerEntries f, EntryRight f e) ∧
        ∀ e ∈ serviceDataEntries f, EntryRight f e := by
    constructor
    · intro h
      exact ⟨fun e he => h e (mem_append_left _ (mem_append_right _ he)),
        fun e he => h e (mem_append_right _ he)⟩
    · rintro ⟨hmanufacturer, hservice⟩ e he
      unfold addScanFilter at he
      simp only [mem_append, not_mem_nil, false_or] at he
      rcases he with ((((he | he) | he) | he) | he) | he
      · rw [(mem_optional.1 he).2]
        trivial
      · rw [(mem_optional.1 he).2]
        trivial
      · rw [(mem_optional.1 he).2]
        trivial
      · rw [(mem_optional.1 he).2]
        trivial
      · exact hmanufacturer e he
      · exact hservice e he
  unfold Aligned
  rw [hmem]
  constructor
  · rintro ⟨hservice, hmanufacturer, hentries, hentries'⟩
    exact ⟨hservice, hmanufacturer, (manufacturerEntries_right_iff hmanufacturer).1 hentries,
      (serviceDataEntries_right_iff hservice).1 hentries'⟩
  · intro h
    exact ⟨h.serviceLength, h.manufacturerLength,
      (manufacturerEntries_right_iff h.manufacturerLength).2 h.manufacturer,
      (serviceDataEntries_right_iff h.serviceLength).2 h.service⟩

/-- A digit under a mask of its length. -/
theorem aligned_masked : ∃ f, Builder.run EMPTY
    [.manufacturerDataMasked 1 [0x31] [0xFF]] = some f ∧ Aligned f := by
  have hsound : ([.manufacturerDataMasked 1 [0x31] [0xFF]].foldl Builder.Given.after
      Builder.Given.start).Sound := by
    refine ⟨.inl rfl, .inr rfl, fun _ => ⟨cons_ne_nil _ _, ?_, ?_⟩,
      fun hne => absurd rfl hne⟩
    · exact show (1 : Int) < 65536 by decide
    · intro i hi
      obtain rfl := Nat.lt_one_iff.1 hi
      rintro ⟨-, hletter⟩
      revert hletter
      unfold IsLetter
      decide
  exact ⟨_, rfl, (aligned_iff rfl).2 hsound⟩

/-- Without a mask the entry has one of seventy bytes. -/
theorem aligned_unmasked : ¬∀ calls f, Builder.run EMPTY calls = some f → Aligned f := by
  intro haligned
  obtain ⟨-, -, hentries⟩ := haligned [.manufacturerData 1 [0x31]] _ rfl
  obtain ⟨hlen, -⟩ := hentries (.manufacturerData 1 0xFFFF [0x31] (assignF 1)) mem_cons_self
  revert hlen
  decide

end Gatt.ScanFilter
