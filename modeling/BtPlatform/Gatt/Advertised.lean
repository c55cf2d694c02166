import BtPlatform.Gatt.Reception
import Mathlib.Data.List.TakeWhile

/-!
# Advertising data that survive

The record of the scanner agrees with the advertising data if and only if no value is in
a place where the parser misreads it: something follows the name, the set of service
UUIDs is closed under the exchange of the bytes of its short UUIDs, so are the entries of
the service data, and what stands last has zero bytes only.
-/

namespace Gatt

open Support Format List

namespace Field

/-- What a structure adds to the service UUIDs. -/
def uuidPart : Bool × Field → List Uuid
  | (last, .serviceUuids _ uuids) => arrivedUuids last uuids
  | _ => []

/-- What a structure adds to the service data. -/
def serviceDataPart : Bool × Field → List ((_ : Uuid) × List UInt8)
  | (last, .serviceData uuid data) => [⟨uuid.swapped, arrived last data⟩]
  | _ => []

/-- What a structure adds to the manufacturer data. -/
def manufacturerPart : Bool × Field → List ((_ : Nat) × List UInt8)
  | (last, .manufacturer id data) => [⟨id, arrived last data⟩]
  | _ => []

end Field

section Fold

variable (fs : List (Bool × Field)) (s : ScanRecord)

theorem foldl_receive_serviceUuids :
    (fs.foldl receive s).serviceUuids = s.serviceUuids ++ fs.flatMap Field.uuidPart := by
  induction fs generalizing s with
  | nil => simp
  | cons f fs ih =>
      rw [foldl_cons, ih, flatMap_cons, ← append_assoc]
      congr 1
      obtain ⟨last, f⟩ := f
      cases f <;> simp [receive, Field.uuidPart]

theorem foldl_receive_serviceData :
    (fs.foldl receive s).serviceData =
      s.serviceData.emplaceAll (fs.flatMap Field.serviceDataPart) := by
  induction fs generalizing s with
  | nil => rfl
  | cons f fs ih =>
      rw [foldl_cons, ih, flatMap_cons, Table.emplaceAll_append]
      congr 1
      obtain ⟨last, f⟩ := f
      cases f <;> rfl

theorem foldl_receive_manufacturer :
    (fs.foldl receive s).manufacturerSpecificData =
      s.manufacturerSpecificData.emplaceAll (fs.flatMap Field.manufacturerPart) := by
  induction fs generalizing s with
  | nil => rfl
  | cons f fs ih =>
      rw [foldl_cons, ih, flatMap_cons, Table.emplaceAll_append]
      congr 1
      obtain ⟨last, f⟩ := f
      cases f <;> rfl

/-- Structures without a name leave the name. -/
theorem foldl_receive_deviceName (h : ∀ f ∈ fs, ∀ nameBytes, f.2 ≠ .deviceName nameBytes) :
    (fs.foldl receive s).deviceName = s.deviceName := by
  induction fs generalizing s with
  | nil => rfl
  | cons f fs ih =>
      rw [foldl_cons, ih _ fun f' hf' => h f' (mem_cons_of_mem f hf')]
      have hf := h f mem_cons_self
      obtain ⟨last, f⟩ := f
      cases f with
      | deviceName nameBytes => exact absurd rfl (hf nameBytes)
      | manufacturer id data => rfl
      | txPowerLevel => rfl
      | serviceUuids size uuids => rfl
      | serviceData uuid data => rfl

end Fold

/-- Where only the structures in the middle add something, whether one of them is last
depends on what follows. -/
theorem flatMap_markLast_middle {α : Type*} {part : Bool × Field → List α}
    {before middle after : List Field} (hbefore : ∀ f ∈ before, ∀ last, part (last, f) = [])
    (hafter : ∀ f ∈ after, ∀ last, part (last, f) = []) :
    (markLast (before ++ middle ++ after)).flatMap part =
      (markLast middle).flatMap fun f => part (after.isEmpty && f.1, f.2) := by
  have hnone : ∀ fs : List Field, (∀ f ∈ fs, ∀ last, part (last, f) = []) → ∀ flag : Bool,
      ((markLast fs).map fun f => (f.1 && flag, f.2)).flatMap part = [] := by
    intro fs hfs flag
    induction fs with
    | nil => rfl
    | cons f fs ih =>
        rw [markLast_cons, map_cons, flatMap_cons, hfs f mem_cons_self,
          ih fun f' hf' => hfs f' (mem_cons_of_mem f hf'), append_nil]
  have hend : (markLast after).flatMap part = [] := by
    have h := hnone after hafter true
    simpa using h
  rw [append_assoc, markLast_append, markLast_append, flatMap_append,
    hnone before hbefore, nil_append, flatMap_append, hend, append_nil,
    flatMap_map]
  simp only [Bool.and_comm]

namespace AdvertiseData

variable {data : AdvertiseData} {name : List UInt8}

/-- The service UUIDs in the order in which they are written. -/
def orderedUuids (data : AdvertiseData) : List Uuid :=
  data.uuidsOfSize 2 ++ (data.uuidsOfSize 4 ++ data.uuidsOfSize 16)

/-- The service UUIDs with the bytes of the short ones exchanged; without service data the
last one is blank. -/
def exchangedUuids (data : AdvertiseData) : List Uuid :=
  arrivedUuids data.serviceData.entries.isEmpty data.orderedUuids

/-- The service data under the exchanged UUIDs; the last data are zeros. -/
def exchangedServiceData (data : AdvertiseData) : List ((_ : Uuid) × List UInt8) :=
  (markLast data.serviceData.entries).map fun e => ⟨e.2.1.swapped, arrived e.1 e.2.2⟩

/-- What follows the manufacturer data. -/
def fieldsAfterManufacturer (data : AdvertiseData) : List Field :=
  data.txField ++ data.uuidFields ++ data.serviceDataFields

theorem uuidField_part (rest : List Field) (last : Bool) (size : Nat) :
    (markLast (data.uuidField size ++ rest)).flatMap
        (fun f => Field.uuidPart (last && f.1, f.2)) =
      arrivedUuids (last && rest.isEmpty) (data.uuidsOfSize size) ++
        (markLast rest).flatMap fun f => Field.uuidPart (last && f.1, f.2) := by
  unfold uuidField
  split
  · next h => rw [h, nil_append, arrivedUuids_nil, nil_append]
  · rw [singleton_append, markLast_cons, flatMap_cons]
    rfl

theorem uuidField_isEmpty (size : Nat) :
    (data.uuidField size).isEmpty = (data.uuidsOfSize size).isEmpty := by
  unfold uuidField
  split
  · next h =>
      rw [h]
      rfl
  · next h => simp [h]

theorem uuidFields_part (last : Bool) :
    (markLast data.uuidFields).flatMap (fun f => Field.uuidPart (last && f.1, f.2)) =
      arrivedUuids last data.orderedUuids := by
  have happend : ∀ fs fs' : List Field, (fs ++ fs').isEmpty = (fs.isEmpty && fs'.isEmpty) := by
    intro fs fs'
    cases fs <;> rfl
  have hlong := @uuidField_part data [] last 16
  rw [append_nil, markLast_nil, flatMap_nil, append_nil, isEmpty_nil,
    Bool.and_true] at hlong
  rw [uuidFields, append_assoc, uuidField_part, uuidField_part, hlong, happend,
    uuidField_isEmpty, uuidField_isEmpty, orderedUuids, arrivedUuids_append,
    arrivedUuids_append]
  congr 2
  cases data.uuidsOfSize 4 <;> rfl

section Kinds

variable {f : Field}

theorem of_mem_nameField (h : f ∈ data.nameField name) :
    ∃ nameBytes, f = .deviceName nameBytes := by
  unfold nameField at h
  split at h
  · exact ⟨_, mem_singleton.1 h⟩
  · cases h

theorem of_mem_manufacturerFields (h : f ∈ data.manufacturerFields) :
    ∃ id bytes, f = .manufacturer id bytes := by
  obtain ⟨e, -, rfl⟩ := mem_map.1 h
  exact ⟨_, _, rfl⟩

theorem of_mem_txField (h : f ∈ data.txField) : f = .txPowerLevel := by
  unfold txField at h
  split at h
  · exact mem_singleton.1 h
  · cases h

theorem of_mem_uuidFields (h : f ∈ data.uuidFields) :
    ∃ size uuids, f = .serviceUuids size uuids := by
  rw [uuidFields, mem_append, mem_append] at h
  obtain (h | h) | h := h
  · exact ⟨_, _, (mem_uuidField h).1⟩
  · exact ⟨_, _, (mem_uuidField h).1⟩
  · exact ⟨_, _, (mem_uuidField h).1⟩

theorem of_mem_serviceDataFields (h : f ∈ data.serviceDataFields) :
    ∃ uuid bytes, f = .serviceData uuid bytes := by
  obtain ⟨e, -, rfl⟩ := mem_map.1 h
  exact ⟨_, _, rfl⟩

end Kinds

theorem fields_uuidPart :
    (markLast (data.fields name)).flatMap Field.uuidPart = data.exchangedUuids := by
  have hbefore : ∀ f ∈ data.nameField name ++ data.manufacturerFields ++ data.txField,
      ∀ last, Field.uuidPart (last, f) = [] := by
    intro f hf last
    simp only [mem_append] at hf
    obtain (hf | hf) | hf := hf
    · obtain ⟨_, rfl⟩ := of_mem_nameField hf
      rfl
    · obtain ⟨_, _, rfl⟩ := of_mem_manufacturerFields hf
      rfl
    · obtain rfl := of_mem_txField hf
      rfl
  have hafter : ∀ f ∈ data.serviceDataFields, ∀ last, Field.uuidPart (last, f) = [] := by
    intro f hf last
    obtain ⟨_, _, rfl⟩ := of_mem_serviceDataFields hf
    rfl
  have hempty : data.serviceDataFields.isEmpty = data.serviceData.entries.isEmpty := by
    rw [serviceDataFields, isEmpty_map]
  rw [fields, flatMap_markLast_middle hbefore hafter, uuidFields_part, hempty]
  rfl

theorem fields_serviceDataPart :
    (markLast (data.fields name)).flatMap Field.serviceDataPart = data.exchangedServiceData := by
  have hbefore : ∀ f ∈ data.nameField name ++ data.manufacturerFields ++ data.txField ++
      data.uuidFields, ∀ last, Field.serviceDataPart (last, f) = [] := by
    intro f hf last
    simp only [mem_append] at hf
    obtain ((hf | hf) | hf) | hf := hf
    · obtain ⟨_, rfl⟩ := of_mem_nameField hf
      rfl
    · obtain ⟨_, _, rfl⟩ := of_mem_manufacturerFields hf
      rfl
    · obtain rfl := of_mem_txField hf
      rfl
    · obtain ⟨_, _, rfl⟩ := of_mem_uuidFields hf
      rfl
  have hafter : ∀ f ∈ ([] : List Field), ∀ last, Field.serviceDataPart (last, f) = [] :=
    fun f hf => absurd hf not_mem_nil
  have hmiddle := @flatMap_markLast_middle _ _ _ data.serviceDataFields _ hbefore hafter
  rw [append_nil] at hmiddle
  rw [fields, hmiddle, serviceDataFields, markLast_map, flatMap_map]
  simp only [isEmpty_nil, Bool.true_and, Field.serviceDataPart, exchangedServiceData]
  rw [← map_eq_flatMap]

/-- The manufacturer data at the scanner; the last data are zeros if nothing follows. -/
def receivedManufacturer (data : AdvertiseData) : List ((_ : Nat) × List UInt8) :=
  (markLast data.manufacturerSpecificData.entries).map fun e =>
    ⟨e.2.1, arrived (data.fieldsAfterManufacturer.isEmpty && e.1) e.2.2⟩

theorem fields_manufacturerPart :
    (markLast (data.fields name)).flatMap Field.manufacturerPart = data.receivedManufacturer := by
  have hbefore : ∀ f ∈ data.nameField name, ∀ last, Field.manufacturerPart (last, f) = [] := by
    intro f hf last
    obtain ⟨_, rfl⟩ := of_mem_nameField hf
    rfl
  have hafter : ∀ f ∈ data.fieldsAfterManufacturer, ∀ last,
      Field.manufacturerPart (last, f) = [] := by
    intro f hf last
    simp only [fieldsAfterManufacturer, mem_append] at hf
    obtain (hf | hf) | hf := hf
    · obtain rfl := of_mem_txField hf
      rfl
    · obtain ⟨_, _, rfl⟩ := of_mem_uuidFields hf
      rfl
    · obtain ⟨_, _, rfl⟩ := of_mem_serviceDataFields hf
      rfl
  have hsplit : data.fields name = data.nameField name ++ data.manufacturerFields ++
      data.fieldsAfterManufacturer := by
    simp only [fields, fieldsAfterManufacturer, append_assoc]
  rw [hsplit, flatMap_markLast_middle hbefore hafter, manufacturerFields, markLast_map,
    flatMap_map]
  simp only [Field.manufacturerPart, receivedManufacturer]
  rw [← map_eq_flatMap]

/-- What follows the device name. -/
def fieldsAfterName (data : AdvertiseData) : List Field :=
  data.manufacturerFields ++ data.fieldsAfterManufacturer

theorem foldl_receive_name (hname : data.includeDeviceName = true) (s : ScanRecord) :
    ((markLast (data.fields name)).foldl receive s).deviceName =
      arrived data.fieldsAfterName.isEmpty (name.takeWhile (· ≠ 0)) := by
  have hsplit : data.fields name =
      .deviceName (name.takeWhile (· ≠ 0)) :: data.fieldsAfterName := by
    simp [fields, nameField, hname, fieldsAfterName, fieldsAfterManufacturer]
  have hnone : ∀ f ∈ markLast data.fieldsAfterName, ∀ nameBytes, f.2 ≠ .deviceName nameBytes := by
    intro f hf nameBytes heq
    have hmem : f.2 ∈ data.fieldsAfterName := mem_of_mem_markLast hf
    rw [heq] at hmem
    simp only [fieldsAfterName, fieldsAfterManufacturer, mem_append] at hmem
    obtain hmem | (hmem | hmem) | hmem := hmem
    · obtain ⟨_, _, h⟩ := of_mem_manufacturerFields hmem
      cases h
    · cases of_mem_txField hmem
    · obtain ⟨_, _, h⟩ := of_mem_uuidFields hmem
      cases h
    · obtain ⟨_, _, h⟩ := of_mem_serviceDataFields hmem
      cases h
  rw [hsplit, markLast_cons, foldl_cons, foldl_receive_deviceName _ _ hnone]
  rfl

end AdvertiseData

/-- Advertising data and a device name for it: one to twenty-six bytes that are not zero,
manufacturer ids of sixteen bits, and structures whose length fits its byte. -/
structure Advertisable (data : AdvertiseData) (name : List UInt8) : Prop where
  name_ne_nil : name ≠ []
  name_length : name.length ≤ DEVICE_NAME_MAX
  name_ne_zero : ∀ b ∈ name, b ≠ 0
  id_lt : ∀ e ∈ data.manufacturerSpecificData.entries, e.1 < 65536
  fits : ∀ f ∈ data.fields name, f.element.Fits

/-- The scanner's parser makes of the bytes a record with the same name, service UUIDs,
service data and manufacturer data. -/
def RoundTrip (data : AdvertiseData) (name : List UInt8) : Prop :=
  ∃ record, ScanRecord.parseFromBytes (advertiseDataToBytes (some data) name) =
      .ok (some record) ∧
    (data.includeDeviceName = true → record.deviceName = name) ∧
    (∀ u, u ∈ record.serviceUuids ↔ u ∈ data.serviceUuids) ∧
    (∀ u, record.serviceData.lookup u = data.serviceData.lookup u) ∧
    ∀ id, record.manufacturerSpecificData.lookup id = data.manufacturerSpecificData.lookup id

/-- No value is in a place where the parser misreads it. -/
structure Survives (data : AdvertiseData) (name : List UInt8) : Prop where
  something : data.fields name ≠ []
  name_followed : data.includeDeviceName = true → data.fieldsAfterName ≠ []
  uuids_exchanged : ∀ u, u ∈ data.exchangedUuids ↔ u ∈ data.serviceUuids
  serviceData_exchanged : ∀ e, e ∈ data.exchangedServiceData ↔ e ∈ data.serviceData.entries
  manufacturer_zero : data.fieldsAfterManufacturer = [] →
    ∀ e, data.manufacturerSpecificData.entries.getLast? = some e → ∀ b ∈ e.2, b = 0

namespace Advertisable

variable {data : AdvertiseData} {name : List UInt8}

theorem takeWhile_name (h : Advertisable data name) : name.takeWhile (· ≠ 0) = name := by
  rw [takeWhile_eq_self_iff]
  intro b hb
  simpa using h.name_ne_zero b hb

theorem sound (h : Advertisable data name) : ∀ f ∈ data.fields name, f.Sound := by
  intro f hf
  cases AdvertiseData.shape_of_mem_fields hf with
  | deviceName _ =>
      rw [h.takeWhile_name]
      exact ⟨h.name_ne_nil, h.name_length⟩
  | manufacturer e he => exact ⟨h.id_lt e he, data.manufacturer_ne_nil e he⟩
  | txPowerLevel => trivial
  | serviceUuids size hsize _ =>
      exact ⟨hsize, fun u hu => (AdvertiseData.mem_uuidsOfSize.1 hu).2⟩
  | serviceData e he => exact (data.serviceData_ne_empty e he).2

end Advertisable

theorem arrived_true_eq_self {bytes : List UInt8} :
    arrived true bytes = bytes ↔ ∀ b ∈ bytes, b = 0 := by
  show List.replicate bytes.length 0 = bytes ↔ _
  rw [eq_comm, eq_replicate_iff]
  simp

/-- A last entry with the same key makes the same entries only if it is the same. -/
theorem mem_concat_iff_of_fst_eq {κ V : Type*} {init : List ((_ : κ) × V)}
    {e : (_ : κ) × V} (e' : (_ : κ) × V) (hnodup : (init ++ [e]).NodupKeys) (hkey : e'.1 = e.1) :
    (∀ x, x ∈ init ++ [e'] ↔ x ∈ init ++ [e]) ↔ e' = e := by
  constructor
  · intro h
    have he' : e' ∈ init ++ [e] := (h e').1 mem_concat_self
    exact hnodup.eq_of_fst_eq he' mem_concat_self hkey
  · rintro rfl x
    exact Iff.rfl

/-- Only the last manufacturer data can come out differently. -/
theorem receivedManufacturer_iff (data : AdvertiseData) :
    (∀ e, e ∈ data.receivedManufacturer ↔ e ∈ data.manufacturerSpecificData.entries) ↔
      (data.fieldsAfterManufacturer = [] →
        ∀ e, data.manufacturerSpecificData.entries.getLast? = some e → ∀ b ∈ e.2, b = 0) := by
  unfold AdvertiseData.receivedManufacturer
  have hnodup := data.manufacturerSpecificData.nodupKeys
  generalize data.manufacturerSpecificData.entries = entries at hnodup
  cases hlast : data.fieldsAfterManufacturer with
  | cons f fs =>
      have hsame : ((markLast entries).map fun e : Bool × ((_ : Nat) × List UInt8) =>
          (⟨e.2.1, arrived ((f :: fs).isEmpty && e.1) e.2.2⟩ : (_ : Nat) × List UInt8)) =
            entries := by
        show (markLast entries).map (fun e => e.2) = entries
        exact markLast_map_snd entries
      rw [hsame]
      simp
  | nil =>
      obtain rfl | ⟨init, e, rfl⟩ := eq_nil_or_concat' entries
      · simp
      · have hinit : ((markLast init).map fun a : Bool × ((_ : Nat) × List UInt8) =>
            (⟨a.2.1, arrived (true && (a.1 && false)) a.2.2⟩ : (_ : Nat) × List UInt8)) =
              init := by
          simp only [Bool.and_false, Bool.and_false]
          exact markLast_map_snd init
        have hlist : (markLast (init ++ [e])).map (fun a : Bool × ((_ : Nat) × List UInt8) =>
            (⟨a.2.1, arrived (([] : List Field).isEmpty && a.1) a.2.2⟩ : (_ : Nat) × List UInt8)) =
              init ++ [⟨e.1, arrived true e.2⟩] := by
          rw [markLast_append, map_append, map_map]
          exact congrArg₂ (· ++ ·) hinit rfl
        rw [hlist, mem_concat_iff_of_fst_eq ⟨e.1, arrived true e.2⟩ hnodup rfl]
        constructor
        · intro h _ e' he'
          rw [getLast?_concat, Option.some.injEq] at he'
          subst he'
          apply arrived_true_eq_self.1
          exact congrArg Sigma.snd h
        · intro h
          have hzero := h rfl e getLast?_concat
          rw [arrived_true_eq_self.2 hzero]

/-- The name survives if something follows it. -/
theorem deviceName_eq_iff {data : AdvertiseData} {name : List UInt8} (h : Advertisable data name)
    (hname : data.includeDeviceName = true) (s : ScanRecord) :
    ((markLast (data.fields name)).foldl receive s).deviceName = name ↔
      data.fieldsAfterName ≠ [] := by
  rw [AdvertiseData.foldl_receive_name hname, h.takeWhile_name]
  cases data.fieldsAfterName with
  | cons f fs => simp [arrived]
  | nil =>
      obtain ⟨b, bs, hbs⟩ := exists_cons_of_ne_nil h.name_ne_nil
      have hb : b ∈ name := by
        rw [hbs]
        exact mem_cons_self
      constructor
      · intro harrived
        exact absurd (arrived_true_eq_self.1 harrived b hb) (h.name_ne_zero b hb)
      · intro hne
        exact absurd rfl hne

/-- The condition is exact. -/
theorem roundTrip_iff_survives {data : AdvertiseData} {name : List UInt8}
    (h : Advertisable data name) : RoundTrip data name ↔ Survives data name := by
  by_cases hne : data.fields name = []
  · -- nothing to advertise: no record
    have hparse : ScanRecord.parseFromBytes (advertiseDataToBytes (some data) name) =
        .ok none := by
      rw [advertiseDataToBytes, hne]
      rfl
    constructor
    · rintro ⟨record, hrecord, -⟩
      rw [hparse] at hrecord
      cases hrecord
    · intro hs
      exact absurd hne hs.something
  have hparse := parseFromBytes_encodeElements hne h.sound h.fits
  have hname := fun hinclude =>
    deviceName_eq_iff h hinclude
      (ScanRecord.start (encodeElements ((data.fields name).map Field.element)))
  generalize hrecord : (markLast (data.fields name)).foldl receive
    (ScanRecord.start (encodeElements ((data.fields name).map Field.element))) = record
    at hparse hname
  have huuids : record.serviceUuids = data.exchangedUuids := by
    rw [← hrecord, foldl_receive_serviceUuids, AdvertiseData.fields_uuidPart]
    rfl
  have hservice : (∀ u, record.serviceData.lookup u = data.serviceData.lookup u) ↔
      ∀ e, e ∈ data.exchangedServiceData ↔ e ∈ data.serviceData.entries := by
    rw [← hrecord, foldl_receive_serviceData, AdvertiseData.fields_serviceDataPart]
    apply Table.lookup_emplaceAll_eq_iff
    rw [AdvertiseData.exchangedServiceData, length_map, markLast_length]
  have hmanufacturer : (∀ id, record.manufacturerSpecificData.lookup id =
        data.manufacturerSpecificData.lookup id) ↔
      (data.fieldsAfterManufacturer = [] →
        ∀ e, data.manufacturerSpecificData.entries.getLast? = some e → ∀ b ∈ e.2, b = 0) := by
    rw [← receivedManufacturer_iff, ← hrecord, foldl_receive_manufacturer,
      AdvertiseData.fields_manufacturerPart]
    apply Table.lookup_emplaceAll_eq_iff
    rw [AdvertiseData.receivedManufacturer, length_map, markLast_length]
  constructor
  · rintro ⟨record', hrecord', hname', huuids', hservice', hmanufacturer'⟩
    obtain rfl : record = record' := by
      have heq := hparse.symm.trans hrecord'
      simpa using heq
    exact
      { something := hne
        name_followed := fun hinclude => (hname hinclude).1 (hname' hinclude)
        uuids_exchanged := by rwa [huuids] at huuids'
        serviceData_exchanged := hservice.1 hservice'
        manufacturer_zero := hmanufacturer.1 hmanufacturer' }
  · intro hs
    refine ⟨record, hparse, fun hinclude => (hname hinclude).2 (hs.name_followed hinclude), ?_,
      hservice.2 hs.serviceData_exchanged, hmanufacturer.2 hs.manufacturer_zero⟩
    rw [huuids]
    exact hs.uuids_exchanged

/-- A device name and the transmission power. -/
def nameAndPower : AdvertiseData where
  serviceUuids := []
  manufacturerSpecificData := ∅
  serviceData := ∅
  includeTxPowerLevel := true
  includeDeviceName := true
  serviceUuids_ne_empty := by decide
  manufacturer_ascending := List.Pairwise.nil
  manufacturer_ne_nil := fun _ h => absurd h not_mem_nil
  serviceData_ascending := List.Pairwise.nil
  serviceData_ne_empty := fun _ h => absurd h not_mem_nil

theorem nameAndPower_roundTrip : RoundTrip nameAndPower [0x42, 0x54] :=
  (roundTrip_iff_survives
    { name_ne_nil := by decide
      name_length := by decide
      name_ne_zero := by simp
      id_lt := fun _ h => absurd h not_mem_nil
      fits := by decide }).2
    { something := by decide
      name_followed := by decide
      uuids_exchanged := fun _ => Iff.rfl
      serviceData_exchanged := fun _ => Iff.rfl
      manufacturer_zero := fun h => absurd h (by decide) }

/-- The UUID of the heart rate service and the transmission power. -/
def heartRate : AdvertiseData where
  serviceUuids := [Uuid.from16Bit 0x180D]
  manufacturerSpecificData := ∅
  serviceData := ∅
  includeTxPowerLevel := true
  includeDeviceName := false
  serviceUuids_ne_empty := by decide
  manufacturer_ascending := List.Pairwise.nil
  manufacturer_ne_nil := fun _ h => absurd h not_mem_nil
  serviceData_ascending := List.Pairwise.nil
  serviceData_ne_empty := fun _ h => absurd h not_mem_nil

/-- The scanner reports another service. -/
theorem heartRate_not_roundTrip :
    Advertisable heartRate [0x42, 0x54] ∧ ¬ RoundTrip heartRate [0x42, 0x54] := by
  refine ⟨⟨by decide, by decide, by simp, fun _ h => absurd h not_mem_nil, by decide⟩, ?_⟩
  rintro ⟨record, hrecord, -, huuids, -⟩
  have huuid : record.serviceUuids = [Uuid.from16Bit 0] := by
    have h : ScanRecord.parseFromBytes (advertiseDataToBytes (some heartRate) [0x42, 0x54]) =
        .ok (some { ScanRecord.start (advertiseDataToBytes (some heartRate) [0x42, 0x54]) with
          serviceUuids := [Uuid.from16Bit 0], txPowerLevel := 0 }) := by rfl
    rw [h, Except.ok.injEq, Option.some.injEq] at hrecord
    rw [← hrecord]
  have hmem := (huuids (Uuid.from16Bit 0x180D)).2 mem_cons_self
  rw [huuid] at hmem
  exact absurd hmem (by decide)

end Gatt
