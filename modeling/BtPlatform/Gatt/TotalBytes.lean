import BtPlatform.Gatt.Advertised
import Mathlib.Algebra.BigOperators.Group.List.Basic
import Mathlib.Algebra.GroupWithZero.Nat

/-!
# The size check of the advertiser

`totalBytes` computes how long the advertising data will be before an advertising set is
started. It agrees with the bytes that are made of the data except for the device name,
and it does not look at the length of a single structure.
-/

namespace Gatt

open Support Format List

def OVERHEAD_BYTES_PER_FIELD : Nat := 2
def FLAGS_FIELD_BYTES : Nat := 3
def MANUFACTURER_SPECIFIC_DATA_LENGTH : Nat := 2
def MAX_LEGACY_ADVERTISING_DATA_BYTES : Nat := 31

/-- The flags field is omitted if the advertising is not connectable. -/
def flagsBytes (isFlagsIncluded : Bool) : Nat := if isFlagsIncluded then FLAGS_FIELD_BYTES else 0

/-- UUIDs of one size are grouped into one field. -/
def groupBytes (num kNumBytes : Nat) : Nat :=
  if num ≠ 0 then OVERHEAD_BYTES_PER_FIELD + num * kNumBytes else 0

def totalBytes (deviceName : List UInt8) (data : Option AdvertiseData) (isFlagsIncluded : Bool) :
    Nat :=
  match data with
  | none => 0
  | some data =>
      let num16BitUuids := data.serviceUuids.countP fun u => u.shortestRepresentationSize = 2
      let num32BitUuids := data.serviceUuids.countP fun u => u.shortestRepresentationSize = 4
      let num128BitUuids := data.serviceUuids.countP fun u =>
        u.shortestRepresentationSize ≠ 2 ∧ u.shortestRepresentationSize ≠ 4
      let serviceDataBytes := data.serviceData.entries.map fun e =>
        match data.serviceData.lookup e.1 with
        | none => 0
        | some m => OVERHEAD_BYTES_PER_FIELD + e.1.uuidToByte.length + m.length
      let manufacturerBytes := data.manufacturerSpecificData.entries.map fun e =>
        OVERHEAD_BYTES_PER_FIELD + MANUFACTURER_SPECIFIC_DATA_LENGTH + e.2.length
      flagsBytes isFlagsIncluded + groupBytes num16BitUuids 2 + groupBytes num32BitUuids 4 +
        groupBytes num128BitUuids 16 + serviceDataBytes.sum + manufacturerBytes.sum +
        (if data.includeTxPowerLevel then OVERHEAD_BYTES_PER_FIELD + 1 else 0) +
        (if data.includeDeviceName ∧ deviceName ≠ [] then
          OVERHEAD_BYTES_PER_FIELD + deviceName.length
        else 0)

/-- The bytes of structures. -/
def fieldBytes (fs : List Field) : Nat := (fs.map fun f => f.element.data.length + 2).sum

@[simp] theorem fieldBytes_nil : fieldBytes [] = 0 := rfl

@[simp] theorem fieldBytes_singleton (f : Field) : fieldBytes [f] = f.element.data.length + 2 := by
  simp [fieldBytes]

@[simp] theorem fieldBytes_append (fs fs' : List Field) :
    fieldBytes (fs ++ fs') = fieldBytes fs + fieldBytes fs' := by
  simp [fieldBytes]

theorem encodeElements_length (fs : List Field) :
    (encodeElements (fs.map Field.element)).length = fieldBytes fs := by
  induction fs with
  | nil => rfl
  | cons f fs ih =>
      rw [map_cons, encodeElements_cons, length_append, ih, Element.encode_length]
      simp [fieldBytes]

namespace AdvertiseData

variable (data : AdvertiseData) (name : List UInt8)

theorem uuids_flatMap_length {size : Nat} (us : List Uuid)
    (h : ∀ u ∈ us, u.shortestRepresentationSize = size) :
    (us.flatMap Uuid.uuidToByte).length = us.length * size := by
  induction us with
  | nil => simp
  | cons u us ih =>
      rw [flatMap_cons, length_append, Uuid.uuidToByte_length, h u mem_cons_self,
        ih fun v hv => h v (mem_cons_of_mem u hv), length_cons, Nat.succ_mul,
        Nat.add_comm]

theorem uuidsOfSize_flatMap_length (size : Nat) :
    ((data.uuidsOfSize size).flatMap Uuid.uuidToByte).length =
      (data.uuidsOfSize size).length * size :=
  uuids_flatMap_length _ fun _ hu => (mem_uuidsOfSize.1 hu).2

theorem fieldBytes_uuidField (size : Nat) :
    fieldBytes (data.uuidField size) = groupBytes (data.uuidsOfSize size).length size := by
  unfold uuidField groupBytes
  split
  · next h => simp [h]
  · next h =>
      rw [if_pos (by simpa using h), fieldBytes_singleton, Field.element,
        uuidsOfSize_flatMap_length, OVERHEAD_BYTES_PER_FIELD, Nat.add_comm]

theorem uuidsOfSize_length (size : Nat) :
    (data.uuidsOfSize size).length =
      data.serviceUuids.countP fun u => u.shortestRepresentationSize = size :=
  countP_eq_length_filter.symm

/-- What is neither of two nor of four bytes has sixteen. -/
theorem countP_long :
    (data.serviceUuids.countP fun u =>
      u.shortestRepresentationSize ≠ 2 ∧ u.shortestRepresentationSize ≠ 4) =
      data.serviceUuids.countP fun u => u.shortestRepresentationSize = 16 := by
  refine countP_congr fun u _ => ?_
  have := u.size_cases
  simp only [decide_eq_true_eq]
  omega

theorem fieldBytes_manufacturerFields :
    fieldBytes data.manufacturerFields =
      (data.manufacturerSpecificData.entries.map fun e =>
        OVERHEAD_BYTES_PER_FIELD + MANUFACTURER_SPECIFIC_DATA_LENGTH + e.2.length).sum := by
  rw [fieldBytes, manufacturerFields, map_map]
  congr 1
  refine map_congr_left fun e _ => ?_
  simp only [Function.comp_apply, Field.element, length_cons, OVERHEAD_BYTES_PER_FIELD,
    MANUFACTURER_SPECIFIC_DATA_LENGTH]
  omega

theorem fieldBytes_txField :
    fieldBytes data.txField =
      if data.includeTxPowerLevel then OVERHEAD_BYTES_PER_FIELD + 1 else 0 := by
  unfold txField
  split <;> rfl

theorem fieldBytes_serviceDataFields :
    fieldBytes data.serviceDataFields =
      (data.serviceData.entries.map fun e =>
        match data.serviceData.lookup e.1 with
        | none => 0
        | some m => OVERHEAD_BYTES_PER_FIELD + e.1.uuidToByte.length + m.length).sum := by
  rw [fieldBytes, serviceDataFields, map_map]
  congr 1
  refine map_congr_left fun e he => ?_
  have hlookup : data.serviceData.lookup e.1 = some e.2 := AList.mem_lookup_iff.2 he
  simp only [Function.comp_apply, Field.element, length_append, hlookup,
    OVERHEAD_BYTES_PER_FIELD]
  rw [Nat.add_comm, ← Nat.add_assoc]

/-- Everything but the name is counted as it is written. -/
theorem totalBytes_eq (isFlagsIncluded : Bool) :
    totalBytes name (some data) isFlagsIncluded =
      flagsBytes isFlagsIncluded + fieldBytes data.fieldsAfterName +
        if data.includeDeviceName ∧ name ≠ [] then OVERHEAD_BYTES_PER_FIELD + name.length
        else 0 := by
  simp only [totalBytes, fieldsAfterName, fieldsAfterManufacturer, uuidFields, fieldBytes_append,
    fieldBytes_manufacturerFields, fieldBytes_txField, fieldBytes_uuidField,
    fieldBytes_serviceDataFields, uuidsOfSize_length, countP_long]
  omega

theorem fields_eq : data.fields name = data.nameField name ++ data.fieldsAfterName := by
  simp only [fields, fieldsAfterName, fieldsAfterManufacturer, append_assoc]

theorem fieldBytes_nameField :
    fieldBytes (data.nameField name) =
      if data.includeDeviceName then min DEVICE_NAME_MAX (name.takeWhile (· ≠ 0)).length + 2
      else 0 := by
  unfold nameField
  split
  · rw [fieldBytes_singleton, Field.element]
    split
    · rw [length_take]
    · next h => rw [Nat.min_eq_right (Nat.not_lt.1 h)]
  · rfl

theorem advertiseDataToBytes_length :
    (advertiseDataToBytes (some data) name).length =
      fieldBytes (data.nameField name) + fieldBytes data.fieldsAfterName := by
  rw [advertiseDataToBytes, encodeElements_length, fields_eq, fieldBytes_append]

/-- The name takes at most what is counted for it, unless it is empty. -/
theorem nameBytes_le (h : name ≠ []) :
    fieldBytes (data.nameField name) ≤
      if data.includeDeviceName ∧ name ≠ [] then OVERHEAD_BYTES_PER_FIELD + name.length
      else 0 := by
  have hlen := (takeWhile_sublist (p := (· ≠ 0)) (l := name)).length_le
  rw [fieldBytes_nameField]
  cases data.includeDeviceName with
  | false => simp
  | true =>
      rw [if_pos rfl, if_pos ⟨rfl, h⟩, OVERHEAD_BYTES_PER_FIELD]
      omega

end AdvertiseData

/-- What is sent is no longer than the maximum, and the length byte of each structure
counts the bytes that follow it there. -/
structure Bounded (data : AdvertiseData) (name : List UInt8) (isFlagsIncluded : Bool)
    (maxData : Nat) : Prop where
  size : (advertiseDataToBytes (some data) name).length + flagsBytes isFlagsIncluded ≤ maxData
  lengths : ∀ f ∈ data.fields name, f.element.Fits

/-- An empty name finds two bytes left beside the flags and the other structures, and no
structure has more than 254 bytes of data. -/
structure Small (data : AdvertiseData) (name : List UInt8) (isFlagsIncluded : Bool)
    (maxData : Nat) : Prop where
  name : data.includeDeviceName = true → name = [] →
    flagsBytes isFlagsIncluded + fieldBytes data.fieldsAfterName + 2 ≤ maxData
  uuids : ∀ size, size = 2 ∨ size = 4 ∨ size = 16 →
    (data.serviceUuids.countP fun u => u.shortestRepresentationSize = size) * size ≤ 254
  serviceData : ∀ e ∈ data.serviceData.entries, e.1.shortestRepresentationSize + e.2.length ≤ 254
  manufacturer : ∀ e ∈ data.manufacturerSpecificData.entries, 2 + e.2.length ≤ 254

section Check

variable {data : AdvertiseData} {name : List UInt8} {isFlagsIncluded : Bool} {maxData : Nat}

/-- The structures fit their length bytes as far as UUIDs, service data and manufacturer data
have at most 254 bytes; the name is cut and the transmission power is one byte. -/
theorem fits_iff_small :
    (∀ f ∈ data.fields name, f.element.Fits) ↔
      (∀ size, size = 2 ∨ size = 4 ∨ size = 16 →
        (data.serviceUuids.countP fun u => u.shortestRepresentationSize = size) * size ≤ 254) ∧
      (∀ e ∈ data.serviceData.entries,
        e.1.shortestRepresentationSize + e.2.length ≤ 254) ∧
      ∀ e ∈ data.manufacturerSpecificData.entries, 2 + e.2.length ≤ 254 := by
  constructor
  · intro h
    refine ⟨?_, ?_, ?_⟩
    · intro size hsize
      rw [← data.uuidsOfSize_length]
      by_cases hnil : data.uuidsOfSize size = []
      · rw [hnil, length_nil, Nat.zero_mul]
        exact Nat.zero_le _
      · have hmem : Field.serviceUuids size (data.uuidsOfSize size) ∈ data.fields name := by
          have hfield : data.uuidField size = [.serviceUuids size (data.uuidsOfSize size)] :=
            if_neg hnil
          simp only [AdvertiseData.fields, AdvertiseData.uuidFields, mem_append]
          obtain rfl | rfl | rfl := hsize
          · simp [hfield]
          · simp [hfield]
          · simp [hfield]
        have hfit := Element.fits_iff.1 (h _ hmem)
        rw [Field.element, data.uuidsOfSize_flatMap_length] at hfit
        omega
    · intro e he
      have hmem : Field.serviceData e.1 e.2 ∈ data.fields name :=
        mem_append_right _ (mem_map_of_mem he)
      have hfit := Element.fits_iff.1 (h _ hmem)
      rw [Field.element, length_append, Uuid.uuidToByte_length] at hfit
      omega
    · intro e he
      have hmem : Field.manufacturer e.1 e.2 ∈ data.fields name := by
        simp only [AdvertiseData.fields, mem_append]
        exact .inl (.inl (.inl (.inr (mem_map_of_mem he))))
      have hfit := Element.fits_iff.1 (h _ hmem)
      simp only [Field.element, length_cons] at hfit
      omega
  · rintro ⟨huuids, hservice, hmanufacturer⟩ f hf
    rw [Element.fits_iff]
    cases AdvertiseData.shape_of_mem_fields hf with
    | deviceName _ =>
        rw [Field.element]
        split
        · rw [length_take, DEVICE_NAME_MAX]
          omega
        · next hlen =>
            exact Nat.lt_of_le_of_lt (Nat.not_lt.1 hlen) (by decide)
    | manufacturer e he =>
        have := hmanufacturer e he
        simp only [Field.element, length_cons]
        omega
    | txPowerLevel => exact (by decide : 1 < 255)
    | serviceUuids size hsize _ =>
        have := huuids size hsize
        rw [← data.uuidsOfSize_length] at this
        rw [Field.element, data.uuidsOfSize_flatMap_length]
        omega
    | serviceData e he =>
        have := hservice e he
        rw [Field.element, length_append, Uuid.uuidToByte_length]
        omega

/-- Among accepted data the bytes exceed the maximum only for an empty name. -/
theorem size_le_iff (haccept : totalBytes name (some data) isFlagsIncluded ≤ maxData) :
    (advertiseDataToBytes (some data) name).length + flagsBytes isFlagsIncluded ≤ maxData ↔
      (data.includeDeviceName = true → name = [] →
        flagsBytes isFlagsIncluded + fieldBytes data.fieldsAfterName + 2 ≤ maxData) := by
  rw [data.totalBytes_eq] at haccept
  rw [data.advertiseDataToBytes_length]
  by_cases hname : name = []
  · subst hname
    rw [data.fieldBytes_nameField]
    cases hinclude : data.includeDeviceName with
    | false =>
        rw [hinclude] at haccept
        simp only [Bool.false_eq_true, false_and, if_false, false_implies, iff_true] at haccept ⊢
        omega
    | true =>
        simp only [if_true, takeWhile_nil, length_nil, Nat.min_zero, true_implies]
        omega
  · have := data.nameBytes_le name hname
    constructor
    · intro _ _ hnil
      exact absurd hnil hname
    · intro _
      omega

/-- What the check accepts is bounded by the maximum, structure by structure, exactly if an
empty name has its two bytes and no structure is too long for its length byte. -/
theorem bounded_iff_small (haccept : totalBytes name (some data) isFlagsIncluded ≤ maxData) :
    Bounded data name isFlagsIncluded maxData ↔ Small data name isFlagsIncluded maxData := by
  constructor
  · intro h
    obtain ⟨huuids, hservice, hmanufacturer⟩ := fits_iff_small.1 h.lengths
    exact ⟨(size_le_iff haccept).1 h.size, huuids, hservice, hmanufacturer⟩
  · intro h
    exact ⟨(size_le_iff haccept).2 h.name,
      fits_iff_small.2 ⟨h.uuids, h.serviceData, h.manufacturer⟩⟩

end Check

theorem nameAndPower_bounded :
    Bounded nameAndPower [0x42, 0x54] true MAX_LEGACY_ADVERTISING_DATA_BYTES :=
  (bounded_iff_small (by decide)).2
    { name := by decide
      uuids := by
        intro size _
        exact Nat.le_trans (Nat.le_of_eq (Nat.zero_mul size)) (Nat.zero_le _)
      serviceData := fun _ h => absurd h not_mem_nil
      manufacturer := fun _ h => absurd h not_mem_nil }

/-- As many bytes of one manufacturer as legacy advertising takes, and an empty name. -/
def fullManufacturer : AdvertiseData where
  serviceUuids := []
  manufacturerSpecificData := AList.singleton 0x000A (replicate 27 0x55)
  serviceData := ∅
  includeTxPowerLevel := false
  includeDeviceName := true
  serviceUuids_ne_empty := nameAndPower.serviceUuids_ne_empty
  manufacturer_ascending := by decide
  manufacturer_ne_nil := by decide
  serviceData_ascending := nameAndPower.serviceData_ascending
  serviceData_ne_empty := nameAndPower.serviceData_ne_empty

/-- It is accepted and makes 33 bytes. -/
theorem fullManufacturer_not_bounded :
    totalBytes [] (some fullManufacturer) false ≤ MAX_LEGACY_ADVERTISING_DATA_BYTES ∧
      ¬ Bounded fullManufacturer [] false MAX_LEGACY_ADVERTISING_DATA_BYTES := by
  refine ⟨by decide, ?_⟩
  rintro ⟨hsize, -⟩
  exact absurd hsize (by decide)

end Gatt
