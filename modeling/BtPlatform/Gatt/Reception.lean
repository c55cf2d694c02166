import BtPlatform.Gatt.AdvertiseData
import BtPlatform.Gatt.ScanRecord

/-!
# Advertising data at the scanner

What the parser of the scan record makes of the structures of the advertising data, each
where it stands. In front of other bytes a structure is read as it was written, but for
the short UUIDs, whose bytes are taken in the other order; at the end of the record the
bytes that reach to the end are read as zeros.
-/

namespace Gatt

open Support Format List

/-- Bytes as `extractBytes` returns them. -/
def arrived (last : Bool) (bytes : List UInt8) : List UInt8 :=
  if last then List.replicate bytes.length 0 else bytes

@[simp] theorem arrived_length (last : Bool) (bytes : List UInt8) :
    (arrived last bytes).length = bytes.length := by
  unfold arrived
  split
  · exact length_replicate
  · rfl

theorem arrived_ne_nil {last : Bool} {bytes : List UInt8} (h : bytes ≠ []) :
    arrived last bytes ≠ [] := by
  rw [← length_pos_iff, arrived_length]
  exact length_pos_iff.2 h

/-- The UUIDs of a structure as the parser reads them. -/
def arrivedUuids (last : Bool) (uuids : List Uuid) : List Uuid :=
  (markLast uuids).map fun u => if last && u.1 then u.2.blank else u.2.swapped

@[simp] theorem arrivedUuids_nil (last : Bool) : arrivedUuids last [] = [] := rfl

@[simp] theorem arrivedUuids_cons (last : Bool) (u : Uuid) (us : List Uuid) :
    arrivedUuids last (u :: us) =
      (if last && us.isEmpty then u.blank else u.swapped) :: arrivedUuids last us := rfl

theorem arrivedUuids_append (last : Bool) (us vs : List Uuid) :
    arrivedUuids last (us ++ vs) =
      arrivedUuids (last && vs.isEmpty) us ++ arrivedUuids last vs := by
  unfold arrivedUuids
  rw [markLast_append, map_append, map_map]
  congr 1
  refine map_congr_left fun u _ => ?_
  rw [Function.comp_apply, Bool.and_assoc, Bool.and_comm vs.isEmpty]

/-- What a structure adds to the record. -/
def receive (s : ScanRecord) : Bool × Field → ScanRecord
  | (last, .deviceName nameBytes) => { s with deviceName := arrived last nameBytes }
  | (last, .manufacturer id data) =>
      { s with
        manufacturerSpecificData := s.manufacturerSpecificData.emplace id (arrived last data) }
  | (_, .txPowerLevel) => { s with txPowerLevel := 0 }
  | (last, .serviceUuids _ uuids) =>
      { s with serviceUuids := s.serviceUuids ++ arrivedUuids last uuids }
  | (last, .serviceData uuid data) =>
      { s with serviceData := s.serviceData.emplace uuid.swapped (arrived last data) }

/-- The structures a parser can take in: a name that is not shortened, sixteen bits for
the id of a manufacturer, UUIDs of one size, and data. -/
def Field.Sound : Field → Prop
  | .deviceName nameBytes => nameBytes ≠ [] ∧ nameBytes.length ≤ DEVICE_NAME_MAX
  | .manufacturer id data => id < 65536 ∧ data ≠ []
  | .txPowerLevel => True
  | .serviceUuids size uuids => (size = 2 ∨ size = 4 ∨ size = 16) ∧
      ∀ u ∈ uuids, u.shortestRepresentationSize = size
  | .serviceData _ data => data ≠ []

namespace ScanRecord

variable {scanRecord before after : List UInt8} {size : Nat}

theorem extractBytes_piece {bytes : List UInt8} (h : scanRecord = before ++ (bytes ++ after))
    (hne : bytes ≠ []) :
    extractBytes scanRecord before.length bytes.length =
      .ok (arrived after.isEmpty bytes) := by
  have hpos : 0 < bytes.length := length_pos_iff.2 hne
  have hlen : scanRecord.length = before.length + (bytes.length + after.length) := by
    rw [h, length_append, length_append]
  unfold extractBytes
  rw [if_neg (by omega)]
  cases after with
  | nil =>
      rw [if_neg (by simp only [hlen, length_nil]; omega)]
      rfl
  | cons b after =>
      rw [if_pos (by simp only [hlen, length_cons]; omega), Int.toNat_natCast, h,
        drop_left, take_left]
      rfl

theorem byteAt_piece {b : UInt8} (h : scanRecord = before ++ (b :: after)) :
    byteAt scanRecord before.length = .ok b := by
  unfold byteAt
  rw [h, getElem?_append_right le_rfl, Nat.sub_self]
  rfl

theorem uuidOf_arrived (last : Bool) (u : Uuid) :
    uuidOf (arrived last u.uuidToByte) = .ok (if last then u.blank else u.swapped) := by
  unfold uuidOf arrived
  cases last with
  | true => simp only [if_true, Uuid.uuidToByte_length, Uuid.uuidFromByte_zero]
  | false => simp only [Bool.false_eq_true, if_false, Uuid.uuidFromByte_uuidToByte]

/-- The UUIDs of a list are read one after the other; the last one is zero where the list
ends the record. -/
theorem parseServiceUuid_piece {uuids : List Uuid} (before : List UInt8) (fuel : Nat)
    (h : scanRecord = before ++ (uuids.flatMap Uuid.uuidToByte ++ after))
    (hsize : ∀ u ∈ uuids, u.shortestRepresentationSize = size) (hpos : 0 < size)
    (hfuel : uuids.length ≤ fuel) (acc : List Uuid) :
    parseServiceUuid scanRecord size fuel before.length
        (uuids.flatMap Uuid.uuidToByte).length acc =
      .ok (acc ++ arrivedUuids after.isEmpty uuids) := by
  induction uuids generalizing before fuel acc with
  | nil => cases fuel <;> simp [parseServiceUuid]
  | cons u us ih =>
      obtain ⟨fuel, rfl⟩ : ∃ n, fuel = n + 1 :=
        Nat.exists_eq_add_one.mpr (Nat.lt_of_lt_of_le (Nat.zero_lt_succ _) hfuel)
      have hu : u.uuidToByte.length = size := by
        rw [Uuid.uuidToByte_length]
        exact hsize u mem_cons_self
      have hne : u.uuidToByte ≠ [] := by
        intro hnil
        rw [hnil] at hu
        exact absurd hu (Nat.ne_of_lt hpos)
      have hsplit : scanRecord =
          before ++ (u.uuidToByte ++ (us.flatMap Uuid.uuidToByte ++ after)) := by
        rw [h, flatMap_cons, append_assoc]
      have hread := extractBytes_piece hsplit hne
      rw [hu] at hread
      -- the first UUID ends the record if no other one and nothing else follows
      have hempty : (us.flatMap Uuid.uuidToByte ++ after).isEmpty =
          (after.isEmpty && us.isEmpty) := by
        cases us with
        | nil => simp
        | cons v vs =>
            have hv : v.uuidToByte.length = size := by
              rw [Uuid.uuidToByte_length]
              exact hsize v (mem_cons_of_mem u mem_cons_self)
            have hvne : v.uuidToByte ≠ [] := by
              intro hnil
              rw [hnil] at hv
              exact absurd hv (Nat.ne_of_lt hpos)
            simp [hvne]
      have hrest := ih (before ++ u.uuidToByte) fuel
        (by rw [hsplit, append_assoc])
        (fun v hv => hsize v (mem_cons_of_mem u hv)) (Nat.le_of_succ_le_succ hfuel)
        (acc ++ [if after.isEmpty && us.isEmpty then u.blank else u.swapped])
      rw [length_append, hu] at hrest
      rw [hempty] at hread
      have hlength : ((u :: us).flatMap Uuid.uuidToByte).length =
          size + (us.flatMap Uuid.uuidToByte).length := by
        rw [flatMap_cons, length_append, hu]
      rw [parseServiceUuid, hlength, if_pos ⟨by omega, hpos⟩, hread]
      simp only [bind, Except.bind]
      rw [arrived_length, hu, if_neg (by omega), uuidOf_arrived]
      simp only [Nat.add_sub_cancel_left]
      rw [hrest, arrivedUuids_cons, append_assoc]
      rfl

theorem parseField_completeListType (h : size = 2 ∨ size = 4 ∨ size = 16) (scanRecord : List UInt8)
    (pos n : Nat) (s : ScanRecord) :
    parseField scanRecord (Field.completeListType size) pos n s =
      parseUuidField scanRecord size pos n s := by
  obtain rfl | rfl | rfl := h <;> rfl

theorem parseField_serviceDataType (h : size = 2 ∨ size = 4 ∨ size = 16) (scanRecord : List UInt8)
    (pos n : Nat) (s : ScanRecord) :
    parseField scanRecord (Field.serviceDataType size) pos n s =
      parseServiceDataField scanRecord size pos n s := by
  obtain rfl | rfl | rfl := h <;> rfl

theorem parseUuidField_piece {uuids : List Uuid}
    (h : scanRecord = before ++ (uuids.flatMap Uuid.uuidToByte ++ after))
    (hsize : ∀ u ∈ uuids, u.shortestRepresentationSize = size)
    (hcase : size = 2 ∨ size = 4 ∨ size = 16) (s : ScanRecord) :
    parseUuidField scanRecord size before.length (uuids.flatMap Uuid.uuidToByte).length s =
      .ok (receive s (after.isEmpty, .serviceUuids size uuids)) := by
  have hpos : 0 < size := by omega
  unfold parseUuidField
  rw [parseServiceUuid_piece before _ h hsize hpos (Uuid.length_le_flatMap_length uuids)]
  rfl

theorem parseServiceDataField_piece {data : List UInt8} {uuid : Uuid}
    (h : scanRecord = before ++ ((uuid.uuidToByte ++ data) ++ after)) (hne : data ≠ [])
    (s : ScanRecord) :
    parseServiceDataField scanRecord uuid.shortestRepresentationSize before.length
        (uuid.uuidToByte ++ data).length s =
      .ok (receive s (after.isEmpty, .serviceData uuid data)) := by
  have hu := uuid.uuidToByte_ne_nil
  have hfirst : scanRecord = before ++ (uuid.uuidToByte ++ (data ++ after)) := by
    rw [h, append_assoc]
  have hsecond : scanRecord = (before ++ uuid.uuidToByte) ++ (data ++ after) := by
    rw [hfirst, append_assoc]
  -- the data keep the UUID from the end of the record
  have huuid := extractBytes_piece hfirst hu
  rw [Uuid.uuidToByte_length, show (data ++ after).isEmpty = false by simp [hne]] at huuid
  have hdata := extractBytes_piece hsecond hne
  rw [length_append, Uuid.uuidToByte_length] at hdata
  have hlen : (((uuid.uuidToByte ++ data).length : Nat) : Int) -
      uuid.shortestRepresentationSize = data.length := by
    rw [length_append, Uuid.uuidToByte_length]
    omega
  unfold parseServiceDataField
  rw [huuid]
  simp only [bind, Except.bind]
  rw [if_neg (arrived_ne_nil hu), uuidOf_arrived]
  simp only [Bool.false_eq_true, if_false]
  rw [hlen, hdata]
  rfl

theorem toNat_id {id : Nat} (h : id < 65536) :
    (UInt8.ofNat (id / 256)).toNat * 256 + (UInt8.ofNat id).toNat = id := by
  rw [UInt8.toNat_ofNat', UInt8.toNat_ofNat']
  omega

theorem parseManufacturerField_piece {data : List UInt8} {id : Nat} (h : scanRecord = before ++
      (UInt8.ofNat id :: UInt8.ofNat (id / 256) :: data ++ after)) (hid : id < 65536)
    (hne : data ≠ []) (s : ScanRecord) :
    parseManufacturerField scanRecord before.length (data.length + 2) s =
      .ok (receive s (after.isEmpty, .manufacturer id data)) := by
  have hsecond : scanRecord = (before ++ [UInt8.ofNat id]) ++
      (UInt8.ofNat (id / 256) :: (data ++ after)) := by
    rw [h]
    simp
  have hthird : scanRecord = (before ++ [UInt8.ofNat id, UInt8.ofNat (id / 256)]) ++
      (data ++ after) := by
    rw [h]
    simp
  have hlow := byteAt_piece h
  have hhigh := byteAt_piece hsecond
  have hdata := extractBytes_piece hthird hne
  rw [length_append, length_singleton] at hhigh
  rw [length_append, show [UInt8.ofNat id, UInt8.ofNat (id / 256)].length = 2 from rfl]
    at hdata
  unfold parseManufacturerField
  rw [hhigh, hlow, show ((data.length + 2 : Nat) : Int) - 2 = data.length by omega, hdata]
  simp only [bind, Except.bind]
  rw [if_neg (arrived_ne_nil hne), toNat_id hid]
  rfl

/-- A structure of the advertising data, wherever it stands in the record. -/
theorem parseField_piece {f : Field} (hf : f.Sound)
    (h : scanRecord = before ++ (f.element.data ++ after)) (s : ScanRecord) :
    parseField scanRecord f.element.type before.length f.element.data.length s =
      .ok (receive s (after.isEmpty, f)) := by
  cases f with
  | deviceName nameBytes =>
      obtain ⟨hne, hlen⟩ := hf
      rw [Field.element, if_neg (Nat.not_lt.2 hlen)] at h ⊢
      have hread := extractBytes_piece h hne
      show (do return { s with deviceName := (← extractBytes _ _ _) }) = _
      rw [hread]
      rfl
  | manufacturer id data => exact parseManufacturerField_piece h hf.1 hf.2 s
  | txPowerLevel =>
      have hread := byteAt_piece h
      show (do return { s with txPowerLevel := (← byteAt scanRecord before.length).toNat }) = _
      rw [hread]
      rfl
  | serviceUuids size uuids =>
      rw [Field.element, parseField_completeListType hf.1]
      exact parseUuidField_piece h hf.2 hf.1 s
  | serviceData uuid data =>
      rw [Field.element, parseField_serviceDataType uuid.size_cases]
      exact parseServiceDataField_piece h hf s

end ScanRecord

/-- The record is what the structures add up to. -/
theorem parseFromBytes_encodeElements {fs : List Field} (hne : fs ≠ [])
    (hsound : ∀ f ∈ fs, f.Sound) (hfits : ∀ f ∈ fs, f.element.Fits) :
    ScanRecord.parseFromBytes (encodeElements (fs.map Field.element)) =
      .ok (some ((markLast fs).foldl receive
        (ScanRecord.start (encodeElements (fs.map Field.element))))) := by
  unfold ScanRecord.parseFromBytes
  rw [if_neg (by rwa [encodeElements_eq_nil, map_eq_nil_iff]),
    readElements_encodeElements_start hfits
      fun f hf before after s h => ScanRecord.parseField_piece (hsound f hf) h s]

end Gatt
