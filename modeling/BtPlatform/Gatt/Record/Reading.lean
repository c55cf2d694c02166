import BtPlatform.Gatt.Scan.Record

/-!
# What the scanner's parser takes from a record

The parser keeps its position in the record. What it takes from a structure depends on the
bytes behind the type only: a reader of these bytes yields the values of the structure, and
the record that the parser returns is what these values make of the empty one.
-/

namespace Gatt.ScanRecord

open Support Format List

/-- How many bytes a UUID is written with. -/
structure Width where
  bytes : Nat
  valid : bytes = 2 ∨ bytes = 4 ∨ bytes = 16
  deriving DecidableEq

namespace Width

theorem pos (w : Width) : 0 < w.bytes := by
  obtain h | h | h := w.valid
  all_goals omega

end Width

/-- What a structure is about. -/
inductive Kind where
  | flags
  | serviceUuids (w : Width)
  | solicitationUuids (w : Width)
  | deviceName
  | txPower
  | serviceData (w : Width)
  | manufacturer
  | other
  deriving DecidableEq

def short : Width := ⟨2, .inl rfl⟩

def medium : Width := ⟨4, .inr (.inl rfl)⟩

def long : Width := ⟨16, .inr (.inr rfl)⟩

/-- The types that the parser knows. -/
def kindOf (type : UInt8) : Kind :=
  match type.toNat with
  | 0x01 => .flags
  | 0x02 | 0x03 => .serviceUuids short
  | 0x04 | 0x05 => .serviceUuids medium
  | 0x06 | 0x07 => .serviceUuids long
  | 0x14 => .solicitationUuids short
  | 0x1F => .solicitationUuids medium
  | 0x15 => .solicitationUuids long
  | 0x08 | 0x09 => .deviceName
  | 0x0A => .txPower
  | 0x16 => .serviceData short
  | 0x20 => .serviceData medium
  | 0x21 => .serviceData long
  | 0xFF => .manufacturer
  | _ => .other

/-- A value of a record. -/
inductive Value where
  | flags (b : UInt8)
  | serviceUuid (u : Uuid)
  | solicitationUuid (u : Uuid)
  | deviceName (name : List UInt8)
  | txPower (b : UInt8)
  | serviceData (u : Uuid) (data : List UInt8)
  | manufacturer (id : Nat) (data : List UInt8)
  deriving DecidableEq

/-- What the parser does with a value. -/
def keep (s : ScanRecord) : Value → ScanRecord
  | .flags b => { s with advertiseFlags := b.toNat }
  | .serviceUuid u => { s with serviceUuids := s.serviceUuids ++ [u] }
  | .solicitationUuid u =>
      { s with serviceSolicitationUuids := s.serviceSolicitationUuids ++ [u] }
  | .deviceName name => { s with deviceName := name }
  | .txPower b => { s with txPowerLevel := b.toNat }
  | .serviceData u data => { s with serviceData := s.serviceData.emplace u data }
  | .manufacturer id data =>
      { s with manufacturerSpecificData := s.manufacturerSpecificData.emplace id data }

/-- The record with some values. -/
def recordOf (bytes : List UInt8) (values : List Value) : ScanRecord :=
  values.foldl keep (start bytes)

/-! ## The reader of the bytes behind a type -/

/-- What `extractBytes` makes of the bytes that start at its position. -/
def extracted (rest : List UInt8) (length : Nat) : List UInt8 :=
  if length < rest.length then rest.take length else replicate length 0

/-- The UUID with as many bytes as a width says. -/
def uuidAt (bytes : List UInt8) : Uuid :=
  match Uuid.uuidFromByte bytes with
  | .ok u => u
  | .error _ => .empty

/-- The UUIDs that a loop takes while bytes of the structure are left. -/
def uuidsOf (w : Width) : Nat → List UInt8 → List Uuid
  | 0, _ => []
  | n + 1, rest => uuidAt (extracted rest w.bytes) :: uuidsOf w n (rest.drop w.bytes)

/-- How many UUIDs are taken from a number of bytes. -/
def turns (w : Width) (dataLength : Nat) : Nat := (dataLength + w.bytes - 1) / w.bytes

/-- The values of a structure, from all bytes behind its type. -/
def readStructure (kind : Kind) (rest : List UInt8) (dataLength : Nat) :
    Except Failure (List Value) :=
  match kind, rest with
  | .flags, b :: _ => .ok [.flags b]
  | .flags, [] => .error (.fault .outOfBounds)
  | .serviceUuids w, rest => .ok ((uuidsOf w (turns w dataLength) rest).map .serviceUuid)
  | .solicitationUuids w, rest =>
      .ok ((uuidsOf w (turns w dataLength) rest).map .solicitationUuid)
  | .deviceName, rest => .ok [.deviceName (extracted rest dataLength)]
  | .txPower, b :: _ => .ok [.txPower b]
  | .txPower, [] => .error (.fault .outOfBounds)
  | .serviceData w, rest =>
      if dataLength < w.bytes then .error .thrown
      else
        .ok [.serviceData (uuidAt (extracted rest w.bytes))
          (extracted (rest.drop w.bytes) (dataLength - w.bytes))]
  | .manufacturer, low :: high :: rest =>
      if dataLength < 2 then .error .thrown
      else if dataLength = 2 then .ok []
      else .ok [.manufacturer (high.toNat * 256 + low.toNat) (extracted rest (dataLength - 2))]
  | .manufacturer, _ => .error (.fault .outOfBounds)
  | .other, _ => .ok []

/-- The values of the structures, from all bytes of a record. -/
def readStructures : Nat → List UInt8 → Except Failure (List Value)
  | 0, _ => .error (.fault .fuel)
  | _ + 1, [] => .ok []
  | fuel + 1, length :: rest =>
      if length = 0 then .ok []
      else
        match rest with
        | [] => .error (.fault .outOfBounds)
        | type :: rest => do
            let values ← readStructure (kindOf type) rest (length.toNat - 1)
            let others ← readStructures fuel (rest.drop (length.toNat - 1))
            return values ++ others

section Structures

variable {fuel : Nat} {length type : UInt8} {rest : List UInt8}

theorem readStructures_zero : readStructures (fuel + 1) (0 :: rest) = .ok [] := by
  unfold readStructures
  exact if_pos rfl

theorem readStructures_short (h : length ≠ 0) :
    readStructures (fuel + 1) [length] = .error (.fault .outOfBounds) := by
  unfold readStructures
  exact if_neg h

theorem readStructures_cons (h : length ≠ 0) :
    readStructures (fuel + 1) (length :: type :: rest) = (do
      let values ← readStructure (kindOf type) rest (length.toNat - 1)
      let others ← readStructures fuel (rest.drop (length.toNat - 1))
      return values ++ others) := by
  rw [readStructures.eq_def]
  exact if_neg h

end Structures

/-- The values that the parser recognises; none where it threw. -/
def recognise (bytes : List UInt8) : Except Fault (List Value) :=
  match readStructures (bytes.length + 1) bytes with
  | .ok values => .ok values
  | .error .thrown => .ok []
  | .error (.fault f) => .error f

/-! ## The reader and the parser -/

section Parser

variable {scanRecord : List UInt8} {s : ScanRecord} {pos dataLength : Nat}

@[simp] theorem extracted_length (rest : List UInt8) (length : Nat) :
    (extracted rest length).length = length := by
  unfold extracted
  split
  · rw [length_take]
    omega
  · exact length_replicate

theorem extractBytes_eq (pos length : Nat) :
    extractBytes scanRecord pos length = .ok (extracted (scanRecord.drop pos) length) := by
  unfold extractBytes extracted
  rw [if_neg (by omega), length_drop]
  by_cases hroom : length < scanRecord.length - pos
  · rw [if_pos hroom]
    by_cases hzero : length = 0
    · subst hzero
      rfl
    · rw [if_pos (by omega), Int.toNat_natCast]
  · rw [if_neg hroom, if_neg (by omega), Int.toNat_natCast]

theorem extractBytes_negative {pos : Nat} {length : Int} (h : length < 0) :
    extractBytes scanRecord pos length = .error .thrown := if_pos h

theorem uuidOf_eq {bytes : List UInt8} (w : Width) (h : bytes.length = w.bytes) :
    uuidOf bytes = .ok (uuidAt bytes) := by
  obtain ⟨u, hu⟩ := @uuidOf_ok bytes (by rw [h]; exact w.valid)
  rw [hu]
  unfold uuidOf at hu
  unfold uuidAt
  cases hread : Uuid.uuidFromByte bytes with
  | ok u' =>
      rw [hread] at hu
      exact hu.symm
  | error f =>
      rw [hread] at hu
      cases hu

theorem turns_zero (w : Width) : turns w 0 = 0 := by
  have := w.pos
  exact Nat.div_eq_of_lt (by omega)

theorem turns_eq {w : Width} (h : 0 < dataLength) :
    turns w dataLength = turns w (dataLength - w.bytes) + 1 := by
  have hw := w.pos
  unfold turns
  by_cases hle : w.bytes ≤ dataLength
  · have hsplit : dataLength + w.bytes - 1 = (dataLength - w.bytes + w.bytes - 1) + w.bytes := by
      omega
    rw [hsplit, Nat.add_div_right _ hw]
  · have hsplit : dataLength + w.bytes - 1 = (dataLength - 1) + w.bytes := by omega
    have hlast : dataLength - w.bytes + w.bytes - 1 < w.bytes := by omega
    rw [hsplit, Nat.add_div_right _ hw, Nat.div_eq_of_lt hlast, Nat.div_eq_of_lt (by omega)]

/-- The loop over the UUIDs, which takes at least a byte in each turn. -/
theorem parseServiceUuid_eq (w : Width) {fuel : Nat} (hfuel : dataLength ≤ fuel)
    (serviceUuids : List Uuid) :
    parseServiceUuid scanRecord w.bytes fuel pos dataLength serviceUuids =
      .ok (serviceUuids ++ uuidsOf w (turns w dataLength) (scanRecord.drop pos)) := by
  induction fuel generalizing pos dataLength serviceUuids with
  | zero =>
      obtain rfl := Nat.le_zero.1 hfuel
      rw [turns_zero, uuidsOf, append_nil]
      rfl
  | succ fuel ih =>
      have hw := w.pos
      rw [parseServiceUuid]
      by_cases hpos : 0 < dataLength
      · rw [if_pos ⟨hpos, hw⟩, extractBytes_eq, turns_eq hpos]
        show (if (extracted (scanRecord.drop pos) w.bytes).length = 0 then _ else _) = _
        rw [extracted_length, if_neg (by omega), uuidOf_eq w (extracted_length _ _)]
        show parseServiceUuid _ _ _ _ _ _ = _
        rw [ih (by omega), append_assoc, uuidsOf, drop_drop]
        rfl
      · rw [if_neg (fun h => hpos h.1), Nat.eq_zero_of_not_pos hpos, turns_zero, uuidsOf,
          append_nil]

theorem foldl_keep_serviceUuid (us : List Uuid) (s : ScanRecord) :
    (us.map Value.serviceUuid).foldl keep s = { s with serviceUuids := s.serviceUuids ++ us } := by
  induction us generalizing s with
  | nil => simp
  | cons u us ih =>
      rw [map_cons, foldl_cons, ih]
      simp [keep]

theorem foldl_keep_solicitationUuid (us : List Uuid) (s : ScanRecord) :
    (us.map Value.solicitationUuid).foldl keep s =
      { s with serviceSolicitationUuids := s.serviceSolicitationUuids ++ us } := by
  induction us generalizing s with
  | nil => simp
  | cons u us ih =>
      rw [map_cons, foldl_cons, ih]
      simp [keep]

theorem byteAt_eq (pos : Nat) :
    byteAt scanRecord pos =
      match scanRecord.drop pos with
      | b :: _ => .ok b
      | [] => .error (.fault .outOfBounds) := by
  unfold byteAt
  rw [← head?_drop]
  cases scanRecord.drop pos <;> rfl

variable {w : Width}

theorem parseUuidField_eq :
    parseUuidField scanRecord w.bytes pos dataLength s =
      .ok (((uuidsOf w (turns w dataLength) (scanRecord.drop pos)).map .serviceUuid).foldl
        keep s) := by
  rw [foldl_keep_serviceUuid]
  unfold parseUuidField
  rw [parseServiceUuid_eq w le_rfl]
  rfl

theorem parseSolicitationField_eq :
    parseSolicitationField scanRecord w.bytes pos dataLength s =
      .ok (((uuidsOf w (turns w dataLength) (scanRecord.drop pos)).map .solicitationUuid).foldl
        keep s) := by
  rw [foldl_keep_solicitationUuid]
  unfold parseSolicitationField
  rw [parseServiceUuid_eq w le_rfl]
  rfl

/-- A reader of values in place of a parser. -/
def keepAll (s : ScanRecord) (values : Except Failure (List Value)) :
    Except Failure ScanRecord :=
  values.map (·.foldl keep s)

theorem parseServiceDataField_eq :
    parseServiceDataField scanRecord w.bytes pos dataLength s =
      keepAll s (readStructure (.serviceData w) (scanRecord.drop pos) dataLength) := by
  have hne : extracted (scanRecord.drop pos) w.bytes ≠ [] := by
    intro h
    have hlen := congrArg length h
    rw [extracted_length] at hlen
    exact absurd hlen w.pos.ne'
  unfold parseServiceDataField
  rw [extractBytes_eq]
  show (if extracted (scanRecord.drop pos) w.bytes = [] then _ else _) = _
  rw [if_neg hne, uuidOf_eq w (extracted_length _ _), readStructure]
  by_cases hlt : dataLength < w.bytes
  · rw [extractBytes_negative (by omega), if_pos hlt]
    rfl
  · have hlength : (dataLength : Int) - w.bytes = ((dataLength - w.bytes : Nat) : Int) := by
      omega
    rw [hlength, extractBytes_eq, if_neg hlt, drop_drop]
    rfl

theorem parseManufacturerField_eq :
    parseManufacturerField scanRecord pos dataLength s =
      keepAll s (readStructure .manufacturer (scanRecord.drop pos) dataLength) := by
  unfold parseManufacturerField
  rw [byteAt_eq, byteAt_eq, ← drop_drop]
  have hrest : scanRecord.drop (pos + 2) = (scanRecord.drop pos).drop 2 := by
    rw [drop_drop]
  match hd : scanRecord.drop pos with
  | [] => rfl
  | [_] => rfl
  | low :: high :: rest =>
      rw [hd] at hrest
      show (extractBytes scanRecord (pos + 2) ((dataLength : Int) - 2) >>= _) = _
      rw [readStructure]
      by_cases hlt : dataLength < 2
      · rw [extractBytes_negative (by omega), if_pos hlt]
        rfl
      · have hlength : (dataLength : Int) - 2 = ((dataLength - 2 : Nat) : Int) := by omega
        rw [hlength, extractBytes_eq, hrest, if_neg hlt]
        show (if extracted rest (dataLength - 2) = [] then _ else _) = _
        by_cases htwo : dataLength = 2
        · subst htwo
          rw [if_pos (length_eq_zero_iff.1 (extracted_length _ _)), if_pos rfl]
          rfl
        · have hne : extracted rest (dataLength - 2) ≠ [] := by
            intro h
            have hlen := congrArg length h
            rw [extracted_length] at hlen
            simp only [length_nil] at hlen
            omega
          rw [if_neg hne, if_neg htwo]
          rfl

/-- The parser keeps the values of a structure. -/
theorem parseField_eq (type : UInt8) :
    parseField scanRecord type pos dataLength s =
      keepAll s (readStructure (kindOf type) (scanRecord.drop pos) dataLength) := by
  unfold parseField kindOf
  generalize type.toNat = t
  split
  · rw [byteAt_eq]
    cases scanRecord.drop pos <;> rfl
  · exact parseUuidField_eq (w := short)
  · exact parseUuidField_eq (w := short)
  · exact parseUuidField_eq (w := medium)
  · exact parseUuidField_eq (w := medium)
  · exact parseUuidField_eq (w := long)
  · exact parseUuidField_eq (w := long)
  · exact parseSolicitationField_eq (w := short)
  · exact parseSolicitationField_eq (w := medium)
  · exact parseSolicitationField_eq (w := long)
  · rw [extractBytes_eq]
    rfl
  · rw [extractBytes_eq]
    rfl
  · rw [byteAt_eq]
    cases scanRecord.drop pos <;> rfl
  · exact parseServiceDataField_eq (w := short)
  · exact parseServiceDataField_eq (w := medium)
  · exact parseServiceDataField_eq (w := long)
  · exact parseManufacturerField_eq
  -- every other type is unknown to the parser and skipped
  · first
      | rfl
      | split <;> first | rfl | contradiction

theorem keepAll_bind (values : Except Failure (List Value))
    (others : Except Failure (List Value)) :
    (keepAll s values >>= fun s => keepAll s others) =
      keepAll s (do return (← values) ++ (← others)) := by
  cases values with
  | error e => rfl
  | ok values =>
      cases others with
      | error e => rfl
      | ok others => exact congrArg Except.ok foldl_append.symm

/-- The parser keeps the values of all structures. -/
theorem readElements_eq (fuel : Nat) :
    readElements (.fault .outOfBounds) (.fault .fuel) (parseField scanRecord) scanRecord fuel
        pos s =
      keepAll s (readStructures fuel (scanRecord.drop pos)) := by
  induction fuel generalizing pos s with
  | zero => rfl
  | succ fuel ih =>
      rw [readElements, ← head?_drop]
      have htype : scanRecord[pos + 1]? = (scanRecord.drop pos).tail.head? := by
        rw [tail_drop, head?_drop]
      have hrest : scanRecord.drop (pos + 2) = (scanRecord.drop pos).tail.tail := by
        rw [tail_drop, tail_drop]
      cases hd : scanRecord.drop pos with
      | nil => rfl
      | cons length rest =>
          rw [hd] at htype hrest
          simp only [head?_cons]
          by_cases hzero : length = 0
          · subst hzero
            rw [if_pos rfl, readStructures_zero]
            rfl
          · rw [if_neg hzero, htype]
            cases rest with
            | nil =>
                rw [readStructures_short hzero]
                rfl
            | cons type rest =>
                have hnext : scanRecord.drop (pos + 2 + (length.toNat - 1)) =
                    rest.drop (length.toNat - 1) := by
                  rw [← drop_drop, hrest]
                  rfl
                rw [readStructures_cons hzero, ← keepAll_bind]
                simp only [tail_cons, head?_cons, parseField_eq, hrest]
                cases keepAll s (readStructure (kindOf type) rest (length.toNat - 1)) with
                | error e => rfl
                | ok s =>
                    rw [← hnext]
                    exact ih

/-- The record is the one with the values that the parser recognises. -/
theorem parseFromBytes_eq (scanRecord : List UInt8) :
    parseFromBytes scanRecord =
      if scanRecord = [] then .ok none
      else (recognise scanRecord).map fun values => some (recordOf scanRecord values) := by
  unfold parseFromBytes recognise
  rw [readElements_eq, drop_zero]
  congr 1
  cases readStructures (scanRecord.length + 1) scanRecord with
  | ok values => rfl
  | error e => cases e <;> rfl

end Parser

end Gatt.ScanRecord
