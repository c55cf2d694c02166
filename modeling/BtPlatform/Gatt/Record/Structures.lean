import BtPlatform.Gatt.Record.Reading

/-!
# The structures of a record

A record is a sequence of complete structures and a remainder, which is empty, starts with
a zero length or holds less than its length says. The values of a complete structure are
compared with those that the parser takes from it.
-/

namespace Gatt.ScanRecord

open Support Format List

/-- A complete structure, and the bytes that follow it. -/
structure Structure where
  type : UInt8
  data : List UInt8
  after : List UInt8
  deriving DecidableEq

def Structure.kind (p : Structure) : Kind := kindOf p.type

/-- The complete structures in front of a remainder. -/
def split : Nat → List UInt8 → List Structure × List UInt8
  | 0, bytes => ([], bytes)
  | _ + 1, [] => ([], [])
  | _ + 1, [length] => ([], [length])
  | fuel + 1, length :: type :: rest =>
      if length = 0 ∨ rest.length < length.toNat - 1 then ([], length :: type :: rest)
      else
        let after := rest.drop (length.toNat - 1)
        (⟨type, rest.take (length.toNat - 1), after⟩ :: (split fuel after).1,
          (split fuel after).2)

/-- The structures of a record, each of which takes two bytes or more. -/
def structures (bytes : List UInt8) : List Structure := (split (bytes.length + 1) bytes).1

def remainder (bytes : List UInt8) : List UInt8 := (split (bytes.length + 1) bytes).2

/-! ## The values of a structure -/

/-- The UUIDs that are listed in the data. -/
def listed (w : Width) : Nat → List UInt8 → List Uuid
  | 0, _ => []
  | n + 1, data => uuidAt (data.take w.bytes) :: listed w n (data.drop w.bytes)

/-- What the data of a structure says; nothing if it is too short for its type. -/
def values : Kind → List UInt8 → List Value
  | .flags, b :: _ => [.flags b]
  | .serviceUuids w, data => (listed w (data.length / w.bytes) data).map .serviceUuid
  | .solicitationUuids w, data =>
      (listed w (data.length / w.bytes) data).map .solicitationUuid
  | .deviceName, data => [.deviceName data]
  | .txPower, b :: _ => [.txPower b]
  | .serviceData w, data =>
      if data.length < w.bytes then []
      else [.serviceData (uuidAt (data.take w.bytes)) (data.drop w.bytes)]
  | .manufacturer, low :: high :: data =>
      [.manufacturer (high.toNat * 256 + low.toNat) data]
  | _, _ => []

/-- The values of all structures. -/
def fields (bytes : List UInt8) : List Value :=
  (structures bytes).flatMap fun p => values p.kind p.data

/-- The data for a UUID. -/
def Value.dataOf (u : Uuid) : Value → Option (List UInt8)
  | .serviceData u' data => if u' = u then some data else none
  | _ => none

/-- The data for the id of a manufacturer. -/
def Value.dataFrom (id : Nat) : Value → Option (List UInt8)
  | .manufacturer id' data => if id' = id then some data else none
  | _ => none

/-- The parser stays within the record, recognises the values of the complete structures,
and keeps the first data for each UUID and for each manufacturer. -/
structure Exact (bytes : List UInt8) : Prop where
  recognised : recognise bytes = .ok (fields bytes)
  record : parseFromBytes bytes =
    .ok (if bytes = [] then none else some (recordOf bytes (fields bytes)))
  serviceData : ∀ u, (recordOf bytes (fields bytes)).serviceData.lookup u =
    (fields bytes).findSome? (Value.dataOf u)
  manufacturerData : ∀ id, (recordOf bytes (fields bytes)).manufacturerSpecificData.lookup id =
    (fields bytes).findSome? (Value.dataFrom id)

/-! ## Records that the parser reads as they are -/

/-- The data has a length that its type allows. -/
def Kind.Whole : Kind → List UInt8 → Prop
  | .flags, data => data ≠ []
  | .txPower, data => data ≠ []
  | .serviceUuids w, data => w.bytes ∣ data.length
  | .solicitationUuids w, data => w.bytes ∣ data.length
  | .serviceData w, data => w.bytes ≤ data.length
  | .manufacturer, data => 3 ≤ data.length
  | .deviceName, _ => True
  | .other, _ => True

/-- The bytes that are taken out of the record last. -/
def Kind.lastPiece : Kind → List UInt8 → List UInt8
  | .serviceUuids w, data => data.drop (data.length - w.bytes)
  | .solicitationUuids w, data => data.drop (data.length - w.bytes)
  | .deviceName, data => data
  | .serviceData w, data => if data.length = w.bytes then data else data.drop w.bytes
  | .manufacturer, data => data.drop 2
  | _, _ => []

/-- A structure as long as its type needs; at the end of the record it ends with zeros. -/
structure Structure.Legible (p : Structure) : Prop where
  whole : p.kind.Whole p.data
  last : p.after = [] → ∀ b ∈ p.kind.lastPiece p.data, b = 0

/-- A remainder without a value: what is truncated is of a type that the parser skips. -/
def Silent : List UInt8 → Prop
  | [] => True
  | length :: rest => length = 0 ∨ ∃ type tail, rest = type :: tail ∧ kindOf type = .other

/-- All structures can be read, and nothing else. -/
structure Legible (bytes : List UInt8) : Prop where
  structures : ∀ p ∈ structures bytes, p.Legible
  remainder : Silent (remainder bytes)

/-- The data does not reach over the UUID, or over the id of the manufacturer. -/
def Structure.Cut (p : Structure) : Prop :=
  (∃ w, p.kind = .serviceData w ∧ p.data.length < w.bytes) ∨
    (p.kind = .manufacturer ∧ p.data.length < 2 ∧ 2 ≤ p.data.length + p.after.length)

/-- Truncated service data that is shorter than its UUID by what its length says. -/
def CutShort (remainder : List UInt8) : Prop :=
  ∃ length type rest w, remainder = length :: type :: rest ∧ length ≠ 0 ∧
    kindOf type = .serviceData w ∧ length.toNat - 1 < w.bytes

/-- No structure has a value, and one of them makes the parser give up the record. -/
structure Blank (bytes : List UInt8) : Prop where
  structures : ∀ p ∈ structures bytes, values p.kind p.data = []
  cut : (∃ p ∈ ScanRecord.structures bytes, p.Cut) ∨ CutShort (ScanRecord.remainder bytes)

/-! ## Pieces of a structure -/

section Pieces

variable {data after : List UInt8} {w : Width} {n : Nat}

theorem extracted_within (h : n < data.length) : extracted (data ++ after) n = data.take n := by
  unfold extracted
  rw [if_pos (by rw [length_append]; omega), take_append_of_le_length (Nat.le_of_lt h)]

/-- The whole of the data, unless the record ends with it. -/
theorem extracted_eq_iff :
    extracted (data ++ after) data.length = data ↔ (after = [] → ∀ b ∈ data, b = 0) := by
  unfold extracted
  by_cases hafter : after = []
  · subst hafter
    rw [append_nil, if_neg (Nat.lt_irrefl _), eq_comm, eq_replicate_iff]
    simp
  · have hpos := length_pos_iff.2 hafter
    rw [if_pos (by rw [length_append]; omega), take_left]
    simp [hafter]

theorem uuidAt_whole : ∀ {bytes : List UInt8}, bytes.length = 16 → (uuidAt bytes).uu = bytes
  | [_, _, _, _, _, _, _, _, _, _, _, _, _, _, _, _], _ => rfl

theorem uuidAt_injective {bytes bytes' : List UInt8} (h : bytes.length = w.bytes)
    (h' : bytes'.length = w.bytes) (heq : uuidAt bytes = uuidAt bytes') : bytes = bytes' := by
  obtain hw | hw | hw := w.valid
  · rw [hw] at h h'
    obtain ⟨b0, b1, rfl⟩ := length_eq_two.1 h
    obtain ⟨b0', b1', rfl⟩ := length_eq_two.1 h'
    have huu := congrArg (fun u => u.uu.take 4) heq
    simpa [uuidAt, Uuid.uuidFromByte, Uuid.from16Bit, bigEndian16_ofBigEndian16,
      and_comm] using huu
  · rw [hw] at h h'
    obtain ⟨b0, b1, b2, b3, rfl⟩ := length_eq_four.1 h
    obtain ⟨b0', b1', b2', b3', rfl⟩ := length_eq_four.1 h'
    have huu := congrArg (fun u => u.uu.take 4) heq
    have hread : ∀ b0 b1 b2 b3 : UInt8, (uuidAt [b0, b1, b2, b3]).uu.take 4 =
        [b3, b2, b1, b0] := by
      intro b0 b1 b2 b3
      show (bigEndian32 _ ++ Uuid.baseTail).take 4 = _
      rw [bigEndian32_ofBigEndian32]
      rfl
    rw [hread, hread] at huu
    simpa [and_comm, and_left_comm, and_assoc] using huu
  · rw [hw] at h h'
    rw [← uuidAt_whole h, ← uuidAt_whole h', heq]

theorem uuidAt_eq_iff {bytes bytes' : List UInt8} (h : bytes.length = w.bytes)
    (h' : bytes'.length = w.bytes) : uuidAt bytes = uuidAt bytes' ↔ bytes = bytes' :=
  ⟨uuidAt_injective h h', congrArg uuidAt⟩

@[simp] theorem uuidsOf_length (n : Nat) (rest : List UInt8) : (uuidsOf w n rest).length = n := by
  induction n generalizing rest with
  | zero => rfl
  | succ n ih => rw [uuidsOf, length_cons, ih]

@[simp] theorem listed_length (n : Nat) (data : List UInt8) : (listed w n data).length = n := by
  induction n generalizing data with
  | zero => rfl
  | succ n ih => rw [listed, length_cons, ih]

/-- The UUIDs of the loop are those of the list, when the list has no bytes left over. -/
theorem uuidsOf_eq_listed_iff (h : data.length = w.bytes * n) :
    uuidsOf w n (data ++ after) = listed w n data ↔
      (after = [] → ∀ b ∈ data.drop (data.length - w.bytes), b = 0) := by
  induction n generalizing data with
  | zero =>
      obtain rfl := length_eq_zero_iff.1 (h.trans (Nat.mul_zero _))
      simp [uuidsOf, listed]
  | succ n ih =>
      have hw := w.pos
      rw [Nat.mul_succ] at h
      have hdrop : (data ++ after).drop w.bytes = data.drop w.bytes ++ after :=
        drop_append_of_le_length (by omega)
      have hlen : (data.drop w.bytes).length = w.bytes * n := by
        rw [length_drop]
        omega
      rw [uuidsOf, listed, hdrop, cons.injEq, ih hlen,
        uuidAt_eq_iff (extracted_length _ _) (length_take_of_le (by omega))]
      cases n with
      | zero =>
          rw [Nat.mul_zero, Nat.zero_add] at h
          have hnil : data.drop w.bytes = [] := drop_of_length_le (Nat.le_of_eq h)
          rw [← h, Nat.sub_self, drop_zero, take_length, extracted_eq_iff, h, hnil]
          simp
      | succ n =>
          have hmore : w.bytes < data.length := by
            rw [h, Nat.mul_succ]
            omega
          have hlast : (data.drop w.bytes).drop ((data.drop w.bytes).length - w.bytes) =
              data.drop (data.length - w.bytes) := by
            rw [drop_drop, length_drop]
            congr 1
            rw [Nat.mul_succ] at h
            omega
          rw [extracted_within hmore, hlast]
          exact and_iff_right rfl

theorem turns_eq_div_iff (w : Width) (n : Nat) : turns w n = n / w.bytes ↔ w.bytes ∣ n := by
  have hw := w.pos
  unfold turns
  constructor
  · intro h
    by_contra hdvd
    have hmod : 0 < n % w.bytes := Nat.pos_of_ne_zero fun h0 => hdvd (Nat.dvd_of_mod_eq_zero h0)
    have hsplit := Nat.div_add_mod n w.bytes
    have hlarge : n / w.bytes + 1 ≤ (n + w.bytes - 1) / w.bytes := by
      rw [Nat.le_div_iff_mul_le hw, Nat.succ_mul, Nat.mul_comm]
      omega
    omega
  · rintro ⟨k, rfl⟩
    rw [Nat.mul_div_cancel_left k hw]
    have hsplit : w.bytes * k + w.bytes - 1 = (w.bytes - 1) + w.bytes * k := by omega
    rw [hsplit, Nat.add_mul_div_left _ _ hw, Nat.div_eq_of_lt (by omega), Nat.zero_add]

/-- A list of UUIDs is read as it is. -/
theorem uuids_exact_iff :
    uuidsOf w (turns w data.length) (data ++ after) = listed w (data.length / w.bytes) data ↔
      w.bytes ∣ data.length ∧
        (after = [] → ∀ b ∈ data.drop (data.length - w.bytes), b = 0) := by
  constructor
  · intro h
    have hturns : turns w data.length = data.length / w.bytes := by
      have hlen := congrArg length h
      rwa [uuidsOf_length, listed_length] at hlen
    have hdvd := (turns_eq_div_iff w _).1 hturns
    rw [hturns] at h
    exact ⟨hdvd, (uuidsOf_eq_listed_iff (Nat.mul_div_cancel' hdvd).symm).1 h⟩
  · rintro ⟨hdvd, hlast⟩
    rw [(turns_eq_div_iff w _).2 hdvd]
    exact (uuidsOf_eq_listed_iff (Nat.mul_div_cancel' hdvd).symm).2 hlast

end Pieces

/-! ## One structure -/

section OneStructure

variable {kind : Kind} {data after rest : List UInt8} {vs : List Value} {n : Nat} {w : Width}

theorem map_serviceUuid_inj {us us' : List Uuid} :
    us.map Value.serviceUuid = us'.map Value.serviceUuid ↔ us = us' :=
  (map_injective_iff.2 fun _ _ => Value.serviceUuid.inj).eq_iff

theorem map_solicitationUuid_inj {us us' : List Uuid} :
    us.map Value.solicitationUuid = us'.map Value.solicitationUuid ↔ us = us' :=
  (map_injective_iff.2 fun _ _ => Value.solicitationUuid.inj).eq_iff

/-- Service data behind a whole UUID. -/
theorem serviceData_exact_iff (h : w.bytes ≤ data.length) :
    uuidAt (extracted (data ++ after) w.bytes) = uuidAt (data.take w.bytes) ∧
        extracted ((data ++ after).drop w.bytes) (data.length - w.bytes) = data.drop w.bytes ↔
      (after = [] → ∀ b ∈ (Kind.serviceData w).lastPiece data, b = 0) := by
  have hrest : extracted ((data ++ after).drop w.bytes) (data.length - w.bytes) =
      extracted (data.drop w.bytes ++ after) (data.drop w.bytes).length := by
    rw [drop_append_of_le_length h, length_drop]
  rw [hrest, uuidAt_eq_iff (extracted_length _ _) (length_take_of_le h), Kind.lastPiece]
  by_cases heq : data.length = w.bytes
  · have hnil : data.drop w.bytes = [] := drop_of_length_le (Nat.le_of_eq heq)
    have hzero : extracted after 0 = [] := length_eq_zero_iff.1 (extracted_length _ _)
    rw [if_pos heq, ← extracted_eq_iff, hnil, ← heq, take_length]
    exact and_iff_left hzero
  · rw [if_neg heq, extracted_eq_iff, extracted_within (by omega)]
    exact and_iff_right rfl

theorem readStructure_manufacturer (low high b : UInt8) :
    readStructure .manufacturer (low :: high :: b :: data ++ after)
        (low :: high :: b :: data).length =
      .ok [.manufacturer (high.toNat * 256 + low.toNat)
        (extracted (b :: data ++ after) (b :: data).length)] := by
  have hlt : ¬ (low :: high :: b :: data).length < 2 := by simp
  have hne : ¬ (low :: high :: b :: data).length = 2 := by simp
  unfold readStructure
  simp only [cons_append, if_neg hlt, if_neg hne]
  rfl

/-- Exactly the legible structures are read as they are. -/
theorem readStructure_ok_iff :
    readStructure kind (data ++ after) data.length = .ok (values kind data) ↔
      kind.Whole data ∧ (after = [] → ∀ b ∈ kind.lastPiece data, b = 0) := by
  cases kind with
  | flags =>
      cases data with
      | nil => cases after <;> simp [readStructure, values, Kind.Whole]
      | cons b data => simp [readStructure, values, Kind.Whole, Kind.lastPiece]
  | txPower =>
      cases data with
      | nil => cases after <;> simp [readStructure, values, Kind.Whole]
      | cons b data => simp [readStructure, values, Kind.Whole, Kind.lastPiece]
  | serviceUuids w =>
      rw [readStructure, values, Except.ok.injEq, map_serviceUuid_inj]
      exact uuids_exact_iff
  | solicitationUuids w =>
      rw [readStructure, values, Except.ok.injEq, map_solicitationUuid_inj]
      exact uuids_exact_iff
  | deviceName =>
      simp only [readStructure, values, Except.ok.injEq, cons.injEq, and_true,
        Value.deviceName.injEq, Kind.Whole, true_and]
      exact extracted_eq_iff
  | serviceData w =>
      rw [readStructure, values, Kind.Whole]
      by_cases hlt : data.length < w.bytes
      · rw [if_pos hlt, if_pos hlt]
        simp [Nat.not_le.2 hlt]
      · have hle := Nat.le_of_not_lt hlt
        rw [if_neg hlt, if_neg hlt, Except.ok.injEq, cons.injEq, Value.serviceData.injEq,
          serviceData_exact_iff hle]
        simp [hle]
  | manufacturer =>
      rcases data with _ | ⟨low, _ | ⟨high, _ | ⟨b, data⟩⟩⟩
      · rcases after with _ | ⟨_, _ | ⟨_, _⟩⟩
        · simp [readStructure, Kind.Whole]
        · simp [readStructure, Kind.Whole]
        · simp [readStructure, Kind.Whole]
      · cases after <;> simp [readStructure, Kind.Whole]
      · simp [readStructure, values, Kind.Whole]
      · have hdata := @extracted_eq_iff (b :: data) after
        rw [readStructure_manufacturer, values, Except.ok.injEq, cons.injEq,
          Value.manufacturer.injEq]
        simpa [Kind.Whole, Kind.lastPiece] using hdata
  | other => simp [readStructure, values, Kind.Whole, Kind.lastPiece]

/-- The parser keeps no id of a manufacturer without data. -/
theorem readStructure_not_hollow (h : readStructure kind rest n = .ok vs) (id : Nat) :
    Value.manufacturer id [] ∉ vs := by
  intro hmem
  unfold readStructure at h
  split at h
  · cases h
    simp at hmem
  · cases h
  · cases h
    simp at hmem
  · cases h
    simp at hmem
  · cases h
    simp at hmem
  · cases h
    simp at hmem
  · cases h
  · split at h
    · cases h
    · cases h
      simp at hmem
  · split at h
    · cases h
    · split at h
      · cases h
        simp at hmem
      · next h2 hn =>
          cases h
          obtain ⟨-, hdata⟩ := Value.manufacturer.inj (mem_singleton.1 hmem)
          have hlen := congrArg length hdata
          rw [extracted_length, length_nil] at hlen
          omega
  · cases h
  · cases h
    simp at hmem

/-- From a structure with any other value the parser takes no fewer values. -/
theorem readStructure_length
    (h : readStructure kind (data ++ after) data.length = .ok vs)
    (hhollow : ∀ id, Value.manufacturer id [] ∉ values kind data) :
    (values kind data).length ≤ vs.length := by
  cases kind with
  | flags =>
      cases data with
      | nil => exact Nat.zero_le _
      | cons b data =>
          cases h
          exact le_rfl
  | txPower =>
      cases data with
      | nil => exact Nat.zero_le _
      | cons b data =>
          cases h
          exact le_rfl
  | serviceUuids w =>
      cases h
      rw [values, length_map, length_map, listed_length, uuidsOf_length]
      exact Nat.div_le_div_right (by have := w.pos; omega)
  | solicitationUuids w =>
      cases h
      rw [values, length_map, length_map, listed_length, uuidsOf_length]
      exact Nat.div_le_div_right (by have := w.pos; omega)
  | deviceName =>
      cases h
      exact le_rfl
  | serviceData w =>
      rw [readStructure] at h
      split at h
      · cases h
      · next hlt =>
          cases h
          rw [values, if_neg hlt]
          exact le_rfl
  | manufacturer =>
      rcases data with _ | ⟨low, _ | ⟨high, _ | ⟨b, data⟩⟩⟩
      · exact Nat.zero_le _
      · exact Nat.zero_le _
      · exact absurd (mem_singleton.2 rfl) (hhollow _)
      · rw [readStructure_manufacturer] at h
        cases h
        exact le_rfl
  | other => exact Nat.zero_le _

/-- What makes the parser give up. -/
theorem readStructure_thrown_iff :
    readStructure kind rest n = .error .thrown ↔
      (∃ w, kind = .serviceData w ∧ n < w.bytes) ∨
        (kind = .manufacturer ∧ n < 2 ∧ 2 ≤ rest.length) := by
  cases kind with
  | flags => cases rest <;> simp [readStructure]
  | txPower => cases rest <;> simp [readStructure]
  | serviceUuids w => simp [readStructure]
  | solicitationUuids w => simp [readStructure]
  | deviceName => simp [readStructure]
  | serviceData w =>
      rw [readStructure]
      by_cases hlt : n < w.bytes
      · rw [if_pos hlt]
        simp [hlt]
      · rw [if_neg hlt]
        simp [hlt]
  | manufacturer =>
      rcases rest with _ | ⟨low, _ | ⟨high, rest⟩⟩
      · simp [readStructure]
      · simp [readStructure]
      · by_cases hlt : n < 2
        · simp [readStructure, hlt]
        · by_cases htwo : n = 2
          · simp [readStructure, htwo]
          · simp [readStructure, hlt, htwo]
  | other => simp [readStructure]

/-- Bytes outside of the record are read at its end only. -/
theorem length_of_readStructure_fault {f : Fault}
    (h : readStructure kind rest n = .error (.fault f)) : rest.length < 2 := by
  unfold readStructure at h
  split at h
  all_goals try cases h
  · exact Nat.zero_lt_two
  · exact Nat.zero_lt_two
  · split at h <;> cases h
  · split at h
    · cases h
    · split at h <;> cases h
  · next hshort =>
      match rest with
      | [] => exact Nat.zero_lt_two
      | [_] => exact Nat.one_lt_two
      | low :: high :: rest => exact (hshort low high rest rfl).elim

/-- A truncated structure has no value only if its type is skipped. -/
theorem readStructure_truncated_iff (h : rest.length < n) :
    readStructure kind rest n = .ok [] ↔ kind = .other := by
  have hturns : ∀ w, turns w n ≠ 0 := by
    intro w
    rw [turns_eq (by omega)]
    exact Nat.succ_ne_zero _
  cases kind with
  | flags => cases rest <;> simp [readStructure]
  | txPower => cases rest <;> simp [readStructure]
  | serviceUuids w =>
      have hlen := @uuidsOf_length w (turns w n) rest
      simp only [readStructure, Except.ok.injEq, map_eq_nil_iff, reduceCtorEq, iff_false]
      intro hnil
      rw [hnil] at hlen
      exact hturns w hlen.symm
  | solicitationUuids w =>
      have hlen := @uuidsOf_length w (turns w n) rest
      simp only [readStructure, Except.ok.injEq, map_eq_nil_iff, reduceCtorEq, iff_false]
      intro hnil
      rw [hnil] at hlen
      exact hturns w hlen.symm
  | deviceName => simp [readStructure]
  | serviceData w =>
      rw [readStructure]
      split <;> simp
  | manufacturer =>
      rcases rest with _ | ⟨low, _ | ⟨high, rest⟩⟩
      · simp [readStructure]
      · simp [readStructure]
      · have hthree : ¬ n < 2 ∧ ¬ n = 2 := by
          simp only [length_cons] at h
          omega
        simp [readStructure, hthree]
  | other => simp [readStructure]

end OneStructure

end Gatt.ScanRecord
