import BtPlatform.Gatt.Record.Exact
import BtPlatform.Gatt.Scan.Deliver
import BtPlatform.Gatt.Uuid.Text

/-!
# Service UUIDs of an advertisement

Every UUID that `parseUuids` finds is the base UUID, whatever its value, since the text that
is made for it is not that of a UUID. What is left to say is how many it finds, and whether
it finds them inside the data.
-/

namespace Gatt.Scan

open Support ScanRecord List

/-! ## The text of a UUID -/

/-! ## What is advertised -/

/-- The values of sixteen bits in the data of a structure. -/
def values16 : List UInt8 → List Nat
  | low :: high :: data => (low.toNat + high.toNat * 256) :: values16 data
  | _ => []

/-- The structure lists UUIDs of sixteen bits. -/
def listsUuids16 (type : UInt8) : Bool := type = 0x02 ∨ type = 0x03

/-- The values listed in the complete structures of some bytes. -/
def listed16 (ps : List Structure) : List Nat :=
  ps.flatMap fun p => if listsUuids16 p.type then values16 p.data else []

/-- The UUIDs that an advertisement lists. -/
def advertised (advData : List UInt8) : List Uuid :=
  (listed16 (structures advData)).map Uuid.from16Bit

variable {F : Type}

/-- A client restricted to UUIDs is offered the advertisement. -/
def Offered (client : ResultClient F) (advData : List UInt8) : Prop :=
  ∃ remoteUuids, parseUuids advData = .ok remoteUuids ∧ uuidMatches client remoteUuids = true

/-- The UUIDs are extracted exactly, and decide which restricted clients are offered the
advertisement. -/
structure UuidsExact (advData : List UInt8) : Prop where
  parsed : parseUuids advData = .ok (advertised advData)
  offered : ∀ (F : Type) (client : ResultClient F), client.uuids ≠ [] →
    (Offered client advData ↔ ∀ u ∈ client.uuids, u ∈ advertised advData)

/-! ## Where the reader looks -/

/-- How many pairs of bytes the reader comes across on its way from length to length, where
it takes a pair for every two that a length begins; `none` if it looks outside the data. It
gives up two bytes before the end. -/
def pairsFrom : Nat → List UInt8 → Option Nat
  | 0, _ => some 0
  | fuel + 1, length :: type :: data =>
      if data = [] ∨ length = 0 then some 0
      else if listsUuids16 type then
        if data.length < length.toNat / 2 * 2 then none
        else (pairsFrom fuel (data.drop (length.toNat / 2 * 2))).map (length.toNat / 2 + ·)
      else pairsFrom fuel (data.drop (length.toNat - 1))
  | _ + 1, _ => some 0

/-- With a single byte the way does not end before the bytes. -/
def pairsRead : List UInt8 → Option Nat
  | [length] => if length = 0 then some 0 else none
  | advData => pairsFrom (advData.length + 1) advData

section Reader

variable {advData : List UInt8} {fuel offset n : Nat} {uuids : List Uuid}

theorem readUuids16_eq : readUuids16 advData n offset uuids =
    if n = 0 ∨ offset + n * 2 ≤ advData.length then .ok (uuids ++ replicate n uuidBase)
    else .error .outOfBounds := by
  induction n generalizing offset uuids with
  | zero => rw [if_pos (.inl rfl), replicate_zero, append_nil, readUuids16]
  | succ n ih =>
      rw [readUuids16]
      by_cases hroom : offset + 1 < advData.length
      · rw [if_pos hroom, ih, append_assoc, singleton_append, ← replicate_succ]
        congr 1
        apply propext
        omega
      · rw [if_neg hroom, if_neg (by omega)]

/-- The loop adds a base UUID for every pair. -/
theorem parseUuidsFrom_eq (hlength : 2 ≤ advData.length)
    (hfuel : advData.length - offset < fuel) :
    parseUuidsFrom advData fuel offset uuids =
      match pairsFrom fuel (advData.drop offset) with
      | some n => .ok (uuids ++ replicate n uuidBase)
      | none => .error .outOfBounds := by
  induction fuel generalizing offset uuids with
  | zero => exact absurd hfuel (Nat.not_lt_zero _)
  | succ fuel ih =>
      have hrest := length_drop (i := offset) (l := advData)
      have hfirst : advData[offset]? = (advData.drop offset)[0]? := by
        rw [getElem?_drop, Nat.add_zero]
      have hsecond : advData[offset + 1]? = (advData.drop offset)[1]? := by
        rw [getElem?_drop]
      rw [parseUuidsFrom]
      match hdrop : advData.drop offset with
      | [] | [_] | [_, _] =>
          rw [hdrop] at hrest
          simp only [length_cons, length_nil] at hrest
          rw [if_neg (by omega)]
          simp [pairsFrom]
      | length :: type :: b :: data =>
          rw [hdrop] at hrest hfirst hsecond
          simp only [length_cons] at hrest
          rw [if_pos (by omega), hfirst, hsecond]
          dsimp only [getElem?_cons_zero, getElem?_cons_succ]
          rw [pairsFrom]
          by_cases hzero : length = 0
          · rw [if_pos hzero, if_pos (.inr hzero)]
            simp
          · rw [if_neg hzero, if_neg (not_or.2 ⟨cons_ne_nil b data, hzero⟩)]
            -- the rest behind the bytes that a turn takes
            have hdrop' : ∀ k, advData.drop (offset + 2 + k) = (b :: data).drop k := by
              intro k
              rw [Nat.add_assoc, ← drop_drop, hdrop, ← drop_drop]
              rfl
            by_cases htype : type = 0x02 ∨ type = 0x03
            · have hlists : listsUuids16 type = true := decide_eq_true htype
              rw [if_pos htype, if_pos hlists, readUuids16_eq]
              have hlength' : (b :: data).length = data.length + 1 := rfl
              by_cases hroom : (b :: data).length < length.toNat / 2 * 2
              · rw [if_pos hroom, if_neg (by omega)]
              · have hinside : offset + 2 + length.toNat / 2 * 2 ≤ advData.length := by omega
                rw [if_pos (.inr hinside), if_neg hroom]
                dsimp only
                rw [ih (by omega), hdrop']
                cases pairsFrom fuel ((b :: data).drop (length.toNat / 2 * 2)) with
                | none => rfl
                | some n =>
                    show Except.ok _ = Except.ok _
                    rw [append_assoc, replicate_append_replicate]
            · have hlists : listsUuids16 type = false := decide_eq_false htype
              rw [if_neg htype, hlists, if_neg Bool.false_ne_true, ih (by omega), hdrop']

theorem parseUuids_eq (advData : List UInt8) : parseUuids advData =
    match pairsRead advData with
    | some n => .ok (replicate n uuidBase)
    | none => .error .outOfBounds := by
  match advData with
  | [] => rfl
  | [length] =>
      by_cases hzero : length = 0
      · subst hzero
        rfl
      · have hpairs : pairsRead [length] = none := if_neg hzero
        unfold parseUuids
        rw [hpairs, if_neg (cons_ne_nil _ _), parseUuidsFrom, if_pos (.inl (by simp))]
        dsimp only [getElem?_cons_zero, getElem?_cons_succ, getElem?_nil]
        rw [if_neg hzero]
  | length :: type :: data =>
      unfold parseUuids
      rw [if_neg (cons_ne_nil _ _), parseUuidsFrom_eq (by simp) (by omega), drop_zero]
      rfl

/-! ## Whole structures -/

end Reader

/-! ## Which UUIDs are extracted -/

theorem values16_lt {data : List UInt8} {x : Nat} (h : x ∈ values16 data) : x < 65536 := by
  induction data using values16.induct with
  | case1 low high data ih =>
      rcases mem_cons.1 h with rfl | h
      · have hlow := low.toNat_lt
        have hhigh := high.toNat_lt
        omega
      · exact ih h
  | case2 data hdata =>
      rw [values16] at h
      · cases h
      · exact hdata

theorem listed16_lt {ps : List Structure} {x : Nat} (h : x ∈ listed16 ps) : x < 65536 := by
  obtain ⟨p, -, hx⟩ := mem_flatMap.1 h
  split at hx
  · exact values16_lt hx
  · cases hx

/-- The base UUID is that of the value zero. -/
theorem from16Bit_eq_base_iff {x : Nat} (hx : x < 65536) : Uuid.from16Bit x = uuidBase ↔ x = 0 := by
  constructor
  · intro h
    rw [← Uuid.as16Bit_from16Bit hx, h]
    rfl
  · rintro rfl
    rfl

theorem uuidMatches_iff {client : ResultClient F} {remoteUuids : List Uuid}
    (h : client.uuids ≠ []) :
    uuidMatches client remoteUuids = true ↔ ∀ u ∈ client.uuids, u ∈ remoteUuids := by
  have hempty : client.uuids.isEmpty = false := isEmpty_eq_false_iff.2 h
  have hle := length_filter_le (fun search => remoteUuids.contains search) client.uuids
  unfold uuidMatches
  rw [hempty, Bool.false_or, Bool.not_eq_true', decide_eq_false_iff_not, Nat.not_lt]
  constructor
  · intro hall u hu
    have hsame := Nat.le_antisymm hle hall
    exact contains_iff_mem.1 (length_filter_eq_length_iff.1 hsame u hu)
  · intro hall
    refine Nat.le_of_eq (length_filter_eq_length_iff.2 fun u hu => ?_).symm
    exact contains_iff_mem.2 (hall u hu)

/-- Extracted exactly, the UUIDs decide which clients are offered the advertisement. -/
theorem offered_of_parsed {advData : List UInt8} {client : ResultClient F}
    (hparsed : parseUuids advData = .ok (advertised advData)) (h : client.uuids ≠ []) :
    Offered client advData ↔ ∀ u ∈ client.uuids, u ∈ advertised advData := by
  rw [← uuidMatches_iff h]
  constructor
  · rintro ⟨remoteUuids, hremote, hmatches⟩
    obtain rfl := Except.ok.inj (hparsed.symm.trans hremote)
    exact hmatches
  · intro hmatches
    exact ⟨advertised advData, hparsed, hmatches⟩

theorem parsed_iff (advData : List UInt8) : parseUuids advData = .ok (advertised advData) ↔
    (∀ x ∈ listed16 (structures advData), x = 0) ∧
      pairsRead advData = some (listed16 (structures advData)).length := by
  have hzero : (∀ u ∈ advertised advData, u = uuidBase) ↔
      ∀ x ∈ listed16 (structures advData), x = 0 := by
    unfold advertised
    rw [forall_mem_map]
    exact forall₂_congr fun x hx => from16Bit_eq_base_iff (listed16_lt hx)
  have hlength : (advertised advData).length = (listed16 (structures advData)).length :=
    length_map _
  rw [parseUuids_eq, ← hzero, ← hlength]
  cases pairsRead advData with
  | none =>
      constructor
      · intro h
        cases h
      · rintro ⟨-, h⟩
        cases h
  | some n =>
      dsimp only
      rw [Except.ok.injEq, Option.some.injEq, eq_comm, eq_replicate_iff, and_comm,
        eq_comm (a := n)]

/-- One structure, which lists the UUID `0x180D`. -/
def heartRateData : List UInt8 := [3, 3, 0x0D, 0x18]

end Gatt.Scan
