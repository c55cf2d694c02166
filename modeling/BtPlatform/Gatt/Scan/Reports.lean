import BtPlatform.Gatt.Scan.Record

/-!
# Batch scan reports

A batch scan report is a number of records in one vector of bytes. A truncated record has
a fixed size; a full record also has the advertising data and the scan response, each
behind a byte with its length.
-/

namespace Gatt.Reports

open Support List

/-! ## The decoder -/

/-- Why the decoder has no meaning. -/
inductive Failure where
  /-- a read outside the vector -/
  | outOfBounds
  /-- a position outside the range of `int` -/
  | signedOverflow
  /-- the parser of scan records runs into a fault -/
  | record (f : Fault)
  deriving DecidableEq, Repr

/-- A `ScanResult` of a batch scan. What else it holds is constant. -/
structure BatchResult where
  deviceAddress : List UInt8
  scanRecord : Option ScanRecord
  rssi : Int

def TRUNCATED_RESULT_SIZE : Nat := 11

def INT_MAX : Nat := 2147483647

/-- The value of a sum or product of type `int`. -/
def int (n : Nat) : Except Failure Nat :=
  if n ≤ INT_MAX then .ok n else .error .signedOverflow

/-- `batchRecord[position]`. -/
def byteAt (batchRecord : List UInt8) (position : Nat) : Except Failure UInt8 :=
  match batchRecord[position]? with
  | some b => .ok b
  | none => .error .outOfBounds

/-- `GattLibService::extractBytes`: zeros, unless the bytes end before the end of the
vector. -/
def extractBytes (scanRecord : List UInt8) (start length : Nat) : Except Failure (List UInt8) :=
  if length > 0 then do
    let stop ← int (length + start)
    if stop < scanRecord.length then return (scanRecord.drop start).take length
    else return replicate length 0
  else .ok []

/-- One turn of the loop of `reverse`. -/
def exchange (address : List UInt8) (i : Nat) : List UInt8 :=
  let j := address.length - 1 - i
  (address.set i (address.getD j 0)).set j (address.getD i 0)

def reverse (address : List UInt8) : List UInt8 :=
  (range (address.length / 2)).foldl exchange address

/-- `ScanRecord::parseFromBytes`. -/
def parseRecord (scanRecord : List UInt8) : Except Failure (Option ScanRecord) :=
  match ScanRecord.parseFromBytes scanRecord with
  | .ok record => .ok record
  | .error f => .error (.record f)

/-- One turn of the loop of `parseTruncatedResults`. -/
def truncatedResult (batchRecord : List UInt8) (i : Nat) : Except Failure BatchResult := do
  let start ← int (i * TRUNCATED_RESULT_SIZE)
  let record ← extractBytes batchRecord start TRUNCATED_RESULT_SIZE
  let address ← extractBytes record 0 6
  let rssi ← byteAt record 8
  let scanRecord ← parseRecord []
  return ⟨reverse address, scanRecord, rssi.toNat⟩

/-- The loop of `parseTruncatedResults` from `i` on, with its number of turns. -/
def truncatedResults (batchRecord : List UInt8) : Nat → Nat → Except Failure (List BatchResult)
  | 0, _ => .ok []
  | n + 1, i => do
      let result ← truncatedResult batchRecord i
      let results ← truncatedResults batchRecord n (i + 1)
      return result :: results

/-- `GattLibService::parseTruncatedResults`. The results are distinct objects; `none` stands
for the exception of a set that is to be made with a negative number of buckets. -/
def parseTruncatedResults (numRecords : Int) (batchRecord : List UInt8) :
    Except Failure (Option (List BatchResult)) :=
  if numRecords < 0 then .ok none
  else return some (← truncatedResults batchRecord numRecords.toNat 0)

/-- One turn of the loop of `parseFullResults`. The combined record is inserted before the
zeros with which its vector is made. -/
def fullResult (batchRecord : List UInt8) (position : Nat) :
    Except Failure (BatchResult × Nat) := do
  let address ← extractBytes batchRecord position 6
  -- the address, its type and the power level
  let position ← int (position + 6 + 1 + 1)
  let rssi ← byteAt batchRecord position
  let position ← int (position + 1 + 2)
  let advertisePacketLen ← byteAt batchRecord position
  let position ← int (position + 1)
  let advertiseBytes ← extractBytes batchRecord position advertisePacketLen.toNat
  let position ← int (position + advertisePacketLen.toNat)
  let scanResponsePacketLen ← byteAt batchRecord position
  let position ← int (position + 1)
  let scanResponseBytes ← extractBytes batchRecord position scanResponsePacketLen.toNat
  let position ← int (position + scanResponsePacketLen.toNat)
  let scanRecord ← parseRecord (advertiseBytes ++ scanResponseBytes ++
    replicate (advertisePacketLen.toNat + scanResponsePacketLen.toNat) 0)
  return (⟨reverse address, scanRecord, rssi.toNat⟩, position)

/-- The loop of `parseFullResults` from a position on, with its number of turns. -/
def fullResults (batchRecord : List UInt8) : Nat → Nat → Except Failure (List BatchResult)
  | 0, _ => .ok []
  | n + 1, position => do
      let (result, position) ← fullResult batchRecord position
      let results ← fullResults batchRecord n position
      return result :: results

/-- `GattLibService::parseFullResults`, with the same exception. -/
def parseFullResults (numRecords : Int) (batchRecord : List UInt8) :
    Except Failure (Option (List BatchResult)) :=
  if numRecords < 0 then .ok none
  else return some (← fullResults batchRecord numRecords.toNat 0)

/-! ## Reports as they should be -/

/-- A truncated record, and the first part of a full one. The address has its low byte
first, and the strength of the signal is a signed byte. -/
structure Truncated where
  address : List UInt8
  addressType : UInt8
  txPower : UInt8
  rssi : Int8
  timestamp : UInt8 × UInt8
  length_address : address.length = 6

/-- A full record. -/
structure Full extends Truncated where
  advertising : List UInt8
  scanResponse : List UInt8
  advertising_lt : advertising.length < 256
  scanResponse_lt : scanResponse.length < 256

def Truncated.encode (r : Truncated) : List UInt8 :=
  r.address ++ [r.addressType, r.txPower, r.rssi.toUInt8, r.timestamp.1, r.timestamp.2]

def Full.encode (r : Full) : List UInt8 :=
  r.toTruncated.encode ++ UInt8.ofNat r.advertising.length :: r.advertising ++
    UInt8.ofNat r.scanResponse.length :: r.scanResponse

/-- The result is that of the record: the reversed address, the strength of the signal,
and what the parser makes of the given bytes and nothing else. -/
structure Shows (r : Truncated) (bytes : List UInt8) (result : BatchResult) : Prop where
  deviceAddress : result.deviceAddress = r.address.reverse
  scanRecord : ScanRecord.parseFromBytes bytes = .ok result.scanRecord
  rssi : result.rssi = r.rssi.toInt

/-- The decoder ends, and reads inside the vector. -/
def Inside (x : Except Failure (Option (List BatchResult))) : Prop := ∃ results, x = .ok results

/-- Truncated reports are decoded exactly. -/
structure TruncatedExact (numRecords : Int) (batchRecord : List UInt8) : Prop where
  inside : Inside (parseTruncatedResults numRecords batchRecord)
  decodes : ∀ records : List Truncated, numRecords = records.length →
    batchRecord = records.flatMap Truncated.encode →
      ∃ results, parseTruncatedResults numRecords batchRecord = .ok (some results) ∧
        List.Forall₂ (fun r result => Shows r [] result) records results

/-- Full reports are decoded exactly. -/
structure FullExact (numRecords : Int) (batchRecord : List UInt8) : Prop where
  inside : Inside (parseFullResults numRecords batchRecord)
  decodes : ∀ records : List Full, numRecords = records.length →
    batchRecord = records.flatMap Full.encode →
      ∃ results, parseFullResults numRecords batchRecord = .ok (some results) ∧
        List.Forall₂ (fun r result =>
          Shows r.toTruncated (r.advertising ++ r.scanResponse) result) records results

/-! ## Where they are decoded exactly -/

/-- The length of the full record at the beginning, by the bytes that tell its lengths. -/
def recordLength (rest : List UInt8) : Option Nat := do
  let advertisePacketLen ← rest[11]?
  let scanResponsePacketLen ← rest[12 + advertisePacketLen.toNat]?
  return 13 + advertisePacketLen.toNat + scanResponsePacketLen.toNat

/-- The length of so many full records. -/
def reportLength : Nat → List UInt8 → Option Nat
  | 0, _ => some 0
  | n + 1, rest => do
      let length ← recordLength rest
      let lengths ← reportLength n (rest.drop length)
      return length + lengths

/-- The bytes that tell the lengths are inside the vector, and so is every position
inside the range of `int`. -/
def Covered (numRecords : Int) (batchRecord : List UInt8) : Prop :=
  numRecords < 0 ∨
    ∃ length, reportLength numRecords.toNat batchRecord = some length ∧ length ≤ INT_MAX

/-- No signal is weaker than the unsigned byte can tell, and the last record, which the
decoder does not reach, is of zeros. -/
structure Truncated.Plain (records : List Truncated) : Prop where
  rssi : ∀ r ∈ records, 0 ≤ r.rssi.toInt
  last : ∀ r ∈ records.getLast?, r.address = replicate 6 0 ∧ r.rssi = 0

/-- No record has advertising bytes or a scan response. -/
def Full.Plain (records : List Full) : Prop :=
  ∀ r ∈ records, 0 ≤ r.rssi.toInt ∧ r.advertising = [] ∧ r.scanResponse = []

/-! ## The parts of a turn -/

theorem int_eq_ok {n m : Nat} : int n = .ok m ↔ n ≤ INT_MAX ∧ m = n := by
  unfold int
  split
  · next h =>
    rw [Except.ok.injEq]
    exact ⟨fun heq => ⟨h, heq.symm⟩, fun heq => heq.2.symm⟩
  · next h =>
    constructor
    · intro heq
      cases heq
    · rintro ⟨hle, -⟩
      exact absurd hle h

theorem int_ok {n : Nat} (h : n ≤ INT_MAX) : int n = .ok n := if_pos h

theorem byteAt_eq_ok {v : List UInt8} {position : Nat} {b : UInt8} :
    byteAt v position = .ok b ↔ v[position]? = some b := by
  unfold byteAt
  cases v[position]? with
  | none =>
      constructor
      · intro h
        cases h
      · intro h
        cases h
  | some c =>
      rw [Except.ok.injEq, Option.some.injEq]

variable {length : Nat} {bytes : List UInt8}

/-- Any bytes are extracted as far as `int` reaches. -/
theorem extractBytes_ok {v : List UInt8} {start : Nat} (h : start + length ≤ INT_MAX) :
    ∃ bytes, extractBytes v start length = .ok bytes := by
  unfold extractBytes
  split
  · rw [int, if_pos (by omega)]
    by_cases hstop : length + start < v.length
    · exact ⟨_, if_pos hstop⟩
    · exact ⟨_, if_neg hstop⟩
  · exact ⟨[], rfl⟩

theorem extractBytes_bound {v : List UInt8} {start : Nat} (hpos : 0 < length)
    (h : extractBytes v start length = .ok bytes) : start + length ≤ INT_MAX := by
  unfold extractBytes at h
  rw [if_pos hpos] at h
  obtain ⟨stop, hstop, -⟩ := bind_eq_ok.1 h
  have hle := (int_eq_ok.1 hstop).1
  omega

theorem length_extractBytes {v : List UInt8} {start : Nat}
    (h : extractBytes v start length = .ok bytes) : bytes.length = length := by
  unfold extractBytes at h
  split at h
  · obtain ⟨stop, hstop, h⟩ := bind_eq_ok.1 h
    obtain ⟨-, rfl⟩ := int_eq_ok.1 hstop
    split at h
    · next hroom =>
      obtain rfl := Except.ok.inj h
      rw [length_take, length_drop]
      omega
    · obtain rfl := Except.ok.inj h
      exact length_replicate
  · next hlength =>
    obtain rfl := Except.ok.inj h
    exact (Nat.eq_zero_of_not_pos hlength).symm

/-- A piece that ends before the end of the vector. -/
theorem extractBytes_within {before after : List UInt8} (hafter : after ≠ [])
    (h : before.length + bytes.length ≤ INT_MAX) :
    extractBytes (before ++ (bytes ++ after)) before.length bytes.length = .ok bytes := by
  unfold extractBytes
  split
  · rw [int, if_pos (by omega)]
    have hpos := length_pos_iff.2 hafter
    have hstop : bytes.length + before.length < (before ++ (bytes ++ after)).length := by
      rw [length_append, length_append]
      omega
    rw [ok_bind, if_pos hstop, drop_left, take_left]
    rfl
  · next hlength =>
    rw [length_eq_zero_iff.1 (Nat.eq_zero_of_not_pos hlength)]

/-- A piece that ends with the vector. -/
theorem extractBytes_last {before : List UInt8} (h : before.length + bytes.length ≤ INT_MAX) :
    extractBytes (before ++ bytes) before.length bytes.length =
      .ok (replicate bytes.length 0) := by
  unfold extractBytes
  split
  · rw [int, if_pos (by omega)]
    have hstop : ¬ bytes.length + before.length < (before ++ bytes).length := by
      rw [length_append]
      omega
    rw [ok_bind, if_neg hstop]
    rfl
  · next hlength =>
    rw [length_eq_zero_iff.1 (Nat.eq_zero_of_not_pos hlength)]
    rfl

theorem length_exchange {address : List UInt8} {i : Nat} :
    (exchange address i).length = address.length := by
  unfold exchange
  rw [length_set, length_set]

theorem getD_exchange {address : List UInt8} {i k : Nat} (hi : i < address.length)
    (hk : k < address.length) : (exchange address i).getD k 0 =
      if k = address.length - 1 - i then address.getD i 0
      else if k = i then address.getD (address.length - 1 - i) 0 else address.getD k 0 := by
  unfold exchange
  rw [getD_eq_getElem?_getD, getElem?_set, getElem?_set, length_set]
  by_cases hlast : k = address.length - 1 - i
  · rw [if_pos hlast, if_pos hlast.symm, if_pos (by omega)]
    rfl
  · rw [if_neg hlast, if_neg (Ne.symm hlast)]
    by_cases hfirst : k = i
    · rw [if_pos hfirst, if_pos hfirst.symm, if_pos hi]
      rfl
    · rw [if_neg hfirst, if_neg (Ne.symm hfirst), getD_eq_getElem?_getD]

/-- After so many exchanges the ends have changed places. -/
theorem foldl_exchange {address : List UInt8} {n : Nat} (hn : n ≤ address.length / 2) :
    ((range n).foldl exchange address).length = address.length ∧
      ∀ k < address.length, ((range n).foldl exchange address).getD k 0 =
        if k < n ∨ address.length - 1 - k < n then address.getD (address.length - 1 - k) 0
        else address.getD k 0 := by
  induction n with
  | zero =>
      refine ⟨rfl, fun k _ => ?_⟩
      rw [if_neg (by omega)]
      rfl
  | succ n ih =>
      obtain ⟨hlength, hget⟩ := ih (by omega)
      rw [range_succ, foldl_append, foldl_cons, foldl_nil]
      refine ⟨length_exchange.trans hlength, fun k hk => ?_⟩
      have hfirst := hget n (by omega)
      have hlast := hget (address.length - 1 - n) (by omega)
      rw [if_neg (by omega)] at hfirst hlast
      rw [getD_exchange (by omega) (by omega), hlength, hfirst, hlast, hget k hk]
      by_cases hk₁ : k = address.length - 1 - n
      · rw [if_pos hk₁, if_pos (by omega)]
        congr 1
        omega
      · rw [if_neg hk₁]
        by_cases hk₂ : k = n
        · rw [if_pos hk₂, if_pos (by omega), hk₂]
        · rw [if_neg hk₂]
          congr 1
          apply propext
          omega

theorem reverse_eq (address : List UInt8) : reverse address = address.reverse := by
  obtain ⟨hlength, hget⟩ := foldl_exchange le_rfl
  apply ext_getElem
  · rw [length_reverse]
    exact hlength
  · intro k hk hk'
    rw [length_reverse] at hk'
    have hk₁ := hget k hk'
    rw [getElem_reverse, getElem_eq_getD 0, getElem_eq_getD 0]
    refine hk₁.trans ?_
    split
    · rfl
    · next hmiddle =>
      congr 1
      omega

/-! ## Truncated reports -/

section Turns

variable {v before after : List UInt8} {position n i : Nat}

theorem Truncated.length_encode (r : Truncated) : r.encode.length = TRUNCATED_RESULT_SIZE := by
  unfold Truncated.encode
  rw [length_append, r.length_address]
  rfl

theorem Truncated.encode_rssi (r : Truncated) : r.encode[8]? = some r.rssi.toUInt8 := by
  unfold Truncated.encode
  rw [getElem?_append_right (by rw [r.length_address]; decide), r.length_address]
  rfl

/-- The unsigned byte tells the strength of a signal that is not negative. -/
theorem rssi_eq_iff (rssi : Int8) : (rssi.toUInt8.toNat : Int) = rssi.toInt ↔ 0 ≤ rssi.toInt := by
  have hcases := BitVec.toInt_eq_toNat_cond rssi.toBitVec
  rw [Int8.toNat_toBitVec] at hcases
  have hlt : rssi.toUInt8.toNat < 256 := rssi.toUInt8.toNat_lt
  change rssi.toInt = _ at hcases
  split at hcases
  · omega
  · omega

/-- What a turn makes of its eleven bytes. -/
theorem truncatedResult_eq {record : List UInt8}
    (h : extractBytes v (i * TRUNCATED_RESULT_SIZE) TRUNCATED_RESULT_SIZE = .ok record) :
    ∃ rssi, record[8]? = some rssi ∧
      truncatedResult v i = .ok ⟨(record.take 6).reverse, none, rssi.toNat⟩ := by
  have hlength : record.length = 11 := length_extractBytes h
  have hbound : i * TRUNCATED_RESULT_SIZE + 11 ≤ INT_MAX := extractBytes_bound (by decide) h
  have haddress : extractBytes record 0 6 = .ok (record.take 6) := by
    unfold extractBytes
    rw [if_pos (by decide), int, if_pos (by decide), ok_bind, if_pos (by omega)]
    rfl
  have hrssi : byteAt record 8 = .ok record[8] :=
    byteAt_eq_ok.2 (getElem?_eq_getElem (by omega))
  refine ⟨record[8], getElem?_eq_getElem (by omega), ?_⟩
  unfold truncatedResult
  rw [int, if_pos (by omega), ok_bind, h, ok_bind, haddress, ok_bind, hrssi, ok_bind, reverse_eq]
  rfl

theorem truncatedResult_ok_iff : (∃ result, truncatedResult v i = .ok result) ↔
    (i + 1) * TRUNCATED_RESULT_SIZE ≤ INT_MAX := by
  have hsize : (i + 1) * TRUNCATED_RESULT_SIZE = i * TRUNCATED_RESULT_SIZE + 11 :=
    Nat.succ_mul i TRUNCATED_RESULT_SIZE
  rw [hsize]
  constructor
  · rintro ⟨result, h⟩
    obtain ⟨start, hstart, h⟩ := bind_eq_ok.1 h
    obtain ⟨-, rfl⟩ := int_eq_ok.1 hstart
    obtain ⟨record, hrecord, -⟩ := bind_eq_ok.1 h
    exact extractBytes_bound (by decide) hrecord
  · intro hle
    obtain ⟨record, hrecord⟩ := extractBytes_ok (v := v) hle
    obtain ⟨rssi, -, hresult⟩ := truncatedResult_eq hrecord
    exact ⟨_, hresult⟩

/-- The loop ends where its last position is in the range of `int`. -/
theorem truncatedResults_ok_iff : (∃ results, truncatedResults v n i = .ok results) ↔
    n = 0 ∨ (i + n) * TRUNCATED_RESULT_SIZE ≤ INT_MAX := by
  induction n generalizing i with
  | zero => exact ⟨fun _ => .inl rfl, fun _ => ⟨[], rfl⟩⟩
  | succ n ih =>
      have hturns : i + 1 + n = i + (n + 1) := by omega
      constructor
      · rintro ⟨results, h⟩
        obtain ⟨result, hresult, h⟩ := bind_eq_ok.1 h
        obtain ⟨rest, hrest, -⟩ := bind_eq_ok.1 h
        right
        rcases ih.1 ⟨rest, hrest⟩ with rfl | hle
        · exact truncatedResult_ok_iff.1 ⟨result, hresult⟩
        · rwa [hturns] at hle
      · rintro (hzero | hle)
        · cases hzero
        · have hfirst : (i + 1) * TRUNCATED_RESULT_SIZE ≤ INT_MAX :=
            Nat.le_trans (Nat.mul_le_mul_right _ (by omega)) hle
          obtain ⟨result, hresult⟩ := truncatedResult_ok_iff.2 hfirst
          obtain ⟨rest, hrest⟩ := ih.2 (.inr (by rw [hturns]; exact hle))
          exact ⟨result :: rest, by rw [truncatedResults, hresult, ok_bind, hrest]; rfl⟩

theorem inside_truncated_iff {numRecords : Int} : Inside (parseTruncatedResults numRecords v) ↔
    numRecords * TRUNCATED_RESULT_SIZE ≤ INT_MAX := by
  unfold Inside parseTruncatedResults
  by_cases hnegative : numRecords < 0
  · rw [if_pos hnegative]
    refine ⟨fun _ => ?_, fun _ => ⟨none, rfl⟩⟩
    unfold TRUNCATED_RESULT_SIZE INT_MAX
    omega
  · rw [if_neg hnegative]
    have hok := truncatedResults_ok_iff (v := v) (n := numRecords.toNat) (i := 0)
    unfold TRUNCATED_RESULT_SIZE INT_MAX at *
    constructor
    · rintro ⟨results, h⟩
      obtain ⟨rest, hrest, -⟩ := bind_eq_ok.1 h
      have hbound := hok.1 ⟨rest, hrest⟩
      omega
    · intro hbound
      obtain ⟨rest, hrest⟩ := hok.2 (by omega)
      exact ⟨some rest, by rw [hrest]; rfl⟩

/-- A turn at a truncated record shows it if there is more behind it. At the end of the
vector it finds zeros. -/
theorem truncatedResult_encode (r : Truncated) (before after : List UInt8)
    (hbefore : before.length = i * TRUNCATED_RESULT_SIZE)
    (hmax : (i + 1) * TRUNCATED_RESULT_SIZE ≤ INT_MAX) :
    ∃ result, truncatedResult (before ++ (r.encode ++ after)) i = .ok result ∧
      (Shows r [] result ↔ if after = [] then r.address = replicate 6 0 ∧ r.rssi = 0
        else 0 ≤ r.rssi.toInt) := by
  have hlength : before.length + r.encode.length ≤ INT_MAX := by
    rw [r.length_encode, hbefore]
    exact Nat.succ_mul i TRUNCATED_RESULT_SIZE ▸ hmax
  by_cases hafter : after = []
  · have hrecord := extractBytes_last hlength
    rw [r.length_encode, hbefore] at hrecord
    subst hafter
    rw [append_nil, if_pos rfl]
    obtain ⟨rssi, hrssi, hresult⟩ := truncatedResult_eq hrecord
    obtain rfl : 0 = rssi := Option.some.inj hrssi
    refine ⟨_, hresult, ?_⟩
    constructor
    · intro hshows
      have haddress : replicate 6 0 = r.address.reverse := hshows.deviceAddress
      have hzero : (0 : Int) = r.rssi.toInt := hshows.rssi
      refine ⟨reverse_injective (haddress.symm.trans ?_), Int8.toInt_inj.1 hzero.symm⟩
      exact reverse_replicate.symm
    · rintro ⟨haddress, hrssi⟩
      exact ⟨by rw [haddress]; rfl, rfl, by rw [hrssi]; rfl⟩
  · have hrecord := extractBytes_within hafter hlength
    rw [r.length_encode, hbefore] at hrecord
    rw [if_neg hafter]
    obtain ⟨rssi, hrssi, hresult⟩ := truncatedResult_eq hrecord
    rw [r.encode_rssi] at hrssi
    obtain rfl := Option.some.inj hrssi
    have haddress : r.encode.take 6 = r.address := by
      unfold Truncated.encode
      rw [← r.length_address, take_left]
    rw [haddress] at hresult
    refine ⟨_, hresult, ?_⟩
    constructor
    · intro hshows
      exact (rssi_eq_iff r.rssi).1 hshows.rssi
    · intro hnonneg
      exact ⟨rfl, rfl, (rssi_eq_iff r.rssi).2 hnonneg⟩

theorem Truncated.plain_cons {r : Truncated} {records : List Truncated} :
    Truncated.Plain (r :: records) ↔
      (if records = [] then r.address = replicate 6 0 ∧ r.rssi = 0 else 0 ≤ r.rssi.toInt) ∧
        Truncated.Plain records := by
  cases records with
  | nil =>
      rw [if_pos rfl]
      constructor
      · intro h
        exact ⟨h.last r rfl, fun _ hr => absurd hr not_mem_nil, fun _ hr => by cases hr⟩
      · rintro ⟨hlast, -⟩
        refine ⟨fun r' hr' => ?_, fun r' hr' => ?_⟩
        · obtain rfl := mem_singleton.1 hr'
          rw [hlast.2]
          decide
        · obtain rfl := Option.some.inj hr'
          exact hlast
  | cons r' records =>
      rw [if_neg (cons_ne_nil r' records)]
      constructor
      · intro h
        exact ⟨h.rssi r mem_cons_self,
          fun r'' hr'' => h.rssi r'' (mem_cons_of_mem r hr''), h.last⟩
      · rintro ⟨hrssi, h⟩
        refine ⟨fun r'' hr'' => ?_, h.last⟩
        rcases mem_cons.1 hr'' with rfl | hr''
        · exact hrssi
        · exact h.rssi r'' hr''

/-- The loop over a report that ends with its last record. -/
theorem truncatedResults_encode (records : List Truncated) (before : List UInt8)
    (hbefore : before.length = i * TRUNCATED_RESULT_SIZE)
    (hmax : (i + records.length) * TRUNCATED_RESULT_SIZE ≤ INT_MAX) :
    ∃ results, truncatedResults (before ++ records.flatMap Truncated.encode) records.length i =
        .ok results ∧
      (List.Forall₂ (fun r result => Shows r [] result) records results ↔
        Truncated.Plain records) := by
  induction records generalizing before i with
  | nil =>
      refine ⟨[], rfl, fun _ => ⟨?_, fun _ hr => by cases hr⟩, fun _ => List.Forall₂.nil⟩
      exact fun _ hr => absurd hr not_mem_nil
  | cons r records ih =>
      rw [length_cons] at hmax
      have hfirst : (i + 1) * TRUNCATED_RESULT_SIZE ≤ INT_MAX :=
        Nat.le_trans (Nat.mul_le_mul_right _ (by omega)) hmax
      obtain ⟨result, hresult, hshows⟩ :=
        truncatedResult_encode r before (records.flatMap Truncated.encode) hbefore hfirst
      have hnext : (before ++ r.encode).length = (i + 1) * TRUNCATED_RESULT_SIZE := by
        rw [length_append, hbefore, r.length_encode]
        exact (Nat.succ_mul i TRUNCATED_RESULT_SIZE).symm
      have hturns : i + 1 + records.length = i + (records.length + 1) := by omega
      obtain ⟨results, hresults, hall⟩ := ih _ hnext (by rw [hturns]; exact hmax)
      rw [append_assoc] at hresults
      refine ⟨result :: results, ?_, ?_⟩
      · rw [flatMap_cons, length_cons, truncatedResults, hresult, ok_bind, hresults]
        rfl
      · have hnil : records.flatMap Truncated.encode = [] ↔ records = [] := by
          constructor
          · intro hnil
            cases records with
            | nil => rfl
            | cons r' records =>
                have hlen := congrArg length hnil
                rw [flatMap_cons, length_append, r'.length_encode] at hlen
                exact absurd hlen (by unfold TRUNCATED_RESULT_SIZE; simp)
          · rintro rfl
            rfl
        rw [forall₂_cons, hshows, hall, Truncated.plain_cons]
        simp only [hnil]

/-! ## Full reports -/

theorem parseRecord_doubled {bytes : List UInt8} {n : Nat} (hn : n = bytes.length) :
    ∃ record, parseRecord (bytes ++ replicate n 0) = .ok record ∧
      ScanRecord.parseFromBytes (bytes ++ replicate n 0) = .ok record := by
  obtain ⟨record, hrecord⟩ := ScanRecord.parseFromBytes_eventData bytes
  rw [Scan.eventData, ← hn] at hrecord
  refine ⟨record, ?_, hrecord⟩
  unfold parseRecord
  rw [hrecord]

theorem recordLength_eq_some : recordLength v = some length ↔
    ∃ a r, v[11]? = some a ∧ v[12 + a.toNat]? = some r ∧ length = 13 + a.toNat + r.toNat := by
  constructor
  · intro h
    obtain ⟨a, ha, h⟩ := Option.bind_eq_some_iff.1 h
    obtain ⟨r, hr, h⟩ := Option.bind_eq_some_iff.1 h
    exact ⟨a, r, ha, hr, (Option.some.inj h).symm⟩
  · rintro ⟨a, r, ha, hr, rfl⟩
    exact Option.bind_eq_some_iff.2 ⟨a, ha, Option.bind_eq_some_iff.2 ⟨r, hr, rfl⟩⟩

/-- A turn that ends has read its two lengths, and goes on behind the record. -/
theorem fullResult_bound {result : BatchResult} {position' : Nat}
    (h : fullResult v position = .ok (result, position')) :
    recordLength (v.drop position) = some (position' - position) ∧ position ≤ position' ∧
      position' ≤ INT_MAX := by
  obtain ⟨address, -, h⟩ := bind_eq_ok.1 h
  obtain ⟨p₁, hp₁, h⟩ := bind_eq_ok.1 h
  obtain ⟨-, rfl⟩ := int_eq_ok.1 hp₁
  obtain ⟨rssi, -, h⟩ := bind_eq_ok.1 h
  obtain ⟨p₂, hp₂, h⟩ := bind_eq_ok.1 h
  obtain ⟨-, rfl⟩ := int_eq_ok.1 hp₂
  obtain ⟨a, ha, h⟩ := bind_eq_ok.1 h
  obtain ⟨p₃, hp₃, h⟩ := bind_eq_ok.1 h
  obtain ⟨-, rfl⟩ := int_eq_ok.1 hp₃
  obtain ⟨advertiseBytes, -, h⟩ := bind_eq_ok.1 h
  obtain ⟨p₄, hp₄, h⟩ := bind_eq_ok.1 h
  obtain ⟨-, rfl⟩ := int_eq_ok.1 hp₄
  obtain ⟨r, hr, h⟩ := bind_eq_ok.1 h
  obtain ⟨p₅, hp₅, h⟩ := bind_eq_ok.1 h
  obtain ⟨-, rfl⟩ := int_eq_ok.1 hp₅
  obtain ⟨scanResponseBytes, -, h⟩ := bind_eq_ok.1 h
  obtain ⟨p₆, hp₆, h⟩ := bind_eq_ok.1 h
  obtain ⟨hmax, rfl⟩ := int_eq_ok.1 hp₆
  obtain ⟨record, -, h⟩ := bind_eq_ok.1 h
  obtain ⟨-, rfl⟩ := Prod.mk.inj (Except.ok.inj h)
  refine ⟨recordLength_eq_some.2 ⟨a, r, ?_, ?_, by omega⟩, by omega, hmax⟩
  · rw [getElem?_drop]
    exact byteAt_eq_ok.1 ha
  · rw [getElem?_drop]
    have hposition : position + (12 + a.toNat) = position + 6 + 1 + 1 + 1 + 2 + 1 + a.toNat := by
      omega
    rw [hposition]
    exact byteAt_eq_ok.1 hr

/-- A turn at a record whose lengths are in the vector, with the pieces that it extracts. -/
theorem fullResult_eq {a r : UInt8} {advertiseBytes scanResponseBytes : List UInt8}
    (ha : v[position + 11]? = some a) (hr : v[position + (12 + a.toNat)]? = some r)
    (hmax : position + (13 + a.toNat + r.toNat) ≤ INT_MAX)
    (hadvertise : extractBytes v (position + 12) a.toNat = .ok advertiseBytes)
    (hresponse : extractBytes v (position + (13 + a.toNat)) r.toNat = .ok scanResponseBytes) :
    ∃ address rssi record, extractBytes v position 6 = .ok address ∧
      v[position + 8]? = some rssi ∧
      ScanRecord.parseFromBytes (Scan.eventData (advertiseBytes ++ scanResponseBytes)) =
        .ok record ∧
      fullResult v position =
        .ok (⟨address.reverse, record, rssi.toNat⟩, position + (13 + a.toNat + r.toNat)) := by
  obtain ⟨address, haddress⟩ := extractBytes_ok (v := v) (show position + 6 ≤ INT_MAX by omega)
  have hlt : position + 8 < v.length := by
    have hlt := (List.getElem?_eq_some_iff.1 ha).1
    omega
  obtain ⟨rssi, hrssi⟩ : ∃ rssi, v[position + 8]? = some rssi :=
    ⟨_, getElem?_eq_getElem hlt⟩
  have hlength : a.toNat + r.toNat = (advertiseBytes ++ scanResponseBytes).length := by
    rw [length_append, length_extractBytes hadvertise, length_extractBytes hresponse]
  obtain ⟨record, hparse, hrecord⟩ :=
    parseRecord_doubled hlength
  refine ⟨address, rssi, record, haddress, hrssi, ?_, ?_⟩
  · rw [Scan.eventData, ← hlength]
    exact hrecord
  · have h₁ : position + 6 + 1 + 1 = position + 8 := rfl
    have h₂ : position + 8 + 1 + 2 = position + 11 := rfl
    have h₃ : position + 12 + a.toNat = position + (12 + a.toNat) := Nat.add_assoc _ _ _
    have h₄ : position + (12 + a.toNat) + 1 = position + (13 + a.toNat) := by omega
    have h₅ : position + (13 + a.toNat) + r.toNat = position + (13 + a.toNat + r.toNat) :=
      Nat.add_assoc _ _ _
    unfold fullResult
    rw [haddress, ok_bind, h₁, int_ok (by omega), ok_bind, byteAt_eq_ok.2 hrssi, ok_bind, h₂,
      int_ok (by omega), ok_bind, byteAt_eq_ok.2 ha, ok_bind, int_ok (by omega), ok_bind,
      hadvertise, ok_bind, h₃, int_ok (by omega), ok_bind, byteAt_eq_ok.2 hr, ok_bind, h₄,
      int_ok (by omega), ok_bind, hresponse, ok_bind, h₅, int_ok hmax, ok_bind, hparse, ok_bind,
      reverse_eq]
    rfl

theorem fullResult_ok_iff :
    (∃ result, fullResult v position = .ok (result, position + length)) ↔
      recordLength (v.drop position) = some length ∧ position + length ≤ INT_MAX := by
  constructor
  · rintro ⟨result, h⟩
    obtain ⟨hlength, -, hmax⟩ := fullResult_bound h
    rw [Nat.add_sub_cancel_left] at hlength
    exact ⟨hlength, hmax⟩
  · rintro ⟨hlength, hmax⟩
    obtain ⟨a, r, ha, hr, rfl⟩ := recordLength_eq_some.1 hlength
    rw [getElem?_drop] at ha hr
    obtain ⟨advertiseBytes, hadvertise⟩ :=
      extractBytes_ok (v := v) (show position + 12 + a.toNat ≤ INT_MAX by omega)
    obtain ⟨scanResponseBytes, hresponse⟩ :=
      extractBytes_ok (v := v) (show position + (13 + a.toNat) + r.toNat ≤ INT_MAX by omega)
    obtain ⟨address, rssi, record, -, -, -, hresult⟩ :=
      fullResult_eq ha hr hmax hadvertise hresponse
    exact ⟨_, hresult⟩

theorem reportLength_cons : reportLength (n + 1) v = some length ↔
    ∃ first rest, recordLength v = some first ∧ reportLength n (v.drop first) = some rest ∧
      length = first + rest := by
  constructor
  · intro h
    obtain ⟨first, hfirst, h⟩ := Option.bind_eq_some_iff.1 h
    obtain ⟨rest, hrest, h⟩ := Option.bind_eq_some_iff.1 h
    exact ⟨first, rest, hfirst, hrest, (Option.some.inj h).symm⟩
  · rintro ⟨first, rest, hfirst, hrest, rfl⟩
    exact Option.bind_eq_some_iff.2 ⟨first, hfirst, Option.bind_eq_some_iff.2 ⟨rest, hrest, rfl⟩⟩

/-- The loop ends where every length is read inside the vector. -/
theorem fullResults_ok_iff (hposition : position ≤ INT_MAX) :
    (∃ results, fullResults v n position = .ok results) ↔
      ∃ length, reportLength n (v.drop position) = some length ∧ position + length ≤ INT_MAX := by
  induction n generalizing position with
  | zero => exact ⟨fun _ => ⟨0, rfl, hposition⟩, fun _ => ⟨[], rfl⟩⟩
  | succ n ih =>
      constructor
      · rintro ⟨results, h⟩
        obtain ⟨⟨result, position'⟩, hresult, h⟩ := bind_eq_ok.1 h
        obtain ⟨rest, hrest, -⟩ := bind_eq_ok.1 h
        obtain ⟨hfirst, hle, hmax⟩ := fullResult_bound hresult
        obtain ⟨lengths, hlengths, hend⟩ := (ih hmax).1 ⟨rest, hrest⟩
        refine ⟨position' - position + lengths, reportLength_cons.2
          ⟨position' - position, lengths, hfirst, ?_, rfl⟩, by omega⟩
        rw [drop_drop, Nat.add_sub_cancel' hle]
        exact hlengths
      · rintro ⟨length, hlength, hmax⟩
        obtain ⟨first, rest, hfirst, hrest, rfl⟩ := reportLength_cons.1 hlength
        rw [drop_drop] at hrest
        obtain ⟨result, hresult⟩ := fullResult_ok_iff.2 ⟨hfirst, by omega⟩
        obtain ⟨results, hresults⟩ :=
          (ih (show position + first ≤ INT_MAX by omega)).2 ⟨rest, hrest, by omega⟩
        refine ⟨result :: results, ?_⟩
        rw [fullResults, hresult, ok_bind]
        dsimp only
        rw [hresults]
        rfl

theorem inside_full_iff {numRecords : Int} :
    Inside (parseFullResults numRecords v) ↔ Covered numRecords v := by
  unfold Inside parseFullResults Covered
  by_cases hnegative : numRecords < 0
  · rw [if_pos hnegative]
    exact ⟨fun _ => .inl hnegative, fun _ => ⟨none, rfl⟩⟩
  · rw [if_neg hnegative]
    have hok := fullResults_ok_iff (v := v) (n := numRecords.toNat) (Nat.zero_le INT_MAX)
    simp only [drop_zero, Nat.zero_add] at hok
    rw [or_iff_right hnegative, ← hok]
    constructor
    · rintro ⟨results, h⟩
      obtain ⟨rest, hrest, -⟩ := bind_eq_ok.1 h
      exact ⟨rest, hrest⟩
    · rintro ⟨rest, hrest⟩
      exact ⟨some rest, by rw [hrest]; rfl⟩

theorem Full.length_encode (r : Full) :
    r.encode.length = 13 + r.advertising.length + r.scanResponse.length := by
  unfold Full.encode
  rw [length_append, length_append, r.toTruncated.length_encode, length_cons,
    length_cons]
  unfold TRUNCATED_RESULT_SIZE
  omega

/-- The pieces of a record that stands somewhere in the vector. -/
theorem Full.encode_append (r : Full) (after : List UInt8) :
    r.encode ++ after = r.address ++ (r.addressType :: r.txPower :: r.rssi.toUInt8 ::
      r.timestamp.1 :: r.timestamp.2 :: UInt8.ofNat r.advertising.length :: (r.advertising ++
        UInt8.ofNat r.scanResponse.length :: (r.scanResponse ++ after))) := by
  unfold Full.encode Truncated.encode
  simp only [append_assoc, cons_append, nil_append]

theorem toNat_ofNat_length (h : bytes.length < 256) :
    (UInt8.ofNat bytes.length).toNat = bytes.length := UInt8.toNat_ofNat_of_lt' h

theorem getElem?_behind {front rest : List UInt8} {b : UInt8} {k : Nat} (hk : front.length = k) :
    (front ++ b :: rest)[k]? = some b := by
  rw [getElem?_append_right (by omega), hk, Nat.sub_self]
  rfl

/-- The parser takes the doubled bytes for the bytes alone only if there are none. -/
theorem shows_doubled_iff {r : Truncated} {shown : List UInt8} {record : Option ScanRecord}
    (hlength : shown.length = bytes.length)
    (hrecord : ScanRecord.parseFromBytes (Scan.eventData shown) = .ok record) :
    Shows r bytes ⟨r.address.reverse, record, r.rssi.toUInt8.toNat⟩ ↔
      0 ≤ r.rssi.toInt ∧ bytes = [] := by
  constructor
  · intro hshows
    refine ⟨(rssi_eq_iff r.rssi).1 hshows.rssi, ?_⟩
    have hparse : ScanRecord.parseFromBytes bytes = .ok record := hshows.scanRecord
    cases record with
    | none => exact ScanRecord.parseFromBytes_eq_none hparse
    | some record =>
        have hsame := (ScanRecord.parseFromBytes_bytes hrecord).symm.trans
          (ScanRecord.parseFromBytes_bytes hparse)
        have hlen := congrArg length hsame
        rw [Scan.eventData, length_append, length_replicate] at hlen
        exact length_eq_zero_iff.1 (by omega)
  · rintro ⟨hrssi, rfl⟩
    obtain rfl := length_eq_zero_iff.1 hlength
    exact ⟨rfl, hrecord, (rssi_eq_iff r.rssi).2 hrssi⟩

/-- Where the two lengths of a record stand. -/
theorem Full.encode_lengths (r : Full) (before after : List UInt8) :
    (before ++ (r.encode ++ after))[before.length + 11]? =
        some (UInt8.ofNat r.advertising.length) ∧
      (before ++ (r.encode ++ after))[before.length + (12 + r.advertising.length)]? =
        some (UInt8.ofNat r.scanResponse.length) := by
  have haddr := r.length_address
  rw [r.encode_append]
  constructor
  · rw [← append_assoc, getElem?_append_right (by rw [length_append]; omega),
      length_append, haddr]
    have hindex : before.length + 11 - (before.length + 6) = 5 := by omega
    rw [hindex]
    rfl
  · have hcut : before ++ (r.address ++ (r.addressType :: r.txPower :: r.rssi.toUInt8 ::
        r.timestamp.1 :: r.timestamp.2 :: UInt8.ofNat r.advertising.length :: (r.advertising ++
          UInt8.ofNat r.scanResponse.length :: (r.scanResponse ++ after)))) =
        (before ++ r.address ++ [r.addressType, r.txPower, r.rssi.toUInt8, r.timestamp.1,
          r.timestamp.2, UInt8.ofNat r.advertising.length] ++ r.advertising) ++
            UInt8.ofNat r.scanResponse.length :: (r.scanResponse ++ after) := by
      simp only [append_assoc, cons_append, nil_append]
    rw [hcut]
    apply getElem?_behind
    rw [length_append, length_append, length_append, haddr, length_cons,
      length_cons, length_cons, length_cons, length_cons, length_singleton]
    omega

/-- A turn at a full record shows it only if nothing is added to its bytes. -/
theorem fullResult_encode (r : Full) (before after : List UInt8)
    (hmax : before.length + r.encode.length ≤ INT_MAX) :
    ∃ result, fullResult (before ++ (r.encode ++ after)) before.length =
        .ok (result, before.length + r.encode.length) ∧
      (Shows r.toTruncated (r.advertising ++ r.scanResponse) result ↔
        0 ≤ r.rssi.toInt ∧ r.advertising ++ r.scanResponse = []) := by
  have hlen := r.length_encode
  have haLen := toNat_ofNat_length r.advertising_lt
  have hrLen := toNat_ofNat_length r.scanResponse_lt
  have haddr := r.length_address
  obtain ⟨ha, hr⟩ := r.encode_lengths before after
  rw [← haLen] at hr
  rw [r.encode_append] at ha hr ⊢
  generalize hv : before ++ _ = v at ha hr ⊢
  -- the vector cut before the advertising bytes and before the scan response
  obtain ⟨front₂, hfront₂⟩ : ∃ front, front = before ++ r.address ++ [r.addressType, r.txPower,
      r.rssi.toUInt8, r.timestamp.1, r.timestamp.2, UInt8.ofNat r.advertising.length] := ⟨_, rfl⟩
  obtain ⟨front₃, hfront₃⟩ : ∃ front, front = front₂ ++ r.advertising ++
      [UInt8.ofNat r.scanResponse.length] := ⟨_, rfl⟩
  have hcut₂ : v = front₂ ++ (r.advertising ++
      UInt8.ofNat r.scanResponse.length :: (r.scanResponse ++ after)) := by
    rw [← hv, hfront₂]
    simp only [append_assoc, cons_append, nil_append]
  have hcut₃ : v = front₃ ++ (r.scanResponse ++ after) := by
    rw [hcut₂, hfront₃]
    simp only [append_assoc, cons_append, nil_append]
  have hlen₂ : front₂.length = before.length + 12 := by
    rw [hfront₂, length_append, length_append, haddr]
    rfl
  have hlen₃ : front₃.length = before.length + (13 + r.advertising.length) := by
    rw [hfront₃, length_append, length_append, hlen₂, length_singleton]
    omega
  have haddress : extractBytes v before.length 6 = .ok r.address := by
    rw [← hv, ← haddr]
    exact extractBytes_within (cons_ne_nil _ _) (by omega)
  have hrssi : v[before.length + 8]? = some r.rssi.toUInt8 := by
    rw [← hv, ← append_assoc, getElem?_append_right (by rw [length_append]; omega),
      length_append, haddr]
    have hindex : before.length + 8 - (before.length + 6) = 2 := by omega
    rw [hindex]
    rfl
  have hadvertise : extractBytes v (before.length + 12)
      (UInt8.ofNat r.advertising.length).toNat = .ok r.advertising := by
    rw [haLen, hcut₂, ← hlen₂]
    exact extractBytes_within (cons_ne_nil _ _) (by omega)
  obtain ⟨response, hresponse⟩ : ∃ bytes, extractBytes v
      (before.length + (13 + (UInt8.ofNat r.advertising.length).toNat))
      (UInt8.ofNat r.scanResponse.length).toNat = .ok bytes :=
    extractBytes_ok (by omega)
  have hresponseLen := length_extractBytes hresponse
  obtain ⟨address, rssi, record, haddress', hrssi', hrecord, hresult⟩ :=
    fullResult_eq ha hr (by omega) hadvertise hresponse
  obtain rfl := Except.ok.inj (haddress.symm.trans haddress')
  obtain rfl := Option.some.inj (hrssi.symm.trans hrssi')
  refine ⟨_, ?_, shows_doubled_iff ?_ hrecord⟩
  · rw [hresult, hlen, haLen, hrLen]
  · rw [length_append, length_append, hresponseLen, hrLen]

/-- The loop over a report of full records. -/
theorem fullResults_encode (records : List Full) (before : List UInt8)
    (hmax : before.length + (records.flatMap Full.encode).length ≤ INT_MAX) :
    ∃ results, fullResults (before ++ records.flatMap Full.encode) records.length before.length =
        .ok results ∧
      (List.Forall₂ (fun r result =>
          Shows r.toTruncated (r.advertising ++ r.scanResponse) result) records results ↔
        Full.Plain records) := by
  induction records generalizing before with
  | nil => exact ⟨[], rfl, fun _ _ hr => absurd hr not_mem_nil, fun _ => List.Forall₂.nil⟩
  | cons r records ih =>
      rw [flatMap_cons, length_append] at hmax
      obtain ⟨result, hresult, hshows⟩ :=
        fullResult_encode r before (records.flatMap Full.encode) (by omega)
      obtain ⟨results, hresults, hall⟩ :=
        ih (before ++ r.encode) (by rw [length_append]; omega)
      rw [append_assoc, length_append] at hresults
      refine ⟨result :: results, ?_, ?_⟩
      · rw [flatMap_cons, length_cons, fullResults, hresult, ok_bind]
        dsimp only
        rw [hresults]
        rfl
      · rw [forall₂_cons, hshows, hall]
        unfold Full.Plain
        rw [forall_mem_cons, append_eq_nil_iff]

theorem reportLength_encode (records : List Full) :
    reportLength records.length (records.flatMap Full.encode) =
      some (records.flatMap Full.encode).length := by
  induction records with
  | nil => rfl
  | cons r records ih =>
      have haLen := toNat_ofNat_length r.advertising_lt
      have hrLen := toNat_ofNat_length r.scanResponse_lt
      obtain ⟨ha, hr⟩ := r.encode_lengths [] (records.flatMap Full.encode)
      rw [flatMap_cons, length_cons, reportLength_cons]
      refine ⟨r.encode.length, (records.flatMap Full.encode).length, ?_, ?_, length_append⟩
      · refine recordLength_eq_some.2 ⟨UInt8.ofNat r.advertising.length,
          UInt8.ofNat r.scanResponse.length, ?_, ?_, ?_⟩
        · rw [← Nat.zero_add 11]
          exact ha
        · rw [haLen, ← Nat.zero_add (12 + r.advertising.length)]
          exact hr
        · rw [r.length_encode, haLen, hrLen]
      · rw [drop_left]
        exact ih

end Turns

/-! ## Both kinds of report -/

theorem truncatedExact_iff (numRecords : Int) (batchRecord : List UInt8) :
    TruncatedExact numRecords batchRecord ↔ numRecords * TRUNCATED_RESULT_SIZE ≤ INT_MAX ∧
      ∀ records : List Truncated, numRecords = records.length →
        batchRecord = records.flatMap Truncated.encode → Truncated.Plain records := by
  have hdecodes : ∀ records : List Truncated, numRecords = records.length →
      batchRecord = records.flatMap Truncated.encode →
      numRecords * TRUNCATED_RESULT_SIZE ≤ INT_MAX →
      ∃ results, parseTruncatedResults numRecords batchRecord = .ok (some results) ∧
        (List.Forall₂ (fun r result => Shows r [] result) records results ↔
          Truncated.Plain records) := by
    intro records hn hv hmax
    have hbound : (0 + records.length) * TRUNCATED_RESULT_SIZE ≤ INT_MAX := by
      rw [Nat.zero_add]
      rw [hn] at hmax
      exact_mod_cast hmax
    obtain ⟨results, hresults, hshows⟩ :=
      truncatedResults_encode records [] (Nat.zero_mul _).symm hbound
    refine ⟨results, ?_, hshows⟩
    unfold parseTruncatedResults
    rw [if_neg (by omega), hn, hv, Int.toNat_natCast]
    rw [nil_append] at hresults
    rw [hresults]
    rfl
  constructor
  · intro h
    have hmax := inside_truncated_iff.1 h.inside
    refine ⟨hmax, fun records hn hv => ?_⟩
    obtain ⟨results, hresults, hshows⟩ := hdecodes records hn hv hmax
    obtain ⟨results', hresults', hall⟩ := h.decodes records hn hv
    obtain rfl := Option.some.inj (Except.ok.inj (hresults.symm.trans hresults'))
    exact hshows.1 hall
  · rintro ⟨hmax, hplain⟩
    refine ⟨inside_truncated_iff.2 hmax, fun records hn hv => ?_⟩
    obtain ⟨results, hresults, hshows⟩ := hdecodes records hn hv hmax
    exact ⟨results, hresults, hshows.2 (hplain records hn hv)⟩

theorem fullExact_iff (numRecords : Int) (batchRecord : List UInt8) :
    FullExact numRecords batchRecord ↔ Covered numRecords batchRecord ∧
      ∀ records : List Full, numRecords = records.length →
        batchRecord = records.flatMap Full.encode → Full.Plain records := by
  have hdecodes : ∀ records : List Full, numRecords = records.length →
      batchRecord = records.flatMap Full.encode → Covered numRecords batchRecord →
      ∃ results, parseFullResults numRecords batchRecord = .ok (some results) ∧
        (List.Forall₂ (fun r result =>
          Shows r.toTruncated (r.advertising ++ r.scanResponse) result) records results ↔
          Full.Plain records) := by
    intro records hn hv hcovered
    rcases hcovered with hnegative | ⟨length, hlength, hmax⟩
    · omega
    · rw [hn, hv, Int.toNat_natCast, reportLength_encode] at hlength
      obtain rfl := Option.some.inj hlength
      obtain ⟨results, hresults, hshows⟩ := fullResults_encode records []
        (by rw [length_nil, Nat.zero_add]; exact hmax)
      refine ⟨results, ?_, hshows⟩
      unfold parseFullResults
      rw [if_neg (by omega), hn, hv, Int.toNat_natCast]
      rw [nil_append, length_nil] at hresults
      rw [hresults]
      rfl
  constructor
  · intro h
    have hcovered := inside_full_iff.1 h.inside
    refine ⟨hcovered, fun records hn hv => ?_⟩
    obtain ⟨results, hresults, hshows⟩ := hdecodes records hn hv hcovered
    obtain ⟨results', hresults', hall⟩ := h.decodes records hn hv
    obtain rfl := Option.some.inj (Except.ok.inj (hresults.symm.trans hresults'))
    exact hshows.1 hall
  · rintro ⟨hcovered, hplain⟩
    refine ⟨inside_full_iff.2 hcovered, fun records hn hv => ?_⟩
    obtain ⟨results, hresults, hshows⟩ := hdecodes records hn hv hcovered
    exact ⟨results, hresults, hshows.2 (hplain records hn hv)⟩

/-- A report is decoded exactly, whichever kind it is taken for, if and only if the reads
and positions stay inside their bounds and, where it consists of well-formed records, no
byte of theirs goes wrong: the last of the truncated ones is of zeros, the full ones have
neither advertising bytes nor a scan response, and no signal is negative. -/
theorem reports_exact_iff (numRecords : Int) (batchRecord : List UInt8) :
    TruncatedExact numRecords batchRecord ∧ FullExact numRecords batchRecord ↔
      (numRecords * TRUNCATED_RESULT_SIZE ≤ INT_MAX ∧
        ∀ records : List Truncated, numRecords = records.length →
          batchRecord = records.flatMap Truncated.encode → Truncated.Plain records) ∧
      Covered numRecords batchRecord ∧
        ∀ records : List Full, numRecords = records.length →
          batchRecord = records.flatMap Full.encode → Full.Plain records :=
  and_congr (truncatedExact_iff numRecords batchRecord) (fullExact_iff numRecords batchRecord)

/-- A single truncated record, with the address `06:05:04:03:02:01`. -/
def sampleRecord : Truncated := ⟨[1, 2, 3, 4, 5, 6], 0, 0, 20, (0, 0), rfl⟩

theorem last_record_not_decoded :
    ¬ ∀ numRecords batchRecord,
      TruncatedExact numRecords batchRecord ∧ FullExact numRecords batchRecord := by
  intro hall
  have hexact := (truncatedExact_iff 1 sampleRecord.encode).1 (hall _ _).1
  have hplain := hexact.2 [sampleRecord] rfl rfl
  have haddress := (hplain.last sampleRecord rfl).1
  exact absurd haddress (by decide)

end Gatt.Reports
