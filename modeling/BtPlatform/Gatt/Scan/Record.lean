import BtPlatform.Gatt.Scan.Deliver
import BtPlatform.Support.Status

/-!
# Records and the bytes they are read from

A record keeps its bytes, and data that is followed by as many zeros as it has bytes is
read within its bounds.
-/

namespace Gatt

open Support Format List

namespace ScanRecord

variable {scanRecord : List UInt8} {s s' : ScanRecord} {currentPos dataLength n : Nat}

theorem parseUuidField_bytes (h : parseUuidField scanRecord n currentPos dataLength s = .ok s') :
    s'.bytes = s.bytes := by
  obtain ⟨uuids, -, hs⟩ := bind_eq_ok.1 h
  cases hs
  rfl

theorem parseSolicitationField_bytes
    (h : parseSolicitationField scanRecord n currentPos dataLength s = .ok s') :
    s'.bytes = s.bytes := by
  obtain ⟨uuids, -, hs⟩ := bind_eq_ok.1 h
  cases hs
  rfl

theorem parseServiceDataField_bytes
    (h : parseServiceDataField scanRecord n currentPos dataLength s = .ok s') :
    s'.bytes = s.bytes := by
  obtain ⟨uuidBytes, -, h⟩ := bind_eq_ok.1 h
  split at h
  · cases h
    rfl
  · obtain ⟨uuid, -, h⟩ := bind_eq_ok.1 h
    obtain ⟨data, -, h⟩ := bind_eq_ok.1 h
    cases h
    rfl

theorem parseManufacturerField_bytes
    (h : parseManufacturerField scanRecord currentPos dataLength s = .ok s') :
    s'.bytes = s.bytes := by
  obtain ⟨high, -, h⟩ := bind_eq_ok.1 h
  obtain ⟨low, -, h⟩ := bind_eq_ok.1 h
  obtain ⟨data, -, h⟩ := bind_eq_ok.1 h
  split at h
  · cases h
    rfl
  · cases h
    rfl

theorem parseField_bytes {fieldType : UInt8}
    (h : parseField scanRecord fieldType currentPos dataLength s = .ok s') :
    s'.bytes = s.bytes := by
  unfold parseField at h
  split at h
  all_goals first
    | exact parseUuidField_bytes h
    | exact parseSolicitationField_bytes h
    | exact parseServiceDataField_bytes h
    | exact parseManufacturerField_bytes h
    | (obtain ⟨_, -, h⟩ := bind_eq_ok.1 h; cases h; rfl)
    | (cases h; rfl)

/-- A record keeps the bytes that it was read from. -/
theorem parseFromBytes_bytes {r : ScanRecord} (h : parseFromBytes scanRecord = .ok (some r)) :
    r.bytes = scanRecord := by
  unfold parseFromBytes at h
  split at h
  · cases h
  · split at h
    · next s hs =>
        cases h
        exact readElements_invariant (P := fun s => s.bytes = scanRecord)
          (fun _ _ _ _ _ hstep hbytes => (parseField_bytes hstep).trans hbytes) hs rfl
    · cases h
      rfl
    · cases h

theorem parseFromBytes_eq_none (h : parseFromBytes scanRecord = .ok none) : scanRecord = [] := by
  unfold parseFromBytes at h
  split at h
  · assumption
  · split at h <;> cases h

/-! ## Reads within the bounds -/

theorem extractBytes_length {start : Nat} {length : Int} {bytes : List UInt8}
    (h : extractBytes scanRecord start length = .ok bytes) : bytes.length = length.toNat := by
  unfold extractBytes at h
  split at h
  · cases h
  · split at h
    · next hroom =>
        cases h
        rw [length_take, length_drop]
        omega
    · cases h
      exact length_replicate

theorem extractBytes_not_fault {start : Nat} {length : Int} {f : Fault} :
    extractBytes scanRecord start length ≠ .error (.fault f) := by
  intro h
  unfold extractBytes at h
  split at h
  · cases h
  · split at h <;> cases h

theorem uuidOf_ok {bytes : List UInt8} (h : bytes.length = 2 ∨ bytes.length = 4 ∨
    bytes.length = 16) : ∃ u, uuidOf bytes = .ok u := by
  have hread : ∃ u, Uuid.uuidFromByte bytes = .ok u := by
    unfold Uuid.uuidFromByte
    split
    · exact ⟨_, rfl⟩
    · exact ⟨_, rfl⟩
    · next h2 h4 =>
        obtain hlen | hlen | hlen := h
        · obtain ⟨b0, b1, rfl⟩ := length_eq_two.1 hlen
          exact absurd rfl (h2 b0 b1)
        · match bytes, hlen with
          | [b0, b1, b2, b3], _ => exact absurd rfl (h4 b0 b1 b2 b3)
        · exact ⟨_, dif_pos hlen⟩
  obtain ⟨u, hu⟩ := hread
  exact ⟨u, by rw [uuidOf, hu]⟩

theorem bind_eq_error {ε α β : Type} {x : Except ε α} {f : α → Except ε β} {e : ε}
    (h : (x >>= f) = .error e) : x = .error e ∨ ∃ a, x = .ok a ∧ f a = .error e := by
  cases x with
  | error e' =>
      cases h
      exact .inl rfl
  | ok a => exact .inr ⟨a, rfl, h⟩

theorem parseServiceUuid_not_fault (hn : n = 2 ∨ n = 4 ∨ n = 16) {fuel : Nat}
    {uuids : List Uuid} {f : Fault} :
    parseServiceUuid scanRecord n fuel currentPos dataLength uuids ≠ .error (.fault f) := by
  induction fuel generalizing currentPos dataLength uuids with
  | zero =>
      intro h
      cases h
  | succ fuel ih =>
      intro h
      rw [parseServiceUuid] at h
      split at h
      · rcases bind_eq_error h with h | ⟨bytes, hbytes, h⟩
        · exact extractBytes_not_fault h
        · have hlen := extractBytes_length hbytes
          rw [Int.toNat_natCast] at hlen
          split at h
          · cases h
          · obtain ⟨u, hu⟩ := @uuidOf_ok bytes (by rw [hlen]; exact hn)
            rw [hu] at h
            exact ih h
      · cases h

theorem byteAt_ok {pos : Nat} (h : pos < scanRecord.length) :
    ∃ b, byteAt scanRecord pos = .ok b :=
  ⟨scanRecord[pos], by rw [byteAt, getElem?_eq_getElem h]⟩

theorem parseField_not_fault {fieldType : UInt8} (hpos : currentPos + 1 < scanRecord.length)
    {f : Fault} :
    parseField scanRecord fieldType currentPos dataLength s ≠ .error (.fault f) := by
  obtain ⟨low, hlow⟩ := byteAt_ok (Nat.lt_of_succ_lt hpos)
  obtain ⟨high, hhigh⟩ := byteAt_ok hpos
  have huuids : ∀ n, n = 2 ∨ n = 4 ∨ n = 16 →
      parseUuidField scanRecord n currentPos dataLength s ≠ .error (.fault f) := by
    intro n hn h
    rcases bind_eq_error h with h | ⟨_, -, h⟩
    · exact parseServiceUuid_not_fault hn h
    · cases h
  have hsolicitation : ∀ n, n = 2 ∨ n = 4 ∨ n = 16 →
      parseSolicitationField scanRecord n currentPos dataLength s ≠ .error (.fault f) := by
    intro n hn h
    rcases bind_eq_error h with h | ⟨_, -, h⟩
    · exact parseServiceUuid_not_fault hn h
    · cases h
  have hdata : ∀ n : Nat, n = 2 ∨ n = 4 ∨ n = 16 →
      parseServiceDataField scanRecord n currentPos dataLength s ≠ .error (.fault f) := by
    intro n hn h
    rcases bind_eq_error h with h | ⟨bytes, hbytes, h⟩
    · exact extractBytes_not_fault h
    · have hlen := extractBytes_length hbytes
      rw [Int.toNat_natCast] at hlen
      split at h
      · cases h
      · obtain ⟨u, hu⟩ := @uuidOf_ok bytes (by rw [hlen]; exact hn)
        rw [hu] at h
        rcases bind_eq_error h with h | ⟨_, -, h⟩
        · cases h
        · rcases bind_eq_error h with h | ⟨_, -, h⟩
          · exact extractBytes_not_fault h
          · cases h
  have hmanufacturer :
      parseManufacturerField scanRecord currentPos dataLength s ≠ .error (.fault f) := by
    intro h
    unfold parseManufacturerField at h
    rw [hhigh, hlow] at h
    rcases bind_eq_error h with h | ⟨_, -, h⟩
    · cases h
    · rcases bind_eq_error h with h | ⟨_, -, h⟩
      · cases h
      · rcases bind_eq_error h with h | ⟨_, -, h⟩
        · exact extractBytes_not_fault h
        · split at h <;> cases h
  have hname : extractBytes scanRecord currentPos dataLength ≠ .error (.fault f) :=
    extractBytes_not_fault
  intro h
  unfold parseField at h
  rw [hlow] at h
  split at h
  all_goals first
    | exact huuids _ (by decide) h
    | exact hsolicitation _ (by decide) h
    | exact hdata _ (by decide) h
    | exact hmanufacturer h
    | cases h
    | (rcases bind_eq_error h with h | ⟨_, -, h⟩
       · exact hname h
       · cases h)

/-- Followed by as many zeros, any data is read within its bounds. -/
theorem parseFromBytes_eventData (advData : List UInt8) :
    ∃ r, parseFromBytes (Scan.eventData advData) = .ok r := by
  unfold parseFromBytes
  split
  · exact ⟨none, rfl⟩
  · next hne =>
      cases hread : readElements (.fault .outOfBounds) (.fault .fuel)
          (parseField (Scan.eventData advData)) (Scan.eventData advData)
          ((Scan.eventData advData).length + 1) 0 (start (Scan.eventData advData)) with
      | ok s => exact ⟨_, rfl⟩
      | error e =>
          cases e with
          | thrown => exact ⟨_, rfl⟩
          | fault f =>
              exfalso
              have hlen : (Scan.eventData advData).length = advData.length + advData.length := by
                rw [Scan.eventData, length_append, length_replicate]
              -- a byte that is not zero belongs to the data
              have hzero : ∀ p b, (Scan.eventData advData)[p]? = some b → b ≠ 0 →
                  p < advData.length := by
                intro p b hb hb0
                by_contra hp
                rw [Scan.eventData, getElem?_append_right (Nat.le_of_not_lt hp)] at hb
                obtain ⟨hlt, hval⟩ := List.getElem?_eq_some_iff.1 hb
                rw [getElem_replicate] at hval
                exact hb0 hval.symm
              obtain ⟨p, length, hlength, hlength0, hcase⟩ :=
                readElements_error (Nat.succ_pos _) (by omega) hread
              have hp := hzero p length hlength hlength0
              rcases hcase with ⟨hshort, -⟩ | ⟨type, s, htype, hstep⟩
              · have := getElem?_eq_none_iff.1 hshort
                omega
              · by_cases htype0 : type = 0
                · subst htype0
                  cases hstep
                · have hp1 := hzero (p + 1) type htype htype0
                  exact parseField_not_fault (by omega) hstep

end ScanRecord

end Gatt
