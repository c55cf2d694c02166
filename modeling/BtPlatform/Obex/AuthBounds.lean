import BtPlatform.Obex.AuthAgree

/-!
# Authentication headers of any content

The decoders look at nothing but the index of a tag. On which values they stay within the
sequence of a header and within the arrays of `OBEX_AUTHENTICATION` is a property of the
fields of the sequence. `OI_OBEXAUTH_SaveChallenge` and `OI_OBEXAUTH_SaveResponse` are run on a
packet that ends with the sequence, so that every access behind it is a fault.
-/

namespace Obex

open Support Format List

/-- The value of a challenge field with `n` bytes left behind its length byte can be saved: a
realm is complete and has its character set; options and a nonce of the right length are
complete. -/
def challengeFits (tag len : UInt8) (n : Nat) : Prop :=
  if tag = challengeDigestRealmTag then 0 < len.toNat ∧ len.toNat ≤ n
  else if tag = challengeDigestOptionsTag then len = 1 → 1 ≤ n
  else if tag = challengeDigestNonceTag then len.toNat = authDigestLen → authDigestLen ≤ n
  else True

/-- The same of a response field: a digest of the right length and a user identifier that is
not too long are complete. -/
def responseFits (tag len : UInt8) (n : Nat) : Prop :=
  if tag = responseDigestRequestTag then len.toNat = authDigestLen → authDigestLen ≤ n
  else if tag = responseDigestUseridTag then len.toNat ≤ maxUseridLen → len.toNat ≤ n
  else True

/-! ## Reading -/

section Reading

variable {packet : List UInt8} {i len : Nat}

theorem readByte_ok_iff : (∃ byte, readByte packet i = .ok byte) ↔ i < packet.length := by
  unfold readByte
  by_cases h : i < packet.length
  · rw [getElem?_eq_getElem h]
    exact iff_of_true ⟨_, rfl⟩ h
  · rw [getElem?_eq_none (Nat.not_lt.1 h)]
    exact iff_of_false (by rintro ⟨byte, ⟨⟩⟩) h

theorem readBytes_ok_iff :
    (∃ bytes, readBytes packet i len = .ok bytes) ↔ i + len ≤ packet.length := by
  unfold readBytes
  split
  · next h => exact iff_of_true ⟨_, rfl⟩ h
  · next h => exact iff_of_false (by rintro ⟨bytes, ⟨⟩⟩) h

theorem readByte_ne_fuel : readByte packet i ≠ .error .fuel := by
  unfold readByte
  split
  · rintro ⟨⟩
  · rintro ⟨⟩

theorem readBytes_ne_fuel : readBytes packet i len ≠ .error .fuel := by
  unfold readBytes
  split
  · rintro ⟨⟩
  · rintro ⟨⟩

theorem bind_ok_iff {α β : Type} {x : Except Fault α} {f : α → Except Fault β} :
    (∃ r, x >>= f = .ok r) ↔ ∃ a, x = .ok a ∧ ∃ r, f a = .ok r := by
  cases x with
  | error e => exact iff_of_false (by rintro ⟨r, ⟨⟩⟩) (by rintro ⟨a, ⟨⟩, -⟩)
  | ok a =>
      constructor
      · intro h
        exact ⟨a, rfl, h⟩
      · rintro ⟨a', ⟨⟩, h⟩
        exact h

/-- A computation that only goes on with a value that was read. -/
theorem map_ok_iff {α β : Type} {x : Except Fault α} {f : α → β} :
    (∃ r, (do let a ← x; return f a) = Except.ok r) ↔ ∃ a, x = .ok a := by
  refine bind_ok_iff.trans (exists_congr fun a => and_iff_left ?_)
  exact ⟨f a, rfl⟩

theorem bind_ne_fuel {α β : Type} {x : Except Fault α} {f : α → Except Fault β}
    (hx : x ≠ .error .fuel) (hf : ∀ a, f a ≠ .error .fuel) : (x >>= f) ≠ .error .fuel := by
  cases x with
  | error e =>
      intro h
      exact hx (congrArg Except.error (Except.error.inj h))
  | ok a => exact hf a

end Reading

/-! ## The fields -/

section Fields

variable {packet : List UInt8} {tag len : UInt8} {i : Nat}

theorem saveChallengeField_ok_iff (hi : i ≤ packet.length) (saved : SavedChallenge) :
    (∃ s, saveChallengeField packet tag len i saved = .ok s) ↔
      challengeFits tag len (packet.length - i) := by
  unfold saveChallengeField challengeFits
  by_cases hrealm : tag = challengeDigestRealmTag
  · rw [if_pos hrealm, if_pos hrealm]
    have hlt := len.toNat_lt
    -- an empty field has a realm of 255 bytes
    have hlen : (len - 1).toNat = (len.toNat + 255) % 256 := by
      rw [UInt8.toNat_sub, Nat.add_comm]
      rfl
    rw [bind_ok_iff]
    constructor
    · rintro ⟨charSet, -, hrest⟩
      obtain ⟨realm, hread, hstored⟩ := bind_ok_iff.1 hrest
      have hroom := readBytes_ok_iff.1 ⟨realm, hread⟩
      split at hstored
      · obtain ⟨r, ⟨⟩⟩ := hstored
      · next hfits =>
          unfold maxRealmLen at hfits
          omega
    · rintro ⟨hpos, hroom⟩
      obtain ⟨charSet, hcharSet⟩ := readByte_ok_iff.2 (show i < packet.length by omega)
      obtain ⟨realm, hread⟩ :=
        readBytes_ok_iff.2 (show i + 1 + (len - 1).toNat ≤ packet.length by omega)
      refine ⟨charSet, hcharSet, bind_ok_iff.2 ⟨realm, hread, _, if_neg ?_⟩⟩
      unfold maxRealmLen
      omega
  rw [if_neg hrealm, if_neg hrealm]
  by_cases hoptions : tag = challengeDigestOptionsTag
  · rw [if_pos hoptions, if_pos hoptions]
    by_cases hlen : len = 1
    · rw [if_neg (not_not.2 hlen), map_ok_iff, readByte_ok_iff]
      constructor
      · intro hlt _
        omega
      · intro hroom
        have := hroom hlen
        omega
    · rw [if_pos hlen]
      exact iff_of_true ⟨_, rfl⟩ fun h => absurd h hlen
  rw [if_neg hoptions, if_neg hoptions]
  by_cases hnonce : tag = challengeDigestNonceTag
  · rw [if_pos hnonce, if_pos hnonce]
    by_cases hlen : len.toNat = authDigestLen
    · rw [if_neg (not_not.2 hlen), map_ok_iff, readBytes_ok_iff]
      constructor
      · intro hle _
        omega
      · intro hroom
        have := hroom hlen
        omega
    · rw [if_pos hlen]
      exact iff_of_true ⟨_, rfl⟩ fun h => absurd h hlen
  · rw [if_neg hnonce, if_neg hnonce]
    exact iff_of_true ⟨_, rfl⟩ trivial

theorem saveResponseField_ok_iff (hi : i ≤ packet.length) (status : Status)
    (auth : Authentication) :
    (∃ s, saveResponseField packet tag len i status auth = .ok s) ↔
      responseFits tag len (packet.length - i) := by
  unfold saveResponseField responseFits
  by_cases hrequest : tag = responseDigestRequestTag
  · rw [if_pos hrequest, if_pos hrequest]
    by_cases hlen : len.toNat = authDigestLen
    · rw [if_neg (not_not.2 hlen), map_ok_iff, readBytes_ok_iff]
      constructor
      · intro hle _
        omega
      · intro hroom
        have := hroom hlen
        omega
    · rw [if_pos hlen]
      exact iff_of_true ⟨_, rfl⟩ fun h => absurd h hlen
  rw [if_neg hrequest, if_neg hrequest]
  by_cases huser : tag = responseDigestUseridTag
  · rw [if_pos huser, if_pos huser]
    by_cases hzero : len = 0
    · rw [if_pos hzero, hzero]
      exact iff_of_true ⟨_, rfl⟩ fun _ => Nat.zero_le _
    · rw [if_neg hzero]
      by_cases hlong : len.toNat > maxUseridLen
      · rw [if_pos hlong]
        exact iff_of_true ⟨_, rfl⟩ fun h => absurd h (Nat.not_le.2 hlong)
      · rw [if_neg hlong, map_ok_iff, readBytes_ok_iff]
        constructor
        · intro hle _
          omega
        · intro hroom
          have := hroom (Nat.not_lt.1 hlong)
          omega
  · rw [if_neg huser, if_neg huser]
    exact iff_of_true ⟨_, rfl⟩ trivial

theorem saveChallengeField_ne_fuel (saved : SavedChallenge) :
    saveChallengeField packet tag len i saved ≠ .error .fuel := by
  unfold saveChallengeField
  split
  · apply bind_ne_fuel readByte_ne_fuel
    intro charSet
    apply bind_ne_fuel readBytes_ne_fuel
    intro realm
    split
    · rintro ⟨⟩
    · rintro ⟨⟩
  split
  · split
    · rintro ⟨⟩
    · exact bind_ne_fuel readByte_ne_fuel (by rintro options ⟨⟩)
  split
  · split
    · rintro ⟨⟩
    · exact bind_ne_fuel readBytes_ne_fuel (by rintro digest ⟨⟩)
  · rintro ⟨⟩

theorem saveResponseField_ne_fuel (status : Status) (auth : Authentication) :
    saveResponseField packet tag len i status auth ≠ .error .fuel := by
  unfold saveResponseField
  split
  · split
    · rintro ⟨⟩
    · exact bind_ne_fuel readBytes_ne_fuel (by rintro digest ⟨⟩)
  split
  · split
    · rintro ⟨⟩
    split
    · rintro ⟨⟩
    · exact bind_ne_fuel readBytes_ne_fuel (by rintro userId ⟨⟩)
  · rintro ⟨⟩

end Fields

/-! ## The headers -/

theorem saveChallenge_ok_iff (auth : Authentication) (bytes : List UInt8) :
    (∃ r, saveChallenge auth bytes bytes.length = .ok r) ↔ Walkable challengeFits bytes := by
  unfold saveChallenge
  rw [map_ok_iff, saveChallengeFields_eq_walk]
  have hwalk := @walk_ok_iff _ _ Fault.outOfBounds Fault.fuel (saveChallengeField bytes)
    challengeFits bytes (fun _ _ _ s hi => saveChallengeField_ok_iff hi s)
  exact hwalk (Nat.lt_succ_self _) _

theorem saveResponse_ok_iff (auth : Authentication) (bytes : List UInt8) :
    (∃ r, saveResponse auth bytes bytes.length = .ok r) ↔ Walkable responseFits bytes := by
  unfold saveResponse
  rw [saveResponseFields_eq_walk]
  have hwalk := @walk_ok_iff _ _ Fault.outOfBounds Fault.fuel
    (fun tag len i (s : Status × Authentication) => saveResponseField bytes tag len i s.1 s.2)
    responseFits bytes (fun _ _ _ s hi => saveResponseField_ok_iff hi s.1 s.2)
  exact hwalk (Nat.lt_succ_self _) _

/-- The loops end on every sequence. -/
theorem auth_ends (auth : Authentication) (bytes : List UInt8) :
    saveChallenge auth bytes bytes.length ≠ .error .fuel ∧
      saveResponse auth bytes bytes.length ≠ .error .fuel := by
  unfold saveChallenge saveResponse
  rw [saveChallengeFields_eq_walk, saveResponseFields_eq_walk]
  constructor
  · apply bind_ne_fuel
    · apply walk_ne_overrun
      · exact nofun
      · exact fun _ _ _ s => saveChallengeField_ne_fuel s
      · exact Nat.lt_succ_self _
    · rintro saved ⟨⟩
  · apply walk_ne_overrun
    · exact nofun
    · exact fun _ _ _ s => saveResponseField_ne_fuel s.1 s.2
    · exact Nat.lt_succ_self _

/-- The decoders end, on every sequence, and stay in bounds exactly on those whose fields are
complete where they are read. -/
theorem auth_inBounds_iff (auth : Authentication) (bytes : List UInt8) :
    (saveChallenge auth bytes bytes.length ≠ .error .fuel ∧
      ((∃ r, saveChallenge auth bytes bytes.length = .ok r) ↔ Walkable challengeFits bytes)) ∧
    saveResponse auth bytes bytes.length ≠ .error .fuel ∧
      ((∃ r, saveResponse auth bytes bytes.length = .ok r) ↔ Walkable responseFits bytes) := by
  obtain ⟨hchallenge, hresponse⟩ := auth_ends auth bytes
  exact ⟨⟨hchallenge, saveChallenge_ok_iff auth bytes⟩, hresponse, saveResponse_ok_iff auth bytes⟩

/-- A nonce of which three bytes were sent is read to its end. -/
theorem short_nonce_overread : ¬∀ (auth : Authentication) (bytes : List UInt8),
    ∃ r, saveChallenge auth bytes bytes.length = .ok r := by
  intro hall
  have hwalkable := (saveChallenge_ok_iff _ _).1
    (hall ⟨[], [], [], ⟨0, []⟩, false, false, [], [], []⟩ [0, 16, 1, 2, 3])
  cases hwalkable with
  | field hfits _ => exact absurd (hfits rfl) (by decide)

end Obex
