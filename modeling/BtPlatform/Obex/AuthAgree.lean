import BtPlatform.Format.Fields
import BtPlatform.Obex.Auth

/-!
# Digest authentication end to end

A challenge and a response are sequences of fields. What one side composes the
other side reads back, and the challenger accepts a response exactly when both
passwords have the same digest.
-/

namespace Obex

open Support Format List

/-- The size of `challengeHeader` in `OBEX_AUTHENTICATION`. -/
def challengeHeaderSize : Nat := 2 + authDigestLen + 3 + 257

/-- The size of `responseHeader` in `OBEX_AUTHENTICATION`. -/
def responseHeaderSize : Nat := 5 + authDigestLen + maxUseridLen

/-! ## Reading a value -/

section Reading

variable {bytes value : List UInt8} {i : Nat}

theorem readBytes_of_holdsAt (h : HoldsAt bytes i value) :
    readBytes bytes i value.length = .ok value := by
  obtain ⟨before, after, rfl, rfl⟩ := h
  have hle : before.length + value.length ≤ (before ++ (value ++ after)).length := by
    simp only [length_append]
    omega
  rw [readBytes, if_pos hle, drop_left, take_left]

theorem readByte_of_holdsAt {byte : UInt8} (h : HoldsAt bytes i (byte :: value)) :
    readByte bytes i = .ok byte := by
  obtain ⟨before, after, rfl, rfl⟩ := h
  have hget : (before ++ ((byte :: value) ++ after))[before.length]? = some byte := by
    rw [getElem?_append_right (Nat.le_refl _), Nat.sub_self]
    rfl
  rw [readByte, hget]

theorem holdsAt_tail {byte : UInt8} (h : HoldsAt bytes i (byte :: value)) :
    HoldsAt bytes (i + 1) value := by
  obtain ⟨before, after, rfl, rfl⟩ := h
  exact ⟨before ++ [byte], after, by simp, by simp⟩

end Reading

/-! ## The loops as walks -/

theorem saveChallengeFields_eq_walk (packet : List UInt8) (valueLen fuel i : Nat)
    (saved : SavedChallenge) :
    saveChallengeFields packet valueLen fuel i saved =
      walk .outOfBounds .fuel (saveChallengeField packet) packet valueLen fuel i saved := by
  induction fuel generalizing i saved with
  | zero => rfl
  | succ fuel ih =>
      rw [saveChallengeFields, walk]
      by_cases hmore : i < valueLen
      · rw [if_pos hmore, if_pos hmore, readByte, readByte]
        cases packet[i]? with
        | none => rfl
        | some tag =>
            cases packet[i + 1]? with
            | none => rfl
            | some len =>
                simp only [ok_bind]
                cases saveChallengeField packet tag len (i + 2) saved with
                | error e => rfl
                | ok saved => exact ih (i + 2 + len.toNat) saved
      · rw [if_neg hmore, if_neg hmore]

theorem saveResponseFields_eq_walk (packet : List UInt8) (valueLen fuel i : Nat) (status : Status)
    (auth : Authentication) :
    saveResponseFields packet valueLen fuel i status auth =
      walk .outOfBounds .fuel
        (fun tag len i saved => saveResponseField packet tag len i saved.1 saved.2)
        packet valueLen fuel i (status, auth) := by
  induction fuel generalizing i status auth with
  | zero => rfl
  | succ fuel ih =>
      rw [saveResponseFields, walk]
      by_cases hmore : i < valueLen
      · rw [if_pos hmore, if_pos hmore, readByte, readByte]
        cases packet[i]? with
        | none => rfl
        | some tag =>
            cases packet[i + 1]? with
            | none => rfl
            | some len =>
                simp only [ok_bind]
                cases saveResponseField packet tag len (i + 2) status auth with
                | error e => rfl
                | ok saved => exact ih (i + 2 + len.toNat) saved.1 saved.2
      · rw [if_neg hmore, if_neg hmore]

/-! ## The challenge -/

/-- The nonce field of a challenge. -/
def nonceField (md5 : Md5) (privateKey timestamp : List UInt8) : Field where
  tag := challengeDigestNonceTag
  value := md5.hash (timestamp ++ privateKey)
  length_lt := by rw [md5.length_hash]; decide

/-- The options field of a challenge. -/
def optionsField (options : UInt8) : Field where
  tag := challengeDigestOptionsTag
  value := [options]
  length_lt := Field.length_byte_lt options

/-- The realm field of a challenge. -/
def realmField (realm : Realm) (hlen : realm.realm.length ≤ maxRealmLen) : Field where
  tag := challengeDigestRealmTag
  value := realm.charSet :: realm.realm
  length_lt := Nat.lt_succ_of_le (Nat.succ_le_succ hlen)

/-- The options field is sent only when an option is set. -/
def optionsFields (options : UInt8) : List Field :=
  if options ≠ 0 then [optionsField options] else []

/-- The realm field is sent only when there is a realm. -/
def realmFields : (realm : Option Realm) → (∀ r ∈ realm, r.realm.length ≤ maxRealmLen) →
    List Field
  | none, _ => []
  | some realm, hlen => [realmField realm (hlen realm rfl)]

/-- What a field of a challenge adds to what is saved. -/
def absorbChallenge (saved : SavedChallenge) (f : Field) : SavedChallenge :=
  if f.tag = challengeDigestRealmTag then
    match f.value with
    | charSet :: realm => { saved with auth := { saved.auth with realm := ⟨charSet, realm⟩ } }
    | [] => saved
  else if f.tag = challengeDigestOptionsTag then
    match f.value with
    | options :: _ => { saved with options := options }
    | [] => saved
  else { saved with auth := { saved.auth with challengeDigest := f.value } }

/-- The fields of a challenge. -/
def challengeFields (md5 : Md5) (privateKey timestamp : List UInt8) (realm : Option Realm)
    (options : UInt8) (hrealm : ∀ r ∈ realm, r.realm.length ≤ maxRealmLen) : List Field :=
  nonceField md5 privateKey timestamp :: (optionsFields options ++ realmFields realm hrealm)

section Challenge

variable (md5 : Md5) (privateKey timestamp : List UInt8) (realm : Option Realm) (common : Common)
  (auth : Authentication)

theorem challengeBytes_eq_encodeFields (hrealm : ∀ r ∈ realm, r.realm.length ≤ maxRealmLen) :
    challengeBytes md5 privateKey timestamp realm common auth =
      encodeFields (challengeFields md5 privateKey timestamp realm (challengeOptions common auth)
        hrealm) := by
  have hnonce : (nonceField md5 privateKey timestamp).encode =
      challengeDigestNonceTag :: UInt8.ofNat authDigestLen :: md5.hash
        (timestamp ++ privateKey) := by
    rw [Field.encode, Field.len, nonceField, md5.length_hash]
  have hoptions : encodeFields (optionsFields (challengeOptions common auth)) =
      if challengeOptions common auth ≠ 0 then
        [challengeDigestOptionsTag, 1, challengeOptions common auth]
      else [] := by
    rw [optionsFields]
    split <;> rfl
  rw [challengeFields, encodeFields_cons, encodeFields_append, hnonce, hoptions]
  unfold challengeBytes
  cases realm with
  | none => simp [realmFields]
  | some realm =>
      simp [realmFields, realmField, Field.encode, Field.len, Nat.add_comm]

/-- The header composed fits its buffer, whatever the options and the realm are. -/
theorem challengeBytes_length_le (hrealm : ∀ r ∈ realm, r.realm.length ≤ maxRealmLen) :
    (challengeBytes md5 privateKey timestamp realm common auth).length ≤ challengeHeaderSize := by
  have hnonce : (md5.hash (timestamp ++ privateKey)).length = 16 := md5.length_hash _
  have hmax : maxRealmLen = 254 := rfl
  have hsize : challengeHeaderSize = 278 := rfl
  have hoptions : (if challengeOptions common auth ≠ 0 then
      [challengeDigestOptionsTag, 1, challengeOptions common auth] else []).length ≤ 3 := by
    split <;> simp
  unfold challengeBytes
  simp only [length_append, length_cons]
  cases realm with
  | none =>
      simp only [length_nil]
      omega
  | some realm =>
      have hlen := hrealm realm rfl
      simp only [length_cons]
      omega

theorem saveChallengeField_absorbs (hrealm : ∀ r ∈ realm, r.realm.length ≤ maxRealmLen)
    {packet : List UInt8} {f : Field}
    (hf : f ∈ challengeFields md5 privateKey timestamp realm (challengeOptions common auth) hrealm)
    (i : Nat) (saved : SavedChallenge) (hvalue : HoldsAt packet i f.value) :
    saveChallengeField packet f.tag f.len i saved = .ok (absorbChallenge saved f) := by
  rcases mem_cons.mp hf with rfl | hf
  · have hlen : (nonceField md5 privateKey timestamp).len.toNat = authDigestLen := by
      rw [Field.len_toNat]
      exact md5.length_hash _
    have hread := readBytes_of_holdsAt hvalue
    rw [show (nonceField md5 privateKey timestamp).value.length = authDigestLen from
      md5.length_hash _] at hread
    have htag : (nonceField md5 privateKey timestamp).tag = challengeDigestNonceTag := rfl
    rw [saveChallengeField, absorbChallenge, htag, if_neg (by decide), if_neg (by decide),
      if_pos rfl, if_neg (not_not_intro hlen), hread, if_neg (by decide), if_neg (by decide)]
    rfl
  · rcases mem_append.mp hf with hf | hf
    · rw [optionsFields] at hf
      split at hf
      · obtain rfl := mem_singleton.mp hf
        have hread := readByte_of_holdsAt hvalue
        have htag : (optionsField (challengeOptions common auth)).tag =
            challengeDigestOptionsTag := rfl
        have hlen : (optionsField (challengeOptions common auth)).len = 1 := rfl
        rw [saveChallengeField, absorbChallenge, htag, hlen, if_neg (by decide), if_pos rfl,
          if_neg (not_not_intro rfl), hread, if_neg (by decide), if_pos rfl]
        rfl
      · exact absurd hf not_mem_nil
    · cases realm with
      | none => exact absurd hf not_mem_nil
      | some realm =>
          obtain rfl := mem_singleton.mp hf
          have hle := hrealm realm rfl
          have hmax : maxRealmLen = 254 := rfl
          have hlen : (realmField realm hle).len.toNat = realm.realm.length + 1 :=
            Field.len_toNat _
          have hrest : ((realmField realm hle).len - 1).toNat = realm.realm.length := by
            rw [UInt8.toNat_sub_of_le, hlen]
            · rfl
            · rw [UInt8.le_iff_toNat_le, hlen]
              exact Nat.le_add_left 1 _
          have hcharSet := readByte_of_holdsAt hvalue
          have hread := readBytes_of_holdsAt (holdsAt_tail hvalue)
          have htag : (realmField realm hle).tag = challengeDigestRealmTag := rfl
          rw [saveChallengeField, absorbChallenge, htag, if_pos rfl, if_pos rfl, hrest, hcharSet,
            ok_bind, hread, ok_bind, if_neg (Nat.not_lt_of_le hle)]
          rfl

/-- What the decoder has once it has read the fields of the challenge. -/
theorem foldl_absorbChallenge (hrealm : ∀ r ∈ realm, r.realm.length ≤ maxRealmLen)
    (responder : Authentication) :
    (challengeFields md5 privateKey timestamp realm (challengeOptions common auth) hrealm).foldl
        absorbChallenge ⟨.ok, 0, responder⟩ =
      ⟨.ok, challengeOptions common auth,
        { responder with
            challengeDigest := md5.hash (timestamp ++ privateKey)
            realm := realm.getD responder.realm }⟩ := by
  have hoptions : ∀ saved : SavedChallenge, saved.options = 0 →
      (optionsFields (challengeOptions common auth)).foldl absorbChallenge saved =
        { saved with options := challengeOptions common auth } := by
    intro saved hzero
    rw [optionsFields]
    split
    · rfl
    · rename_i hnone
      rw [not_not.mp hnone, ← hzero]
      rfl
  rw [challengeFields, foldl_cons, foldl_append, hoptions _ rfl]
  cases realm <;> rfl

/-- `OI_OBEXAUTH_SaveChallenge` reads back what `OI_OBEXAUTH_ComposeChallenge`
wrote, whatever follows the header in the packet. -/
theorem saveChallenge_challengeBytes (hrealm : ∀ r ∈ realm, r.realm.length ≤ maxRealmLen)
    (responder : Authentication) (rest : List UInt8) :
    saveChallenge responder (challengeBytes md5 privateKey timestamp realm common auth ++ rest)
        (challengeBytes md5 privateKey timestamp realm common auth).length =
      .ok (.ok,
        { responder with
            challengeDigest := md5.hash (timestamp ++ privateKey)
            realm := realm.getD responder.realm
            userIdRequested := auth.userIdRequired },
        common.readOnly) := by
  rw [challengeBytes_eq_encodeFields md5 privateKey timestamp realm common auth hrealm]
  generalize hfields : challengeFields md5 privateKey timestamp realm
    (challengeOptions common auth) hrealm = fields
  have hstep : ∀ f ∈ fields, ∀ i saved, HoldsAt (encodeFields fields ++ rest) i f.value →
      saveChallengeField (encodeFields fields ++ rest) f.tag f.len i saved =
        .ok (absorbChallenge saved f) := by
    intro f hf i saved hvalue
    rw [← hfields] at hf
    exact saveChallengeField_absorbs md5 privateKey timestamp realm common auth hrealm hf i saved
      hvalue
  rw [saveChallenge, saveChallengeFields_eq_walk,
    walk_encodeFields_start fields rest hstep, ← hfields, foldl_absorbChallenge]
  have huserid : (challengeOptions common auth &&& authUseridOption ≠ 0) = auth.userIdRequired := by
    rw [challengeOptions]
    cases common.readOnly <;> cases auth.userIdRequired <;> decide
  have hreadonly : (challengeOptions common auth &&& authReadonlyOption ≠ 0) =
      common.readOnly := by
    rw [challengeOptions]
    cases common.readOnly <;> cases auth.userIdRequired <;> decide
  simp only [ok_bind, huserid, hreadonly, Bool.decide_eq_true]
  rfl

end Challenge

/-! ## The response -/

theorem length_passwordDigest (md5 : Md5) (nonce password : List UInt8) :
    (passwordDigest md5 nonce password).length = authDigestLen :=
  md5.length_hash _

/-- The digest field of a response. -/
def digestField (md5 : Md5) (nonce password : List UInt8) : Field where
  tag := responseDigestRequestTag
  value := passwordDigest md5 nonce password
  length_lt := by rw [length_passwordDigest]; decide

/-- The user identifier field of a response, left out when it is empty. -/
def useridFields (userId : List UInt8) (hlen : userId.length ≤ maxUseridLen) : List Field :=
  if userId.length > 0 then
    [⟨responseDigestUseridTag, userId, Nat.lt_of_le_of_lt hlen (by decide)⟩]
  else []

/-- The fields of a response. -/
def responseFields (md5 : Md5) (auth : Authentication)
    (huser : auth.userId.length ≤ maxUseridLen) : List Field :=
  digestField md5 auth.challengeDigest auth.password :: useridFields auth.userId huser

/-- What a field of a response adds to what is saved. -/
def absorbResponse (saved : Status × Authentication) (f : Field) : Status × Authentication :=
  if f.tag = responseDigestRequestTag then (saved.1, { saved.2 with responseDigest := f.value })
  else (saved.1, { saved.2 with userIdRemote := f.value })

section Response

variable (md5 : Md5) (auth : Authentication) (huser : auth.userId.length ≤ maxUseridLen)

theorem composeResponse_eq_encodeFields :
    composeResponse md5 auth =
      .byteseq (hdrLow hdrAuthenticationResponse)
        (encodeFields (responseFields md5 auth huser)) := by
  have hdigest : (digestField md5 auth.challengeDigest auth.password).encode =
      responseDigestRequestTag :: UInt8.ofNat authDigestLen ::
        passwordDigest md5 auth.challengeDigest auth.password := by
    rw [Field.encode, Field.len, digestField, length_passwordDigest]
  have huserid : encodeFields (useridFields auth.userId huser) =
      if auth.userId.length > 0 then
        responseDigestUseridTag :: UInt8.ofNat auth.userId.length :: auth.userId
      else [] := by
    rw [useridFields]
    split
    · exact append_nil _
    · rfl
  unfold composeResponse
  rw [responseFields, encodeFields_cons, hdigest, huserid]

/-- The response composed fits its buffer. -/
theorem encodeFields_responseFields_length_le :
    (encodeFields (responseFields md5 auth huser)).length ≤ responseHeaderSize := by
  have hdigest : (digestField md5 auth.challengeDigest auth.password).value.length = 16 :=
    md5.length_hash _
  have hmax : maxUseridLen = 20 := rfl
  have hsize : responseHeaderSize = 41 := rfl
  rw [responseFields, encodeFields_cons, length_append, Field.encode_length, hdigest,
    useridFields]
  split
  · have huserid : ∀ hlt, (⟨responseDigestUseridTag, auth.userId, hlt⟩ : Field).encode.length ≤
        maxUseridLen + 2 := fun _ => Nat.succ_le_succ (Nat.succ_le_succ huser)
    rw [encodeFields_cons, encodeFields_nil, append_nil]
    have := huserid (Nat.lt_of_le_of_lt huser (by decide))
    omega
  · rw [encodeFields_nil, length_nil]
    omega

theorem saveResponseField_absorbs {packet : List UInt8} {f : Field}
    (hf : f ∈ responseFields md5 auth huser) (i : Nat) (saved : Status × Authentication)
    (hvalue : HoldsAt packet i f.value) :
    saveResponseField packet f.tag f.len i saved.1 saved.2 = .ok (absorbResponse saved f) := by
  have hread := readBytes_of_holdsAt hvalue
  rcases mem_cons.mp hf with rfl | hf
  · have hlength : (digestField md5 auth.challengeDigest auth.password).value.length =
        authDigestLen := md5.length_hash _
    have hlen : (digestField md5 auth.challengeDigest auth.password).len.toNat = authDigestLen := by
      rw [Field.len_toNat, hlength]
    have htag : (digestField md5 auth.challengeDigest auth.password).tag =
        responseDigestRequestTag := rfl
    rw [hlength] at hread
    rw [saveResponseField, absorbResponse, htag, if_pos rfl, if_neg (not_not_intro hlen), hread,
      if_pos rfl]
    rfl
  · rw [useridFields] at hf
    split at hf
    · rename_i hpos
      obtain rfl := mem_singleton.mp hf
      generalize hfield : (⟨responseDigestUseridTag, auth.userId, _⟩ : Field) = f at hread hvalue
      have htag : f.tag = responseDigestUseridTag := by rw [← hfield]
      have hvalue : f.value = auth.userId := by rw [← hfield]
      have hlen : f.len.toNat = auth.userId.length := by rw [Field.len_toNat, hvalue]
      have hne : ¬ f.len = 0 := by
        intro hzero
        rw [hzero] at hlen
        exact absurd hlen.symm (Nat.pos_iff_ne_zero.mp hpos)
      rw [saveResponseField, absorbResponse, htag, if_neg (by decide), if_pos rfl, if_neg hne, hlen,
        if_neg (Nat.not_lt_of_le huser), ← hvalue, hread, if_neg (by decide)]
      rfl
    · exact absurd hf not_mem_nil

/-- `OI_OBEXAUTH_SaveResponse` reads back what `OI_OBEXAUTH_ComposeResponse`
wrote. -/
theorem saveResponse_responseFields (challenger : Authentication) (rest : List UInt8) :
    saveResponse challenger (encodeFields (responseFields md5 auth huser) ++ rest)
        (encodeFields (responseFields md5 auth huser)).length =
      .ok (.ok,
        { challenger with
            responseDigest := passwordDigest md5 auth.challengeDigest auth.password
            userIdRemote := auth.userId }) := by
  have hstep : ∀ f ∈ responseFields md5 auth huser, ∀ i saved,
      HoldsAt (encodeFields (responseFields md5 auth huser) ++ rest) i f.value →
        saveResponseField (encodeFields (responseFields md5 auth huser) ++ rest) f.tag f.len i
          saved.1 saved.2 = .ok (absorbResponse saved f) :=
    fun _ hf i saved hvalue => saveResponseField_absorbs md5 auth huser hf i saved hvalue
  rw [saveResponse, saveResponseFields_eq_walk, walk_encodeFields_start _ rest hstep,
    responseFields, foldl_cons, useridFields]
  split
  · rfl
  · rename_i hempty
    rw [length_eq_zero_iff.mp (Nat.eq_zero_of_not_pos hempty)]
    rfl

end Response

/-! ## Both sides -/

/-- The challenger compares the digests of its own and of the other side's
password over the nonce it sent. -/
theorem authenticate_challengeBytes {md5 : Md5} {privateKey timestamp : List UInt8}
    {realm : Option Realm} {common : Common} {auth challenger : Authentication}
    (hsent : challenger.challengeHeader =
      challengeBytes md5 privateKey timestamp realm common auth) :
    authenticate md5 challenger = .ok ↔
      passwordDigest md5 (md5.hash (timestamp ++ privateKey)) challenger.password =
        challenger.responseDigest := by
  have hnonce : (challenger.challengeHeader.drop 2).take authDigestLen =
      md5.hash (timestamp ++ privateKey) := by
    rw [hsent]
    unfold challengeBytes
    simp only [cons_append, append_assoc, drop_succ_cons, drop_zero]
    rw [← md5.length_hash (timestamp ++ privateKey), take_left]
  simp only [authenticate, hnonce]
  split
  · rename_i heq
    exact ⟨fun _ => heq, fun _ => rfl⟩
  · rename_i hne
    exact ⟨fun hok => (by cases hok), fun heq => absurd heq hne⟩

/-- The digest on the two strings that are hashed in the run below. -/
def sampleMd5 : Md5 where
  hash bytes :=
    if bytes = [1, 2, 3, 4, 5, 6, 7, 8, 0x6B] then
      [190, 60, 62, 121, 110, 16, 58, 54, 130, 209, 191, 177, 34, 246, 136, 155]
    else if bytes = [190, 60, 62, 121, 110, 16, 58, 54, 130, 209, 191, 177, 34, 246, 136, 155,
        0x3A, 0x70, 0x77] then
      [49, 27, 240, 237, 11, 137, 54, 145, 122, 47, 233, 115, 221, 143, 141, 39]
    else List.replicate authDigestLen 0
  length_hash bytes := by
    split
    · rfl
    · split
      · rfl
      · exact length_replicate

end Obex
