import BtPlatform.Obex.Common

/-!
# Authentication

The functions of `obexauth.c`. The hash is a parameter. A challenge or a response
is a header whose value is a sequence of tag, length and value; the decoders
trust the lengths, so they read the packet from the start of the value on and
may run past the header.
-/

namespace Obex

open Support

/-- A message digest of `OI_OBEX_AUTH_DIGEST_LEN` bytes: `OI_MD5_Init`,
`OI_MD5_Update` and `OI_MD5_Final` in one. -/
structure Md5 where
  hash : List UInt8 → List UInt8
  length_hash : ∀ bytes, (hash bytes).length = authDigestLen

theorem length_zeroDigest (_ : List UInt8) :
    (List.replicate authDigestLen (0 : UInt8)).length = authDigestLen := List.length_replicate

def challengeDigestNonceTag : UInt8 := 0
def challengeDigestOptionsTag : UInt8 := 1
def challengeDigestRealmTag : UInt8 := 2
def responseDigestRequestTag : UInt8 := 0
def responseDigestUseridTag : UInt8 := 1
def authUseridOption : UInt8 := 1
def authReadonlyOption : UInt8 := 2

/-- `OI_OBEX_MAX_PASSWORD_LEN`. -/
def maxPasswordLen : Nat := 16

/-- `OI_OBEX_MAX_USERID_LEN`. -/
def maxUseridLen : Nat := 20

/-- `OI_OBEX_MAX_REALM_LN`. -/
def maxRealmLen : Nat := 254

/-- `len` bytes of the packet from index `i` on. -/
def readBytes (packet : List UInt8) (i len : Nat) : Except Fault (List UInt8) :=
  if i + len ≤ packet.length then .ok ((packet.drop i).take len) else .error .outOfBounds

/-- `data[i]`. -/
def readByte (packet : List UInt8) (i : Nat) : Except Fault UInt8 :=
  match packet[i]? with
  | some byte => .ok byte
  | none => .error .outOfBounds

/-- `OI_OBEXAUTH_SaveAuthInfo`: the password is stored before the user identifier
is checked. -/
def saveAuthInfo (auth : Authentication) (userId : Option (List UInt8)) (userIdLen : Nat)
    (password : List UInt8) : Status × Authentication :=
  if password.length > maxPasswordLen then (.obexPasswordTooLong, auth)
  else
    let auth := { auth with password := password }
    if userIdLen > maxUseridLen then (.obexUseridTooLong, auth)
    else
      match userId with
      | some userId => (.ok, { auth with userId := userId.take userIdLen })
      | none => (.ok, { auth with userId := [] })

/-- What the loop of `OI_OBEXAUTH_SaveChallenge` computes. -/
structure SavedChallenge where
  status : Status
  options : UInt8
  auth : Authentication
  deriving DecidableEq, Repr

/-- One field of a challenge, its value at index `i`. -/
def saveChallengeField (packet : List UInt8) (tag len : UInt8) (i : Nat) (saved : SavedChallenge) :
    Except Fault SavedChallenge :=
  if tag = challengeDigestRealmTag then do
    -- an eight-bit length, copied into a buffer of `maxRealmLen` bytes
    let realmLen := (len - 1).toNat
    let charSet ← readByte packet i
    let realm ← readBytes packet (i + 1) realmLen
    if realmLen > maxRealmLen then .error .outOfBounds
    else return { saved with auth := { saved.auth with realm := ⟨charSet, realm⟩ } }
  else if tag = challengeDigestOptionsTag then
    if len ≠ 1 then .ok { saved with status := .obexInvalidAuthDigest }
    else do
      let options ← readByte packet i
      return { saved with options := options }
  else if tag = challengeDigestNonceTag then
    if len.toNat ≠ authDigestLen then .ok { saved with status := .obexInvalidAuthDigest }
    else do
      let digest ← readBytes packet i authDigestLen
      return { saved with auth := { saved.auth with challengeDigest := digest } }
  else .ok saved

/-- The loop of `OI_OBEXAUTH_SaveChallenge` over a value of `valueLen` bytes. -/
def saveChallengeFields (packet : List UInt8) (valueLen : Nat) :
    Nat → Nat → SavedChallenge → Except Fault SavedChallenge
  | 0, _, _ => .error .fuel
  | fuel + 1, i, saved =>
      if i < valueLen then do
        let tag ← readByte packet i
        let len ← readByte packet (i + 1)
        let saved ← saveChallengeField packet tag len (i + 2) saved
        saveChallengeFields packet valueLen fuel (i + 2 + len.toNat) saved
      else .ok saved

/-- `OI_OBEXAUTH_SaveChallenge`, with the value of `common->readOnly` it leaves. -/
def saveChallenge (auth : Authentication) (packet : List UInt8) (valueLen : Nat) :
    Except Fault (Status × Authentication × Bool) := do
  let saved ← saveChallengeFields packet valueLen (valueLen + 1) 0 ⟨.ok, 0, auth⟩
  return (saved.status,
    { saved.auth with userIdRequested := saved.options &&& authUseridOption ≠ 0 },
    saved.options &&& authReadonlyOption ≠ 0)

/-- One field of a response, its value at index `i`. -/
def saveResponseField (packet : List UInt8) (tag len : UInt8) (i : Nat) (status : Status)
    (auth : Authentication) : Except Fault (Status × Authentication) :=
  if tag = responseDigestRequestTag then
    if len.toNat ≠ authDigestLen then .ok (.obexInvalidAuthDigest, auth)
    else do
      let digest ← readBytes packet i authDigestLen
      return (status, { auth with responseDigest := digest })
  else if tag = responseDigestUseridTag then
    if len = 0 then .ok (status, auth)
    else if len.toNat > maxUseridLen then .ok (.obexInvalidAuthDigest, auth)
    else do
      let userId ← readBytes packet i len.toNat
      return (status, { auth with userIdRemote := userId })
  else .ok (status, auth)

/-- The loop of `OI_OBEXAUTH_SaveResponse`. -/
def saveResponseFields (packet : List UInt8) (valueLen : Nat) :
    Nat → Nat → Status → Authentication → Except Fault (Status × Authentication)
  | 0, _, _, _ => .error .fuel
  | fuel + 1, i, status, auth =>
      if i < valueLen then do
        let tag ← readByte packet i
        let len ← readByte packet (i + 1)
        let (status, auth) ← saveResponseField packet tag len (i + 2) status auth
        saveResponseFields packet valueLen fuel (i + 2 + len.toNat) status auth
      else .ok (status, auth)

/-- `OI_OBEXAUTH_SaveResponse`. -/
def saveResponse (auth : Authentication) (packet : List UInt8) (valueLen : Nat) :
    Except Fault (Status × Authentication) :=
  saveResponseFields packet valueLen (valueLen + 1) 0 .ok { auth with userIdRemote := [] }

section Digest

variable (md5 : Md5)

/-- The digest of a nonce and a password. -/
def passwordDigest (nonce password : List UInt8) : List UInt8 :=
  md5.hash (nonce ++ 0x3A :: password)

/-- `OI_OBEXAUTH_ComposeResponse`. -/
def composeResponse (auth : Authentication) : Header :=
  let digest := passwordDigest md5 auth.challengeDigest auth.password
  let userId :=
    if auth.userId.length > 0 then
      responseDigestUseridTag :: UInt8.ofNat auth.userId.length :: auth.userId
    else []
  .byteseq (hdrLow hdrAuthenticationResponse)
    (responseDigestRequestTag :: UInt8.ofNat authDigestLen :: digest ++ userId)

/-- The options of a challenge. -/
def challengeOptions (common : Common) (auth : Authentication) : UInt8 :=
  (if common.readOnly then authReadonlyOption else 0) |||
    (if auth.userIdRequired then authUseridOption else 0)

/-- `auth->challengeHeader` as `OI_OBEXAUTH_ComposeChallenge` fills it in. -/
def challengeBytes (privateKey timestamp : List UInt8) (realm : Option Realm) (common : Common)
    (auth : Authentication) : List UInt8 :=
  let options := challengeOptions common auth
  challengeDigestNonceTag :: UInt8.ofNat authDigestLen :: md5.hash (timestamp ++ privateKey) ++
    (if options ≠ 0 then [challengeDigestOptionsTag, 1, options] else []) ++
    match realm with
    | some realm =>
        challengeDigestRealmTag :: UInt8.ofNat (1 + realm.realm.length) :: realm.charSet ::
          realm.realm
    | none => []

/-- `OI_OBEXAUTH_ComposeChallenge`: the header and the changed record. -/
def composeChallenge (privateKey timestamp : List UInt8) (realm : Option Realm) (common : Common)
    (auth : Authentication) : Header × Authentication :=
  let bytes := challengeBytes md5 privateKey timestamp realm common auth
  (.byteseq (hdrLow hdrAuthenticationChallenge) bytes, { auth with challengeHeader := bytes })

/-- `OI_OBEXAUTH_Authenticate`: the nonce is read back from the challenge sent. -/
def authenticate (auth : Authentication) : Status :=
  let nonce := (auth.challengeHeader.drop 2).take authDigestLen
  if passwordDigest md5 nonce auth.password = auth.responseDigest then .ok else .obexUnauthorized

end Digest

end Obex
