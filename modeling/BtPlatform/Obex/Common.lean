import BtPlatform.Support.ByteStream
import BtPlatform.Support.Mbuf
import BtPlatform.Obex.Header

/-!
# State shared by the client and the server

The part of a connection that `obexcommon.c` and `obexauth.c` work on, and the
constants of the OBEX specification that the code names.
-/

namespace Obex

open Support List

/-! ## Header identifiers -/

def hdrName : UInt8 := 0x01
def hdrType : UInt8 := 0x42
def hdrTarget : UInt8 := 0x46
def hdrBody : UInt8 := 0x48
def hdrEndOfBody : UInt8 := 0x49
def hdrWho : UInt8 := 0x4A
def hdrConnectionId : UInt8 := 0xCB
def hdrAuthenticationChallenge : UInt8 := 0x4D
def hdrAuthenticationResponse : UInt8 := 0x4E
def hdrSessionParams : UInt8 := 0x52
def hdrActionId : UInt8 := 0x94
def hdrSingleResponseMode : UInt8 := 0x97
def hdrSingleResponseParameters : UInt8 := 0x98

/-- `OI_OBEX_HEADER_PREFIX_LEN`: identifier and length field. -/
def headerPrefixLen : Nat := 3

/-- `OI_OBEX_HDR_BUFSIZE`: room for composing a packet header. -/
def hdrBufsize : Nat := 8

/-- `OI_OBEX_IS_A_BODY_HEADER`. -/
def isABodyHeader (id : UInt8) : Bool := id == hdrBody || id == hdrEndOfBody

/-- `PRIORITY_HEADER`: headers that must come first in a packet. -/
def priorityHeader (id : UInt8) : Bool :=
  id == hdrTarget || id == hdrConnectionId || id == hdrSessionParams

/-! ## Operation and response codes -/

def cmdConnect : UInt8 := 0x80
def cmdDisconnect : UInt8 := 0x81
def cmdPut : UInt8 := 0x02
def cmdGet : UInt8 := 0x03
def cmdSetPath : UInt8 := 0x85
def cmdAction : UInt8 := 0x06
def cmdSession : UInt8 := 0x87
def cmdAbort : UInt8 := 0xFF

def rspContinue : UInt8 := 0x10
def rspOk : UInt8 := 0x20

/-- `OI_OBEX_FINAL`. -/
def obexFinal (code : UInt8) : UInt8 := code ||| 0x80

/-- `OI_OBEX_IS_FINAL`. -/
def obexIsFinal (code : UInt8) : Bool := code &&& 0x80 == 0x80

/-! ## The connection record -/

/-- The single response mode flags. -/
structure Srm where
  supported : Bool
  enabled : Bool
  requested : Bool
  deriving DecidableEq, Repr

def Srm.none : Srm := ⟨false, false, false⟩

/-- `OI_OBEX_REALM`. -/
structure Realm where
  charSet : UInt8
  realm : List UInt8
  deriving DecidableEq, Repr

/-- `OBEX_AUTHENTICATION`: what is remembered between the packets of a connect
request that needs authentication. -/
structure Authentication where
  password : List UInt8
  userId : List UInt8
  userIdRemote : List UInt8
  realm : Realm
  userIdRequired : Bool
  userIdRequested : Bool
  challengeDigest : List UInt8
  responseDigest : List UInt8
  challengeHeader : List UInt8
  deriving DecidableEq, Repr

/-- `OI_OBEX_AUTH_DIGEST_LEN`. -/
def authDigestLen : Nat := 16

/-- A cleared record. -/
def Authentication.zero : Authentication where
  password := []
  userId := []
  userIdRemote := []
  realm := ⟨0, []⟩
  userIdRequired := false
  userIdRequested := false
  challengeDigest := replicate authDigestLen 0
  responseDigest := replicate authDigestLen 0
  challengeHeader := replicate (2 + authDigestLen) 0

/-- `OBEX_COMMON`. The member `bodySegment` is `none` where its identifier is
zero in the source. -/
structure Common where
  mbuf : Option Mbuf
  authenticating : Nat
  readOnly : Bool
  authentication : Option Authentication
  srm : Srm
  srmParam : Nat
  srmpValid : Bool
  srmpWaitReceived : Bool
  maxRecvPktLen : Nat
  maxSendPktLen : Nat
  currentOpcode : UInt8
  bodySegment : Option Header
  progressBytes : Nat
  deriving DecidableEq, Repr

/-- A cleared record. -/
def Common.zero : Common where
  mbuf := none
  authenticating := 0
  readOnly := false
  authentication := none
  srm := Srm.none
  srmParam := 0
  srmpValid := false
  srmpWaitReceived := false
  maxRecvPktLen := 0
  maxSendPktLen := 0
  currentOpcode := 0
  bodySegment := none
  progressBytes := 0

/-- `progressBytes += n`, a thirty-two bit counter. -/
def Common.addProgress (common : Common) (n : Nat) : Common :=
  { common with progressBytes := (common.progressBytes + n) % 4294967296 }

end Obex
