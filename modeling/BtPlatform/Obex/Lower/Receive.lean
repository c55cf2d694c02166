import BtPlatform.Obex.Channel

/-!
# The lower layer: receiving

`LowerTransportRecvDataInd` of `obex_lower_socket.c` puts OBEX packets together from
what the socket yields. A `Link` is the part of the lower connection that takes part in
this, the bytes on their way to the socket, and two ghosts: the requests made of `recv`
and the packets passed up. The bytes arrive in segments: one `recv` yields bytes of one
segment, and an empty segment stands for an error or the end of the stream.
-/

namespace Obex.Lower

open Support Format Program Prog

/-- `OI_OBEX_LOWER_PROTOCOL_ID`. -/
inductive Protocol
  | rfcomm
  | l2cap
  deriving DecidableEq, Repr

/-- The fields of `LOWER_CONNECTION_PRIVATE` that receiving uses. -/
structure LowerPrivate where
  protocol : Protocol
  mtu : Nat
  maxRxPacketSize : Nat
  readLen : Nat
  readPos : Nat
  readBuffer : List UInt8
  deriving DecidableEq, Repr

/-- A lower connection; `isOpen` tells whether its handle is still valid. A request is
the position in the buffer and the number of bytes asked for. -/
structure Link where
  lowerPrivate : LowerPrivate
  isOpen : Bool
  socket : List (List UInt8)
  requests : List (Nat × Int)
  delivered : List (List UInt8)
  deriving DecidableEq, Repr

/-- A program on the link. -/
abbrev OnLink (α : Type) : Type := Prog Link Fault α

/-- `OI_OBEX_SMALLEST_PKT`. -/
def smallestPkt : Nat := 3

/-- A difference as the `size_t` that `recv` takes. -/
def sizeT (n : Int) : Nat := (n % 18446744073709551616).toNat

/-- The bytes of a buffer replaced from a position on. -/
def overwrite (buffer : List UInt8) (pos : Nat) (data : List UInt8) : List UInt8 :=
  buffer.take pos ++ data ++ buffer.drop (pos + data.length)

/-! ## The function -/

/-- What a request for `n` bytes yields. -/
def Link.arriving (s : Link) (n : Nat) : List UInt8 := (s.socket.headD []).take n

/-- The socket after a request for `n` bytes. -/
def Link.remaining (s : Link) (n : Nat) : List (List UInt8) :=
  match s.socket with
  | [] => []
  | segment :: rest => if (segment.drop n).isEmpty then rest else segment.drop n :: rest

/-- `recv` into the buffer at the current position: the number of bytes, if positive. -/
def recv (n : Int) : OnLink (Option Nat) := do
  let s ← Prog.view id
  let data := s.arriving (sizeT n)
  Prog.update fun s =>
    { s with
      requests := s.requests ++ [(s.lowerPrivate.readPos, n)]
      socket := s.remaining (sizeT n) }
  if data.isEmpty then return none
  else if s.lowerPrivate.readPos + data.length ≤ s.lowerPrivate.readBuffer.length then
    Prog.update fun s =>
      { s with lowerPrivate := { s.lowerPrivate with
          readBuffer := overwrite s.lowerPrivate.readBuffer s.lowerPrivate.readPos data } }
    return some data.length
  else Prog.fault .outOfBounds

/-- `readPos += recvBytes`, a sixteen-bit sum. -/
def advance (recvBytes : Nat) : OnLink Unit :=
  Prog.update fun s =>
    { s with lowerPrivate := { s.lowerPrivate with
        readPos := (s.lowerPrivate.readPos + recvBytes) % 65536 } }

/-- `LowerTransportDisconnectInd`. -/
def disconnectInd : OnLink Unit := Prog.update fun s => { s with isOpen := false }

/-- The end of `LowerTransportRecvDataInd`: pass up the packet if it is complete. -/
def passUp : OnLink Bool := do
  let p ← Prog.view Link.lowerPrivate
  Prog.only (p.readPos = p.readLen) (Prog.update fun s =>
    { s with
      lowerPrivate := { s.lowerPrivate with readPos := 0, readLen := 0 }
      delivered := s.delivered ++ [p.readBuffer.take p.readLen] })
  return true

/-- The second read of `LowerTransportRecvDataInd`: the remainder of the packet. -/
def readRemainder : OnLink Bool := do
  let p ← Prog.view Link.lowerPrivate
  if p.readPos ≠ p.readLen then
    let recvBytes ← recv ((p.readLen : Int) - p.readPos)
    match recvBytes with
    | none => do
        disconnectInd
        return false
    | some recvBytes => do
        advance recvBytes
        passUp
  else passUp

/-- `GetUINT16_BigEndian` of the length field in the buffer. -/
def lengthField (buffer : List UInt8) : Except Fault Nat :=
  match buffer with
  | _ :: hi :: lo :: _ => .ok (ofBigEndian16 hi lo)
  | _ => .error .outOfBounds

/-- How far the first read of a packet goes. -/
def LowerPrivate.firstRead (p : LowerPrivate) : Nat :=
  match p.protocol with
  | .rfcomm => smallestPkt
  | .l2cap => p.maxRxPacketSize

def lowerTransportRecvDataInd : OnLink Bool := do
  let p ← Prog.view Link.lowerPrivate
  if p.readLen = 0 then
    let recvBytes ← recv ((p.firstRead : Int) - p.readPos)
    match recvBytes with
    | none => do
        disconnectInd
        return false
    | some recvBytes => do
        advance recvBytes
        let p ← Prog.view Link.lowerPrivate
        if p.readPos < smallestPkt then return true
        else
          let len ← Prog.lift (lengthField p.readBuffer)
          Prog.update fun s => { s with lowerPrivate := { s.lowerPrivate with readLen := len } }
          if len > p.mtu then
            disconnectInd
            return false
          else readRemainder
  else readRemainder

/-- A turn of the event loop: the function is called if the socket is readable. -/
def turn : OnLink Unit := do
  let s ← Prog.view id
  Prog.only (s.isOpen ∧ s.socket ≠ []) (do
    let _ ← lowerTransportRecvDataInd)

/-- A number of turns. -/
def turns (n : Nat) : OnLink Unit := Prog.perform (fun _ : Unit => turn) (List.replicate n ())

/-- The buffer that `allocLowerConnectionPrivate` allocates, and a new connection. -/
def Link.start (protocol : Protocol) (maxRxPacketSize : Nat) (readBuffer : List UInt8)
    (socket : List (List UInt8)) : Link where
  lowerPrivate :=
    { protocol := protocol
      mtu := readBuffer.length
      maxRxPacketSize := maxRxPacketSize
      readLen := 0
      readPos := 0
      readBuffer := readBuffer }
  isOpen := true
  socket := socket
  requests := []
  delivered := []

end Obex.Lower
