import BtPlatform.Unicode.Stream

/-!
# Encoded strings

The comparisons of an encoded string with a C string or with another encoded
string, the two searches and the character count. An encoded string is the list
of its bytes, a C string the list of the bytes before its terminator; taking
the terminator for a character and reading on behind it is a read out of
bounds.
-/

namespace Unicode

open Support

/-- `UnicodeStream_Init` and `ByteStream_Open`, which want a stream of one byte at least. -/
def openStream (s : List UInt8) : Except Fault ByteStream :=
  if 0 < s.length then .ok (ByteStream.open' s 0 .read) else .error .assertion

/-- A turn of a comparison at a character `c` of the C string; `next` is the next turn. -/
def compareChar (e : Encoding) (c : UInt8) (next : ByteStream → Except Fault Int)
    (bs : ByteStream) : Except Fault Int :=
  if bs.numReadBytesAvail = 0 then .ok (-1)
  else do
    let (ch, bs) ← getChar e bs
    if ch < c.toNat then return -1
    else if c.toNat < ch then return 1
    else next bs

/-- A turn at the end of the C string. -/
def compareNul (e : Encoding) (next : ByteStream → Except Fault Int) (bs : ByteStream) :
    Except Fault Int :=
  if bs.numReadBytesAvail = 0 then .ok 0
  else do
    let (ch, bs) ← getChar e bs
    if 0 < ch then return 1 else next bs

/-- The loop of `OI_PStrcmp`. -/
def pstrcmpLoop (e : Encoding) : List UInt8 → ByteStream → Except Fault Int
  | [], bs => compareNul e (fun _ => .error .outOfBounds) bs
  | c :: s2, bs => compareChar e c (pstrcmpLoop e s2) bs

/-- `OI_PStrcmp`. -/
def pstrcmp (s1 : List UInt8) (e1 : Encoding) (s2 : List UInt8) : Except Fault Int :=
  if s1.length ≠ 0 then do
    let bs ← openStream s1
    pstrcmpLoop e1 s2 bs
  else if s2 = [] then .ok 0 else .ok (-1)

/-- The loop of `OI_PStrncmp`. A turn past the terminator that is the last one
ends the loop before anything is read there. -/
def pstrncmpLoop (e : Encoding) : Nat → List UInt8 → ByteStream → Except Fault Int
  | 0, _, _ => .ok 0
  | len + 1, [], bs =>
      compareNul e (fun _ => if len = 0 then .ok 0 else .error .outOfBounds) bs
  | len + 1, c :: s2, bs => compareChar e c (pstrncmpLoop e len s2) bs

/-- `OI_PStrncmp`. -/
def pstrncmp (s1 : List UInt8) (e1 : Encoding) (s2 : List UInt8) (len : Nat) :
    Except Fault Int :=
  if s1.length ≠ 0 then do
    let bs ← openStream s1
    pstrncmpLoop e1 len s2 bs
  else if s2 = [] then .ok 0 else .ok (-1)

/-- The loop of `OI_PStrcmp2`. -/
def pstrcmp2Loop (e1 e2 : Encoding) : Nat → ByteStream → ByteStream → Except Fault Int
  | 0, _, _ => .error .fuel
  | fuel + 1, bs1, bs2 =>
      if bs1.numReadBytesAvail = 0 then
        if bs2.numReadBytesAvail = 0 then .ok 0 else .ok (-1)
      else if bs2.numReadBytesAvail = 0 then .ok 1
      else do
        let (ch1, bs1) ← getChar e1 bs1
        let (ch2, bs2) ← getChar e2 bs2
        if ch1 < ch2 then return -1
        else if ch2 < ch1 then return 1
        else pstrcmp2Loop e1 e2 fuel bs1 bs2

/-- `OI_PStrcmp2`. -/
def pstrcmp2 (s1 : List UInt8) (e1 : Encoding) (s2 : List UInt8) (e2 : Encoding) :
    Except Fault Int :=
  if s1.length ≠ 0 ∧ s2.length ≠ 0 then do
    let bs1 ← openStream s1
    let bs2 ← openStream s2
    pstrcmp2Loop e1 e2 (s1.length + 1) bs1 bs2
  else if s2.length ≠ 0 then .ok (-1)
  else if s1.length ≠ 0 then .ok 1
  else .ok 0

/-- The inner loop of the searches: whether the C string stands at the position. -/
def matchHere (e : Encoding) : List UInt8 → Nat → ByteStream →
    Except Fault (Bool × Nat × ByteStream)
  | [], ch, bs => .ok (true, ch, bs)
  | c :: s, ch, bs =>
      if bs.numReadBytesAvail = 0 then .ok (false, ch, bs)
      else do
        let (ch, bs) ← getCharChecked e ch bs
        if ch ≠ c.toNat then return (false, ch, bs) else matchHere e s ch bs

/-- The outer loop of the searches. `OI_PStrIndexOf` returns at a match,
`OI_PStrLastIndexOf` notes it as its result and goes on. -/
def searchLoop (last : Bool) (e : Encoding) (s2 : List UInt8) :
    Nat → Nat → Int → ByteStream → Except Fault Int
  | 0, _, _, _ => .error .fuel
  | fuel + 1, ch, result, bs =>
      if bs.error ∨ bs.numReadBytesAvail = 0 then .ok result
      else do
        let pos := bs.pos
        let (hit, ch, bs) ← matchHere e s2 ch bs
        if hit ∧ ¬ last then return pos
        else
          let bs ← bs.setPos pos
          -- `UnicodeStream_SkipChar_Checked` reads into a variable of its own
          let (_, bs) ← getCharChecked e 0 bs
          searchLoop last e s2 fuel ch (if hit then pos else result) bs

/-- `OI_PStrIndexOf`. -/
def pstrIndexOf (s1 : List UInt8) (e1 : Encoding) (s2 : List UInt8) (pos : Nat) :
    Except Fault Int :=
  if s2 = [] then .ok pos
  else do
    let bs ← openStream s1
    let bs ← bs.setPos pos
    searchLoop false e1 s2 (s1.length + 1) 0 (-1) bs

/-- `OI_PStrLastIndexOf`. -/
def pstrLastIndexOf (s1 : List UInt8) (e1 : Encoding) (s2 : List UInt8) (pos : Nat) :
    Except Fault Int :=
  if s2 = [] then .ok 0
  else do
    let bs ← openStream s1
    let bs ← bs.setPos pos
    searchLoop true e1 s2 (s1.length + 1) 0 (-1) bs

/-- The count over the bytes of UTF-8: all but the continuation bytes. -/
def countLeads (s1 : List UInt8) : Nat := s1.countP (fun b => b.toNat / 64 ≠ 2)

/-- The count over the pairs of bytes of UTF-16: all but the low surrogates,
told by the high byte of the pair. The index is sixteen bits wide and would wrap
at an odd size of 65535, which no text has. -/
def countUnits (e : Encoding) : List UInt8 → Except Fault Nat
  | [] => .ok 0
  | [b] =>
      if e = .utf16BE then .ok (if b.toNat / 4 ≠ 0x37 then 1 else 0)
      else .error .outOfBounds
  | b0 :: b1 :: s1 => do
      let n ← countUnits e s1
      let high := if e = .utf16BE then b0 else b1
      return if high.toNat / 4 ≠ 0x37 then n + 1 else n

/-- `OI_PStrLen`. -/
def pstrLen (s1 : List UInt8) : Encoding → Except Fault Nat
  | .utf8 => .ok (countLeads s1)
  | .utf16LE => countUnits .utf16LE s1
  | .utf16BE => countUnits .utf16BE s1

end Unicode
