import BtPlatform.Support.ByteStream

/-!
# Application parameters

`OI_OBEX_ParseAppParamsHeader` and `OI_OBEXCOMMON_BuildAppParamsHeader`. The parser scans
the bytes with checked accessors and counts the entries in eight bits; a second pass with
plain accessors fills the list.
-/

namespace Obex

open Support

/-- A pointer into a buffer. -/
structure BytePointer where
  buffer : List UInt8
  off : Nat
  deriving DecidableEq, Repr

/-- The next `n` bytes that a pointer leads to. -/
def BytePointer.read (p : BytePointer) (n : Nat) : Except Fault (List UInt8) :=
  if p.off + n ≤ p.buffer.length then .ok ((p.buffer.drop p.off).take n)
  else .error .outOfBounds

/-- `OI_OBEX_APP_PARAM`. -/
structure AppParam where
  tag : UInt8
  len : UInt8
  data : BytePointer
  deriving DecidableEq, Repr

/-- `OI_OBEX_APP_PARAM_LIST`; the array is `none` where the source has a null pointer. -/
structure AppParamList where
  count : UInt8
  list : Option (List AppParam)
  deriving DecidableEq, Repr

/-! ## Parsing -/

def scanAppParamsEntry (bs : ByteStream) : Except Fault (Status × ByteStream) := do
  let bs := bs.skipChecked 1
  let (len, bs) ← bs.getUINT8Checked 0
  let bs := bs.skipChecked len.toNat
  if bs.error then return (.obexError, bs)
  else return (.ok, bs)

/-- The scan, with the counter; `none` for bytes that are refused. -/
def scanAppParams : Nat → ByteStream → UInt8 → Except Fault (Option UInt8 × ByteStream)
  | 0, _, _ => .error .fuel
  | fuel + 1, bs, count =>
      if bs.numReadBytesAvail > 0 then do
        let (status, bs) ← scanAppParamsEntry bs
        if status ≠ .ok then return (none, bs)
        else scanAppParams fuel bs (count + 1)
      else return (some count, bs)

def parseAppParamsEntry (bs : ByteStream) : Except Fault (AppParam × ByteStream) := do
  let (tag, bs) ← bs.getUINT8
  let (len, bs) ← bs.getUINT8
  let data : BytePointer := ⟨bs.bsdata, bs.pos⟩
  let bs ← bs.skip len.toNat
  return (⟨tag, len, data⟩, bs)

/-- The loop that fills the list. -/
def parseAppParamsEntries : Nat → ByteStream → Except Fault (List AppParam × ByteStream)
  | 0, bs => return ([], bs)
  | n + 1, bs => do
      let (param, bs) ← parseAppParamsEntry bs
      let (params, bs) ← parseAppParamsEntries n bs
      return (param :: params, bs)

/-- `OI_OBEX_ParseAppParamsHeader`; `memory` tells whether `OI_Malloc` finds room for the
list. -/
def parseAppParamsHeader (rawData : List UInt8) (memory : Bool) :
    Except Fault (Status × AppParamList) := do
  let bs := ByteStream.open' rawData 0 .read
  match ← scanAppParams (rawData.length + 1) bs 0 with
  | (none, _) => return (.obexBadPacket, ⟨0, none⟩)
  | (some count, bs) =>
      let bs ← bs.setPos 0
      if count > 0 then
        if memory then
          let (list, _) ← parseAppParamsEntries count.toNat bs
          return (.ok, ⟨count, some list⟩)
        else return (.outOfMemory, ⟨count, none⟩)
      else return (.ok, ⟨count, none⟩)

/-! ## Building -/

/-- `params->list[i]`. -/
def AppParamList.entry (params : AppParamList) (i : Nat) : Except Fault AppParam :=
  match params.list with
  | none => .error .nullDeref
  | some list =>
      match list[i]? with
      | some param => .ok param
      | none => .error .outOfBounds

/-- The first loop: the sizes of the remaining entries, added up in sixteen bits. -/
def AppParamList.dataLen (params : AppParamList) : Nat → Nat → UInt16 → Except Fault UInt16
  | 0, _, len => return len
  | n + 1, i, len => do
      let param ← params.entry i
      params.dataLen n (i + 1) (len + (1 + 1 + param.len.toUInt16))

/-- The second loop: the remaining entries are written. -/
def AppParamList.putEntries (params : AppParamList) :
    Nat → Nat → ByteStream → Except Fault ByteStream
  | 0, _, bs => return bs
  | n + 1, i, bs => do
      let param ← params.entry i
      let bs ← bs.putUINT8 param.tag.toNat
      let bs ← bs.putUINT8 param.len.toNat
      let value ← param.data.read param.len.toNat
      let bs ← bs.putBytes value
      params.putEntries n (i + 1) bs

/-- What `OI_Malloc` returns for a size: a block of that many bytes, if there is one. -/
structure Malloc where
  block : Nat → Option (List UInt8)
  length_block : ∀ n bytes, block n = some bytes → bytes.length = n

/-- `OI_OBEXCOMMON_BuildAppParamsHeader`: the status, and `data->data` with its bytes. -/
def buildAppParamsHeader (malloc : Malloc) (params : AppParamList) :
    Except Fault (Status × Option (List UInt8)) := do
  let len ← params.dataLen params.count.toNat 0 0
  match malloc.block len.toNat with
  | none => return (.outOfMemory, none)
  | some data =>
      let bs ← params.putEntries params.count.toNat 0 (ByteStream.open' data 0 .write)
      if bs.size - bs.pos = 0 then return (.ok, some bs.bsdata)
      else throw .assertion

end Obex
