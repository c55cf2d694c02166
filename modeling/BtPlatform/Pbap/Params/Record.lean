import BtPlatform.Pbap.Server
import BtPlatform.Support.ByteStream

/-!
# The server: its record and the application parameters

The `PBAP_SERVER` record, and the functions that read the application parameters of a
GET into it: `ClearAppParams` and `ParseAppParams`.
-/

namespace Pbap

open Support

/-- `OI_OBEXSRV_CONNECTION_HANDLE`. -/
abbrev ConnId : Type := Nat

/-- An `OI_PBAP_HANDLE` that is not null. -/
abbrev FileHandle : Type := Nat

/-- `PBAP_SERVER_STATE`. -/
inductive ServerState
  | idle
  | connected
  | gettingPhonebook
  | gettingPhonebookSize
  | gettingPhonebookListing
  | gettingVCard
  deriving DecidableEq, Repr

/-- The `appParams` of a `PBAP_SERVER`. -/
structure ServerParams where
  order : UInt8
  orderSet : Bool
  searchAttribute : UInt8
  searchAttributeSet : Bool
  searchValue : Option (List UInt8)
  searchValueLen : UInt8
  searchValueSet : Bool
  maxListCount : UInt16
  maxListCountSet : Bool
  listStartOffset : UInt16
  listStartOffsetSet : Bool
  filter : UInt32 × UInt32
  filterSet : Bool
  format : UInt8
  formatSet : Bool
  deriving DecidableEq, Repr

/-- `OI_PBAP_ORDER_…`, `OI_PBAP_SEARCH_ATTRIBUTE_NAME` and `OI_PBAP_FORMAT_VCARD_…`. -/
def orderIndexed : UInt8 := 0
def orderAlphanumeric : UInt8 := 1
def orderPhonetic : UInt8 := 2
def searchAttributeName : UInt8 := 0
def formatVCard21 : UInt8 := 0
def formatVCard30 : UInt8 := 1

/-- The parameters that `ClearAppParams` sets. -/
def ServerParams.default : ServerParams where
  order := orderIndexed
  orderSet := false
  searchAttribute := searchAttributeName
  searchAttributeSet := false
  searchValue := none
  searchValueLen := 0
  searchValueSet := false
  maxListCount := 65535
  maxListCountSet := false
  listStartOffset := 0
  listStartOffsetSet := false
  filter := (0, 0)
  filterSet := false
  format := formatVCard21
  formatSet := false

/-- `PBAP_SERVER`: the position is a record of its own. -/
structure PbapServer where
  state : ServerState
  file : Option FileHandle
  maxRead : UInt16
  id : Option ConnId
  position : Server
  pathElements : List (List UInt16)
  reportMissedCalls : Bool
  newMissedCalls : UInt8
  getObject : ObjectType
  appParams : ServerParams
  unauthorized : Bool
  incompleteGet : Bool
  deriving DecidableEq, Repr

/-- The record that `OI_PBAPServer_Register` allocates. -/
def PbapServer.registered : PbapServer where
  state := .idle
  file := none
  maxRead := 0
  id := none
  position := ⟨.localRepository, .mainPhonebook, false, false, 0⟩
  pathElements := []
  reportMissedCalls := false
  newMissedCalls := 0
  getObject := .vCardListing
  appParams := { ServerParams.default with maxListCount := 0 }
  unauthorized := false
  incompleteGet := false

namespace PbapServer

def clearAppParams (s : PbapServer) : PbapServer :=
  { s with getObject := .vCard, reportMissedCalls := false, appParams := .default }

/-! ## Application parameters -/

/-- The variables of `ParseAppParams`. -/
structure Parsing where
  params : ServerParams
  bs : ByteStream
  len : UInt8
  memory : Memory
  deriving DecidableEq, Repr

/-- The frame of a case of `ParseAppParams`: the length is checked if it is fixed, and a
duplicate is skipped. -/
def parseParam (size : Option Nat) (set : ServerParams → Bool)
    (parse : Parsing → Except Fault (Status × Parsing)) (p : Parsing) :
    Except Fault (Status × Parsing) :=
  if size.any fun n => p.len.toNat ≠ n then .ok (.obexPreconditionFailed, p)
  else if set p.params then .ok (.ok, { p with bs := p.bs.skipChecked p.len.toNat })
  else parse p

/-- A parameter of one byte with the values it may have. A byte that is missing leaves
the tag in its variable. -/
def parseByte (tag : UInt8) (values : List UInt8)
    (store : UInt8 → Bool → ServerParams → ServerParams)
    (p : Parsing) : Except Fault (Status × Parsing) := do
  let (rawByte, bs) ← p.bs.getUINT8Checked tag
  if rawByte ∈ values then return (.ok, { p with bs := bs, params := store rawByte true p.params })
  else
    return (.obexPreconditionFailed, { p with bs := bs, params := store rawByte false p.params })

/-- The case `OI_PBAP_TAG_ID_SEARCH_VALUE`. -/
def parseSearchValue (p : Parsing) : Except Fault (Status × Parsing) := do
  let (room, memory) := p.memory.takeBlock
  if room then
    let (value, bs) ← p.bs.getBytesChecked [] p.len.toNat
    return (.ok, { p with
      bs := bs
      memory := memory
      params := { p.params with
        searchValueLen := p.len, searchValue := some value, searchValueSet := true } })
  else
    return (.outOfMemory, { p with
      memory := memory
      params := { p.params with searchValueLen := p.len, searchValue := none } })

/-- The case `OI_PBAP_TAG_ID_SEARCH_ATTRIBUTE`. -/
def parseSearchAttribute (p : Parsing) : Except Fault (Status × Parsing) := do
  let (sAttr, bs) ← p.bs.getUINT8Checked 0
  return (.ok, { p with
    bs := bs
    params := { p.params with searchAttribute := sAttr, searchAttributeSet := true } })

/-- The case `OI_PBAP_TAG_ID_MAX_LIST_COUNT`. -/
def parseMaxListCount (p : Parsing) : Except Fault (Status × Parsing) := do
  let (count, bs) ← p.bs.getUINT16Checked p.params.maxListCount.toNat
  return (.ok, { p with
    bs := bs
    params := { p.params with maxListCount := UInt16.ofNat count, maxListCountSet := true } })

/-- The case `OI_PBAP_TAG_ID_LIST_START_OFFSET`. -/
def parseListStartOffset (p : Parsing) : Except Fault (Status × Parsing) := do
  let (offset, bs) ← p.bs.getUINT16Checked p.params.listStartOffset.toNat
  return (.ok, { p with
    bs := bs
    params := { p.params with
      listStartOffset := UInt16.ofNat offset, listStartOffsetSet := true } })

/-- The case `OI_PBAP_TAG_ID_FILTER`. -/
def parseFilter (p : Parsing) : Except Fault (Status × Parsing) := do
  let (i1, bs) ← p.bs.getUINT32Checked p.params.filter.1.toNat
  let (i2, bs) ← bs.getUINT32Checked p.params.filter.2.toNat
  return (.ok, { p with
    bs := bs
    params := { p.params with
      filter := (UInt32.ofNat i1, UInt32.ofNat i2), filterSet := true } })

/-- The switch of `ParseAppParams` over the tag. Of a tag that is not known only the tag
and the length are read. -/
def parseTag (tag : UInt8) (p : Parsing) : Except Fault (Status × Parsing) :=
  if tag = 0x01 then
    parseParam (some 1) ServerParams.orderSet
      (parseByte tag [orderIndexed, orderAlphanumeric, orderPhonetic] fun value set params =>
        { params with order := value, orderSet := set }) p
  else if tag = 0x02 then parseParam none ServerParams.searchValueSet parseSearchValue p
  else if tag = 0x03 then parseParam none ServerParams.searchAttributeSet parseSearchAttribute p
  else if tag = 0x04 then parseParam (some 2) ServerParams.maxListCountSet parseMaxListCount p
  else if tag = 0x05 then
    parseParam (some 2) ServerParams.listStartOffsetSet parseListStartOffset p
  else if tag = 0x06 then parseParam (some 8) ServerParams.filterSet parseFilter p
  else if tag = 0x07 then
    parseParam (some 1) ServerParams.formatSet
      (parseByte tag [formatVCard21, formatVCard30] fun value set params =>
        { params with format := value, formatSet := set }) p
  else .ok (.ok, p)

/-- The loop of `ParseAppParams`; every round reads at least the tag. -/
def parseTags : Nat → Parsing → Except Fault (Status × Parsing)
  | 0, _ => .error .fuel
  | fuel + 1, p =>
      if p.bs.numReadBytesAvail > 0 then do
        let (tag, bs) ← p.bs.getUINT8Checked 0
        let (len, bs) ← bs.getUINT8Checked p.len
        let (status, p) ← parseTag tag { p with bs := bs, len := len }
        if status.success then parseTags fuel p else return (status, p)
      else if p.bs.error then .ok (.obexPreconditionFailed, p)
      else .ok (.ok, p)

def parseAppParams (s : PbapServer) (memory : Memory) (data : List UInt8) :
    Except Fault (Status × PbapServer × Memory) := do
  let (status, p) ← parseTags (data.length + 1)
    { params := s.appParams, bs := .open' data 0 .read, len := 0, memory := memory }
  return (status, { s with appParams := p.params }, p.memory)

end PbapServer

end Pbap
