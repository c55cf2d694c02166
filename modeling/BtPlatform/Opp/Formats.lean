import Mathlib.Data.List.DropRight
import BtPlatform.Support.Compare
import BtPlatform.Support.Status

/-!
# Object push: the formats of objects

`IsSupportedType`, the filter that the server puts before a push, and `ObjTypeFromSuffix`,
which finds the type of an object that comes without a type header.
-/

namespace Opp

open Support

/-- `OI_toupper`. -/
def toUpper (c : UInt8) : UInt8 := if 0x61 ≤ c ∧ c ≤ 0x7A then c - 32 else c

/-- `OI_StrncmpInsensitive(p1, p2, len) == 0`. -/
def strncmpInsensitive (p1 p2 : List UInt8) (len : Nat) : Except Fault Bool :=
  match strncmp 0 toUpper p1 p2 len with
  | some o => .ok (decide (o = .eq))
  | none => .error .outOfBounds

/-- A string literal: its characters and the terminator. -/
def literal (text : List UInt8) : List UInt8 := text ++ [0]

/-- `text/x-vcard`. -/
def vCardType : List UInt8 :=
  [0x74, 0x65, 0x78, 0x74, 0x2F, 0x78, 0x2D, 0x76, 0x63, 0x61, 0x72, 0x64]

/-- `text/x-vcalendar`. -/
def vCalendarType : List UInt8 :=
  [0x74, 0x65, 0x78, 0x74, 0x2F, 0x78, 0x2D, 0x76, 0x63, 0x61, 0x6C, 0x65, 0x6E, 0x64, 0x61,
    0x72]

/-- `text/calendar`. -/
def iCalendarType : List UInt8 :=
  [0x74, 0x65, 0x78, 0x74, 0x2F, 0x63, 0x61, 0x6C, 0x65, 0x6E, 0x64, 0x61, 0x72]

/-- `text/x-vnote`. -/
def vNoteType : List UInt8 :=
  [0x74, 0x65, 0x78, 0x74, 0x2F, 0x78, 0x2D, 0x76, 0x6E, 0x6F, 0x74, 0x65]

/-- `text/x-vmsg`. -/
def vMessageType : List UInt8 :=
  [0x74, 0x65, 0x78, 0x74, 0x2F, 0x78, 0x2D, 0x76, 0x6D, 0x73, 0x67]

/-- `OI_OPP_SERVER_OBJ_FORMAT_…`, without `ANY`. -/
inductive Format
  | vCard
  | vCalendar
  | iCalendar
  | vNote
  | vMessage
  deriving DecidableEq, Repr

namespace Format

/-- The MIME type. -/
def mime : Format → List UInt8
  | vCard => vCardType
  | vCalendar => vCalendarType
  | iCalendar => iCalendarType
  | vNote => vNoteType
  | vMessage => vMessageType

/-- The bits of the format; two versions of vCard share a type. -/
def bits : Format → UInt32
  | vCard => 0x03
  | vCalendar => 0x04
  | iCalendar => 0x08
  | vNote => 0x10
  | vMessage => 0x20

/-- The suffix of a name, with its dot. -/
def suffix : Format → List UInt8
  | vCard => [0x2E, 0x76, 0x63, 0x66]
  | vCalendar => [0x2E, 0x76, 0x63, 0x73]
  | iCalendar => [0x2E, 0x69, 0x63, 0x73]
  | vNote => [0x2E, 0x76, 0x6E, 0x74]
  | vMessage => [0x2E, 0x76, 0x6D, 0x67]

/-- The formats in the order in which `IsSupportedType` compares their types. -/
def byType : List Format := [vCard, vCalendar, iCalendar, vNote, vMessage]

/-- The formats in the order in which `ObjTypeFromSuffix` compares their suffixes. -/
def bySuffix : List Format := [vCard, vCalendar, vNote, vMessage, iCalendar]

end Format

/-- `OI_OPP_SERVER_OBJ_FORMAT_ANY`. -/
def formatAny : UInt32 := 0xFFFFFFFF

/-- The comparisons of `IsSupportedType`: the first type that agrees decides. -/
def isSupportedAmong (type : List UInt8) (formats : UInt32) : List Format → Except Fault Bool
  | [] => .ok false
  | format :: rest => do
      let same ← strncmpInsensitive type (literal format.mime) type.length
      if same then return formats &&& format.bits ≠ 0
      else isSupportedAmong type formats rest

/-- `IsSupportedType`: the length of the type is that of the list. -/
def isSupportedType (type : List UInt8) (formats : UInt32) : Except Fault Bool :=
  if formats = formatAny then .ok true else isSupportedAmong type formats Format.byType

/-- A name without the terminators at its end. -/
def trimmed (name : List UInt16) : List UInt16 := name.rdropWhile (· = 0)

/-- `ObjTypeFromSuffix`: a type is derived from the low bytes of the last four
characters. -/
def objTypeFromSuffix (name : List UInt16) : List UInt8 :=
  let str := trimmed name
  if 5 ≤ str.length then
    let suffix := (str.drop (str.length - 4)).map fun c => UInt8.ofNat (c.toNat % 256)
    ((Format.bySuffix.find? fun format => format.suffix = suffix).map Format.mime).getD []
  else []

theorem strncmpInsensitive_literal (type text : List UInt8) :
    ∃ b, strncmpInsensitive type (literal text) type.length = .ok b := by
  have hsome : (strncmp 0 toUpper type (literal text) type.length).isSome :=
    strncmp_text_isSome rfl
  obtain ⟨o, ho⟩ := Option.isSome_iff_exists.1 hsome
  unfold strncmpInsensitive
  rw [ho]
  exact ⟨_, rfl⟩

theorem isSupportedAmong_ok (type : List UInt8) (formats : UInt32) (among : List Format) :
    ∃ b, isSupportedAmong type formats among = .ok b := by
  induction among with
  | nil => exact ⟨false, rfl⟩
  | cons format rest ih =>
      obtain ⟨same, hsame⟩ := strncmpInsensitive_literal type format.mime
      unfold isSupportedAmong
      rw [hsame, ok_bind]
      cases same with
      | true => exact ⟨_, rfl⟩
      | false => exact ih

/-- The filter reads no byte behind the type. -/
theorem isSupportedType_ok (type : List UInt8) (formats : UInt32) :
    ∃ b, isSupportedType type formats = .ok b := by
  unfold isSupportedType
  split
  · exact ⟨true, rfl⟩
  · exact isSupportedAmong_ok type formats _

end Opp
