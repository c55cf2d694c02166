import BtPlatform.Format.Fields
import BtPlatform.Pbap.Params.Reading

/-!
# Application parameters as triples

What application parameters are: triples of a tag, a length and a value. Of each known
parameter the first triple counts, and triples with other tags are ignored.
-/

namespace Pbap

open Format Support List

/-- The tags that the server knows. -/
def Known (tag : UInt8) : Prop := 0x01 ≤ tag ∧ tag ≤ 0x07

instance (tag : UInt8) : Decidable (Known tag) := inferInstanceAs (Decidable (_ ∧ _))

theorem not_known {tag : UInt8} (h₁ : tag ≠ 0x01) (h₂ : tag ≠ 0x02) (h₃ : tag ≠ 0x03)
    (h₄ : tag ≠ 0x04) (h₅ : tag ≠ 0x05) (h₆ : tag ≠ 0x06) (h₇ : tag ≠ 0x07) : ¬ Known tag := by
  simp only [Known, UInt8.le_iff_toNat_le, ne_eq, ← UInt8.toNat_inj, UInt8.reduceToNat] at *
  omega

/-- The values of `OI_PBAP_ORDER_TAG_VALUES` and `OI_PBAP_FORMAT_TAG_VALUES`. -/
def orderValues : List UInt8 := [orderIndexed, orderAlphanumeric, orderPhonetic]
def formatValues : List UInt8 := [formatVCard21, formatVCard30]

/-- A triple that the standard allows: known tags have values of their own length, and an
order and a format one of the values they may have. -/
structure Legal (f : Field) : Prop where
  order : f.tag = 0x01 → ∃ v ∈ orderValues, f.value = [v]
  searchAttribute : f.tag = 0x03 → f.value.length = 1
  count : f.tag = 0x04 ∨ f.tag = 0x05 → f.value.length = 2
  filter : f.tag = 0x06 → f.value.length = 8
  format : f.tag = 0x07 → ∃ v ∈ formatValues, f.value = [v]

section Legal

variable {f : Field}

theorem Legal.of_order (htag : f.tag = 0x01) (h : ∃ v ∈ orderValues, f.value = [v]) : Legal f := by
  refine ⟨fun _ => h, ?_, ?_, ?_, ?_⟩ <;> simp [htag]

theorem Legal.of_searchValue (htag : f.tag = 0x02) : Legal f := by
  refine ⟨?_, ?_, ?_, ?_, ?_⟩ <;> simp [htag]

theorem Legal.of_searchAttribute (htag : f.tag = 0x03) (h : f.value.length = 1) : Legal f := by
  refine ⟨?_, fun _ => h, ?_, ?_, ?_⟩ <;> simp [htag]

theorem Legal.of_count (htag : f.tag = 0x04 ∨ f.tag = 0x05) (h : f.value.length = 2) :
    Legal f := by
  obtain htag | htag := htag
  · refine ⟨?_, ?_, fun _ => h, ?_, ?_⟩ <;> simp [htag]
  · refine ⟨?_, ?_, fun _ => h, ?_, ?_⟩ <;> simp [htag]

theorem Legal.of_filter (htag : f.tag = 0x06) (h : f.value.length = 8) : Legal f := by
  refine ⟨?_, ?_, ?_, fun _ => h, ?_⟩ <;> simp [htag]

theorem Legal.of_format (htag : f.tag = 0x07) (h : ∃ v ∈ formatValues, f.value = [v]) :
    Legal f := by
  refine ⟨?_, ?_, ?_, ?_, fun _ => h⟩ <;> simp [htag]

theorem Legal.of_unknown (htag : ¬ Known f.tag) : Legal f := by
  have hne : ∀ tag, Known tag → f.tag ≠ tag := by
    rintro tag hknown rfl
    exact htag hknown
  refine ⟨?_, ?_, ?_, ?_, ?_⟩
  · exact fun h => absurd h (hne _ (by decide))
  · exact fun h => absurd h (hne _ (by decide))
  · rintro (h | h)
    · exact absurd h (hne _ (by decide))
    · exact absurd h (hne _ (by decide))
  · exact fun h => absurd h (hne _ (by decide))
  · exact fun h => absurd h (hne _ (by decide))

end Legal

/-- The value of one byte. -/
def byteOf (value : List UInt8) : UInt8 := value.headD 0

/-- The value of two bytes. -/
def wordOf : List UInt8 → UInt16
  | hi :: lo :: _ => UInt16.ofNat (ofBigEndian16 hi lo)
  | _ => 0

/-- The value of eight bytes, in two halves. -/
def filterOf : List UInt8 → UInt32 × UInt32
  | b₇ :: b₆ :: b₅ :: b₄ :: b₃ :: b₂ :: b₁ :: b₀ :: _ =>
      (UInt32.ofNat (ofBigEndian32 b₇ b₆ b₅ b₄), UInt32.ofNat (ofBigEndian32 b₃ b₂ b₁ b₀))
  | _ => (0, 0)

/-- What a triple means: its parameter gets the value, unless it has one already. -/
def record (params : ServerParams) (f : Field) : ServerParams :=
  if f.tag = 0x01 then
    if params.orderSet then params
    else { params with order := byteOf f.value, orderSet := true }
  else if f.tag = 0x02 then
    if params.searchValueSet then params
    else { params with
      searchValueLen := f.len, searchValue := some f.value, searchValueSet := true }
  else if f.tag = 0x03 then
    if params.searchAttributeSet then params
    else { params with searchAttribute := byteOf f.value, searchAttributeSet := true }
  else if f.tag = 0x04 then
    if params.maxListCountSet then params
    else { params with maxListCount := wordOf f.value, maxListCountSet := true }
  else if f.tag = 0x05 then
    if params.listStartOffsetSet then params
    else { params with listStartOffset := wordOf f.value, listStartOffsetSet := true }
  else if f.tag = 0x06 then
    if params.filterSet then params
    else { params with filter := filterOf f.value, filterSet := true }
  else if f.tag = 0x07 then
    if params.formatSet then params
    else { params with format := byteOf f.value, formatSet := true }
  else params

section Record

variable {f : Field} (params : ServerParams)

theorem record_order (htag : f.tag = 0x01) : record params f =
    if params.orderSet then params
    else { params with order := byteOf f.value, orderSet := true } := by
  simp [record, htag]

theorem record_searchValue (htag : f.tag = 0x02) : record params f =
    if params.searchValueSet then params
    else { params with
      searchValueLen := f.len, searchValue := some f.value, searchValueSet := true } := by
  simp [record, htag]

theorem record_searchAttribute (htag : f.tag = 0x03) : record params f =
    if params.searchAttributeSet then params
    else { params with searchAttribute := byteOf f.value, searchAttributeSet := true } := by
  simp [record, htag]

theorem record_maxListCount (htag : f.tag = 0x04) : record params f =
    if params.maxListCountSet then params
    else { params with maxListCount := wordOf f.value, maxListCountSet := true } := by
  simp [record, htag]

theorem record_listStartOffset (htag : f.tag = 0x05) : record params f =
    if params.listStartOffsetSet then params
    else { params with listStartOffset := wordOf f.value, listStartOffsetSet := true } := by
  simp [record, htag]

theorem record_filter (htag : f.tag = 0x06) : record params f =
    if params.filterSet then params
    else { params with filter := filterOf f.value, filterSet := true } := by
  simp [record, htag]

theorem record_format (htag : f.tag = 0x07) : record params f =
    if params.formatSet then params
    else { params with format := byteOf f.value, formatSet := true } := by
  simp [record, htag]

theorem record_unknown (htag : ¬ Known f.tag) : record params f = params := by
  have hne : ∀ tag, Known tag → f.tag ≠ tag := by
    rintro tag hknown rfl
    exact htag hknown
  simp [record, hne _ (by decide : Known 0x01), hne _ (by decide : Known 0x02),
    hne _ (by decide : Known 0x03), hne _ (by decide : Known 0x04),
    hne _ (by decide : Known 0x05), hne _ (by decide : Known 0x06),
    hne _ (by decide : Known 0x07)]

end Record

/-- A string is a sequence of legal triples. -/
def LegalParams (data : List UInt8) : Prop :=
  ∃ fields, data = encodeFields fields ∧ ∀ f ∈ fields, Legal f

/-- A place where a triple begins that the server reads as it should: with a tag it does not
know the value is empty, a search attribute has one byte, and a repeated order or format
has a value it may have. -/
structure ClearAt (params : ServerParams) (tag len : UInt8) (tail : List UInt8) : Prop where
  unknown : ¬ Known tag → len = 0
  searchAttribute : tag = 0x03 → len = 1
  order : tag = 0x01 → params.orderSet = true → ∀ v ∈ tail.head?, v ∈ orderValues
  format : tag = 0x07 → params.formatSet = true → ∀ v ∈ tail.head?, v ∈ formatValues

/-- All triples that are reached are read as they should be. -/
def ClearParams (params : ServerParams) (data : List UInt8) : Prop :=
  ∀ front tag len tail, data = encodeFields front ++ tag :: len :: tail →
    (∀ f ∈ front, Legal f) → ClearAt (front.foldl record params) tag len tail

theorem legalParams_nil : LegalParams [] := ⟨[], rfl, nofun⟩

theorem not_legalParams_of_decode {data : List UInt8} (hne : data ≠ [])
    (h : Field.decode data = none) : ¬ LegalParams data := by
  rintro ⟨fields, hdata, -⟩
  exact fieldCodec.ne_encodeAll_of_decode_none hne h fields hdata

theorem not_legalParams_single (tag : UInt8) : ¬ LegalParams [tag] :=
  not_legalParams_of_decode nofun rfl

theorem not_legalParams_short {tag len : UInt8} {tail : List UInt8}
    (h : tail.length < len.toNat) : ¬ LegalParams (tag :: len :: tail) :=
  not_legalParams_of_decode nofun (Field.decode_short h)

/-- A string that begins with a complete triple. -/
theorem legalParams_cons_iff {f : Field} {rest : List UInt8} :
    LegalParams (f.encode ++ rest) ↔ Legal f ∧ LegalParams rest := by
  have hdecode := fieldCodec.decode_encode_append f rest
  constructor
  · rintro ⟨fields, hdata, hlegal⟩
    obtain ⟨tail, rfl, hrest⟩ := (fieldCodec.eq_encodeAll_iff_of_decode hdecode fields).1 hdata
    exact ⟨hlegal f mem_cons_self, tail, hrest,
      fun g hg => hlegal g (mem_cons_of_mem f hg)⟩
  · rintro ⟨hf, fields, rfl, hlegal⟩
    refine ⟨f :: fields, rfl, ?_⟩
    intro g hg
    obtain rfl | hg := mem_cons.1 hg
    · exact hf
    · exact hlegal g hg

/-- Of a string that begins with a complete triple the rest is read after it. -/
theorem eq_encodeFields_cons {f : Field} {rest : List UInt8} {fields : List Field}
    (h : f.encode ++ rest = encodeFields fields) :
    ∃ tail, fields = f :: tail ∧ rest = encodeFields tail :=
  (fieldCodec.eq_encodeAll_iff_of_decode (fieldCodec.decode_encode_append f rest) fields).1 h

theorem ClearParams.rest {params : ServerParams} {f : Field} {rest : List UInt8} (hf : Legal f)
    (h : ClearParams params (f.encode ++ rest)) : ClearParams (record params f) rest := by
  intro front tag len tail hrest hlegal
  refine h (f :: front) tag len tail ?_ ?_
  · rw [hrest, encodeFields_cons, append_assoc]
  · intro g hg
    obtain rfl | hg := mem_cons.1 hg
    · exact hf
    · exact hlegal g hg

/-- Legal triples with known tags are clear. -/
theorem clearParams_encodeFields {params : ServerParams} {fields : List Field}
    (h : ∀ f ∈ fields, Known f.tag ∧ Legal f) : ClearParams params (encodeFields fields) := by
  intro front tag len tail hdata _
  obtain ⟨f, rest, rfl, rfl, rfl, rfl⟩ := encodeFields_split hdata
  obtain ⟨hknown, hlegal⟩ := h f (mem_append_right front mem_cons_self)
  refine ⟨fun hunknown => absurd hknown hunknown, ?_, ?_, ?_⟩
  · intro htag
    rw [Field.len, hlegal.searchAttribute htag]
    rfl
  · intro htag _ v hv
    obtain ⟨w, hw, hvalue⟩ := hlegal.order htag
    rw [hvalue] at hv
    cases hv
    exact hw
  · intro htag _ v hv
    obtain ⟨w, hw, hvalue⟩ := hlegal.format htag
    rw [hvalue] at hv
    cases hv
    exact hw

theorem ClearParams.here {params : ServerParams} {tag len : UInt8} {tail : List UInt8}
    (h : ClearParams params (tag :: len :: tail)) : ClearAt params tag len tail :=
  h [] tag len tail rfl nofun

end Pbap
