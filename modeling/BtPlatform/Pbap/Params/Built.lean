import BtPlatform.Pbap.Params.Parsed
import BtPlatform.Pbap.Session

/-!
# The client: the parameters it builds

`BuildAppParams`, which writes the optional arguments of a request as triples, and what
`ParseAppParams` reads of them.
-/

namespace Pbap

open Format Support Support.ByteStream List

/-- The arguments of `BuildAppParams`, with the values that their enumerations have. -/
structure BuildArgs where
  params : AppParams
  supportedFeatures : Option UInt32
  order_mem : ∀ v ∈ params.order, v ∈ orderValues
  format_mem : ∀ v ∈ params.format, v ∈ formatValues
  searchValue_lt : ∀ value ∈ params.searchValue, value.length < 256

/-- `OI_PBAP_APP_PARAM_HEADER_SIZE`. -/
def paramHeaderSize : Nat := 2

/-- The size of an argument with its header, if it is there. -/
def paramSize {α : Type} (arg : Option α) (size : α → Nat) : Nat :=
  match arg with
  | some a => paramHeaderSize + size a
  | none => 0

def setAppParamTagInfo (tagId tagLen : Nat) (bs : ByteStream) : Except Fault ByteStream :=
  bs.putUINT8 tagId >>= fun bs => bs.putUINT8 tagLen

/-- Write an argument if it is there. -/
def putArg {α : Type} (arg : Option α) (put : α → ByteStream → Except Fault ByteStream)
    (bs : ByteStream) : Except Fault ByteStream :=
  match arg with
  | some a => put a bs
  | none => .ok bs

/-- The halves `I1` and `I2` of a filter. -/
def filterHalves (filter : UInt64) : UInt32 × UInt32 :=
  ((filter >>> 32).toUInt32, filter.toUInt32)

namespace BuildArgs

variable (a : BuildArgs)

/-- The size of the buffer: the search attribute counts with and without a search value. -/
def paramLen : Nat :=
  paramSize a.params.order (fun _ => 1) + paramSize a.params.searchAttribute (fun _ => 1) +
    paramSize a.params.searchValue length + paramSize a.params.listStartOffset (fun _ => 2) +
    paramSize a.params.maxListCount (fun _ => 2) + paramSize a.params.filter (fun _ => 8) +
    paramSize a.params.format (fun _ => 1) + paramSize a.supportedFeatures (fun _ => 4)

def putFilter (bs : ByteStream) : Except Fault ByteStream :=
  putArg a.params.filter (fun filter bs => do
    let bs ← setAppParamTagInfo 0x06 8 bs
    let bs ← bs.putUINT32 (filterHalves filter).1.toNat
    bs.putUINT32 (filterHalves filter).2.toNat) bs

def putFormat (bs : ByteStream) : Except Fault ByteStream :=
  putArg a.params.format (fun format bs => do
    let bs ← setAppParamTagInfo 0x07 1 bs
    bs.putUINT8 format.toNat) bs

def putOrder (bs : ByteStream) : Except Fault ByteStream :=
  putArg a.params.order (fun order bs => do
    let bs ← setAppParamTagInfo 0x01 1 bs
    bs.putUINT8 order.toNat) bs

def putSearchAttribute (bs : ByteStream) : Except Fault ByteStream :=
  putArg a.params.searchAttribute (fun sAttr bs => do
    let bs ← setAppParamTagInfo 0x03 1 bs
    bs.putUINT8 sAttr.toNat) bs

/-- The search value, and with it the search attribute. -/
def putSearch (bs : ByteStream) : Except Fault ByteStream :=
  putArg a.params.searchValue (fun value bs => do
    let bs ← setAppParamTagInfo 0x02 value.length bs
    let bs ← bs.putBytes value
    a.putSearchAttribute bs) bs

def putListStartOffset (bs : ByteStream) : Except Fault ByteStream :=
  putArg a.params.listStartOffset (fun offset bs => do
    let bs ← setAppParamTagInfo 0x05 2 bs
    bs.putUINT16 offset.toNat) bs

def putMaxListCount (bs : ByteStream) : Except Fault ByteStream :=
  putArg a.params.maxListCount (fun count bs => do
    let bs ← setAppParamTagInfo 0x04 2 bs
    bs.putUINT16 count.toNat) bs

def putSupportedFeatures (bs : ByteStream) : Except Fault ByteStream :=
  putArg a.supportedFeatures (fun features bs => do
    let bs ← setAppParamTagInfo 0x10 4 bs
    bs.putUINT32 features.toNat) bs

/-- What `BuildAppParams` writes into its buffer. -/
def putAll (bs : ByteStream) : Except Fault ByteStream := do
  let bs ← a.putFilter bs
  let bs ← a.putFormat bs
  let bs ← a.putOrder bs
  let bs ← a.putSearch bs
  let bs ← a.putListStartOffset bs
  let bs ← a.putMaxListCount bs
  a.putSupportedFeatures bs

/-- `BuildAppParams`: the status, `appParam` with its `appParamLen` bytes, and the memory. -/
def buildAppParams (memory : Memory) : Except Fault (Status × Option (List UInt8) × Memory) :=
  if a.paramLen = 0 then .ok (.ok, none, memory)
  else do
    let (room, memory) := memory.takeBlock
    if room then
      let bs ← a.putAll (.open' (replicate a.paramLen 0) 0 .write)
      let bs := bs.close
      return (.ok, some (bs.bsdata.take bs.size), memory)
    else return (.outOfMemory, none, memory)

/-! ## The triples -/

/-- The triples of an argument, if it is there. -/
def tripleOf {α : Type} (arg : Option α) (field : α → Field) : List Field :=
  match arg with
  | some a => [field a]
  | none => []

def byteField (tag v : UInt8) : Field := ⟨tag, [v], Nat.lt_of_sub_eq_succ rfl⟩

def wordField (tag : UInt8) (n : UInt16) : Field :=
  ⟨tag, bigEndian16 n.toNat, Nat.lt_of_sub_eq_succ rfl⟩

def filterField (filter : UInt64) : Field :=
  ⟨0x06, bigEndian32 (filterHalves filter).1.toNat ++ bigEndian32 (filterHalves filter).2.toNat,
    Nat.lt_of_sub_eq_succ rfl⟩

def featuresField (features : UInt32) : Field :=
  ⟨0x10, bigEndian32 features.toNat, Nat.lt_of_sub_eq_succ rfl⟩

/-- The triples of a search value and its attribute. -/
def searchFields : List Field :=
  match h : a.params.searchValue with
  | some value =>
      ⟨0x02, value, a.searchValue_lt value h⟩ ::
        tripleOf a.params.searchAttribute (byteField 0x03)
  | none => []

/-- The triples that `ParseAppParams` knows. -/
def knownFields : List Field :=
  tripleOf a.params.filter filterField ++ (tripleOf a.params.format (byteField 0x07) ++
    (tripleOf a.params.order (byteField 0x01) ++ (a.searchFields ++
      (tripleOf a.params.listStartOffset (wordField 0x05) ++
        tripleOf a.params.maxListCount (wordField 0x04)))))

theorem searchFields_some {a : BuildArgs} {value : List UInt8}
    (h : a.params.searchValue = some value) :
    ∃ f : Field, f.tag = 0x02 ∧ f.value = value ∧
      a.searchFields = f :: tripleOf a.params.searchAttribute (byteField 0x03) := by
  unfold searchFields
  split
  · next value' hvalue =>
      cases h.symm.trans hvalue
      exact ⟨_, rfl, rfl, rfl⟩
  · next hvalue => cases h.symm.trans hvalue

theorem searchFields_none {a : BuildArgs} (h : a.params.searchValue = none) :
    a.searchFields = [] := by
  unfold searchFields
  split
  · next hvalue => cases h.symm.trans hvalue
  · rfl

def fields : List Field := a.knownFields ++ tripleOf a.supportedFeatures featuresField

/-! ## What is written -/

theorem setAppParamTagInfo_puts (tagId tagLen : Nat) :
    Puts (setAppParamTagInfo tagId tagLen) [UInt8.ofNat tagId, UInt8.ofNat tagLen] :=
  .seq (.putUINT8 tagId) (.putUINT8 tagLen)

theorem puts_putArg {α : Type} (arg : Option α) {put : α → ByteStream → Except Fault ByteStream}
    {field : α → Field} (h : ∀ v, Puts (put v) (field v).encode) :
    Puts (putArg arg put) (encodeFields (tripleOf arg field)) := by
  cases arg with
  | none => exact .skip
  | some v =>
      rw [tripleOf, encodeFields_cons, encodeFields_nil, append_nil]
      exact h v

/-- A value of one byte, with its header. -/
theorem putByte_puts (tag v : UInt8) :
    Puts (fun bs => do
      let bs ← setAppParamTagInfo tag.toNat 1 bs
      bs.putUINT8 v.toNat) (byteField tag v).encode := by
  have h := Puts.seq (setAppParamTagInfo_puts tag.toNat 1) (Puts.putUINT8 v.toNat)
  rw [UInt8.ofNat_toNat, UInt8.ofNat_toNat] at h
  exact h

/-- A value of two bytes, with its header. -/
theorem putWord_puts (tag : UInt8) (n : UInt16) :
    Puts (fun bs => do
      let bs ← setAppParamTagInfo tag.toNat 2 bs
      bs.putUINT16 n.toNat) (wordField tag n).encode := by
  have h := Puts.seq (setAppParamTagInfo_puts tag.toNat 2) (Puts.putUINT16 n.toNat)
  rw [UInt8.ofNat_toNat] at h
  exact h

theorem putFilter_puts : Puts a.putFilter (encodeFields (tripleOf a.params.filter filterField)) :=
  puts_putArg _ fun filter =>
    .seq (setAppParamTagInfo_puts 0x06 8)
      (.seq (.putUINT32 (filterHalves filter).1.toNat)
        (.putUINT32 (filterHalves filter).2.toNat))

theorem putSearch_puts : Puts a.putSearch (encodeFields a.searchFields) := by
  have hattribute : Puts a.putSearchAttribute
      (encodeFields (tripleOf a.params.searchAttribute (byteField 0x03))) :=
    puts_putArg _ fun v => putByte_puts 0x03 v
  unfold putSearch
  cases hvalue : a.params.searchValue with
  | none =>
      rw [searchFields_none hvalue]
      exact .skip
  | some value =>
      obtain ⟨f, htag, rfl, hfields⟩ := searchFields_some hvalue
      rw [hfields, encodeFields_cons, Field.encode, htag]
      have h := Puts.seq (setAppParamTagInfo_puts 0x02 f.value.length)
        (.seq (.putBytes f.value) hattribute)
      exact h

theorem putAll_puts : Puts a.putAll (encodeFields a.fields) := by
  unfold fields knownFields
  simp only [encodeFields_append, append_assoc]
  exact .seq a.putFilter_puts (.seq (puts_putArg _ fun v => putByte_puts 0x07 v)
    (.seq (puts_putArg _ fun v => putByte_puts 0x01 v) (.seq a.putSearch_puts
      (.seq (puts_putArg _ fun n => putWord_puts 0x05 n)
        (.seq (puts_putArg _ fun n => putWord_puts 0x04 n)
          (puts_putArg _ fun features =>
            .seq (setAppParamTagInfo_puts 0x10 4) (.putUINT32 features.toNat)))))))

theorem tripleOf_length {α : Type} (arg : Option α) {field : α → Field} {size : α → Nat}
    (h : ∀ v, (field v).value.length = size v) :
    (encodeFields (tripleOf arg field)).length = paramSize arg size := by
  cases arg with
  | none => rfl
  | some v =>
      rw [tripleOf, encodeFields_cons, encodeFields_nil, append_nil, Field.encode_length, h,
        paramSize, paramHeaderSize, Nat.add_comm]

theorem searchFields_length : (encodeFields a.searchFields).length ≤
    paramSize a.params.searchValue length + paramSize a.params.searchAttribute
      (fun _ => 1) := by
  cases hvalue : a.params.searchValue with
  | none =>
      rw [searchFields_none hvalue]
      exact Nat.zero_le _
  | some value =>
      obtain ⟨f, -, rfl, hfields⟩ := searchFields_some hvalue
      have hattribute : (encodeFields (tripleOf a.params.searchAttribute (byteField 0x03))).length =
          paramSize a.params.searchAttribute (fun _ => 1) := tripleOf_length _ fun _ => rfl
      rw [hfields, encodeFields_cons, length_append, Field.encode_length, hattribute,
        paramSize, paramHeaderSize]
      omega

/-- The buffer has room for all triples. -/
theorem fields_length : (encodeFields a.fields).length ≤ a.paramLen := by
  have hsearch := a.searchFields_length
  have hfilter : (encodeFields (tripleOf a.params.filter filterField)).length =
      paramSize a.params.filter (fun _ => 8) := tripleOf_length _ fun _ => rfl
  have hformat : (encodeFields (tripleOf a.params.format (byteField 0x07))).length =
      paramSize a.params.format (fun _ => 1) := tripleOf_length _ fun _ => rfl
  have horder : (encodeFields (tripleOf a.params.order (byteField 0x01))).length =
      paramSize a.params.order (fun _ => 1) := tripleOf_length _ fun _ => rfl
  have hoffset : (encodeFields (tripleOf a.params.listStartOffset (wordField 0x05))).length =
      paramSize a.params.listStartOffset (fun _ => 2) := tripleOf_length _ fun _ => rfl
  have hcount : (encodeFields (tripleOf a.params.maxListCount (wordField 0x04))).length =
      paramSize a.params.maxListCount (fun _ => 2) := tripleOf_length _ fun _ => rfl
  have hfeatures : (encodeFields (tripleOf a.supportedFeatures featuresField)).length =
      paramSize a.supportedFeatures (fun _ => 4) := tripleOf_length _ fun _ => rfl
  unfold fields knownFields paramLen
  simp only [encodeFields_append, length_append]
  omega

/-- What `BuildAppParams` builds is its triples one after the other. -/
theorem buildAppParams_eq {memory memory' : Memory} {data : Option (List UInt8)}
    (h : a.buildAppParams memory = .ok (.ok, data, memory')) :
    data.getD [] = encodeFields a.fields := by
  have hlength := a.fields_length
  unfold buildAppParams at h
  split at h
  · next hzero =>
      cases h
      rw [hzero, Nat.le_zero] at hlength
      exact (length_eq_zero_iff.1 hlength).symm
  · dsimp only at h
    split at h
    · obtain ⟨bs, hput, hw, hsize⟩ := a.putAll_puts
        (.open' (replicate a.paramLen 0) 0 .write) []
        (ByteStream.writing_open' _ _) (by
          change 0 + _ ≤ (replicate a.paramLen (0 : UInt8)).length
          rw [length_replicate, Nat.zero_add]
          exact hlength)
      rw [hput, ok_bind] at h
      cases h
      have hwritten := hw.written
      unfold ByteStream.close
      rw [if_pos hw.writing]
      exact hwritten
    · cases h

end BuildArgs

end Pbap
