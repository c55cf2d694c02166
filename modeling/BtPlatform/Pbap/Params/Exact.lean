import BtPlatform.Pbap.Client
import BtPlatform.Pbap.Params.Built
import BtPlatform.Pbap.Params.Record

/-!
# Application parameters from end to end

What the server reads of the parameters that the client builds, and what the client reads
of a response.
-/

namespace Pbap

open Format Support PbapServer List

theorem wordOf_bigEndian16 (n : UInt16) : wordOf (bigEndian16 n.toNat) = n := by
  apply UInt16.toNat_inj.1
  rw [bigEndian16, wordOf, ofBigEndian16_ofNat, UInt16.toNat_ofNat', Nat.mod_mod,
    Nat.mod_eq_of_lt n.toNat_lt]

theorem ofBigEndian32_toNat (n : UInt32) :
    UInt32.ofNat (ofBigEndian32 (UInt8.ofNat (n.toNat / 65536 / 256))
      (UInt8.ofNat (n.toNat / 65536)) (UInt8.ofNat (n.toNat / 256)) (UInt8.ofNat n.toNat)) = n := by
  apply UInt32.toNat_inj.1
  rw [ofBigEndian32_ofNat, UInt32.toNat_ofNat', Nat.mod_mod, Nat.mod_eq_of_lt n.toNat_lt]

theorem filterOf_bigEndian32 {n m : UInt32} :
    filterOf (bigEndian32 n.toNat ++ bigEndian32 m.toNat) = (n, m) :=
  Prod.ext (ofBigEndian32_toNat n) (ofBigEndian32_toNat m)

/-- The parameters of a server that was given these. -/
def AppParams.given (params : AppParams) : ServerParams where
  order := params.order.getD orderIndexed
  orderSet := params.order.isSome
  searchAttribute := params.searchAttribute.getD searchAttributeName
  searchAttributeSet := params.searchAttribute.isSome
  searchValue := params.searchValue
  searchValueLen := UInt8.ofNat (params.searchValue.getD []).length
  searchValueSet := params.searchValue.isSome
  maxListCount := params.maxListCount.getD 65535
  maxListCountSet := params.maxListCount.isSome
  listStartOffset := params.listStartOffset.getD 0
  listStartOffsetSet := params.listStartOffset.isSome
  filter := (params.filter.map filterHalves).getD (0, 0)
  filterSet := params.filter.isSome
  format := params.format.getD formatVCard21
  formatSet := params.format.isSome

namespace BuildArgs

variable (a : BuildArgs)

/-- The parameters that are sent: a search attribute only with a search value. -/
def sent : AppParams :=
  { a.params with
    searchAttribute := if a.params.searchValue.isSome then a.params.searchAttribute else none }

theorem foldl_tripleOf {α : Type} (params : ServerParams) (arg : Option α) (field : α → Field) :
    (tripleOf arg field).foldl record params =
      arg.elim params fun v => record params (field v) := by
  cases arg with
  | none => rfl
  | some v => rfl

section Given

variable {q : AppParams}

theorem foldl_filter (h : q.filter = none) (arg : Option UInt64) :
    (tripleOf arg filterField).foldl record q.given = { q with filter := arg }.given := by
  rw [foldl_tripleOf]
  cases arg with
  | none => rw [Option.elim_none, ← h]
  | some v =>
      have hset : ¬ q.given.filterSet = true := by
        unfold AppParams.given
        rw [h]
        exact Bool.false_ne_true
      rw [Option.elim_some, record_filter _ rfl, if_neg hset]
      exact congrArg (fun halves => { q.given with filter := halves, filterSet := true })
        filterOf_bigEndian32

theorem foldl_format (h : q.format = none) (arg : Option UInt8) :
    (tripleOf arg (byteField 0x07)).foldl record q.given = { q with format := arg }.given := by
  rw [foldl_tripleOf]
  cases arg with
  | none => rw [Option.elim_none, ← h]
  | some v =>
      have hset : ¬ q.given.formatSet = true := by
        unfold AppParams.given
        rw [h]
        exact Bool.false_ne_true
      rw [Option.elim_some, record_format _ rfl, if_neg hset]
      rfl

theorem foldl_order (h : q.order = none) (arg : Option UInt8) :
    (tripleOf arg (byteField 0x01)).foldl record q.given = { q with order := arg }.given := by
  rw [foldl_tripleOf]
  cases arg with
  | none => rw [Option.elim_none, ← h]
  | some v =>
      have hset : ¬ q.given.orderSet = true := by
        unfold AppParams.given
        rw [h]
        exact Bool.false_ne_true
      rw [Option.elim_some, record_order _ rfl, if_neg hset]
      rfl

theorem foldl_searchAttribute (h : q.searchAttribute = none) (arg : Option UInt8) :
    (tripleOf arg (byteField 0x03)).foldl record q.given =
      { q with searchAttribute := arg }.given := by
  rw [foldl_tripleOf]
  cases arg with
  | none => rw [Option.elim_none, ← h]
  | some v =>
      have hset : ¬ q.given.searchAttributeSet = true := by
        unfold AppParams.given
        rw [h]
        exact Bool.false_ne_true
      rw [Option.elim_some, record_searchAttribute _ rfl, if_neg hset]
      rfl

theorem foldl_listStartOffset (h : q.listStartOffset = none) (arg : Option UInt16) :
    (tripleOf arg (wordField 0x05)).foldl record q.given =
      { q with listStartOffset := arg }.given := by
  rw [foldl_tripleOf]
  cases arg with
  | none => rw [Option.elim_none, ← h]
  | some v =>
      have hset : ¬ q.given.listStartOffsetSet = true := by
        unfold AppParams.given
        rw [h]
        exact Bool.false_ne_true
      rw [Option.elim_some, record_listStartOffset _ rfl, if_neg hset]
      exact congrArg (fun n => { q.given with listStartOffset := n, listStartOffsetSet := true })
        (wordOf_bigEndian16 v)

theorem foldl_maxListCount (h : q.maxListCount = none) (arg : Option UInt16) :
    (tripleOf arg (wordField 0x04)).foldl record q.given =
      { q with maxListCount := arg }.given := by
  rw [foldl_tripleOf]
  cases arg with
  | none => rw [Option.elim_none, ← h]
  | some v =>
      have hset : ¬ q.given.maxListCountSet = true := by
        unfold AppParams.given
        rw [h]
        exact Bool.false_ne_true
      rw [Option.elim_some, record_maxListCount _ rfl, if_neg hset]
      exact congrArg (fun n => { q.given with maxListCount := n, maxListCountSet := true })
        (wordOf_bigEndian16 v)

theorem foldl_searchFields (hvalue : q.searchValue = none) (hattribute : q.searchAttribute = none) :
    a.searchFields.foldl record q.given = { q with
      searchValue := a.params.searchValue, searchAttribute := a.sent.searchAttribute }.given := by
  unfold sent
  cases harg : a.params.searchValue with
  | none =>
      obtain ⟨order, searchAttribute, searchValue, offset, count, filter, format⟩ := q
      obtain rfl : searchValue = none := hvalue
      obtain rfl : searchAttribute = none := hattribute
      rw [searchFields_none harg]
      rfl
  | some value =>
      obtain ⟨f, htag, rfl, hfields⟩ := searchFields_some harg
      have hset : ¬ q.given.searchValueSet = true := by
        unfold AppParams.given
        rw [hvalue]
        exact Bool.false_ne_true
      dsimp only
      rw [hfields, foldl_cons, record_searchValue _ htag, if_neg hset, if_pos (by rfl)]
      exact @foldl_searchAttribute { q with searchValue := some f.value } hattribute _

end Given

/-- The triples, read one after the other, are the parameters sent. -/
theorem foldl_knownFields : a.knownFields.foldl record .default = a.sent.given := by
  have hnone : ServerParams.default =
      (⟨none, none, none, none, none, none, none⟩ : AppParams).given :=
    rfl
  unfold knownFields
  rw [hnone, foldl_append, foldl_filter rfl, foldl_append, foldl_format rfl,
    foldl_append, foldl_order rfl, foldl_append, foldl_searchFields a rfl rfl,
    foldl_append, foldl_listStartOffset rfl, foldl_maxListCount rfl]
  rfl

theorem tripleOf_legal {α : Type} {arg : Option α} {field : α → Field} (tag : UInt8)
    (hknown : Known tag) (htag : ∀ v, (field v).tag = tag) (h : ∀ v ∈ arg, Legal (field v)) :
    ∀ f ∈ tripleOf arg field, Known f.tag ∧ Legal f := by
  intro f hf
  cases arg with
  | none => cases hf
  | some v =>
      obtain rfl := mem_singleton.1 hf
      rw [htag]
      exact ⟨hknown, h v rfl⟩

theorem searchFields_legal : ∀ f ∈ a.searchFields, Known f.tag ∧ Legal f := by
  intro f hf
  cases hvalue : a.params.searchValue with
  | none =>
      rw [searchFields_none hvalue] at hf
      cases hf
  | some value =>
      obtain ⟨g, htag, -, hfields⟩ := searchFields_some hvalue
      rw [hfields] at hf
      obtain rfl | hf := mem_cons.1 hf
      · rw [htag]
        exact ⟨by decide, Legal.of_searchValue htag⟩
      · exact tripleOf_legal 0x03 (by decide) (fun _ => rfl)
          (fun _ _ => Legal.of_searchAttribute rfl rfl) f hf

/-- All triples but the supported features are legal ones that the server knows. -/
theorem knownFields_legal : ∀ f ∈ a.knownFields, Known f.tag ∧ Legal f := by
  intro f hf
  unfold knownFields at hf
  simp only [mem_append] at hf
  obtain hf | hf | hf | hf | hf | hf := hf
  · exact tripleOf_legal 0x06 (by decide) (fun _ => rfl) (fun _ _ => Legal.of_filter rfl rfl) f hf
  · exact tripleOf_legal 0x07 (by decide) (fun _ => rfl)
      (fun v hv => Legal.of_format rfl ⟨v, a.format_mem v hv, rfl⟩) f hf
  · exact tripleOf_legal 0x01 (by decide) (fun _ => rfl)
      (fun v hv => Legal.of_order rfl ⟨v, a.order_mem v hv, rfl⟩) f hf
  · exact a.searchFields_legal f hf
  · exact tripleOf_legal 0x05 (by decide) (fun _ => rfl)
      (fun _ _ => Legal.of_count (.inr rfl) rfl) f hf
  · exact tripleOf_legal 0x04 (by decide) (fun _ => rfl)
      (fun _ _ => Legal.of_count (.inl rfl) rfl) f hf

theorem paramSize_le {α : Type} (arg : Option α) {size : α → Nat} {n : Nat}
    (h : ∀ v ∈ arg, size v ≤ n) : paramSize arg size ≤ 2 + n := by
  cases arg with
  | none => exact Nat.zero_le _
  | some v => exact Nat.add_le_add_left (h v rfl) 2

theorem fields_length_lt : (encodeFields a.fields).length < 65536 := by
  have hlength := a.fields_length
  unfold paramLen at hlength
  have horder := paramSize_le a.params.order fun _ _ => Nat.le_refl 1
  have hattribute := paramSize_le a.params.searchAttribute fun _ _ => Nat.le_refl 1
  have hvalue := paramSize_le a.params.searchValue fun value hvalue =>
    Nat.le_of_lt (a.searchValue_lt value hvalue)
  have hoffset := paramSize_le a.params.listStartOffset fun _ _ => Nat.le_refl 2
  have hcount := paramSize_le a.params.maxListCount fun _ _ => Nat.le_refl 2
  have hfilter := paramSize_le a.params.filter fun _ _ => Nat.le_refl 8
  have hformat := paramSize_le a.params.format fun _ _ => Nat.le_refl 1
  have hfeatures := paramSize_le a.supportedFeatures fun _ _ => Nat.le_refl 4
  omega

/-- The server reads the parameters that were sent. -/
theorem parseAppParams_built {s : PbapServer} {memory memory' room : Memory}
    {data : Option (List UInt8)} (hfeatures : a.supportedFeatures = none)
    (hbuilt : a.buildAppParams memory = .ok (.ok, data, memory')) (hs : s.appParams = .default)
    (hroomy : Roomy s.appParams room) :
    ∃ room', s.parseAppParams room (data.getD []) =
      .ok (.ok, { s with appParams := a.sent.given }, room') := by
  have hfields : a.fields = a.knownFields := by
    unfold fields
    rw [hfeatures]
    exact append_nil _
  have hlength := a.fields_length_lt
  rw [hfields] at hlength
  rw [a.buildAppParams_eq hbuilt, hfields]
  have hexact := parseAppParams_exact hlength hroomy
    (clearParams_encodeFields a.knownFields_legal)
  rw [← a.foldl_knownFields, ← hs]
  exact hexact.1 a.knownFields rfl fun f hf => (a.knownFields_legal f hf).2

/-- With memory the parameters are built. -/
theorem buildAppParams_ok {memory : Memory} (hmemory : memory.takeBlock.1 = true) :
    ∃ data memory', a.buildAppParams memory = .ok (.ok, data, memory') := by
  unfold buildAppParams
  split
  · exact ⟨none, memory, rfl⟩
  · obtain ⟨bs, hput, -, -⟩ := a.putAll_puts (.open' (replicate a.paramLen 0) 0 .write) []
      (ByteStream.writing_open' _ _) (by
        have hlength := a.fields_length
        change 0 + _ ≤ (replicate a.paramLen (0 : UInt8)).length
        rw [length_replicate, Nat.zero_add]
        exact hlength)
    dsimp only
    rw [if_pos hmemory, hput, ok_bind]
    exact ⟨_, _, rfl⟩

/-- What is built is read as it was given, by any server whose parameters are clear. -/
def Recovered : Prop :=
  ∀ (memory memory' : Memory) (data : Option (List UInt8)),
    a.buildAppParams memory = .ok (.ok, data, memory') →
    ∀ (s : PbapServer) (room : Memory), s.appParams = .default → Roomy s.appParams room →
      ∃ room', s.parseAppParams room (data.getD []) =
        .ok (.ok, { s with appParams := a.params.given }, room')

/-- Parameters are recovered unless a search attribute comes without a search value. -/
theorem recovered_iff (hfeatures : a.supportedFeatures = none) :
    a.Recovered ↔ (a.params.searchAttribute.isSome → a.params.searchValue.isSome) := by
  constructor
  · intro hrecovered hattribute
    obtain ⟨data, memory', hbuilt⟩ := @buildAppParams_ok a .plenty rfl
    obtain ⟨room, hgiven⟩ := hrecovered _ _ _ hbuilt
      PbapServer.registered.clearAppParams .plenty rfl
      fun _ => rfl
    obtain ⟨room', hsent⟩ := @parseAppParams_built a PbapServer.registered.clearAppParams _ _
      .plenty _ hfeatures hbuilt rfl fun _ => rfl
    have hset : a.sent.searchAttribute.isSome = a.params.searchAttribute.isSome := by
      have heq := hsent.symm.trans hgiven
      injection heq with heq
      injection heq with _ heq
      injection heq with heq _
      exact congrArg (fun s : PbapServer => s.appParams.searchAttributeSet) heq
    unfold sent at hset
    dsimp only at hset
    split at hset
    · next hvalue => exact hvalue
    · rw [hattribute] at hset
      cases hset
  · intro hvalue memory memory' data hbuilt s room hs hroomy
    have hsent : a.sent = a.params := by
      unfold sent
      split
      · rfl
      · next hnone =>
          have hattribute : a.params.searchAttribute = none := by
            rw [← Option.not_isSome_iff_eq_none]
            exact fun h => hnone (hvalue h)
          rw [← hattribute]
    rw [← hsent]
    exact a.parseAppParams_built hfeatures hbuilt hs hroomy

end BuildArgs

end Pbap
