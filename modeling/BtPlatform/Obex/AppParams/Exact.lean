import BtPlatform.Obex.AppParams.Codec

/-!
# Which bytes are application parameters

The parser returns the triples of its bytes as long as the counter can hold their number,
and refuses what is no list of triples. What the builder writes is such a list.
-/

namespace Obex

open Support List Support.ByteStream

/-- A tag with a value whose length fits in a byte. -/
structure Triple where
  tag : UInt8
  value : List UInt8
  value_lt : value.length < 256

namespace Triple

variable (t : Triple)

/-- The length byte. -/
def len : UInt8 := UInt8.ofNat t.value.length

/-- The bytes of a triple. -/
def encode : List UInt8 := t.tag :: t.len :: t.value

/-- The bytes of a list of triples. -/
def encodeAll (ts : List Triple) : List UInt8 := ts.flatMap encode

theorem toNat_len : t.len.toNat = t.value.length := by
  have hlt := t.value_lt
  rw [len, UInt8.toNat_ofNat']
  omega

theorem length_encode : t.encode.length = 2 + t.value.length := by
  rw [encode, length_cons, length_cons]
  omega

theorem encodeAll_cons (ts : List Triple) : encodeAll (t :: ts) = t.encode ++ encodeAll ts :=
  flatMap_cons

/-- The first triple of some bytes, as the two bytes in front of a value say. -/
def ofBytes (tag b : UInt8) (rest : List UInt8) : Triple where
  tag := tag
  value := rest.take b.toNat
  value_lt := by
    rw [length_take]
    exact Nat.lt_of_le_of_lt (Nat.min_le_left _ _) b.toNat_lt

theorem encode_ofBytes {tag b : UInt8} {rest : List UInt8} (h : b.toNat ≤ rest.length) :
    (ofBytes tag b rest).encode = tag :: b :: rest.take b.toNat := by
  have hlen : (rest.take b.toNat).length = b.toNat := by
    rw [length_take, Nat.min_eq_left h]
  rw [encode, len]
  dsimp only [ofBytes]
  rw [hlen, UInt8.ofNat_toNat]

/-- The entries of a list of triples that starts at an offset of some bytes. -/
def entries (raw : List UInt8) : Nat → List Triple → List AppParam
  | _, [] => []
  | off, t :: ts => ⟨t.tag, t.len, ⟨raw, off + 2⟩⟩ :: entries raw (off + t.encode.length) ts

end Triple

open Triple

/-! ## The scan -/

section Scan

variable {bs : ByteStream}

theorem scanAppParamsEntry_triple (h : bs.Readable) {tag b : UInt8} {rest : List UInt8}
    (hrest : bs.rest = tag :: b :: rest) (hroom : b.toNat ≤ rest.length) :
    scanAppParamsEntry bs = .ok (.ok, bs.advance (2 + b.toNat)) := by
  have hone : 1 ≤ bs.rest.length := by rw [hrest]; simp
  have h₁ := h.advance hone
  have hrest₁ : (bs.advance 1).rest = b :: rest := by rw [rest_advance, hrest]; rfl
  have htwo : 1 ≤ (bs.advance 1).rest.length := by rw [hrest₁]; simp
  have h₂ := h₁.advance htwo
  have hrest₂ : ((bs.advance 1).advance 1).rest = rest := by
    rw [rest_advance, hrest₁]
    rfl
  have hvalue : b.toNat ≤ ((bs.advance 1).advance 1).rest.length := by rw [hrest₂]; exact hroom
  have h₃ := h₂.advance hvalue
  unfold scanAppParamsEntry
  rw [skipChecked_of_le h hone]
  dsimp only
  rw [getUINT8Checked_cons h₁ 0 hrest₁, ok_bind]
  dsimp only
  rw [skipChecked_of_le h₂ hvalue, h₃.noError, if_neg Bool.false_ne_true,
    advance_advance, advance_advance, ← Nat.add_assoc]
  rfl

/-- Bytes that break off before the value is complete are refused. -/
theorem scanAppParamsEntry_short (h : bs.Readable)
    (hshort : ∀ tag b rest, bs.rest = tag :: b :: rest → rest.length < b.toNat) :
    ∃ bs', scanAppParamsEntry bs = .ok (.obexError, bs') := by
  have hskip : ∀ (bs : ByteStream) n, bs.error = true → (bs.skipChecked n).error = true := by
    intro bs n herror
    unfold ByteStream.skipChecked
    split
    · exact herror
    · rfl
  unfold scanAppParamsEntry
  cases hrest : bs.rest with
  | nil =>
      have hlt : bs.rest.length < 1 := by rw [hrest]; simp
      have hroom : ¬ bs.pos + 1 ≤ bs.size := h.noRoom hlt
      have hget : bs.setError.getUINT8Checked 0 = .ok (0, bs.setError.setError) := by
        unfold getUINT8Checked
        rw [if_pos (show bs.setError.rwFlag = .read from h.reading),
          if_neg (show ¬ bs.setError.pos + 1 ≤ bs.setError.size from hroom)]
      rw [skipChecked_of_lt h hlt]
      dsimp only
      rw [hget, ok_bind]
      dsimp only
      rw [if_pos (hskip _ _ rfl)]
      exact ⟨_, rfl⟩
  | cons tag tl =>
      have hone : 1 ≤ bs.rest.length := by rw [hrest]; simp
      have h₁ := h.advance hone
      have hrest₁ : (bs.advance 1).rest = tl := by rw [rest_advance, hrest]; rfl
      rw [skipChecked_of_le h hone]
      dsimp only
      cases tl with
      | nil =>
          rw [getUINT8Checked_nil h₁ 0 hrest₁, ok_bind]
          dsimp only
          rw [if_pos (hskip _ _ rfl)]
          exact ⟨_, rfl⟩
      | cons b rest =>
          have htwo : 1 ≤ (bs.advance 1).rest.length := by rw [hrest₁]; simp
          have hrest₂ : ((bs.advance 1).advance 1).rest = rest := by
            rw [rest_advance, hrest₁]
            rfl
          have hvalue : ((bs.advance 1).advance 1).rest.length < b.toNat := by
            rw [hrest₂]
            exact hshort tag b rest hrest
          rw [getUINT8Checked_cons h₁ 0 hrest₁, ok_bind]
          dsimp only
          rw [skipChecked_of_lt (h₁.advance htwo) hvalue,
            if_pos (setError_error _)]
          exact ⟨_, rfl⟩

theorem Readable_avail (h : bs.Readable) : bs.numReadBytesAvail = bs.rest.length := by
  rw [h.rest_length]
  rfl

theorem scanAppParams_triples {fuel : Nat} (h : bs.Readable) {ts : List Triple}
    (hrest : bs.rest = encodeAll ts) (hfuel : bs.rest.length < fuel) (count : UInt8) :
    scanAppParams fuel bs count =
      .ok (some (count + UInt8.ofNat ts.length), bs.advance bs.rest.length) := by
  induction fuel generalizing bs ts count with
  | zero => exact absurd hfuel (Nat.not_lt_zero _)
  | succ fuel ih =>
      unfold scanAppParams
      rw [Readable_avail h]
      cases ts with
      | nil =>
          have hnil : bs.rest.length = 0 := by rw [hrest]; rfl
          rw [hnil, if_neg (Nat.lt_irrefl 0), advance_zero]
          simp [pure, Except.pure]
      | cons t ts =>
          have hcons : bs.rest = t.tag :: t.len :: (t.value ++ encodeAll ts) := by
            rw [hrest, encodeAll_cons]
            rfl
          have hlength : bs.rest.length = 2 + t.value.length + (encodeAll ts).length := by
            rw [hcons, length_cons, length_cons, length_append]
            omega
          have hle : 2 + t.len.toNat ≤ bs.rest.length := by rw [toNat_len]; omega
          have hrest' : (bs.advance (2 + t.len.toNat)).rest = encodeAll ts := by
            rw [rest_advance, hcons, toNat_len, Nat.add_comm]
            exact drop_left
          have hstep := ih (h.advance hle) hrest' (by rw [hrest']; omega) (count + 1)
          rw [if_pos (by omega), scanAppParamsEntry_triple h hcons (by
            rw [toNat_len, length_append]; omega), ok_bind]
          dsimp only
          rw [if_neg (by decide), hstep, hrest', advance_advance, toNat_len, hlength,
            length_cons, Nat.add_comm ts.length 1, UInt8.ofNat_add, UInt8.add_assoc]
          rfl

theorem scanAppParams_refused {fuel : Nat} (h : bs.Readable)
    (hrest : ∀ ts, bs.rest ≠ encodeAll ts) (hfuel : bs.rest.length < fuel) (count : UInt8) :
    ∃ bs', scanAppParams fuel bs count = .ok (none, bs') := by
  induction fuel generalizing bs count with
  | zero => exact absurd hfuel (Nat.not_lt_zero _)
  | succ fuel ih =>
      have hpos : 0 < bs.rest.length := by
        refine Nat.pos_of_ne_zero fun hzero => hrest [] ?_
        rw [eq_nil_of_length_eq_zero hzero]
        rfl
      unfold scanAppParams
      rw [Readable_avail h, if_pos hpos]
      by_cases hwhole : ∃ tag b rest, bs.rest = tag :: b :: rest ∧ b.toNat ≤ rest.length
      · obtain ⟨tag, b, rest, hcons, hroom⟩ := hwhole
        have hlength : bs.rest.length = 2 + rest.length := by
          rw [hcons, length_cons, length_cons]
          omega
        have hrest' : (bs.advance (2 + b.toNat)).rest = rest.drop b.toNat := by
          rw [rest_advance, hcons, Nat.add_comm]
          rfl
        rw [scanAppParamsEntry_triple h hcons hroom, ok_bind]
        dsimp only
        rw [if_neg (by decide)]
        apply ih (h.advance (by omega))
        · intro ts hts
          rw [hrest'] at hts
          apply hrest (ofBytes tag b rest :: ts)
          rw [encodeAll_cons, encode_ofBytes hroom, ← hts, hcons, cons_append,
            cons_append, take_append_drop]
        · rw [hrest', length_drop]
          omega
      · obtain ⟨bs', hshort⟩ := scanAppParamsEntry_short h fun tag b rest hcons =>
          Nat.lt_of_not_le fun hroom => hwhole ⟨tag, b, rest, hcons, hroom⟩
        rw [hshort, ok_bind]
        exact ⟨bs', rfl⟩

end Scan

/-! ## The list -/

section Entries

variable {bs : ByteStream}

theorem parseAppParamsEntry_triple (h : bs.Readable) {t : Triple} {rest : List UInt8}
    (hrest : bs.rest = t.encode ++ rest) :
    parseAppParamsEntry bs =
      .ok (⟨t.tag, t.len, ⟨bs.bsdata, bs.pos + 2⟩⟩, bs.advance t.encode.length) := by
  have hcons : bs.rest = t.tag :: t.len :: (t.value ++ rest) := hrest
  have hone : 1 ≤ bs.rest.length := by rw [hcons]; simp
  have h₁ := h.advance hone
  have hrest₁ : (bs.advance 1).rest = t.len :: (t.value ++ rest) := by
    rw [rest_advance, hcons]
    rfl
  have h₂ := h₁.advance (n := 1) (by rw [hrest₁]; simp)
  have hvalue : t.len.toNat ≤ ((bs.advance 1).advance 1).rest.length := by
    rw [rest_advance, hrest₁, toNat_len, drop_one, tail_cons,
      length_append]
    omega
  unfold parseAppParamsEntry
  rw [getUINT8_cons h hcons, ok_bind]
  dsimp only
  rw [getUINT8_cons h₁ hrest₁, ok_bind]
  dsimp only
  rw [skip_of_le h₂ hvalue, ok_bind, advance_advance,
    advance_advance, toNat_len, length_encode]
  rfl

theorem parseAppParamsEntries_triples (h : bs.Readable) (ts : List Triple) {rest : List UInt8}
    (hrest : bs.rest = encodeAll ts ++ rest) :
    ∃ bs', parseAppParamsEntries ts.length bs = .ok (entries bs.bsdata bs.pos ts, bs') := by
  induction ts generalizing bs with
  | nil => exact ⟨bs, rfl⟩
  | cons t ts ih =>
      have hcons : bs.rest = t.encode ++ (encodeAll ts ++ rest) := by
        rw [hrest, encodeAll_cons, append_assoc]
      have hle : t.encode.length ≤ bs.rest.length := by
        rw [hcons, length_append]
        omega
      have hrest' : (bs.advance t.encode.length).rest = encodeAll ts ++ rest := by
        rw [rest_advance, hcons, drop_left]
      obtain ⟨bs', hrec⟩ := ih (h.advance hle) hrest'
      refine ⟨bs', ?_⟩
      rw [length_cons, parseAppParamsEntries, parseAppParamsEntry_triple h hcons, ok_bind]
      dsimp only
      rw [hrec, ok_bind]
      rfl

end Entries

/-- Of a list of triples the parser returns as many as the counter says. -/
theorem parseAppParamsHeader_triples (ts : List Triple) (hlen : (encodeAll ts).length < 65536) :
    parseAppParamsHeader (encodeAll ts) true = .ok (.ok, ⟨UInt8.ofNat ts.length,
      if UInt8.ofNat ts.length > 0 then
        some (entries (encodeAll ts) 0 (ts.take (UInt8.ofNat ts.length).toNat))
      else none⟩) := by
  have hread := readable_open' (encodeAll ts) 0 hlen
  have hrest := rest_open' (encodeAll ts) 0 .read
  have hscan := scanAppParams_triples hread hrest (by rw [hrest]; exact Nat.lt_succ_self _) 0
  unfold parseAppParamsHeader
  dsimp only
  rw [hscan, ok_bind, UInt8.zero_add]
  generalize hcount : UInt8.ofNat ts.length = count
  have hle : count.toNat ≤ ts.length := by
    rw [← hcount, UInt8.toNat_ofNat']
    exact Nat.mod_le _ _
  have hpos : ((ByteStream.open' (encodeAll ts) 0 .read).advance
      (ByteStream.open' (encodeAll ts) 0 .read).rest.length).setPos 0 =
      .ok (ByteStream.open' (encodeAll ts) 0 .read) := rfl
  dsimp only
  rw [hpos, ok_bind]
  split
  · have hsplit : (ByteStream.open' (encodeAll ts) 0 .read).rest =
        encodeAll (ts.take count.toNat) ++ encodeAll (ts.drop count.toNat) := by
      rw [hrest, encodeAll, encodeAll, encodeAll, ← flatMap_append, take_append_drop]
    obtain ⟨bs', hentries⟩ := parseAppParamsEntries_triples hread _ hsplit
    rw [length_take, Nat.min_eq_left hle] at hentries
    rw [if_pos rfl, hentries, ok_bind]
    rfl
  · rfl

/-- Bytes that are no list of triples are refused. -/
theorem parseAppParamsHeader_refused {raw : List UInt8} (hlen : raw.length < 65536)
    (hraw : ∀ ts, raw ≠ encodeAll ts) (memory : Bool) :
    parseAppParamsHeader raw memory = .ok (.obexBadPacket, ⟨0, none⟩) := by
  have hread := readable_open' raw 0 hlen
  have hrest := rest_open' raw 0 .read
  obtain ⟨bs', hscan⟩ := scanAppParams_refused hread (by rwa [hrest])
    (by rw [hrest]; exact Nat.lt_succ_self _) 0
  unfold parseAppParamsHeader
  dsimp only
  rw [hscan, ok_bind]
  rfl

/-! ## Building -/

namespace AppParam

/-- The value of an entry is there to be read. -/
def Readable (p : AppParam) : Prop := p.data.off + p.len.toNat ≤ p.data.buffer.length

/-- An entry with its value in the place of the pointer. -/
def content (p : AppParam) : UInt8 × UInt8 × Except Fault (List UInt8) :=
  (p.tag, p.len, p.data.read p.len.toNat)

/-- The triple of an entry. -/
def triple (p : AppParam) : Triple where
  tag := p.tag
  value := (p.data.buffer.drop p.data.off).take p.len.toNat
  value_lt := by
    rw [length_take]
    exact Nat.lt_of_le_of_lt (Nat.min_le_left _ _) p.len.toNat_lt

variable {p : AppParam}

theorem Readable.read (h : p.Readable) : p.data.read p.len.toNat = .ok p.triple.value := by
  unfold Readable at h
  rw [BytePointer.read, if_pos h]
  rfl

theorem Readable.length_value (h : p.Readable) : p.triple.value.length = p.len.toNat := by
  unfold Readable at h
  rw [triple, length_take, length_drop]
  omega

theorem Readable.len_triple (h : p.Readable) : p.triple.len = p.len := by
  rw [Triple.len, h.length_value, UInt8.ofNat_toNat]

theorem Readable.content_eq (h : p.Readable) :
    p.content = (p.triple.tag, p.triple.len, .ok p.triple.value) := by
  rw [content, h.read, h.len_triple]
  rfl

end AppParam

/-- The entries of a list of triples hold the values of the triples. -/
theorem Triple.content_entries {raw : List UInt8} (before : List UInt8) (ts : List Triple)
    (hraw : raw = before ++ encodeAll ts) :
    (entries raw before.length ts).map AppParam.content =
      ts.map fun t => (t.tag, t.len, .ok t.value) := by
  induction ts generalizing before with
  | nil => rfl
  | cons t ts ih =>
      rw [encodeAll_cons] at hraw
      have htail := ih (before ++ t.encode) (by rw [hraw, append_assoc])
      rw [length_append] at htail
      have hdrop : raw.drop (before.length + 2) = t.value ++ encodeAll ts := by
        rw [hraw, ← drop_drop, drop_left]
        rfl
      have hread : (BytePointer.mk raw (before.length + 2)).read t.len.toNat = .ok t.value := by
        have hle : before.length + 2 + t.len.toNat ≤ raw.length := by
          rw [hraw, toNat_len, length_append, length_append, length_encode]
          omega
        rw [BytePointer.read, if_pos hle, hdrop, toNat_len, take_left]
      rw [entries, map_cons, htail, map_cons, AppParam.content, hread]

/-- The triples of a list of entries. -/
def triplesOf (list : List AppParam) : List Triple := list.map AppParam.triple

section Build

variable {list : List AppParam} (count : UInt8)

theorem entry_of_lt {i : Nat} (hi : i < list.length) :
    (AppParamList.mk count (some list)).entry i = .ok list[i] := by
  unfold AppParamList.entry
  dsimp only
  rw [getElem?_eq_getElem hi]

theorem drop_triples {i : Nat} (hi : i < list.length) :
    encodeAll (triplesOf (list.drop i)) =
      list[i].triple.encode ++ encodeAll (triplesOf (list.drop (i + 1))) := by
  rw [drop_eq_getElem_cons hi, triplesOf, map_cons, encodeAll_cons]
  rfl

variable (hreadable : ∀ p ∈ list, p.Readable)

include hreadable

theorem dataLen_eq {n i : Nat} (hn : i + n = list.length) (len : UInt16) :
    (AppParamList.mk count (some list)).dataLen n i len =
      .ok (len + UInt16.ofNat (encodeAll (triplesOf (list.drop i))).length) := by
  induction n generalizing i len with
  | zero =>
      have hi : list.length ≤ i := Nat.le_of_eq hn.symm
      rw [drop_eq_nil_of_le hi]
      simp [AppParamList.dataLen, triplesOf, encodeAll, pure, Except.pure]
  | succ n ih =>
      have hi : i < list.length := by omega
      have hp := hreadable _ (getElem_mem hi)
      have hsize : (1 + 1 + list[i].len.toUInt16 : UInt16) =
          UInt16.ofNat list[i].triple.encode.length := by
        have hlt := list[i].len.toNat_lt
        rw [length_encode, hp.length_value, UInt16.ofNat_add]
        apply UInt16.toNat_inj.1
        simp
      rw [AppParamList.dataLen, entry_of_lt count hi, ok_bind, ih (by omega), drop_triples hi,
        length_append, UInt16.ofNat_add, hsize, UInt16.add_assoc]

theorem putEntries_writes {n i : Nat} (hn : i + n = list.length) {bs : ByteStream}
    {w : List UInt8} (hw : bs.Writing w)
    (hroom : bs.pos + (encodeAll (triplesOf (list.drop i))).length ≤ bs.size) :
    ∃ bs', (AppParamList.mk count (some list)).putEntries n i bs = .ok bs' ∧
      bs'.Writing (w ++ encodeAll (triplesOf (list.drop i))) ∧ bs'.size = bs.size := by
  induction n generalizing i bs w with
  | zero =>
      have hi : list.length ≤ i := Nat.le_of_eq hn.symm
      refine ⟨bs, rfl, ?_, rfl⟩
      rw [drop_eq_nil_of_le hi]
      exact (append_nil w).symm ▸ hw
  | succ n ih =>
      have hi : i < list.length := by omega
      have hp := hreadable _ (getElem_mem hi)
      rw [drop_triples hi, length_append, length_encode] at hroom
      obtain ⟨bs₁, hput₁, hw₁, hsize₁⟩ := hw.putUINT8 (by omega) list[i].tag.toNat
      have hpos := hw.pos_eq
      have hpos₁ := hw₁.pos_eq
      rw [length_append, length_singleton] at hpos₁
      obtain ⟨bs₂, hput₂, hw₂, hsize₂⟩ := hw₁.putUINT8 (by omega) list[i].len.toNat
      have hpos₂ := hw₂.pos_eq
      rw [length_append, length_append, length_singleton,
        length_singleton] at hpos₂
      obtain ⟨bs₃, hput₃, hw₃, hsize₃⟩ := hw₂.putBytes
        (show bs₂.pos + list[i].triple.value.length ≤ bs₂.size by omega)
      have hpos₃ := hw₃.pos_eq
      rw [length_append, length_append, length_append, length_singleton,
        length_singleton] at hpos₃
      obtain ⟨bs₄, hput₄, hw₄, hsize₄⟩ := @ih (i + 1) (by omega) _ _ hw₃ (by omega)
      refine ⟨bs₄, ?_, ?_, by omega⟩
      · rw [AppParamList.putEntries, entry_of_lt count hi, ok_bind, hput₁, ok_bind, hput₂, ok_bind,
          hp.read, ok_bind, hput₃, ok_bind, hput₄]
      · rw [drop_triples hi, encode, hp.len_triple]
        rw [UInt8.ofNat_toNat, UInt8.ofNat_toNat] at hw₄
        simpa [AppParam.triple] using hw₄

end Build

/-! ## Exactness -/

/-- A list of triples is returned as it is, and nothing else is accepted. -/
structure Parsed (raw : List UInt8) : Prop where
  returned : ∀ ts, raw = encodeAll ts → ∃ params,
    parseAppParamsHeader raw true = .ok (.ok, params) ∧ params.count.toNat = ts.length ∧
      params.list.getD [] = entries raw 0 ts
  refused : (∀ ts, raw ≠ encodeAll ts) → ∀ memory, ∃ status params,
    parseAppParamsHeader raw memory = .ok (status, params) ∧ status ≠ .ok

/-- What is built of a list fills its block to the end, and is parsed to the same list. -/
def RoundTrip (list : List AppParam) : Prop :=
  ∀ (malloc : Malloc) (block : List UInt8), malloc.block (encodeAll (triplesOf list)).length =
    some block → ∃ data params,
      buildAppParamsHeader malloc ⟨UInt8.ofNat list.length, some list⟩ = .ok (.ok, some data) ∧
        data = encodeAll (triplesOf list) ∧
          parseAppParamsHeader data true = .ok (.ok, params) ∧
            params.count.toNat = list.length ∧
              (params.list.getD []).map AppParam.content = list.map AppParam.content

theorem parsed_of_le {ts : List Triple} (hlen : (encodeAll ts).length < 65536)
    (hcount : ts.length ≤ 255) : ∃ params,
      parseAppParamsHeader (encodeAll ts) true = .ok (.ok, params) ∧
        params.count.toNat = ts.length ∧ params.list.getD [] = entries (encodeAll ts) 0 ts := by
  have htoNat : (UInt8.ofNat ts.length).toNat = ts.length := by
    rw [UInt8.toNat_ofNat']
    omega
  refine ⟨_, parseAppParamsHeader_triples ts hlen, htoNat, ?_⟩
  dsimp only
  split
  · rw [htoNat, take_length]
    rfl
  · next hzero =>
      have hnil : ts.length = 0 := by
        rw [← htoNat]
        exact Nat.eq_zero_of_not_pos fun hpos => hzero (UInt8.lt_iff_toNat_lt.2 hpos)
      rw [eq_nil_of_length_eq_zero hnil]
      rfl

theorem length_encodeAll_le (ts : List Triple) : (encodeAll ts).length ≤ 257 * ts.length := by
  induction ts with
  | nil => exact Nat.le_refl _
  | cons t ts ih =>
      have hlt := t.value_lt
      rw [encodeAll_cons, length_append, length_encode, length_cons]
      omega

theorem two_mul_length_le (ts : List Triple) : 2 * ts.length ≤ (encodeAll ts).length := by
  induction ts with
  | nil => exact Nat.le_refl _
  | cons t ts ih =>
      rw [encodeAll_cons, length_append, length_encode, length_cons]
      omega

theorem roundTrip {list : List AppParam} (hreadable : ∀ p ∈ list, p.Readable)
    (hcount : list.length ≤ 255) : RoundTrip list := by
  intro malloc block hblock
  have hlength : (triplesOf list).length = list.length := length_map _
  have hlt : (encodeAll (triplesOf list)).length < 65536 := by
    have hle := length_encodeAll_le (triplesOf list)
    omega
  have htoNat : (UInt8.ofNat list.length).toNat = list.length := by
    rw [UInt8.toNat_ofNat']
    omega
  have hsize : block.length = (encodeAll (triplesOf list)).length := malloc.length_block _ _ hblock
  obtain ⟨bs, hput, hw, hbs⟩ := putEntries_writes (UInt8.ofNat list.length) hreadable
    (Nat.zero_add _) (writing_open' block 0) (by
      rw [drop_zero, ← hsize]
      exact Nat.le_of_eq (Nat.zero_add _))
  rw [drop_zero, nil_append] at hw
  have hpos : bs.pos = bs.size := by
    rw [hw.pos_eq, hbs, ← hsize]
    rfl
  have hdata : bs.bsdata = encodeAll (triplesOf list) := by
    rw [← hw.written, hpos, hw.size_eq, take_length]
  obtain ⟨params, hparse, hparams, hlist⟩ := parsed_of_le hlt (by omega : _ ≤ 255)
  refine ⟨_, params, ?_, hdata, ?_, by omega, ?_⟩
  · have hlen : (0 + UInt16.ofNat (encodeAll (triplesOf list)).length : UInt16).toNat =
        (encodeAll (triplesOf list)).length := by
      rw [UInt16.zero_add, UInt16.toNat_ofNat']
      omega
    have hsum := dataLen_eq (UInt8.ofNat list.length) hreadable (Nat.zero_add _) 0
    rw [drop_zero] at hsum
    unfold buildAppParamsHeader
    dsimp only
    rw [htoNat, hsum, ok_bind, hlen, hblock]
    dsimp only
    rw [hput, ok_bind, if_pos (by omega)]
    rfl
  · rw [hdata, hparse]
  · rw [hlist]
    have hcontent := Triple.content_entries [] (triplesOf list) (nil_append _).symm
    rw [length_nil] at hcontent
    rw [hcontent, triplesOf, map_map]
    apply map_congr_left
    intro p hp
    exact (hreadable p hp).content_eq.symm

end Obex
