import BtPlatform.Obex.Parse

/-!
# Exactness of the header parser

The scan of `parseHeaderList` accepts exactly the sequences of well-formed
headers, and the recording pass then meets every assertion and sees every header
it is asked for. What the parser as a whole loses is decided by the width of its
counter alone: it reports the first `n mod 256` of `n` headers.
-/

namespace Obex

open Support Format List Support.ByteStream

/-! ## The scan -/

section Scan

variable {bs : ByteStream}

theorem scanValue_of_le (h : bs.Readable) {n : Nat} (hn : n ≤ bs.rest.length) :
    scanValue bs n = (.ok, bs.advance n) := by
  simp [scanValue, skipChecked_of_le h hn, h.noError]

theorem scanValue_of_lt (h : bs.Readable) {n : Nat} (hn : bs.rest.length < n) :
    scanValue bs n = (.obexError, bs.setError) := by
  simp [scanValue, skipChecked_of_lt h hn]

theorem scanValue_of_error (herr : bs.error = true) (n : Nat) :
    (scanValue bs n).1 = .obexError := by
  by_cases hroom : bs.pos + n ≤ bs.size <;>
    simp [scanValue, ByteStream.skipChecked, hroom, herr]

/-- Past the identifier and the length field of a long enough header. -/
private theorem afterLength (h : bs.Readable) {id hi lo : UInt8} {tl : List UInt8}
    (hr : bs.rest = id :: hi :: lo :: tl) :
    (bs.advance 1).Readable ∧ (bs.advance 1).rest = hi :: lo :: tl ∧
      (bs.advance 3).Readable ∧ (bs.advance 3).rest = tl := by
  refine ⟨h.advance (by simp [hr]), by simp [hr], h.advance (by simp [hr]), by simp [hr]⟩

private theorem wrappedLength {len : Nat} (hlo : 3 ≤ len) (hhi : len < 65536) :
    (len + 65536 - headerPrefixLen) % 65536 = len - 3 := by
  unfold headerPrefixLen
  omega

/-- Subtracting the prefix from a length below it wraps beyond every stream. -/
private theorem wrappedLength_short {len : Nat} (hlo : len < 3) :
    65533 ≤ (len + 65536 - headerPrefixLen) % 65536 := by
  unfold headerPrefixLen
  omega

/-- The scan steps over a well-formed header. -/
theorem scanHeader_encode (h : bs.Readable) {hd : Header} (wf : hd.Wf) {tl : List UInt8}
    (hr : bs.rest = hd.encode ++ tl) :
    scanHeader bs = .ok (.ok, bs.advance hd.wireLength) := by
  cases hd with
  | unicode low str =>
      have hlt : 3 + 2 * str.length < 65536 := wf
      simp only [Header.encode, bigEndian16, cons_append, nil_append] at hr
      obtain ⟨h1, hr1, h3, hr3⟩ := afterLength h hr
      have heven : ¬ (3 + 2 * str.length - 3) % 2 = 1 := by omega
      have hskip : scanValue (bs.advance 3) (3 + 2 * str.length - 3) =
          (.ok, bs.advance (3 + 2 * str.length)) := by
        rw [scanValue_of_le h3 (by rw [hr3]; simp), advance_advance]
        congr 2
        omega
      simp only [scanHeader, getUINT8Checked_cons h 0 hr, Header.id, Header.kind,
        hdrKind_id, getUINT16Checked_cons h1 0 hr1, ofBigEndian16_ofNat,
        Nat.mod_eq_of_lt hlt, wrappedLength (Nat.le_add_right 3 _) hlt,
        advance_advance, hskip, heven, ok_bind, pure, Except.pure,
        Header.wireLength, if_false]
  | byteseq low data =>
      have hlt : 3 + data.length < 65536 := wf
      simp only [Header.encode, bigEndian16, cons_append, nil_append] at hr
      obtain ⟨h1, hr1, h3, hr3⟩ := afterLength h hr
      have hskip : scanValue (bs.advance 3) (3 + data.length - 3) =
          (.ok, bs.advance (3 + data.length)) := by
        rw [scanValue_of_le h3 (by rw [hr3]; simp), advance_advance]
        congr 2
        omega
      simp only [scanHeader, getUINT8Checked_cons h 0 hr, Header.id, Header.kind,
        hdrKind_id, getUINT16Checked_cons h1 0 hr1, ofBigEndian16_ofNat,
        Nat.mod_eq_of_lt hlt, wrappedLength (Nat.le_add_right 3 _) hlt,
        advance_advance, hskip, ok_bind, pure, Except.pure,
        Header.wireLength]
  | uInt8 low val =>
      simp only [Header.encode, cons_append, nil_append] at hr
      have h1 : (bs.advance 1).Readable := h.advance (by simp [hr])
      have hskip := scanValue_of_le h1 (n := 1) (by simp [hr])
      simp only [scanHeader, getUINT8Checked_cons h 0 hr, Header.id, Header.kind,
        hdrKind_id, hskip, advance_advance, ok_bind, pure, Except.pure,
        Header.wireLength]
  | uInt32 low val =>
      simp only [Header.encode, bigEndian32, bigEndian16, cons_append,
        nil_append] at hr
      have h1 : (bs.advance 1).Readable := h.advance (by simp [hr])
      have hskip := scanValue_of_le h1 (n := 4) (by simp [hr])
      simp only [scanHeader, getUINT8Checked_cons h 0 hr, Header.id, Header.kind,
        hdrKind_id, hskip, advance_advance, ok_bind, pure, Except.pure,
        Header.wireLength]

/-- A length field that announces more than the stream holds is reported. -/
private theorem scanValue_length (h : bs.Readable) (hpos : 3 ≤ bs.pos) {hi lo : UInt8}
    (hsplit : Header.splitValue hi lo bs.rest = none) :
    scanValue bs ((ofBigEndian16 hi lo + 65536 - headerPrefixLen) % 65536) =
      (.obexError, bs.setError) := by
  apply scanValue_of_lt h
  have hlen := h.rest_length
  have hsize := h.size_lt
  have hlt := ofBigEndian16_lt hi lo
  by_cases hlead : 3 ≤ ofBigEndian16 hi lo
  · rw [wrappedLength hlead hlt]
    by_contra hle
    simp [Header.splitValue, hlead, Nat.le_of_not_lt hle] at hsplit
  · have := wrappedLength_short (Nat.lt_of_not_le hlead)
    omega

private theorem getUINT16Checked_none (h : bs.Readable) (hr : bs.rest.length < 2) (n : Nat) :
    ∃ bs', bs.getUINT16Checked 0 = .ok (0, bs') ∧ (scanValue bs' n).1 = .obexError :=
  ⟨bs.setError, getUINT16Checked_short h 0 hr, scanValue_of_error rfl n⟩

private theorem short_or_two (l : List UInt8) :
    l.length < 2 ∨ ∃ a b tl, l = a :: b :: tl := by
  rcases l with _ | ⟨a, _ | ⟨b, tl⟩⟩ <;> simp

/-- The scan reports everything that is not a well-formed header. -/
theorem scanHeader_malformed (h : bs.Readable) (hne : bs.rest ≠ [])
    (hdec : Header.decode bs.rest = none) :
    ∃ bs', scanHeader bs = .ok (.obexError, bs') := by
  obtain ⟨id, tl, hr⟩ : ∃ id tl, bs.rest = id :: tl := by
    cases hr : bs.rest with
    | nil => exact absurd hr hne
    | cons id tl => exact ⟨id, tl, rfl⟩
  have h1 : (bs.advance 1).Readable := h.advance (by simp [hr])
  have hr1 : (bs.advance 1).rest = tl := by simp [hr]
  rw [hr] at hdec
  simp only [Header.decode] at hdec
  simp only [scanHeader, getUINT8Checked_cons h 0 hr, ok_bind]
  cases hkind : hdrKind id with
  | unicode =>
      obtain hlt | ⟨hi, lo, tl, rfl⟩ := short_or_two tl
      · have hshort : (bs.advance 1).rest.length < 2 := by rwa [hr1]
        have hodd : (0 + 65536 - headerPrefixLen) % 65536 % 2 = 1 := by decide
        simp only [getUINT16Checked_short h1 0 hshort, hodd, if_true, ok_bind, pure, Except.pure]
        exact ⟨_, rfl⟩
      · obtain ⟨-, -, h3, hr3⟩ := afterLength h hr
        have hpos : 3 ≤ (bs.advance 3).pos := by simp
        simp only [getUINT16Checked_cons h1 0 hr1, ok_bind, advance_advance]
        split
        · exact ⟨_, rfl⟩
        · next hodd =>
            simp only [hkind] at hdec
            split at hdec
            · next value rest hsplit =>
                obtain ⟨-, hlen⟩ := Header.splitValue_eq_some hsplit
                have hlt := ofBigEndian16_lt hi lo
                rw [wrappedLength (by omega) hlt] at hodd
                simp only [show value.length % 2 = 0 by omega, if_true] at hdec
                cases hdec
            · next hsplit =>
                simp only [scanValue_length h3 hpos (hr3 ▸ hsplit), pure, Except.pure]
                exact ⟨_, rfl⟩
  | byteseq =>
      obtain hlt | ⟨hi, lo, tl, rfl⟩ := short_or_two tl
      · have hshort : (bs.advance 1).rest.length < 2 := by rwa [hr1]
        obtain ⟨bs', hget, herr⟩ := getUINT16Checked_none h1 hshort 65533
        simp only [hget, ok_bind, pure, Except.pure]
        exact ⟨_, congrArg Except.ok (Prod.ext herr rfl)⟩
      · obtain ⟨-, -, h3, hr3⟩ := afterLength h hr
        have hpos : 3 ≤ (bs.advance 3).pos := by simp
        simp only [hkind] at hdec
        split at hdec
        · cases hdec
        · next hsplit =>
            simp only [getUINT16Checked_cons h1 0 hr1, ok_bind, advance_advance,
              scanValue_length h3 hpos (hr3 ▸ hsplit), pure, Except.pure]
            exact ⟨_, rfl⟩
  | uInt8 =>
      cases tl with
      | nil =>
          simp only [scanValue_of_lt h1 (n := 1) (by simp [hr1]), pure, Except.pure]
          exact ⟨_, rfl⟩
      | cons b tl => simp [hkind] at hdec
  | uInt32 =>
      by_cases hshort : tl.length < 4
      · simp only [scanValue_of_lt h1 (n := 4) (by rwa [hr1]), pure, Except.pure]
        exact ⟨_, rfl⟩
      · rcases tl with _ | ⟨_, _ | ⟨_, _ | ⟨_, _ | ⟨_, _⟩⟩⟩⟩
        iterate 4 exact absurd (by simp) hshort
        simp [hkind] at hdec

theorem numReadBytesAvail_eq (h : bs.Readable) : bs.numReadBytesAvail = bs.rest.length :=
  h.rest_length.symm

/-- The scan counts the headers of a well-formed packet, modulo the counter's width. -/
theorem scanHeaders_encodeAll (hs : List WireHeader) :
    ∀ {bs : ByteStream} (_ : bs.Readable) (fuel : Nat) (count : UInt8),
      bs.rest = headerCodec.encodeAll hs → hs.length < fuel →
      scanHeaders fuel bs count =
        .ok (some (count + UInt8.ofNat hs.length), bs.advance bs.rest.length) := by
  induction hs with
  | nil =>
      intro bs h fuel count hr hfuel
      obtain ⟨fuel, rfl⟩ : ∃ n, fuel = n + 1 := ⟨fuel - 1, by simp at hfuel; omega⟩
      simp [scanHeaders, numReadBytesAvail_eq h, hr, pure, Except.pure]
  | cons hd hs ih =>
      intro bs h fuel count hr hfuel
      obtain ⟨fuel, rfl⟩ : ∃ n, fuel = n + 1 := ⟨fuel - 1, by simp at hfuel; omega⟩
      rw [Codec.encodeAll_cons] at hr
      have hstep := scanHeader_encode h hd.2 hr
      have hlen : bs.rest.length = hd.1.wireLength + (headerCodec.encodeAll hs).length := by
        rw [hr, length_append]
        exact congrArg (· + _) hd.1.encode_length
      have hpos := headerCodec.encode_length_pos hd
      have hwire : (headerCodec.encode hd).length = hd.1.wireLength := hd.1.encode_length
      have hrec := ih (h.advance (n := hd.1.wireLength) (by omega)) fuel (count + 1)
        (by rw [rest_advance, hr, ← hwire, drop_left])
        (by simpa using hfuel)
      have havail : bs.numReadBytesAvail > 0 := by
        rw [numReadBytesAvail_eq h]
        omega
      simp only [scanHeaders, havail, if_true, hstep, ok_bind, hrec,
        rest_advance, length_drop, advance_advance, beq_self_eq_true]
      rw [Nat.add_sub_cancel' (by omega : hd.1.wireLength ≤ bs.rest.length),
        length_cons, UInt8.ofNat_add, UInt8.add_assoc, UInt8.add_comm 1]
      rfl

/-- The scan rejects every packet that is no sequence of headers. -/
theorem scanHeaders_malformed (fuel : Nat) :
    ∀ {bs : ByteStream} (_ : bs.Readable) (count : UInt8),
      (∀ hs, bs.rest ≠ headerCodec.encodeAll hs) → bs.rest.length < fuel →
      ∃ bs', scanHeaders fuel bs count = .ok (none, bs') := by
  induction fuel with
  | zero => intro bs h count hbad hfuel; simp at hfuel
  | succ fuel ih =>
      intro bs h count hbad hfuel
      have hne : bs.rest ≠ [] := hbad []
      have havail : bs.numReadBytesAvail > 0 := by
        rw [numReadBytesAvail_eq h]
        exact length_pos_iff.mpr hne
      cases hdec : Header.decode bs.rest with
      | none =>
          obtain ⟨bs', hstep⟩ := scanHeader_malformed h hne hdec
          refine ⟨bs', ?_⟩
          simp only [scanHeaders, havail, if_true, hstep, ok_bind]
          rfl
      | some p =>
          obtain ⟨hd, tl⟩ := p
          obtain ⟨wf, hr⟩ := Header.wf_and_eq_append_of_decode hdec
          have hstep := scanHeader_encode h wf hr
          have hlen : bs.rest.length = hd.wireLength + tl.length := by
            rw [hr, length_append, hd.encode_length]
          have hrest : (bs.advance hd.wireLength).rest = tl := by
            rw [rest_advance, hr, ← hd.encode_length, drop_left]
          have hpos : 0 < hd.wireLength :=
            hd.encode_length ▸ headerCodec.encode_length_pos ⟨hd, wf⟩
          obtain ⟨bs', hrec⟩ := ih (h.advance (n := hd.wireLength) (by omega)) (count + 1)
            (by
              intro hs heq
              apply hbad (⟨hd, wf⟩ :: hs)
              rw [Codec.encodeAll_cons, ← heq, hrest]
              exact hr)
            (by rw [hrest]; omega)
          refine ⟨bs', ?_⟩
          simp only [scanHeaders, havail, if_true, hstep, ok_bind, beq_self_eq_true]
          exact hrec

end Scan

/-! ## The recording pass -/

section Record

variable {bs : ByteStream}

/-- Two buffers agree on a range of offsets. -/
def SameOn (lo hi : Nat) (a b : List UInt8) : Prop :=
  ∀ k, lo ≤ k → k < hi → a[k]? = b[k]?

@[simp] theorem load_store (order : CpuByteOrder) (c : UInt16) :
    order.load (order.store c.toNat).1 (order.store c.toNat).2 = c := by
  cases order <;>
    simp only [CpuByteOrder.load, CpuByteOrder.store, ofBigEndian16_ofNat,
      Nat.mod_eq_of_lt c.toNat_lt, UInt16.ofNat_toNat]

theorem poke_ok (bs : ByteStream) {off : Nat} (hoff : off < bs.bsdata.length) (b : UInt8) :
    bs.poke off b = .ok { bs with bsdata := bs.bsdata.set off b } := by
  simp [ByteStream.poke, hoff]

/-- What remains to be read depends only on the buffer from the position on. -/
theorem rest_congr (bs : ByteStream) {buffer : List UInt8}
    (hsame : ∀ k, bs.pos ≤ k → buffer[k]? = bs.bsdata[k]?) :
    ({ bs with bsdata := buffer } : ByteStream).rest = bs.rest := by
  apply ext_getElem?
  intro k
  simp only [ByteStream.rest, getElem?_drop, getElem?_take]
  split
  · exact hsame _ (Nat.le_add_right _ _)
  · rfl

/-- Rewriting the buffer in place keeps the stream readable. -/
theorem readable_congr (h : bs.Readable) {buffer : List UInt8}
    (hlen : buffer.length = bs.bsdata.length) :
    ({ bs with bsdata := buffer } : ByteStream).Readable :=
  ⟨h.reading, h.pos_le, by simpa [hlen] using h.size_le, h.size_lt, h.noError⟩

/-- The characters are converted one after the other: since they are stored at
or before the place they are read from, no character is overwritten unread. -/
theorem convertChars_encodeChars (order : CpuByteOrder) (str : List UInt16) :
    ∀ {bs : ByteStream} (_ : bs.Readable) (base : Nat) (tl : List UInt8),
      bs.rest = Header.encodeChars str ++ tl → base ≤ bs.pos →
      ∃ buffer, convertChars order str.length bs base =
          .ok { bs.advance (2 * str.length) with bsdata := buffer } ∧
        buffer.length = bs.bsdata.length ∧
        (∀ k, k < base ∨ base + 2 * str.length ≤ k → buffer[k]? = bs.bsdata[k]?) ∧
        ∀ other, SameOn base (base + 2 * str.length) other buffer →
          loadChars order other str.length base = some str := by
  induction str with
  | nil =>
      intro bs h base tl hr hbase
      exact ⟨bs.bsdata, rfl, rfl, fun _ _ => rfl, fun _ _ => rfl⟩
  | cons c str ih =>
      intro bs h base tl hr hbase
      rw [Header.encodeChars_cons, cons_append, cons_append] at hr
      have hget := getUINT16_cons h hr
      rw [ofBigEndian16_ofNat, Nat.mod_eq_of_lt c.toNat_lt] at hget
      have hroom : bs.pos + 2 ≤ bs.size := h.room (by simp [hr])
      have hsize := h.size_le
      -- the two bytes just stored end before the next character
      generalize hb0 : (order.store c.toNat).1 = b0
      generalize hb1 : (order.store c.toNat).2 = b1
      let stored := (bs.bsdata.set base b0).set (base + 1) b1
      let next : ByteStream := { bs.advance 2 with bsdata := stored }
      have hlen : stored.length = bs.bsdata.length := by simp [stored]
      have hsame : ∀ k, k < base ∨ base + 2 ≤ k → stored[k]? = bs.bsdata[k]? := by
        intro k hk
        rw [getElem?_set_ne (by omega), getElem?_set_ne (by omega)]
      have hstored0 : stored[base]? = some b0 := by
        rw [getElem?_set_ne (by omega), getElem?_set_self (by omega)]
      have hstored1 : stored[base + 1]? = some b1 := by
        rw [getElem?_set_self (by rw [length_set]; omega)]
      have hnext : next.Readable :=
        readable_congr (h.advance (n := 2) (by simp [hr])) hlen
      have hnextRest : next.rest = Header.encodeChars str ++ tl := by
        rw [rest_congr (bs.advance 2)
          (fun k hk => hsame k (by simp only [advance_pos] at hk; omega))]
        simp [hr]
      have hnextPos : next.pos = bs.pos + 2 := rfl
      obtain ⟨buffer, hrun, hlength, hframe, hload⟩ :=
        ih hnext (base + 2) tl hnextRest (by omega)
      refine ⟨buffer, ?_, hlength.trans hlen, ?_, ?_⟩
      · simp only [length_cons, convertChars, hget, ok_bind, hb0, hb1]
        rw [poke_ok (bs.advance 2) (by simp only [advance_bsdata]; omega),
          ok_bind, poke_ok _ (by simp only [advance_bsdata, length_set]; omega),
          ok_bind]
        refine hrun.trans ?_
        simp only [next, ByteStream.advance, Except.ok.injEq, ByteStream.mk.injEq, and_true,
          true_and]
        omega
      · intro k hk
        rw [length_cons] at hk
        rw [hframe k (by omega), hsame k (by omega)]
      · intro other hother
        rw [length_cons] at hother ⊢
        have h0 : other[base]? = some b0 := by
          rw [hother base (by omega) (by omega), hframe base (by omega), hstored0]
        have h1 : other[base + 1]? = some b1 := by
          rw [hother (base + 1) (by omega) (by omega), hframe (base + 1) (by omega), hstored1]
        have htail := hload other (fun k hlo hhi => hother k (by omega) (by omega))
        simp only [loadChars, h0, h1, htail, ← hb0, ← hb1, load_store, Option.bind_eq_bind,
          Option.bind_some]
        rfl

/-- What recording one header does: the stream moves past it, only its own bytes
may change, and whoever keeps those bytes sees the header. -/
structure Recorded (order : CpuByteOrder) (bs : ByteStream) (hd : Header)
    (recorded : ParsedHeader) (bs' : ByteStream) : Prop where
  stream : bs' = { bs.advance hd.wireLength with bsdata := bs'.bsdata }
  length : bs'.bsdata.length = bs.bsdata.length
  frame : ∀ k, k < bs.pos ∨ bs.pos + hd.wireLength ≤ k → bs'.bsdata[k]? = bs.bsdata[k]?
  value : ∀ buffer, buffer.length = bs.bsdata.length →
    SameOn bs.pos (bs.pos + hd.wireLength) buffer bs'.bsdata →
    recorded.value order buffer = some hd

variable {tl : List UInt8}

private theorem parseHeader_unicode (order : CpuByteOrder) (common : Common) (h : bs.Readable)
    {low : Fin 64} {str : List UInt16} (wf : (Header.unicode low str).Wf)
    (hr : bs.rest = (Header.unicode low str).encode ++ tl) :
    ∃ recorded common' bs', parseHeader order common bs = .ok (recorded, common', bs') ∧
      Recorded order bs (.unicode low str) recorded bs' := by
  have hlt : 3 + 2 * str.length < 65536 := wf
  simp only [Header.encode, bigEndian16, cons_append, nil_append] at hr
  obtain ⟨h1, hr1, h3, hr3⟩ := afterLength h hr
  have hhalf : 2 * str.length / 2 = str.length := by omega
  have hlen : (ofBigEndian16 (UInt8.ofNat ((3 + 2 * str.length) / 256))
      (UInt8.ofNat (3 + 2 * str.length)) + 65536 - headerPrefixLen) % 65536 =
      2 * str.length := by
    rw [ofBigEndian16_ofNat, Nat.mod_eq_of_lt hlt, wrappedLength (Nat.le_add_right 3 _) hlt,
      Nat.add_sub_cancel_left]
  simp only [parseHeader, getUINT8_cons h hr, ok_bind, Header.id,
    Header.kind, hdrKind_id, getUINT16_cons h1 hr1, advance_advance]
  rw [hlen, hhalf, if_neg (not_not.mpr (Nat.mul_mod_right 2 _))]
  by_cases hempty : str.length = 0
  · obtain rfl : str = [] := eq_nil_of_length_eq_zero hempty
    rw [if_neg (not_not.mpr length_nil)]
    refine ⟨_, _, _, rfl, rfl, rfl, fun _ _ => rfl, fun _ _ _ => ?_⟩
    simp [ParsedHeader.value, Header.low]
  · rw [if_pos hempty]
    generalize hbase : (if ((bs.advance 3).addr + (bs.advance 3).pos) % 2 = 1 then
      (bs.advance 3).pos - 1 else (bs.advance 3).pos) = base
    have hbounds : bs.pos + 2 ≤ base ∧ base ≤ bs.pos + 3 := by
      subst hbase
      split <;> simp only [advance_pos] <;> omega
    obtain ⟨buffer, hrun, hlen, hframe, hload⟩ :=
      convertChars_encodeChars order str h3 base tl hr3 hbounds.2
    refine ⟨_, _, _, by rw [hrun]; rfl, ?_, hlen, ?_, ?_⟩
    · simp only [advance_advance, Header.wireLength]
    · intro k hk
      simp only [Header.wireLength] at hk
      exact hframe k (by omega)
    · intro other _ hsame
      simp only [Header.wireLength] at hsame
      simp only [ParsedHeader.value, hdrKind_id, hdrLow_id, Header.low,
        hload other (fun k hlo hhi => hsame k (by omega) (by omega)), Option.map_some]

private theorem parseHeader_byteseq (order : CpuByteOrder) (common : Common) (h : bs.Readable)
    {low : Fin 64} {data : List UInt8} (wf : (Header.byteseq low data).Wf)
    (hr : bs.rest = (Header.byteseq low data).encode ++ tl) :
    ∃ recorded common' bs', parseHeader order common bs = .ok (recorded, common', bs') ∧
      Recorded order bs (.byteseq low data) recorded bs' := by
  have hlt : 3 + data.length < 65536 := wf
  simp only [Header.encode, bigEndian16, cons_append, nil_append] at hr
  obtain ⟨h1, hr1, h3, hr3⟩ := afterLength h hr
  have hroom : data.length ≤ (bs.advance 3).rest.length := by rw [hr3]; simp
  simp only [parseHeader, getUINT8_cons h hr, ok_bind, Header.id,
    Header.kind, hdrKind_id, getUINT16_cons h1 hr1, ofBigEndian16_ofNat,
    Nat.mod_eq_of_lt hlt, wrappedLength (Nat.le_add_right 3 _) hlt,
    advance_advance, Nat.add_sub_cancel_left, Nat.reduceAdd,
    skip_of_le h3 hroom]
  refine ⟨_, _, _, rfl, rfl, rfl, fun _ _ => rfl, ?_⟩
  intro buffer hlen hsame
  simp only [Header.wireLength] at hsame
  have hsize : bs.pos + 3 + data.length ≤ bs.bsdata.length := by
    have := h3.room hroom
    have := h.size_le
    simp only [advance_pos, advance_size] at *
    omega
  by_cases hempty : data.length = 0
  · obtain rfl : data = [] := eq_nil_of_length_eq_zero hempty
    simp [ParsedHeader.value, Header.low]
  · have hvalue : (buffer.drop (bs.pos + 3)).take data.length = data := by
      apply ext_getElem?
      intro k
      rw [getElem?_take]
      split
      · next hk =>
          have hbyte := h3.getElem?_rest (k := k) (by omega)
          rw [hr3, getElem?_append_left hk] at hbyte
          rw [getElem?_drop, hsame _ (by omega) (by omega), ← hbyte]
          rfl
      · next hk => exact (getElem?_eq_none (by omega)).symm
    simp [ParsedHeader.value, Header.low, hempty, hlen, hsize, hvalue]

/-- The recording pass meets its assertions on a well-formed header and records it. -/
theorem parseHeader_encode (order : CpuByteOrder) (common : Common) (h : bs.Readable) {hd : Header}
    (wf : hd.Wf) (hr : bs.rest = hd.encode ++ tl) :
    ∃ recorded common' bs', parseHeader order common bs = .ok (recorded, common', bs') ∧
      Recorded order bs hd recorded bs' := by
  cases hd with
  | unicode low str => exact parseHeader_unicode order common h wf hr
  | byteseq low data => exact parseHeader_byteseq order common h wf hr
  | uInt8 low val =>
      simp only [Header.encode, cons_append, nil_append] at hr
      have h1 : (bs.advance 1).Readable := h.advance (by simp [hr])
      have hr1 : (bs.advance 1).rest = val :: tl := by simp [hr]
      simp only [parseHeader, getUINT8_cons h hr, ok_bind, Header.id,
        Header.kind, hdrKind_id, getUINT8_cons h1 hr1]
      refine ⟨_, _, _, rfl, rfl, rfl, fun _ _ => rfl, fun _ _ _ => ?_⟩
      simp [ParsedHeader.value, Header.low]
  | uInt32 low val =>
      simp only [Header.encode, bigEndian32, bigEndian16, cons_append,
        nil_append] at hr
      have h1 : (bs.advance 1).Readable := h.advance (by simp [hr])
      have hr1 : (bs.advance 1).rest = _ :=
        (rest_advance 1).trans (congrArg (drop 1) hr)
      have hval := ofBigEndian32_ofNat val.toNat
      rw [Nat.mod_eq_of_lt val.toNat_lt] at hval
      simp only [parseHeader, getUINT8_cons h hr, ok_bind, Header.id,
        Header.kind, hdrKind_id, getUINT32_cons h1 hr1]
      refine ⟨_, _, _, rfl, rfl, rfl, fun _ _ => rfl, fun _ _ _ => ?_⟩
      simp only [ParsedHeader.value, hdrKind_id, hdrLow_id, Header.low, hval,
        UInt32.ofNat_toNat]

/-- The recording pass over well-formed headers, followed by anything: every
header it is asked for is recorded, and later headers leave earlier ones alone. -/
theorem parseHeaders_encodeAll (order : CpuByteOrder) (hs : List WireHeader) :
    ∀ {bs : ByteStream} (_ : bs.Readable) (common : Common) (tl : List UInt8),
      bs.rest = headerCodec.encodeAll hs ++ tl →
      ∃ list common' bs',
        parseHeaders order hs.length common bs = .ok (list, common', bs') ∧
        list.length = hs.length ∧ bs'.bsdata.length = bs.bsdata.length ∧
        (∀ k, k < bs.pos → bs'.bsdata[k]? = bs.bsdata[k]?) ∧
        list.mapM (ParsedHeader.value order bs'.bsdata) = some (hs.map Subtype.val) := by
  induction hs with
  | nil =>
      intro bs h common tl hr
      exact ⟨[], common, bs, rfl, rfl, rfl, fun _ _ => rfl, rfl⟩
  | cons hd hs ih =>
      intro bs h common tl hr
      rw [Codec.encodeAll_cons, append_assoc] at hr
      obtain ⟨recorded, common₁, bs₁, hstep, hrec⟩ :=
        parseHeader_encode order common h hd.2 hr
      have hwire : (headerCodec.encode hd).length = hd.1.wireLength := hd.1.encode_length
      have hroom : hd.1.wireLength ≤ bs.rest.length := by
        rw [hr, length_append]
        omega
      have hpos : bs₁.pos = bs.pos + hd.1.wireLength := by
        rw [hrec.stream]
        rfl
      have hread : bs₁.Readable := by
        rw [hrec.stream]
        exact readable_congr (h.advance hroom) hrec.length
      have hrest : bs₁.rest = headerCodec.encodeAll hs ++ tl := by
        rw [hrec.stream, rest_congr (bs.advance hd.1.wireLength)
            (fun k hk => hrec.frame k (.inr hk)),
          rest_advance, hr, ← hwire, drop_left]
      obtain ⟨list, common', bs', hrun, hcount, hlen, hframe, hvalues⟩ :=
        ih hread common₁ tl hrest
      have hvalue : recorded.value order bs'.bsdata = some hd.1 := by
        apply hrec.value _ (hlen.trans hrec.length)
        intro k _ hk
        exact hframe k (by omega)
      refine ⟨recorded :: list, common', bs', ?_, by simp [hcount], hlen.trans hrec.length,
        ?_, ?_⟩
      · simp only [length_cons, parseHeaders, hstep, hrun, ok_bind]
        rfl
      · intro k hk
        rw [hframe k (by omega), hrec.frame k (.inl hk)]
      · simp [hvalue, hvalues]

end Record

/-! ## The whole parser -/

section Whole

variable (order : CpuByteOrder) (memory : Bool) (common : Common) {bs : ByteStream}

private theorem setPos_start (h : bs.Readable) (n : Nat) :
    (bs.advance n).setPos bs.pos = .ok bs := by
  simp [ByteStream.setPos, ByteStream.advance, h.pos_le]

/-- On a sequence of `n` headers the parser reports the first `n mod 256`. -/
theorem parseHeaderList_encodeAll (h : bs.Readable) {hs : List WireHeader}
    (hr : bs.rest = headerCodec.encodeAll hs) (hmem : memory = true ∨ hs.length % 256 = 0) :
    ∃ list common' bs', parseHeaderList order memory common bs = .ok (.ok, list, common', bs') ∧
      list.values order bs'.bsdata = some ((hs.take (hs.length % 256)).map Subtype.val) := by
  have hfuel : hs.length < bs.size + 1 := by
    have := headerCodec.length_le_encodeAll_length hs
    have := h.rest_length
    rw [hr] at this
    omega
  have hscan := scanHeaders_encodeAll hs h (bs.size + 1) 0 hr hfuel
  have hcount : (0 + UInt8.ofNat hs.length).toNat = hs.length % 256 := by simp
  generalize 0 + UInt8.ofNat hs.length = count at hscan hcount
  simp only [parseHeaderList, hscan, ok_bind, setPos_start h]
  by_cases hzero : count > 0
  · have hpos : 0 < hs.length % 256 := hcount ▸ UInt8.lt_iff_toNat_lt.mp hzero
    obtain rfl : memory = true := by
      rcases hmem with hmem | hmem
      · exact hmem
      · omega
    have htake : (hs.take (hs.length % 256)).length = count.toNat := by
      rw [length_take, hcount]
      have := Nat.mod_le hs.length 256
      omega
    have hsplit : bs.rest = headerCodec.encodeAll (hs.take (hs.length % 256)) ++
        headerCodec.encodeAll (hs.drop (hs.length % 256)) := by
      rw [← Codec.encodeAll_append, take_append_drop, hr]
    obtain ⟨list, common', bs', hrun, hlist, -, -, hvalues⟩ :=
      parseHeaders_encodeAll order _ h common _ hsplit
    rw [htake] at hrun hlist
    refine ⟨⟨count, some list⟩, common', bs'.close, ?_, ?_⟩
    · simp only [hzero, if_true, hrun]
      rfl
    · simp only [ParsedList.values, hlist, if_true]
      exact hvalues
  · obtain rfl : count = 0 := by
      apply UInt8.toNat_inj.mp
      have := fun hlt => hzero (UInt8.lt_iff_toNat_lt.mpr hlt)
      exact Nat.eq_zero_of_not_pos this
    have hzero' : hs.length % 256 = 0 := hcount.symm
    refine ⟨⟨0, none⟩, common, bs.close, by simp only [hzero, if_false]; rfl, ?_⟩
    simp [ParsedList.values, hzero']

/-- Without memory for the header array a packet with headers is not parsed. -/
theorem parseHeaderList_noMemory (h : bs.Readable) {hs : List WireHeader}
    (hr : bs.rest = headerCodec.encodeAll hs) (hcount : hs.length % 256 ≠ 0) :
    ∃ list bs', parseHeaderList order false common bs =
      .ok (.outOfMemory, list, common, bs') := by
  have hfuel : hs.length < bs.size + 1 := by
    have := headerCodec.length_le_encodeAll_length hs
    have := h.rest_length
    rw [hr] at this
    omega
  have hscan := scanHeaders_encodeAll hs h (bs.size + 1) 0 hr hfuel
  have hpos : 0 + UInt8.ofNat hs.length > 0 := by
    apply UInt8.lt_iff_toNat_lt.mpr
    simp only [UInt8.toNat_zero, UInt8.zero_add, UInt8.toNat_ofNat']
    omega
  refine ⟨⟨0 + UInt8.ofNat hs.length, none⟩, bs, ?_⟩
  simp only [parseHeaderList, hscan, ok_bind, setPos_start h, hpos, if_true]
  rfl

/-- Anything but a sequence of headers is a bad packet. -/
theorem parseHeaderList_malformed (h : bs.Readable)
    (hbad : ∀ hs, bs.rest ≠ headerCodec.encodeAll hs) :
    ∃ bs', parseHeaderList order memory common bs =
      .ok (.obexBadPacket, ⟨0, none⟩, common, bs') := by
  have hfuel : bs.rest.length < bs.size + 1 := by
    have := h.rest_length
    omega
  obtain ⟨bs', hscan⟩ := scanHeaders_malformed (bs.size + 1) h 0 hbad hfuel
  exact ⟨bs', by simp only [parseHeaderList, hscan, ok_bind]; rfl⟩

/-- The parser is exact on the rest of a stream: it runs without violating an
assertion; it returns `OI_OK` and shows every header, in order, when the rest is
a concatenation of well-formed headers; and otherwise it returns
`OI_OBEX_BAD_PACKET` with an empty list. -/
def ParsesExactly (bs : ByteStream) : Prop :=
  ∃ status list common' bs',
    parseHeaderList order memory common bs = .ok (status, list, common', bs') ∧
    ((∃ hs : List WireHeader, bs.rest = headerCodec.encodeAll hs ∧ status = .ok ∧
        list.values order bs'.bsdata = some (hs.map Subtype.val)) ∨
      ((∀ hs, bs.rest ≠ headerCodec.encodeAll hs) ∧ status = .obexBadPacket ∧ list.count = 0))

/-- The parser is exact precisely on packets whose headers its eight-bit counter
can count, given memory for the headers there are. -/
theorem parsesExactly_iff (h : bs.Readable) :
    ParsesExactly order memory common bs ↔
      ∀ hs : List WireHeader, bs.rest = headerCodec.encodeAll hs →
        hs.length ≤ 255 ∧ (memory = true ∨ hs = []) := by
  constructor
  · rintro ⟨status, list, common', bs', hrun, hres⟩ hs hr
    rcases hres with ⟨hs', hr', rfl, hvalues⟩ | ⟨hbad, -, -⟩
    · obtain rfl : hs' = hs := headerCodec.encodeAll_injective (hr'.symm.trans hr)
      by_cases hmem : memory = true ∨ hs'.length % 256 = 0
      · obtain ⟨list', common₁, bs₁, hrun', hvalues'⟩ :=
          parseHeaderList_encodeAll order memory common h hr hmem
        obtain ⟨rfl, -, rfl⟩ : list' = list ∧ common₁ = common' ∧ bs₁ = bs' := by
          simpa using hrun'.symm.trans hrun
        have hlen : (hs'.take (hs'.length % 256)).length = hs'.length := by
          have := hvalues'.symm.trans hvalues
          simpa using congrArg length (Option.some.inj this)
        rw [length_take] at hlen
        refine ⟨by omega, hmem.imp_right fun hzero => ?_⟩
        exact eq_nil_of_length_eq_zero (by omega)
      · obtain ⟨hmem, hcount⟩ := not_or.mp hmem
        obtain rfl : memory = false := by simpa using hmem
        obtain ⟨list', bs₁, hrun'⟩ := parseHeaderList_noMemory order common h hr hcount
        rw [hrun'] at hrun
        cases hrun
    · exact absurd hr (hbad hs)
  · intro hcond
    by_cases hwf : ∃ hs : List WireHeader, bs.rest = headerCodec.encodeAll hs
    · obtain ⟨hs, hr⟩ := hwf
      obtain ⟨hcount, hmem⟩ := hcond hs hr
      obtain ⟨list, common', bs', hrun, hvalues⟩ :=
        parseHeaderList_encodeAll order memory common h hr
          (hmem.imp_right fun hnil => by simp [hnil])
      rw [Nat.mod_eq_of_lt (by omega), take_length] at hvalues
      exact ⟨_, list, common', bs', hrun, .inl ⟨hs, hr, rfl, hvalues⟩⟩
    · have hbad : ∀ hs, bs.rest ≠ headerCodec.encodeAll hs := fun hs hr => hwf ⟨hs, hr⟩
      obtain ⟨bs', hrun⟩ := parseHeaderList_malformed order memory common h hbad
      exact ⟨_, _, _, bs', hrun, .inr ⟨hbad, rfl, rfl⟩⟩

/-- Three small headers are counted and recorded. -/
theorem parsesExactly_threeHeaders :
    ParsesExactly .littleEndian true Common.zero
      (ByteStream.open' [0x97, 1, 0x01, 0, 5, 0, 0x41, 0xCB, 0, 0, 0, 7] 1 .read) := by
  refine (parsesExactly_iff .littleEndian true Common.zero
    (readable_open' _ _ (by decide))).mpr fun hs hr => ?_
  have hlen : hs = [⟨.uInt8 23 1, trivial⟩, ⟨.unicode 1 [0x41], by decide⟩,
      ⟨.uInt32 11 7, trivial⟩] :=
    headerCodec.encodeAll_injective (hr.symm.trans (by decide))
  exact ⟨by simp [hlen], .inl rfl⟩

/-- A packet of 256 two-byte headers is reported as a packet without headers. -/
theorem not_parsesExactly_of_256_headers :
    ¬ ParsesExactly .littleEndian true Common.zero
      (ByteStream.open' (replicate 256 [0x97, 1]).flatten 0 .read) := by
  let srm : WireHeader := ⟨.uInt8 23 1, trivial⟩
  obtain ⟨hs, hs_length, hr⟩ : ∃ hs : List WireHeader, hs.length = 256 ∧
      (ByteStream.open' (replicate 256 [0x97, 1]).flatten 0 .read).rest =
        headerCodec.encodeAll hs :=
    ⟨replicate 256 srm, length_replicate,
      (rest_open' _ _ _).trans (headerCodec.encodeAll_replicate 256 srm).symm⟩
  have hread : (ByteStream.open' (replicate 256 [0x97, 1]).flatten 0 .read).Readable :=
    readable_open' _ _ (by
      rw [length_flatten, map_replicate, sum_replicate_nat]
      decide)
  obtain ⟨list, common', bs', hrun, hnone⟩ :=
    parseHeaderList_encodeAll .littleEndian true Common.zero hread hr (.inl rfl)
  rintro ⟨status, list', common₁, bs₁, hrun', ⟨hs', hr', rfl, hvalues⟩ | ⟨hbad, -, -⟩⟩
  · obtain ⟨-, rfl, -, rfl⟩ := Prod.mk.inj (Except.ok.inj (hrun.symm.trans hrun'))
    obtain rfl := headerCodec.encodeAll_injective (hr.symm.trans hr')
    have hlen := congrArg length (Option.some.inj (hnone.symm.trans hvalues))
    simp [hs_length] at hlen
  · exact hbad _ hr

end Whole

end Obex
