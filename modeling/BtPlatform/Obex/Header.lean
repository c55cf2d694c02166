import BtPlatform.Format.Codec

/-!
# OBEX headers and their wire format

The two high bits of a header identifier select one of four encodings. A
`Header` is indexed by that choice and keeps the six low bits, so a header
whose value does not match its identifier cannot be built. Values are plain
lists here: the lengths a packet can carry are the business of `Header.Wf`.

The second half of the file is the format itself, independent of the code that
writes or reads it: the bytes of a header, the header at the front of a byte
string, and the codec the two form.
-/

namespace Obex

open Format List

instance low_neZero : @NeZero Nat Zero.ofOfNat0 64 := Nat.instNeZeroSucc

/-- `OI_OBEX_HDR_KIND`: how the value of a header is encoded. -/
inductive HdrKind
  | unicode
  | byteseq
  | uInt8
  | uInt32
  deriving DecidableEq, Repr

/-- The two high bits of a header identifier. -/
def hdrKind (id : UInt8) : HdrKind :=
  match id &&& 0xC0 with
  | 0x00 => .unicode
  | 0x40 => .byteseq
  | 0x80 => .uInt8
  | _ => .uInt32

/-- The bits by which an identifier announces its kind. -/
def HdrKind.bits : HdrKind → UInt8
  | .unicode => 0x00
  | .byteseq => 0x40
  | .uInt8 => 0x80
  | .uInt32 => 0xC0

/-- The identifier with the given kind and low bits. -/
def HdrKind.id (kind : HdrKind) (low : Fin 64) : UInt8 := kind.bits + UInt8.ofNat low

/-- The six low bits of a header identifier. -/
def hdrLow (id : UInt8) : Fin 64 := ⟨id.toNat % 64, Nat.mod_lt _ (by decide)⟩

@[simp] theorem hdrKind_id (kind : HdrKind) (low : Fin 64) : hdrKind (kind.id low) = kind := by
  cases kind <;> revert low <;> decide

@[simp] theorem hdrLow_id (kind : HdrKind) (low : Fin 64) : hdrLow (kind.id low) = low := by
  cases kind <;> revert low <;> decide

private theorem id_hdrKind_ofNat :
    ∀ n : Fin 256, (hdrKind (UInt8.ofNat n)).id (hdrLow (UInt8.ofNat n)) = UInt8.ofNat n := by
  decide +kernel

@[simp] theorem id_hdrKind_hdrLow (id : UInt8) : (hdrKind id).id (hdrLow id) = id := by
  simpa using id_hdrKind_ofNat ⟨id.toNat, id.toNat_lt⟩

/-- `OI_OBEX_HEADER`: a header identifier with the arm of the value union that
the identifier selects. -/
inductive Header
  | unicode (low : Fin 64) (str : List UInt16)
  | byteseq (low : Fin 64) (data : List UInt8)
  | uInt8 (low : Fin 64) (val : UInt8)
  | uInt32 (low : Fin 64) (val : UInt32)
  deriving DecidableEq, Repr

namespace Header

def kind : Header → HdrKind
  | unicode .. => .unicode
  | byteseq .. => .byteseq
  | uInt8 .. => .uInt8
  | uInt32 .. => .uInt32

def low : Header → Fin 64
  | unicode low _ | byteseq low _ | uInt8 low _ | uInt32 low _ => low

/-- The identifier byte. -/
def id (h : Header) : UInt8 := h.kind.id h.low

/-- A header that a packet can carry: identifier, length field and value
together fit the sixteen-bit length. -/
def Wf : Header → Prop
  | unicode _ str => 3 + 2 * str.length < 65536
  | byteseq _ data => 3 + data.length < 65536
  | uInt8 .. | uInt32 .. => True

instance : DecidablePred Wf := fun h => by
  cases h <;> unfold Wf <;> infer_instance

/-- The characters of a string in network byte order. -/
def encodeChars (str : List UInt16) : List UInt8 := str.flatMap fun c => bigEndian16 c.toNat

/-- The characters held by pairs of bytes in network byte order. -/
def decodeChars : List UInt8 → List UInt16
  | hi :: lo :: rest => UInt16.ofNat (ofBigEndian16 hi lo) :: decodeChars rest
  | _ => []

@[simp] theorem encodeChars_nil : encodeChars [] = [] := rfl

@[simp] theorem encodeChars_cons (c : UInt16) (str : List UInt16) :
    encodeChars (c :: str) =
      UInt8.ofNat (c.toNat / 256) :: UInt8.ofNat c.toNat :: encodeChars str := by
  simp [encodeChars, bigEndian16]

@[simp] theorem encodeChars_length (str : List UInt16) :
    (encodeChars str).length = 2 * str.length := by
  induction str with
  | nil => rfl
  | cons c str ih =>
      rw [encodeChars_cons]
      simp only [length_cons, ih]
      omega

@[simp] theorem decodeChars_encodeChars (str : List UInt16) :
    decodeChars (encodeChars str) = str := by
  induction str with
  | nil => rfl
  | cons c str ih =>
      rw [encodeChars_cons, decodeChars, ih, ofBigEndian16_ofNat,
        Nat.mod_eq_of_lt c.toNat_lt, UInt16.ofNat_toNat]

theorem encodeChars_decodeChars {bs : List UInt8} (heven : bs.length % 2 = 0) :
    encodeChars (decodeChars bs) = bs := by
  induction bs using decodeChars.induct with
  | case1 hi lo rest ih =>
      have hrest : rest.length % 2 = 0 := by
        simp only [length_cons] at heven
        omega
      have hbytes := bigEndian16_ofBigEndian16 hi lo
      simp only [bigEndian16, cons.injEq, and_true] at hbytes
      have hchar : (UInt16.ofNat (ofBigEndian16 hi lo)).toNat = ofBigEndian16 hi lo := by
        rw [UInt16.toNat_ofNat', Nat.mod_eq_of_lt (ofBigEndian16_lt hi lo)]
      rw [decodeChars, encodeChars_cons, hchar, hbytes.1, hbytes.2, ih hrest]
  | case2 bs hnot =>
      rcases bs with _ | ⟨hi, _ | ⟨lo, rest⟩⟩
      · rfl
      · simp at heven
      · exact absurd rfl (hnot hi lo rest)

theorem decodeChars_length (bs : List UInt8) : (decodeChars bs).length = bs.length / 2 := by
  induction bs using decodeChars.induct with
  | case1 hi lo rest ih =>
      simp only [decodeChars, length_cons, ih]
      omega
  | case2 bs hnot =>
      match bs, hnot with
      | [], _ => rfl
      | [b], _ => simp [decodeChars]
      | hi :: lo :: rest, hnot => exact absurd rfl (hnot hi lo rest)

/-- The bytes of a header: its identifier, a big-endian length that counts the
whole header for the two sequence kinds, and its value. -/
def encode (h : Header) : List UInt8 :=
  match h with
  | unicode _ str => h.id :: (bigEndian16 (3 + 2 * str.length) ++ encodeChars str)
  | byteseq _ data => h.id :: (bigEndian16 (3 + data.length) ++ data)
  | uInt8 _ val => [h.id, val]
  | uInt32 _ val => h.id :: bigEndian32 val.toNat

/-- The number of bytes a header occupies in a packet. -/
def wireLength : Header → Nat
  | unicode _ str => 3 + 2 * str.length
  | byteseq _ data => 3 + data.length
  | uInt8 .. => 2
  | uInt32 .. => 5

@[simp] theorem encode_length (h : Header) : h.encode.length = h.wireLength := by
  cases h <;> simp [encode, wireLength] <;> omega

/-- The value bytes announced by a length field, and what follows them. -/
def splitValue (hi lo : UInt8) (rest : List UInt8) : Option (List UInt8 × List UInt8) :=
  let len := ofBigEndian16 hi lo
  if 3 ≤ len ∧ len - 3 ≤ rest.length then some (rest.take (len - 3), rest.drop (len - 3))
  else none

/-- The header at the front of a byte string, and the bytes after it. -/
def decode : List UInt8 → Option (Header × List UInt8)
  | [] => none
  | id :: rest =>
      match hdrKind id, rest with
      | .unicode, hi :: lo :: rest =>
          match splitValue hi lo rest with
          | some (value, rest) =>
              if value.length % 2 = 0 then some (unicode (hdrLow id) (decodeChars value), rest)
              else none
          | none => none
      | .byteseq, hi :: lo :: rest =>
          match splitValue hi lo rest with
          | some (value, rest) => some (byteseq (hdrLow id) value, rest)
          | none => none
      | .uInt8, val :: rest => some (uInt8 (hdrLow id) val, rest)
      | .uInt32, b3 :: b2 :: b1 :: b0 :: rest =>
          some (uInt32 (hdrLow id) (UInt32.ofNat (ofBigEndian32 b3 b2 b1 b0)), rest)
      | _, _ => none

theorem splitValue_append (value rest : List UInt8) (hlen : 3 + value.length < 65536) :
    splitValue (UInt8.ofNat ((3 + value.length) / 256)) (UInt8.ofNat (3 + value.length))
      (value ++ rest) = some (value, rest) := by
  rw [splitValue, ofBigEndian16_ofNat, Nat.mod_eq_of_lt hlen]
  simp

theorem splitValue_eq_some {hi lo : UInt8} {bs value rest : List UInt8}
    (h : splitValue hi lo bs = some (value, rest)) :
    bs = value ++ rest ∧ ofBigEndian16 hi lo = 3 + value.length := by
  simp only [splitValue] at h
  split at h
  · obtain ⟨rfl, rfl⟩ : bs.take (ofBigEndian16 hi lo - 3) = value ∧
        bs.drop (ofBigEndian16 hi lo - 3) = rest := by simpa using h
    refine ⟨(take_append_drop _ _).symm, ?_⟩
    rw [length_take]
    omega
  · cases h

theorem decode_encode_append (h : Header) (wf : h.Wf) (rest : List UInt8) :
    decode (h.encode ++ rest) = some (h, rest) := by
  cases h with
  | unicode low str =>
      have hsplit := splitValue_append (encodeChars str) rest
        (by simpa [Wf] using wf)
      rw [encodeChars_length] at hsplit
      simp only [encode, decode, id, kind, Header.low, bigEndian16, cons_append,
        nil_append, hdrKind_id, hdrLow_id, hsplit, encodeChars_length,
        Nat.mul_mod_right, if_true, decodeChars_encodeChars]
  | byteseq low data =>
      have hsplit := splitValue_append data rest wf
      simp only [encode, decode, id, kind, Header.low, bigEndian16, cons_append,
        nil_append, hdrKind_id, hdrLow_id, hsplit]
  | uInt8 low val => simp [encode, decode, id, kind, Header.low]
  | uInt32 low val =>
      have hval := ofBigEndian32_ofNat val.toNat
      rw [Nat.mod_eq_of_lt val.toNat_lt] at hval
      simp only [encode, decode, id, kind, Header.low, bigEndian32, bigEndian16,
        cons_append, nil_append, hdrKind_id, hdrLow_id, hval, UInt32.ofNat_toNat]

theorem wf_and_eq_append_of_decode {bs rest : List UInt8} {h : Header}
    (hdec : decode bs = some (h, rest)) : h.Wf ∧ bs = h.encode ++ rest := by
  match bs with
  | [] => cases hdec
  | id :: tl =>
      have hid := id_hdrKind_hdrLow id
      simp only [decode] at hdec
      split at hdec
      · next hi lo tl hkind =>
          split at hdec
          · next value tl' hsplit =>
              split at hdec
              · next heven =>
                  obtain ⟨rfl, rfl⟩ : unicode (hdrLow id) (decodeChars value) = h ∧
                      tl' = rest := by simpa using hdec
                  obtain ⟨rfl, hlen⟩ := splitValue_eq_some hsplit
                  have hlt := ofBigEndian16_lt hi lo
                  have htwice : 2 * (value.length / 2) = value.length := by omega
                  refine ⟨?_, ?_⟩
                  · simp only [Wf, decodeChars_length]
                    omega
                  · simp only [encode, Header.id, kind, Header.low, decodeChars_length,
                      encodeChars_decodeChars heven, htwice, ← hlen, ← hkind, hid,
                      bigEndian16_ofBigEndian16, cons_append, nil_append]
              · cases hdec
          · cases hdec
      · next hi lo tl hkind =>
          split at hdec
          · next value tl' hsplit =>
              obtain ⟨rfl, rfl⟩ : byteseq (hdrLow id) value = h ∧ tl' = rest := by
                simpa using hdec
              obtain ⟨rfl, hlen⟩ := splitValue_eq_some hsplit
              have hlt := ofBigEndian16_lt hi lo
              refine ⟨?_, ?_⟩
              · simp only [Wf]
                omega
              · simp only [encode, Header.id, kind, Header.low, ← hlen, ← hkind, hid,
                  bigEndian16_ofBigEndian16, cons_append, nil_append]
          · cases hdec
      · next val tl hkind =>
          obtain ⟨rfl, rfl⟩ : uInt8 (hdrLow id) val = h ∧ tl = rest := by simpa using hdec
          refine ⟨trivial, ?_⟩
          simp only [encode, Header.id, kind, Header.low, ← hkind, hid, cons_append,
            nil_append]
      · next b3 b2 b1 b0 tl hkind =>
          obtain ⟨rfl, rfl⟩ : uInt32 (hdrLow id)
              (UInt32.ofNat (ofBigEndian32 b3 b2 b1 b0)) = h ∧ tl = rest := by simpa using hdec
          have hval : (UInt32.ofNat (ofBigEndian32 b3 b2 b1 b0)).toNat =
              ofBigEndian32 b3 b2 b1 b0 := by
            rw [UInt32.toNat_ofNat', Nat.mod_eq_of_lt (ofBigEndian32_lt b3 b2 b1 b0)]
          refine ⟨trivial, ?_⟩
          simp only [encode, Header.id, kind, Header.low, ← hkind, hid, hval,
            bigEndian32_ofBigEndian32, cons_append, nil_append]
      · cases hdec

end Header

/-- A header together with the proof that a packet can carry it. -/
abbrev WireHeader := { h : Header // h.Wf }

/-- The wire format of a header is a prefix codec. -/
def headerCodec : Codec UInt8 WireHeader where
  encode h := h.1.encode
  decode bs :=
    match hdec : Header.decode bs with
    | some (h, rest) => some (⟨h, (Header.wf_and_eq_append_of_decode hdec).1⟩, rest)
    | none => none
  encode_ne_nil h := by
    have hlen := h.1.encode_length
    intro hnil
    rw [hnil, length_nil] at hlen
    cases hh : h.1 <;> rw [hh, Header.wireLength] at hlen <;> omega
  decode_encode_append h rest := by
    split
    · next h' rest' hdec =>
        rw [Header.decode_encode_append h.1 h.2 rest] at hdec
        obtain ⟨rfl, rfl⟩ : h.1 = h' ∧ rest = rest' := by simpa using hdec
        rfl
    · next hdec =>
        rw [Header.decode_encode_append h.1 h.2 rest] at hdec
        cases hdec
  eq_append_of_decode {bs h rest} hdec := by
    split at hdec
    · next h' rest' hdec' =>
        obtain ⟨rfl, rfl⟩ : (⟨h', _⟩ : WireHeader) = h ∧ rest' = rest := by simpa using hdec
        exact (Header.wf_and_eq_append_of_decode hdec').2
    · cases hdec

end Obex
