import BtPlatform.Unicode.Strings
import Mathlib.Tactic.IntervalCases

/-!
# Texts and what is read of them

A text is a sequence of Unicode scalar values, and its encodings are those of
the standard. The loop over the mask of a lead byte runs one step too far at
the lead bytes `0xe0` and `0xf0`: it takes them for leads of one byte less, and
the last byte of such a character is read as a character of its own. `readings`
are the values that the readers make of a character, each with its bytes.
-/

namespace Unicode

open Support Format List

/-- The units of UTF-16 of a character: its code point, or a pair of surrogates. -/
def utf16Units (c : Char) : List Nat :=
  if c.toNat < 0x10000 then [c.toNat]
  else [0xd800 + (c.toNat - 0x10000) / 1024, 0xdc00 + (c.toNat - 0x10000) % 1024]

/-- The bytes of a character. -/
def encodeChar (e : Encoding) (c : Char) : List UInt8 :=
  if e = .utf8 then String.utf8EncodeChar c else (utf16Units c).flatMap (unitBytes e)

/-- The bytes of a text. -/
def encode (e : Encoding) (text : List Char) : List UInt8 := text.flatMap (encodeChar e)

/-- The code points of a text. -/
def codePoints (text : List Char) : List Nat := text.map Char.toNat

/-- The bounds of the code points whose lead byte in UTF-8 is `0xe0` or `0xf0`:
what the reader makes of the bytes before the last counts from there. -/
def cutBase (c : Nat) : Option Nat :=
  if 0x800 ≤ c ∧ c < 0x1000 then some 0x800
  else if 0x10000 ≤ c ∧ c < 0x40000 then some 0x10000
  else none

/-- What the readers make of a character. -/
def readings (e : Encoding) (c : Char) : List (Nat × List UInt8) :=
  match if e = .utf8 then cutBase c.toNat else none with
  | none => [(c.toNat, encodeChar e c)]
  | some base =>
      [(base + c.toNat / 64, (encodeChar e c).dropLast),
        (0x80 + c.toNat % 64, [UInt8.ofNat (0x80 + c.toNat % 64)])]

theorem toNat_valid (c : Char) :
    c.toNat < 0xd800 ∨ 0xdfff < c.toNat ∧ c.toNat < 0x110000 := c.valid

/-- A value that the readers make of some bytes wherever these stand next in a stream. -/
structure IsReading (e : Encoding) (r : Nat × List UInt8) : Prop where
  bytes_ne : r.2 ≠ []
  reads : ∀ (short : Reader) (ch : Nat) (bs : ByteStream) (rest : List UInt8), bs.Readable →
    bs.rest = r.2 ++ rest → readChar short e ch bs = .ok (r.1, bs.advance r.2.length)

theorem isReading_byte {n : Nat} (hn : n < 0xc0) : IsReading .utf8 (n, [UInt8.ofNat n]) := by
  have hbyte : (UInt8.ofNat n).toNat = n := UInt8.toNat_ofNat_of_lt' (Nat.lt_trans hn (by decide))
  refine ⟨by simp, ?_⟩
  intro short ch bs rest h hr
  have hread : readUTF8 short ch bs = .ok ((UInt8.ofNat n).toNat, bs.advance 1) :=
    readUTF8_ascii h hr (by omega)
  rw [hbyte] at hread
  exact hread

theorem isReading_lead {n mask v : Nat} {bytes : List UInt8} (hlow : 0xc0 ≤ n) (hhigh : n < 256)
    (hscan : scanLead n 5 0xfc = (bytes.length, mask))
    (hv : bytes.foldl (fun ch b => ch * 64 + b.toNat % 64) (n % (256 - mask)) = v) :
    IsReading .utf8 (v, UInt8.ofNat n :: bytes) := by
  have hbyte : (UInt8.ofNat n).toNat = n := UInt8.toNat_ofNat_of_lt' hhigh
  refine ⟨by simp, ?_⟩
  intro short ch bs rest h hr
  rw [readChar, readUTF8_lead h hr (by omega) (by rw [hbyte, hscan]), hbyte, hv]
  rfl

section Leads

variable {n : Nat}

theorem scanLead_two (hlow : 0xc0 < n) (hhigh : n ≤ 0xe0) : scanLead n 5 0xfc = (1, 0xc0) := by
  interval_cases n <;> rfl

theorem scanLead_three (hlow : 0xe0 < n) (hhigh : n ≤ 0xf0) :
    scanLead n 5 0xfc = (2, 0xe0) := by
  interval_cases n <;> rfl

theorem scanLead_four (hlow : 0xf0 < n) (hhigh : n ≤ 0xf8) : scanLead n 5 0xfc = (3, 0xf0) := by
  interval_cases n <;> rfl

end Leads

/-- The bits that a continuation byte adds. -/
theorem tail_bits {n : Nat} (hn : n < 64) : (UInt8.ofNat (n + 0x80)).toNat % 64 = n := by
  have hlt : n + 0x80 < UInt8.size := Nat.lt_trans (Nat.add_lt_add_right hn _) (by decide)
  rw [UInt8.toNat_ofNat_of_lt' hlt]
  omega

theorem utf8_readings (c : Char) : ∀ r ∈ readings .utf8 c, IsReading .utf8 r := by
  have hvalid := toNat_valid c
  have hbits : ∀ n : Nat, n % 64 < 64 := fun n => Nat.mod_lt n (by omega)
  unfold readings cutBase
  rw [if_pos rfl, encodeChar, if_pos rfl, String.utf8EncodeChar]
  simp only [Char.toNat_val]
  by_cases h1 : c.toNat ≤ 0x7f
  · rw [if_neg (by omega), if_neg (by omega), if_pos h1]
    simp only [mem_singleton, forall_eq]
    exact isReading_byte (by omega)
  rw [if_neg h1]
  by_cases h2 : c.toNat ≤ 0x7ff
  · rw [if_neg (by omega), if_neg (by omega), if_pos h2]
    simp only [mem_singleton, forall_eq]
    apply isReading_lead (by omega) (by omega) (scanLead_two (by omega) (by omega))
    simp only [foldl_cons, foldl_nil, tail_bits (hbits _)]
    omega
  rw [if_neg h2]
  by_cases h3 : c.toNat ≤ 0xffff
  · rw [if_pos h3]
    by_cases h : c.toNat < 0x1000
    · rw [if_pos (by omega)]
      simp only [dropLast, mem_cons, not_mem_nil, or_false, forall_eq_or_imp,
        forall_eq]
      refine ⟨?_, isReading_byte (by omega)⟩
      apply isReading_lead (by omega) (by omega)
        (scanLead_two (by omega) (by omega))
      simp only [foldl_cons, foldl_nil, tail_bits (hbits _)]
      omega
    · rw [if_neg (by omega), if_neg (by omega)]
      simp only [mem_singleton, forall_eq]
      apply isReading_lead (by omega) (by omega)
        (scanLead_three (by omega) (by omega))
      simp only [foldl_cons, foldl_nil, tail_bits (hbits _)]
      omega
  · rw [if_neg h3, if_neg (by omega)]
    by_cases h : c.toNat < 0x40000
    · rw [if_pos (by omega)]
      simp only [dropLast, mem_cons, not_mem_nil, or_false, forall_eq_or_imp,
        forall_eq]
      refine ⟨?_, isReading_byte (by omega)⟩
      apply isReading_lead (by omega) (by omega)
        (scanLead_three (by omega) (by omega))
      simp only [foldl_cons, foldl_nil, tail_bits (hbits _)]
      omega
    · rw [if_neg (by omega)]
      simp only [mem_singleton, forall_eq]
      apply isReading_lead (by omega) (by omega)
        (scanLead_four (by omega) (by omega))
      simp only [foldl_cons, foldl_nil, tail_bits (hbits _)]
      omega

theorem utf16_reading {e : Encoding} (he : e ≠ .utf8) (c : Char) :
    IsReading e (c.toNat, encodeChar e c) := by
  have hread : ∀ short : Reader, readChar short e = readUTF16 e short := by
    cases e <;> first | exact absurd rfl he | exact fun _ => rfl
  have hvalid := toNat_valid c
  rw [encodeChar, if_neg he, utf16Units]
  by_cases h : c.toNat < 0x10000
  · rw [if_pos h, flatMap_cons, flatMap_nil, append_nil]
    have hlength := unitBytes_length e c.toNat
    refine ⟨ne_nil_of_length_pos (by rw [hlength]; omega), ?_⟩
    intro short ch bs rest hbs hr
    have hplain : ¬ (0xd800 ≤ c.toNat ∧ c.toNat ≤ 0xdbff) := by omega
    rw [hread, readUTF16_unit hbs h hplain hr, hlength]
  · rw [if_neg h, flatMap_cons, flatMap_cons, flatMap_nil, append_nil]
    have hlength : ∀ n m, (unitBytes e n ++ unitBytes e m).length = 4 := by
      intro n m
      rw [length_append, unitBytes_length, unitBytes_length]
    refine ⟨ne_nil_of_length_pos (by rw [hlength]; omega), ?_⟩
    intro short ch bs rest hbs hr
    rw [append_assoc] at hr
    rw [hread, readUTF16_pair hbs (by omega) (by omega) hr, hlength]
    have hvalue : (c.toNat - 0x10000) / 1024 * 1024 + (c.toNat - 0x10000) % 1024 + 0x10000 =
        c.toNat := by omega
    rw [hvalue]

theorem readings_isReading (e : Encoding) (c : Char) : ∀ r ∈ readings e c, IsReading e r := by
  by_cases he : e = .utf8
  · subst he
    exact utf8_readings c
  · rw [readings, if_neg he]
    simp only [mem_singleton, forall_eq]
    exact utf16_reading he c

/-- The readings of a character take up its bytes. -/
theorem readings_bytes (e : Encoding) (c : Char) :
    (readings e c).flatMap Prod.snd = encodeChar e c := by
  unfold readings
  split
  · simp
  · next base hbase =>
      have he : e = .utf8 := by
        by_contra he
        rw [if_neg he] at hbase
        exact absurd hbase (by simp)
      rw [if_pos he, cutBase] at hbase
      rw [encodeChar, if_pos he, String.utf8EncodeChar]
      simp only [Char.toNat_val, Nat.add_comm 0x80]
      have hge : ¬ c.toNat ≤ 0x7ff := by
        intro hle
        rw [if_neg (by omega), if_neg (by omega)] at hbase
        exact absurd hbase (by simp)
      rw [if_neg (by omega), if_neg hge]
      split <;> rfl

/-- The values that the readers make of a text, with their bytes. -/
def readAll (e : Encoding) (text : List Char) : List (Nat × List UInt8) :=
  text.flatMap (readings e)

theorem readAll_cons (e : Encoding) (c : Char) (text : List Char) :
    readAll e (c :: text) = readings e c ++ readAll e text := flatMap_cons

theorem readAll_bytes (e : Encoding) (text : List Char) :
    (readAll e text).flatMap Prod.snd = encode e text := by
  simp only [readAll, encode, flatMap_assoc, readings_bytes]

/-- A stream from which exactly these values are still to be read. -/
structure Streams (e : Encoding) (rs : List (Nat × List UInt8)) (bs : ByteStream) : Prop where
  readable : bs.Readable
  rest_eq : bs.rest = rs.flatMap Prod.snd
  isReading : ∀ r ∈ rs, IsReading e r

namespace Streams

variable {e : Encoding} {rs : List (Nat × List UInt8)} {r : Nat × List UInt8} {bs : ByteStream}

theorem avail (h : Streams e rs bs) :
    bs.numReadBytesAvail = (rs.flatMap Prod.snd).length := by
  rw [← h.rest_eq, h.readable.rest_length, ByteStream.numReadBytesAvail]

theorem avail_nil (h : Streams e [] bs) : bs.numReadBytesAvail = 0 := h.avail

theorem avail_cons (h : Streams e (r :: rs) bs) : bs.numReadBytesAvail ≠ 0 := by
  have hpos := length_pos_iff.2 (h.isReading r mem_cons_self).bytes_ne
  rw [h.avail, flatMap_cons, length_append]
  omega

theorem read (h : Streams e (r :: rs) bs) (short : Reader) (ch : Nat) :
    readChar short e ch bs = .ok (r.1, bs.advance r.2.length) :=
  (h.isReading r mem_cons_self).reads short ch bs _ h.readable h.rest_eq

theorem next (h : Streams e (r :: rs) bs) : Streams e rs (bs.advance r.2.length) := by
  have hrest := h.rest_eq
  rw [flatMap_cons] at hrest
  refine ⟨h.readable.advance (by simp [hrest]), by simp [hrest], ?_⟩
  intro r' hr'
  exact h.isReading r' (mem_cons_of_mem r hr')

theorem opened {e : Encoding} {text : List Char} (hsize : (encode e text).length < 65536) :
    Streams e (readAll e text) (ByteStream.open' (encode e text) 0 .read) := by
  refine ⟨ByteStream.readable_open' _ _ hsize, ?_, ?_⟩
  · rw [ByteStream.rest_open', readAll_bytes]
  · intro r hr
    obtain ⟨c, -, hc⟩ := mem_flatMap.1 hr
    exact readings_isReading e c r hc

end Streams

end Unicode
