import BtPlatform.Gatt.Uuid
import BtPlatform.Support.Scanf
import Mathlib.Data.List.TakeWhile

/-!
# UUIDs as text

`Uuid::FromString` and `Uuid::ToString`. A text is scanned for pairs of hexadecimal digits and
for one more character, which is to stay unread; the variable that it would be stored in is not
initialised, and what its memory holds is the first argument here.
-/

namespace Gatt

open Support Support.Scanf Format List

namespace Uuid

/-- `kBase`. -/
def base : Uuid := ⟨[0, 0, 0, 0] ++ baseTail, length_zero_base⟩

def as16Bit (u : Uuid) : Nat := ofBigEndian16 (u.uu.getD 2 0) (u.uu.getD 3 0)

def as32Bit (u : Uuid) : Nat :=
  ofBigEndian32 (u.uu.getD 0 0) (u.uu.getD 1 0) (u.uu.getD 2 0) (u.uu.getD 3 0)

/-- `c_str`, as far as `sscanf` reads it. -/
def cStr (uuid : List Char) : List Char := uuid.takeWhile (· ≠ '\x00')

def pairs (n : Nat) : List Directive := replicate n .pair

/-- The pairs of a text of a given length, with the hyphens between them and the byte of the
UUID at which they start. -/
def layout (length : Nat) : Option (Nat × List Directive) :=
  if length = 36 then
    some (0, pairs 4 ++ .literal '-' :: (pairs 2 ++ .literal '-' :: (pairs 2 ++
      .literal '-' :: (pairs 2 ++ .literal '-' :: pairs 6))))
  else if length = 8 then some (0, pairs 4)
  else if length = 4 then some (2, pairs 2)
  else none

/-- A byte that is stored. -/
def store (u : Uuid) (i : Nat) (byte : UInt8) : Uuid :=
  ⟨u.uu.set i byte, by rw [length_set, u.size]⟩

/-- The bytes that are stored one after the other. -/
def storeAll (u : Uuid) (start : Nat) : List UInt8 → Uuid
  | [] => u
  | byte :: bytes => (u.store start byte).storeAll (start + 1) bytes

/-- `FromString`, with `is_valid`. -/
def fromString (c : Char) (uuid : List Char) : Uuid × Bool :=
  match layout uuid.length with
  | none => (base, false)
  | some (start, format) =>
      let scan := sscanf (format ++ [.char]) (cStr uuid)
      (base.storeAll start scan.pairs,
        decide (scan.count = asked format ∧ scan.trailing.getD c = '\x00'))

/-- Some bytes, as two digits each. -/
def printed (u : Uuid) (start n : Nat) : List Char := ((u.uu.drop start).take n).flatMap printPair

def toString (u : Uuid) : List Char :=
  u.printed 0 4 ++ '-' :: (u.printed 4 2 ++ '-' :: (u.printed 6 2 ++
    '-' :: (u.printed 8 2 ++ '-' :: u.printed 10 6)))

/-! ## Well-formed text -/

/-- The UUID that a text stands for: four or eight digits for one on the base UUID, or groups
of eight, four, four, four and twelve digits with hyphens between them. -/
inductive Denotes : List Char → Uuid → Prop
  | short {text : List Char} {uuid16 : Nat} (h : hexPairs text = some (bigEndian16 uuid16)) :
      Denotes text (from16Bit uuid16)
  | word {text : List Char} {uuid32 : Nat} (h : hexPairs text = some (bigEndian32 uuid32)) :
      Denotes text (from32Bit uuid32)
  | long {t₀ t₁ t₂ t₃ t₄ : List Char} {u : Uuid}
      (h₀ : hexPairs t₀ = some (u.uu.take 4))
      (h₁ : hexPairs t₁ = some ((u.uu.drop 4).take 2))
      (h₂ : hexPairs t₂ = some ((u.uu.drop 6).take 2))
      (h₃ : hexPairs t₃ = some ((u.uu.drop 8).take 2))
      (h₄ : hexPairs t₄ = some (u.uu.drop 10)) :
      Denotes (t₀ ++ '-' :: (t₁ ++ '-' :: (t₂ ++ '-' :: (t₃ ++ '-' :: t₄)))) u

/-- Every pair is read, and nothing is left to read. -/
def Reads (text : List Char) : Prop :=
  ∃ start format, layout text.length = some (start, format) ∧
    (sscanf (format ++ [.char]) (cStr text)).pairs.length = asked format ∧
    (sscanf (format ++ [.char]) (cStr text)).trailing = none

variable {text : List Char} {u : Uuid} {bytes : List UInt8}

theorem cStr_of_digits (h : ∀ ch ∈ text, ch ≠ '\x00') : cStr text = text := by
  unfold cStr
  rw [takeWhile_eq_self_iff]
  exact fun ch hch => decide_eq_true (h ch hch)

theorem layout_char {length start : Nat} {format : List Directive}
    (h : layout length = some (start, format)) : .char ∉ format := by
  unfold layout at h
  split at h
  · cases h
    decide
  · split at h
    · cases h
      decide
    · split at h
      · cases h
        decide
      · cases h

/-- A text is valid if every pair of it is read and the unread character is null. -/
theorem fromString_valid (c : Char) (text : List Char) :
    (fromString c text).2 = true ↔ Reads text ∧ c = '\x00' := by
  unfold fromString Reads
  cases hlayout : layout text.length with
  | none => simp
  | some shape =>
      obtain ⟨start, format⟩ := shape
      have hcount := sscanf_count (layout_char hlayout) (cStr text)
      dsimp only
      rw [decide_eq_true_iff, hcount]
      constructor
      · rintro ⟨⟨hpairs, hnone⟩, hc⟩
        rw [hnone] at hc
        exact ⟨⟨start, format, rfl, hpairs, hnone⟩, hc⟩
      · rintro ⟨⟨start', format', heq, hpairs, hnone⟩, hc⟩
        obtain ⟨rfl, rfl⟩ := Prod.ext_iff.1 (Option.some.inj heq)
        refine ⟨⟨hpairs, hnone⟩, ?_⟩
        rw [hnone]
        exact hc

/-- The UUID of two bytes, of four bytes and of sixteen. -/
theorem storeAll_short (uuid16 : Nat) :
    base.storeAll 2 (bigEndian16 uuid16) = from16Bit uuid16 := rfl

theorem storeAll_word (uuid32 : Nat) :
    base.storeAll 0 (bigEndian32 uuid32) = from32Bit uuid32 := rfl

/-- The bytes that are stored replace as many others. -/
theorem storeAll_uu {front old back : List UInt8} (hu : u.uu = front ++ (old ++ back))
    (hlen : old.length = bytes.length) :
    (u.storeAll front.length bytes).uu = front ++ (bytes ++ back) := by
  induction bytes generalizing u front old with
  | nil =>
      obtain rfl := eq_nil_of_length_eq_zero hlen
      exact hu
  | cons byte bytes ih =>
      cases old with
      | nil => cases hlen
      | cons b old =>
          have hstored : (u.store front.length byte).uu = (front ++ [byte]) ++ (old ++ back) := by
            change u.uu.set front.length byte = _
            rw [hu, set_append_right _ _ (le_refl _), Nat.sub_self, append_assoc]
            rfl
          have hrest := ih hstored (Nat.succ_inj.1 hlen)
          rw [length_append, length_singleton, append_assoc] at hrest
          exact hrest

theorem storeAll_long (u : Uuid) : base.storeAll 0 u.uu = u := by
  have hbase : base.uu = [] ++ (base.uu ++ []) := (append_nil _).symm
  have hstored := storeAll_uu hbase (base.size.trans u.size.symm)
  rw [nil_append, append_nil] at hstored
  exact Uuid.ext hstored
theorem groups (u : Uuid) :
    u.uu.take 4 ++ ((u.uu.drop 4).take 2 ++ ((u.uu.drop 6).take 2 ++ ((u.uu.drop 8).take 2 ++
      u.uu.drop 10))) = u.uu := by
  obtain ⟨uu, hsize⟩ := u
  match uu, hsize with
  | [u0, u1, u2, u3, u4, u5, u6, u7, u8, u9, u10, u11, u12, u13, u14, u15], _ => rfl

theorem sscanf_end (h : hexPairs text = some bytes) :
    sscanf (pairs bytes.length ++ [.char]) text = ⟨bytes, none⟩ := by
  have hscan := sscanf_pairs h [.char] []
  rw [append_nil] at hscan
  rw [pairs, hscan]
  exact congrArg (Scan.mk · none) (append_nil bytes)

/-- A group of digits and the hyphen after it. -/
theorem sscanf_group (h : hexPairs text = some bytes) (format : List Directive) (rest : List Char) :
    sscanf (pairs bytes.length ++ .literal '-' :: format) (text ++ '-' :: rest) =
      ⟨bytes ++ (sscanf format rest).pairs, (sscanf format rest).trailing⟩ := by
  have hhyphen := sscanf_literal '-' '-' format rest
  rw [if_pos rfl] at hhyphen
  rw [pairs, sscanf_pairs h, hhyphen]

/-- A well-formed text is read in whole, and its bytes make the UUID. -/
theorem Denotes.scanned (h : Denotes text u) :
    ∃ start format bytes, layout text.length = some (start, format) ∧
      bytes.length = asked format ∧
      sscanf (format ++ [.char]) (cStr text) = ⟨bytes, none⟩ ∧ base.storeAll start bytes = u := by
  cases h with
  | @short _ uuid16 h =>
      have hlen := hexPairs_length h
      refine ⟨2, pairs 2, bigEndian16 uuid16, by rw [hlen]; rfl, rfl, ?_, storeAll_short uuid16⟩
      rw [cStr_of_digits (hexPairs_null h)]
      exact sscanf_end h
  | @word _ uuid32 h =>
      have hlen := hexPairs_length h
      refine ⟨0, pairs 4, bigEndian32 uuid32, by rw [hlen]; rfl, rfl, ?_, storeAll_word uuid32⟩
      rw [cStr_of_digits (hexPairs_null h)]
      exact sscanf_end h
  | @long t₀ t₁ t₂ t₃ t₄ _ h₀ h₁ h₂ h₃ h₄ =>
      have hsize := u.size
      have hlen₀ := hexPairs_length h₀
      have hlen₁ := hexPairs_length h₁
      have hlen₂ := hexPairs_length h₂
      have hlen₃ := hexPairs_length h₃
      have hlen₄ := hexPairs_length h₄
      have hcut₀ : (u.uu.take 4).length = 4 := by rw [length_take]; omega
      have hcut₁ : ((u.uu.drop 4).take 2).length = 2 := by
        rw [length_take, length_drop]; omega
      have hcut₂ : ((u.uu.drop 6).take 2).length = 2 := by
        rw [length_take, length_drop]; omega
      have hcut₃ : ((u.uu.drop 8).take 2).length = 2 := by
        rw [length_take, length_drop]; omega
      have hcut₄ : (u.uu.drop 10).length = 6 := by rw [length_drop]; omega
      have hlayout : layout (t₀ ++ '-' :: (t₁ ++ '-' :: (t₂ ++ '-' ::
          (t₃ ++ '-' :: t₄)))).length =
          some (0, pairs 4 ++ .literal '-' :: (pairs 2 ++ .literal '-' :: (pairs 2 ++
            .literal '-' :: (pairs 2 ++ .literal '-' :: pairs 6)))) := by
        have htotal : (t₀ ++ '-' :: (t₁ ++ '-' :: (t₂ ++ '-' :: (t₃ ++ '-' :: t₄)))).length =
            36 := by
          simp only [length_append, length_cons]
          omega
        rw [htotal]
        rfl
      refine ⟨_, _, u.uu, hlayout, hsize, ?_, storeAll_long u⟩
      rw [cStr_of_digits]
      · have hscan₀ := sscanf_group h₀
        have hscan₁ := sscanf_group h₁
        have hscan₂ := sscanf_group h₂
        have hscan₃ := sscanf_group h₃
        have hscan₄ := sscanf_end h₄
        rw [hcut₀] at hscan₀
        rw [hcut₁] at hscan₁
        rw [hcut₂] at hscan₂
        rw [hcut₃] at hscan₃
        rw [hcut₄] at hscan₄
        simp only [append_assoc, cons_append]
        rw [hscan₀, hscan₁, hscan₂, hscan₃, hscan₄]
        exact congrArg (Scan.mk · none) u.groups
      · intro ch hch
        simp only [mem_append, mem_cons] at hch
        rcases hch with hch | rfl | hch | rfl | hch | rfl | hch | rfl | hch
        · exact hexPairs_null h₀ ch hch
        · decide
        · exact hexPairs_null h₁ ch hch
        · decide
        · exact hexPairs_null h₂ ch hch
        · decide
        · exact hexPairs_null h₃ ch hch
        · decide
        · exact hexPairs_null h₄ ch hch

theorem Denotes.reads (h : Denotes text u) : Reads text := by
  obtain ⟨start, format, bytes, hlayout, hlen, hscan, -⟩ := h.scanned
  refine ⟨start, format, hlayout, ?_, ?_⟩
  · rw [hscan]
    exact hlen
  · rw [hscan]

theorem Denotes.fromString (h : Denotes text u) (c : Char) : (fromString c text).1 = u := by
  obtain ⟨start, format, bytes, hlayout, -, hscan, hu⟩ := h.scanned
  unfold Uuid.fromString
  rw [hlayout]
  dsimp only
  rw [hscan]
  exact hu

/-- What is printed is well formed. -/
theorem denotes_toString (u : Uuid) : Denotes u.toString u := by
  refine Denotes.long ?_ ?_ ?_ ?_ ?_
  · exact hexPairs_printPair _
  · exact hexPairs_printPair _
  · exact hexPairs_printPair _
  · exact hexPairs_printPair _
  · rw [printed, hexPairs_printPair, take_of_length_le]
    rw [length_drop, u.size]

/-- A well-formed text starts with a digit. -/
theorem Denotes.digit (h : Denotes text u) :
    ∃ ch rest n, text = ch :: rest ∧ hexValue ch = some n := by
  cases h with
  | short h => exact hexPairs_digit h (cons_ne_nil _ _)
  | word h => exact hexPairs_digit h (cons_ne_nil _ _)
  | long h₀ h₁ h₂ h₃ h₄ =>
      have hne : u.uu.take 4 ≠ [] := by
        apply ne_nil_of_length_pos
        rw [length_take, u.size]
        decide
      obtain ⟨ch, rest, n, rfl, hn⟩ := hexPairs_digit h₀ hne
      exact ⟨ch, _, n, rfl, hn⟩

/-! ## Short representations -/

theorem as16Bit_from16Bit {x : Nat} (hx : x < 65536) : (from16Bit x).as16Bit = x := by
  change ofBigEndian16 (UInt8.ofNat (x / 256)) (UInt8.ofNat x) = x
  rw [ofBigEndian16_ofNat, Nat.mod_eq_of_lt hx]

theorem as32Bit_from32Bit {x : Nat} (hx : x < 4294967296) : (from32Bit x).as32Bit = x := by
  change ofBigEndian32 (UInt8.ofNat (x / 65536 / 256)) (UInt8.ofNat (x / 65536))
    (UInt8.ofNat (x / 256)) (UInt8.ofNat x) = x
  rw [ofBigEndian32_ofNat, Nat.mod_eq_of_lt hx]

/-- The UUIDs with two bytes are those of sixteen bits. -/
theorem from16Bit_iff (u : Uuid) :
    (∃ x < 65536, from16Bit x = u) ↔ u.uu.drop 4 = baseTail ∧ u.uu.take 2 = [0, 0] := by
  constructor
  · rintro ⟨x, -, rfl⟩
    exact ⟨rfl, rfl⟩
  · rintro ⟨htail, hzero⟩
    obtain ⟨uu, hsize⟩ := u
    match uu, hsize with
    | u0 :: u1 :: u2 :: u3 :: rest, hsize =>
        refine ⟨ofBigEndian16 u2 u3, ofBigEndian16_lt u2 u3, Uuid.ext ?_⟩
        simp only [drop_succ_cons, drop_zero] at htail
        simp only [take_succ_cons, take_zero, cons.injEq, and_true] at hzero
        obtain ⟨rfl, rfl⟩ := hzero
        subst htail
        change [0, 0] ++ bigEndian16 (ofBigEndian16 u2 u3) ++ baseTail = _
        rw [bigEndian16_ofBigEndian16]
        rfl

theorem from32Bit_iff (u : Uuid) :
    (∃ x < 4294967296, from32Bit x = u) ↔ u.uu.drop 4 = baseTail := by
  constructor
  · rintro ⟨x, -, rfl⟩
    rfl
  · intro htail
    obtain ⟨uu, hsize⟩ := u
    match uu, hsize with
    | u0 :: u1 :: u2 :: u3 :: rest, hsize =>
        refine ⟨ofBigEndian32 u0 u1 u2 u3, ofBigEndian32_lt u0 u1 u2 u3, Uuid.ext ?_⟩
        simp only [drop_succ_cons, drop_zero] at htail
        subst htail
        change bigEndian32 (ofBigEndian32 u0 u1 u2 u3) ++ baseTail = _
        rw [bigEndian32_ofBigEndian32]
        rfl

theorem size_two (u : Uuid) :
    u.shortestRepresentationSize = 2 ↔ ∃ x < 65536, from16Bit x = u := by
  rw [from16Bit_iff]
  unfold shortestRepresentationSize
  split
  · next htail => simp [htail]
  · next htail =>
      rw [not_not] at htail
      split
      · next hzero => simp [htail, hzero]
      · next hzero => simp [hzero]

theorem size_sixteen (u : Uuid) :
    u.shortestRepresentationSize = 16 ↔ ¬∃ x < 4294967296, from32Bit x = u := by
  rw [from32Bit_iff]
  unfold shortestRepresentationSize
  split
  · next htail => simp [htail]
  · next htail =>
      rw [not_not] at htail
      split
      · simp [htail]
      · simp [htail]

/-- The bytes of the short representation determine the UUID. -/
theorem uuidToByte_injective : Function.Injective uuidToByte := by
  intro u v h
  have hsize : u.shortestRepresentationSize = v.shortestRepresentationSize := by
    rw [← uuidToByte_length, ← uuidToByte_length, h]
  unfold uuidToByte at h
  rw [hsize] at h
  obtain htwo | hfour | hlong := v.size_cases
  · rw [if_pos htwo, if_pos htwo] at h
    obtain ⟨x, hx, rfl⟩ := (size_two u).1 (hsize.trans htwo)
    obtain ⟨y, hy, rfl⟩ := (size_two v).1 htwo
    change bigEndian16 x = bigEndian16 y at h
    unfold from16Bit
    simp only [h]
  · have hne : ¬v.shortestRepresentationSize = 2 := by omega
    rw [if_neg hne, if_neg hne, if_pos hfour, if_pos hfour] at h
    have hword : ∀ w : Uuid, w.shortestRepresentationSize = 4 →
        ∃ x < 4294967296, from32Bit x = w := by
      intro w hw
      apply not_not.1
      rw [← size_sixteen]
      omega
    obtain ⟨x, hx, rfl⟩ := hword u (hsize.trans hfour)
    obtain ⟨y, hy, rfl⟩ := hword v hfour
    change bigEndian32 x = bigEndian32 y at h
    unfold from32Bit
    simp only [h]
  · have hne : ¬v.shortestRepresentationSize = 2 := by omega
    have hne' : ¬v.shortestRepresentationSize = 4 := by omega
    rw [if_neg hne, if_neg hne, if_neg hne', if_neg hne'] at h
    exact Uuid.ext h

/-- A text is reported as it should be, unless its pairs are all read, and it is well formed and
the unread character is not null or the other way round. Printing, the short forms and the
bytes agree. -/
theorem text_codec_iff (c : Char) :
    (∀ text, (((fromString c text).2 = true ↔ ∃ u, Denotes text u) ∧
        ∀ u, Denotes text u → (fromString c text).1 = u) ↔
      (Reads text → ((∃ u, Denotes text u) ↔ c = '\x00'))) ∧
    (∀ u, fromString c (toString u) = (u, true) ↔ c = '\x00') ∧
    (∀ x < 65536, (from16Bit x).as16Bit = x) ∧
    (∀ x < 4294967296, (from32Bit x).as32Bit = x) ∧
    (∀ u : Uuid, (u.shortestRepresentationSize = 2 ↔ ∃ x < 65536, from16Bit x = u) ∧
      (u.shortestRepresentationSize = 4 ↔
        (¬∃ x < 65536, from16Bit x = u) ∧ ∃ x < 4294967296, from32Bit x = u) ∧
      (u.shortestRepresentationSize = 16 ↔
        (¬∃ x < 65536, from16Bit x = u) ∧ ¬∃ x < 4294967296, from32Bit x = u)) ∧
    Function.Injective uuidToByte := by
  refine ⟨fun text => ?_, fun u => ?_, fun x => as16Bit_from16Bit, fun x => as32Bit_from32Bit,
    fun u => ⟨size_two u, ?_, ?_⟩, uuidToByte_injective⟩
  · rw [fromString_valid]
    constructor
    · rintro ⟨hvalid, -⟩ hreads
      rw [← hvalid]
      exact ⟨And.right, fun hc => ⟨hreads, hc⟩⟩
    · intro h
      refine ⟨⟨?_, ?_⟩, fun u hu => hu.fromString c⟩
      · rintro ⟨hreads, hc⟩
        exact (h hreads).2 hc
      · rintro ⟨u, hu⟩
        exact ⟨hu.reads, (h hu.reads).1 ⟨u, hu⟩⟩
  · have hdenotes := u.denotes_toString
    constructor
    · intro h
      have hvalid : (fromString c u.toString).2 = true := by rw [h]
      exact ((fromString_valid c u.toString).1 hvalid).2
    · intro hc
      exact Prod.ext (hdenotes.fromString c)
        ((fromString_valid c u.toString).2 ⟨hdenotes.reads, hc⟩)
  · rw [← size_two, ← not_iff_not, not_and, ← size_sixteen]
    have := u.size_cases
    omega
  · rw [← size_two, ← size_sixteen]
    have := u.size_cases
    omega

/-- White space is skipped before a pair, and a pair may have one digit. -/
theorem fromString_space :
    ¬((fromString '\x00' " 123".toList).2 = true ↔ ∃ u, Denotes " 123".toList u) := by
  have hvalid : (fromString '\x00' " 123".toList).2 = true := by decide
  intro h
  obtain ⟨u, hu⟩ := h.1 hvalid
  obtain ⟨ch, rest, n, heq, hn⟩ := hu.digit
  cases heq
  revert hn
  exact nofun

end Uuid

end Gatt
