import BtPlatform.Unicode.Searched

/-!
# Encoded strings and their texts

What the operations on encoded strings say of the texts, for every text and
every ASCII string, and where they go wrong: the terminator of the C string
taken for a character, a limit of no characters, an empty text where a stream
is opened, the empty string looked for from the end, and a misread character of
UTF-8 against one of UTF-16.
-/

namespace Unicode

open Support Format List

section Sizes

variable {e : Encoding} {text : List Char}

theorem length_le_bytes {rs : List (Nat × List UInt8)} (h : ∀ r ∈ rs, r.2 ≠ []) :
    rs.length ≤ (rs.flatMap Prod.snd).length := by
  induction rs with
  | nil => exact Nat.zero_le _
  | cons r rs ih =>
      obtain ⟨hr, hrs⟩ := forall_mem_cons.1 h
      have hpos := length_pos_iff.2 hr
      have hih := ih hrs
      rw [flatMap_cons, length_append, length_cons]
      omega

theorem encode_cons (e : Encoding) (c : Char) (text : List Char) :
    encode e (c :: text) = encodeChar e c ++ encode e text := flatMap_cons

theorem readAll_length_le (e : Encoding) (text : List Char) :
    (readAll e text).length ≤ (encode e text).length := by
  rw [← readAll_bytes]
  apply length_le_bytes
  intro r hr
  obtain ⟨c, -, hc⟩ := mem_flatMap.1 hr
  exact (readings_isReading e c r hc).bytes_ne

theorem encode_length_eq_zero : (encode e text).length = 0 ↔ text = [] := by
  constructor
  · intro h
    have hvalues := length_le_values e text
    have hread := readAll_length_le e text
    rw [values, length_map] at hvalues
    exact length_eq_zero_iff.1 (by omega)
  · rintro rfl
    rfl

theorem openStream_encode (h : text ≠ []) :
    openStream (encode e text) = .ok (ByteStream.open' (encode e text) 0 .read) :=
  if_pos (Nat.pos_of_ne_zero (mt encode_length_eq_zero.1 h))

theorem openStream_empty : openStream (encode e []) = .error .assertion := rfl

end Sizes

section Comparing

variable {e e1 e2 : Encoding} {text xs ys : List Char} {s2 : List UInt8} {n : Nat}

theorem pstrncmp_iff (hs2 : ∀ c ∈ s2, 0 < c.toNat ∧ c.toNat < 0x80)
    (hsize : (encode e text).length < 65536) :
    pstrncmp (encode e text) e s2 n =
        .ok (order ((codePoints text).take n) ((points s2).take n)) ↔
      ¬ (s2.length < n ∧ points s2 ++ [0] <+: codePoints text) ∧
        ¬ (text = [] ∧ n = 0 ∧ s2 ≠ []) := by
  have hascii : ∀ x ∈ points s2, x < 0x80 := by
    simp only [points, forall_mem_map]
    exact fun c hc => (hs2 c hc).2
  rw [pstrncmp]
  by_cases htext : text = []
  · subst htext
    rw [if_neg (by simp [encode])]
    cases s2 with
    | nil => simp [codePoints, points]
    | cons c s2 => cases n <;> simp [codePoints, points]
  · have hloop := pstrncmpLoop_iff (n := n) (fun c hc => (hs2 c hc).1)
      (Streams.opened hsize)
    have horder : order ((values (readAll e text)).take n) ((points s2).take n) =
        order ((codePoints text).take n) ((points s2).take n) := by
      have htake : ∀ x ∈ (points s2).take n, x < 0x80 :=
        fun x hx => hascii x (mem_of_mem_take hx)
      rw [← order_asciiView htake, asciiView_take, asciiView_values, ← asciiView_take,
        order_asciiView htake]
    have hnul : ∀ x ∈ points s2 ++ [0], x < 0x80 := by
      simpa [or_imp, forall_and] using hascii
    have hprefix : points s2 ++ [0] <+: values (readAll e text) ↔
        points s2 ++ [0] <+: codePoints text := by
      rw [← prefix_asciiView hnul, asciiView_values, prefix_asciiView hnul]
    rw [if_pos (mt encode_length_eq_zero.1 htext), openStream_encode htext, ok_bind]
    rw [horder, hprefix] at hloop
    rw [hloop]
    exact (and_iff_left fun h => htext h.1).symm

theorem pstrcmp_iff (hs2 : ∀ c ∈ s2, 0 < c.toNat ∧ c.toNat < 0x80)
    (hsize : (encode e text).length < 65536) :
    pstrcmp (encode e text) e s2 = .ok (order (codePoints text) (points s2)) ↔
      ¬ points s2 ++ [0] <+: codePoints text := by
  have hncmp := pstrncmp_iff (n := s2.length + 2) hs2 hsize
  have hlength : (points s2).length = s2.length := by simp [points]
  have htake : (points s2).take (s2.length + 2) = points s2 :=
    take_of_length_le (by omega)
  rw [htake, order_take (by omega)] at hncmp
  have hsame : pstrcmp (encode e text) e s2 =
      pstrncmp (encode e text) e s2 (s2.length + 2) := by
    unfold pstrcmp pstrncmp
    simp only [pstrcmpLoop_eq]
  rw [hsame, hncmp]
  simp

theorem pstrcmp2_eq (h1 : (encode e1 xs).length < 65536) (h2 : (encode e2 ys).length < 65536) :
    pstrcmp2 (encode e1 xs) e1 (encode e2 ys) e2 =
      .ok (order (values (readAll e1 xs)) (values (readAll e2 ys))) := by
  unfold pstrcmp2
  simp only [ne_eq, encode_length_eq_zero]
  have hvalues : ∀ {e text}, text ≠ [] → values (readAll e text) ≠ [] := by
    intro e text h
    have hle := length_le_values e text
    exact ne_nil_of_length_pos (Nat.lt_of_lt_of_le (length_pos_iff.2 h) hle)
  by_cases hx : xs = []
  · subst hx
    rw [if_neg fun h => h.1 rfl]
    by_cases hy : ys = []
    · subst hy
      rfl
    · rw [if_pos hy]
      exact congrArg _ (order_nil_left (hvalues hy)).symm
  · by_cases hy : ys = []
    · subst hy
      rw [if_neg fun h => h.2 rfl, if_neg (not_not.2 rfl), if_pos hx, order_swap]
      exact congrArg (fun n => Except.ok (-n)) (order_nil_left (hvalues hx)).symm
    · rw [if_pos ⟨hx, hy⟩, openStream_encode hx, ok_bind, openStream_encode hy, ok_bind]
      exact pstrcmp2Loop_eq (Nat.lt_succ_of_le (readAll_length_le e1 xs))
        (Streams.opened h1) (Streams.opened h2)

end Comparing

section Counting

theorem countLeads_cons {n : Nat} (hn : n < 256) (s1 : List UInt8) :
    countLeads (UInt8.ofNat n :: s1) = (if n / 64 ≠ 2 then 1 else 0) + countLeads s1 := by
  have hbyte : (UInt8.ofNat n).toNat = n := UInt8.toNat_ofNat_of_lt' hn
  simp [countLeads, countP_cons, hbyte, Nat.add_comm]

theorem countLeads_char (c : Char) (s1 : List UInt8) :
    countLeads (encodeChar .utf8 c ++ s1) = 1 + countLeads s1 := by
  have hvalid := toNat_valid c
  have htail : ∀ n s, countLeads (UInt8.ofNat (n % 0x40 + 0x80) :: s) = countLeads s := by
    intro n s
    rw [countLeads_cons (by omega), if_neg (by omega), Nat.zero_add]
  rw [encodeChar, if_pos rfl, String.utf8EncodeChar]
  simp only [Char.toNat_val]
  split_ifs <;> simp only [cons_append, nil_append] <;>
    rw [countLeads_cons (by omega), if_pos (by omega)] <;> repeat rw [htail]

theorem countUnits_unit (e : Encoding) {n : Nat} (hn : n < 65536) (s1 : List UInt8) :
    countUnits e (unitBytes e n ++ s1) = do
      let m ← countUnits e s1
      return if n / 1024 ≠ 0x37 then m + 1 else m := by
  have hhigh : (UInt8.ofNat (n / 256)).toNat = n / 256 :=
    UInt8.toNat_ofNat_of_lt' (by have : UInt8.size = 256 := rfl; omega)
  have hdiv : n / 256 / 4 = n / 1024 := Nat.div_div_eq_div_mul n 256 4
  unfold unitBytes
  split
  · next he => simp [bigEndian16, countUnits, he, hhigh, hdiv]
  · next he => simp [bigEndian16, countUnits, he, hhigh, hdiv]

theorem countUnits_char {e : Encoding} (he : e ≠ .utf8) (c : Char) {s1 : List UInt8} {m : Nat}
    (h : countUnits e s1 = .ok m) : countUnits e (encodeChar e c ++ s1) = .ok (m + 1) := by
  have hvalid := toNat_valid c
  rw [encodeChar, if_neg he, utf16Units]
  split
  · rw [flatMap_cons, flatMap_nil, append_nil, countUnits_unit e (by omega), h,
      ok_bind, if_pos (by omega)]
    rfl
  · rw [flatMap_cons, flatMap_cons, flatMap_nil, append_nil,
      append_assoc, countUnits_unit e (by omega), countUnits_unit e (by omega), h,
      ok_bind, if_neg (by omega)]
    simp only [pure, Except.pure, ok_bind]
    rw [if_pos (by omega)]

theorem pstrLen_encode (e : Encoding) (text : List Char) :
    pstrLen (encode e text) e = .ok text.length := by
  by_cases he : e = .utf8
  · subst he
    rw [pstrLen]
    apply congrArg
    induction text with
    | nil => rfl
    | cons c text ih => rw [encode_cons, countLeads_char, ih, length_cons, Nat.add_comm]
  · have hunits : pstrLen (encode e text) e = countUnits e (encode e text) := by
      cases e <;> first | exact absurd rfl he | rfl
    rw [hunits]
    clear hunits
    induction text with
    | nil => rfl
    | cons c text ih => exact encode_cons e c text ▸ countUnits_char he c ih

end Counting

section Searching

variable {e : Encoding} {before after : List Char} {s2 : List UInt8} {last : Bool}

theorem Streams.skip {rs rs' : List (Nat × List UInt8)} {bs : ByteStream}
    (h : Streams e (rs ++ rs') bs) : Streams e rs' (bs.advance (rs.flatMap Prod.snd).length) := by
  have hrest := h.rest_eq
  rw [flatMap_append] at hrest
  refine ⟨h.readable.advance (by simp [hrest]), by simp [hrest], ?_⟩
  intro r hr
  exact h.isReading r (mem_append_right rs hr)

/-- A search that is started at the beginning of a character. -/
def search (last : Bool) (e : Encoding) (s1 s2 : List UInt8) (pos : Nat) : Except Fault Int := do
  let bs ← openStream s1
  let bs ← bs.setPos pos
  searchLoop last e s2 (s1.length + 1) 0 (-1) bs

theorem search_encode (hs2 : s2 ≠ []) (hascii : ∀ x ∈ points s2, x < 0x80)
    (hsize : (encode e (before ++ after)).length < 65536) (htext : before ++ after ≠ []) :
    ∃ r, search last e (encode e (before ++ after)) s2 (encode e before).length = .ok r ∧
      IsAnswer last (matchesFrom e (points s2) (encode e before).length after) (-1) r := by
  have hopened := Streams.opened hsize
  have hsplit : readAll e (before ++ after) = readAll e before ++ readAll e after :=
    flatMap_append
  have hlength := readAll_length_le e (before ++ after)
  rw [hsplit] at hopened hlength
  rw [length_append] at hlength
  have hskip := hopened.skip
  rw [readAll_bytes] at hskip
  have hpos : (ByteStream.open' (encode e (before ++ after)) 0 .read).setPos
      (encode e before).length =
      .ok ((ByteStream.open' (encode e (before ++ after)) 0 .read).advance
        (encode e before).length) := by
    have hle := hskip.readable.pos_le
    rw [ByteStream.advance_pos, ByteStream.advance_size] at hle
    rw [ByteStream.setPos, if_pos (by omega), ByteStream.advance]
    simp [ByteStream.open']
  rw [search, openStream_encode htext, ok_bind, hpos, ok_bind]
  have hbegin : ((ByteStream.open' (encode e (before ++ after)) 0 .read).advance
      (encode e before).length).pos = (encode e before).length := Nat.zero_add _
  have hspec := @searchLoop_spec e _ s2 last 0 ((encode e (before ++ after)).length + 1) (-1) after
    hs2 hascii hskip (by omega)
  rwa [hbegin] at hspec

theorem points_lt (hs2 : ∀ c ∈ s2, 0 < c.toNat ∧ c.toNat < 0x80) : ∀ x ∈ points s2, x < 0x80 := by
  simp only [points, forall_mem_map]
  exact fun c hc => (hs2 c hc).2

theorem pstrIndexOf_iff (hs2 : ∀ c ∈ s2, 0 < c.toNat ∧ c.toNat < 0x80)
    (hsize : (encode e (before ++ after)).length < 65536) :
    (∃ r, pstrIndexOf (encode e (before ++ after)) e s2 (encode e before).length = .ok r ∧
        IsAnswer false (matchesFrom e (points s2) (encode e before).length after) (-1) r) ↔
      (before ++ after = [] → s2 = []) := by
  by_cases h2 : s2 = []
  · subst h2
    have hfirst : IsLeast (matchesFrom e [] (encode e before).length after)
        (encode e before).length :=
      ⟨⟨[], after, rfl, rfl, nil_prefix⟩, fun off h => le_of_mem_matchesFrom h⟩
    exact iff_of_true ⟨_, rfl, .inr ⟨_, rfl, hfirst⟩⟩ fun _ => rfl
  · have hsearch : pstrIndexOf (encode e (before ++ after)) e s2 (encode e before).length =
        search false e (encode e (before ++ after)) s2 (encode e before).length := if_neg h2
    rw [hsearch]
    by_cases htext : before ++ after = []
    · apply iff_of_false
      · rw [htext, search, openStream_empty]
        simp
      · exact fun h => h2 (h htext)
    · exact iff_of_true (search_encode h2 (points_lt hs2) hsize htext) fun h => absurd h htext

theorem pstrLastIndexOf_iff (hs2 : ∀ c ∈ s2, 0 < c.toNat ∧ c.toNat < 0x80)
    (hsize : (encode e (before ++ after)).length < 65536) :
    (∃ r, pstrLastIndexOf (encode e (before ++ after)) e s2 (encode e before).length = .ok r ∧
        IsAnswer true (matchesFrom e (points s2) (encode e before).length after) (-1) r) ↔
      (before ++ after = [] ↔ s2 = []) := by
  by_cases h2 : s2 = []
  · subst h2
    have hlast : (encode e (before ++ after)).length ∈
        matchesFrom e [] (encode e before).length after := by
      refine ⟨after, [], (append_nil after).symm, ?_, nil_prefix⟩
      rw [encode, flatMap_append, length_append]
      rfl
    rw [iff_true_right rfl]
    constructor
    · rintro ⟨r, hr, ⟨hempty, -⟩ | ⟨off, rfl, -, hmax⟩⟩
      · exact absurd hlast (by rw [points, map_nil] at hempty; simp [hempty])
      · have hzero : off = 0 := by
          injection hr with hr
          exact_mod_cast hr.symm
        have hle := hmax hlast
        exact encode_length_eq_zero.1 (Nat.le_zero.1 (hzero ▸ hle))
    · intro htext
      obtain ⟨rfl, rfl⟩ := append_eq_nil_iff.1 htext
      refine ⟨0, rfl, .inr ⟨0, rfl, hlast, ?_⟩⟩
      rintro off ⟨b, a, htext, rfl, -⟩
      rw [(append_eq_nil_iff.1 htext.symm).1]
      exact Nat.le_refl 0
  · have hsearch : pstrLastIndexOf (encode e (before ++ after)) e s2 (encode e before).length =
        search true e (encode e (before ++ after)) s2 (encode e before).length := if_neg h2
    rw [hsearch, iff_false_right h2]
    by_cases htext : before ++ after = []
    · rw [htext, search, openStream_empty]
      simp
    · exact iff_of_true (search_encode h2 (points_lt hs2) hsize htext) htext

end Searching

/-- The operations on encoded strings, against the text and the ASCII string:
when each of them says what the code points say. -/
theorem operations_exact {e : Encoding} {before after : List Char} {s2 : List UInt8}
    (hs2 : ∀ c ∈ s2, 0 < c.toNat ∧ c.toNat < 0x80)
    (hsize : (encode e (before ++ after)).length < 65536) (len : Nat) :
    let text := before ++ after
    let offsets := matchesFrom e (points s2) (encode e before).length after
    (pstrcmp (encode e text) e s2 = .ok (order (codePoints text) (points s2)) ↔
      ¬ points s2 ++ [0] <+: codePoints text) ∧
    (pstrncmp (encode e text) e s2 len =
        .ok (order ((codePoints text).take len) ((points s2).take len)) ↔
      ¬ (s2.length < len ∧ points s2 ++ [0] <+: codePoints text) ∧
        ¬ (text = [] ∧ len = 0 ∧ s2 ≠ [])) ∧
    pstrLen (encode e text) e = .ok text.length ∧
    ((∃ r, pstrIndexOf (encode e text) e s2 (encode e before).length = .ok r ∧
        IsAnswer false offsets (-1) r) ↔ (text = [] → s2 = [])) ∧
    ((∃ r, pstrLastIndexOf (encode e text) e s2 (encode e before).length = .ok r ∧
        IsAnswer true offsets (-1) r) ↔ (text = [] ↔ s2 = [])) ∧
    ∀ (e' : Encoding) (text' : List Char), (encode e' text').length < 65536 →
      (Comparable e e' text text' → pstrcmp2 (encode e text) e (encode e' text') e' =
        .ok (order (codePoints text) (codePoints text'))) ∧
      (text' = text → pstrcmp2 (encode e text) e (encode e' text') e' =
        .ok (order (codePoints text) (codePoints text')) → Comparable e e' text text') := by
  refine ⟨pstrcmp_iff hs2 hsize, pstrncmp_iff hs2 hsize, pstrLen_encode e _,
    pstrIndexOf_iff hs2 hsize, pstrLastIndexOf_iff hs2 hsize, ?_⟩
  intro e' text' hsize'
  rw [pstrcmp2_eq hsize hsize']
  constructor
  · intro h
    rw [order_values h]
  · rintro rfl heq
    injection heq with heq
    exact comparable_of_order heq

theorem operations_exact_letter : pstrLen (encode .utf16BE ['a']) .utf16BE = .ok 1 :=
  (@operations_exact .utf16BE [] ['a'] [0x61] (forall_mem_singleton.2 (by decide))
    (by decide) 1).2.2.1

/-- A character with the lead byte `0xe0`, in UTF-8 and in UTF-16. -/
theorem devanagari_misread :
    pstrcmp2 (encode .utf8 [Char.ofNat 0x900]) .utf8 (encode .utf16LE [Char.ofNat 0x900]) .utf16LE ≠
      .ok (order (codePoints [Char.ofNat 0x900]) (codePoints [Char.ofNat 0x900])) := by
  decide

end Unicode
