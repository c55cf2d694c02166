import BtPlatform.Unicode.Text
import Mathlib.Data.List.Basic

/-!
# Comparisons of encoded strings

Every comparison orders the values that the readers make of its texts. Against
an ASCII string these order as the code points do, since a character that is
misread stays outside ASCII. The values of two texts in UTF-8 order as the code
points too: the readers' map of a character is monotone. Only a text in UTF-8
and one in UTF-16 that go on alike with a misread character are told apart
wrongly.
-/

namespace Unicode

open Support List

/-- The outcome of a comparison of two sequences. -/
def order (xs ys : List Nat) : Int := if xs < ys then -1 else if ys < xs then 1 else 0

section Order

@[simp] theorem order_nil_nil : order [] [] = 0 := by simp [order]

@[simp] theorem order_nil_cons (y : Nat) (ys : List Nat) : order [] (y :: ys) = -1 := by
  simp [order]

@[simp] theorem order_cons_nil (x : Nat) (xs : List Nat) : order (x :: xs) [] = 1 := by
  simp [order]

theorem order_cons_cons (x y : Nat) (xs ys : List Nat) :
    order (x :: xs) (y :: ys) = if x < y then -1 else if y < x then 1 else order xs ys := by
  simp only [order, cons_lt_cons_iff]
  rcases Nat.lt_trichotomy x y with h | rfl | h
  · simp [h]
  · simp
  · simp [h, Nat.lt_asymm h, Nat.ne_of_gt h]

theorem order_swap (xs ys : List Nat) : order ys xs = - order xs ys := by
  unfold order
  by_cases h : xs < ys
  · rw [if_pos h, if_pos h, if_neg (List.lt_asymm h)]
    rfl
  · rw [if_neg h, if_neg h]
    split <;> rfl

theorem order_append (zs xs ys : List Nat) : order (zs ++ xs) (zs ++ ys) = order xs ys := by
  induction zs with
  | nil => rfl
  | cons z zs ih => simp [order_cons_cons, ih]

theorem order_eq_zero {xs ys : List Nat} : order xs ys = 0 ↔ xs = ys := by
  induction xs generalizing ys with
  | nil => cases ys <;> simp
  | cons x xs ih =>
      cases ys with
      | nil => simp
      | cons y ys =>
          rw [order_cons_cons]
          rcases Nat.lt_trichotomy x y with h | rfl | h
          · simp [h, Nat.ne_of_lt h]
          · simp [ih]
          · simp [h, Nat.lt_asymm h, Nat.ne_of_gt h]

/-- More characters than the other sequence has need not be compared. -/
theorem order_take {xs ys : List Nat} {n : Nat} (h : ys.length < n) :
    order (xs.take n) ys = order xs ys := by
  induction ys generalizing xs n with
  | nil => cases xs <;> cases n <;> simp_all
  | cons y ys ih =>
      obtain _ | n := n
      · simp at h
      · cases xs with
        | nil => rfl
        | cons x xs =>
            rw [take_succ_cons, order_cons_cons, order_cons_cons, ih (by simpa using h)]

end Order

/-- The values among some readings. -/
def values (rs : List (Nat × List UInt8)) : List Nat := rs.map Prod.fst

/-- The C string as the sequence of its characters. -/
def points (s2 : List UInt8) : List Nat := s2.map UInt8.toNat

section Loops

variable {e e1 e2 : Encoding} {rs rs1 rs2 : List (Nat × List UInt8)} {bs bs1 bs2 : ByteStream}

theorem Streams.getChar {r : Nat × List UInt8} (h : Streams e (r :: rs) bs) :
    getChar e bs = .ok (r.1, bs.advance r.2.length) := h.read assertRoom 0

/-- The comparison of up to `len` characters goes wrong where it takes the
terminator for a character and finds it in the text. -/
theorem pstrncmpLoop_iff {n : Nat} {s2 : List UInt8} (hs2 : ∀ c ∈ s2, 0 < c.toNat)
    (h : Streams e rs bs) :
    pstrncmpLoop e n s2 bs = .ok (order ((values rs).take n) ((points s2).take n)) ↔
      ¬ (s2.length < n ∧ points s2 ++ [0] <+: values rs) := by
  induction n generalizing s2 rs bs with
  | zero => simp [pstrncmpLoop]
  | succ n ih =>
      cases s2 with
      | nil =>
          rw [pstrncmpLoop, compareNul]
          cases rs with
          | nil => simp [h.avail_nil, values, points]
          | cons r rs =>
              rw [if_neg h.avail_cons, h.getChar, ok_bind]
              dsimp only
              by_cases hr : 0 < r.1
              · simp [hr, values, points, pure, Except.pure, Nat.ne_of_lt hr]
              · have hzero : r.1 = 0 := by omega
                rw [if_neg hr]
                by_cases hlen : n = 0 <;> simp [hzero, hlen, values, points]
      | cons c s2 =>
          rw [pstrncmpLoop, compareChar]
          cases rs with
          | nil => simp [h.avail_nil, values, points]
          | cons r rs =>
              rw [if_neg h.avail_cons, h.getChar, ok_bind]
              dsimp only
              have hih := ih (fun c' hc' => hs2 c' (mem_cons_of_mem c hc')) h.next
              simp only [values, points, map_cons, take_succ_cons, order_cons_cons,
                cons_append, cons_prefix_cons, length_cons,
                Nat.add_lt_add_iff_right] at hih ⊢
              rcases Nat.lt_trichotomy r.1 c.toNat with hlt | heq | hgt
              · simp [hlt, Nat.ne_of_gt hlt, pure, Except.pure]
              · simp [heq, hih]
              · simp [hgt, Nat.lt_asymm hgt, Nat.ne_of_lt hgt, pure, Except.pure]

/-- The comparison without a limit is the one with a limit past the terminator. -/
theorem pstrcmpLoop_eq (e : Encoding) (s2 : List UInt8) (bs : ByteStream) :
    pstrcmpLoop e s2 bs = pstrncmpLoop e (s2.length + 2) s2 bs := by
  induction s2 generalizing bs with
  | nil => simp [pstrcmpLoop, pstrncmpLoop]
  | cons c s2 ih =>
      have hnext : pstrcmpLoop e s2 = pstrncmpLoop e (s2.length + 2) s2 := funext ih
      rw [pstrcmpLoop, hnext, length_cons, pstrncmpLoop]

theorem pstrcmp2Loop_eq {fuel : Nat} (hfuel : rs1.length < fuel) (h1 : Streams e1 rs1 bs1)
    (h2 : Streams e2 rs2 bs2) :
    pstrcmp2Loop e1 e2 fuel bs1 bs2 = .ok (order (values rs1) (values rs2)) := by
  induction fuel generalizing rs1 rs2 bs1 bs2 with
  | zero => omega
  | succ fuel ih =>
      rw [pstrcmp2Loop]
      cases rs1 with
      | nil =>
          rw [if_pos h1.avail_nil]
          cases rs2 with
          | nil => simp [h2.avail_nil, values]
          | cons r2 rs2 => simp [h2.avail_cons, values]
      | cons r1 rs1 =>
          rw [if_neg h1.avail_cons]
          cases rs2 with
          | nil => simp [h2.avail_nil, values]
          | cons r2 rs2 =>
              have hnext := ih (by simpa using hfuel) h1.next h2.next
              rw [if_neg h2.avail_cons, h1.getChar, ok_bind]
              dsimp only
              rw [h2.getChar, ok_bind]
              dsimp only
              rw [hnext]
              simp only [values, map_cons, order_cons_cons, pure, Except.pure]
              split_ifs <;> rfl

end Loops

/-- What an ASCII string can tell of a sequence: its characters up to the first
that is not ASCII, and that there is one. -/
def asciiView : List Nat → List Nat
  | [] => []
  | x :: xs => if x < 0x80 then x :: asciiView xs else [0x80]

section View

variable {pattern xs : List Nat}

theorem order_asciiView (hpattern : ∀ c ∈ pattern, c < 0x80) :
    order (asciiView xs) pattern = order xs pattern := by
  induction pattern generalizing xs with
  | nil =>
      cases xs with
      | nil => rfl
      | cons x xs =>
          rw [asciiView]
          split <;> simp
  | cons c pattern ih =>
      have hc := hpattern c mem_cons_self
      cases xs with
      | nil => rfl
      | cons x xs =>
          rw [asciiView]
          split
          · rw [order_cons_cons, order_cons_cons,
              ih fun c' hc' => hpattern c' (mem_cons_of_mem c hc')]
          · next hx =>
              rw [order_cons_cons, order_cons_cons, if_neg (by omega), if_pos (by omega),
                if_neg (by omega), if_pos (by omega)]

theorem prefix_asciiView (hpattern : ∀ c ∈ pattern, c < 0x80) :
    pattern <+: asciiView xs ↔ pattern <+: xs := by
  induction pattern generalizing xs with
  | nil => simp
  | cons c pattern ih =>
      have hc := hpattern c mem_cons_self
      cases xs with
      | nil => rfl
      | cons x xs =>
          rw [asciiView]
          split
          · rw [cons_prefix_cons, cons_prefix_cons,
              ih fun c' hc' => hpattern c' (mem_cons_of_mem c hc')]
          · next hx =>
              rw [cons_prefix_cons, cons_prefix_cons]
              constructor <;> · rintro ⟨rfl, -⟩; omega

theorem asciiView_take (n : Nat) : asciiView (xs.take n) = (asciiView xs).take n := by
  induction xs generalizing n with
  | nil => simp [asciiView]
  | cons x xs ih =>
      cases n with
      | zero => rfl
      | succ n =>
          rw [take_succ_cons, asciiView, asciiView]
          split <;> simp [ih]

end View

section Readings

variable {c : Char} {xs ys : List Char}

theorem values_readings (e : Encoding) (c : Char) :
    values (readings e c) = (if e = .utf8 then cutBase c.toNat else none).elim [c.toNat]
      fun base => [base + c.toNat / 64, 0x80 + c.toNat % 64] := by
  unfold readings
  split <;> next h => rw [h]; rfl

/-- A misread character, with the bound from which its first value counts. -/
theorem values_cut {c : Char} {base : Nat} (h : cutBase c.toNat = some base) :
    values (readings .utf8 c) = [base + c.toNat / 64, 0x80 + c.toNat % 64] := by
  rw [values_readings, if_pos rfl, h]
  rfl

theorem values_uncut {e : Encoding} {c : Char} (h : e = .utf8 → cutBase c.toNat = none) :
    values (readings e c) = [c.toNat] := by
  rw [values_readings]
  split
  · next he => rw [h he]; rfl
  · rfl

theorem cutBase_some {c base : Nat} (h : cutBase c = some base) :
    base = 0x800 ∧ 0x800 ≤ c ∧ c < 0x1000 ∨ base = 0x10000 ∧ 0x10000 ≤ c ∧ c < 0x40000 := by
  unfold cutBase at h
  split_ifs at h <;> simp_all

theorem cutBase_none {c : Nat} (h : cutBase c = none) :
    ¬ (0x800 ≤ c ∧ c < 0x1000) ∧ ¬ (0x10000 ≤ c ∧ c < 0x40000) := by
  unfold cutBase at h
  split_ifs at h
  exact ⟨‹_›, ‹_›⟩

theorem cutBase_ne {c base : Nat} (h : cutBase c ≠ some base) :
    ¬ (base = 0x800 ∧ 0x800 ≤ c ∧ c < 0x1000) ∧
      ¬ (base = 0x10000 ∧ 0x10000 ≤ c ∧ c < 0x40000) := by
  unfold cutBase at h
  split_ifs at h <;> simp_all <;> omega

theorem values_readAll_cons (e : Encoding) (c : Char) (text : List Char) :
    values (readAll e (c :: text)) = values (readings e c) ++ values (readAll e text) := by
  rw [readAll_cons, values, map_append]
  rfl

theorem values_utf16 {e : Encoding} (he : e ≠ .utf8) (text : List Char) :
    values (readAll e text) = codePoints text := by
  induction text with
  | nil => rfl
  | cons c text ih =>
      rw [values_readAll_cons, ih, values_uncut fun h => absurd h he]
      rfl

/-- An ASCII string cannot tell the values from the code points. -/
theorem asciiView_values (e : Encoding) (text : List Char) :
    asciiView (values (readAll e text)) = asciiView (codePoints text) := by
  induction text with
  | nil => rfl
  | cons c text ih =>
      rw [values_readAll_cons, codePoints, map_cons]
      by_cases h : e = .utf8 → cutBase c.toNat = none
      · rw [values_uncut h, singleton_append, asciiView, asciiView, ih]
        rfl
      · obtain ⟨rfl, hcut⟩ := Classical.not_imp.1 h
        obtain ⟨base, hbase⟩ := Option.ne_none_iff_exists'.1 hcut
        have hrange := cutBase_some hbase
        rw [values_cut hbase, cons_append, asciiView, asciiView, if_neg (by omega),
          if_neg (by omega)]

theorem values_ne_nil (e : Encoding) (c : Char) : values (readings e c) ≠ [] := by
  unfold readings
  split <;> simp [values]

theorem order_nil_left {ys : List Nat} (h : ys ≠ []) : order [] ys = -1 := by
  cases ys with
  | nil => exact absurd rfl h
  | cons y ys => exact order_nil_cons y ys

theorem order_nil_values (e : Encoding) (c : Char) (text : List Char) :
    order [] (values (readAll e (c :: text))) = -1 := by
  apply order_nil_left
  rw [values_readAll_cons]
  simp [values_ne_nil]

/-- No common beginning of two texts goes on in both with characters that are
misread from the same bound. -/
def Apart (xs ys : List Char) : Prop :=
  ∀ common c d xs' ys', xs = common ++ c :: xs' → ys = common ++ d :: ys' →
    cutBase c.toNat ≠ none → cutBase c.toNat ≠ cutBase d.toNat

/-- Two texts whose comparison in these encodings no misread character can mislead. -/
def Comparable (e1 e2 : Encoding) (xs ys : List Char) : Prop :=
  (e1 = .utf8 ↔ e2 = .utf8) ∨ Apart xs ys

section Comparable

variable {e1 e2 : Encoding} {c d : Char} {xs ys : List Char}

theorem Comparable.symm (h : Comparable e1 e2 xs ys) : Comparable e2 e1 ys xs := by
  refine h.imp Iff.symm fun hapart => ?_
  intro common d c ys' xs' hys hxs hd heq
  exact hapart common c d xs' ys' hxs hys (heq ▸ hd) heq.symm

theorem Comparable.tail (h : Comparable e1 e2 (c :: xs) (c :: ys)) : Comparable e1 e2 xs ys := by
  refine h.imp_right fun hapart => ?_
  intro common d d' xs' ys' hxs hys
  exact hapart (c :: common) d d' xs' ys' (by rw [hxs]; rfl) (by rw [hys]; rfl)

/-- The readers' map of a character in UTF-8 is monotone: where two characters
have the same first value, their second values tell. A character that is misread
and one that is not do not come from the same bound. -/
theorem order_values_lt (h : Comparable e1 e2 (c :: xs) (d :: ys)) (hlt : c.toNat < d.toNat)
    (xs' ys' : List Nat) :
    order (values (readings e1 c) ++ xs') (values (readings e2 d) ++ ys') = -1 := by
  have hhead := h.imp_right fun hapart => hapart [] c d xs ys rfl rfl
  by_cases hc : e1 = .utf8 → cutBase c.toNat = none
  · rw [values_uncut hc, singleton_append]
    by_cases hd : e2 = .utf8 → cutBase d.toNat = none
    · rw [values_uncut hd, singleton_append, order_cons_cons, if_pos hlt]
    · obtain ⟨rfl, hcut⟩ := Classical.not_imp.1 hd
      obtain ⟨base, hbase⟩ := Option.ne_none_iff_exists'.1 hcut
      have hrange := cutBase_some hbase
      have hout : cutBase c.toNat ≠ some base := by
        intro hsame
        obtain heq | happart := hhead
        · exact absurd ((hc (heq.2 rfl)).symm.trans hsame) (by simp)
        · exact happart (by simp [hsame]) (hsame.trans hbase.symm)
      have hout := cutBase_ne hout
      rw [values_cut hbase, cons_append, order_cons_cons, if_pos (by omega)]
  · obtain ⟨rfl, hcut⟩ := Classical.not_imp.1 hc
    obtain ⟨base, hbase⟩ := Option.ne_none_iff_exists'.1 hcut
    have hrange := cutBase_some hbase
    rw [values_cut hbase, cons_append]
    by_cases hd : e2 = .utf8 → cutBase d.toNat = none
    · have hout : cutBase d.toNat ≠ some base := by
        intro hsame
        obtain heq | happart := hhead
        · exact absurd ((hd (heq.1 rfl)).symm.trans hsame) (by simp)
        · exact happart hcut (hbase.trans hsame.symm)
      have hout := cutBase_ne hout
      rw [values_uncut hd, cons_append, singleton_append, order_cons_cons,
        if_pos (by omega)]
    · obtain ⟨rfl, hcut'⟩ := Classical.not_imp.1 hd
      obtain ⟨base', hbase'⟩ := Option.ne_none_iff_exists'.1 hcut'
      have hrange' := cutBase_some hbase'
      rw [values_cut hbase']
      simp only [cons_append, nil_append, order_cons_cons]
      by_cases hfirst : base + c.toNat / 64 < base' + d.toNat / 64
      · rw [if_pos hfirst]
      · rw [if_neg hfirst, if_neg (by omega), if_pos (by omega)]

theorem order_values_same (h : Comparable e1 e2 (c :: xs) (c :: ys)) :
    values (readings e1 c) = values (readings e2 c) := by
  obtain heq | hapart := h
  · rw [values_readings, values_readings]
    simp only [heq]
  · have hnone : cutBase c.toNat = none := by
      by_contra hsome
      exact hapart [] c c xs ys rfl rfl hsome rfl
    rw [values_uncut fun _ => hnone, values_uncut fun _ => hnone]

theorem order_values (h : Comparable e1 e2 xs ys) :
    order (values (readAll e1 xs)) (values (readAll e2 ys)) =
      order (codePoints xs) (codePoints ys) := by
  induction xs generalizing ys with
  | nil =>
      cases ys with
      | nil => rfl
      | cons d ys => exact (order_nil_values e2 d ys).trans (order_nil_cons _ _).symm
  | cons c xs ih =>
      cases ys with
      | nil =>
          rw [order_swap, order_swap (codePoints [])]
          exact congrArg Neg.neg ((order_nil_values e1 c xs).trans (order_nil_cons _ _).symm)
      | cons d ys =>
          rw [values_readAll_cons, values_readAll_cons]
          simp only [codePoints, map_cons, order_cons_cons] at ih ⊢
          rcases Nat.lt_trichotomy c.toNat d.toNat with hlt | heq | hlt
          · rw [if_pos hlt, order_values_lt h hlt]
          · have hcd : c = d := Char.toNat_inj.1 heq
            subst hcd
            rw [order_values_same h, order_append, ih h.tail, if_neg (Nat.lt_irrefl _),
              if_neg (Nat.lt_irrefl _)]
          · rw [if_neg (Nat.lt_asymm hlt), if_pos hlt, order_swap, order_values_lt h.symm hlt]
            rfl

end Comparable

theorem length_le_values (e : Encoding) (text : List Char) :
    text.length ≤ (values (readAll e text)).length := by
  induction text with
  | nil => exact Nat.zero_le _
  | cons c text ih =>
      have hpos := length_pos_iff.2 (values_ne_nil e c)
      rw [values_readAll_cons, length_append, length_cons]
      omega

/-- A text that is read as its code points has no misread character. -/
theorem uncut_of_values {text : List Char} (h : values (readAll .utf8 text) = codePoints text) :
    ∀ c ∈ text, cutBase c.toNat = none := by
  induction text with
  | nil => simp
  | cons c text ih =>
      rw [values_readAll_cons] at h
      have hc : cutBase c.toNat = none := by
        by_contra hsome
        obtain ⟨base, hbase⟩ := Option.ne_none_iff_exists'.1 hsome
        have hlength := congrArg length h
        have hle := length_le_values .utf8 text
        rw [values_cut hbase] at hlength
        simp only [codePoints, length_append, length_map, length_cons,
          length_nil] at hlength
        omega
      rw [values_uncut fun _ => hc] at h
      exact forall_mem_cons.2 ⟨hc, ih (cons.inj h).2⟩

/-- A text compared with itself. -/
theorem comparable_of_order {e1 e2 : Encoding} {text : List Char}
    (h : order (values (readAll e1 text)) (values (readAll e2 text)) =
      order (codePoints text) (codePoints text)) : Comparable e1 e2 text text := by
  have heq : values (readAll e1 text) = values (readAll e2 text) := by
    rw [order_eq_zero.2 rfl] at h
    exact order_eq_zero.1 h
  by_cases hsame : e1 = .utf8 ↔ e2 = .utf8
  · exact .inl hsame
  · have huncut : ∀ c ∈ text, cutBase c.toNat = none := by
      apply uncut_of_values
      by_cases h1 : e1 = .utf8
      · have h2 : e2 ≠ .utf8 := by simpa [h1] using hsame
        rw [h1, values_utf16 h2] at heq
        exact heq
      · have h2 : e2 = .utf8 := by simpa [h1] using hsame
        rw [h2, values_utf16 h1] at heq
        exact heq.symm
    apply Or.inr
    intro common c d xs ys hxs _ hcut
    exact absurd (huncut c (by rw [hxs]; simp)) hcut

end Readings

end Unicode
