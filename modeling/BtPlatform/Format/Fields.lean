import BtPlatform.Format.Codec
import Mathlib.Tactic.Common

/-!
# Fields of tag, length and value

A field is written as a tag byte, a byte with the length of its value, and the
value. A reader walks over the bytes at running indices, hands the tag, the
length and the index of the value to a step function, and trusts the length to
find the next field. On a sequence of fields that was written so, and whatever
follows it, the walk is the fold of the fields.
-/

namespace Format

open List

variable {ε σ : Type*}

/-- A tag and a value whose length fits its length byte. -/
structure Field where
  tag : UInt8
  value : List UInt8
  length_lt : value.length < 256

namespace Field

/-- The length byte. -/
def len (f : Field) : UInt8 := UInt8.ofNat f.value.length

def encode (f : Field) : List UInt8 := f.tag :: f.len :: f.value

@[simp] theorem len_toNat (f : Field) : f.len.toNat = f.value.length := by
  rw [len, UInt8.toNat_ofNat']
  exact Nat.mod_eq_of_lt f.length_lt

@[simp] theorem encode_length (f : Field) : f.encode.length = f.value.length + 2 := rfl

theorem length_byte_lt (b : UInt8) : [b].length < 256 := by simp

end Field

/-- Fields written one after the other. -/
def encodeFields (fields : List Field) : List UInt8 := fields.flatMap Field.encode

@[simp] theorem encodeFields_nil : encodeFields [] = [] := rfl

@[simp] theorem encodeFields_cons (f : Field) (fields : List Field) :
    encodeFields (f :: fields) = f.encode ++ encodeFields fields := rfl

@[simp] theorem encodeFields_append (fields fields' : List Field) :
    encodeFields (fields ++ fields') = encodeFields fields ++ encodeFields fields' :=
  flatMap_append

theorem length_le_encodeFields_length (fields : List Field) :
    fields.length ≤ (encodeFields fields).length := by
  induction fields with
  | nil => exact Nat.le_refl 0
  | cons f fields ih =>
      simp only [encodeFields_cons, length_append, length_cons, Field.encode_length]
      omega

/-- Read a field from the front: nothing where the value is not complete. -/
def Field.decode : List UInt8 → Option (Field × List UInt8)
  | tag :: len :: rest =>
      if h : len.toNat ≤ rest.length then
        some (⟨tag, rest.take len.toNat, by
          rw [length_take_of_le h]
          exact len.toNat_lt⟩, rest.drop len.toNat)
      else none
  | _ => none

theorem Field.decode_cons {tag len : UInt8} {rest : List UInt8} (h : len.toNat ≤ rest.length) :
    ∃ f : Field, Field.decode (tag :: len :: rest) = some (f, rest.drop len.toNat) ∧
      f.tag = tag ∧ f.len = len ∧ f.value = rest.take len.toNat := by
  refine ⟨_, dif_pos h, rfl, ?_, rfl⟩
  unfold Field.len
  rw [length_take_of_le h, UInt8.ofNat_toNat]

theorem Field.decode_short {tag len : UInt8} {rest : List UInt8} (h : rest.length < len.toNat) :
    Field.decode (tag :: len :: rest) = none := dif_neg (Nat.not_le.2 h)

/-- Fields as a prefix codec. -/
def fieldCodec : Codec UInt8 Field where
  encode := Field.encode
  decode := Field.decode
  encode_ne_nil f := cons_ne_nil _ _
  decode_encode_append f rest := by
    have hlen := f.len_toNat
    obtain ⟨g, hg, htag, -, hvalue⟩ := @Field.decode_cons f.tag f.len (f.value ++ rest) (by
      rw [hlen, length_append]
      exact Nat.le_add_right _ _)
    rw [hlen, take_left] at hvalue
    rw [hlen, drop_left] at hg
    obtain ⟨tag, value, hlt⟩ := f
    obtain ⟨tag', value', hlt'⟩ := g
    cases htag
    cases hvalue
    exact hg
  eq_append_of_decode {bs f rest} h := by
    match bs, h with
    | tag :: len :: tail, h =>
        by_cases hroom : len.toNat ≤ tail.length
        · obtain ⟨g, hg, htag, hlen, hvalue⟩ := @Field.decode_cons tag len tail hroom
          cases hg.symm.trans h
          rw [Field.encode, htag, hlen, hvalue]
          exact congrArg (tag :: len :: ·) (take_append_drop _ _).symm
        · rw [Field.decode_short (Nat.not_le.1 hroom)] at h
          cases h

/-- Behind some of the fields the next one begins. -/
theorem encodeFields_split {fields front : List Field} {tag len : UInt8} {tail : List UInt8}
    (h : encodeFields fields = encodeFields front ++ tag :: len :: tail) :
    ∃ f rest, fields = front ++ f :: rest ∧ f.tag = tag ∧ f.len = len ∧
      f.value ++ encodeFields rest = tail := by
  induction front generalizing fields with
  | nil =>
      cases fields with
      | nil => cases h
      | cons f fields =>
          injection h with htag h
          injection h with hlen h
          exact ⟨f, fields, rfl, htag, hlen, h⟩
  | cons g front ih =>
      rw [encodeFields_cons, append_assoc] at h
      obtain ⟨fields', rfl, hrest⟩ :=
        (fieldCodec.eq_encodeAll_iff_of_decode
          (fieldCodec.decode_encode_append g _) fields).1 h.symm
      obtain ⟨f, rest, rfl, hfield⟩ := ih hrest.symm
      exact ⟨f, rest, rfl, hfield⟩

/-- The bytes hold `value` at index `i`. -/
def HoldsAt (bytes : List UInt8) (i : Nat) (value : List UInt8) : Prop :=
  ∃ before after, bytes = before ++ (value ++ after) ∧ before.length = i

section Walk

/-- The reader: `short` where a tag or a length byte is missing, `overrun` where
the fuel is used up. -/
def walk (short overrun : ε) (step : UInt8 → UInt8 → Nat → σ → Except ε σ) (bytes : List UInt8)
    (stop : Nat) : Nat → Nat → σ → Except ε σ
  | 0, _, _ => .error overrun
  | fuel + 1, i, s =>
      if i < stop then
        match bytes[i]?, bytes[i + 1]? with
        | some tag, some len =>
            match step tag len (i + 2) s with
            | .ok s => walk short overrun step bytes stop fuel (i + 2 + len.toNat) s
            | .error e => .error e
        | _, _ => .error short
      else .ok s

variable {short overrun : ε} {step : UInt8 → UInt8 → Nat → σ → Except ε σ} {apply : σ → Field → σ}

/-- A walk over written fields is their fold, when each step is right about a
field it is shown. -/
theorem walk_encodeFields {fields : List Field} {bytes before rest : List UInt8} {stop fuel : Nat}
    (hstep : ∀ f ∈ fields, ∀ i s, HoldsAt bytes i f.value →
      step f.tag f.len i s = .ok (apply s f))
    (hbytes : bytes = before ++ (encodeFields fields ++ rest))
    (hstop : stop = before.length + (encodeFields fields).length) (hfuel : fields.length < fuel)
    (s : σ) :
    walk short overrun step bytes stop fuel before.length s = .ok (fields.foldl apply s) := by
  induction fields generalizing before fuel s with
  | nil =>
      obtain ⟨fuel, rfl⟩ : ∃ n, fuel = n + 1 := Nat.exists_eq_add_one.mpr hfuel
      have hend : ¬ before.length < stop := by
        rw [hstop, encodeFields_nil, length_nil]
        exact Nat.lt_irrefl _
      rw [walk, if_neg hend]
      rfl
  | cons f fields ih =>
      obtain ⟨fuel, rfl⟩ : ∃ n, fuel = n + 1 :=
        Nat.exists_eq_add_one.mpr (Nat.lt_of_le_of_lt (Nat.zero_le _) hfuel)
      have hmore : before.length < stop := by
        rw [hstop, encodeFields_cons, length_append, Field.encode_length]
        omega
      have htag : bytes[before.length]? = some f.tag := by
        rw [hbytes, getElem?_append_right (Nat.le_refl _), Nat.sub_self]
        rfl
      have hlen : bytes[before.length + 1]? = some f.len := by
        rw [hbytes, getElem?_append_right (Nat.le_add_right _ _), Nat.add_sub_cancel_left]
        rfl
      -- the value of the first field, and the bytes in front of the second one
      have hsplit : bytes = (before ++ [f.tag, f.len]) ++
          (f.value ++ (encodeFields fields ++ rest)) := by
        rw [hbytes, encodeFields_cons, Field.encode]
        simp
      have hvalue : step f.tag f.len (before.length + 2) s = .ok (apply s f) :=
        hstep f mem_cons_self _ s ⟨_, _, hsplit, by simp⟩
      have hlength : (before ++ f.encode).length = before.length + 2 + f.len.toNat := by
        rw [length_append, Field.encode_length, Field.len_toNat]
        omega
      have htail : walk short overrun step bytes stop fuel (before ++ f.encode).length (apply s f) =
          .ok (fields.foldl apply (apply s f)) := ih
        (fun g hg => hstep g (mem_cons_of_mem f hg))
        (by rw [hbytes, encodeFields_cons]; simp)
        (by rw [hstop, encodeFields_cons, length_append, length_append]; omega)
        (Nat.lt_of_succ_lt_succ hfuel) (apply s f)
      rw [walk, if_pos hmore, htag, hlen]
      simp only [hvalue]
      rw [← hlength, htail]
      rfl

/-- The walk from the first byte on, with a unit of fuel for each byte. -/
theorem walk_encodeFields_start (fields : List Field) (rest : List UInt8)
    (hstep : ∀ f ∈ fields, ∀ i s, HoldsAt (encodeFields fields ++ rest) i f.value →
      step f.tag f.len i s = .ok (apply s f))
    (s : σ) :
    walk short overrun step (encodeFields fields ++ rest) (encodeFields fields).length
      ((encodeFields fields).length + 1) 0 s = .ok (fields.foldl apply s) := by
  have hfuel : fields.length < (encodeFields fields).length + 1 :=
    Nat.lt_succ_of_le (length_le_encodeFields_length fields)
  exact walk_encodeFields hstep (nil_append _).symm (Nat.zero_add _).symm hfuel s

/-- To the end of the bytes every tag has a length byte behind it, and `fits` of the bytes behind
that. The last value may be cut off. -/
inductive Walkable (fits : UInt8 → UInt8 → Nat → Prop) : List UInt8 → Prop
  | nil : Walkable fits []
  | field {tag len : UInt8} {rest : List UInt8} : fits tag len rest.length →
      Walkable fits (rest.drop len.toNat) → Walkable fits (tag :: len :: rest)

/-- A walk over all bytes succeeds exactly on walkable ones, when each step succeeds exactly if
its value fits. -/
theorem walk_ok_iff {fits : UInt8 → UInt8 → Nat → Prop} {bytes : List UInt8}
    (hstep : ∀ tag len i s, i ≤ bytes.length →
      ((∃ s', step tag len i s = .ok s') ↔ fits tag len (bytes.length - i)))
    {fuel i : Nat} (hfuel : bytes.length - i < fuel) (s : σ) :
    (∃ s', walk short overrun step bytes bytes.length fuel i s = .ok s') ↔
      Walkable fits (bytes.drop i) := by
  induction fuel generalizing i s with
  | zero => cases hfuel
  | succ fuel ih =>
      rw [walk]
      by_cases hmore : i < bytes.length
      · rw [if_pos hmore, drop_eq_getElem_cons hmore, getElem?_eq_getElem hmore]
        by_cases hnext : i + 1 < bytes.length
        · rw [drop_eq_getElem_cons hnext, getElem?_eq_getElem hnext]
          generalize bytes[i] = tag
          generalize bytes[i + 1] = len
          dsimp only
          have hfits := hstep tag len (i + 2) s hnext
          have hlength : (bytes.drop (i + 1 + 1)).length = bytes.length - (i + 2) :=
            length_drop
          constructor
          · rintro ⟨s', hwalk⟩
            cases hfield : step tag len (i + 2) s with
            | error e =>
                rw [hfield] at hwalk
                cases hwalk
            | ok s₁ =>
                rw [hfield] at hwalk
                have hrest := (ih (by omega) s₁).1 ⟨s', hwalk⟩
                refine .field ?_ ?_
                · rw [hlength]
                  exact hfits.1 ⟨s₁, hfield⟩
                · rw [drop_drop]
                  exact hrest
          · intro hwalkable
            cases hwalkable with
            | field hroom hrest =>
                rw [hlength] at hroom
                obtain ⟨s₁, hfield⟩ := hfits.2 hroom
                rw [hfield]
                rw [drop_drop] at hrest
                exact (ih (by omega) s₁).2 hrest
        · rw [drop_eq_nil_of_le (Nat.not_lt.1 hnext),
            getElem?_eq_none (Nat.not_lt.1 hnext)]
          refine iff_of_false ?_ ?_
          · rintro ⟨s', ⟨⟩⟩
          · rintro ⟨⟩
      · rw [if_neg hmore, drop_eq_nil_of_le (Nat.not_lt.1 hmore)]
        exact iff_of_true ⟨s, rfl⟩ .nil

/-- Each field is at least two bytes, so the fuel does not run out. -/
theorem walk_ne_overrun {bytes : List UInt8} {stop : Nat} (hshort : short ≠ overrun)
    (hstep : ∀ tag len i s, step tag len i s ≠ .error overrun) {fuel i : Nat}
    (hfuel : stop - i < fuel) (s : σ) :
    walk short overrun step bytes stop fuel i s ≠ .error overrun := by
  induction fuel generalizing i s with
  | zero => cases hfuel
  | succ fuel ih =>
      rw [walk]
      split
      · next hmore =>
          split
          · next tag len _ _ =>
              split
              · exact ih (by omega) _
              · next e hfield =>
                  intro heq
                  exact hstep tag len (i + 2) s (hfield.trans heq)
          · exact fun heq => hshort (Except.error.inj heq)
      · rintro ⟨⟩

end Walk

end Format
