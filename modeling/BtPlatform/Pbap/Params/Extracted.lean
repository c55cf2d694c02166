import BtPlatform.Pbap.Params.Exact

/-!
# Application parameters: both readers and the builder

What `ExtractAppParams` takes from a response, and with it what holds of the three functions
together.
-/

namespace Pbap

open Format Support PbapServer List

namespace Cli

/-- What a triple of a response means for the phonebook size and the new missed calls. -/
def take (results : UInt16 × UInt8) (f : Field) : UInt16 × UInt8 :=
  if f.tag = 0x09 then (results.1, byteOf f.value)
  else if f.tag = 0x08 then (wordOf f.value, results.2)
  else results

/-- Wherever a triple begins, new missed calls and a phonebook size have their own length. -/
def ClearResults (data : List UInt8) : Prop :=
  ∀ front tag len tail, data = encodeFields front ++ tag :: len :: tail →
    (tag = 0x09 → len = 1) ∧ (tag = 0x08 → len = 2)

/-- `ExtractAppParams` takes its results from the complete triples at the front, and from
nothing else. -/
def ExtractsExactly (data : List UInt8) (results : UInt16 × UInt8) : Prop :=
  ∃ fields bad, data = encodeFields fields ++ bad ∧ Field.decode bad = none ∧
    extractLoop (data.length + 1) data.length data results = .ok (fields.foldl take results)

theorem ClearResults.rest {f : Field} {rest : List UInt8} (h : ClearResults (f.encode ++ rest)) :
    ClearResults rest := by
  intro front tag len tail hrest
  refine h (f :: front) tag len tail ?_
  rw [hrest, encodeFields_cons, append_assoc]

theorem clearResults_encodeFields {fields : List Field}
    (h : ∀ f ∈ fields, (f.tag = 0x09 → f.len = 1) ∧ (f.tag = 0x08 → f.len = 2)) :
    ClearResults (encodeFields fields) := by
  intro front tag len tail hdata
  obtain ⟨f, rest, rfl, rfl, rfl, -⟩ := encodeFields_split hdata
  exact h f (mem_append_right front mem_cons_self)

/-- A round in front of a complete triple takes it. -/
theorem extractLoop_cons {fuel : Nat} {f : Field} {rest : List UInt8} {results : UInt16 × UInt8}
    (hlength : (f.encode ++ rest).length < 65536)
    (hclear : (f.tag = 0x09 → f.len = 1) ∧ (f.tag = 0x08 → f.len = 2)) :
    extractLoop (fuel + 1) (f.encode ++ rest).length (f.encode ++ rest) results =
      extractLoop fuel rest.length rest (take results f) := by
  have hlen := f.len_toNat
  change (f.tag :: f.len :: (f.value ++ rest)).length < 65536 at hlength
  have hleft : ((f.tag :: f.len :: (f.value ++ rest)).length + 65536 - 2 + 65536 - f.len.toNat) %
      65536 = rest.length := by
    simp only [length_cons, length_append] at hlength ⊢
    omega
  change extractLoop (fuel + 1) (f.tag :: f.len :: (f.value ++ rest)).length
    (f.tag :: f.len :: (f.value ++ rest)) results = _
  unfold take
  rw [extractLoop, if_neg nofun]
  dsimp only
  rw [hleft]
  by_cases hmissed : f.tag = 0x09
  · have hone : f.value.length = 1 := by
      rw [← hlen, hclear.1 hmissed]
      rfl
    obtain ⟨v, hvalue⟩ := length_eq_one_iff.1 hone
    rw [if_pos hmissed, if_pos hmissed, hvalue]
    rfl
  · rw [if_neg hmissed, if_neg hmissed]
    by_cases hsize : f.tag = 0x08
    · have htwo : f.value.length = 2 := by
        rw [← hlen, hclear.2 hsize]
        rfl
      obtain ⟨hi, lo, hvalue⟩ := length_eq_two.1 htwo
      rw [if_pos hsize, if_pos hsize, hvalue]
      rfl
    · have hfits : f.len.toNat ≤ (f.value ++ rest).length := by
        rw [hlen, length_append]
        exact Nat.le_add_right _ _
      rw [if_neg hsize, if_neg hsize, if_pos hfits, hlen, drop_left]

/-- A round in front of anything else takes nothing. -/
theorem extractLoop_bad {fuel : Nat} {data : List UInt8} {results : UInt16 × UInt8}
    (hbad : Field.decode data = none) (hclear : ClearResults data) :
    extractLoop (fuel + 1) data.length data results = .ok results := by
  match data with
  | [] => rfl
  | [_] => rfl
  | tag :: len :: tail =>
      have hshort : tail.length < len.toNat := by
        by_contra hroom
        obtain ⟨f, hf, -⟩ := @Field.decode_cons tag len tail (Nat.not_lt.1 hroom)
        cases hf.symm.trans hbad
      obtain ⟨hmissed, hsize⟩ := hclear [] tag len tail rfl
      rw [extractLoop, if_neg nofun]
      dsimp only
      split
      · next htag =>
          rw [hmissed htag] at hshort
          rw [length_eq_zero_iff.1 (Nat.lt_one_iff.1 hshort)]
      · split
        · next htag =>
            rw [hsize htag] at hshort
            match tail with
            | [] => rfl
            | [_] => rfl
            | _ :: _ :: _ => exact absurd hshort (by simp)
        · rw [if_neg (Nat.not_le.2 hshort)]

theorem extractLoop_exact {fuel : Nat} {data : List UInt8} {results : UInt16 × UInt8}
    (hlength : data.length < 65536) (hfuel : data.length < fuel) (hclear : ClearResults data) :
    ∃ fields bad, data = encodeFields fields ++ bad ∧ Field.decode bad = none ∧
      extractLoop fuel data.length data results = .ok (fields.foldl take results) := by
  induction fuel generalizing data results with
  | zero => exact absurd hfuel (Nat.not_lt_zero _)
  | succ fuel ih =>
      cases hdecode : Field.decode data with
      | none => exact ⟨[], data, rfl, hdecode, extractLoop_bad hdecode hclear⟩
      | some result =>
          obtain ⟨f, rest⟩ := result
          have hdata : data = f.encode ++ rest := fieldCodec.eq_append_of_decode hdecode
          subst hdata
          have hround := @extractLoop_cons fuel f rest results hlength (hclear [] _ _ _ rfl)
          rw [length_append, Field.encode_length] at hlength hfuel
          obtain ⟨fields, bad, rfl, hbad, hrest⟩ :=
            @ih rest (take results f) (by omega) (by omega) hclear.rest
          refine ⟨f :: fields, bad, ?_, hbad, hround.trans hrest⟩
          rw [encodeFields_cons, append_assoc]

end Cli

/-- A listing with an order, a search value and its attribute. -/
def listingArgs : BuildArgs where
  params := ⟨some orderPhonetic, some 1, some [0x42, 0x6F, 0x62], none, some 20, none, none⟩
  supportedFeatures := none
  order_mem := by
    rintro _ ⟨⟩
    decide
  format_mem := nofun
  searchValue_lt := by
    rintro _ ⟨⟩
    decide

end Pbap
