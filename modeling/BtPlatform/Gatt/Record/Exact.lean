import BtPlatform.Gatt.Record.Structures

/-!
# Records that are read exactly

The parser recognises the values of the complete structures if and only if it can read every
structure as it is, or gives up a record in which no structure has a value.
-/

namespace Gatt.ScanRecord

open Support Format List

/-- The complete structures of some bytes and their remainder. -/
inductive Splits : Nat → List UInt8 → List Structure → List UInt8 → Prop
  | none (fuel) : Splits (fuel + 1) [] [] []
  | zero (fuel rest) : Splits (fuel + 1) (0 :: rest) [] (0 :: rest)
  | lone (fuel length) (hlength : length ≠ 0) : Splits (fuel + 1) [length] [] [length]
  | truncated (fuel length type rest) (hlength : length ≠ 0)
      (hrest : rest.length < length.toNat - 1) :
      Splits (fuel + 2) (length :: type :: rest) [] (length :: type :: rest)
  | complete (fuel length type data after ps rest) (hlength : length ≠ 0)
      (hdata : data.length = length.toNat - 1) (hafter : Splits fuel after ps rest) :
      Splits (fuel + 1) (length :: type :: (data ++ after)) (⟨type, data, after⟩ :: ps) rest

theorem split_splits {fuel : Nat} {bytes : List UInt8} (hfuel : bytes.length < fuel) :
    Splits fuel bytes (split fuel bytes).1 (split fuel bytes).2 := by
  induction fuel generalizing bytes with
  | zero => exact absurd hfuel (Nat.not_lt_zero _)
  | succ fuel ih =>
      match bytes with
      | [] => exact .none fuel
      | [length] =>
          by_cases hzero : length = 0
          · subst hzero
            exact .zero fuel []
          · exact .lone fuel length hzero
      | length :: type :: rest =>
          simp only [length_cons] at hfuel
          rw [split]
          by_cases hzero : length = 0
          · subst hzero
            rw [if_pos (.inl rfl)]
            exact .zero fuel _
          · by_cases hrest : rest.length < length.toNat - 1
            · rw [if_pos (.inr hrest)]
              obtain ⟨fuel, rfl⟩ : ∃ n, fuel = n + 1 := Nat.exists_eq_add_one.2 (by omega)
              exact .truncated fuel length type rest hzero hrest
            · rw [if_neg (not_or.2 ⟨hzero, hrest⟩)]
              have hafter := @ih (rest.drop (length.toNat - 1))
                (by rw [length_drop]; omega)
              have hdata : (rest.take (length.toNat - 1)).length = length.toNat - 1 :=
                length_take_of_le (Nat.le_of_not_lt hrest)
              have h := Splits.complete fuel length type _ _ _ _ hzero hdata hafter
              rwa [take_append_drop] at h

namespace Splits

variable {fuel : Nat} {bytes r : List UInt8} {ps : List Structure} {vs : List Value}

/-- The values of complete structures. -/
def valuesOf (ps : List Structure) : List Value := ps.flatMap fun p => values p.kind p.data

theorem readStructures_complete {length type : UInt8} {data after : List UInt8}
    (hlength : length ≠ 0) (hdata : data.length = length.toNat - 1) :
    readStructures (fuel + 1) (length :: type :: (data ++ after)) = (do
      let values ← readStructure (kindOf type) (data ++ after) data.length
      let others ← readStructures fuel after
      return values ++ others) := by
  rw [readStructures_cons hlength, ← hdata, drop_left]

theorem readStructures_truncated {length type : UInt8} {rest : List UInt8}
    (hlength : length ≠ 0) (hrest : rest.length < length.toNat - 1) :
    readStructures (fuel + 2) (length :: type :: rest) =
      readStructure (kindOf type) rest (length.toNat - 1) := by
  rw [readStructures_cons hlength, drop_of_length_le (Nat.le_of_lt hrest)]
  cases readStructure (kindOf type) rest (length.toNat - 1) with
  | error e => rfl
  | ok vs => exact congrArg Except.ok (append_nil vs)

/-- Legible structures are read as they are. -/
theorem readStructures_of_legible (h : Splits fuel bytes ps r) (hps : ∀ p ∈ ps, p.Legible)
    (hr : Silent r) : readStructures fuel bytes = .ok (valuesOf ps) := by
  induction h with
  | none fuel => rfl
  | zero fuel rest => exact readStructures_zero
  | lone fuel length hlength =>
      obtain hzero | ⟨type, tail, hnil, -⟩ := hr
      · exact absurd hzero hlength
      · cases hnil
  | truncated fuel length type rest hlength hrest =>
      rw [readStructures_truncated hlength hrest]
      obtain hzero | ⟨type', tail, heq, hkind⟩ := hr
      · exact absurd hzero hlength
      · cases heq
        exact (readStructure_truncated_iff hrest).2 hkind
  | complete fuel length type data after ps rest hlength hdata hafter ih =>
      obtain ⟨hwhole, hlast⟩ := hps _ mem_cons_self
      have hhere : readStructure (kindOf type) (data ++ after) data.length =
          .ok (values (kindOf type) data) := readStructure_ok_iff.2 ⟨hwhole, hlast⟩
      rw [readStructures_complete hlength hdata, hhere,
        ih (fun p hp => hps p (mem_cons_of_mem _ hp)) hr]
      rfl

/-- No id of a manufacturer without data is recognised. -/
theorem not_hollow (h : Splits fuel bytes ps r) (hread : readStructures fuel bytes = .ok vs)
    (id : Nat) : Value.manufacturer id [] ∉ vs := by
  induction h generalizing vs with
  | none fuel =>
      cases hread
      exact not_mem_nil
  | zero fuel rest =>
      rw [readStructures_zero] at hread
      cases hread
      exact not_mem_nil
  | lone fuel length hlength =>
      rw [readStructures_short hlength] at hread
      cases hread
  | truncated fuel length type rest hlength hrest =>
      rw [readStructures_truncated hlength hrest] at hread
      exact readStructure_not_hollow hread id
  | complete fuel length type data after ps rest hlength hdata hafter ih =>
      rw [readStructures_complete hlength hdata] at hread
      obtain ⟨values, hvalues, hread⟩ := bind_eq_ok.1 hread
      obtain ⟨others, hothers, hread⟩ := bind_eq_ok.1 hread
      cases hread
      intro hmem
      obtain hmem | hmem := mem_append.1 hmem
      · exact readStructure_not_hollow hvalues id hmem
      · exact ih hothers hmem

/-- The parser recognises no fewer values than the structures have, and with as many of
them, each structure is read as it is. -/
theorem legible_of_readStructures (h : Splits fuel bytes ps r)
    (hread : readStructures fuel bytes = .ok vs)
    (hhollow : ∀ id, Value.manufacturer id [] ∉ valuesOf ps) :
    (valuesOf ps).length ≤ vs.length ∧
      (vs = valuesOf ps → (∀ p ∈ ps, p.Legible) ∧ Silent r) := by
  induction h generalizing vs with
  | none fuel => exact ⟨Nat.zero_le _, fun _ => ⟨nofun, trivial⟩⟩
  | zero fuel rest => exact ⟨Nat.zero_le _, fun _ => ⟨nofun, .inl rfl⟩⟩
  | lone fuel length hlength =>
      rw [readStructures_short hlength] at hread
      cases hread
  | truncated fuel length type rest hlength hrest =>
      refine ⟨Nat.zero_le _, ?_⟩
      rintro rfl
      rw [readStructures_truncated hlength hrest] at hread
      exact ⟨nofun, .inr ⟨type, rest, rfl, (readStructure_truncated_iff hrest).1 hread⟩⟩
  | complete fuel length type data after ps rest hlength hdata hafter ih =>
      rw [readStructures_complete hlength hdata] at hread
      obtain ⟨here, hhere, hread⟩ := bind_eq_ok.1 hread
      obtain ⟨others, hothers, hread⟩ := bind_eq_ok.1 hread
      cases hread
      have hcons : valuesOf (⟨type, data, after⟩ :: ps) =
          values (kindOf type) data ++ valuesOf ps := rfl
      rw [hcons] at hhollow ⊢
      have hlen := readStructure_length hhere
        fun id hmem => hhollow id (mem_append_left _ hmem)
      obtain ⟨hlens, hrest⟩ := ih hothers fun id hmem => hhollow id (mem_append_right _ hmem)
      refine ⟨by rw [length_append, length_append]; omega, ?_⟩
      intro heq
      -- neither part can be longer than its counterpart
      have hsame : here.length = (values (kindOf type) data).length := by
        have htotal := congrArg List.length heq
        rw [length_append, length_append] at htotal
        omega
      obtain ⟨rfl, rfl⟩ := append_inj heq hsame
      obtain ⟨hps, hr⟩ := hrest rfl
      obtain ⟨hwhole, hlast⟩ := readStructure_ok_iff.1 hhere
      refine ⟨fun p hp => ?_, hr⟩
      obtain rfl | hp := mem_cons.1 hp
      · exact ⟨hwhole, hlast⟩
      · exact hps p hp

/-- The structures are recognised as they are if and only if they are legible. -/
theorem readStructures_ok_iff (h : Splits fuel bytes ps r) :
    readStructures fuel bytes = .ok (valuesOf ps) ↔ (∀ p ∈ ps, p.Legible) ∧ Silent r :=
  ⟨fun hread => (h.legible_of_readStructures hread (h.not_hollow hread)).2 rfl,
    fun hlegible => h.readStructures_of_legible hlegible.1 hlegible.2⟩

/-- A structure that makes the parser give up takes two bytes or more. -/
theorem length_of_cut (h : Splits fuel bytes ps r) (hcut : (∃ p ∈ ps, p.Cut) ∨ CutShort r) :
    2 ≤ bytes.length := by
  cases h with
  | none fuel =>
      obtain ⟨p, hp, -⟩ | ⟨length, type, rest, w, heq, -⟩ := hcut
      · exact absurd hp not_mem_nil
      · cases heq
  | zero fuel rest =>
      obtain ⟨p, hp, -⟩ | ⟨length, type, rest, w, heq, -⟩ := hcut
      · exact absurd hp not_mem_nil
      · cases heq
        exact Nat.le_add_left _ _
  | lone fuel length hlength =>
      obtain ⟨p, hp, -⟩ | ⟨length, type, rest, w, heq, -⟩ := hcut
      · exact absurd hp not_mem_nil
      · cases heq
  | truncated fuel length type rest hlength hrest => exact Nat.le_add_left _ _
  | complete fuel length type data after ps rest hlength hdata hafter =>
      exact Nat.le_add_left _ _

/-- The parser gives up where a structure makes it. -/
theorem readStructures_thrown_iff (h : Splits fuel bytes ps r) :
    readStructures fuel bytes = .error .thrown ↔ (∃ p ∈ ps, p.Cut) ∨ CutShort r := by
  induction h with
  | none fuel => simp [readStructures, CutShort]
  | zero fuel rest =>
      rw [readStructures_zero]
      constructor
      · intro h
        cases h
      · rintro (⟨p, hp, -⟩ | ⟨length, type, rest, w, heq, hne, -⟩)
        · exact absurd hp not_mem_nil
        · cases heq
          exact absurd rfl hne
  | lone fuel length hlength =>
      rw [readStructures_short hlength]
      simp [CutShort]
  | truncated fuel length type rest hlength hrest =>
      rw [readStructures_truncated hlength hrest, readStructure_thrown_iff]
      constructor
      · rintro (⟨w, hkind, hlt⟩ | ⟨-, hlt, hle⟩)
        · exact .inr ⟨length, type, rest, w, rfl, hlength, hkind, hlt⟩
        · omega
      · rintro (⟨p, hp, -⟩ | ⟨length, type, rest, w, heq, -, hkind, hlt⟩)
        · exact absurd hp not_mem_nil
        · cases heq
          exact .inl ⟨w, hkind, hlt⟩
  | complete fuel length type data after ps rest hlength hdata hafter ih =>
      have hhere : readStructure (kindOf type) (data ++ after) data.length = .error .thrown ↔
          Structure.Cut ⟨type, data, after⟩ := by
        rw [readStructure_thrown_iff, length_append]
        rfl
      rw [readStructures_complete hlength hdata]
      constructor
      · intro hread
        obtain hthrown | ⟨here, -, hread⟩ := bind_eq_error hread
        · exact .inl ⟨_, mem_cons_self, hhere.1 hthrown⟩
        · obtain hthrown | ⟨others, -, hread⟩ := bind_eq_error hread
          · obtain ⟨p, hp, hcut⟩ | hcut := ih.1 hthrown
            · exact .inl ⟨p, mem_cons_of_mem _ hp, hcut⟩
            · exact .inr hcut
          · cases hread
      · intro hcut
        cases hread : readStructure (kindOf type) (data ++ after) data.length with
        | error e =>
            cases e with
            | thrown => rfl
            | fault f =>
                -- the structure that is cut is not this one and needs more bytes
                have hshort := length_of_readStructure_fault hread
                rw [length_append] at hshort
                have hlater : (∃ p ∈ ps, p.Cut) ∨ CutShort rest := by
                  obtain ⟨p, hp, hcut⟩ | hcut := hcut
                  · obtain rfl | hp := mem_cons.1 hp
                    · rw [hhere.2 hcut] at hread
                      cases hread
                    · exact .inl ⟨p, hp, hcut⟩
                  · exact .inr hcut
                have := hafter.length_of_cut hlater
                omega
        | ok here =>
            have hlater : (∃ p ∈ ps, p.Cut) ∨ CutShort rest := by
              obtain ⟨p, hp, hcut⟩ | hcut := hcut
              · obtain rfl | hp := mem_cons.1 hp
                · rw [hhere.2 hcut] at hread
                  cases hread
                · exact .inl ⟨p, hp, hcut⟩
              · exact .inr hcut
            rw [ih.2 hlater]
            rfl

end Splits

/-! ## The tables of a record -/

section Tables

variable {bytes : List UInt8} {vs : List Value}

theorem lookup_serviceData_foldl (vs : List Value) (s : ScanRecord) (u : Uuid) :
    (vs.foldl keep s).serviceData.lookup u =
      (s.serviceData.lookup u).or (vs.findSome? (Value.dataOf u)) := by
  induction vs generalizing s with
  | nil => exact (Option.or_none).symm
  | cons v vs ih =>
      rw [foldl_cons, ih, findSome?_cons]
      cases v with
      | serviceData u' data =>
          rw [keep, Table.lookup_emplace, Option.or_assoc, Value.dataOf]
          congr 1
          by_cases hu : u = u'
          · rw [if_pos hu, if_pos hu.symm, Option.some_or]
          · rw [if_neg hu, if_neg (Ne.symm hu), Option.none_or]
      | flags | serviceUuid | solicitationUuid | deviceName | txPower | manufacturer => rfl

theorem lookup_manufacturerData_foldl (vs : List Value) (s : ScanRecord) (id : Nat) :
    (vs.foldl keep s).manufacturerSpecificData.lookup id =
      (s.manufacturerSpecificData.lookup id).or (vs.findSome? (Value.dataFrom id)) := by
  induction vs generalizing s with
  | nil => exact (Option.or_none).symm
  | cons v vs ih =>
      rw [foldl_cons, ih, findSome?_cons]
      cases v with
      | manufacturer id' data =>
          rw [keep, Table.lookup_emplace, Option.or_assoc, Value.dataFrom]
          congr 1
          by_cases hid : id = id'
          · rw [if_pos hid, if_pos hid.symm, Option.some_or]
          · rw [if_neg hid, if_neg (Ne.symm hid), Option.none_or]
      | flags | serviceUuid | solicitationUuid | deviceName | txPower | serviceData => rfl

/-- A record is exact if its values are recognised. -/
theorem exact_of_recognised (h : recognise bytes = .ok (fields bytes)) : Exact bytes where
  recognised := h
  record := by
    rw [parseFromBytes_eq, h]
    split <;> rfl
  serviceData := fun u => (lookup_serviceData_foldl _ _ u).trans (Option.none_or)
  manufacturerData := fun id => (lookup_manufacturerData_foldl _ _ id).trans (Option.none_or)

end Tables

/-- A record is read exactly if and only if its structures are legible, or it has no value
and the parser gives it up. -/
theorem exact_iff_legible_or_blank (bytes : List UInt8) :
    Exact bytes ↔ Legible bytes ∨ Blank bytes := by
  have hsplit : Splits (bytes.length + 1) bytes (structures bytes) (remainder bytes) :=
    split_splits (Nat.lt_succ_self _)
  have hok := hsplit.readStructures_ok_iff
  have hthrown := hsplit.readStructures_thrown_iff
  have hempty : fields bytes = [] ↔ ∀ p ∈ structures bytes, values p.kind p.data = [] :=
    flatMap_eq_nil_iff
  constructor
  · intro h
    have hread := h.recognised
    unfold recognise at hread
    split at hread
    · next vs hvs =>
        cases hread
        obtain ⟨hps, hr⟩ := hok.1 hvs
        exact .inl ⟨hps, hr⟩
    · next hvs =>
        exact .inr ⟨hempty.1 (Except.ok.inj hread).symm, hthrown.1 hvs⟩
    · cases hread
  · intro h
    apply exact_of_recognised
    unfold recognise
    obtain ⟨hps, hr⟩ | ⟨hps, hcut⟩ := h
    · rw [hok.2 ⟨hps, hr⟩]
      rfl
    · rw [hthrown.2 hcut, hempty.2 hps]

/-- A name of one letter at the end of a record is recognised as a zero. -/
theorem name_at_end_not_exact : ¬ ∀ bytes, Exact bytes := by
  intro h
  have hread := (h [2, 0x09, 0x41]).recognised
  exact absurd hread (by decide)

end Gatt.ScanRecord
