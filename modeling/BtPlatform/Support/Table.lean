import Mathlib.Data.List.AList

/-!
# Tables

Maps with finitely many keys, as association lists without a duplicate key. Insertion
does not replace the value of a key that is there: of several entries with one key, the
first one is kept.
-/

namespace Support

open List

universe u v

/-- A map from keys to values. -/
abbrev Table (κ : Type u) (V : Type v) := AList fun _ : κ => V

namespace Table

variable {κ : Type u} {V : Type v} [DecidableEq κ]

theorem lookup_insert (k k' : κ) (v : V) (m : Table κ V) :
    AList.lookup k' (AList.insert k v m) = if k' = k then some v else AList.lookup k' m := by
  split
  · next h => rw [h, AList.lookup_insert]
  · next h => exact AList.lookup_insert_ne h

theorem lookup_erase (k k' : κ) (m : Table κ V) :
    AList.lookup k' (AList.erase k m) = if k' = k then none else AList.lookup k' m := by
  split
  · next h => rw [h, AList.lookup_erase]
  · next h => exact AList.lookup_erase_ne h

theorem mem_of_lookup {k : κ} {v : V} {m : Table κ V} (h : AList.lookup k m = some v) :
    k ∈ m := AList.lookup_isSome.1 (Option.isSome_iff_exists.2 ⟨v, h⟩)

/-- `insert` of a map: nothing happens if the key is there. -/
def emplace (k : κ) (v : V) (m : Table κ V) : Table κ V :=
  if k ∈ m then m else AList.insert k v m

/-- Insertions from left to right. -/
def emplaceAll (es : List ((_ : κ) × V)) (m : Table κ V) : Table κ V :=
  es.foldl (fun m e => m.emplace e.1 e.2) m

@[simp] theorem emplaceAll_nil (m : Table κ V) : m.emplaceAll [] = m := rfl

@[simp] theorem emplaceAll_cons (e : (_ : κ) × V) (es : List ((_ : κ) × V)) (m : Table κ V) :
    m.emplaceAll (e :: es) = (m.emplace e.1 e.2).emplaceAll es := rfl

theorem emplaceAll_append (es es' : List ((_ : κ) × V)) (m : Table κ V) :
    m.emplaceAll (es ++ es') = (m.emplaceAll es).emplaceAll es' := foldl_append

/-- A key that is there keeps its value, a new one gets the value that is inserted. -/
theorem lookup_emplace (k k' : κ) (v : V) (m : Table κ V) :
    (m.emplace k v).lookup k' = (m.lookup k').or (if k' = k then some v else none) := by
  unfold emplace
  by_cases hk : k' = k
  · subst hk
    rw [if_pos rfl]
    by_cases hmem : k' ∈ m
    · rw [if_pos hmem]
      obtain ⟨w, hw⟩ := Option.isSome_iff_exists.1 (AList.lookup_isSome.2 hmem)
      rw [hw, Option.some_or]
    · rw [if_neg hmem, AList.lookup_insert, AList.lookup_eq_none.2 hmem, Option.none_or]
  · rw [if_neg hk, Option.or_none]
    split
    · rfl
    · exact AList.lookup_insert_ne hk

/-- The first of the entries with a key decides. -/
theorem lookup_emplaceAll (k : κ) (es : List ((_ : κ) × V)) (m : Table κ V) :
    (m.emplaceAll es).lookup k = (m.lookup k).or (es.dlookup k) := by
  induction es generalizing m with
  | nil => simp
  | cons e es ih =>
      obtain ⟨k', v⟩ := e
      rw [emplaceAll_cons, ih, lookup_emplace, Option.or_assoc]
      congr 1
      by_cases hk : k = k'
      · subst hk
        rw [if_pos rfl, dlookup_cons_eq, Option.some_or]
      · rw [if_neg hk, Option.none_or, dlookup_cons_ne _ _ hk]

/-- As many insertions into the empty table as another table has entries give this table
if and only if they are its entries. -/
theorem lookup_emplaceAll_eq_iff {es : List ((_ : κ) × V)} {m : Table κ V}
    (hlen : es.length = m.entries.length) :
    (∀ k, (emplaceAll es (∅ : Table κ V)).lookup k = m.lookup k) ↔
      ∀ e, e ∈ es ↔ e ∈ m.entries := by
  have hnodup : m.entries.Nodup := m.nodupKeys.nodup
  have hperm : m.entries ⊆ es → List.Perm m.entries es := by
    intro hsub
    exact (subperm_of_subset hnodup hsub).perm_of_length_le (Nat.le_of_eq hlen)
  constructor
  · intro h
    have hsub : m.entries ⊆ es := by
      rintro ⟨k, v⟩ hmem
      have hv := h k
      rw [lookup_emplaceAll, AList.lookup_empty, Option.none_or,
        AList.mem_lookup_iff.2 hmem] at hv
      exact of_mem_dlookup hv
    intro e
    exact (hperm hsub).mem_iff.symm
  · intro h k
    have hp : List.Perm m.entries es := hperm fun e he => (h e).2 he
    rw [lookup_emplaceAll, AList.lookup_empty, Option.none_or]
    exact (perm_dlookup k m.nodupKeys hp).symm

/-! ## Tables of lists -/

section Values

universe w

variable {ι : Type w}

/-- All elements of the lists of a table. -/
def values (m : Table κ (List ι)) : List ι := m.entries.flatMap Sigma.snd

theorem emplace_of_mem {k : κ} {m : Table κ V} (h : k ∈ m) (v : V) : m.emplace k v = m :=
  if_pos h

theorem values_emplace {k : κ} {m : Table κ (List ι)} (h : k ∉ m) (l : List ι) :
    (m.emplace k l).values = l ++ m.values := by
  unfold values emplace
  rw [if_neg h, AList.entries_insert_of_notMem h, flatMap_cons]

/-- A list of the table and the lists of the other keys. -/
theorem values_erase (k : κ) (m : Table κ (List ι)) :
    (((m.lookup k).getD [] : List ι) ++ Table.values (m.erase k)).Perm m.values := by
  by_cases hmem : k ∈ m
  · obtain ⟨l, hl⟩ := Option.isSome_iff_exists.1 (AList.lookup_isSome.2 hmem)
    obtain ⟨l', front, rest, -, hentries, herase⟩ := exists_of_kerase hmem
    have hl' : l' = l := by
      have hin : (⟨k, l'⟩ : (_ : κ) × List ι) ∈ m.entries := by
        rw [hentries]
        exact mem_append_right _ mem_cons_self
      rw [AList.mem_lookup_iff.2 hin] at hl
      exact Option.some.inj hl
    have hvalues : m.values =
        front.flatMap Sigma.snd ++ (l ++ rest.flatMap Sigma.snd) := by
      rw [values, hentries, flatMap_append, flatMap_cons, hl']
    have herased : Table.values (m.erase k) =
        front.flatMap Sigma.snd ++ rest.flatMap Sigma.snd := by
      show (List.kerase k m.entries).flatMap Sigma.snd = _
      rw [herase, flatMap_append]
    rw [hl, hvalues, herased, Option.getD_some, ← append_assoc, ← append_assoc]
    exact perm_append_comm.append_right _
  · have herased : m.erase k = m := by
      apply AList.ext
      exact kerase_of_notMem_keys hmem
    rw [AList.lookup_eq_none.2 hmem, herased]
    exact List.Perm.refl _

theorem mem_values_of_lookup {k : κ} {l : List ι} {m : Table κ (List ι)}
    (h : m.lookup k = some l) {i : ι} (hi : i ∈ l) : i ∈ m.values := by
  have hperm := values_erase k m
  rw [h] at hperm
  exact hperm.mem_iff.1 (mem_append_left _ hi)

/-- Without a duplicate element the lists of two keys are disjoint. -/
theorem disjoint_of_lookup {k k' : κ} {l l' : List ι} {m : Table κ (List ι)}
    (hnodup : m.values.Nodup) (hne : k ≠ k') (h : m.lookup k = some l)
    (h' : m.lookup k' = some l') : l.Disjoint l' := by
  have hperm := values_erase k m
  rw [h] at hperm
  have hdisjoint := (nodup_append'.1 (hperm.nodup_iff.2 hnodup)).2.2
  have hrest : AList.lookup k' (m.erase k) = some l' := by
    rw [lookup_erase, if_neg hne.symm, h']
  intro i hi hi'
  exact hdisjoint hi (mem_values_of_lookup hrest hi')

end Values

end Table

end Support
