import BtPlatform.Support.Status
import Mathlib.Data.Fin.Basic
import Mathlib.Data.List.Nodup
import Mathlib.Data.List.FinRange
import Mathlib.Logic.Basic
import Mathlib.Algebra.Group.Nat.Defs
import Mathlib.Tactic.Common

/-!
# Handles

`oi_handle.c`: a handle packs the index of a slot and the low bits of a salt. A slot that
is not in use has the salt 0, which a handle can have too; what was stored in the slot
stays there.
-/

namespace Stack.Handle

open Support List Function

/-- `OI_HANDLE`, as a 32-bit value; `NULL` is 0. -/
abbrev OIHandle := UInt32

/-- `OI_MAX_HANDLES`. -/
def maxHandles : Nat := 128

/-- `SALT_BITS`. -/
def saltBits : UInt32 := 23

/-- `SALT_MASK`. -/
def saltMask : UInt32 := (1 <<< saltBits) - 1

/-- `HANDLE_INTERNAL`. A pointer that is `NULL` is `none`. -/
structure HandleInternal (τ α : Type) where
  refData : Option α
  handleType : Option τ
  salt : UInt32

/-- The table, and the last salt that was given out. -/
structure Handles (τ α : Type) where
  handles : Fin maxHandles → HandleInternal τ α
  salt : UInt32

/-! ## Packing -/

/-- A handle from an index and a salt. -/
def pack (i : Fin maxHandles) (salt : UInt32) : OIHandle :=
  (UInt32.ofNat i <<< saltBits) ||| (salt &&& saltMask)

/-- The index of a handle. -/
def index (h : OIHandle) : Nat := (h >>> saltBits).toNat

/-- The salt of a handle. -/
def saltOf (h : OIHandle) : UInt32 := h &&& saltMask

theorem toNat_saltOf (h : OIHandle) : (saltOf h).toNat = h.toNat % 2 ^ 23 := by
  have hmask : saltMask.toNat = 2 ^ 23 - 1 := by decide
  rw [saltOf, UInt32.toNat_and, hmask, Nat.and_two_pow_sub_one_eq_mod]

theorem index_eq (h : OIHandle) : index h = h.toNat / 2 ^ 23 := by
  have hbits : saltBits.toNat = 23 := rfl
  rw [index, UInt32.toNat_shiftRight, hbits, Nat.shiftRight_eq_div_pow]

theorem toNat_pack (i : Fin maxHandles) (salt : UInt32) :
    (pack i salt).toNat = i * 2 ^ 23 + salt.toNat % 2 ^ 23 := by
  have hbits : saltBits.toNat = 23 := rfl
  have hi : i.val < 128 := i.isLt
  have hsalt : salt.toNat % 2 ^ 23 < 2 ^ 23 := Nat.mod_lt _ (by decide)
  have hofNat : (UInt32.ofNat i).toNat = i := by
    rw [UInt32.toNat_ofNat']
    omega
  have hshift : (i.val <<< 23) % 2 ^ 32 = i.val <<< 23 := by
    rw [Nat.shiftLeft_eq]
    omega
  have hand : (salt &&& saltMask).toNat = salt.toNat % 2 ^ 23 := toNat_saltOf salt
  rw [pack, UInt32.toNat_or, UInt32.toNat_shiftLeft, hbits, hofNat, hand]
  rw [Nat.mod_eq_of_lt (by decide : 23 < 32), hshift, ← Nat.shiftLeft_add_eq_or_of_lt hsalt,
    Nat.shiftLeft_eq]

theorem index_pack (i : Fin maxHandles) (salt : UInt32) : index (pack i salt) = i := by
  rw [index_eq, toNat_pack]
  omega

theorem saltOf_pack (i : Fin maxHandles) (salt : UInt32) :
    saltOf (pack i salt) = salt &&& saltMask := by
  apply UInt32.toNat_inj.1
  rw [toNat_saltOf, toNat_pack]
  have hand : (salt &&& saltMask).toNat = salt.toNat % 2 ^ 23 := toNat_saltOf salt
  rw [hand]
  omega

/-- A handle is its index and its salt. -/
theorem eq_pack {h : OIHandle} {i : Fin maxHandles} {salt : UInt32} (hindex : index h = i)
    (hsalt : salt &&& saltMask = saltOf h) : h = pack i salt := by
  apply UInt32.toNat_inj.1
  have hand : (salt &&& saltMask).toNat = salt.toNat % 2 ^ 23 := toNat_saltOf salt
  rw [hsalt, toNat_saltOf] at hand
  rw [index_eq] at hindex
  rw [toNat_pack, ← hindex, ← hand]
  omega

variable {s : Handles τ α}

namespace Handles

variable {τ α : Type}

/-! ## The functions -/

/-- All slots are zero. -/
def initial : Handles τ α := ⟨fun _ => ⟨none, none, 0⟩, 0x4E61436C⟩

/-- `++salt`, which leaves out 0. -/
def nextSalt (salt : UInt32) : UInt32 := if salt + 1 = 0 then 1 else salt + 1

/-- The first slot that is not in use. -/
def freeSlot (s : Handles τ α) : Option (Fin maxHandles) :=
  (List.finRange maxHandles).find? fun i => (s.handles i).salt = 0

/-- Store the data in a slot under the next salt. -/
def store (s : Handles τ α) (i : Fin maxHandles) (handleType : Option τ) (refData : α) :
    Handles τ α where
  handles := update s.handles i ⟨some refData, handleType, nextSalt s.salt⟩
  salt := nextSalt s.salt

/-- `OI_HANDLE_Alloc`. -/
def alloc (s : Handles τ α) (handleType : Option τ) (refData : Option α) :
    OIHandle × Handles τ α :=
  match refData with
  | none => (0, s)
  | some data =>
      match s.freeSlot with
      | none => (0, s)
      | some i => (pack i (nextSalt s.salt), s.store i handleType data)

/-- The slot that a handle fits: its salt ends in the bits of the handle. -/
def slot (s : Handles τ α) (h : OIHandle) : Option (Fin maxHandles) :=
  if hi : index h < maxHandles then
    if (s.handles ⟨index h, hi⟩).salt &&& saltMask = saltOf h then some ⟨index h, hi⟩ else none
  else none

/-- `OI_HANDLE_IsValid`. -/
def isValid [DecidableEq τ] (s : Handles τ α) (h : OIHandle) (handleType : Option τ) : Bool :=
  match s.slot h with
  | some i => (s.handles i).handleType = handleType
  | none => false

/-- `OI_HANDLE_Deref`. -/
def deref (s : Handles τ α) (h : OIHandle) : Option α :=
  match s.slot h with
  | some i => (s.handles i).refData
  | none => none

/-- `handles[index].salt = 0`. -/
def clear (s : Handles τ α) (i : Fin maxHandles) : Handles τ α :=
  { s with handles := update s.handles i { s.handles i with salt := 0 } }

/-- `OI_HANDLE_Free`. -/
def free (s : Handles τ α) (h : OIHandle) : Status × Handles τ α :=
  match s.slot h with
  | some i => (.ok, s.clear i)
  | none => (.invalidHandle, s)

theorem slot_eq_some {h : OIHandle} {i : Fin maxHandles} :
    s.slot h = some i ↔ h = pack i (s.handles i).salt := by
  unfold slot
  constructor
  · intro hslot
    split at hslot
    · next hi =>
        split at hslot
        · next hsalt =>
            obtain rfl := Option.some.inj hslot
            exact eq_pack rfl hsalt
        · cases hslot
    · cases hslot
  · intro hpack
    have hindex : index h = i := by rw [hpack, index_pack]
    have hi : index h < maxHandles := by rw [hindex]; exact i.isLt
    have hfin : (⟨index h, hi⟩ : Fin maxHandles) = i := Fin.ext hindex
    rw [dif_pos hi, hfin, if_pos (by rw [hpack, saltOf_pack])]

theorem salt_freeSlot {i : Fin maxHandles} (h : s.freeSlot = some i) : (s.handles i).salt = 0 := by
  have hfound := find?_some h
  exact of_decide_eq_true hfound

theorem nextSalt_ne_zero {salt : UInt32} : nextSalt salt ≠ 0 := by
  unfold nextSalt
  split
  · decide
  · next hne => exact hne

end Handles

/-! ## Live handles -/

variable {τ α : Type}

/-- A call. -/
inductive Op (τ α : Type)
  | alloc (handleType : Option τ) (refData : Option α)
  | free (h : OIHandle)
  deriving DecidableEq, Repr

/-- The table, and the handles that were returned and have not been freed since, with the
pointers they were made for. A `NULL` that is returned is not a handle. -/
structure Tracked (τ α : Type) where
  table : Handles τ α
  live : List (OIHandle × α)

namespace Tracked

/-- What becomes live with an allocation. -/
def returned (h : OIHandle) (refData : Option α) : List (OIHandle × α) :=
  if h = 0 then [] else (refData.map fun data => (h, data)).toList

/-- One call. -/
def step (t : Tracked τ α) : Op τ α → Tracked τ α
  | .alloc handleType refData =>
      let (h, table) := t.table.alloc handleType refData
      ⟨table, t.live ++ returned h refData⟩
  | .free h => ⟨(t.table.free h).2, t.live.filter fun entry => entry.1 ≠ h⟩

/-- The calls from the start. -/
def run (ops : List (Op τ α)) : Tracked τ α := ops.foldl step ⟨.initial, []⟩

/-- The live handles are those of the slots in use, but for a handle that is `NULL`. -/
structure Sound (t : Tracked τ α) : Prop where
  live_iff : ∀ h data, (h, data) ∈ t.live ↔ h ≠ 0 ∧ ∃ i, (t.table.handles i).salt ≠ 0 ∧
    h = pack i (t.table.handles i).salt ∧ (t.table.handles i).refData = some data
  used : ∀ i, (t.table.handles i).salt ≠ 0 → ∃ data, (t.table.handles i).refData = some data
  nodup : (t.live.map Prod.fst).Nodup

theorem sound_initial : Sound (⟨.initial, []⟩ : Tracked τ α) where
  live_iff h data := by
    constructor
    · intro hmem
      cases hmem
    · rintro ⟨-, i, hsalt, -⟩
      exact absurd rfl hsalt
  used i hsalt := absurd rfl hsalt
  nodup := nodup_nil

variable {h : OIHandle} {i : Fin maxHandles}

theorem mem_returned {h' : OIHandle} {data data' : α} :
    (h', data') ∈ returned h (some data) ↔ h ≠ 0 ∧ h' = h ∧ data' = data := by
  unfold returned
  split
  · next hnull => simp [hnull]
  · next hne => simp [hne]

variable {t : Tracked τ α}

theorem Sound.pack_not_live (hs : Sound t) (salt : UInt32) (hfree : (t.table.handles i).salt = 0)
    (data : α) : (pack i salt, data) ∉ t.live := by
  intro hmem
  obtain ⟨-, j, hj, hpack, -⟩ := (hs.live_iff _ _).1 hmem
  have hindex := congrArg index hpack
  rw [index_pack, index_pack] at hindex
  obtain rfl := Fin.ext hindex
  exact hj hfree

theorem sound_store (hs : Sound t) (hfree : (t.table.handles i).salt = 0) (handleType : Option τ)
    (data : α) :
    Sound ⟨t.table.store i handleType data,
      t.live ++ returned (pack i (Handles.nextSalt t.table.salt)) (some data)⟩ := by
  have hsame : (t.table.store i handleType data).handles i =
      ⟨some data, handleType, Handles.nextSalt t.table.salt⟩ := update_self ..
  have hother : ∀ j, j ≠ i → (t.table.store i handleType data).handles j = t.table.handles j :=
    fun j hj => update_of_ne hj ..
  constructor
  · intro h d
    rw [mem_append, mem_returned, hs.live_iff]
    constructor
    · rintro (⟨hne, j, hsalt, hpack, hdata⟩ | ⟨hne, rfl, rfl⟩)
      · have hj : j ≠ i := fun heq => hsalt (heq ▸ hfree)
        rw [← hother j hj] at hsalt hpack hdata
        exact ⟨hne, j, hsalt, hpack, hdata⟩
      · refine ⟨hne, i, ?_⟩
        rw [hsame]
        exact ⟨Handles.nextSalt_ne_zero, rfl, rfl⟩
    · rintro ⟨hne, j, hj⟩
      by_cases heq : j = i
      · rw [heq, hsame] at hj
        obtain ⟨-, rfl, hdata⟩ := hj
        exact .inr ⟨hne, rfl, (Option.some.inj hdata).symm⟩
      · rw [hother j heq] at hj
        exact .inl ⟨hne, j, hj⟩
  · intro j hj
    by_cases heq : j = i
    · rw [heq, hsame]
      exact ⟨data, rfl⟩
    · rw [hother j heq] at hj ⊢
      exact hs.used j hj
  · rw [map_append, nodup_append]
    refine ⟨hs.nodup, ?_, ?_⟩
    · unfold returned
      split
      · exact nodup_nil
      · exact nodup_singleton _
    · intro h hlive h' hreturned heq
      obtain ⟨⟨g, d⟩, hmem, rfl⟩ := mem_map.1 hlive
      obtain ⟨⟨g', d'⟩, hmem', rfl⟩ := mem_map.1 hreturned
      obtain ⟨-, hpack, -⟩ := mem_returned.1 hmem'
      rw [show g = g' from heq, hpack] at hmem
      exact hs.pack_not_live _ hfree d hmem

theorem sound_clear (hs : Sound t) (hslot : h = pack i (t.table.handles i).salt) :
    Sound ⟨t.table.clear i, t.live.filter fun entry => entry.1 ≠ h⟩ := by
  have hsame : (t.table.clear i).handles i = { t.table.handles i with salt := 0 } :=
    update_self ..
  have hother : ∀ j, j ≠ i → (t.table.clear i).handles j = t.table.handles j :=
    fun j hj => update_of_ne hj ..
  constructor
  · intro h' d
    rw [mem_filter, hs.live_iff]
    constructor
    · rintro ⟨⟨hne, j, hsalt, hpack, hdata⟩, hother'⟩
      have hj : j ≠ i := by
        rintro rfl
        exact of_decide_eq_true hother' (hpack.trans hslot.symm)
      rw [← hother j hj] at hsalt hpack hdata
      exact ⟨hne, j, hsalt, hpack, hdata⟩
    · rintro ⟨hne, j, hsalt, hpack, hdata⟩
      have hj : j ≠ i := by
        rintro rfl
        rw [hsame] at hsalt
        exact hsalt rfl
      rw [hother j hj] at hsalt hpack hdata
      refine ⟨⟨hne, j, hsalt, hpack, hdata⟩, decide_eq_true ?_⟩
      intro heq
      have hindex := congrArg index (hpack.symm.trans (heq.trans hslot))
      rw [index_pack, index_pack] at hindex
      exact hj (Fin.ext hindex)
  · intro j hj
    by_cases heq : j = i
    · rw [heq, hsame] at hj
      exact absurd rfl hj
    · rw [hother j heq] at hj ⊢
      exact hs.used j hj
  · exact List.Nodup.sublist (filter_sublist.map _) hs.nodup

/-- One call keeps the live handles those of the slots in use. -/
theorem sound_step (hs : Sound t) (op : Op τ α) : Sound (t.step op) := by
  cases op with
  | alloc handleType refData =>
      cases refData with
      | none =>
          have hsame : t.step (.alloc handleType none) = t := by
            simp [step, Handles.alloc, returned]
          rw [hsame]
          exact hs
      | some data =>
          cases hslot : t.table.freeSlot with
          | none =>
              have hsame : t.step (.alloc handleType (some data)) = t := by
                simp [step, Handles.alloc, returned, hslot]
              rw [hsame]
              exact hs
          | some i =>
              have hstep : t.step (.alloc handleType (some data)) =
                  ⟨t.table.store i handleType data,
                    t.live ++ returned (pack i (Handles.nextSalt t.table.salt)) (some data)⟩ := by
                simp only [step, Handles.alloc, hslot]
              rw [hstep]
              exact sound_store hs (Handles.salt_freeSlot hslot) handleType data
  | free h =>
      cases hslot : t.table.slot h with
      | none =>
          have hkept : (t.live.filter fun entry => entry.1 ≠ h) = t.live := by
            refine filter_eq_self.2 fun entry hmem => decide_eq_true ?_
            rintro rfl
            obtain ⟨-, i, -, hpack, -⟩ := (hs.live_iff _ _).1 hmem
            rw [Handles.slot_eq_some.2 hpack] at hslot
            cases hslot
          have hsame : t.step (.free h) = t := by
            simp only [step, Handles.free, hslot, hkept]
          rw [hsame]
          exact hs
      | some i =>
          have hstep : t.step (.free h) =
              ⟨t.table.clear i, t.live.filter fun entry => entry.1 ≠ h⟩ := by
            simp only [step, Handles.free, hslot]
          rw [hstep]
          exact sound_clear hs (Handles.slot_eq_some.1 hslot)

theorem sound_run (ops : List (Op τ α)) : Sound (run ops) := by
  unfold run
  generalize hstart : (⟨.initial, []⟩ : Tracked τ α) = start
  have hs : Sound start := hstart ▸ sound_initial
  clear hstart
  induction ops generalizing start with
  | nil => exact hs
  | cons op ops ih => exact ih _ (sound_step hs op)

/-! ## What a handle leads to -/

/-- A handle leads to its pointer and can be freed exactly as long as it is live. -/
structure Faithful (t : Tracked τ α) (h : OIHandle) : Prop where
  deref_iff : ∀ data, t.table.deref h = some data ↔ (h, data) ∈ t.live
  free_iff : (t.table.free h).1 = .ok ↔ ∃ data, (h, data) ∈ t.live

/-- If the bits of the salt are all 0, the slot of the index is in use, if there is one, and
for `NULL` it is in use under a salt with other bits. -/
def Apart (s : Handles τ α) (h : OIHandle) : Prop :=
  saltOf h = 0 → ∀ hi : index h < maxHandles,
    (s.handles ⟨index h, hi⟩).salt ≠ 0 ∧
      (h = 0 → (s.handles ⟨index h, hi⟩).salt &&& saltMask ≠ 0)

theorem apart_iff : Apart s h ↔ ∀ i, s.slot h = some i → (s.handles i).salt ≠ 0 ∧ h ≠ 0 := by
  constructor
  · intro hapart i hslot
    have hpack := Handles.slot_eq_some.1 hslot
    have hindex : index h = i := by rw [hpack, index_pack]
    have hmask : (s.handles i).salt &&& saltMask = saltOf h := by rw [hpack, saltOf_pack]
    by_cases hzero : saltOf h = 0
    · have hi : index h < maxHandles := hindex ▸ i.isLt
      obtain rfl : i = ⟨index h, hi⟩ := Fin.ext hindex.symm
      obtain ⟨hsalt, hnull⟩ := hapart hzero hi
      exact ⟨hsalt, fun heq => hnull heq (hmask.trans hzero)⟩
    · refine ⟨fun hsalt => hzero ?_, fun hnull => hzero ?_⟩
      · rw [← hmask, hsalt]
        rfl
      · rw [hnull]
        rfl
  · intro hslot hzero hi
    by_cases hmask : (s.handles ⟨index h, hi⟩).salt &&& saltMask = 0
    · have hfound : s.slot h = some ⟨index h, hi⟩ :=
        Handles.slot_eq_some.2 (eq_pack rfl (hmask.trans hzero.symm))
      obtain ⟨hsalt, hne⟩ := hslot _ hfound
      exact ⟨hsalt, fun hnull => absurd hnull hne⟩
    · refine ⟨fun hsalt => hmask ?_, fun _ => hmask⟩
      rw [hsalt]
      rfl

/-- The live handles are all different, and of the 32-bit values exactly those behave that
are apart from what a slot that is not in use looks like. -/
theorem live_handles_iff (ops : List (Op τ α)) (h : OIHandle) :
    (Faithful (run ops) h ∧ ((run ops).live.map Prod.fst).Nodup) ↔ Apart (run ops).table h := by
  have hs : Sound (run ops) := sound_run ops
  rw [apart_iff]
  generalize run ops = t at hs
  constructor
  · rintro ⟨hfaithful, -⟩ i hslot
    have hfree : (t.table.free h).1 = .ok := by rw [Handles.free, hslot]
    obtain ⟨data, hlive⟩ := hfaithful.free_iff.1 hfree
    obtain ⟨hne, j, hsalt, hpack, -⟩ := (hs.live_iff h data).1 hlive
    rw [Handles.slot_eq_some.2 hpack] at hslot
    obtain rfl := Option.some.inj hslot
    exact ⟨hsalt, hne⟩
  · intro hapart
    have hlive : ∀ data, (h, data) ∈ t.live ↔
        ∃ i, t.table.slot h = some i ∧ (t.table.handles i).refData = some data := by
      intro data
      rw [hs.live_iff]
      constructor
      · rintro ⟨-, i, -, hpack, hdata⟩
        exact ⟨i, Handles.slot_eq_some.2 hpack, hdata⟩
      · rintro ⟨i, hslot, hdata⟩
        obtain ⟨hsalt, hne⟩ := hapart i hslot
        exact ⟨hne, i, hsalt, Handles.slot_eq_some.1 hslot, hdata⟩
    refine ⟨⟨?_, ?_⟩, hs.nodup⟩
    · intro data
      rw [hlive, Handles.deref]
      cases t.table.slot h with
      | none => simp
      | some i => simp
    · rw [Handles.free]
      cases hslot : t.table.slot h with
      | none => simp [hlive, hslot]
      | some i =>
          obtain ⟨data, hdata⟩ := hs.used i (hapart i hslot).1
          simp [hlive, hslot, hdata]

/-- After a handle was made and freed, `NULL` leads to its pointer. -/
theorem null_handle_stale :
    ¬ Faithful (run [.alloc (some ()) (some 7), .free 0x61436D] : Tracked Unit Nat) 0 := by
  intro hfaithful
  have hderef : (run [.alloc (some ()) (some 7), .free 0x61436D] : Tracked Unit Nat).table.deref 0 =
      some 7 := by decide
  have hlive : (run [.alloc (some ()) (some 7), .free 0x61436D] : Tracked Unit Nat).live = [] := by
    decide
  have hmem := (hfaithful.deref_iff 7).1 hderef
  rw [hlive] at hmem
  cases hmem

end Tracked

end Stack.Handle
