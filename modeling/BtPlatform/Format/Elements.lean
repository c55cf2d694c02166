import Mathlib.Tactic.Common

/-!
# Elements of length, type and data

An element is written as a length byte, a type byte and its data; the length counts
the type and the data. A reader walks over the bytes, hands the type, the place of the
data and its length to a step function, and stops at a length of zero. What a step does
may depend on whether the element reaches to the end of the bytes, so a sequence of
elements that was written is read as a fold that knows which element is the last.
-/

namespace Format

open List

variable {ε σ : Type*}

/-- A type and its data. -/
structure Element where
  type : UInt8
  data : List UInt8
  deriving DecidableEq, Repr

namespace Element

/-- The length byte, which wraps. -/
def length (e : Element) : UInt8 := UInt8.ofNat (e.data.length + 1)

/-- The length byte says how many bytes follow it. -/
def Fits (e : Element) : Prop := e.length.toNat = e.data.length + 1

theorem fits_iff {e : Element} : e.Fits ↔ e.data.length < 255 := by
  unfold Fits length
  rw [UInt8.toNat_ofNat']
  constructor
  · intro h
    have := Nat.mod_lt (e.data.length + 1) (show 0 < 2 ^ 8 by decide)
    omega
  · intro h
    exact Nat.mod_eq_of_lt (by omega)

instance (e : Element) : Decidable e.Fits := decidable_of_iff _ fits_iff.symm

def encode (e : Element) : List UInt8 := e.length :: e.type :: e.data

@[simp] theorem encode_length (e : Element) : e.encode.length = e.data.length + 2 := rfl

end Element

/-- Elements written one after the other. -/
def encodeElements (es : List Element) : List UInt8 := es.flatMap Element.encode

@[simp] theorem encodeElements_nil : encodeElements [] = [] := rfl

@[simp] theorem encodeElements_cons (e : Element) (es : List Element) :
    encodeElements (e :: es) = e.encode ++ encodeElements es := rfl

@[simp] theorem encodeElements_append (es es' : List Element) :
    encodeElements (es ++ es') = encodeElements es ++ encodeElements es' := flatMap_append

theorem encodeElements_eq_nil {es : List Element} : encodeElements es = [] ↔ es = [] := by
  cases es with
  | nil => simp
  | cons e es => simp [Element.encode]

theorem length_le_encodeElements_length (es : List Element) :
    es.length ≤ (encodeElements es).length := by
  induction es with
  | nil => exact Nat.le_refl 0
  | cons e es ih =>
      simp only [encodeElements_cons, length_append, length_cons,
        Element.encode_length]
      omega

/-- Each value with whether it is the last one. -/
def markLast {α : Type*} : List α → List (Bool × α)
  | [] => []
  | a :: as => (as.isEmpty, a) :: markLast as

section MarkLast

variable {α : Type*}

@[simp] theorem markLast_nil : markLast ([] : List α) = [] := rfl

@[simp] theorem markLast_cons (a : α) (as : List α) :
    markLast (a :: as) = (as.isEmpty, a) :: markLast as := rfl

/-- In front of other values no value is the last one. -/
theorem markLast_append (as bs : List α) :
    markLast (as ++ bs) = (markLast as).map (fun a => (a.1 && bs.isEmpty, a.2)) ++ markLast bs := by
  induction as with
  | nil => rfl
  | cons a as ih =>
      have hempty : (as ++ bs).isEmpty = (as.isEmpty && bs.isEmpty) := by
        cases as <;> rfl
      rw [cons_append, markLast_cons, ih, hempty]
      rfl

theorem markLast_map {β : Type*} (g : α → β) (as : List α) :
    markLast (as.map g) = (markLast as).map fun a => (a.1, g a.2) := by
  induction as with
  | nil => rfl
  | cons a as ih => simp [ih]

theorem markLast_map_snd (as : List α) : (markLast as).map Prod.snd = as := by
  induction as with
  | nil => rfl
  | cons a as ih => simp [ih]

theorem markLast_length (as : List α) : (markLast as).length = as.length := by
  rw [← length_map Prod.snd, markLast_map_snd]

theorem mem_of_mem_markLast {as : List α} {a : Bool × α} (h : a ∈ markLast as) : a.2 ∈ as := by
  rw [← markLast_map_snd as]
  exact mem_map_of_mem h

end MarkLast

section Read

/-- The reader: `short` where a type byte is missing, `overrun` where the fuel is used
up. -/
def readElements (short overrun : ε) (step : UInt8 → Nat → Nat → σ → Except ε σ)
    (bytes : List UInt8) : Nat → Nat → σ → Except ε σ
  | 0, _, _ => .error overrun
  | fuel + 1, pos, s =>
      match bytes[pos]? with
      | none => .ok s
      | some length =>
          if length = 0 then .ok s
          else
            match bytes[pos + 1]? with
            | none => .error short
            | some type =>
                match step type (pos + 2) (length.toNat - 1) s with
                | .ok s =>
                    readElements short overrun step bytes fuel (pos + 2 + (length.toNat - 1)) s
                | .error e => .error e

variable {α : Type*} {short overrun : ε} {step : UInt8 → Nat → Nat → σ → Except ε σ}
variable {el : α → Element} {apply : σ → Bool × α → σ}

/-- Reading written elements is folding what they stand for, when each step is right about
an element wherever it stands. -/
theorem readElements_encodeElements {as : List α} {bytes : List UInt8} (before : List UInt8)
    (fuel : Nat) (hfits : ∀ a ∈ as, (el a).Fits)
    (hstep : ∀ a ∈ as, ∀ before after s, bytes = before ++ ((el a).data ++ after) →
      step (el a).type before.length (el a).data.length s = .ok (apply s (after.isEmpty, a)))
    (hbytes : bytes = before ++ encodeElements (as.map el)) (hfuel : as.length < fuel) (s : σ) :
    readElements short overrun step bytes fuel before.length s =
      .ok ((markLast as).foldl apply s) := by
  induction as generalizing before fuel s with
  | nil =>
      obtain ⟨fuel, rfl⟩ : ∃ n, fuel = n + 1 := Nat.exists_eq_add_one.mpr hfuel
      have hend : bytes[before.length]? = none := by
        rw [hbytes, map_nil, encodeElements_nil, append_nil]
        exact getElem?_eq_none (Nat.le_refl _)
      rw [readElements, hend]
      rfl
  | cons a as ih =>
      obtain ⟨fuel, rfl⟩ : ∃ n, fuel = n + 1 :=
        Nat.exists_eq_add_one.mpr (Nat.lt_of_le_of_lt (Nat.zero_le _) hfuel)
      have hfit : (el a).length.toNat = (el a).data.length + 1 := hfits a mem_cons_self
      have hlen : bytes[before.length]? = some (el a).length := by
        rw [hbytes, getElem?_append_right (Nat.le_refl _), Nat.sub_self]
        rfl
      have htype : bytes[before.length + 1]? = some (el a).type := by
        rw [hbytes, getElem?_append_right (Nat.le_add_right _ _), Nat.add_sub_cancel_left]
        rfl
      have hne : (el a).length ≠ 0 := by
        intro hzero
        rw [hzero] at hfit
        exact absurd hfit (by simp)
      -- the data of the first element, and the bytes in front of the second one
      have hsplit : bytes = (before ++ [(el a).length, (el a).type]) ++
          ((el a).data ++ encodeElements (as.map el)) := by
        rw [hbytes, map_cons, encodeElements_cons, Element.encode]
        simp
      have hlast : (encodeElements (as.map el)).isEmpty = as.isEmpty := by
        rw [Bool.eq_iff_iff, List.isEmpty_iff, List.isEmpty_iff, encodeElements_eq_nil,
          map_eq_nil_iff]
      have hfirst : step (el a).type (before.length + 2) (el a).data.length s =
          .ok (apply s (as.isEmpty, a)) := by
        have h := hstep a mem_cons_self _ _ s hsplit
        rw [hlast, length_append] at h
        exact h
      have hlength : before.length + 2 + (el a).data.length =
          (before ++ (el a).encode).length := by
        rw [length_append, Element.encode_length]
        omega
      have htail := ih (before ++ (el a).encode) fuel
        (fun a' ha' => hfits a' (mem_cons_of_mem a ha'))
        (fun a' ha' => hstep a' (mem_cons_of_mem a ha'))
        (by rw [hbytes, map_cons, encodeElements_cons]; simp)
        (Nat.lt_of_succ_lt_succ hfuel) (apply s (as.isEmpty, a))
      rw [readElements, hlen]
      simp only [if_neg hne, htype, hfit, Nat.add_sub_cancel, hfirst]
      rw [hlength, htail]
      rfl

/-- The whole of what was written, with a unit of fuel for each byte. -/
theorem readElements_encodeElements_start {as : List α} (hfits : ∀ a ∈ as, (el a).Fits)
    (hstep : ∀ a ∈ as, ∀ before after s,
      encodeElements (as.map el) = before ++ ((el a).data ++ after) →
      step (el a).type before.length (el a).data.length s = .ok (apply s (after.isEmpty, a)))
    (s : σ) :
    readElements short overrun step (encodeElements (as.map el))
      ((encodeElements (as.map el)).length + 1) 0 s = .ok ((markLast as).foldl apply s) := by
  have hfuel : as.length < (encodeElements (as.map el)).length + 1 := by
    rw [← length_map el]
    exact Nat.lt_succ_of_le (length_le_encodeElements_length _)
  exact readElements_encodeElements [] _ hfits hstep rfl hfuel s

/-- What every step keeps, the reader keeps. -/
theorem readElements_invariant {bytes : List UInt8} {P : σ → Prop}
    (hstep : ∀ type pos length s s', step type pos length s = .ok s' → P s → P s')
    {fuel pos : Nat} {s s' : σ} (h : readElements short overrun step bytes fuel pos s = .ok s')
    (hs : P s) : P s' := by
  induction fuel generalizing pos s with
  | zero => cases h
  | succ fuel ih =>
      rw [readElements] at h
      split at h
      · cases h
        exact hs
      · split at h
        · cases h
          exact hs
        · split at h
          · cases h
          · split at h
            · next s₁ hfirst => exact ih h (hstep _ _ _ _ _ hfirst hs)
            · cases h

/-- With a unit of fuel for each byte, an error comes from a type byte that is missing or
from a step. -/
theorem readElements_error {bytes : List UInt8} {fuel pos : Nat} {s : σ} {e : ε}
    (hpos : 0 < fuel) (hfuel : bytes.length < pos + fuel)
    (h : readElements short overrun step bytes fuel pos s = .error e) :
    ∃ p length, bytes[p]? = some length ∧ length ≠ 0 ∧
      (bytes[p + 1]? = none ∧ e = short ∨
        ∃ type s, bytes[p + 1]? = some type ∧
          step type (p + 2) (length.toNat - 1) s = .error e) := by
  induction fuel generalizing pos s with
  | zero => exact absurd hpos (Nat.lt_irrefl 0)
  | succ fuel ih =>
      rw [readElements] at h
      split at h
      · cases h
      · next length hlength =>
          split at h
          · cases h
          · next hne =>
              split at h
              · next hshort =>
                  cases h
                  exact ⟨pos, length, hlength, hne, .inl ⟨hshort, rfl⟩⟩
              · next type htype =>
                  split at h
                  · next s₁ hfirst =>
                      have hlt : pos < bytes.length := (List.getElem?_eq_some_iff.1 hlength).1
                      exact ih (by omega) (by omega) h
                  · next e' hfirst =>
                      cases h
                      exact ⟨pos, length, hlength, hne, .inr ⟨type, s, htype, hfirst⟩⟩

end Read

end Format
