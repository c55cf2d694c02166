import Mathlib.Data.List.TakeWhile

/-!
# Buffers of C

A buffer is the list of its bytes. Functions that read from it give `none` where they would
go past its end.
-/

namespace Support

open List

def strlen : List UInt8 → Option Nat
  | [] => none
  | b :: buffer => if b = 0 then some 0 else (strlen buffer).map (· + 1)

/-- `memcpy` of `n` bytes. -/
def memcpy (src : List UInt8) (n : Nat) : Option (List UInt8) :=
  if n ≤ src.length then some (src.take n) else none

/-- A copy with a terminator behind it. -/
def terminate (text : List UInt8) : List UInt8 := text ++ [0]

/-- What `strlen` counts: the bytes up to the first terminator, if there is one. -/
def cText (buffer : List UInt8) : Option (List UInt8) := (strlen buffer).bind (memcpy buffer)

theorem memcpy_append (front back : List UInt8) :
    memcpy (front ++ back) front.length = some front := by
  unfold memcpy
  rw [if_pos (by rw [length_append]; exact Nat.le_add_right _ _), take_left]

variable {text buffer : List UInt8}

theorem strlen_append (h : 0 ∉ text) (rest : List UInt8) :
    strlen (text ++ 0 :: rest) = some text.length := by
  induction text with
  | nil => rfl
  | cons b text ih =>
      have hb : b ≠ 0 := fun hb => h (hb ▸ mem_cons_self)
      rw [cons_append, strlen, if_neg hb, ih fun hmem => h (mem_cons_of_mem b hmem)]
      rfl

theorem strlen_of_notMem (h : 0 ∉ buffer) : strlen buffer = none := by
  induction buffer with
  | nil => rfl
  | cons b buffer ih =>
      have hb : b ≠ 0 := fun hb => h (hb ▸ mem_cons_self)
      rw [strlen, if_neg hb, ih fun hmem => h (mem_cons_of_mem b hmem)]
      rfl

theorem cText_append (h : 0 ∉ text) (rest : List UInt8) :
    cText (text ++ 0 :: rest) = some text := by
  rw [cText, strlen_append h rest]
  exact memcpy_append text (0 :: rest)

/-- The text of a buffer is what stands before the first zero. -/
theorem cText_eq_some_iff :
    cText buffer = some text ↔ 0 ∉ text ∧ ∃ rest, buffer = text ++ 0 :: rest := by
  constructor
  · intro htext
    by_cases hzero : 0 ∈ buffer
    · obtain ⟨front, rest, rfl, hfront⟩ := eq_append_cons_of_mem hzero
      rw [cText_append hfront] at htext
      cases htext
      exact ⟨hfront, rest, rfl⟩
    · rw [cText, strlen_of_notMem hzero] at htext
      cases htext
  · rintro ⟨hzero, rest, rfl⟩
    exact cText_append hzero rest

theorem cText_of_notMem (h : 0 ∉ buffer) : cText buffer = none := by
  rw [cText, strlen_of_notMem h]
  rfl

theorem cText_terminate (h : 0 ∉ text) : cText (terminate text) = some text :=
  cText_append h []

/-- A text is shorter than its buffer. -/
theorem length_lt_of_cText (h : cText buffer = some text) : text.length < buffer.length := by
  obtain ⟨-, rest, rfl⟩ := cText_eq_some_iff.1 h
  rw [length_append, length_cons]
  omega

/-- A terminated copy has the copied bytes as its text if and only if none of them is zero. -/
theorem cText_terminate_iff : cText (terminate text) = some text ↔ 0 ∉ text :=
  ⟨fun h => (cText_eq_some_iff.1 h).1, cText_terminate⟩

end Support
