import Mathlib.Order.Compare
import Mathlib.Data.List.Basic

/-!
# Comparing counted strings

The loop of `strncmp`, for characters of any type and after any folding of them, such as
the one to upper case. Where the first string ends before the loop does, a byte behind it
is read: the result is `none`.
-/

namespace Support

open List

section
variable {α : Type} [Ord α] [DecidableEq α] (nul : α) (fold : α → α)

/-- `strncmp`, on folded characters. -/
def strncmp : List α → List α → Nat → Option Ordering
  | _, _, 0 => some .eq
  | a :: s, b :: t, n + 1 =>
      match compare (fold a) (fold b) with
      | .eq => if fold a = nul then some .eq else strncmp s t n
      | unequal => some unequal
  | [], _, _ + 1 | _, [], _ + 1 => none

@[simp] theorem strncmp_zero (s t : List α) : strncmp nul fold s t 0 = some .eq := by
  unfold strncmp
  rfl

@[simp] theorem strncmp_nil (t : List α) (n : Nat) : strncmp nul fold [] t (n + 1) = none := by
  unfold strncmp
  cases t <;> rfl

variable {nul fold}
variable [Std.LawfulEqOrd α]

theorem strncmp_same {a b : α} {s t : List α} {n : Nat} (h : fold a = fold b)
    (hnul : fold b ≠ nul) :
    strncmp nul fold (a :: s) (b :: t) (n + 1) = strncmp nul fold s t n := by
  rw [strncmp, h, Std.ReflOrd.compare_self]
  exact if_neg hnul

theorem strncmp_terminator {a b : α} {s t : List α} {n : Nat} (h : fold a = fold b)
    (hnul : fold b = nul) :
    strncmp nul fold (a :: s) (b :: t) (n + 1) = some .eq := by
  rw [strncmp, h, Std.ReflOrd.compare_self]
  exact if_pos hnul

theorem strncmp_different {a b : α} {s t : List α} {n : Nat} (h : fold a ≠ fold b) :
    ∃ o, o ≠ .eq ∧ strncmp nul fold (a :: s) (b :: t) (n + 1) = some o := by
  rw [strncmp]
  cases hcompare : compare (fold a) (fold b) with
  | eq => exact absurd (Std.LawfulEqOrd.eq_of_compare hcompare) h
  | lt => exact ⟨.lt, nofun, rfl⟩
  | gt => exact ⟨.gt, nofun, rfl⟩

/-- As many characters as the literal has are compared: the strings agree if the literal is
what the string begins with. -/
theorem strncmp_literal_eq_iff {s text : List α} (hnul : ∀ b ∈ text, fold b ≠ nul) :
    strncmp nul fold s text text.length = some .eq ↔ text.map fold <+: s.map fold := by
  induction text generalizing s with
  | nil => simp
  | cons b text ih =>
      cases s with
      | nil => simp
      | cons a s =>
          rw [length_cons, map_cons, map_cons, cons_prefix_cons]
          by_cases h : fold a = fold b
          · rw [strncmp_same h (hnul b mem_cons_self),
              ih fun c hc => hnul c (mem_cons_of_mem b hc)]
            simp [h]
          · obtain ⟨o, ho, heq⟩ := @strncmp_different _ _ _ nul fold _ a b s text text.length h
            rw [heq]
            simp [ho, Ne.symm h]

/-- A character behind the string is read exactly if the string is a proper part of the
literal. -/
theorem strncmp_literal_none_iff {s text : List α} (hnul : ∀ b ∈ text, fold b ≠ nul) :
    strncmp nul fold s text text.length = none ↔
      s.map fold <+: text.map fold ∧ s.length < text.length := by
  induction text generalizing s with
  | nil => simp
  | cons b text ih =>
      cases s with
      | nil => simp
      | cons a s =>
          rw [length_cons, map_cons, map_cons, cons_prefix_cons,
            length_cons, Nat.add_lt_add_iff_right]
          by_cases h : fold a = fold b
          · rw [strncmp_same h (hnul b mem_cons_self),
              ih fun c hc => hnul c (mem_cons_of_mem b hc)]
            simp [h]
          · obtain ⟨o, -, heq⟩ := @strncmp_different _ _ _ nul fold _ a b s text text.length h
            rw [heq]
            simp [h]

/-- All characters of the string are compared with a terminated text: they agree if the
string is a part of the text, or the text with its terminator is a part of the string. -/
theorem strncmp_text_eq_iff {s text : List α} {last : α} (hlast : fold last = nul)
    (hnul : ∀ b ∈ text, fold b ≠ nul) :
    strncmp nul fold s (text ++ [last]) s.length = some .eq ↔
      s.map fold <+: text.map fold ∨ text.map fold ++ [nul] <+: s.map fold := by
  induction text generalizing s with
  | nil =>
      cases s with
      | nil => simp
      | cons a s =>
          rw [length_cons, nil_append, map_cons]
          by_cases h : fold a = fold last
          · rw [strncmp_terminator h hlast]
            simp [h, hlast]
          · obtain ⟨o, ho, heq⟩ := @strncmp_different _ _ _ nul fold _ a last s [] s.length h
            rw [heq]
            simp [ho, ← hlast, Ne.symm h]
  | cons b text ih =>
      cases s with
      | nil => simp
      | cons a s =>
          rw [length_cons, map_cons, map_cons, cons_append, cons_append,
            cons_prefix_cons, cons_prefix_cons]
          by_cases h : fold a = fold b
          · rw [strncmp_same h (hnul b mem_cons_self),
              ih fun c hc => hnul c (mem_cons_of_mem b hc)]
            simp [h]
          · obtain ⟨o, ho, heq⟩ :=
              @strncmp_different _ _ _ nul fold _ a b s (text ++ [last]) s.length h
            rw [heq]
            simp [h, ho, Ne.symm h]

/-- Against a terminated text nothing behind the string is read. -/
theorem strncmp_text_isSome {s text : List α} {last : α} (hlast : fold last = nul) :
    (strncmp nul fold s (text ++ [last]) s.length).isSome := by
  induction s generalizing text with
  | nil => simp
  | cons a s ih =>
      cases text with
      | nil =>
          rw [length_cons, nil_append]
          by_cases h : fold a = fold last
          · rw [strncmp_terminator h hlast]
            rfl
          · obtain ⟨o, -, heq⟩ := @strncmp_different _ _ _ nul fold _ a last s [] s.length h
            rw [heq]
            rfl
      | cons b text =>
          rw [length_cons, cons_append]
          by_cases h : fold a = fold b
          · by_cases hnul : fold b = nul
            · rw [strncmp_terminator h hnul]
              rfl
            · rw [strncmp_same h hnul]
              exact ih
          · obtain ⟨o, -, heq⟩ :=
              @strncmp_different _ _ _ nul fold _ a b s (text ++ [last]) s.length h
            rw [heq]
            rfl

end

end Support
