import Mathlib.Tactic.Common

/-!
# Scanning hexadecimal digits

`sscanf` with formats made of `%02hhx`, characters that stand for themselves, and `%c`. A
conversion `%02hhx` skips white space and takes at most two characters, one of which may be a
sign; the characters that it takes are the longest ones that a hexadecimal number can begin
with, so that the prefix of such a number alone is a failure.
-/

namespace Support.Scanf

open List

/-- The white space of `isspace`. -/
def isSpace (ch : Char) : Bool := decide (ch.toNat = 32 ∨ 9 ≤ ch.toNat ∧ ch.toNat ≤ 13)

def hexValue (ch : Char) : Option Nat :=
  if 48 ≤ ch.toNat ∧ ch.toNat ≤ 57 then some (ch.toNat - 48)
  else if 97 ≤ ch.toNat ∧ ch.toNat ≤ 102 then some (ch.toNat - 87)
  else if 65 ≤ ch.toNat ∧ ch.toNat ≤ 70 then some (ch.toNat - 55)
  else none

/-- `%02hhx`, with what is left of the input. -/
def scanPair (input : List Char) : Option (UInt8 × List Char) :=
  match input.dropWhile isSpace with
  | [] => none
  | [a] => (hexValue a).map fun high => (UInt8.ofNat high, [])
  | a :: b :: rest =>
      if a = '+' then (hexValue b).map fun low => (UInt8.ofNat low, rest)
      else if a = '-' then (hexValue b).map fun low => (-UInt8.ofNat low, rest)
      else if a = '0' ∧ (b = 'x' ∨ b = 'X') then none
      else
        match hexValue a, hexValue b with
        | none, _ => none
        | some high, none => some (UInt8.ofNat high, b :: rest)
        | some high, some low => some (UInt8.ofNat (16 * high + low), rest)

inductive Directive
  | pair
  | literal (ch : Char)
  | char
  deriving DecidableEq

/-- What the conversions have stored: the pairs, and the character of `%c`. -/
structure Scan where
  pairs : List UInt8
  trailing : Option Char
  deriving DecidableEq

/-- The number of conversions. At the end of the input it is zero here where `sscanf` returns
`EOF`. -/
def Scan.count (scan : Scan) : Nat := scan.pairs.length + scan.trailing.toList.length

def Scan.stored (scan : Scan) (pair : UInt8) : Scan := { scan with pairs := pair :: scan.pairs }

/-- `sscanf` of a format in which `%c` comes last. -/
def sscanf : List Directive → List Char → Scan
  | [], _ => ⟨[], none⟩
  | .pair :: format, input =>
      match scanPair input with
      | none => ⟨[], none⟩
      | some (pair, rest) => (sscanf format rest).stored pair
  | .literal ch :: format, input =>
      match input with
      | [] => ⟨[], none⟩
      | ch' :: rest => if ch' = ch then sscanf format rest else ⟨[], none⟩
  | .char :: _, input => ⟨[], input.head?⟩

/-! ## Two digits -/

/-- What a digit is not. -/
theorem hexValue_other {ch : Char} {n : Nat} (h : hexValue ch = some n) :
    isSpace ch = false ∧ ch ≠ '+' ∧ ch ≠ '-' ∧ ch ≠ 'x' ∧ ch ≠ 'X' := by
  have hrange : 48 ≤ ch.toNat ∧ ch.toNat ≤ 57 ∨ 97 ≤ ch.toNat ∧ ch.toNat ≤ 102 ∨
      65 ≤ ch.toNat ∧ ch.toNat ≤ 70 := by
    unfold hexValue at h
    split at h
    · next hdigit => exact .inl hdigit
    · split at h
      · next hlower => exact .inr (.inl hlower)
      · split at h
        · next hupper => exact .inr (.inr hupper)
        · cases h
  refine ⟨decide_eq_false (by omega), ?_, ?_, ?_, ?_⟩
  all_goals
    rintro rfl
    revert hrange
    decide

theorem hexValue_null {ch : Char} {n : Nat} (h : hexValue ch = some n) : ch ≠ '\x00' := by
  rintro rfl
  revert h
  exact nofun

/-- The bytes that a text of digits stands for. -/
def hexPairs : List Char → Option (List UInt8)
  | [] => some []
  | [_] => none
  | a :: b :: rest =>
      match hexValue a, hexValue b, hexPairs rest with
      | some high, some low, some bytes => some (UInt8.ofNat (16 * high + low) :: bytes)
      | _, _, _ => none

theorem scanPair_digits {a b : Char} {high low : Nat} (ha : hexValue a = some high)
    (hb : hexValue b = some low) (rest : List Char) :
    scanPair (a :: b :: rest) = some (UInt8.ofNat (16 * high + low), rest) := by
  obtain ⟨hspace, hplus, hminus, -, -⟩ := hexValue_other ha
  obtain ⟨-, -, -, hx, hX⟩ := hexValue_other hb
  unfold scanPair
  rw [dropWhile_cons_of_neg (by rw [hspace]; exact Bool.false_ne_true)]
  dsimp only
  rw [if_neg hplus, if_neg hminus, if_neg (fun h => h.2.elim hx hX), ha, hb]

theorem sscanf_pair {input rest : List Char} {pair : UInt8}
    (h : scanPair input = some (pair, rest)) (format : List Directive) :
    sscanf (.pair :: format) input = (sscanf format rest).stored pair := by
  conv_lhs => unfold sscanf
  rw [h]

theorem sscanf_literal (ch ch' : Char) (format : List Directive) (rest : List Char) :
    sscanf (.literal ch :: format) (ch' :: rest) =
      if ch' = ch then sscanf format rest else ⟨[], none⟩ := rfl

variable {text : List Char} {bytes : List UInt8}

/-- The pairs of a text of digits are read one after the other. -/
theorem sscanf_pairs (h : hexPairs text = some bytes) (format : List Directive) (rest : List Char) :
    sscanf (replicate bytes.length .pair ++ format) (text ++ rest) =
      ⟨bytes ++ (sscanf format rest).pairs, (sscanf format rest).trailing⟩ := by
  induction text using hexPairs.induct generalizing bytes with
  | case1 =>
      obtain rfl := Option.some.inj h
      rfl
  | case2 ch => cases h
  | case3 a b text high low bytes' htext hb ha ih =>
      unfold hexPairs at h
      rw [ha, hb, htext] at h
      obtain rfl := Option.some.inj h
      have hpair := scanPair_digits ha hb (text ++ rest)
      change sscanf (.pair :: (replicate bytes'.length .pair ++ format))
        (a :: b :: (text ++ rest)) = _
      rw [sscanf_pair hpair, ih htext]
      rfl
  | case4 a b text hnone ih =>
      unfold hexPairs at h
      split at h
      · next high low bytes' ha hb htext => exact absurd htext (hnone high low bytes' ha hb)
      · cases h

theorem hexPairs_length (h : hexPairs text = some bytes) : text.length = 2 * bytes.length := by
  induction text using hexPairs.induct generalizing bytes with
  | case1 =>
      obtain rfl := Option.some.inj h
      rfl
  | case2 ch => cases h
  | case3 a b text high low bytes' htext hb ha ih =>
      unfold hexPairs at h
      rw [ha, hb, htext] at h
      obtain rfl := Option.some.inj h
      have := ih htext
      simp only [length_cons]
      omega
  | case4 a b text hnone ih =>
      unfold hexPairs at h
      split at h
      · next high low bytes' ha hb htext => exact absurd htext (hnone high low bytes' ha hb)
      · cases h

/-- Text of digits has no null character in it. -/
theorem hexPairs_null (h : hexPairs text = some bytes) : ∀ ch ∈ text, ch ≠ '\x00' := by
  induction text using hexPairs.induct generalizing bytes with
  | case1 => exact fun ch hch => absurd hch not_mem_nil
  | case2 ch => cases h
  | case3 a b text high low bytes' htext hb ha ih =>
      intro ch hch
      rcases mem_cons.1 hch with rfl | hch
      · exact hexValue_null ha
      · rcases mem_cons.1 hch with rfl | hch
        · exact hexValue_null hb
        · exact ih htext ch hch
  | case4 a b text hnone ih =>
      unfold hexPairs at h
      split at h
      · next high low bytes' ha hb htext => exact absurd htext (hnone high low bytes' ha hb)
      · cases h

theorem hexPairs_digit (h : hexPairs text = some bytes) (hne : bytes ≠ []) :
    ∃ ch rest n, text = ch :: rest ∧ hexValue ch = some n := by
  cases text with
  | nil =>
      obtain rfl := Option.some.inj h
      exact absurd rfl hne
  | cons a text =>
      cases text with
      | nil => cases h
      | cons b text =>
          unfold hexPairs at h
          split at h
          · next high low bytes' ha hb htext => exact ⟨a, b :: text, high, rfl, ha⟩
          · cases h

/-! ## Every conversion of a format -/

/-- The pairs that a format asks for. -/
def asked (format : List Directive) : Nat := format.count .pair

/-- The character is read once every pair is stored. -/
theorem sscanf_char {format : List Directive} (hchar : .char ∉ format) (input : List Char) :
    (sscanf (format ++ [.char]) input).pairs.length ≤ asked format ∧
      ((sscanf (format ++ [.char]) input).trailing.isSome →
        (sscanf (format ++ [.char]) input).pairs.length = asked format) := by
  induction format generalizing input with
  | nil => exact ⟨Nat.le_refl 0, fun _ => rfl⟩
  | cons directive format ih =>
      have hchar' : .char ∉ format := fun h => hchar (mem_cons_of_mem directive h)
      cases directive with
      | pair =>
          have hasked : asked (.pair :: format) = asked format + 1 := count_cons_self
          rw [hasked, cons_append]
          cases hpair : scanPair input with
          | none =>
              have hnone : sscanf (.pair :: (format ++ [.char])) input = ⟨[], none⟩ := by
                unfold sscanf
                rw [hpair]
              rw [hnone]
              exact ⟨Nat.zero_le _, nofun⟩
          | some read =>
              obtain ⟨hle, heq⟩ := ih hchar' read.2
              rw [sscanf_pair hpair]
              exact ⟨Nat.succ_le_succ hle, fun h => congrArg (· + 1) (heq h)⟩
      | literal ch =>
          have hasked : asked (.literal ch :: format) = asked format := by simp [asked]
          rw [hasked, cons_append]
          cases input with
          | nil => exact ⟨Nat.zero_le _, nofun⟩
          | cons ch' rest =>
              rw [sscanf_literal]
              split
              · exact ih hchar' rest
              · exact ⟨Nat.zero_le _, nofun⟩
      | char => exact absurd mem_cons_self hchar

/-- As many conversions as there are pairs store the pairs and no character. -/
theorem sscanf_count {format : List Directive} (hchar : .char ∉ format) (input : List Char) :
    (sscanf (format ++ [.char]) input).count = asked format ↔
      (sscanf (format ++ [.char]) input).pairs.length = asked format ∧
        (sscanf (format ++ [.char]) input).trailing = none := by
  have heq := (sscanf_char hchar input).2
  unfold Scan.count
  cases htrailing : (sscanf (format ++ [.char]) input).trailing with
  | none => simp
  | some ch =>
      have := heq (by rw [htrailing]; rfl)
      simp only [Option.toList_some, length_singleton, reduceCtorEq, and_false, iff_false]
      omega

/-! ## Printing -/

/-- A digit of `%x`. -/
def hexDigit (n : Nat) : Char := if n < 10 then Char.ofNat (48 + n) else Char.ofNat (87 + n)

/-- `%02x` of a byte. -/
def printPair (byte : UInt8) : List Char :=
  [hexDigit (byte.toNat / 16), hexDigit (byte.toNat % 16)]

theorem hexValue_hexDigit {n : Nat} (hlt : n < 16) : hexValue (hexDigit n) = some n := by
  have hall : ∀ n : Fin 16, hexValue (hexDigit n) = some n := by decide
  exact hall ⟨n, hlt⟩

theorem hexPairs_printPair (bytes : List UInt8) :
    hexPairs (bytes.flatMap printPair) = some bytes := by
  induction bytes with
  | nil => rfl
  | cons byte bytes ih =>
      have hlt : byte.toNat < 256 := byte.toNat_lt
      have hhigh := hexValue_hexDigit (show byte.toNat / 16 < 16 by omega)
      have hlow := hexValue_hexDigit (show byte.toNat % 16 < 16 by omega)
      rw [flatMap_cons]
      change hexPairs (_ :: _ :: bytes.flatMap printPair) = _
      unfold hexPairs
      rw [hhigh, hlow, ih]
      dsimp only
      rw [Nat.div_add_mod, UInt8.ofNat_toNat]

end Support.Scanf
