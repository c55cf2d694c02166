import BtPlatform.Unicode.Compared
import Mathlib.Order.Bounds.Basic

/-!
# Searches in encoded strings

A search turns once for every value that the readers make of the text. An ASCII
string does not stand at a misread character, nor at the byte that is left of
it, so the turns that find it are those at the characters where it stands.
-/

namespace Unicode

open Support List

/-- The offsets at which a pattern stands in a text whose first byte has the
offset `pos`. -/
def matchesFrom (e : Encoding) (pattern : List Nat) (pos : Nat) (text : List Char) : Set Nat :=
  {off | ∃ before after, text = before ++ after ∧ off = pos + (encode e before).length ∧
    pattern <+: codePoints after}

/-- The answer of a search among some offsets: the first or the last one, or `-1`. -/
def IsAnswer (last : Bool) (offsets : Set Nat) (none r : Int) : Prop :=
  offsets = ∅ ∧ r = none ∨
    ∃ off : Nat, r = off ∧ if last then IsGreatest offsets off else IsLeast offsets off

section Matches

variable {e : Encoding} {pattern : List Nat} {pos off : Nat} {c : Char} {text : List Char}

theorem mem_matchesFrom_cons :
    off ∈ matchesFrom e pattern pos (c :: text) ↔
      off = pos ∧ pattern <+: codePoints (c :: text) ∨
        off ∈ matchesFrom e pattern (pos + (encodeChar e c).length) text := by
  constructor
  · rintro ⟨before, after, htext, hoff, hmatch⟩
    cases before with
    | nil =>
        rw [nil_append] at htext
        exact .inl ⟨hoff, htext ▸ hmatch⟩
    | cons c' before =>
        obtain ⟨rfl, rfl⟩ := List.cons.inj htext
        refine .inr ⟨before, after, rfl, ?_, hmatch⟩
        rw [hoff, encode, flatMap_cons, length_append, Nat.add_assoc]
        rfl
  · rintro (⟨hoff, hmatch⟩ | ⟨before, after, htext, hoff, hmatch⟩)
    · exact ⟨[], c :: text, rfl, hoff, hmatch⟩
    · refine ⟨c :: before, after, by rw [htext]; rfl, ?_, hmatch⟩
      rw [hoff, encode, encode, flatMap_cons, length_append, Nat.add_assoc]

theorem le_of_mem_matchesFrom (h : off ∈ matchesFrom e pattern pos text) : pos ≤ off := by
  obtain ⟨before, after, -, rfl, -⟩ := h
  exact Nat.le_add_right _ _

theorem matchesFrom_nil (h : pattern ≠ []) : matchesFrom e pattern pos [] = ∅ := by
  apply Set.eq_empty_iff_forall_notMem.2
  rintro off ⟨before, after, htext, -, hmatch⟩
  rw [(append_eq_nil_iff.1 htext.symm).2] at hmatch
  exact h (prefix_nil.1 hmatch)

/-- Where the pattern does not stand, the answer is that of the text behind. -/
theorem IsAnswer.pass {last : Bool} {none r : Int} (hmiss : ¬ pattern <+: codePoints (c :: text))
    (h : IsAnswer last (matchesFrom e pattern (pos + (encodeChar e c).length) text) none r) :
    IsAnswer last (matchesFrom e pattern pos (c :: text)) none r := by
  have hsame : matchesFrom e pattern pos (c :: text) =
      matchesFrom e pattern (pos + (encodeChar e c).length) text := by
    apply Set.ext
    intro off
    rw [mem_matchesFrom_cons]
    exact or_iff_right fun h => hmiss h.2
  rwa [hsame]

/-- The first match is the one at the beginning. -/
theorem IsAnswer.first {none : Int} (hhit : pattern <+: codePoints (c :: text)) :
    IsAnswer false (matchesFrom e pattern pos (c :: text)) none pos := by
  refine .inr ⟨pos, rfl, ?_⟩
  exact ⟨mem_matchesFrom_cons.2 (.inl ⟨rfl, hhit⟩), fun off h => le_of_mem_matchesFrom h⟩

/-- The last match is the one at the beginning unless there is one behind. -/
theorem IsAnswer.last {none r : Int} (hhit : pattern <+: codePoints (c :: text))
    (h : IsAnswer true (matchesFrom e pattern (pos + (encodeChar e c).length) text) pos r) :
    IsAnswer true (matchesFrom e pattern pos (c :: text)) none r := by
  obtain ⟨hempty, rfl⟩ | ⟨off, rfl, hoff, hmax⟩ := h
  · refine .inr ⟨pos, rfl, mem_matchesFrom_cons.2 (.inl ⟨rfl, hhit⟩), ?_⟩
    intro off' h'
    obtain ⟨rfl, -⟩ | h' := mem_matchesFrom_cons.1 h'
    · exact le_rfl
    · rw [hempty] at h'
      exact absurd h' (Set.notMem_empty _)
  · refine .inr ⟨off, rfl, mem_matchesFrom_cons.2 (.inr hoff), ?_⟩
    intro off' h'
    obtain ⟨rfl, -⟩ | h' := mem_matchesFrom_cons.1 h'
    · exact Nat.le_trans (Nat.le_add_right _ _) (le_of_mem_matchesFrom hoff)
    · exact hmax h'

end Matches

section Loop

variable {e : Encoding} {rs : List (Nat × List UInt8)} {bs : ByteStream} {s2 : List UInt8}
variable {last : Bool} {ch fuel : Nat} {result : Int}

theorem matchHere_eq (h : Streams e rs bs) :
    ∃ hit ch' n, matchHere e s2 ch bs = .ok (hit, ch', bs.advance n) ∧
      (hit = true ↔ points s2 <+: values rs) := by
  induction s2 generalizing rs bs ch with
  | nil => exact ⟨true, ch, 0, rfl, by simp [points]⟩
  | cons c s2 ih =>
      rw [matchHere]
      cases rs with
      | nil => exact ⟨false, ch, 0, by simp [h.avail_nil], by simp [points, values]⟩
      | cons r rs =>
          have hread : getCharChecked e ch bs = .ok (r.1, bs.advance r.2.length) :=
            h.read flagError ch
          rw [if_neg h.avail_cons, hread, ok_bind]
          dsimp only
          by_cases hc : r.1 = c.toNat
          · obtain ⟨hit, ch', n, hrest, hhit⟩ := ih h.next
            refine ⟨hit, ch', r.2.length + n, ?_, ?_⟩
            · rw [if_neg (not_not.2 hc), hrest, ByteStream.advance_advance]
            · rw [hhit]
              simp [points, values, hc]
          · refine ⟨false, r.1, r.2.length, by rw [if_pos hc]; rfl, ?_⟩
            simp [points, values, Ne.symm hc]

theorem setPos_advance (h : bs.Readable) (n : Nat) : (bs.advance n).setPos bs.pos = .ok bs :=
  if_pos h.pos_le

/-- One turn of a search. -/
theorem searchLoop_cons {r : Nat × List UInt8} (h : Streams e (r :: rs) bs) :
    ∃ ch', searchLoop last e s2 (fuel + 1) ch result bs =
      if points s2 <+: values (r :: rs) ∧ last = false then .ok bs.pos
      else searchLoop last e s2 fuel ch'
        (if points s2 <+: values (r :: rs) then bs.pos else result)
        (bs.advance r.2.length) := by
  obtain ⟨hit, ch', n, hmatch, hhit⟩ := matchHere_eq h
  have hread : getCharChecked e 0 bs = .ok (r.1, bs.advance r.2.length) := h.read flagError 0
  have hgo : ¬ (bs.error = true ∨ bs.numReadBytesAvail = 0) := by
    simp [h.readable.noError, h.avail_cons]
  refine ⟨ch', ?_⟩
  rw [searchLoop, if_neg hgo, hmatch, ok_bind]
  dsimp only
  rw [setPos_advance h.readable, ok_bind, hread, ok_bind]
  simp only [hhit, Bool.not_eq_true]
  rfl

/-- A turn at a value that is not ASCII. -/
theorem searchLoop_miss {r : Nat × List UInt8} (hs2 : s2 ≠ [])
    (hascii : ∀ x ∈ points s2, x < 0x80) (hr : 0x80 ≤ r.1) (h : Streams e (r :: rs) bs) :
    ∃ ch', searchLoop last e s2 (fuel + 1) ch result bs =
      searchLoop last e s2 fuel ch' result (bs.advance r.2.length) := by
  obtain ⟨c, s2, rfl⟩ := exists_cons_of_ne_nil hs2
  obtain ⟨ch', hturn⟩ := searchLoop_cons h
  have hmiss : ¬ points (c :: s2) <+: values (r :: rs) := by
    have hc := hascii c.toNat mem_cons_self
    intro hprefix
    have := (cons_prefix_cons.1 hprefix).1
    omega
  exact ⟨ch', by rw [hturn, if_neg fun hit => hmiss hit.1, if_neg hmiss]⟩

theorem readings_cases (e : Encoding) (c : Char) :
    readings e c = [(c.toNat, encodeChar e c)] ∨
      ∃ r1 r2, readings e c = [r1, r2] ∧ 0x80 ≤ r1.1 ∧ 0x80 ≤ r2.1 ∧ 0x80 ≤ c.toNat := by
  unfold readings
  split
  · exact .inl rfl
  · next base hbase =>
      split at hbase
      · have := cutBase_some hbase
        exact .inr ⟨_, _, rfl, by dsimp only; omega, Nat.le_add_right _ _, by omega⟩
      · exact absurd hbase (by simp)

/-- The turns of a search over one character. -/
theorem searchLoop_char {c : Char} {text : List Char} (hs2 : s2 ≠ [])
    (hascii : ∀ x ∈ points s2, x < 0x80) (h : Streams e (readAll e (c :: text)) bs)
    (hfuel : (readAll e (c :: text)).length < fuel) :
    ∃ ch' fuel', (readAll e text).length < fuel' ∧
      Streams e (readAll e text) (bs.advance (encodeChar e c).length) ∧
      searchLoop last e s2 fuel ch result bs =
        if points s2 <+: codePoints (c :: text) ∧ last = false then .ok bs.pos
        else searchLoop last e s2 fuel' ch'
          (if points s2 <+: codePoints (c :: text) then bs.pos else result)
          (bs.advance (encodeChar e c).length) := by
  have hview : points s2 <+: values (readAll e (c :: text)) ↔
      points s2 <+: codePoints (c :: text) := by
    rw [← prefix_asciiView hascii, asciiView_values, prefix_asciiView hascii]
  have hbytes := readings_bytes e c
  rw [readAll_cons] at h hfuel hview
  obtain _ | fuel := fuel
  · omega
  obtain hone | ⟨r1, r2, htwo, h1, h2, hc⟩ := readings_cases e c
  · rw [hone] at h hfuel hview
    obtain ⟨ch', hturn⟩ := searchLoop_cons h
    refine ⟨ch', fuel, by simpa using hfuel, h.next, ?_⟩
    rw [hturn]
    simp only [← hview]
    rfl
  · rw [htwo] at h hfuel hbytes
    have hmiss : ¬ points s2 <+: codePoints (c :: text) := by
      obtain ⟨x, s2, rfl⟩ := exists_cons_of_ne_nil hs2
      have hx := hascii x.toNat mem_cons_self
      intro hprefix
      have := (cons_prefix_cons.1 hprefix).1
      omega
    have hlength : r1.2.length + r2.2.length = (encodeChar e c).length := by
      rw [← hbytes]
      simp
    obtain _ | fuel := fuel
    · simp at hfuel
    obtain ⟨ch1, hturn1⟩ := searchLoop_miss hs2 hascii h1 h
    obtain ⟨ch2, hturn2⟩ := searchLoop_miss hs2 hascii h2 h.next
    have hnext := h.next.next
    rw [ByteStream.advance_advance, hlength] at hturn2 hnext
    refine ⟨ch2, fuel, by simpa using hfuel, hnext, ?_⟩
    rw [hturn1, hturn2, if_neg fun hit => hmiss hit.1, if_neg hmiss]

/-- A search answers with the offsets at which the pattern stands. -/
theorem searchLoop_spec {text : List Char} (hs2 : s2 ≠ []) (hascii : ∀ x ∈ points s2, x < 0x80)
    (h : Streams e (readAll e text) bs) (hfuel : (readAll e text).length < fuel) :
    ∃ r, searchLoop last e s2 fuel ch result bs = .ok r ∧
      IsAnswer last (matchesFrom e (points s2) bs.pos text) result r := by
  induction text generalizing bs fuel ch result with
  | nil =>
      have hne : points s2 ≠ [] := by simpa [points] using hs2
      obtain _ | fuel := fuel
      · omega
      refine ⟨result, by rw [searchLoop, if_pos (.inr h.avail_nil)], .inl ⟨?_, rfl⟩⟩
      exact matchesFrom_nil hne
  | cons c text ih =>
      obtain ⟨ch', fuel', hfuel', hnext, hturns⟩ := searchLoop_char hs2 hascii h hfuel
      rw [hturns]
      by_cases hhit : points s2 <+: codePoints (c :: text)
      · rw [if_pos hhit]
        cases last with
        | false => exact ⟨bs.pos, if_pos ⟨hhit, rfl⟩, IsAnswer.first hhit⟩
        | true =>
            obtain ⟨r, hr, hanswer⟩ := ih hnext hfuel'
            exact ⟨r, by rw [if_neg (by simp), hr], IsAnswer.last hhit hanswer⟩
      · obtain ⟨r, hr, hanswer⟩ := ih hnext hfuel'
        refine ⟨r, ?_, hanswer.pass hhit⟩
        rw [if_neg fun hit => hhit hit.1, if_neg hhit, hr]

end Loop

end Unicode
