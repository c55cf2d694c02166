import BtPlatform.Pbap.Params.Record

/-!
# The server: reading parameters to the end

The checked reads of `ParseAppParams` raise an error flag where bytes are missing, and go
on. The flag stays up, every round reads at least the tag, and behind the loop the flag is
an error.
-/

namespace Support.ByteStream

/-- A stream open for reading whose bounds fit its buffer, with an error or without. -/
structure Bounded (bs : ByteStream) : Prop where
  reading : bs.rwFlag = .read
  pos_le : bs.pos ≤ bs.size
  size_le : bs.size ≤ bs.bsdata.length

/-- The stream after some reads. -/
structure Follows (bs bs' : ByteStream) : Prop where
  bounded : bs'.Bounded
  pos_le : bs.pos ≤ bs'.pos
  size_eq : bs'.size = bs.size
  error : bs.error = true → bs'.error = true

theorem Readable.bounded {bs : ByteStream} (h : bs.Readable) : bs.Bounded :=
  ⟨h.reading, h.pos_le, h.size_le⟩

namespace Bounded

variable {bs : ByteStream}

theorem refl (h : bs.Bounded) : bs.Follows bs := ⟨h, Nat.le_refl _, rfl, fun he => he⟩

theorem setError (h : bs.Bounded) : bs.Follows bs.setError :=
  ⟨⟨h.reading, h.pos_le, h.size_le⟩, Nat.le_refl _, rfl, fun _ => rfl⟩

theorem advance (h : bs.Bounded) {n : Nat} (hn : bs.pos + n ≤ bs.size) :
    bs.Follows (bs.advance n) :=
  ⟨⟨h.reading, hn, h.size_le⟩, Nat.le_add_right _ _, rfl, fun he => he⟩

theorem peek (h : bs.Bounded) {off : Nat} (hoff : off < bs.size) : ∃ b, bs.peek off = .ok b := by
  have hin : off < bs.bsdata.length := Nat.lt_of_lt_of_le hoff h.size_le
  refine ⟨bs.bsdata[off], ?_⟩
  unfold ByteStream.peek
  rw [List.getElem?_eq_getElem hin]

theorem skipChecked (h : bs.Bounded) (n : Nat) : bs.Follows (bs.skipChecked n) := by
  unfold ByteStream.skipChecked
  split
  · next hroom => exact h.advance hroom
  · exact h.setError

theorem getUINT8Checked (h : bs.Bounded) (i : UInt8) :
    ∃ b bs', bs.getUINT8Checked i = .ok (b, bs') ∧ bs.Follows bs' ∧
      (bs.pos < bs.size → bs'.pos = bs.pos + 1) := by
  unfold ByteStream.getUINT8Checked
  rw [if_pos h.reading]
  by_cases hroom : bs.pos + 1 ≤ bs.size
  · obtain ⟨b, hb⟩ := h.peek hroom
    rw [if_pos hroom, hb, ok_bind]
    exact ⟨b, _, rfl, h.advance hroom, fun _ => rfl⟩
  · rw [if_neg hroom]
    exact ⟨i, _, rfl, h.setError, fun hlt => absurd hlt hroom⟩

theorem getUINT16Checked (h : bs.Bounded) (i : Nat) :
    ∃ n bs', bs.getUINT16Checked i = .ok (n, bs') ∧ bs.Follows bs' := by
  unfold ByteStream.getUINT16Checked
  rw [if_pos h.reading]
  by_cases hroom : bs.pos + 2 ≤ bs.size
  · obtain ⟨hi, hhi⟩ := h.peek (by omega : bs.pos < bs.size)
    obtain ⟨lo, hlo⟩ := h.peek (by omega : bs.pos + 1 < bs.size)
    rw [if_pos hroom, hhi, ok_bind, hlo, ok_bind]
    exact ⟨_, _, rfl, h.advance hroom⟩
  · rw [if_neg hroom]
    exact ⟨i, _, rfl, h.setError⟩

theorem getUINT32Checked (h : bs.Bounded) (i : Nat) :
    ∃ n bs', bs.getUINT32Checked i = .ok (n, bs') ∧ bs.Follows bs' := by
  unfold ByteStream.getUINT32Checked
  rw [if_pos h.reading]
  by_cases hroom : bs.pos + 4 ≤ bs.size
  · obtain ⟨b3, h3⟩ := h.peek (by omega : bs.pos < bs.size)
    obtain ⟨b2, h2⟩ := h.peek (by omega : bs.pos + 1 < bs.size)
    obtain ⟨b1, h1⟩ := h.peek (by omega : bs.pos + 2 < bs.size)
    obtain ⟨b0, h0⟩ := h.peek (by omega : bs.pos + 3 < bs.size)
    rw [if_pos hroom, h3, ok_bind, h2, ok_bind, h1, ok_bind, h0, ok_bind]
    exact ⟨_, _, rfl, h.advance hroom⟩
  · rw [if_neg hroom]
    exact ⟨i, _, rfl, h.setError⟩

theorem getBytesChecked (h : bs.Bounded) (bytes : List UInt8) (n : Nat) :
    ∃ value bs', bs.getBytesChecked bytes n = .ok (value, bs') ∧ bs.Follows bs' := by
  have hsize := h.size_le
  unfold ByteStream.getBytesChecked
  rw [if_pos h.reading]
  by_cases hroom : bs.pos + n ≤ bs.size
  · rw [if_pos hroom, if_pos (by omega)]
    exact ⟨_, _, rfl, h.advance hroom⟩
  · rw [if_neg hroom]
    exact ⟨bytes, _, rfl, h.setError⟩

end Bounded

theorem Follows.trans {bs bs' bs'' : ByteStream} (h : bs.Follows bs') (h' : bs'.Follows bs'') :
    bs.Follows bs'' :=
  ⟨h'.bounded, Nat.le_trans h.pos_le h'.pos_le, h'.size_eq.trans h.size_eq,
    fun he => h'.error (h.error he)⟩

end Support.ByteStream

namespace Pbap.PbapServer

open Support

/-- A case of the switch that comes to an end. -/
def Ends (x : Except Fault (Status × Parsing)) (p : Parsing) : Prop :=
  ∃ status p', x = .ok (status, p') ∧ p.bs.Follows p'.bs

variable {p : Parsing}

theorem parseParam_ends (hp : p.bs.Bounded) (size : Option Nat) (set : ServerParams → Bool)
    {parse : Parsing → Except Fault (Status × Parsing)} (hparse : Ends (parse p) p) :
    Ends (parseParam size set parse p) p := by
  unfold parseParam
  split
  · exact ⟨_, _, rfl, hp.refl⟩
  · split
    · exact ⟨_, _, rfl, hp.skipChecked _⟩
    · exact hparse

theorem parseByte_ends (hp : p.bs.Bounded) (tag : UInt8) (values : List UInt8)
    (store : UInt8 → Bool → ServerParams → ServerParams) :
      Ends (parseByte tag values store p) p := by
  obtain ⟨b, bs', hget, hfollows, -⟩ := hp.getUINT8Checked tag
  unfold parseByte
  rw [hget, ok_bind]
  dsimp only
  split
  · exact ⟨_, _, rfl, hfollows⟩
  · exact ⟨_, _, rfl, hfollows⟩

theorem parseSearchValue_ends (hp : p.bs.Bounded) : Ends (parseSearchValue p) p := by
  unfold parseSearchValue
  dsimp only
  split
  · obtain ⟨value, bs', hget, hfollows⟩ := hp.getBytesChecked [] p.len.toNat
    rw [hget, ok_bind]
    exact ⟨_, _, rfl, hfollows⟩
  · exact ⟨_, _, rfl, hp.refl⟩

theorem parseSearchAttribute_ends (hp : p.bs.Bounded) : Ends (parseSearchAttribute p) p := by
  obtain ⟨b, bs', hget, hfollows, -⟩ := hp.getUINT8Checked 0
  unfold parseSearchAttribute
  rw [hget, ok_bind]
  exact ⟨_, _, rfl, hfollows⟩

theorem parseMaxListCount_ends (hp : p.bs.Bounded) : Ends (parseMaxListCount p) p := by
  obtain ⟨n, bs', hget, hfollows⟩ := hp.getUINT16Checked p.params.maxListCount.toNat
  unfold parseMaxListCount
  rw [hget, ok_bind]
  exact ⟨_, _, rfl, hfollows⟩

theorem parseListStartOffset_ends (hp : p.bs.Bounded) : Ends (parseListStartOffset p) p := by
  obtain ⟨n, bs', hget, hfollows⟩ := hp.getUINT16Checked p.params.listStartOffset.toNat
  unfold parseListStartOffset
  rw [hget, ok_bind]
  exact ⟨_, _, rfl, hfollows⟩

theorem parseFilter_ends (hp : p.bs.Bounded) : Ends (parseFilter p) p := by
  obtain ⟨n, bs₁, hget₁, hfollows₁⟩ := hp.getUINT32Checked p.params.filter.1.toNat
  obtain ⟨m, bs₂, hget₂, hfollows₂⟩ :=
    hfollows₁.bounded.getUINT32Checked p.params.filter.2.toNat
  unfold parseFilter
  rw [hget₁, ok_bind]
  dsimp only
  rw [hget₂, ok_bind]
  exact ⟨_, _, rfl, hfollows₁.trans hfollows₂⟩

theorem parseTag_ends (hp : p.bs.Bounded) (tag : UInt8) : Ends (parseTag tag p) p := by
  unfold parseTag
  split
  · exact parseParam_ends hp _ _ (parseByte_ends hp _ _ _)
  · split
    · exact parseParam_ends hp _ _ (parseSearchValue_ends hp)
    · split
      · exact parseParam_ends hp _ _ (parseSearchAttribute_ends hp)
      · split
        · exact parseParam_ends hp _ _ (parseMaxListCount_ends hp)
        · split
          · exact parseParam_ends hp _ _ (parseListStartOffset_ends hp)
          · split
            · exact parseParam_ends hp _ _ (parseFilter_ends hp)
            · split
              · exact parseParam_ends hp _ _ (parseByte_ends hp _ _ _)
              · exact ⟨_, _, rfl, hp.refl⟩

/-- The loop fails. -/
def Fails (x : Except Fault (Status × Parsing)) : Prop :=
  ∃ status p', x = .ok (status, p') ∧ status ≠ .ok

/-- Once the error flag is up, the loop fails. -/
theorem parseTags_error {fuel : Nat} (hp : p.bs.Bounded) (herror : p.bs.error = true)
    (hfuel : p.bs.numReadBytesAvail < fuel) : Fails (parseTags fuel p) := by
  induction fuel generalizing p with
  | zero => exact absurd hfuel (Nat.not_lt_zero _)
  | succ fuel ih =>
      unfold parseTags
      by_cases havail : p.bs.numReadBytesAvail > 0
      · rw [if_pos havail]
        obtain ⟨tag, bs₁, htag, hfollows₁, hpos₁⟩ := hp.getUINT8Checked 0
        obtain ⟨len, bs₂, hlen, hfollows₂, -⟩ := hfollows₁.bounded.getUINT8Checked p.len
        have hfollows := hfollows₁.trans hfollows₂
        obtain ⟨status, p', hparse, hfollows'⟩ :=
          @parseTag_ends { p with bs := bs₂, len := len } hfollows.bounded tag
        rw [htag, ok_bind]
        dsimp only
        rw [hlen, ok_bind]
        dsimp only
        rw [hparse, ok_bind]
        dsimp only
        have hall := hfollows.trans hfollows'
        split
        · apply ih hall.bounded (hall.error herror)
          have hstep := hpos₁ (by unfold ByteStream.numReadBytesAvail at havail; omega)
          have hle := hfollows₂.pos_le
          have hle' := hfollows'.pos_le
          have hsize := hall.size_eq
          dsimp only at hle'
          unfold ByteStream.numReadBytesAvail at hfuel havail ⊢
          omega
        · next hstatus =>
            refine ⟨status, p', rfl, ?_⟩
            rintro rfl
            exact hstatus rfl
      · rw [if_neg havail, if_pos herror]
        exact ⟨_, _, rfl, nofun⟩

end Pbap.PbapServer
