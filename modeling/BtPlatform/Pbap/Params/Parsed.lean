import BtPlatform.Pbap.Params.Triples

/-!
# The server: what it reads of a triple

A complete legal triple in front of the switch of `ParseAppParams` is recorded and passed
over; any other is refused, at once or by the error flag.
-/

namespace Pbap.PbapServer

open Format Support List Support.ByteStream

/-! ## Refusals -/

/-- The switch fails, or leaves the error flag up. -/
def Refused (x : Except Fault (Status × Parsing)) : Prop :=
  ∀ r, x = .ok r → r.1 ≠ .ok ∨ r.2.bs.error = true

theorem Refused.status {status : Status} {p : Parsing} (h : status ≠ .ok) :
    Refused (.ok (status, p)) := by
  rintro _ ⟨⟩
  exact .inl h

theorem Refused.error {status : Status} {p : Parsing} (h : p.bs.error = true) :
    Refused (.ok (status, p)) := by
  rintro _ ⟨⟩
  exact .inr h

variable {parse : Parsing → Except Fault (Status × Parsing)} {tag : UInt8} {params : ServerParams}
variable {fuel : Nat}

section Short

variable {p : Parsing}

theorem parseParam_short (hp : p.bs.Readable) {size : Option Nat} (set : ServerParams → Bool)
    (hshort : p.bs.rest.length < p.len.toNat)
    (hparse : (∀ n ∈ size, p.len.toNat = n) → Refused (parse p)) :
    Refused (parseParam size set parse p) := by
  unfold parseParam
  split
  · exact Refused.status nofun
  · next hsize =>
      split
      · apply Refused.error
        exact congrArg ByteStream.error (skipChecked_of_lt hp hshort)
      · apply hparse
        intro n hn
        cases hn
        by_contra hne
        exact hsize (decide_eq_true hne)

theorem parseByte_short (hp : p.bs.Readable) (tag : UInt8) (values : List UInt8)
    (store : UInt8 → Bool → ServerParams → ServerParams) (hshort : p.bs.rest = []) :
    Refused (parseByte tag values store p) := by
  unfold parseByte
  rw [getUINT8Checked_nil hp tag hshort, ok_bind]
  dsimp only
  split
  · exact .error rfl
  · exact .error rfl

theorem parseSearchValue_short (hp : p.bs.Readable)
    (hshort : p.bs.rest.length < p.len.toNat) : Refused (parseSearchValue p) := by
  unfold parseSearchValue
  dsimp only
  split
  · rw [getBytesChecked_short hp [] hshort, ok_bind]
    exact .error rfl
  · exact .status nofun

theorem parseSearchAttribute_short (hp : p.bs.Readable) (hshort : p.bs.rest = []) :
    Refused (parseSearchAttribute p) := by
  unfold parseSearchAttribute
  rw [getUINT8Checked_nil hp 0 hshort, ok_bind]
  exact .error rfl

theorem parseMaxListCount_short (hp : p.bs.Readable) (hshort : p.bs.rest.length < 2) :
    Refused (parseMaxListCount p) := by
  unfold parseMaxListCount
  rw [getUINT16Checked_short hp _ hshort, ok_bind]
  exact .error rfl

theorem parseListStartOffset_short (hp : p.bs.Readable) (hshort : p.bs.rest.length < 2) :
    Refused (parseListStartOffset p) := by
  unfold parseListStartOffset
  rw [getUINT16Checked_short hp _ hshort, ok_bind]
  exact .error rfl

theorem parseFilter_short (hp : p.bs.Readable) (hshort : p.bs.rest.length < 8) :
    Refused (parseFilter p) := by
  unfold parseFilter
  match hrest : p.bs.rest with
  | b₃ :: b₂ :: b₁ :: b₀ :: tail =>
      have hroom : 4 ≤ p.bs.rest.length := by
        rw [hrest]
        exact Nat.le_add_left _ _
      rw [getUINT32Checked_cons hp _ hrest, ok_bind]
      dsimp only
      rw [getUINT32Checked_short (hp.advance hroom) _ (by
        rw [rest_advance, length_drop]
        omega), ok_bind]
      exact .error rfl
  | [] | [_] | [_, _] | [_, _, _] =>
      -- the flag is up after the first half, and stays
      rw [getUINT32Checked_short hp _ (by
        rw [hrest]
        simp), ok_bind]
      dsimp only
      obtain ⟨m, bs', hget, hfollows⟩ :=
        hp.bounded.setError.bounded.getUINT32Checked p.params.filter.2.toNat
      rw [hget, ok_bind]
      exact .error (hfollows.error rfl)

/-- A triple whose value is not complete is refused. -/
theorem parseTag_short (hp : p.bs.Readable) (hclear : ClearAt p.params tag p.len p.bs.rest)
    (hshort : p.bs.rest.length < p.len.toNat) : Refused (parseTag tag p) := by
  have hnil : p.len.toNat = 1 → p.bs.rest = [] := by
    intro hlen
    rw [hlen] at hshort
    exact length_eq_zero_iff.1 (Nat.lt_one_iff.1 hshort)
  unfold parseTag
  split
  · apply parseParam_short hp _ hshort
    intro hsize
    exact parseByte_short hp _ _ _ (hnil (hsize 1 rfl))
  · next h1 =>
    split
    · apply parseParam_short hp _ hshort
      intro _
      exact parseSearchValue_short hp hshort
    · next h2 =>
      split
      · next h3 =>
        apply parseParam_short hp _ hshort
        intro _
        have hone : p.len.toNat = 1 := congrArg UInt8.toNat (hclear.searchAttribute h3)
        exact parseSearchAttribute_short hp (hnil hone)
      · next h3 =>
        split
        · apply parseParam_short hp _ hshort
          intro hsize
          apply parseMaxListCount_short hp
          rwa [hsize 2 rfl] at hshort
        · next h4 =>
          split
          · apply parseParam_short hp _ hshort
            intro hsize
            apply parseListStartOffset_short hp
            rwa [hsize 2 rfl] at hshort
          · next h5 =>
            split
            · apply parseParam_short hp _ hshort
              intro hsize
              apply parseFilter_short hp
              rwa [hsize 8 rfl] at hshort
            · next h6 =>
              split
              · apply parseParam_short hp _ hshort
                intro hsize
                exact parseByte_short hp _ _ _ (hnil (hsize 1 rfl))
              · next h7 =>
                have hknown : ¬ Known tag := not_known h1 h2 h3 h4 h5 h6 h7
                rw [hclear.unknown hknown] at hshort
                exact absurd hshort (Nat.not_lt_zero _)

end Short

/-! ## Complete triples -/

/-- The stream stands in front of the value of a triple. -/
structure At (p : Parsing) (f : Field) (rest : List UInt8) : Prop where
  readable : p.bs.Readable
  rest_eq : p.bs.rest = f.value ++ rest
  len_eq : p.len = f.len

/-- There is memory for a search value, unless there is one already. -/
def Roomy (params : ServerParams) (memory : Memory) : Prop :=
  params.searchValueSet = false → memory.takeBlock.1 = true

theorem Roomy.filter {memory : Memory} (h : Roomy params memory) (filter : UInt32 × UInt32) :
    Roomy { params with filter := filter, filterSet := true } memory := h

/-- The triple is recorded, and its value passed over. -/
def Recorded (p : Parsing) (f : Field) (x : Except Fault (Status × Parsing)) : Prop :=
  ∃ params memory, x = .ok (.ok, { p with
    params := params, bs := p.bs.advance f.value.length, memory := memory }) ∧
      params = record p.params f ∧ Roomy params memory

section Complete

variable {p : Parsing} {f : Field} {rest : List UInt8}

theorem At.len_toNat (h : At p f rest) : p.len.toNat = f.value.length := by
  rw [h.len_eq, Field.len_toNat]

theorem At.length_le (h : At p f rest) : f.value.length ≤ p.bs.rest.length := by
  rw [h.rest_eq, length_append]
  exact Nat.le_add_right _ _

theorem At.take (h : At p f rest) : p.bs.rest.take f.value.length = f.value := by
  rw [h.rest_eq, take_left]

theorem parseParam_recorded (h : At p f rest) (hroomy : Roomy p.params p.memory) (size : Option Nat)
    (set : ServerParams → Bool) (hsize : ∀ n ∈ size, f.value.length = n)
    (hdup : set p.params = true → p.params = record p.params f)
    (hparse : set p.params = false → Recorded p f (parse p)) :
    Recorded p f (parseParam size set parse p) := by
  have hfits : ¬ (size.any fun n => p.len.toNat ≠ n) = true := by
    intro hany
    rw [Option.any_eq_true] at hany
    obtain ⟨n, hn, hne⟩ := hany
    exact of_decide_eq_true hne (h.len_toNat.trans (hsize n hn))
  unfold parseParam
  rw [if_neg hfits]
  split
  · next hset =>
      refine ⟨p.params, p.memory, ?_, hdup hset, hroomy⟩
      rw [h.len_toNat, skipChecked_of_le h.readable h.length_le]
  · next hset => exact hparse (Bool.eq_false_iff.2 hset)

theorem parseByte_recorded (h : At p f rest) (hroomy : Roomy p.params p.memory) (tag : UInt8)
    {values : List UInt8} {store : UInt8 → Bool → ServerParams → ServerParams} {v : UInt8}
    (hvalue : f.value = [v]) (hv : v ∈ values) (hrecord : store v true p.params = record p.params f)
    (hsearch : (store v true p.params).searchValueSet = p.params.searchValueSet) :
    Recorded p f (parseByte tag values store p) := by
  have hrest : p.bs.rest = v :: rest := by rw [h.rest_eq, hvalue, singleton_append]
  unfold parseByte
  rw [getUINT8Checked_cons h.readable tag hrest, ok_bind]
  dsimp only
  rw [if_pos hv]
  refine ⟨_, p.memory, ?_, hrecord, ?_⟩
  · rw [hvalue]
    rfl
  · unfold Roomy
    rwa [hsearch]

theorem parseByte_wrong (h : At p f rest) (tag : UInt8) (values : List UInt8)
    (store : UInt8 → Bool → ServerParams → ServerParams) {v : UInt8} (hvalue : f.value = [v])
    (hv : v ∉ values) : Refused (parseByte tag values store p) := by
  have hrest : p.bs.rest = v :: rest := by rw [h.rest_eq, hvalue, singleton_append]
  unfold parseByte
  rw [getUINT8Checked_cons h.readable tag hrest, ok_bind]
  dsimp only
  rw [if_neg hv]
  exact .status nofun

theorem parseSearchValue_recorded (h : At p f rest) (htag : f.tag = 0x02)
    (hset : p.params.searchValueSet = false) (hroom : p.memory.takeBlock.1 = true) :
    Recorded p f (parseSearchValue p) := by
  unfold parseSearchValue
  dsimp only
  rw [if_pos hroom, h.len_toNat, getBytesChecked_of_le h.readable [] h.length_le,
    ok_bind, h.take]
  refine ⟨_, p.memory.takeBlock.2, rfl, ?_, nofun⟩
  rw [record_searchValue _ htag, if_neg (by rw [hset]; decide), h.len_eq]

theorem parseSearchAttribute_recorded (h : At p f rest) (hroomy : Roomy p.params p.memory)
    (htag : f.tag = 0x03) (hlength : f.value.length = 1)
    (hset : p.params.searchAttributeSet = false) : Recorded p f (parseSearchAttribute p) := by
  obtain ⟨v, hvalue⟩ := length_eq_one_iff.1 hlength
  have hrest : p.bs.rest = v :: rest := by rw [h.rest_eq, hvalue, singleton_append]
  unfold parseSearchAttribute
  rw [getUINT8Checked_cons h.readable 0 hrest, ok_bind]
  refine ⟨{ p.params with searchAttribute := v, searchAttributeSet := true }, p.memory,
    ?_, ?_, hroomy⟩
  · rw [hvalue]
    rfl
  · rw [record_searchAttribute _ htag, if_neg (by rw [hset]; decide), hvalue]
    rfl

theorem parseMaxListCount_recorded (h : At p f rest) (hroomy : Roomy p.params p.memory)
    (htag : f.tag = 0x04) (hlength : f.value.length = 2)
    (hset : p.params.maxListCountSet = false) : Recorded p f (parseMaxListCount p) := by
  obtain ⟨hi, lo, hvalue⟩ := length_eq_two.1 hlength
  have hrest : p.bs.rest = hi :: lo :: rest := by rw [h.rest_eq, hvalue]; rfl
  unfold parseMaxListCount
  rw [getUINT16Checked_cons h.readable _ hrest, ok_bind]
  refine ⟨{ p.params with
    maxListCount := UInt16.ofNat (ofBigEndian16 hi lo), maxListCountSet := true },
    p.memory, ?_, ?_, hroomy⟩
  · rw [hvalue]
    rfl
  · rw [record_maxListCount _ htag, if_neg (by rw [hset]; decide), hvalue]
    rfl

theorem parseListStartOffset_recorded (h : At p f rest) (hroomy : Roomy p.params p.memory)
    (htag : f.tag = 0x05) (hlength : f.value.length = 2)
    (hset : p.params.listStartOffsetSet = false) : Recorded p f (parseListStartOffset p) := by
  obtain ⟨hi, lo, hvalue⟩ := length_eq_two.1 hlength
  have hrest : p.bs.rest = hi :: lo :: rest := by rw [h.rest_eq, hvalue]; rfl
  unfold parseListStartOffset
  rw [getUINT16Checked_cons h.readable _ hrest, ok_bind]
  refine ⟨{ p.params with
    listStartOffset := UInt16.ofNat (ofBigEndian16 hi lo), listStartOffsetSet := true },
    p.memory, ?_, ?_, hroomy⟩
  · rw [hvalue]
    rfl
  · rw [record_listStartOffset _ htag, if_neg (by rw [hset]; decide), hvalue]
    rfl

theorem parseFilter_of_read {i1 i2 : Nat} {bs bs' : ByteStream}
    (hhigh : p.bs.getUINT32Checked p.params.filter.1.toNat = .ok (i1, bs))
    (hlow : bs.getUINT32Checked p.params.filter.2.toNat = .ok (i2, bs')) :
    parseFilter p = .ok (.ok, { p with
      bs := bs', params := { p.params with
        filter := (UInt32.ofNat i1, UInt32.ofNat i2), filterSet := true } }) := by
  unfold parseFilter
  rw [hhigh, ok_bind]
  dsimp only
  rw [hlow]
  rfl

theorem parseFilter_recorded (h : At p f rest) (hroomy : Roomy p.params p.memory)
    (htag : f.tag = 0x06) (hlength : f.value.length = 8) (hset : p.params.filterSet = false) :
    Recorded p f (parseFilter p) := by
  match hvalue : f.value, hlength with
  | [b₇, b₆, b₅, b₄, b₃, b₂, b₁, b₀], _ =>
      have hrest : p.bs.rest = b₇ :: b₆ :: b₅ :: b₄ :: b₃ :: b₂ :: b₁ :: b₀ :: rest := by
        rw [h.rest_eq, hvalue]
        rfl
      have hroom : 4 ≤ p.bs.rest.length := by
        rw [hrest]
        exact Nat.le_add_left _ _
      have hrest' : (p.bs.advance 4).rest = b₃ :: b₂ :: b₁ :: b₀ :: rest := by
        rw [rest_advance, hrest]
        rfl
      rw [parseFilter_of_read (getUINT32Checked_cons h.readable _ hrest)
        (getUINT32Checked_cons (h.readable.advance hroom) _ hrest')]
      refine ⟨{ p.params with
        filter := (UInt32.ofNat (ofBigEndian32 b₇ b₆ b₅ b₄),
          UInt32.ofNat (ofBigEndian32 b₃ b₂ b₁ b₀)), filterSet := true },
        p.memory, ?_, ?_, hroomy.filter _⟩
      · rw [hvalue, advance_advance]
        rfl
      · rw [record_filter _ htag, if_neg (by rw [hset]; decide), hvalue]
        rfl

/-- A complete legal triple is recorded. -/
theorem parseTag_recorded (h : At p f rest) (hroomy : Roomy p.params p.memory)
    (hclear : ClearAt p.params f.tag f.len (f.value ++ rest)) (hlegal : Legal f) :
    Recorded p f (parseTag f.tag p) := by
  unfold parseTag
  split
  · next htag =>
    obtain ⟨v, hv, hvalue⟩ := hlegal.order htag
    apply parseParam_recorded h hroomy
    · rintro _ ⟨⟩
      rw [hvalue]
      rfl
    · intro hset
      rw [record_order _ htag, if_pos hset]
    · intro hset
      apply parseByte_recorded h hroomy _ hvalue hv
      · rw [record_order _ htag, if_neg (by rw [hset]; decide), hvalue]
        rfl
      · rfl
  · split
    · next htag =>
      apply parseParam_recorded h hroomy _ _ fun _ hn => absurd hn (Option.not_mem_none _)
      · intro hset
        rw [record_searchValue _ htag, if_pos hset]
      · intro hset
        exact parseSearchValue_recorded h htag hset (hroomy hset)
    · split
      · next htag =>
        apply parseParam_recorded h hroomy _ _ fun _ hn => absurd hn (Option.not_mem_none _)
        · intro hset
          rw [record_searchAttribute _ htag, if_pos hset]
        · exact parseSearchAttribute_recorded h hroomy htag (hlegal.searchAttribute htag)
      · split
        · next htag =>
          have hlength := hlegal.count (.inl htag)
          apply parseParam_recorded h hroomy
          · rintro _ ⟨⟩
            exact hlength
          · intro hset
            rw [record_maxListCount _ htag, if_pos hset]
          · exact parseMaxListCount_recorded h hroomy htag hlength
        · split
          · next htag =>
            have hlength := hlegal.count (.inr htag)
            apply parseParam_recorded h hroomy
            · rintro _ ⟨⟩
              exact hlength
            · intro hset
              rw [record_listStartOffset _ htag, if_pos hset]
            · exact parseListStartOffset_recorded h hroomy htag hlength
          · split
            · next htag =>
              have hlength := hlegal.filter htag
              apply parseParam_recorded h hroomy
              · rintro _ ⟨⟩
                exact hlength
              · intro hset
                rw [record_filter _ htag, if_pos hset]
              · exact parseFilter_recorded h hroomy htag hlength
            · split
              · next htag =>
                obtain ⟨v, hv, hvalue⟩ := hlegal.format htag
                apply parseParam_recorded h hroomy
                · rintro _ ⟨⟩
                  rw [hvalue]
                  rfl
                · intro hset
                  rw [record_format _ htag, if_pos hset]
                · intro hset
                  apply parseByte_recorded h hroomy _ hvalue hv
                  · rw [record_format _ htag, if_neg (by rw [hset]; decide), hvalue]
                    rfl
                  · rfl
              · next h1 h2 h3 h4 h5 h6 h7 =>
                have hknown := not_known h1 h2 h3 h4 h5 h6 h7
                have hlength : f.value.length = 0 := by
                  rw [← f.len_toNat, hclear.unknown hknown]
                  rfl
                refine ⟨p.params, p.memory, ?_, (record_unknown _ hknown).symm, hroomy⟩
                rw [hlength, advance_zero]

theorem parseParam_wrong (h : At p f rest) (size : Option Nat) (set : ServerParams → Bool)
    (hwrong : (∀ n ∈ size, f.value.length = n) → set p.params = false ∧ Refused (parse p)) :
    Refused (parseParam size set parse p) := by
  unfold parseParam
  split
  · exact .status nofun
  · next hsize =>
      have hfits : ∀ n ∈ size, f.value.length = n := by
        intro n hn
        cases hn
        by_contra hne
        rw [← h.len_toNat] at hne
        exact hsize (decide_eq_true hne)
      obtain ⟨hset, hrefused⟩ := hwrong hfits
      rw [if_neg (by rw [hset]; decide)]
      exact hrefused

/-- A complete triple that is not legal is refused. -/
theorem parseTag_wrong (h : At p f rest)
    (hclear : ClearAt p.params f.tag f.len (f.value ++ rest)) (hlegal : ¬ Legal f) :
    Refused (parseTag f.tag p) := by
  unfold parseTag
  split
  · next htag =>
    apply parseParam_wrong h
    intro hsize
    obtain ⟨v, hvalue⟩ := length_eq_one_iff.1 (hsize 1 rfl)
    have hv : v ∉ orderValues := fun hv => hlegal (Legal.of_order htag ⟨v, hv, hvalue⟩)
    refine ⟨Bool.eq_false_iff.2 fun hset => hv ?_, parseByte_wrong h _ _ _ hvalue hv⟩
    apply hclear.order htag hset
    rw [hvalue]
    rfl
  · split
    · next htag => exact absurd (Legal.of_searchValue htag) hlegal
    · split
      · next htag =>
        refine absurd (Legal.of_searchAttribute htag ?_) hlegal
        rw [← f.len_toNat, hclear.searchAttribute htag]
        rfl
      · split
        · next htag =>
          apply parseParam_wrong h
          intro hsize
          exact absurd (Legal.of_count (.inl htag) (hsize 2 rfl)) hlegal
        · split
          · next htag =>
            apply parseParam_wrong h
            intro hsize
            exact absurd (Legal.of_count (.inr htag) (hsize 2 rfl)) hlegal
          · split
            · next htag =>
              apply parseParam_wrong h
              intro hsize
              exact absurd (Legal.of_filter htag (hsize 8 rfl)) hlegal
            · split
              · next htag =>
                apply parseParam_wrong h
                intro hsize
                obtain ⟨v, hvalue⟩ := length_eq_one_iff.1 (hsize 1 rfl)
                have hv : v ∉ formatValues :=
                  fun hv => hlegal (Legal.of_format htag ⟨v, hv, hvalue⟩)
                refine ⟨Bool.eq_false_iff.2 fun hset => hv ?_, parseByte_wrong h _ _ _ hvalue hv⟩
                apply hclear.format htag hset
                rw [hvalue]
                rfl
              · next h1 h2 h3 h4 h5 h6 h7 =>
                exact absurd (Legal.of_unknown (not_known h1 h2 h3 h4 h5 h6 h7)) hlegal

end Complete

/-! ## The loop -/

/-- What the loop makes of the bytes in front of it: it succeeds if they are legal triples,
and then it has recorded them. -/
structure Exact (params : ServerParams) (data : List UInt8)
    (x : Except Fault (Status × Parsing)) : Prop where
  legal : ∀ fields, data = encodeFields fields → (∀ f ∈ fields, Legal f) →
    ∃ p, x = .ok (.ok, p) ∧ p.params = fields.foldl record params
  illegal : ¬ LegalParams data → Fails x

theorem Exact.of_fails {data : List UInt8} {x : Except Fault (Status × Parsing)}
    (hdata : ¬ LegalParams data) (h : Fails x) : Exact params data x :=
  ⟨fun fields heq hlegal => absurd ⟨fields, heq, hlegal⟩ hdata, fun _ => h⟩

/-- A legal triple in front. -/
theorem Exact.cons {params' : ServerParams} {f : Field} {rest : List UInt8}
    {x : Except Fault (Status × Parsing)} (hf : Legal f) (hparams : params' = record params f)
    (h : Exact params' rest x) : Exact params (f.encode ++ rest) x := by
  subst hparams
  constructor
  · intro fields hfields hlegal
    obtain ⟨tail, rfl, hrest⟩ := eq_encodeFields_cons hfields
    exact h.legal tail hrest fun g hg => hlegal g (mem_cons_of_mem f hg)
  · intro hdata
    exact h.illegal fun hrest => hdata (legalParams_cons_iff.2 ⟨hf, hrest⟩)

/-- What is refused in a round fails in the end. -/
theorem parseTags_refused {p : Parsing} (hp : p.bs.Bounded) (hfuel : p.bs.numReadBytesAvail < fuel)
    (h : Refused (parseTag tag p)) :
    Fails (do
      let (status, p) ← parseTag tag p
      if status.success then parseTags fuel p else return (status, p)) := by
  obtain ⟨status, p', hparse, hfollows⟩ := parseTag_ends hp tag
  rw [hparse, ok_bind]
  dsimp only
  split
  · next hstatus =>
      obtain hne | herror := h _ hparse
      · exact absurd (eq_of_beq hstatus) hne
      · apply parseTags_error hfollows.bounded herror
        have hpos := hfollows.pos_le
        have hsize := hfollows.size_eq
        unfold numReadBytesAvail at hfuel ⊢
        omega
  · next hstatus =>
      refine ⟨status, p', rfl, ?_⟩
      rintro rfl
      exact hstatus rfl

/-- A round in front of a tag and a length. -/
theorem parseTags_round {p : Parsing} (hp : p.bs.Readable) {len : UInt8} {tail : List UInt8}
    (hrest : p.bs.rest = tag :: len :: tail) :
    parseTags (fuel + 1) p = (do
      let (status, p) ← parseTag tag { p with bs := p.bs.advance 2, len := len }
      if status.success then parseTags fuel p else return (status, p)) := by
  have havail : p.bs.numReadBytesAvail > 0 := by
    have hlength := hp.rest_length
    rw [hrest, length_cons] at hlength
    unfold numReadBytesAvail
    omega
  have hone : 1 ≤ p.bs.rest.length := by
    rw [hrest]
    exact Nat.le_add_left _ _
  have hrest' : (p.bs.advance 1).rest = len :: tail := by
    rw [rest_advance, hrest]
    rfl
  rw [parseTags, if_pos havail, getUINT8Checked_cons hp 0 hrest, ok_bind]
  dsimp only
  rw [getUINT8Checked_cons (hp.advance hone) p.len hrest', ok_bind]
  dsimp only
  rw [advance_advance]

/-- A tag without a length is no triple. -/
theorem parseTags_single {p : Parsing} (hp : p.bs.Readable) (hrest : p.bs.rest = [tag])
    (hfuel : 0 < fuel) : Fails (parseTags (fuel + 1) p) := by
  have hlength := hp.rest_length
  rw [hrest, length_singleton] at hlength
  have havail : p.bs.numReadBytesAvail > 0 := by
    unfold numReadBytesAvail
    omega
  have hone : 1 ≤ p.bs.rest.length := by
    rw [hrest]
    exact Nat.le_refl _
  have hrest' : (p.bs.advance 1).rest = [] := by
    rw [rest_advance, hrest]
    rfl
  have hbounded := (hp.advance hone).bounded.setError.bounded
  rw [parseTags, if_pos havail, getUINT8Checked_cons hp 0 hrest, ok_bind]
  dsimp only
  rw [getUINT8Checked_nil (hp.advance hone) p.len hrest', ok_bind]
  dsimp only
  refine @parseTags_refused tag fuel { p with bs := (p.bs.advance 1).setError } hbounded ?_ ?_
  · unfold numReadBytesAvail
    dsimp only [setError_pos, setError_size, advance_pos,
      advance_size]
    omega
  · rintro r hr
    obtain ⟨status, p', hparse, hfollows⟩ :=
      @parseTag_ends { p with bs := (p.bs.advance 1).setError } hbounded tag
    cases hr.symm.trans hparse
    exact .inr (hfollows.error rfl)

/-- The loop is exact where all triples are clear. -/
theorem parseTags_exact {p : Parsing} (hp : p.bs.Readable) (hfuel : p.bs.rest.length < fuel)
    (hroomy : Roomy p.params p.memory) (hclear : ClearParams p.params p.bs.rest) :
    Exact p.params p.bs.rest (parseTags fuel p) := by
  induction fuel generalizing p with
  | zero => exact absurd hfuel (Nat.not_lt_zero _)
  | succ fuel ih =>
      match hrest : p.bs.rest with
      | [] =>
          have hlength := hp.rest_length
          rw [hrest, length_nil] at hlength
          have hend : ¬ p.bs.numReadBytesAvail > 0 := by
            unfold numReadBytesAvail
            omega
          rw [parseTags, if_neg hend, if_neg (by rw [hp.noError]; decide)]
          refine ⟨?_, fun h => absurd legalParams_nil h⟩
          intro fields hfields _
          cases fields with
          | nil => exact ⟨p, rfl, rfl⟩
          | cons f fields => cases hfields
      | [tag] =>
          rw [hrest] at hfuel
          exact Exact.of_fails (not_legalParams_single tag)
            (parseTags_single hp hrest (Nat.lt_of_succ_lt_succ hfuel))
      | tag :: len :: tail =>
          rw [hrest] at hfuel hclear
          rw [parseTags_round hp hrest]
          have htwo : 2 ≤ p.bs.rest.length := by
            rw [hrest]
            exact Nat.le_add_left _ _
          have hp' := hp.advance htwo
          have hrest' : (p.bs.advance 2).rest = tail := by
            rw [rest_advance, hrest]
            rfl
          have havail : (p.bs.advance 2).numReadBytesAvail < fuel := by
            have hlength := hp'.rest_length
            rw [hrest'] at hlength
            unfold numReadBytesAvail
            rw [← hlength]
            exact Nat.lt_of_succ_lt (Nat.lt_of_succ_lt_succ hfuel)
          by_cases hshort : tail.length < len.toNat
          · apply Exact.of_fails (not_legalParams_short hshort)
            apply parseTags_refused hp'.bounded havail
            apply parseTag_short hp'
            · rw [hrest']
              exact hclear.here
            · rw [hrest']
              exact hshort
          · obtain ⟨f, hdecode, htag, hlen, hvalue⟩ :=
              @Field.decode_cons tag len tail (Nat.not_lt.1 hshort)
            have htail : f.value ++ tail.drop len.toNat = tail := by
              rw [hvalue, take_append_drop]
            have hdata : tag :: len :: tail = f.encode ++ tail.drop len.toNat := by
              rw [Field.encode, htag, hlen, cons_append, cons_append, htail]
            have hat : At { p with bs := p.bs.advance 2, len := len } f (tail.drop len.toNat) :=
              ⟨hp', hrest'.trans htail.symm, hlen.symm⟩
            have hhere : ClearAt p.params f.tag f.len (f.value ++ tail.drop len.toNat) := by
              rw [htag, hlen, htail]
              exact hclear.here
            by_cases hlegal : Legal f
            · obtain ⟨params, memory, hparse, hparams, hroomy'⟩ :=
                parseTag_recorded hat hroomy hhere hlegal
              rw [hdata, ← htag, hparse, ok_bind]
              dsimp only
              rw [if_pos (by decide)]
              have hnext : ((p.bs.advance 2).advance f.value.length).rest =
                  tail.drop len.toNat := by
                rw [rest_advance, hat.rest_eq, drop_left]
              rw [hdata] at hclear
              have hexact := @ih { p with
                  params := params, bs := (p.bs.advance 2).advance f.value.length, len := len,
                  memory := memory } (hp'.advance hat.length_le)
                (by
                  rw [hnext, length_drop]
                  exact Nat.lt_of_le_of_lt (Nat.sub_le _ _)
                    (Nat.lt_of_succ_lt (Nat.lt_of_succ_lt_succ hfuel)))
                hroomy'
                (by
                  rw [hnext, hparams]
                  exact hclear.rest hlegal)
              rw [hnext] at hexact
              exact hexact.cons hlegal hparams
            · rw [hdata]
              apply Exact.of_fails
              · intro h
                exact hlegal (legalParams_cons_iff.1 h).1
              · apply parseTags_refused hp'.bounded havail
                rw [← htag]
                exact parseTag_wrong hat hhere hlegal

/-- `ParseAppParams` succeeds exactly on sequences of legal triples, and gives every parameter
the value of the first triple with its tag. -/
def ReadsExactly (s : PbapServer) (memory : Memory) (data : List UInt8) : Prop :=
  (∀ fields, data = encodeFields fields → (∀ f ∈ fields, Legal f) →
    ∃ memory', s.parseAppParams memory data =
      .ok (.ok, { s with appParams := fields.foldl record s.appParams }, memory')) ∧
  (¬ LegalParams data → ∃ status s' memory',
    s.parseAppParams memory data = .ok (status, s', memory') ∧ status ≠ .ok)

theorem parseAppParams_exact {s : PbapServer} {memory : Memory} {data : List UInt8}
    (hlength : data.length < 65536) (hroomy : Roomy s.appParams memory)
    (hclear : ClearParams s.appParams data) : s.ReadsExactly memory data := by
  have hexact := @parseTags_exact (data.length + 1)
    { params := s.appParams, bs := .open' data 0 .read, len := 0, memory := memory }
    (readable_open' data 0 hlength)
    (by
      rw [rest_open']
      exact Nat.lt_succ_self _)
    hroomy
    (by
      rw [rest_open']
      exact hclear)
  rw [rest_open'] at hexact
  unfold ReadsExactly parseAppParams
  constructor
  · intro fields hdata hlegal
    obtain ⟨p, hp, hparams⟩ := hexact.legal fields hdata hlegal
    rw [hp, ok_bind]
    refine ⟨p.memory, ?_⟩
    dsimp only
    rw [hparams]
    rfl
  · intro hillegal
    obtain ⟨status, p, hp, hstatus⟩ := hexact.illegal hillegal
    rw [hp, ok_bind]
    exact ⟨status, _, _, rfl, hstatus⟩

end Pbap.PbapServer
