import BtPlatform.Property.Persist
import Mathlib.Data.List.TakeWhile

/-!
# Reading back what was saved

The fields that the loader takes from a piece of a line, when a saved node comes back, and
where the names and values of any other file come from.
-/

namespace Property

open List

/-! ## Fields of a line -/

section Fields

variable {c : UInt8} {s a b line : List UInt8}

theorem strchr_append (h : c ∉ a) (b : List UInt8) : strchr c (a ++ c :: b) = some (a, b) := by
  induction a with
  | nil => exact if_pos rfl
  | cons x a ih =>
      obtain ⟨hx, ha⟩ := not_or.1 (mt mem_cons.2 h)
      rw [cons_append, strchr, if_neg (Ne.symm hx), ih ha]
      rfl

theorem strchr_eq_none : strchr c s = none ↔ c ∉ s := by
  induction s with
  | nil => simp [strchr]
  | cons x s ih =>
      by_cases hx : x = c
      · simp [strchr, hx]
      · simp [strchr, hx, ih, Ne.symm hx]

theorem strchr_eq_some (h : strchr c s = some (a, b)) : s = a ++ c :: b ∧ c ∉ a := by
  have hmem : c ∈ s := by
    by_contra hnot
    rw [strchr_eq_none.2 hnot] at h
    cases h
  obtain ⟨a', b', rfl, ha'⟩ := eq_append_cons_of_mem hmem
  rw [strchr_append ha'] at h
  cases h
  exact ⟨rfl, ha'⟩

/-- What stands before the first comma, and between the first two; nothing for a comma
that is missing. -/
def fields (s : List UInt8) : List UInt8 × List UInt8 :=
  match strchr comma s with
  | none => ([], [])
  | some (name, rest) =>
      match strchr comma rest with
      | none => (name, [])
      | some (value, _) => (name, value)

/-- Characters behind the last comma do not matter. -/
theorem fields_append (ht : comma ∉ b) (s : List UInt8) : fields (s ++ b) = fields s := by
  have hrest : ∀ s, strchr comma (s ++ b) =
      (strchr comma s).map fun r => (r.1, r.2 ++ b) := by
    intro s
    cases h : strchr comma s with
    | none =>
        rw [strchr_eq_none] at h
        rw [Option.map_none, strchr_eq_none, mem_append, not_or]
        exact ⟨h, ht⟩
    | some r =>
        obtain ⟨hs, hr⟩ := @strchr_eq_some _ _ r.1 r.2 h
        rw [hs, append_assoc, cons_append, strchr_append hr]
        rfl
  unfold fields
  rw [hrest]
  cases strchr comma s with
  | none => rfl
  | some r =>
      simp only [Option.map_some, hrest]
      cases strchr comma r.2 <;> rfl

/-- The fields of the beginning of a line are fields of the line, as far as they are
there. -/
theorem fields_prefix (h : List.IsPrefix s line) :
    ((fields s).1 = [] ∨ (fields s).1 = (fields line).1) ∧
      ((fields s).2 = [] ∨ (fields s).2 = (fields line).2) := by
  obtain ⟨t, rfl⟩ := h
  unfold fields
  cases hname : strchr comma s with
  | none => exact ⟨.inl rfl, .inl rfl⟩
  | some r =>
      obtain ⟨name, rest⟩ := r
      obtain ⟨hs, hr⟩ := strchr_eq_some hname
      rw [hs, append_assoc, cons_append, strchr_append hr]
      simp only
      cases hvalue : strchr comma rest with
      | none =>
          refine ⟨.inr ?_, .inl rfl⟩
          cases strchr comma (rest ++ t) <;> rfl
      | some q =>
          obtain ⟨value, more⟩ := q
          obtain ⟨hq, hq'⟩ := strchr_eq_some hvalue
          rw [hq, append_assoc, cons_append, strchr_append hq']
          exact ⟨.inr rfl, .inr rfl⟩

/-- The fields of a name, a value and more that are written into a buffer. -/
theorem fields_take {name value : List UInt8} (hname : comma ∉ name) (hvalue : comma ∉ value)
    (n : Nat) (more : List UInt8) :
    fields ((name ++ comma :: (value ++ comma :: more)).take n) =
      if name.length < n then
        (name, if name.length + value.length + 2 ≤ n then value else [])
      else ([], []) := by
  unfold fields
  by_cases hroom : name.length < n
  · rw [if_pos hroom]
    obtain ⟨m, rfl⟩ := Nat.exists_eq_add_of_lt hroom
    rw [show name.length + m + 1 = name.length + (m + 1) from rfl, take_length_add_append,
      take_succ_cons, strchr_append hname]
    simp only
    by_cases hsecond : value.length < m
    · obtain ⟨l, rfl⟩ := Nat.exists_eq_add_of_lt hsecond
      rw [if_pos (by omega), show value.length + l + 1 = value.length + (l + 1) from rfl,
        take_length_add_append, take_succ_cons, strchr_append hvalue]
    · rw [if_neg (by omega), take_append_of_le_length (by omega),
        strchr_eq_none.2 fun hmem => hvalue (mem_of_mem_take hmem)]
  · rw [if_neg hroom, take_append_of_le_length (by omega),
      strchr_eq_none.2 fun hmem => hname (mem_of_mem_take hmem)]

theorem cString_noTerminator (line : List UInt8) : 0 ∉ cString line := by
  intro hmem
  have h := mem_takeWhile_imp hmem
  simp at h

theorem strlcpy_field {size : Nat} (hzero : 0 ∉ a) (hfits : a.length < size) (c : UInt8)
    (b : List UInt8) :
    strlcpy size (a ++ c :: b) (a.length + 1) = some ⟨a, hzero, hfits⟩ := by
  have htake : (a ++ c :: b).take (a.length + 1 - 1) = a := by
    rw [Nat.add_sub_cancel, take_left]
  unfold strlcpy
  simp only [htake]
  exact dif_pos ⟨hzero, hfits⟩

/-- A piece of a line is read within the bounds of the arrays. -/
theorem pullOneLineData_eq (h : line.length < MAX_ALLOWED_LINE_LEN) :
    ∃ u, pullOneLineData line = some u ∧
      (u.propertyName.chars, u.propertyValue.chars) = fields (cString line) := by
  have hlen : (cString line).length < 80 :=
    Nat.lt_of_le_of_lt (List.takeWhile_prefix _).length_le h
  have hzero := cString_noTerminator line
  unfold pullOneLineData fields
  rw [MAX_PROPERTY_ITER, pullFields]
  cases hname : strchr comma (cString line) with
  | none => exact ⟨_, rfl, rfl⟩
  | some first =>
      obtain ⟨name, rest⟩ := first
      obtain ⟨hline, -⟩ := strchr_eq_some hname
      rw [hline] at hlen hzero
      rw [length_append, length_cons] at hlen
      rw [mem_append, mem_cons] at hzero
      have hname0 : 0 ∉ name := fun hmem => hzero (.inl hmem)
      have hrest0 : 0 ∉ rest := fun hmem => hzero (.inr (.inr hmem))
      have hmin : min name.length MAX_ALLOWED_LINE_LEN = name.length :=
        Nat.min_eq_left (by unfold MAX_ALLOWED_LINE_LEN; omega)
      simp only [hmin, storeField, hline]
      rw [strlcpy_field hname0 (by unfold MAX_NAME_LEN; omega), Option.map_some]
      simp only [pullFields]
      cases hvalue : strchr comma rest with
      | none => exact ⟨_, rfl, rfl⟩
      | some second =>
          obtain ⟨value, third⟩ := second
          obtain ⟨hrest, -⟩ := strchr_eq_some hvalue
          rw [hrest] at hlen hrest0
          rw [length_append, length_cons] at hlen
          rw [mem_append] at hrest0
          have hvalue0 : 0 ∉ value := fun hmem => hrest0 (.inl hmem)
          have hmin : min value.length MAX_ALLOWED_LINE_LEN = value.length :=
            Nat.min_eq_left (by unfold MAX_ALLOWED_LINE_LEN; omega)
          simp only [hmin, storeField, hrest]
          rw [strlcpy_field hvalue0 (by unfold MAX_VALUE_LEN; omega), Option.map_some]
          -- the third field is not stored
          cases strchr comma third with
          | none => exact ⟨_, rfl, rfl⟩
          | some _ => exact ⟨_, rfl, rfl⟩

end Fields

/-! ## Pieces of a file -/

section Pieces

variable {n : Nat} {file line rest : List UInt8}

theorem length_fgets_le (n : Nat) (file : List UInt8) : (fgets n file).1.length ≤ n := by
  induction n generalizing file with
  | zero => exact le_rfl
  | succ n ih =>
      cases file with
      | nil => exact Nat.zero_le _
      | cons c file =>
          by_cases hc : c = newline
          · rw [fgets, if_pos hc]
            exact Nat.succ_le_succ (Nat.zero_le n)
          · rw [fgets, if_neg hc]
            exact Nat.succ_le_succ (ih file)

/-- A line with its newline is read at once, if there is room for both. -/
theorem fgets_line (hline : newline ∉ line) (h : line.length < n) (rest : List UInt8) :
    fgets n (line ++ newline :: rest) = (line ++ [newline], rest) := by
  induction line generalizing n with
  | nil =>
      obtain ⟨n, rfl⟩ := Nat.exists_eq_succ_of_ne_zero (Nat.ne_zero_of_lt h)
      exact if_pos rfl
  | cons c line ih =>
      obtain ⟨n, rfl⟩ := Nat.exists_eq_succ_of_ne_zero (Nat.ne_zero_of_lt h)
      obtain ⟨hc, hline⟩ := not_or.1 (mt mem_cons.2 hline)
      rw [cons_append, fgets, if_neg (Ne.symm hc), ih hline (Nat.lt_of_succ_lt_succ h)]
      rfl

/-- Without a newline as much is read as there is room for. -/
theorem fgets_full (hline : newline ∉ line) (h : line.length = n) (rest : List UInt8) :
    fgets n (line ++ rest) = (line, rest) := by
  induction line generalizing n with
  | nil =>
      subst h
      rfl
  | cons c line ih =>
      subst h
      obtain ⟨hc, hline⟩ := not_or.1 (mt mem_cons.2 hline)
      rw [cons_append, length_cons, fgets, if_neg (Ne.symm hc), ih hline rfl]

/-- The rest of a file after its last newline. -/
theorem fgets_last (hline : newline ∉ line) (h : line.length ≤ n) :
    fgets n line = (line, []) := by
  induction line generalizing n with
  | nil => cases n <;> rfl
  | cons c line ih =>
      cases n with
      | zero => exact absurd h (Nat.not_succ_le_zero _)
      | succ n =>
          obtain ⟨hc, hline⟩ := not_or.1 (mt mem_cons.2 hline)
          rw [fgets, if_neg (Ne.symm hc), ih hline (Nat.le_of_succ_le_succ h)]

theorem pieces_of_ne_nil (h : file ≠ []) :
    pieces file = (fgets (MAX_ALLOWED_LINE_LEN - 1) file).1 ::
      pieces (fgets (MAX_ALLOWED_LINE_LEN - 1) file).2 := by
  cases file with
  | nil => exact absurd rfl h
  | cons c file => rw [pieces, MAX_ALLOWED_LINE_LEN]

/-- Every piece fits, with its terminator, in the array that it is read into. -/
theorem length_lt_of_mem_pieces : line ∈ pieces file → line.length < MAX_ALLOWED_LINE_LEN := by
  induction file using pieces.induct with
  | case1 =>
      intro hmem
      rw [pieces] at hmem
      exact absurd hmem not_mem_nil
  | case2 c file ih =>
      intro hmem
      rw [pieces, mem_cons] at hmem
      obtain rfl | hmem := hmem
      · exact Nat.lt_succ_of_le (length_fgets_le _ _)
      · exact ih hmem

end Pieces

/-! ## Lines of a file -/

/-- A line of the file, without its newline. -/
def IsLine (file line : List UInt8) : Prop :=
  newline ∉ line ∧ ∃ before after, file = before ++ (line ++ after) ∧
    (before = [] ∨ ∃ b, before = b ++ [newline]) ∧ (after = [] ∨ ∃ a, after = newline :: a)

/-- The piece number `k` of a line that `fgets` divides. -/
def pieceOf (line : List UInt8) (k : Nat) : List UInt8 :=
  (line.drop ((MAX_ALLOWED_LINE_LEN - 1) * k)).take (MAX_ALLOWED_LINE_LEN - 1)

section Lines

variable {n k : Nat} {file line piece before read rest : List UInt8}

theorem fgets_cases (n : Nat) (file : List UInt8) :
    (∃ l rest, file = l ++ newline :: rest ∧ newline ∉ l ∧ l.length < n ∧
      fgets n file = (l ++ [newline], rest)) ∨
    (∃ l rest, file = l ++ rest ∧ newline ∉ l ∧ l.length = n ∧ fgets n file = (l, rest)) ∨
    (newline ∉ file ∧ file.length < n ∧ fgets n file = (file, [])) := by
  by_cases hmem : newline ∈ file.take n
  · obtain ⟨l, rest, htake, hl⟩ := eq_append_cons_of_mem hmem
    have hlen := congrArg length htake
    rw [length_take, length_append, length_cons] at hlen
    have hfile : file = l ++ newline :: (rest ++ file.drop n) := by
      calc file = file.take n ++ file.drop n := (take_append_drop n file).symm
        _ = (l ++ newline :: rest) ++ file.drop n := by rw [htake]
        _ = l ++ newline :: (rest ++ file.drop n) := by simp
    have hroom : l.length < n := by omega
    refine .inl ⟨l, rest ++ file.drop n, hfile, hl, hroom, ?_⟩
    conv_lhs => rw [hfile]
    exact fgets_line hl hroom _
  · rcases Nat.lt_or_ge file.length n with hshort | hlong
    · rw [take_of_length_le (Nat.le_of_lt hshort)] at hmem
      exact .inr (.inr ⟨hmem, hshort, fgets_last hmem (Nat.le_of_lt hshort)⟩)
    · have hlen : (file.take n).length = n := by
        rw [length_take, Nat.min_eq_left hlong]
      refine .inr (.inl ⟨file.take n, file.drop n, (take_append_drop n file).symm,
        hmem, hlen, ?_⟩)
      conv_lhs => rw [← take_append_drop n file]
      exact fgets_full hmem hlen _

theorem dropWhile_newline (s : List UInt8) :
    s.dropWhile (· ≠ newline) = [] ∨ ∃ a, s.dropWhile (· ≠ newline) = newline :: a := by
  induction s with
  | nil => exact .inl rfl
  | cons c s ih =>
      by_cases hc : c = newline
      · exact .inr ⟨s, by simp [hc]⟩
      · simpa [hc] using ih

/-- The line that goes on after what was read of it. -/
theorem isLine_of_read (hbefore : before = [] ∨ ∃ b, before = b ++ [newline])
    (hread : newline ∉ read) :
    IsLine (before ++ (read ++ rest)) (read ++ rest.takeWhile (· ≠ newline)) := by
  refine ⟨?_, before, rest.dropWhile (· ≠ newline), ?_, hbefore, ?_⟩
  · rw [mem_append]
    rintro (hmem | hmem)
    · exact hread hmem
    · simpa using mem_takeWhile_imp hmem
  · rw [append_assoc, takeWhile_append_dropWhile]
  · exact dropWhile_newline rest

/-- Every piece that is read is a piece of a line, with the newline after the last one. -/
theorem pieces_isLine (hbefore : before = [] ∨ ∃ b, before = b ++ [newline])
    (hread : newline ∉ read) (hlen : read.length = (MAX_ALLOWED_LINE_LEN - 1) * k)
    (hpiece : piece ∈ pieces rest) :
    ∃ line k, IsLine (before ++ (read ++ rest)) line ∧
      (piece = pieceOf line k ∨ piece = pieceOf line k ++ [newline]) := by
  induction rest using pieces.induct generalizing before read k with
  | case1 =>
      rw [pieces] at hpiece
      exact absurd hpiece not_mem_nil
  | case2 c file ih =>
      rw [pieces_of_ne_nil (cons_ne_nil c file), mem_cons] at hpiece
      have hdrop : ∀ l more, pieceOf (read ++ (l ++ more)) k =
          (l ++ more).take (MAX_ALLOWED_LINE_LEN - 1) := by
        intro l more
        rw [pieceOf, ← hlen, drop_left]
      obtain ⟨l, rest, hfile, hl, hroom, hfgets⟩ | ⟨l, rest, hfile, hl, hfull, hfgets⟩ |
        ⟨hl, hroom, hfgets⟩ := fgets_cases (MAX_ALLOWED_LINE_LEN - 1) (c :: file)
      · rw [hfgets] at hpiece
        obtain rfl | hpiece := hpiece
        · refine ⟨read ++ (l ++ []), k, ?_, .inr ?_⟩
          · rw [hfile, append_nil]
            refine ⟨?_, before, newline :: rest, by simp, hbefore, .inr ⟨rest, rfl⟩⟩
            rw [mem_append, not_or]
            exact ⟨hread, hl⟩
          · rw [hdrop, append_nil, take_of_length_le (Nat.le_of_lt hroom)]
        · have hnext := @ih 0 (before ++ (read ++ l) ++ [newline]) [] (.inr ⟨_, rfl⟩)
            not_mem_nil rfl
          rw [show MAX_ALLOWED_LINE_LEN - 2 + 1 = MAX_ALLOWED_LINE_LEN - 1 from rfl, hfgets]
            at hnext
          have hwhole : before ++ (read ++ l) ++ [newline] ++ ([] ++ rest) =
              before ++ (read ++ c :: file) := by
            rw [hfile]
            simp
          rw [← hwhole]
          exact hnext hpiece
      · rw [hfgets] at hpiece
        obtain rfl | hpiece := hpiece
        · have hline := @isLine_of_read before (read ++ piece) rest hbefore (by
            rw [mem_append, not_or]
            exact ⟨hread, hl⟩)
          refine ⟨read ++ (piece ++ rest.takeWhile (· ≠ newline)), k, ?_, .inl ?_⟩
          · rw [hfile]
            rw [append_assoc, append_assoc] at hline
            exact hline
          · rw [hdrop, ← hfull, take_left]
        · have hnext := @ih (k + 1) before (read ++ l) hbefore (by
              rw [mem_append, not_or]
              exact ⟨hread, hl⟩) (by
              rw [length_append, hlen, hfull, Nat.mul_succ])
          rw [show MAX_ALLOWED_LINE_LEN - 2 + 1 = MAX_ALLOWED_LINE_LEN - 1 from rfl, hfgets]
            at hnext
          have hwhole : before ++ (read ++ l ++ rest) = before ++ (read ++ c :: file) := by
            rw [hfile, append_assoc]
          rw [← hwhole]
          exact hnext hpiece
      · rw [hfgets] at hpiece
        obtain rfl | hpiece := hpiece
        · refine ⟨read ++ (c :: file ++ []), k, ?_, .inl ?_⟩
          · rw [append_nil]
            refine ⟨?_, before, [], by simp, hbefore, .inl rfl⟩
            rw [mem_append, not_or]
            exact ⟨hread, hl⟩
          · rw [hdrop, append_nil, take_of_length_le (Nat.le_of_lt hroom)]
        · rw [pieces] at hpiece
          exact absurd hpiece not_mem_nil

end Lines

/-! ## Loading -/

section Loading

variable {calloc : Nat → Bool} {list : List PropertyUnit} {u v : PropertyUnit}

theorem mem_listAdd : u ∈ listAdd v list → u ∈ list ∨ u = v := by
  intro hmem
  unfold listAdd at hmem
  split at hmem
  · exact .inr (mem_singleton.1 hmem)
  · split at hmem
    · rcases mem_append.1 hmem with h | h
      · exact .inl h
      · exact .inr (mem_singleton.1 h)
    · exact .inl hmem

/-- The loader comes to its end; what it adds are fields of the pieces. -/
theorem addLines_eq_some (calloc : Nat → Bool) (lineNum : Nat) {lines : List (List UInt8)}
    (hlines : ∀ line ∈ lines, line.length < MAX_ALLOWED_LINE_LEN) (list : List PropertyUnit) :
    ∃ added, addLines calloc lineNum lines list = some added ∧
      ∀ u ∈ added, u ∈ list ∨ ∃ line ∈ lines,
        (u.propertyName.chars, u.propertyValue.chars) = fields (cString line) := by
  induction lines generalizing lineNum list with
  | nil => exact ⟨list, rfl, fun u hu => .inl hu⟩
  | cons line lines ih =>
      have hrest : ∀ line ∈ lines, line.length < MAX_ALLOWED_LINE_LEN :=
        fun l hl => hlines l (mem_cons_of_mem _ hl)
      rw [addLines]
      split
      · obtain ⟨node, hnode, hfields⟩ := pullOneLineData_eq (hlines line mem_cons_self)
        rw [hnode]
        obtain ⟨added, hadded, hfrom⟩ := ih (lineNum + 1) hrest (listAdd node list)
        refine ⟨added, hadded, ?_⟩
        intro u hu
        rcases hfrom u hu with hlist | ⟨l, hl, hu⟩
        · rcases mem_listAdd hlist with hlist | rfl
          · exact .inl hlist
          · exact .inr ⟨line, mem_cons_self, hfields⟩
        · exact .inr ⟨l, mem_cons_of_mem _ hl, hu⟩
      · obtain ⟨added, hadded, hfrom⟩ := ih (lineNum + 1) hrest list
        refine ⟨added, hadded, ?_⟩
        intro u hu
        exact (hfrom u hu).imp_right fun ⟨l, hl, hu⟩ => ⟨l, mem_cons_of_mem _ hl, hu⟩

/-- The fields of every piece of a line after the first one are empty. -/
def Unbroken (file : List UInt8) : Prop :=
  ∀ line, IsLine file line → ∀ k, fields (cString (pieceOf line (k + 1))) = ([], [])

/-- A name and a value, as far as there are any, are those of the line. -/
def CompleteIn (line : List UInt8) (u : PropertyUnit) : Prop :=
  (u.propertyName.chars = [] ∨ u.propertyName.chars = (fields line).1) ∧
    (u.propertyValue.chars = [] ∨ u.propertyValue.chars = (fields line).2)

theorem fields_newline (piece : List UInt8) :
    fields (cString (piece ++ [newline])) = fields (cString piece) := by
  rw [cString, takeWhile_append]
  split
  · next hwhole =>
      have hpiece : cString piece = piece := (List.takeWhile_prefix _).eq_of_length hwhole
      rw [hpiece, fields_append (by decide)]
  · rfl

/-- For every content of the file the loader ends within the bounds of its arrays, and
adds complete names and values only, if nothing after the first piece of a line looks like
one. -/
theorem load_complete (calloc : Nat → Bool) (file : List UInt8) (list : List PropertyUnit) :
    ∃ added status, createNodeFromPersist calloc file list = some (added, status) ∧
      (Unbroken file → ∀ u ∈ added, u ∈ list ∨ ∃ line, IsLine file line ∧ CompleteIn line u) := by
  obtain ⟨added, hadded, hfrom⟩ :=
    addLines_eq_some calloc 0 (fun _ => @length_lt_of_mem_pieces file _) list
  refine ⟨added, false, by rw [createNodeFromPersist, hadded]; rfl, ?_⟩
  intro hunbroken u hu
  refine (hfrom u hu).imp_right ?_
  rintro ⟨piece, hpiece, hfields⟩
  obtain ⟨line, k, hline, hk⟩ :=
    @pieces_isLine 0 piece [] [] file (.inl rfl) not_mem_nil rfl hpiece
  have hfields : (u.propertyName.chars, u.propertyValue.chars) =
      fields (cString (pieceOf line k)) := by
    obtain rfl | rfl := hk
    · exact hfields
    · rw [fields_newline] at hfields
      exact hfields
  refine ⟨line, hline, ?_⟩
  cases k with
  | zero =>
      have hlead : List.IsPrefix (cString (pieceOf line 0)) line :=
        (List.takeWhile_prefix _).trans (List.take_prefix _ _)
      have hline := fields_prefix hlead
      rw [← hfields] at hline
      exact hline
  | succ k =>
      rw [hunbroken line hline k, Prod.mk.injEq] at hfields
      exact ⟨.inl hfields.1, .inl hfields.2⟩

end Loading

/-! ## Saving and loading -/

/-- A list that the format can hold: names that differ and are not empty, no comma and no
newline. -/
structure Storable (list : List PropertyUnit) : Prop where
  distinct : (list.map PropertyUnit.propertyName).Nodup
  named : ∀ u ∈ list, u.propertyName.chars ≠ []
  name : ∀ u ∈ list, comma ∉ u.propertyName.chars ∧ newline ∉ u.propertyName.chars
  value : ∀ u ∈ list, comma ∉ u.propertyValue.chars ∧ newline ∉ u.propertyValue.chars

/-- The buffer has room for the name with its comma, and for the value, if there is one,
with the second comma. -/
def FitsLine (u : PropertyUnit) : Prop :=
  u.propertyName.chars.length + 1 < MAX_ALLOWED_LINE_LEN ∧
    (u.propertyValue.chars = [] ∨
      u.propertyName.chars.length + u.propertyValue.chars.length + 2 < MAX_ALLOWED_LINE_LEN)

/-- No name is found by the name of a later node. -/
def NoLaterPrefix (list : List PropertyUnit) : Prop :=
  list.Pairwise fun u v => ¬ u.matchesName v.propertyName = true

section Saving

variable {u : PropertyUnit} {list : List PropertyUnit}

/-- A line that was saved is one piece for the loader, also when the buffer cut it. -/
theorem pieces_stringToWrite (hname : newline ∉ u.propertyName.chars)
    (hvalue : newline ∉ u.propertyValue.chars) (rest : List UInt8) :
    pieces (stringToWrite u ++ rest) = stringToWrite u :: pieces rest := by
  have hbody : stringToWrite u = ((u.propertyName.chars ++ comma :: (u.propertyValue.chars ++
      comma :: nullText)) ++ [newline]).take (MAX_ALLOWED_LINE_LEN - 1) := by
    rw [stringToWrite]
    simp
  have hline : newline ∉ u.propertyName.chars ++ comma :: (u.propertyValue.chars ++
      comma :: nullText) := by
    rw [mem_append, mem_cons, mem_append, mem_cons]
    rintro (hmem | hmem | hmem | hmem | hmem)
    · exact hname hmem
    · exact absurd hmem (by decide)
    · exact hvalue hmem
    · exact absurd hmem (by decide)
    · exact absurd hmem (by decide)
  generalize u.propertyName.chars ++ comma :: (u.propertyValue.chars ++ comma :: nullText) =
    line at hbody hline
  have hread : fgets (MAX_ALLOWED_LINE_LEN - 1) (stringToWrite u ++ rest) =
      (stringToWrite u, rest) := by
    rw [hbody]
    by_cases hroom : line.length < MAX_ALLOWED_LINE_LEN - 1
    · have hwhole : (line ++ [newline]).take (MAX_ALLOWED_LINE_LEN - 1) = line ++ [newline] :=
        take_of_length_le (by rw [length_append]; exact hroom)
      rw [hwhole, append_assoc]
      exact fgets_line hline hroom rest
    · have hcut : (line ++ [newline]).take (MAX_ALLOWED_LINE_LEN - 1) =
          line.take (MAX_ALLOWED_LINE_LEN - 1) :=
        take_append_of_le_length (Nat.le_of_not_lt hroom)
      rw [hcut]
      refine fgets_full (fun hmem => hline (mem_of_mem_take hmem)) ?_ rest
      rw [length_take, Nat.min_eq_left (Nat.le_of_not_lt hroom)]
  have hne : stringToWrite u ++ rest ≠ [] := by
    rw [hbody]
    cases line <;> simp [MAX_ALLOWED_LINE_LEN]
  rw [pieces_of_ne_nil hne, hread]

theorem pieces_saved (h : Storable list) :
    pieces (list.flatMap stringToWrite) = list.map stringToWrite := by
  have hname := h.name
  have hvalue := h.value
  clear h
  induction list with
  | nil => rw [flatMap_nil, pieces, map_nil]
  | cons u list ih =>
      rw [flatMap_cons, pieces_stringToWrite (hname u mem_cons_self).2
        (hvalue u mem_cons_self).2, map_cons,
        ih (fun v hv => hname v (mem_cons_of_mem _ hv))
          fun v hv => hvalue v (mem_cons_of_mem _ hv)]

/-- The node that is read from the line of a node. -/
def reread (u : PropertyUnit) : PropertyUnit := (pullOneLineData (stringToWrite u)).getD .zero

theorem length_stringToWrite (u : PropertyUnit) :
    (stringToWrite u).length < MAX_ALLOWED_LINE_LEN :=
  Nat.lt_succ_of_le (length_take_le _ _)

theorem pullOneLineData_stringToWrite (u : PropertyUnit) :
    pullOneLineData (stringToWrite u) = some (reread u) := by
  obtain ⟨v, hv, -⟩ := pullOneLineData_eq (length_stringToWrite u)
  rw [reread, hv, Option.getD_some]

theorem reread_eq_iff (hname : comma ∉ u.propertyName.chars)
    (hvalue : comma ∉ u.propertyValue.chars) (hnamed : u.propertyName.chars ≠ []) :
    reread u = u ↔ FitsLine u := by
  obtain ⟨v, hv, hfields⟩ := pullOneLineData_eq (length_stringToWrite u)
  have hzero : cString (stringToWrite u) = stringToWrite u := by
    rw [cString, takeWhile_eq_self_iff]
    intro c hc
    have hc := mem_of_mem_take hc
    rw [decide_eq_true_eq]
    rintro rfl
    rw [mem_append, mem_cons, mem_append, mem_cons] at hc
    rcases hc with hc | hc | hc | hc | hc
    · exact u.propertyName.noTerminator hc
    · exact absurd hc (by decide)
    · exact u.propertyValue.noTerminator hc
    · exact absurd hc (by decide)
    · exact absurd hc (by decide)
  rw [hzero, stringToWrite, fields_take hname hvalue] at hfields
  have hreread : reread u = v := by rw [reread, hv, Option.getD_some]
  have hroom : u.propertyName.chars.length < MAX_ALLOWED_LINE_LEN - 1 ↔
      u.propertyName.chars.length + 1 < MAX_ALLOWED_LINE_LEN := by
    unfold MAX_ALLOWED_LINE_LEN
    omega
  have hsecond : u.propertyName.chars.length + u.propertyValue.chars.length + 2 ≤
      MAX_ALLOWED_LINE_LEN - 1 ↔ u.propertyName.chars.length + u.propertyValue.chars.length + 2 <
        MAX_ALLOWED_LINE_LEN := by
    unfold MAX_ALLOWED_LINE_LEN
    omega
  rw [hreread, PropertyUnit.ext_iff, CString.ext_iff, CString.ext_iff, FitsLine, ← hroom,
    ← hsecond]
  by_cases hfirst : u.propertyName.chars.length < MAX_ALLOWED_LINE_LEN - 1
  · rw [if_pos hfirst, Prod.mk.injEq] at hfields
    rw [hfields.1, hfields.2]
    split
    · next hboth => exact iff_of_true ⟨rfl, rfl⟩ ⟨hfirst, .inr hboth⟩
    · next hcut =>
        rw [eq_comm (a := [])]
        exact ⟨fun h => ⟨hfirst, .inl h.2⟩, fun h => ⟨rfl, h.2.resolve_right hcut⟩⟩
  · -- the name takes the whole buffer, and no comma is written
    rw [if_neg hfirst, Prod.mk.injEq] at hfields
    rw [hfields.1]
    exact iff_of_false (fun h => hnamed h.1.symm) fun h => hfirst h.1

/-- The nodes are added one after the other. -/
def addAll (units list : List PropertyUnit) : List PropertyUnit :=
  units.foldl (fun list u => listAdd u list) list

theorem addLines_saved (lineNum : Nat) (units list : List PropertyUnit) :
    addLines (fun _ => true) lineNum (units.map stringToWrite) list =
      some (addAll (units.map reread) list) := by
  induction units generalizing lineNum list with
  | nil => rfl
  | cons u units ih =>
      rw [map_cons, addLines, if_pos rfl, pullOneLineData_stringToWrite]
      exact ih _ _

theorem listAdd_of_some {v : PropertyUnit} (h : listMatchesPropName u.propertyName list = some v) :
    listAdd u list = list := by
  cases list with
  | nil => cases h
  | cons w list => simp only [listAdd, h]

/-- The nodes that are added are some of those that were read, in their order. -/
theorem addAll_sublist (units list : List PropertyUnit) :
    ∃ added, List.Sublist added units ∧ addAll units list = list ++ added := by
  induction units generalizing list with
  | nil => exact ⟨[], List.Sublist.refl _, (append_nil list).symm⟩
  | cons u units ih =>
      cases hfound : listMatchesPropName u.propertyName list with
      | none =>
          obtain ⟨added, hsub, hadded⟩ := ih (list ++ [u])
          refine ⟨u :: added, hsub.cons_cons u, ?_⟩
          rw [addAll, foldl_cons, listAdd_of_none hfound]
          refine hadded.trans ?_
          rw [append_assoc, singleton_append]
      | some v =>
          obtain ⟨added, hsub, hadded⟩ := ih list
          refine ⟨added, hsub.cons u, ?_⟩
          rw [addAll, foldl_cons, listAdd_of_some hfound]
          exact hadded

/-- All of them are added if none is found by its name among those before it. -/
theorem addAll_eq_iff (units list : List PropertyUnit) :
    addAll units list = list ++ units ↔
      NoLaterPrefix units ∧ ∀ u ∈ list, ∀ v ∈ units, ¬ u.matchesName v.propertyName = true := by
  induction units generalizing list with
  | nil => simp [addAll, NoLaterPrefix]
  | cons v units ih =>
      have hcons : ∀ list', listAdd v list = list' →
          addAll (v :: units) list = addAll units list' := by
        rintro list' rfl
        rfl
      rw [NoLaterPrefix, pairwise_cons]
      cases hfound : listMatchesPropName v.propertyName list with
      | none =>
          have hnone := listMatchesPropName_eq_none.1 hfound
          have hih := ih (list ++ [v])
          rw [append_assoc, singleton_append] at hih
          rw [hcons _ (listAdd_of_none hfound), hih]
          constructor
          · rintro ⟨hrest, hbefore⟩
            refine ⟨⟨?_, hrest⟩, ?_⟩
            · intro w hw
              exact hbefore v (mem_append_right _ (mem_singleton_self v)) w hw
            · intro u hu w hw
              obtain rfl | hw := mem_cons.1 hw
              · exact hnone u hu
              · exact hbefore u (mem_append_left _ hu) w hw
          · rintro ⟨⟨hv, hrest⟩, hbefore⟩
            refine ⟨hrest, ?_⟩
            intro u hu w hw
            rcases mem_append.1 hu with hu | hu
            · exact hbefore u hu w (mem_cons_of_mem _ hw)
            · obtain rfl := mem_singleton.1 hu
              exact hv w hw
      | some u =>
          rw [hcons _ (listAdd_of_some hfound)]
          refine iff_of_false ?_ ?_
          · intro heq
            obtain ⟨added, hsub, hadded⟩ := addAll_sublist units list
            rw [hadded] at heq
            have hlen := congrArg length (append_cancel_left heq)
            have hle := hsub.length_le
            rw [hlen, length_cons] at hle
            exact absurd hle (Nat.not_succ_le_self _)
          · rintro ⟨-, hbefore⟩
            exact hbefore u (mem_of_find?_eq_some hfound) v mem_cons_self
              (find?_some hfound)

theorem map_reread_eq_iff (h : Storable list) :
    list.map reread = list ↔ ∀ u ∈ list, FitsLine u := by
  have hname := h.name
  have hvalue := h.value
  have hnamed := h.named
  constructor
  · intro hmap u hu
    have hu' : reread u = u :=
      map_inj_left.1 (hmap.trans (map_id list).symm) u hu
    exact (reread_eq_iff (hname u hu).1 (hvalue u hu).1 (hnamed u hu)).1 hu'
  · intro hfits
    refine (map_congr_left fun u hu => ?_).trans (map_id list)
    exact (reread_eq_iff (hname u hu).1 (hvalue u hu).1 (hnamed u hu)).2 (hfits u hu)

/-- What comes back from the file of a list. -/
theorem load_saved_iff (h : Storable list) :
    createNodeFromPersist (fun _ => true) (list.flatMap stringToWrite) [] = some (list, false) ↔
      (∀ u ∈ list, FitsLine u) ∧ NoLaterPrefix list := by
  rw [createNodeFromPersist, pieces_saved h, addLines_saved, Option.map_some, Option.some.injEq,
    Prod.mk.injEq, and_iff_left rfl, ← map_reread_eq_iff h]
  constructor
  · intro heq
    obtain ⟨added, hsub, hadded⟩ := addAll_sublist (list.map reread) []
    rw [hadded, nil_append] at heq
    subst heq
    have hmap : added.map reread = added :=
      (hsub.eq_of_length (length_map _).symm).symm
    rw [hmap] at hadded
    exact ⟨hmap, ((addAll_eq_iff added []).1 hadded).1⟩
  · rintro ⟨hmap, hlead⟩
    rw [hmap]
    refine (addAll_eq_iff list []).2 ⟨hlead, ?_⟩
    intro u hu
    exact absurd hu not_mem_nil

/-- Without an error of the file all lines are in it. -/
theorem saved_content (retval : Bool) (list : List PropertyUnit) :
    (saveNodes (fun _ => true) retval list).1 = list.flatMap stringToWrite := by
  induction list generalizing retval with
  | nil => rfl
  | cons u list ih =>
      rw [saveNodes, if_pos rfl, flatMap_cons, ← ih true]

theorem content_of_saved {file : List UInt8} {saved : Bool}
    (h : saveDsToPersist true (fun _ => true) list = (some file, saved)) :
    list.flatMap stringToWrite = file := by
  have hcontent := congrArg Prod.fst h
  rw [saveDsToPersist, if_pos rfl] at hcontent
  exact (saved_content false list).symm.trans (Option.some.inj hcontent)

end Saving

/-- A list comes back from its file if and only if every name and value with their commas fit
in the buffer and no name is found by the name of a later node. The loader stays within its
arrays for every file, and adds complete names and values if the later pieces of long lines
hold none. -/
theorem saved_and_reloaded (list : List PropertyUnit) (hlist : Storable list)
    (calloc : Nat → Bool) (anyFile : List UInt8) (loaded : List PropertyUnit) :
    (∀ file status, saveDsToPersist true (fun _ => true) list = (some file, status) →
      (createNodeFromPersist (fun _ => true) file [] = some (list, false) ↔
        (∀ u ∈ list, FitsLine u) ∧ NoLaterPrefix list)) ∧
    ∃ added status, createNodeFromPersist calloc anyFile loaded = some (added, status) ∧
      (Unbroken anyFile →
        ∀ u ∈ added, u ∈ loaded ∨ ∃ line, IsLine anyFile line ∧ CompleteIn line u) := by
  refine ⟨?_, load_complete calloc anyFile loaded⟩
  intro file status hsaved
  rw [← content_of_saved hsaved]
  exact load_saved_iff hlist

/-- One property, saved and read back. -/
theorem saved_and_reloaded_one :
    let list : List PropertyUnit :=
      [⟨⟨[98, 116], by decide, by decide⟩, ⟨[49], by decide, by decide⟩⟩]
    ∃ file, saveDsToPersist true (fun _ => true) list = (some file, true) ∧
      createNodeFromPersist (fun _ => true) file [] = some (list, false) := by
  intro list
  have hstorable : Storable list := ⟨by decide, by decide, by decide, by decide⟩
  refine ⟨_, rfl, ((saved_and_reloaded list hstorable (fun _ => true) [] []).1 _ _ rfl).2 ?_⟩
  refine ⟨?_, by unfold NoLaterPrefix; decide⟩
  intro u hu
  obtain rfl := mem_singleton.1 hu
  exact ⟨by decide, by decide⟩

/-- The property `b` after `bt` is not read back. -/
theorem later_prefix_lost :
    let list : List PropertyUnit :=
      [⟨⟨[98, 116], by decide, by decide⟩, ⟨[49], by decide, by decide⟩⟩,
        ⟨⟨[98], by decide, by decide⟩, ⟨[50], by decide, by decide⟩⟩]
    Storable list ∧ ∃ file status, saveDsToPersist true (fun _ => true) list = (some file, status) ∧
      createNodeFromPersist (fun _ => true) file [] ≠ some (list, false) := by
  intro list
  have hstorable : Storable list := by
    refine ⟨by decide, by decide, by decide, by decide⟩
  refine ⟨hstorable, _, _, rfl, ?_⟩
  intro hloaded
  have hfile : list.flatMap stringToWrite = (saveNodes (fun _ => true) false list).1 :=
    (saved_content false list).symm
  rw [← hfile, load_saved_iff hstorable] at hloaded
  exact absurd hloaded.2 (by unfold NoLaterPrefix; decide)

end Property
