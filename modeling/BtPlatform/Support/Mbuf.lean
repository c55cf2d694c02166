import BtPlatform.Support.Status

/-!
# Message buffers

An mbuf is an array of cells, each holding or referencing a run of bytes. The
number of cells is fixed when the mbuf is allocated; the length fields are
sixteen-bit. A cell that keeps a reference to a buffer of the application
(disposition `MBUF_KEEP`) remembers which buffer that is, so that a claim about
bytes still in flight can name their owner.
-/

namespace Support

open List

/-- The identity of a buffer that belongs to the application. -/
abbrev BufferId := Nat

/-- `OI_MBUF_CELL`. -/
structure Cell where
  bytes : List UInt8
  keeps : Option BufferId
  deriving DecidableEq, Repr

/-- `OI_MBUF`, not windowed and without nested mbufs. -/
structure Mbuf where
  allocCells : Nat
  cells : List Cell
  numBytes : Nat
  deriving DecidableEq, Repr

namespace Mbuf

/-- `OI_MBUF_Alloc`, once its memory has been obtained; the argument is a `OI_UINT8`. -/
def alloc (numCells : Nat) : Mbuf := ⟨numCells % 256, [], 0⟩

/-- `OI_MBUF_Append`; a buffer without bytes takes no cell. -/
def append (mbuf : Mbuf) (bytes : List UInt8) (keeps : Option BufferId) : Status × Mbuf :=
  if bytes = [] then (.ok, mbuf)
  else if mbuf.allocCells ≤ mbuf.cells.length then (.mbufOverflow, mbuf)
  else
    (.ok, { mbuf with
      cells := mbuf.cells ++ [⟨bytes, keeps⟩]
      numBytes := (mbuf.numBytes + bytes.length) % 65536 })

/-- `OI_MBUF_Prepend`. -/
def prepend (mbuf : Mbuf) (bytes : List UInt8) (keeps : Option BufferId) : Status × Mbuf :=
  if bytes = [] then (.ok, mbuf)
  else if mbuf.allocCells ≤ mbuf.cells.length then (.mbufOverflow, mbuf)
  else
    (.ok, { mbuf with
      cells := ⟨bytes, keeps⟩ :: mbuf.cells
      numBytes := (mbuf.numBytes + bytes.length) % 65536 })

/-- `OI_MBUF_Wrap` of a short command. -/
def wrap (bytes : List UInt8) : Mbuf := ⟨1, [⟨bytes, none⟩], bytes.length % 65536⟩

/-- The bytes of the cells, in order. -/
def bytes (mbuf : Mbuf) : List UInt8 := mbuf.cells.flatMap Cell.bytes

@[simp] theorem bytes_alloc (n : Nat) : (alloc n).bytes = [] := rfl
@[simp] theorem cells_alloc (n : Nat) : (alloc n).cells = [] := rfl
@[simp] theorem allocCells_alloc (n : Nat) : (alloc n).allocCells = n % 256 := rfl

/-- An attempt to put bytes at one end of an mbuf, using at most `n` cells. -/
structure Placed (front : Bool) (sent : List UInt8) (n : Nat) (mbuf : Mbuf)
    (result : Status × Mbuf) : Prop where
  bytes : result.1 = .ok →
    result.2.bytes = if front then sent ++ mbuf.bytes else mbuf.bytes ++ sent
  allocCells : result.2.allocCells = mbuf.allocCells
  cells_ge : mbuf.cells.length ≤ result.2.cells.length
  cells_le : result.2.cells.length ≤ mbuf.cells.length + n
  bounded : mbuf.cells.length ≤ mbuf.allocCells → result.2.cells.length ≤ mbuf.allocCells
  uses : result.1 = .ok → sent ≠ [] → mbuf.cells.length < result.2.cells.length
  succeeds : mbuf.cells.length + n ≤ mbuf.allocCells → result.1 = .ok

theorem append_placed (mbuf : Mbuf) (sent : List UInt8) (keeps : Option BufferId) :
    Placed false sent 1 mbuf (mbuf.append sent keeps) := by
  unfold append
  split
  · next hnil => constructor <;> simp [hnil]
  · split
    · next hne hfull => constructor <;> intros <;> simp at * <;> omega
    · next hne hroom => constructor <;> simp [bytes] <;> omega

theorem prepend_placed (mbuf : Mbuf) (sent : List UInt8) (keeps : Option BufferId) :
    Placed true sent 1 mbuf (mbuf.prepend sent keeps) := by
  unfold prepend
  split
  · next hnil => constructor <;> simp [hnil]
  · split
    · next hne hfull => constructor <;> intros <;> simp at * <;> omega
    · next hne hroom => constructor <;> simp [bytes] <;> omega

variable {mbuf : Mbuf} {pieces : List (List UInt8 × Option BufferId)}

/-- Two attempts in a row, the second only if the first succeeds. -/
theorem Placed.andThen {front : Bool} {first second : List UInt8} {n k : Nat} {mbuf' : Mbuf}
    {result : Status × Mbuf} (h1 : Placed front first n mbuf (.ok, mbuf'))
    (h2 : Placed front second k mbuf' result) :
    Placed front (if front then second ++ first else first ++ second) (n + k) mbuf result where
  bytes := by
    intro hok
    have hfirst := h1.bytes rfl
    have hsecond := h2.bytes hok
    rw [hsecond]
    cases front <;> simp_all
  allocCells := h2.allocCells.trans h1.allocCells
  cells_ge := Nat.le_trans h1.cells_ge h2.cells_ge
  cells_le := by
    have hfirst := h1.cells_le
    have hsecond := h2.cells_le
    simp only at hfirst hsecond ⊢
    omega
  bounded := by
    intro hle
    have hfirst := h1.bounded hle
    have halloc := h1.allocCells
    simp only at hfirst halloc
    rw [← halloc]
    exact h2.bounded (by omega)
  uses := by
    intro hok hne
    have hfirst := h1.uses rfl
    have hsecond := h2.uses hok
    have hge1 := h1.cells_ge
    have hge2 := h2.cells_ge
    simp only at hfirst hge1
    by_cases hnil : first = []
    · have : second ≠ [] := by
        rintro rfl
        cases front <;> simp [hnil] at hne
      have := hsecond this
      omega
    · have := hfirst hnil
      omega
  succeeds := by
    intro hroom
    have halloc := h1.allocCells
    have hle := h1.cells_le
    simp only at halloc hle
    exact h2.succeeds (by omega)

/-- The first of two attempts fails. -/
theorem Placed.failed {front : Bool} {first sent : List UInt8} {n : Nat} {result : Status × Mbuf}
    (h : Placed front first n mbuf result) (hfail : result.1 ≠ .ok) (k : Nat) :
    Placed front sent (n + k) mbuf result := { h with
  bytes := fun hok => absurd hok hfail
  cells_le := Nat.le_trans h.cells_le (by omega)
  uses := fun hok => absurd hok hfail
  succeeds := fun hroom => absurd (h.succeeds (by omega)) hfail }

/-! ## Filling an mbuf -/

/-- Append pieces one after the other, whatever the outcome. -/
def appendAll (mbuf : Mbuf) (pieces : List (List UInt8 × Option BufferId)) : Mbuf :=
  pieces.foldl (fun mbuf piece => (mbuf.append piece.1 piece.2).2) mbuf

/-- The cells that the pieces take. -/
def cellsFor (pieces : List (List UInt8 × Option BufferId)) : Nat :=
  pieces.countP fun piece => !piece.1.isEmpty

@[simp] theorem appendAll_nil (mbuf : Mbuf) : mbuf.appendAll [] = mbuf := rfl

@[simp] theorem appendAll_cons (mbuf : Mbuf) (piece : List UInt8 × Option BufferId)
    (pieces : List (List UInt8 × Option BufferId)) :
    mbuf.appendAll (piece :: pieces) = (mbuf.append piece.1 piece.2).2.appendAll pieces := rfl

/-- One more cell at the end. -/
def withCell (mbuf : Mbuf) (cell : Cell) : Mbuf :=
  { mbuf with
    cells := mbuf.cells ++ [cell]
    numBytes := (mbuf.numBytes + cell.bytes.length) % 65536 }

@[simp] theorem cells_withCell (mbuf : Mbuf) (cell : Cell) :
    (mbuf.withCell cell).cells = mbuf.cells ++ [cell] := rfl

@[simp] theorem allocCells_withCell (mbuf : Mbuf) (cell : Cell) :
    (mbuf.withCell cell).allocCells = mbuf.allocCells := rfl

@[simp] theorem bytes_withCell (mbuf : Mbuf) (cell : Cell) :
    (mbuf.withCell cell).bytes = mbuf.bytes ++ cell.bytes := by
  simp [Mbuf.bytes]

theorem append_of_room {bytes : List UInt8} (keeps : Option BufferId) (hne : bytes ≠ [])
    (hroom : mbuf.cells.length < mbuf.allocCells) :
    mbuf.append bytes keeps = (.ok, mbuf.withCell ⟨bytes, keeps⟩) := by
  rw [append, if_neg hne, if_neg (Nat.not_le.2 hroom)]
  rfl

theorem append_of_full {bytes : List UInt8} (keeps : Option BufferId) (hne : bytes ≠ [])
    (hfull : mbuf.allocCells ≤ mbuf.cells.length) :
    mbuf.append bytes keeps = (.mbufOverflow, mbuf) := by
  rw [append, if_neg hne, if_pos hfull]

@[simp] theorem append_empty (mbuf : Mbuf) (keeps : Option BufferId) :
    mbuf.append [] keeps = (.ok, mbuf) := rfl

theorem cellsFor_cons (piece : List UInt8 × Option BufferId)
    (pieces : List (List UInt8 × Option BufferId)) :
    cellsFor (piece :: pieces) = cellsFor pieces + if piece.1 = [] then 0 else 1 := by
  obtain ⟨bytes, keeps⟩ := piece
  cases bytes <;> simp [cellsFor]

/-- With a cell for every piece all bytes get in. -/
theorem bytes_appendAll (hroom : mbuf.cells.length + cellsFor pieces ≤ mbuf.allocCells) :
    (mbuf.appendAll pieces).bytes = mbuf.bytes ++ pieces.flatMap Prod.fst := by
  induction pieces generalizing mbuf with
  | nil => simp
  | cons piece pieces ih =>
      obtain ⟨bytes, keeps⟩ := piece
      rw [cellsFor_cons] at hroom
      by_cases hnil : bytes = []
      · subst hnil
        simpa using ih (by simpa using hroom)
      · rw [if_neg hnil] at hroom
        rw [appendAll_cons, append_of_room keeps hnil (by omega), ih, bytes_withCell]
        · simp
        · simp only [cells_withCell, allocCells_withCell, length_append,
            length_singleton]
          omega

theorem cellsFor_le_length {pieces : List (List UInt8 × Option BufferId)} :
    cellsFor pieces ≤ (pieces.flatMap Prod.fst).length := by
  induction pieces with
  | nil => exact Nat.zero_le _
  | cons piece pieces ih =>
      rw [cellsFor_cons, flatMap_cons, length_append]
      split
      · omega
      · next hne =>
          have hpos := length_pos_iff.2 hne
          omega

/-- What is in an mbuf stays in front. -/
theorem prefix_appendAll (mbuf : Mbuf) (pieces : List (List UInt8 × Option BufferId)) :
    mbuf.bytes <+: (mbuf.appendAll pieces).bytes := by
  induction pieces generalizing mbuf with
  | nil => exact prefix_rfl
  | cons piece pieces ih =>
      obtain ⟨bytes, keeps⟩ := piece
      rw [appendAll_cons]
      refine List.IsPrefix.trans ?_ (ih _)
      unfold append
      split
      · exact prefix_rfl
      · split
        · exact prefix_rfl
        · exact ⟨bytes, by simp [Mbuf.bytes]⟩

/-- Nothing gets into a full mbuf. -/
theorem appendAll_of_full (hfull : mbuf.allocCells ≤ mbuf.cells.length) :
    mbuf.appendAll pieces = mbuf := by
  induction pieces with
  | nil => rfl
  | cons piece pieces ih =>
      obtain ⟨bytes, keeps⟩ := piece
      have hsame : (mbuf.append bytes keeps).2 = mbuf := by
        by_cases hnil : bytes = []
        · rw [hnil, append_empty]
        · rw [append_of_full keeps hnil hfull]
      rw [appendAll_cons, hsame, ih]

/-- No append adds more than its piece. -/
theorem length_appendAll_le (mbuf : Mbuf) (pieces : List (List UInt8 × Option BufferId)) :
    (mbuf.appendAll pieces).bytes.length ≤
      mbuf.bytes.length + (pieces.flatMap Prod.fst).length := by
  induction pieces generalizing mbuf with
  | nil => simp
  | cons piece pieces ih =>
      obtain ⟨bytes, keeps⟩ := piece
      have hone : (mbuf.append bytes keeps).2.bytes.length ≤ mbuf.bytes.length + bytes.length := by
        unfold append
        split
        · exact Nat.le_add_right _ _
        · split
          · exact Nat.le_add_right _ _
          · simp [Mbuf.bytes]
      have hrest := ih (mbuf.append bytes keeps).2
      rw [appendAll_cons]
      simp only [flatMap_cons, length_append]
      omega

/-- With too few cells some bytes are missing. -/
theorem length_appendAll_lt (hle : mbuf.cells.length ≤ mbuf.allocCells)
    (hshort : mbuf.allocCells < mbuf.cells.length + cellsFor pieces) :
    (mbuf.appendAll pieces).bytes.length <
      mbuf.bytes.length + (pieces.flatMap Prod.fst).length := by
  induction pieces generalizing mbuf with
  | nil =>
      simp only [cellsFor, countP_nil] at hshort
      omega
  | cons piece pieces ih =>
      obtain ⟨bytes, keeps⟩ := piece
      rw [cellsFor_cons] at hshort
      by_cases hnil : bytes = []
      · subst hnil
        have hlt := ih hle (by simpa using hshort)
        simpa using hlt
      · rw [if_neg hnil] at hshort
        have hpos : 0 < bytes.length := length_pos_iff.2 hnil
        rw [appendAll_cons]
        simp only [flatMap_cons, length_append]
        rcases Nat.lt_or_ge mbuf.cells.length mbuf.allocCells with hroom | hfull
        · rw [append_of_room keeps hnil hroom]
          have hlt : ((mbuf.withCell ⟨bytes, keeps⟩).appendAll pieces).bytes.length <
              (mbuf.withCell ⟨bytes, keeps⟩).bytes.length + (pieces.flatMap Prod.fst).length := by
            apply ih
            · rw [cells_withCell, length_append, length_singleton]
              exact hroom
            · simp only [cells_withCell, allocCells_withCell, length_append,
                length_singleton]
              omega
          rw [bytes_withCell, length_append] at hlt
          dsimp only at hlt ⊢
          omega
        · rw [append_of_full keeps hnil hfull]
          have hrest := length_appendAll_le mbuf pieces
          dsimp only
          omega

end Mbuf

end Support
