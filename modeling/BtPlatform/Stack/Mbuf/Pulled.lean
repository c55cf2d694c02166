import BtPlatform.Stack.Mbuf.Tree
import Mathlib.Algebra.GroupWithZero.Nat
import Mathlib.Tactic.Common

/-!
# What is pulled from a message buffer

The contents of a tree of mbufs are a sequence of bytes, and a window is a stretch of it.
Reading goes on through the cursors of all the mbufs on the way to a byte; `Reads` says at
which position of the contents they stand.
-/

namespace List

variable {α : Type}

/-- Consecutive pieces of the given sizes, as far as the list goes. -/
def cut (xs : List α) : List Nat → List (List α)
  | [] => []
  | n :: ns => xs.take n :: (xs.drop n).cut ns

end List

namespace Stack

open Support

/-! ## Contents -/

mutual

/-- The bytes of an mbuf, whether in its window or not. -/
def Mbuf.contents : Mbuf → List UInt8
  | ⟨_, cells, _, _, _, _, _⟩ => cellsBytes cells

/-- The bytes of cells. -/
def cellsBytes : List (Cell Mbuf) → List UInt8
  | [] => []
  | cell :: cells => cellBytes cell ++ cellsBytes cells

/-- The bytes of a cell: of a nested mbuf those in the window it was nested with. -/
def cellBytes : Cell Mbuf → List UInt8
  | .data _ bytes => bytes
  | .nested len winStart mbuf => (mbuf.contents.drop winStart).take len

end

/-- The bytes in the window of an mbuf from which nothing has been pulled. -/
def Mbuf.view (mbuf : Mbuf) : List UInt8 :=
  (mbuf.contents.drop mbuf.winStart).take mbuf.numBytes

theorem Mbuf.contents_eq (mbuf : Mbuf) : mbuf.contents = cellsBytes mbuf.cells := by
  cases mbuf
  rfl

@[simp] theorem cellsBytes_nil : cellsBytes [] = [] := rfl

@[simp] theorem cellsBytes_cons (cell : Cell Mbuf) (cells : List (Cell Mbuf)) :
    cellsBytes (cell :: cells) = cellBytes cell ++ cellsBytes cells := rfl

@[simp] theorem cellsBytes_append (cells cells' : List (Cell Mbuf)) :
    cellsBytes (cells ++ cells') = cellsBytes cells ++ cellsBytes cells' := by
  induction cells with
  | nil => rfl
  | cons cell cells ih => simp [ih]

mutual

/-- No mbuf of the tree holds more bytes than sixteen bits can count. -/
def Mbuf.Small : Mbuf → Prop
  | ⟨_, cells, _, _, _, _, _⟩ => (cellsBytes cells).length ≤ 65535 ∧ CellsSmall cells

def CellsSmall : List (Cell Mbuf) → Prop
  | [] => True
  | cell :: cells => CellSmall cell ∧ CellsSmall cells

def CellSmall : Cell Mbuf → Prop
  | .data _ _ => True
  | .nested _ _ mbuf => mbuf.Small

end

mutual

/-- Nothing has been pulled from any mbuf of the tree, and what is nested keeps the window
it was nested with. -/
def Mbuf.Fresh : Mbuf → Prop
  | ⟨_, cells, currCell, currPos, _, _, _⟩ =>
      currCell = 0 ∧ currPos = 0 ∧ (cellsBytes cells).length ≤ 65535 ∧ CellsFresh cells

def CellsFresh : List (Cell Mbuf) → Prop
  | [] => True
  | cell :: cells => CellFresh cell ∧ CellsFresh cells

def CellFresh : Cell Mbuf → Prop
  | .data _ _ => True
  | .nested len winStart mbuf =>
      mbuf.Fresh ∧ winStart = mbuf.winStart ∧ winStart + len ≤ mbuf.contents.length

end

theorem Mbuf.small_iff (mbuf : Mbuf) :
    mbuf.Small ↔ mbuf.contents.length ≤ 65535 ∧ CellsSmall mbuf.cells := by
  cases mbuf
  exact Iff.rfl

theorem Mbuf.fresh_iff (mbuf : Mbuf) :
    mbuf.Fresh ↔ mbuf.currCell = 0 ∧ mbuf.currPos = 0 ∧ mbuf.contents.length ≤ 65535 ∧
      CellsFresh mbuf.cells := by
  cases mbuf
  exact Iff.rfl

theorem cellsSmall_append {cells cells' : List (Cell Mbuf)} :
    CellsSmall (cells ++ cells') ↔ CellsSmall cells ∧ CellsSmall cells' := by
  induction cells with
  | nil => exact (iff_of_eq (true_and _)).symm
  | cons cell cells ih =>
      change CellSmall cell ∧ CellsSmall (cells ++ cells') ↔
        (CellSmall cell ∧ CellsSmall cells) ∧ CellsSmall cells'
      rw [ih, and_assoc]

theorem cellsFresh_append {cells cells' : List (Cell Mbuf)} :
    CellsFresh (cells ++ cells') ↔ CellsFresh cells ∧ CellsFresh cells' := by
  induction cells with
  | nil => exact (iff_of_eq (true_and _)).symm
  | cons cell cells ih =>
      change CellFresh cell ∧ CellsFresh (cells ++ cells') ↔
        (CellFresh cell ∧ CellsFresh cells) ∧ CellsFresh cells'
      rw [ih, and_assoc]

theorem cellBytes_length {cell : Cell Mbuf} (h : CellFresh cell) :
    (cellBytes cell).length = cell.len := by
  cases cell with
  | data disposition bytes => rfl
  | nested len winStart mbuf =>
      have hroom : winStart + len ≤ mbuf.contents.length := h.2.2
      change ((mbuf.contents.drop winStart).take len).length = len
      rw [List.length_take, List.length_drop]
      omega

variable {cells : List (Cell Mbuf)} {p : Nat}

theorem cellsBytes_length (h : CellsFresh cells) : (cellsBytes cells).length = cellsLen cells := by
  induction cells with
  | nil => rfl
  | cons cell cells ih =>
      obtain ⟨hcell, hcells⟩ := h
      rw [cellsBytes_cons, List.length_append, cellBytes_length hcell, ih hcells, cellsLen]

/-! ## Trees -/

/-- A tree that the building functions have made; the flag tells whether a window has been
set on the outermost mbuf. -/
inductive Built : Bool → Mbuf → Prop
  | alloc (numCells : UInt8) : Built false (.alloc numCells)
  | prepend {mbuf mbuf' : Mbuf} {buf : List UInt8} {disposition : Disposition} {room : Bool}
      {status : Status} : Built false mbuf →
      mbuf.prepend buf disposition room = .ok (status, mbuf') → Built false mbuf'
  | append {mbuf mbuf' : Mbuf} {buf : List UInt8} {disposition : Disposition} {room : Bool}
      {status : Status} : Built false mbuf →
      mbuf.append buf disposition room = .ok (status, mbuf') → Built false mbuf'
  | appendMbuf {mbuf added mbuf' : Mbuf} {windowed : Bool} {status : Status} :
      Built false mbuf → Built windowed added →
      mbuf.appendMbuf added = .ok (status, mbuf') → Built false mbuf'
  | setWindowAt {mbuf mbuf' : Mbuf} {windowed : Bool} {winStart winSize size : Nat} :
      Built windowed mbuf → mbuf.setWindowAt winStart winSize = .ok (size, mbuf') →
      Built true mbuf'

/-- What is true of a tree: it is fresh, and the window lies inside. -/
structure Mbuf.Ready (windowed : Bool) (mbuf : Mbuf) : Prop where
  fresh : mbuf.Fresh
  inside : mbuf.winStart + mbuf.numBytes ≤ mbuf.contents.length
  whole : windowed = false → mbuf.winStart = 0 ∧ mbuf.numBytes = mbuf.contents.length

namespace Mbuf

open List

variable {mbuf mbuf' added : Mbuf} {buf : List UInt8} {disposition : Disposition} {room : Bool}
  {status : Status}

/-- `InitCell` fills the cell, or leaves it empty and reports that there is no memory. -/
theorem initCell_cases (buf : List UInt8) (disposition : Disposition) (room : Bool) :
    (∃ d, initCell buf disposition room = (.ok, .data d buf)) ∨
      initCell buf disposition room = (.outOfMemory, .data .keep []) := by
  unfold initCell
  split
  · split
    · exact .inl ⟨_, rfl⟩
    · cases room with
      | true => exact .inl ⟨_, rfl⟩
      | false => exact .inr rfl
  · exact .inl ⟨_, rfl⟩

/-- What `OI_MBUF_Prepend` does to the mbuf, if it does anything. -/
theorem prepend_cases (h : mbuf.prepend buf disposition room = .ok (status, mbuf')) :
    mbuf' = mbuf ∨ (∃ d, mbuf' = { mbuf with cells := .data d [] :: mbuf.cells }) ∨
      ∃ d, mbuf' = { mbuf with
        cells := .data d buf :: mbuf.cells
        numBytes := (mbuf.numBytes + buf.length) % 65536 } := by
  unfold prepend at h
  split at h
  · cases h
  split at h
  · cases h
    exact .inl rfl
  split at h
  · cases h
    exact .inl rfl
  split at h
  · cases h
    exact .inl rfl
  · rcases initCell_cases buf disposition room with ⟨d, hcell⟩ | hcell
    · rw [hcell] at h
      cases h
      exact .inr (.inr ⟨d, rfl⟩)
    · rw [hcell] at h
      cases h
      exact .inr (.inl ⟨_, rfl⟩)

/-- What `OI_MBUF_Append` does to the mbuf, if it does anything. -/
theorem append_cases (h : mbuf.append buf disposition room = .ok (status, mbuf')) :
    mbuf' = mbuf ∨ ∃ d, mbuf' = { mbuf with
      cells := mbuf.cells ++ [.data d buf]
      numBytes := (mbuf.numBytes + buf.length) % 65536 } := by
  unfold append at h
  split at h
  · cases h
  split at h
  · cases h
    exact .inl rfl
  split at h
  · cases h
    exact .inl rfl
  split at h
  · cases h
    exact .inl rfl
  · rcases initCell_cases buf disposition room with ⟨d, hcell⟩ | hcell
    · rw [hcell] at h
      cases h
      exact .inr ⟨d, rfl⟩
    · rw [hcell] at h
      cases h
      exact .inl rfl

theorem appendMbuf_cases (h : mbuf.appendMbuf added = .ok (status, mbuf')) :
    mbuf' = mbuf ∨ mbuf' = { mbuf with
      cells := mbuf.cells ++ [.nested added.numBytes added.winStart added]
      numBytes := (mbuf.numBytes + added.numBytes) % 65536 } := by
  unfold appendMbuf at h
  split at h
  · cases h
  split at h
  · cases h
    exact .inl rfl
  · cases h
    exact .inr rfl

/-- The mbuf with the window that `OI_MBUF_SetWindowAt` sets. -/
def windowAt (mbuf : Mbuf) (winStart winSize : Nat) : Mbuf :=
  let start := min mbuf.contents.length winStart
  let size := min (mbuf.contents.length - start) winSize
  { mbuf with winStart := start, winSize := size, numBytes := size }

theorem setWindowAt_eq (h : mbuf.Fresh) (winStart winSize : Nat) :
    mbuf.setWindowAt winStart winSize =
      .ok (((mbuf.contents.drop winStart).take winSize).length,
        mbuf.windowAt winStart winSize) := by
  obtain ⟨hcell, hpos, hlen, hcells⟩ := mbuf.fresh_iff.1 h
  have hclean : mbuf.isDirty = false := by simp [isDirty, hcell, hpos]
  have hsum : cellsLen mbuf.cells % 65536 = mbuf.contents.length := by
    rw [← cellsBytes_length hcells, ← mbuf.contents_eq]
    omega
  have hsize : ((mbuf.contents.drop winStart).take winSize).length =
      min (mbuf.contents.length - min mbuf.contents.length winStart) winSize := by
    rw [length_take, length_drop]
    omega
  rw [hsize, setWindowAt, hclean, hsum]
  rfl

theorem setWindowAt_cells {winStart winSize size : Nat}
    (h : mbuf.setWindowAt winStart winSize = .ok (size, mbuf')) : mbuf'.cells = mbuf.cells := by
  unfold setWindowAt at h
  split at h
  · cases h
  · cases h
    rfl

theorem windowAt_contents (mbuf : Mbuf) (winStart winSize : Nat) :
    (mbuf.windowAt winStart winSize).contents = mbuf.contents := by
  rw [contents_eq, contents_eq mbuf]
  rfl

theorem Fresh.windowAt (h : mbuf.Fresh) (winStart winSize : Nat) :
    (mbuf.windowAt winStart winSize).Fresh := by
  obtain ⟨hcell, hpos, hlen, hcells⟩ := mbuf.fresh_iff.1 h
  refine (fresh_iff _).2 ⟨hcell, hpos, ?_, hcells⟩
  rwa [windowAt_contents]

theorem Ready.windowAt {windowed : Bool} (h : mbuf.Ready windowed) (winStart winSize : Nat) :
    (mbuf.windowAt winStart winSize).Ready true := by
  refine ⟨h.fresh.windowAt winStart winSize, ?_, nofun⟩
  rw [windowAt_contents]
  change min mbuf.contents.length winStart +
    min (mbuf.contents.length - min mbuf.contents.length winStart) winSize ≤
      mbuf.contents.length
  omega

/-- Cells are added to an mbuf without a window. -/
theorem Ready.extend {n : Nat} (h : mbuf.Ready false) (hsmall : (cellsBytes cells).length ≤ 65535)
    (hcells : CellsFresh cells) (hlen : (cellsBytes cells).length = mbuf.contents.length + n) :
    Ready false { mbuf with cells := cells, numBytes := (mbuf.numBytes + n) % 65536 } := by
  obtain ⟨hcell, hpos, -, -⟩ := mbuf.fresh_iff.1 h.fresh
  obtain ⟨hstart, hbytes⟩ := h.whole rfl
  have hcount : (mbuf.numBytes + n) % 65536 = (cellsBytes cells).length := by
    rw [hbytes, ← hlen]
    omega
  rw [hcount]
  refine ⟨(fresh_iff _).2 ⟨hcell, hpos, hsmall, hcells⟩, ?_, fun _ => ⟨hstart, rfl⟩⟩
  change mbuf.winStart + (cellsBytes cells).length ≤ (cellsBytes cells).length
  omega

/-- A tree that holds no more than it can count is ready. -/
theorem ready_of_built {windowed : Bool} (h : Built windowed mbuf) (hsmall : mbuf.Small) :
    mbuf.Ready windowed := by
  induction h with
  | alloc numCells =>
      exact ⟨⟨rfl, rfl, Nat.zero_le _, trivial⟩, Nat.le_refl 0, fun _ => ⟨rfl, rfl⟩⟩
  | @prepend mbuf mbuf' buf disposition room status h hrun ih =>
      obtain ⟨hlen, hcells⟩ := (small_iff _).1 hsmall
      rcases prepend_cases hrun with rfl | ⟨d, rfl⟩ | ⟨d, rfl⟩
      · exact ih hsmall
      · have hlen' : mbuf.contents.length ≤ 65535 := by rwa [mbuf.contents_eq]
        have hready := ih ((small_iff _).2 ⟨hlen', hcells.2⟩)
        have hextend := hready.extend (n := 0) hlen
          ⟨trivial, (mbuf.fresh_iff.1 hready.fresh).2.2.2⟩ (by rw [mbuf.contents_eq]; rfl)
        have hcount : (mbuf.numBytes + 0) % 65536 = mbuf.numBytes := by
          rw [(hready.whole rfl).2]
          omega
        rwa [hcount] at hextend
      · have hlen' : (buf ++ mbuf.contents).length ≤ 65535 := by rwa [mbuf.contents_eq]
        rw [length_append] at hlen'
        have hready := ih ((small_iff _).2 ⟨by omega, hcells.2⟩)
        apply hready.extend hlen ⟨trivial, (mbuf.fresh_iff.1 hready.fresh).2.2.2⟩
        rw [cellsBytes_cons, length_append, ← mbuf.contents_eq]
        exact Nat.add_comm _ _
  | @append mbuf mbuf' buf disposition room status h hrun ih =>
      obtain ⟨hlen, hcells⟩ := (small_iff _).1 hsmall
      rcases append_cases hrun with rfl | ⟨d, rfl⟩
      · exact ih hsmall
      · have hcontents : cellsBytes (mbuf.cells ++ [.data d buf]) = mbuf.contents ++ buf := by
          rw [cellsBytes_append, ← mbuf.contents_eq, cellsBytes_cons, cellsBytes_nil,
            append_nil]
          rfl
        have hlen' : (mbuf.contents ++ buf).length ≤ 65535 := hcontents ▸ hlen
        rw [length_append] at hlen'
        have hready := ih ((small_iff _).2 ⟨by omega, (cellsSmall_append.1 hcells).1⟩)
        apply hready.extend hlen
        · exact cellsFresh_append.2
            ⟨(mbuf.fresh_iff.1 hready.fresh).2.2.2, trivial, trivial⟩
        · rw [hcontents, length_append]
  | @appendMbuf mbuf added mbuf' windowed status h hadded hrun ih ihadded =>
      obtain ⟨hlen, hcells⟩ := (small_iff _).1 hsmall
      rcases appendMbuf_cases hrun with rfl | rfl
      · exact ih hsmall
      · obtain ⟨hbefore, hnested, -⟩ := cellsSmall_append.1 hcells
        have hinner := ihadded hnested
        have hcell : CellFresh (.nested added.numBytes added.winStart added) :=
          ⟨hinner.fresh, rfl, hinner.inside⟩
        have hcontents : (cellsBytes (mbuf.cells ++
            [.nested added.numBytes added.winStart added])).length =
              mbuf.contents.length + added.numBytes := by
          rw [cellsBytes_append, ← mbuf.contents_eq, cellsBytes_cons, cellsBytes_nil,
            append_nil, length_append, cellBytes_length hcell]
          rfl
        have hlen' : mbuf.contents.length + added.numBytes ≤ 65535 := hcontents ▸ hlen
        have hready := ih ((small_iff _).2 ⟨by omega, hbefore⟩)
        apply hready.extend hlen _ hcontents
        exact cellsFresh_append.2
          ⟨(mbuf.fresh_iff.1 hready.fresh).2.2.2, hcell, trivial⟩
  | @setWindowAt mbuf mbuf' windowed winStart winSize size h hrun ih =>
      have hcells := setWindowAt_cells hrun
      rw [small_iff, contents_eq, hcells, ← contents_eq, ← small_iff] at hsmall
      have hready := ih hsmall
      rw [setWindowAt_eq hready.fresh] at hrun
      cases hrun
      exact hready.windowAt winStart winSize

end Mbuf

/-! ## Cursors -/

mutual

/-- A pull with the window position `winPos` starts at the position `p` of the contents. -/
def Mbuf.Reads : Mbuf → Nat → Nat → Prop
  | ⟨_, cells, currCell, currPos, _, _, _⟩, winPos, p =>
      (cellsBytes cells).length ≤ 65535 ∧
        CellsRead cells currCell currPos (if currCell ≠ 0 ∨ currPos ≠ 0 then 0 else winPos) p

/-- The loop of `PullBytes`, where it stands with these variables, starts at the position `p`
of what the cells hold. -/
def CellsRead : List (Cell Mbuf) → Nat → Nat → Nat → Nat → Prop
  | [], currCell, currPos, winPos, p => currCell = 0 ∧ currPos = 0 ∧ winPos = 0 ∧ p = 0
  | cell :: cells, currCell + 1, currPos, winPos, p =>
      (cellBytes cell).length = cell.len ∧
        ∃ q, p = cell.len + q ∧ CellsRead cells currCell currPos winPos q
  | cell :: cells, 0, currPos, winPos, p =>
      (cellBytes cell).length = cell.len ∧ p = currPos + winPos ∧
        ((cell.len < winPos ∧ currPos = 0 ∧
            CellsRead cells 0 0 (winPos - cell.len) (winPos - cell.len)) ∨
          (winPos ≤ cell.len ∧ CellReads cell (currPos + winPos) ∧ CellsRead cells 0 0 0 0))

/-- The cell can be read from its position `p` on. -/
def CellReads : Cell Mbuf → Nat → Prop
  | .data _ bytes, p => p ≤ bytes.length
  | .nested len winStart mbuf, p =>
      p ≤ len ∧ winStart + len ≤ mbuf.contents.length ∧
        mbuf.Reads (winStart + p) (winStart + p)

end

theorem CellReads.le {cell : Cell Mbuf} (h : CellReads cell p) : p ≤ cell.len := by
  cases cell with
  | data disposition bytes => exact h
  | nested len winStart mbuf => exact h.1

mutual

/-- From a fresh tree reading can start anywhere. -/
theorem Mbuf.Fresh.reads : (mbuf : Mbuf) → mbuf.Fresh → ∀ p ≤ mbuf.contents.length,
    mbuf.Reads p p
  | ⟨_, cells, currCell, currPos, _, _, _⟩, h, p, hp => by
      obtain ⟨rfl, rfl, hlen, hcells⟩ := h
      exact ⟨hlen, CellsFresh.read cells hcells p hp⟩

theorem CellsFresh.read : (cells : List (Cell Mbuf)) → CellsFresh cells →
    ∀ p ≤ (cellsBytes cells).length, CellsRead cells 0 0 p p
  | [], _, p, hp => ⟨rfl, rfl, Nat.le_zero.1 hp, Nat.le_zero.1 hp⟩
  | cell :: cells, h, p, hp => by
      obtain ⟨hcell, hcells⟩ := h
      have hlen := cellBytes_length hcell
      rw [cellsBytes_cons, List.length_append, hlen] at hp
      refine ⟨hlen, (Nat.zero_add p).symm, ?_⟩
      by_cases hskip : cell.len < p
      · exact .inl ⟨hskip, rfl, CellsFresh.read cells hcells _ (by omega)⟩
      · refine .inr ⟨Nat.not_lt.1 hskip, ?_, CellsFresh.read cells hcells 0 (Nat.zero_le _)⟩
        rw [Nat.zero_add]
        exact CellFresh.reads cell hcell p (Nat.not_lt.1 hskip)

theorem CellFresh.reads : (cell : Cell Mbuf) → CellFresh cell → ∀ p ≤ cell.len,
    CellReads cell p
  | .data _ _, _, _, hp => hp
  | .nested _ winStart mbuf, h, p, hp =>
      ⟨hp, h.2.2, Mbuf.Fresh.reads mbuf h.1 (winStart + p)
        (Nat.le_trans (Nat.add_le_add_left hp _) h.2.2)⟩

end

theorem Mbuf.Reads.length_le {mbuf : Mbuf} {winPos : Nat} (h : mbuf.Reads winPos p) :
    mbuf.contents.length ≤ 65535 := by
  cases mbuf
  exact h.1

/-- Behind a cell reading goes on in the next ones. -/
theorem take_drop_append {xs : List UInt8} {k : Nat} (hk : k ≤ xs.length) (ys : List UInt8)
    (n : Nat) :
    ((xs ++ ys).drop k).take n =
      (xs.drop k).take (min n (xs.length - k)) ++ ys.take (n - min n (xs.length - k)) := by
  rw [List.drop_append_of_le_length hk, List.take_append, List.length_drop]
  by_cases hn : n ≤ xs.length - k
  · rw [Nat.min_eq_left hn, Nat.sub_self, Nat.sub_eq_zero_of_le hn]
  · have hdrop : (xs.drop k).length = xs.length - k := List.length_drop
    rw [Nat.min_eq_right (by omega), List.take_of_length_le (by omega),
      List.take_of_length_le (l := xs.drop k) (by omega)]

theorem CellsRead.start (h : CellsRead cells 0 0 0 p) : p = 0 := by
  cases cells with
  | nil => exact h.2.2.2
  | cons cell cells => exact h.2.1

mutual

/-- A pull takes the bytes from the position on at which it starts, and leaves the mbuf
where they end. -/
theorem Mbuf.Reads.pull : (mbuf : Mbuf) → ∀ winPos p n, mbuf.Reads winPos p →
    p + n ≤ mbuf.contents.length →
    ∃ cells currCell currPos, mbuf.pull n winPos = .ok ((mbuf.contents.drop p).take n,
        { mbuf with cells := cells, currCell := currCell, currPos := currPos }) ∧
      cellsBytes cells = mbuf.contents ∧
      ∀ winPos', (p + n = 0 → winPos' = 0) →
        Mbuf.Reads { mbuf with cells := cells, currCell := currCell, currPos := currPos } winPos'
          (p + n)
  | ⟨_, cells, currCell, currPos, _, _, _⟩, winPos, p, n, h, hn => by
      obtain ⟨hlen, hread⟩ := h
      obtain ⟨cells', currCell', currPos', hrun, hbytes, hread'⟩ :=
        CellsRead.pull cells _ _ _ p n hread hn hlen
      refine ⟨cells', currCell', currPos', ?_, hbytes, fun winPos' hzero => ⟨?_, ?_⟩⟩
      · rw [Mbuf.pull, hrun]
        rfl
      · rwa [hbytes]
      · split
        · exact hread'
        · next hclean =>
            obtain ⟨hcell, hpos⟩ := not_or.1 hclean
            obtain rfl := not_not.1 hcell
            obtain rfl := not_not.1 hpos
            rw [hzero hread'.start]
            exact hread'

theorem CellsRead.pull : (cells : List (Cell Mbuf)) → ∀ currCell currPos winPos p n,
    CellsRead cells currCell currPos winPos p → p + n ≤ (cellsBytes cells).length →
    (cellsBytes cells).length ≤ 65535 →
    ∃ cells' currCell' currPos', pullCells cells currCell currPos n winPos =
        .ok (((cellsBytes cells).drop p).take n, cells', currCell', currPos') ∧
      cellsBytes cells' = cellsBytes cells ∧ CellsRead cells' currCell' currPos' 0 (p + n)
  | [], currCell, currPos, winPos, p, n, h, hn, _ => by
      obtain ⟨rfl, rfl, rfl, rfl⟩ := h
      obtain rfl : n = 0 := by simpa using hn
      exact ⟨[], 0, 0, rfl, rfl, rfl, rfl, rfl, rfl⟩
  | cell :: cells, currCell + 1, currPos, winPos, p, n, h, hn, hsmall => by
      obtain ⟨hlen, q, rfl, hread⟩ := h
      rw [cellsBytes_cons, List.length_append, hlen] at hn hsmall
      obtain ⟨cells', currCell', currPos', hrun, hbytes, hread'⟩ :=
        CellsRead.pull cells currCell currPos winPos q n hread (by omega) (by omega)
      refine ⟨cell :: cells', currCell' + 1, currPos', ?_, ?_, hlen, q + n, ?_, hread'⟩
      · rw [pullCells, hrun, ok_bind, cellsBytes_cons, ← hlen, List.drop_length_add_append]
        rfl
      · rw [cellsBytes_cons, cellsBytes_cons, hbytes]
      · exact Nat.add_assoc _ _ _
  | cell :: cells, 0, currPos, winPos, p, n, h, hn, hsmall => by
      obtain ⟨hlen, rfl, hcases⟩ := h
      rw [cellsBytes_cons, List.length_append, hlen] at hn hsmall
      rcases hcases with ⟨hskip, rfl, hread⟩ | ⟨hwin, hcell, hread⟩
      · obtain ⟨cells', currCell', currPos', hrun, hbytes, hread'⟩ :=
          CellsRead.pull cells 0 0 (winPos - cell.len) _ n hread (by omega) (by omega)
        refine ⟨cell :: cells', currCell' + 1, currPos', ?_, ?_, hlen, _, ?_, hread'⟩
        · have hdrop : ((cellBytes cell ++ cellsBytes cells).drop (0 + winPos)).take n =
              ((cellsBytes cells).drop (winPos - cell.len)).take n := by
            rw [show 0 + winPos = (cellBytes cell).length + (winPos - cell.len) by omega,
              List.drop_length_add_append]
          rw [pullCells, if_pos hskip, if_neg (not_not.2 rfl), hrun, ok_bind, cellsBytes_cons,
            hdrop]
          rfl
        · rw [cellsBytes_cons, cellsBytes_cons, hbytes]
        · omega
      · have hle := hcell.le
        have hmod : (currPos + winPos) % 65536 = currPos + winPos := by omega
        obtain ⟨cell', hrun, hbytes, hlen', hcell'⟩ :=
          CellReads.pull cell (currPos + winPos) (min n (cell.len - (currPos + winPos))) hcell
            (by omega) (by omega)
        have hdest : (((cellBytes cell).drop (currPos + winPos)).take
            (min n (cell.len - (currPos + winPos)))).length =
              min n (cell.len - (currPos + winPos)) := by
          rw [List.length_take, List.length_drop]
          omega
        have hsplit :=
          take_drop_append (Nat.le_trans hle (Nat.le_of_eq hlen.symm)) (cellsBytes cells) n
        rw [hlen] at hsplit
        rw [cellsBytes_cons, hsplit, pullCells, if_neg (Nat.not_lt.2 hwin), hmod,
          if_neg (Nat.not_lt.2 hle)]
        dsimp only
        rw [hrun, ok_bind]
        dsimp only
        rw [hdest, if_neg (Nat.not_lt.2 (Nat.min_le_left _ _))]
        by_cases hend : n - min n (cell.len - (currPos + winPos)) = 0
        · have hmin : min n (cell.len - (currPos + winPos)) = n := by omega
          rw [hmin] at hcell' ⊢
          rw [Nat.sub_self, if_pos rfl, List.take_zero, List.append_nil]
          have hmod' : (currPos + winPos + n) % 65536 = currPos + winPos + n := by omega
          refine ⟨cell' :: cells, 0, currPos + winPos + n, ?_, ?_, ?_, rfl,
            Or.inr ⟨Nat.zero_le _, hcell', hread⟩⟩
          · rw [hmod']
            rfl
          · rw [cellsBytes_cons, hbytes]
          · rw [hbytes, hlen', hlen]
        · obtain ⟨cells', currCell', currPos', hrest, hbytes', hread'⟩ :=
            CellsRead.pull cells 0 0 0 0 (n - min n (cell.len - (currPos + winPos))) hread
              (by omega) (by omega)
          rw [if_neg hend, hrest, ok_bind]
          refine ⟨cell' :: cells', currCell' + 1, currPos', rfl, ?_, ?_, _, ?_, hread'⟩
          · rw [cellsBytes_cons, hbytes, hbytes']
          · rw [hbytes, hlen', hlen]
          · rw [hlen']
            omega

theorem CellReads.pull : (cell : Cell Mbuf) → ∀ p n, CellReads cell p → p + n ≤ cell.len →
    cell.len ≤ 65535 →
    ∃ cell', pullCell cell p n = .ok (((cellBytes cell).drop p).take n, cell') ∧
      cellBytes cell' = cellBytes cell ∧ cell'.len = cell.len ∧ CellReads cell' (p + n)
  | .data disposition bytes, p, n, h, hn, _ =>
      ⟨.data disposition bytes, rfl, rfl, rfl, hn⟩
  | .nested len winStart mbuf, p, n, h, hn, _ => by
      obtain ⟨hp, hroom, hread⟩ := h
      have hn' : p + n ≤ len := hn
      obtain ⟨cells, currCell, currPos, hrun, hbytes, hread'⟩ :=
        Mbuf.Reads.pull mbuf _ _ n hread (by omega)
      have hmod : (winStart + p) % 65536 = winStart + p := by
        have := hread.length_le
        omega
      have hdest : (((mbuf.contents.drop winStart).take len).drop p).take n =
          (mbuf.contents.drop (winStart + p)).take n := by
        rw [List.drop_take, List.drop_drop, List.take_take, Nat.min_eq_left (by omega)]
      refine ⟨.nested len winStart
        { mbuf with cells := cells, currCell := currCell, currPos := currPos }, ?_, ?_, rfl,
          hn, ?_, ?_⟩
      · rw [pullCell, hmod, hrun, ok_bind, cellBytes, hdest]
        rfl
      · rw [cellBytes, cellBytes, Mbuf.contents_eq, hbytes]
      · rw [Mbuf.contents_eq, hbytes]
        exact hroom
      · rw [← Nat.add_assoc]
        exact hread' _ id

end

namespace Mbuf

open List

variable {mbuf : Mbuf} {left : List UInt8}

/-! ## Sequences of pulls -/

/-- These bytes of the window are left. -/
structure Left (mbuf : Mbuf) (left : List UInt8) (p : Nat) : Prop where
  reads : mbuf.Reads mbuf.winStart p
  started : mbuf.winStart ≤ p
  inside : p + mbuf.numBytes ≤ mbuf.contents.length
  left_eq : left = (mbuf.contents.drop p).take mbuf.numBytes

theorem Left.length_eq (h : mbuf.Left left p) : left.length = mbuf.numBytes := by
  have hinside := h.inside
  rw [h.left_eq, length_take, length_drop]
  omega

theorem Ready.allLeft {windowed : Bool} (h : mbuf.Ready windowed) :
    mbuf.Left mbuf.view mbuf.winStart := by
  refine ⟨h.fresh.reads _ _ ?_, Nat.le_refl _, h.inside, rfl⟩
  exact Nat.le_trans (Nat.le_add_right _ _) h.inside

/-- A pull takes the next bytes that are left, as many as there are. -/
theorem Left.pullBytes (h : mbuf.Left left p) (n : Nat) :
    ∃ mbuf' p', mbuf.pullBytes n = .ok (left.take n, mbuf') ∧ mbuf'.Left (left.drop n) p' := by
  by_cases hn : n > 0
  · have hinside := h.inside
    obtain ⟨cells, currCell, currPos, hrun, hbytes, hreads⟩ :=
      Reads.pull mbuf _ _ (min mbuf.numBytes n) h.reads (by omega)
    have hdest : (mbuf.contents.drop p).take (min mbuf.numBytes n) = left.take n := by
      rw [h.left_eq, take_take, Nat.min_comm]
    have hlen : (left.take n).length = min mbuf.numBytes n := by
      rw [length_take, h.length_eq, Nat.min_comm]
    rw [hdest] at hrun
    refine ⟨{ mbuf with
      cells := cells, currCell := currCell, currPos := currPos
      numBytes := mbuf.numBytes - (left.take n).length }, p + min mbuf.numBytes n, ?_, ?_, ?_,
      ?_, ?_⟩
    · rw [Mbuf.pullBytes, if_pos hn, hrun, ok_bind]
      dsimp only
      rw [if_neg (by omega)]
      rfl
    · apply hreads
      intro hzero
      have hstarted := h.started
      change mbuf.winStart = 0
      omega
    · exact Nat.le_trans h.started (Nat.le_add_right _ _)
    · rw [contents_eq, hbytes, hlen]
      dsimp only
      omega
    · rw [contents_eq, hbytes, hlen, h.left_eq, drop_take, drop_drop]
      by_cases hle : n ≤ mbuf.numBytes
      · rw [Nat.min_eq_right hle]
      · rw [Nat.min_eq_left (by omega), Nat.sub_self, Nat.sub_eq_zero_of_le (by omega),
          take_zero, take_zero]
  · obtain rfl : n = 0 := by omega
    exact ⟨mbuf, p, rfl, h⟩

/-- Some calls of `OI_MBUF_PullBytes`, and what each of them returns. -/
def pulls (src : Mbuf) : List Nat → Except Fault (List (List UInt8) × Mbuf)
  | [] => .ok ([], src)
  | numBytes :: sizes => do
      let (dest, src) ← src.pullBytes numBytes
      let (dests, src) ← src.pulls sizes
      return (dest :: dests, src)

theorem Left.pulls (h : mbuf.Left left p) (sizes : List Nat) :
    ∃ mbuf' p', mbuf.pulls sizes = .ok (left.cut sizes, mbuf') ∧
      mbuf'.Left (left.drop sizes.sum) p' := by
  induction sizes generalizing mbuf left p with
  | nil => exact ⟨mbuf, p, rfl, h⟩
  | cons n sizes ih =>
      obtain ⟨mbuf₁, p₁, hrun₁, hleft₁⟩ := h.pullBytes n
      obtain ⟨mbuf₂, p₂, hrun₂, hleft₂⟩ := ih hleft₁
      rw [drop_drop] at hleft₂
      refine ⟨mbuf₂, p₂, ?_, hleft₂⟩
      rw [Mbuf.pulls, hrun₁, ok_bind]
      dsimp only
      rw [hrun₂]
      rfl

/-! ## Sequences of windows -/

theorem view_windowAt (mbuf : Mbuf) (winStart winSize : Nat) :
    (mbuf.windowAt winStart winSize).view = (mbuf.contents.drop winStart).take winSize := by
  rw [view, windowAt_contents]
  change (mbuf.contents.drop (min mbuf.contents.length winStart)).take
    (min (mbuf.contents.length - min mbuf.contents.length winStart) winSize) = _
  by_cases hstart : winStart ≤ mbuf.contents.length
  · rw [Nat.min_eq_right hstart, ← length_drop, Nat.min_comm, ← take_eq_take_min]
  · have hmin : min mbuf.contents.length winStart = mbuf.contents.length := by omega
    rw [hmin, Nat.sub_self, Nat.zero_min, take_zero, drop_eq_nil_of_le (by omega),
      take_nil]

/-- Some calls of `OI_MBUF_AdvanceWindow`, and the windows they set. -/
def advances (mbuf : Mbuf) : List Nat → Except Fault (List (List UInt8) × Mbuf)
  | [] => .ok ([], mbuf)
  | winSize :: sizes => do
      let (_, mbuf) ← mbuf.advanceWindow winSize
      let (views, last) ← mbuf.advances sizes
      return (mbuf.view :: views, last)

/-- `OI_MBUF_SetWindow`, then some calls of `OI_MBUF_AdvanceWindow`. -/
def windows (mbuf : Mbuf) (winSize : Nat) (sizes : List Nat) :
    Except Fault (List (List UInt8) × Mbuf) := do
  let (_, mbuf) ← mbuf.setWindow winSize
  let (views, last) ← mbuf.advances sizes
  return (mbuf.view :: views, last)

theorem advances_eq (h : mbuf.Fresh)
    (hinside : mbuf.winStart + mbuf.winSize ≤ mbuf.contents.length) (sizes : List Nat) :
    ∃ last, mbuf.advances sizes =
      .ok ((mbuf.contents.drop (mbuf.winStart + mbuf.winSize)).cut sizes, last) := by
  induction sizes generalizing mbuf with
  | nil => exact ⟨mbuf, rfl⟩
  | cons winSize sizes ih =>
      have hmod : (mbuf.winStart + mbuf.winSize) % 65536 = mbuf.winStart + mbuf.winSize := by
        have := (mbuf.fresh_iff.1 h).2.2.1
        omega
      generalize hstart : mbuf.winStart + mbuf.winSize = start at hinside hmod
      have hend : (mbuf.windowAt start winSize).winStart +
          (mbuf.windowAt start winSize).winSize =
            start + min (mbuf.contents.length - start) winSize := by
        change min mbuf.contents.length start +
          min (mbuf.contents.length - min mbuf.contents.length start) winSize = _
        rw [Nat.min_eq_right hinside]
      have hdrop : mbuf.contents.drop (start + min (mbuf.contents.length - start) winSize) =
          (mbuf.contents.drop start).drop winSize := by
        rw [← drop_drop, Nat.min_comm, ← length_drop, ← drop_eq_drop_min]
      obtain ⟨last, hrun⟩ := ih (h.windowAt start winSize)
        (by rw [hend, windowAt_contents]; omega)
      rw [hend, windowAt_contents, hdrop] at hrun
      refine ⟨last, ?_⟩
      rw [advances, advanceWindow, hstart, hmod, setWindowAt_eq h, ok_bind]
      dsimp only
      rw [hrun, ok_bind, view_windowAt]
      rfl

/-- Windows that are set one behind the other are consecutive pieces of the contents. -/
theorem windows_eq (h : mbuf.Fresh) (winSize : Nat) (sizes : List Nat) :
    ∃ last, mbuf.windows winSize sizes = .ok (mbuf.contents.cut (winSize :: sizes), last) := by
  have hend : (mbuf.windowAt 0 winSize).winStart + (mbuf.windowAt 0 winSize).winSize =
      min mbuf.contents.length winSize := by
    change min mbuf.contents.length 0 +
      min (mbuf.contents.length - min mbuf.contents.length 0) winSize = _
    omega
  obtain ⟨last, hrun⟩ := advances_eq (h.windowAt 0 winSize)
    (by rw [hend, windowAt_contents]; omega) sizes
  rw [hend, windowAt_contents, Nat.min_comm, ← drop_eq_drop_min] at hrun
  refine ⟨last, ?_⟩
  rw [windows, setWindow, setWindowAt_eq h, ok_bind]
  dsimp only
  rw [hrun, ok_bind, view_windowAt, drop_zero]
  rfl

/-- A byte, and behind it the last two of three bytes in an mbuf of their own. -/
def sampleTree : Mbuf :=
  ⟨2, [.data .keep [7], .nested 2 1 ⟨1, [.data .keep [1, 2, 3]], 0, 0, 2, 1, 2⟩], 0, 0, 3, 0, 0⟩

theorem sampleTree_built : Built false sampleTree := by
  have hbytes : Built false ⟨1, [.data .keep [1, 2, 3]], 0, 0, 3, 0, 0⟩ :=
    @Built.append _ _ [1, 2, 3] .keep true _ (.alloc 1) rfl
  have hinner : Built true ⟨1, [.data .keep [1, 2, 3]], 0, 0, 2, 1, 2⟩ :=
    @Built.setWindowAt _ _ _ 1 2 2 hbytes rfl
  exact .appendMbuf (@Built.append _ _ [7] .keep true _ (.alloc 2) rfl) hinner rfl

theorem sampleTree_small : sampleTree.Small :=
  ⟨by decide, trivial, ⟨by decide, trivial, trivial⟩, trivial⟩

end Mbuf

end Stack
