import BtPlatform.Support.Status

/-!
# Nested and windowed message buffers

`oi_mbuf.c` in full generality: a cell of an mbuf holds bytes or another mbuf, and a window
limits what is read. An mbuf is nested once, so a tree of them is a value and every mbuf in
it has its own cursor. Lengths and positions are sixteen-bit and wrap where the source adds;
the cell counters are bounded by `allocCells` and cannot.
-/

namespace Stack

open Support

/-- `OI_MBUF_DISPOSITION` of a cell that holds bytes. -/
inductive Disposition
  | copy
  | free
  | keep
  | inline
  deriving DecidableEq, Repr

/-- `OI_MBUF_CELL`. A nested mbuf comes with its length and its window start at the time it
was nested. -/
inductive Cell (μ : Type)
  | data (disposition : Disposition) (bytes : List UInt8)
  | nested (len winStart : Nat) (mbuf : μ)

/-- `cell->len`. -/
def Cell.len {μ : Type} : Cell μ → Nat
  | .data _ bytes => bytes.length
  | .nested len _ _ => len

/-- `OI_MBUF` with the cells in use. -/
structure Mbuf where
  allocCells : Nat
  cells : List (Cell Mbuf)
  currCell : Nat
  currPos : Nat
  numBytes : Nat
  winStart : Nat
  winSize : Nat

/-- The bytes that cells hold in all. -/
def cellsLen : List (Cell Mbuf) → Nat
  | [] => 0
  | cell :: cells => cell.len + cellsLen cells

namespace Mbuf

/-- `OI_MBUF_IS_DIRTY`. -/
def isDirty (mbuf : Mbuf) : Bool := mbuf.currCell ≠ 0 || mbuf.currPos ≠ 0

/-- `MBUF_IS_WINDOWED`. -/
def isWindowed (mbuf : Mbuf) : Bool := mbuf.winSize ≠ 0 || mbuf.winStart ≠ 0

/-! ## Building -/

/-- `OI_MBUF_Alloc`, once its memory has been obtained. -/
def alloc (numCells : UInt8) : Mbuf := ⟨numCells.toNat, [], 0, 0, 0, 0, 0⟩

/-- `MBUF_INLINE_BUF_SIZE`. -/
def inlineBufSize : Nat := 8

/-- `InitCell`; `room` is the outcome of `OI_Malloc`. -/
def initCell (buf : List UInt8) (disposition : Disposition) (room : Bool) :
    Status × Cell Mbuf :=
  if disposition = .copy then
    if buf.length ≤ inlineBufSize then (.ok, .data .inline buf)
    else if room then (.ok, .data .copy buf)
    -- the cell is cleared to keep the enclosing mbuf consistent
    else (.outOfMemory, .data .keep [])
  else (.ok, .data disposition buf)

/-- `OI_MBUF_Prepend`. -/
def prepend (mbuf : Mbuf) (buf : List UInt8) (disposition : Disposition) (room : Bool) :
    Except Fault (Status × Mbuf) :=
  if mbuf.isDirty ∨ mbuf.isWindowed then .error .assertion
  else if disposition = .inline then .ok (.invalidParameters, mbuf)
  else if buf = [] then .ok (.ok, mbuf)
  else if mbuf.allocCells ≤ mbuf.cells.length then .ok (.mbufOverflow, mbuf)
  else
    let (status, cell) := initCell buf disposition room
    let mbuf := { mbuf with cells := cell :: mbuf.cells }
    if status.success then
      .ok (status, { mbuf with numBytes := (mbuf.numBytes + buf.length) % 65536 })
    else .ok (status, mbuf)

/-- `OI_MBUF_Append`. -/
def append (mbuf : Mbuf) (buf : List UInt8) (disposition : Disposition) (room : Bool) :
    Except Fault (Status × Mbuf) :=
  if mbuf.isDirty ∨ mbuf.isWindowed then .error .assertion
  else if disposition = .inline then .ok (.invalidParameters, mbuf)
  else if buf = [] then .ok (.ok, mbuf)
  else if mbuf.allocCells ≤ mbuf.cells.length then .ok (.mbufOverflow, mbuf)
  else
    let (status, cell) := initCell buf disposition room
    if status.success then
      .ok (status, { mbuf with
        cells := mbuf.cells ++ [cell]
        numBytes := (mbuf.numBytes + buf.length) % 65536 })
    else .ok (status, mbuf)

/-- `OI_MBUF_AppendMbuf`. -/
def appendMbuf (mbuf added : Mbuf) : Except Fault (Status × Mbuf) :=
  if mbuf.isDirty ∨ added.isDirty then .error .assertion
  else if mbuf.allocCells ≤ mbuf.cells.length then .ok (.mbufOverflow, mbuf)
  else
    .ok (.ok, { mbuf with
      cells := mbuf.cells ++ [.nested added.numBytes added.winStart added]
      numBytes := (mbuf.numBytes + added.numBytes) % 65536 })

/-! ## Windows -/

/-- `OI_MBUF_SetWindowAt`. -/
def setWindowAt (mbuf : Mbuf) (winStart winSize : Nat) : Except Fault (Nat × Mbuf) :=
  if mbuf.isDirty then .error .assertion
  else
    let len := cellsLen mbuf.cells % 65536
    let start := min len winStart
    let size := min (len - start) winSize
    .ok (size, { mbuf with winStart := start, winSize := size, numBytes := size })

/-- `OI_MBUF_SetWindow`. -/
def setWindow (mbuf : Mbuf) (winSize : Nat) : Except Fault (Nat × Mbuf) :=
  mbuf.setWindowAt 0 winSize

/-- `OI_MBUF_AdvanceWindow`. -/
def advanceWindow (mbuf : Mbuf) (winSize : Nat) : Except Fault (Nat × Mbuf) :=
  mbuf.setWindowAt ((mbuf.winStart + mbuf.winSize) % 65536) winSize

end Mbuf

/-! ## Pulling -/

mutual

/-- `PullBytes`. -/
def Mbuf.pull : Mbuf → Nat → Nat → Except Fault (List UInt8 × Mbuf)
  | ⟨allocCells, cells, currCell, currPos, size, winStart, winSize⟩, numBytes, winPos => do
      -- once bytes have been pulled the position is beyond the start of the window
      let winPos := if currCell ≠ 0 ∨ currPos ≠ 0 then 0 else winPos
      let (dest, cells, currCell, currPos) ← pullCells cells currCell currPos numBytes winPos
      return (dest, ⟨allocCells, cells, currCell, currPos, size, winStart, winSize⟩)

/-- The loop of `PullBytes`; `currCell` counts from the cell at the head. -/
def pullCells : List (Cell Mbuf) → Nat → Nat → Nat → Nat →
    Except Fault (List UInt8 × List (Cell Mbuf) × Nat × Nat)
  | [], currCell, currPos, _, _ => .ok ([], [], currCell, currPos)
  | cell :: cells, currCell + 1, currPos, numBytes, winPos => do
      let (dest, cells, currCell, currPos) ← pullCells cells currCell currPos numBytes winPos
      return (dest, cell :: cells, currCell + 1, currPos)
  | cell :: cells, 0, currPos, numBytes, winPos =>
      if cell.len < winPos then
        -- the cell is completely outside the window
        if currPos ≠ 0 then .error .assertion
        else do
          let (dest, cells, currCell, currPos) ←
            pullCells cells 0 0 numBytes (winPos - cell.len)
          return (dest, cell :: cells, currCell + 1, currPos)
      else if cell.len < (currPos + winPos) % 65536 then .error .assertion
      else do
        let currPos := (currPos + winPos) % 65536
        let (dest, cell) ← pullCell cell currPos (min numBytes (cell.len - currPos))
        if numBytes < dest.length then .error .assertion
        else if numBytes - dest.length = 0 then
          return (dest, cell :: cells, 0, (currPos + dest.length) % 65536)
        else
          let (more, cells, currCell, currPos) ←
            pullCells cells 0 0 (numBytes - dest.length) 0
          return (dest ++ more, cell :: cells, currCell + 1, currPos)

/-- One cell of the loop of `PullBytes`. -/
def pullCell : Cell Mbuf → Nat → Nat → Except Fault (List UInt8 × Cell Mbuf)
  | .data disposition bytes, currPos, len =>
      .ok ((bytes.drop currPos).take len, .data disposition bytes)
  | .nested size winStart mbuf, currPos, len => do
      -- the window position is the one in effect when the mbuf was nested
      let (dest, mbuf) ← mbuf.pull len ((winStart + currPos) % 65536)
      return (dest, .nested size winStart mbuf)

end

/-- `OI_MBUF_PullBytes`. -/
def Mbuf.pullBytes (src : Mbuf) (numBytes : Nat) : Except Fault (List UInt8 × Mbuf) :=
  if numBytes > 0 then do
    let (dest, src) ← src.pull (min src.numBytes numBytes) src.winStart
    if src.numBytes < dest.length then .error .assertion
    else return (dest, { src with numBytes := src.numBytes - dest.length })
  else .ok ([], src)

/-! ## Peeking -/

/-- A pointer to a byte of a tree: the indices of the cells on the way to it, and its offset
in the last of them. -/
structure Address where
  path : List Nat
  offset : Nat
  deriving DecidableEq, Repr

/-- The address, seen from the mbuf whose cell number `i` it is in. -/
def Address.under (i : Nat) (address : Address) : Address := ⟨i :: address.path, address.offset⟩

/-- Pointer arithmetic. -/
def Address.plus (address : Address) (k : Nat) : Address := ⟨address.path, address.offset + k⟩

/-- The results of `OI_MBUF_PeekBytes`. -/
structure Contig where
  address : Address
  contigLen : Nat
  deriving DecidableEq, Repr

mutual

/-- `OI_MBUF_PeekBytes`. -/
def Mbuf.peekBytes : Mbuf → Nat → Option Contig
  | ⟨_, cells, _, _, _, winStart, _⟩, offset => peekCells cells 0 ((offset + winStart) % 65536)

/-- The loop of `OI_MBUF_PeekBytes`, from the cell number `i` on. -/
def peekCells : List (Cell Mbuf) → Nat → Nat → Option Contig
  | [], _, _ => none
  | cell :: cells, i, offset =>
      if cell.len ≤ offset then peekCells cells (i + 1) (offset - cell.len)
      else
        (peekCell cell offset).map fun contig =>
          { contig with address := contig.address.under i }

/-- The cell that the loop of `OI_MBUF_PeekBytes` stops at. -/
def peekCell : Cell Mbuf → Nat → Option Contig
  | .data _ bytes, offset => some ⟨⟨[], offset⟩, bytes.length - offset⟩
  | .nested _ _ mbuf, offset => mbuf.peekBytes offset

end

/-! ## Checksums -/

def crcTable : List UInt16 := [
  0x0000, 0xC0C1, 0xC181, 0x0140, 0xC301, 0x03C0, 0x0280, 0xC241,
  0xC601, 0x06C0, 0x0780, 0xC741, 0x0500, 0xC5C1, 0xC481, 0x0440,
  0xCC01, 0x0CC0, 0x0D80, 0xCD41, 0x0F00, 0xCFC1, 0xCE81, 0x0E40,
  0x0A00, 0xCAC1, 0xCB81, 0x0B40, 0xC901, 0x09C0, 0x0880, 0xC841,
  0xD801, 0x18C0, 0x1980, 0xD941, 0x1B00, 0xDBC1, 0xDA81, 0x1A40,
  0x1E00, 0xDEC1, 0xDF81, 0x1F40, 0xDD01, 0x1DC0, 0x1C80, 0xDC41,
  0x1400, 0xD4C1, 0xD581, 0x1540, 0xD701, 0x17C0, 0x1680, 0xD641,
  0xD201, 0x12C0, 0x1380, 0xD341, 0x1100, 0xD1C1, 0xD081, 0x1040,
  0xF001, 0x30C0, 0x3180, 0xF141, 0x3300, 0xF3C1, 0xF281, 0x3240,
  0x3600, 0xF6C1, 0xF781, 0x3740, 0xF501, 0x35C0, 0x3480, 0xF441,
  0x3C00, 0xFCC1, 0xFD81, 0x3D40, 0xFF01, 0x3FC0, 0x3E80, 0xFE41,
  0xFA01, 0x3AC0, 0x3B80, 0xFB41, 0x3900, 0xF9C1, 0xF881, 0x3840,
  0x2800, 0xE8C1, 0xE981, 0x2940, 0xEB01, 0x2BC0, 0x2A80, 0xEA41,
  0xEE01, 0x2EC0, 0x2F80, 0xEF41, 0x2D00, 0xEDC1, 0xEC81, 0x2C40,
  0xE401, 0x24C0, 0x2580, 0xE541, 0x2700, 0xE7C1, 0xE681, 0x2640,
  0x2200, 0xE2C1, 0xE381, 0x2340, 0xE101, 0x21C0, 0x2080, 0xE041,
  0xA001, 0x60C0, 0x6180, 0xA141, 0x6300, 0xA3C1, 0xA281, 0x6240,
  0x6600, 0xA6C1, 0xA781, 0x6740, 0xA501, 0x65C0, 0x6480, 0xA441,
  0x6C00, 0xACC1, 0xAD81, 0x6D40, 0xAF01, 0x6FC0, 0x6E80, 0xAE41,
  0xAA01, 0x6AC0, 0x6B80, 0xAB41, 0x6900, 0xA9C1, 0xA881, 0x6840,
  0x7800, 0xB8C1, 0xB981, 0x7940, 0xBB01, 0x7BC0, 0x7A80, 0xBA41,
  0xBE01, 0x7EC0, 0x7F80, 0xBF41, 0x7D00, 0xBDC1, 0xBC81, 0x7C40,
  0xB401, 0x74C0, 0x7580, 0xB541, 0x7700, 0xB7C1, 0xB681, 0x7640,
  0x7200, 0xB2C1, 0xB381, 0x7340, 0xB101, 0x71C0, 0x7080, 0xB041,
  0x5000, 0x90C1, 0x9181, 0x5140, 0x9301, 0x53C0, 0x5280, 0x9241,
  0x9601, 0x56C0, 0x5780, 0x9741, 0x5500, 0x95C1, 0x9481, 0x5440,
  0x9C01, 0x5CC0, 0x5D80, 0x9D41, 0x5F00, 0x9FC1, 0x9E81, 0x5E40,
  0x5A00, 0x9AC1, 0x9B81, 0x5B40, 0x9901, 0x59C0, 0x5880, 0x9841,
  0x8801, 0x48C0, 0x4980, 0x8941, 0x4B00, 0x8BC1, 0x8A81, 0x4A40,
  0x4E00, 0x8EC1, 0x8F81, 0x4F40, 0x8D01, 0x4DC0, 0x4C80, 0x8C41,
  0x4400, 0x84C1, 0x8581, 0x4540, 0x8701, 0x47C0, 0x4680, 0x8641,
  0x8201, 0x42C0, 0x4380, 0x8341, 0x4100, 0x81C1, 0x8081, 0x4040]

/-- One turn of the loop of `OI_FCS_Compute`. -/
def crcStep (crc : UInt16) (byte : UInt8) : UInt16 :=
  crcTable.getD ((crc ^^^ byte.toUInt16) &&& 0xFF).toNat 0 ^^^ (crc >>> 8)

/-- `OI_FCS_Compute`. -/
def fcsCompute (buffer : List UInt8) (runningCrc : UInt16) : UInt16 :=
  buffer.foldl crcStep runningCrc

mutual

/-- `ComputeFCS`. The results are the number of bytes and the running checksum. -/
def Mbuf.fcs : Mbuf → Nat → Nat → UInt16 → Except Fault (Nat × UInt16)
  | ⟨_, cells, currCell, currPos, _, _, _⟩, numBytes, winPos, runningFCS =>
      if currCell ≠ 0 ∨ currPos ≠ 0 then .error .assertion
      else fcsCells cells numBytes winPos runningFCS

/-- The loop of `ComputeFCS`. -/
def fcsCells : List (Cell Mbuf) → Nat → Nat → UInt16 → Except Fault (Nat × UInt16)
  | [], _, _, runningFCS => .ok (0, runningFCS)
  | cell :: cells, numBytes, winPos, runningFCS =>
      if cell.len < winPos then fcsCells cells numBytes (winPos - cell.len) runningFCS
      else do
        let (len, runningFCS) ← fcsCell cell (min numBytes (cell.len - winPos)) winPos runningFCS
        -- a sixteen-bit difference
        let numBytes := (numBytes + 65536 - len) % 65536
        if numBytes = 0 then return (len, runningFCS)
        else
          let (more, runningFCS) ← fcsCells cells numBytes 0 runningFCS
          return ((len + more) % 65536, runningFCS)

/-- One cell of the loop of `ComputeFCS`. -/
def fcsCell : Cell Mbuf → Nat → Nat → UInt16 → Except Fault (Nat × UInt16)
  | .data _ bytes, len, winPos, runningFCS =>
      .ok (len, fcsCompute ((bytes.drop winPos).take len) runningFCS)
  | .nested _ winStart mbuf, len, winPos, runningFCS =>
      mbuf.fcs len ((winPos + winStart) % 65536) runningFCS

end

/-- `OI_MBUF_ComputeFCS`. -/
def Mbuf.computeFCS (mbuf : Mbuf) (numBytes : Nat) (runningFCS : UInt16) :
    Except Fault (Nat × UInt16) :=
  mbuf.fcs (min numBytes mbuf.numBytes) mbuf.winStart runningFCS

end Stack
