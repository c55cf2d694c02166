import BtPlatform.Stack.Mbuf.Pulled

/-!
# Peeking at a message buffer, and its checksum

Both walk through the tree without moving a cursor. A byte that is peeked at is named by its
address, so that bytes behind a window can be told from bytes in it.
-/

namespace Stack

open Support List

/-! ## Checksums -/

theorem fcsCompute_append (xs ys : List UInt8) (crc : UInt16) :
    fcsCompute (xs ++ ys) crc = fcsCompute ys (fcsCompute xs crc) :=
  foldl_append

mutual

/-- The checksum of a fresh tree is that of a stretch of its contents. -/
theorem Mbuf.Fresh.fcs_eq : (mbuf : Mbuf) → mbuf.Fresh → ∀ n w crc,
    w + n ≤ mbuf.contents.length →
    mbuf.fcs n w crc = .ok (n, fcsCompute ((mbuf.contents.drop w).take n) crc)
  | ⟨_, cells, currCell, currPos, _, _, _⟩, h, n, w, crc, hn => by
      obtain ⟨rfl, rfl, hlen, hcells⟩ := h
      rw [Mbuf.fcs, if_neg (by omega)]
      exact CellsFresh.fcs_eq cells hcells hlen n w crc hn

theorem CellsFresh.fcs_eq : (cells : List (Cell Mbuf)) → CellsFresh cells →
    (cellsBytes cells).length ≤ 65535 → ∀ n w crc, w + n ≤ (cellsBytes cells).length →
    fcsCells cells n w crc = .ok (n, fcsCompute (((cellsBytes cells).drop w).take n) crc)
  | [], _, _, n, w, crc, hn => by
      obtain rfl : n = 0 := by
        have : w + n ≤ 0 := hn
        omega
      rfl
  | cell :: cells, h, hlen, n, w, crc, hn => by
      obtain ⟨hcell, hcells⟩ := h
      have hcellLen := cellBytes_length hcell
      rw [cellsBytes_cons, length_append, hcellLen] at hlen hn
      rw [fcsCells, cellsBytes_cons]
      by_cases hskip : cell.len < w
      · have hdrop : (cellBytes cell ++ cellsBytes cells).drop w =
            (cellsBytes cells).drop (w - cell.len) := by
          rw [show w = (cellBytes cell).length + (w - cell.len) by omega,
            drop_length_add_append, ← hcellLen]
          congr 1
          omega
        rw [if_pos hskip, hdrop]
        exact CellsFresh.fcs_eq cells hcells (by omega) n _ crc (by omega)
      · have hle : w ≤ (cellBytes cell).length := by omega
        have hsplit := take_drop_append hle (cellsBytes cells) n
        rw [hcellLen] at hsplit
        have hmod : (n + 65536 - min n (cell.len - w)) % 65536 = n - min n (cell.len - w) := by
          omega
        rw [if_neg hskip, CellFresh.fcs_eq cell hcell _ w crc (by omega), ok_bind, hsplit,
          fcsCompute_append]
        dsimp only
        rw [hmod]
        by_cases hend : n - min n (cell.len - w) = 0
        · rw [if_pos hend, hend, show min n (cell.len - w) = n by omega]
          rfl
        · rw [if_neg hend, CellsFresh.fcs_eq cells hcells (by omega) _ 0 _ (by omega), ok_bind,
            drop_zero]
          have hsum : (min n (cell.len - w) + (n - min n (cell.len - w))) % 65536 = n := by omega
          dsimp only
          rw [hsum]
          rfl

theorem CellFresh.fcs_eq : (cell : Cell Mbuf) → CellFresh cell → ∀ n w crc,
    w + n ≤ cell.len →
    fcsCell cell n w crc = .ok (n, fcsCompute (((cellBytes cell).drop w).take n) crc)
  | .data _ bytes, _, n, w, crc, _ => rfl
  | .nested len winStart mbuf, h, n, w, crc, hn => by
      obtain ⟨hfresh, -, hroom⟩ := h
      have hn' : w + n ≤ len := hn
      have hsmall := (mbuf.fresh_iff.1 hfresh).2.2.1
      have hmod : (w + winStart) % 65536 = winStart + w := by omega
      rw [fcsCell, hmod, Mbuf.Fresh.fcs_eq mbuf hfresh n (winStart + w) crc (by omega), cellBytes,
        drop_take, drop_drop, take_take, Nat.min_eq_left (by omega)]

end

/-! ## Addresses -/

mutual

/-- The addresses of the bytes of an mbuf, in the order of its contents. -/
def Mbuf.addresses : Mbuf → List Address
  | ⟨_, cells, _, _, _, _, _⟩ => cellsAddresses cells 0

/-- The addresses of the bytes of cells, from the cell number `i` on. -/
def cellsAddresses : List (Cell Mbuf) → Nat → List Address
  | [], _ => []
  | cell :: cells, i =>
      (cellAddresses cell).map (Address.under i) ++ cellsAddresses cells (i + 1)

def cellAddresses : Cell Mbuf → List Address
  | .data _ bytes => (range bytes.length).map fun k => ⟨[], k⟩
  | .nested len winStart mbuf => (mbuf.addresses.drop winStart).take len

end

/-- The byte at an address. -/
def byteAt : List Nat → List (Cell Mbuf) → Nat → Option UInt8
  | [], _, _ => none
  | i :: path, cells, offset =>
      match cells[i]? with
      | some (.data _ bytes) => bytes[offset]?
      | some (.nested _ _ mbuf) => byteAt path mbuf.cells offset
      | none => none

/-- `*address`. -/
def Mbuf.deref (mbuf : Mbuf) (address : Address) : Option UInt8 :=
  byteAt address.path mbuf.cells address.offset

/-- The addresses of the bytes in the window. -/
def Mbuf.viewAddresses (mbuf : Mbuf) : List Address :=
  (mbuf.addresses.drop mbuf.winStart).take mbuf.numBytes

theorem map_range_getElem? (bytes : List UInt8) :
    (range bytes.length).map (fun k => bytes[k]?) = bytes.map some := by
  apply ext_getElem
  · rw [length_map, length_map, length_range]
  · intro k hk hk'
    rw [getElem_map, getElem_map, getElem_range, getElem?_eq_getElem]

mutual

/-- The bytes at the addresses of an mbuf are its contents. -/
theorem Mbuf.map_deref_addresses : (mbuf : Mbuf) →
    mbuf.addresses.map mbuf.deref = mbuf.contents.map some
  | ⟨_, cells, _, _, _, _, _⟩ => cellsAddresses_bytes cells []

theorem cellsAddresses_bytes : (cells pre : List (Cell Mbuf)) →
    (cellsAddresses cells pre.length).map
        (fun address => byteAt address.path (pre ++ cells) address.offset) =
      (cellsBytes cells).map some
  | [], _ => rfl
  | cell :: cells, pre => by
      have hcell := cellAddresses_bytes cell (pre ++ cell :: cells) pre.length
        (by rw [getElem?_append_right (Nat.le_refl _), Nat.sub_self]; rfl)
      have hcells := cellsAddresses_bytes cells (pre ++ [cell])
      rw [length_append, append_assoc] at hcells
      rw [cellsAddresses, map_append, map_map, cellsBytes_cons, map_append, ← hcell]
      exact congrArg _ hcells

theorem cellAddresses_bytes : (cell : Cell Mbuf) → ∀ (all : List (Cell Mbuf)) (i : Nat),
    all[i]? = some cell →
    (cellAddresses cell).map
        ((fun address => byteAt address.path all address.offset) ∘ Address.under i) =
      (cellBytes cell).map some
  | .data _ bytes, all, i, hi => by
      rw [cellAddresses, map_map, cellBytes, ← map_range_getElem?]
      apply map_congr_left
      intro k _
      simp only [Function.comp_apply, Address.under, byteAt, hi]
  | .nested len winStart mbuf, all, i, hi => by
      have hmbuf := Mbuf.map_deref_addresses mbuf
      have hfun : (fun address => byteAt address.path all address.offset) ∘ Address.under i =
          mbuf.deref := by
        funext address
        simp only [Function.comp_apply, Address.under, byteAt, hi, Mbuf.deref]
      rw [hfun, cellAddresses, cellBytes, map_take, map_drop, hmbuf, map_take,
        map_drop]

end

theorem Mbuf.addresses_length (mbuf : Mbuf) :
    mbuf.addresses.length = mbuf.contents.length := by
  have h := congrArg length mbuf.map_deref_addresses
  rwa [length_map, length_map] at h

theorem cellAddresses_length (cell : Cell Mbuf) :
    (cellAddresses cell).length = (cellBytes cell).length := by
  have h := congrArg length (cellAddresses_bytes cell [cell] 0 rfl)
  rwa [length_map, length_map] at h

variable {cells : List (Cell Mbuf)} {p : Nat}

/-- An address in a row of cells names one of them. -/
theorem path_of_mem {i : Nat} {address : Address} (h : address ∈ cellsAddresses cells i) :
    ∃ j path, address.path = j :: path ∧ i ≤ j := by
  induction cells generalizing i with
  | nil => cases h
  | cons cell cells ih =>
      rcases mem_append.1 h with hmem | hmem
      · obtain ⟨inner, -, rfl⟩ := mem_map.1 hmem
        exact ⟨i, inner.path, rfl, Nat.le_refl i⟩
      · obtain ⟨j, path, hpath, hj⟩ := ih hmem
        exact ⟨j, path, hpath, by omega⟩

/-! ## Windows that cut a cell -/

mutual

/-- A window that ends at the position `e` of the contents, or one of a nested mbuf below,
ends inside the cell that holds the byte at the position `p`. -/
def Mbuf.Cut : Mbuf → Nat → Nat → Prop
  | ⟨_, cells, _, _, _, _, _⟩, p, e => CellsCut cells p e

def CellsCut : List (Cell Mbuf) → Nat → Nat → Prop
  | [], _, _ => False
  | cell :: cells, p, e =>
      if cell.len ≤ p then CellsCut cells (p - cell.len) (e - cell.len) else CellCut cell p e

def CellCut : Cell Mbuf → Nat → Nat → Prop
  | .data _ bytes, _, e => e < bytes.length
  | .nested len winStart mbuf, p, e => mbuf.Cut (winStart + p) (winStart + min len e)

end

/-- What is peeked at the position `p` is the byte there. The bytes that follow it in the cell
follow it in the contents as well, up to the end `e` of a window, unless the cell is cut. -/
structure Contig.Shows (contig : Contig) (addresses : List Address) (p : Nat)
    (Cut : Nat → Prop) : Prop where
  pos : 0 < contig.contigLen
  first : addresses[p]? = some contig.address
  inside : ∀ e, p < e → ¬ Cut e → p + contig.contigLen ≤ e ∧
    ∀ k < contig.contigLen, addresses[p + k]? = some (contig.address.plus k)
  outside : ∀ e, p < e → Cut e →
    ∃ k < contig.contigLen, contig.address.plus k ∉ addresses.take e

/-- Behind the first cell. -/
theorem Contig.Shows.later {contig : Contig} {cell : Cell Mbuf} {i : Nat}
    (hlen : (cellAddresses cell).length = cell.len) (hle : cell.len ≤ p)
    (h : contig.Shows (cellsAddresses cells (i + 1)) (p - cell.len)
      (CellsCut cells (p - cell.len))) :
    contig.Shows (cellsAddresses (cell :: cells) i) p (CellsCut (cell :: cells) p) := by
  have hmap : ((cellAddresses cell).map (Address.under i)).length = cell.len := by
    rw [length_map, hlen]
  have hget : ∀ k, (cellsAddresses (cell :: cells) i)[p + k]? =
      (cellsAddresses cells (i + 1))[p - cell.len + k]? := by
    intro k
    rw [cellsAddresses, getElem?_append_right (by omega), hmap]
    congr 1
    omega
  have hcut : ∀ e, CellsCut (cell :: cells) p e ↔
      CellsCut cells (p - cell.len) (e - cell.len) := by
    intro e
    rw [CellsCut, if_pos hle]
  refine ⟨h.pos, ?_, fun e he hnot => ?_, fun e he hcuts => ?_⟩
  · exact (hget 0).trans h.first
  · obtain ⟨hend, hbytes⟩ := h.inside (e - cell.len) (by omega) fun hc => hnot ((hcut e).2 hc)
    exact ⟨by omega, fun k hk => (hget k).trans (hbytes k hk)⟩
  · obtain ⟨k, hk, hmem⟩ := h.outside (e - cell.len) (by omega) ((hcut e).1 hcuts)
    refine ⟨k, hk, fun hin => ?_⟩
    rw [cellsAddresses, take_append, hmap] at hin
    rcases mem_append.1 hin with hin | hin
    · obtain ⟨inner, -, hinner⟩ := mem_map.1 (mem_of_mem_take hin)
      obtain ⟨j, path, hpath, hj⟩ := path_of_mem (mem_of_getElem? h.first)
      have hij : i :: inner.path = j :: path := (congrArg Address.path hinner).trans hpath
      have := (cons.inj hij).1
      omega
    · exact hmem hin

/-- In the first cell. -/
theorem Contig.Shows.here {contig : Contig} {cell : Cell Mbuf} {i : Nat} (hlt : ¬ cell.len ≤ p)
    (h : contig.Shows (cellAddresses cell) p (CellCut cell p)) :
    Contig.Shows { contig with address := contig.address.under i }
      (cellsAddresses (cell :: cells) i) p (CellsCut (cell :: cells) p) := by
  have hcut : ∀ e, CellsCut (cell :: cells) p e ↔ CellCut cell p e := by
    intro e
    rw [CellsCut, if_neg hlt]
  have hget : ∀ k address, (cellAddresses cell)[p + k]? = some address →
      (cellsAddresses (cell :: cells) i)[p + k]? = some (address.under i) := by
    intro k address hk
    have hroom := (List.getElem?_eq_some_iff.1 hk).1
    rw [cellsAddresses, getElem?_append_left (by rwa [length_map]), getElem?_map, hk]
    rfl
  refine ⟨h.pos, hget 0 _ h.first, fun e he hnot => ?_, fun e he hcuts => ?_⟩
  · obtain ⟨hend, hbytes⟩ := h.inside e he fun hc => hnot ((hcut e).2 hc)
    exact ⟨hend, fun k hk => hget k _ (hbytes k hk)⟩
  · obtain ⟨k, hk, hmem⟩ := h.outside e he ((hcut e).1 hcuts)
    refine ⟨k, hk, fun hin => ?_⟩
    rw [cellsAddresses, take_append] at hin
    rcases mem_append.1 hin with hin | hin
    · rw [← map_take] at hin
      obtain ⟨inner, hinner, heq⟩ := mem_map.1 hin
      obtain rfl : inner = contig.address.plus k := by
        obtain ⟨path, offset⟩ := inner
        have hpath := (cons.inj (congrArg Address.path heq)).2
        have hoffset := congrArg Address.offset heq
        exact congrArg₂ Address.mk hpath hoffset
      exact hmem hinner
    · obtain ⟨j, path, hpath, hj⟩ := path_of_mem (mem_of_mem_take hin)
      have := (cons.inj (hpath : i :: contig.address.path = j :: path)).1
      omega

theorem shows_data (bytes : List UInt8) (hp : p < bytes.length) :
    Contig.Shows ⟨⟨[], p⟩, bytes.length - p⟩
      ((range bytes.length).map fun k => ⟨[], k⟩) p (fun e => e < bytes.length) := by
  have hget : ∀ k, p + k < bytes.length →
      ((range bytes.length).map fun k => (⟨[], k⟩ : Address))[p + k]? =
        some ⟨[], p + k⟩ := by
    intro k hk
    rw [getElem?_map, getElem?_range hk]
    rfl
  refine ⟨by dsimp only; omega, hget 0 hp, fun e _ hnot => ?_, fun e he hcut => ?_⟩
  · exact ⟨by dsimp only; omega, fun k hk => hget k (by dsimp only at hk; omega)⟩
  · refine ⟨e - p, by dsimp only; omega, fun hin => ?_⟩
    rw [← map_take, take_range] at hin
    obtain ⟨k, hk, heq⟩ := mem_map.1 hin
    have hoffset : k = p + (e - p) := congrArg Address.offset heq
    have := mem_range.1 hk
    omega

/-- What is seen through the window of a nested mbuf. -/
theorem Contig.Shows.nested {contig : Contig} {addresses : List Address} {Cut : Nat → Prop}
    {winStart len : Nat} (hp : p < len) (h : contig.Shows addresses (winStart + p) Cut) :
    contig.Shows ((addresses.drop winStart).take len) p
      (fun e => Cut (winStart + min len e)) := by
  have hget : ∀ k, p + k < len → ((addresses.drop winStart).take len)[p + k]? =
      addresses[winStart + p + k]? := by
    intro k hk
    rw [getElem?_take_of_lt hk, getElem?_drop, Nat.add_assoc]
  refine ⟨h.pos, (hget 0 hp).trans h.first, fun e he hnot => ?_, fun e he hcut => ?_⟩
  · obtain ⟨hend, hbytes⟩ := h.inside _ (by omega) hnot
    exact ⟨by omega, fun k hk => (hget k (by omega)).trans (hbytes k hk)⟩
  · obtain ⟨k, hk, hmem⟩ := h.outside _ (by omega) hcut
    refine ⟨k, hk, fun hin => hmem ?_⟩
    rw [take_take, Nat.min_comm, take_drop] at hin
    exact mem_of_mem_drop hin

mutual

/-- Peeking at a position of the contents of a fresh tree shows what is there. -/
theorem Mbuf.Fresh.peek : (mbuf : Mbuf) → mbuf.Fresh → ∀ p < mbuf.contents.length, ∀ offset,
    (offset + mbuf.winStart) % 65536 = p →
    ∃ contig, mbuf.peekBytes offset = some contig ∧ contig.Shows mbuf.addresses p (mbuf.Cut p)
  | ⟨_, cells, _, _, _, winStart, _⟩, h, p, hp, offset, hoffset => by
      obtain ⟨-, -, -, hcells⟩ := h
      obtain ⟨contig, hrun, hshows⟩ := CellsFresh.peek cells hcells 0 p hp
      refine ⟨contig, ?_, hshows⟩
      rw [Mbuf.peekBytes, hoffset, hrun]

theorem CellsFresh.peek : (cells : List (Cell Mbuf)) → CellsFresh cells →
    ∀ i, ∀ p < (cellsBytes cells).length,
    ∃ contig, peekCells cells i p = some contig ∧
      contig.Shows (cellsAddresses cells i) p (CellsCut cells p)
  | [], _, _, _, hp => absurd hp (Nat.not_lt_zero _)
  | cell :: cells, h, i, p, hp => by
      obtain ⟨hcell, hcells⟩ := h
      have hbytes := cellBytes_length hcell
      have hlen := (cellAddresses_length cell).trans hbytes
      rw [cellsBytes_cons, length_append, hbytes] at hp
      by_cases hle : cell.len ≤ p
      · obtain ⟨contig, hrun, hshows⟩ :=
          CellsFresh.peek cells hcells (i + 1) (p - cell.len) (by omega)
        exact ⟨contig, by rw [peekCells, if_pos hle, hrun], hshows.later hlen hle⟩
      · obtain ⟨contig, hrun, hshows⟩ := CellFresh.peek cell hcell p (Nat.lt_of_not_le hle)
        exact ⟨_, by rw [peekCells, if_neg hle, hrun]; rfl, hshows.here hle⟩

theorem CellFresh.peek : (cell : Cell Mbuf) → CellFresh cell → ∀ p < cell.len,
    ∃ contig, peekCell cell p = some contig ∧
      contig.Shows (cellAddresses cell) p (CellCut cell p)
  | .data _ bytes, _, p, hp => ⟨_, rfl, shows_data bytes hp⟩
  | .nested len winStart mbuf, h, p, hp => by
      obtain ⟨hfresh, hstart, hroom⟩ := h
      have hp' : p < len := hp
      have hsmall := (mbuf.fresh_iff.1 hfresh).2.2.1
      obtain ⟨contig, hrun, hshows⟩ :=
        Mbuf.Fresh.peek mbuf hfresh (winStart + p) (by omega) p (by omega)
      exact ⟨contig, hrun, hshows.nested hp'⟩

end

theorem peekCells_none (i : Nat) (h : cellsLen cells ≤ p) : peekCells cells i p = none := by
  induction cells generalizing i p with
  | nil => rfl
  | cons cell cells ih =>
      rw [cellsLen] at h
      rw [peekCells, if_pos (by omega)]
      exact ih (i + 1) (by omega)

/-! ## What peeking shows of a window -/

namespace Mbuf

open List

variable {mbuf : Mbuf}

/-- `OI_MBUF_PeekBytes` points to the byte that is pulled from this offset, the bytes it
counts are all in the window, and it returns `NULL` from the end of the window on. -/
def PeekAgrees (mbuf : Mbuf) (offset : Nat) : Prop :=
  match mbuf.peekBytes offset with
  | none => mbuf.numBytes ≤ offset
  | some contig => mbuf.viewAddresses[offset]? = some contig.address ∧
      ∀ k < contig.contigLen, contig.address.plus k ∈ mbuf.viewAddresses

/-- The byte at the offset is in the window and no window ends inside its cell; or the offset
is behind the window, and it leads behind all the cells as well. -/
def Peekable (mbuf : Mbuf) (offset : Nat) : Prop :=
  (offset < mbuf.numBytes ∧
      ¬ mbuf.Cut (mbuf.winStart + offset) (mbuf.winStart + mbuf.numBytes)) ∨
    (mbuf.numBytes ≤ offset ∧
      mbuf.contents.length ≤ (offset + mbuf.winStart) % 65536)

theorem peekBytes_eq (mbuf : Mbuf) (offset : Nat) :
    mbuf.peekBytes offset = peekCells mbuf.cells 0 ((offset + mbuf.winStart) % 65536) := by
  cases mbuf
  rfl

theorem Ready.viewAddresses_length {windowed : Bool} (h : mbuf.Ready windowed) :
    mbuf.viewAddresses.length = mbuf.numBytes := by
  have hinside := h.inside
  rw [viewAddresses, length_take, length_drop, addresses_length]
  omega

/-- The bytes at the addresses of the window are the bytes that are pulled. -/
theorem map_deref_viewAddresses (mbuf : Mbuf) :
    mbuf.viewAddresses.map mbuf.deref = mbuf.view.map some := by
  rw [viewAddresses, view, map_take, map_drop, map_deref_addresses, map_take,
    map_drop]

/-- Inside the window. -/
theorem Ready.peekAgrees_inside {windowed : Bool} (h : mbuf.Ready windowed) {offset : Nat}
    (hoffset : offset < mbuf.numBytes) :
    mbuf.PeekAgrees offset ↔
      ¬ mbuf.Cut (mbuf.winStart + offset) (mbuf.winStart + mbuf.numBytes) := by
  have hinside := h.inside
  have hsmall := (mbuf.fresh_iff.1 h.fresh).2.2.1
  obtain ⟨contig, hrun, hshows⟩ := Fresh.peek mbuf h.fresh (mbuf.winStart + offset) (by omega)
    offset (by omega)
  have hget : ∀ k, offset + k < mbuf.numBytes →
      mbuf.viewAddresses[offset + k]? = mbuf.addresses[mbuf.winStart + offset + k]? := by
    intro k hk
    rw [viewAddresses, getElem?_take_of_lt hk, getElem?_drop, Nat.add_assoc]
  unfold PeekAgrees
  rw [hrun]
  constructor
  · rintro ⟨-, hall⟩ hcut
    obtain ⟨k, hk, hmem⟩ := hshows.outside _ (by omega) hcut
    have hin := hall k hk
    rw [viewAddresses, take_drop] at hin
    exact hmem (mem_of_mem_drop hin)
  · intro hcut
    obtain ⟨hend, hbytes⟩ := hshows.inside _ (by omega) hcut
    refine ⟨(hget 0 hoffset).trans hshows.first, fun k hk => ?_⟩
    exact mem_of_getElem? ((hget k (by omega)).trans (hbytes k hk))

/-- Behind the window. -/
theorem Ready.peekAgrees_behind {windowed : Bool} (h : mbuf.Ready windowed) {offset : Nat}
    (hoffset : mbuf.numBytes ≤ offset) :
    mbuf.PeekAgrees offset ↔ mbuf.contents.length ≤ (offset + mbuf.winStart) % 65536 := by
  unfold PeekAgrees
  by_cases hbehind : mbuf.contents.length ≤ (offset + mbuf.winStart) % 65536
  · have hnone : mbuf.peekBytes offset = none := by
      have hcells := (mbuf.fresh_iff.1 h.fresh).2.2.2
      rw [contents_eq, cellsBytes_length hcells] at hbehind
      rw [peekBytes_eq]
      exact peekCells_none 0 hbehind
    rw [hnone]
    exact iff_of_true hoffset hbehind
  · obtain ⟨contig, hrun, -⟩ := Fresh.peek mbuf h.fresh _ (Nat.lt_of_not_le hbehind) offset rfl
    rw [hrun]
    refine iff_of_false (fun hagrees => ?_) hbehind
    have := (List.getElem?_eq_some_iff.1 hagrees.1).1
    rw [h.viewAddresses_length] at this
    omega

/-- The checksum of a tree is that of the bytes that are pulled from it; what is peeked at is
what is pulled exactly where no window ends inside the cell of the byte, and behind a window
only where there are no more cells. -/
theorem peeked_agrees_iff {windowed : Bool} (h : Built windowed mbuf) (hsmall : mbuf.Small) :
    (∀ n runningFCS, ∃ bytes last, mbuf.pullBytes n = .ok (bytes, last) ∧
      mbuf.computeFCS n runningFCS = .ok (bytes.length, fcsCompute bytes runningFCS)) ∧
    ∃ bytes last, mbuf.pullBytes mbuf.numBytes = .ok (bytes, last) ∧
      mbuf.viewAddresses.map mbuf.deref = bytes.map some ∧
      ∀ offset, mbuf.PeekAgrees offset ↔ mbuf.Peekable offset := by
  have hready := ready_of_built h hsmall
  have hinside := hready.inside
  have hlen := hready.allLeft.length_eq
  refine ⟨fun n runningFCS => ?_, ?_⟩
  · obtain ⟨last, p, hrun, -⟩ := hready.allLeft.pullBytes n
    refine ⟨_, last, hrun, ?_⟩
    rw [computeFCS, Fresh.fcs_eq mbuf hready.fresh _ _ _ (by omega), length_take, hlen, view,
      take_take]
  · obtain ⟨last, p, hrun, -⟩ := hready.allLeft.pullBytes mbuf.numBytes
    rw [take_of_length_le (Nat.le_of_eq hlen)] at hrun
    refine ⟨_, last, hrun, mbuf.map_deref_viewAddresses, fun offset => ?_⟩
    unfold Peekable
    by_cases hoffset : offset < mbuf.numBytes
    · rw [hready.peekAgrees_inside hoffset, and_iff_right hoffset, or_iff_left]
      exact fun hbehind => absurd hoffset (Nat.not_lt.2 hbehind.1)
    · have hle := Nat.not_lt.1 hoffset
      rw [hready.peekAgrees_behind hle, and_iff_right hle, or_iff_right]
      exact fun hinside => hoffset hinside.1

/-- The byte behind the first one is in the nested mbuf, whose window ends with its cell. -/
theorem peeked_agrees_nested : sampleTree.PeekAgrees 1 := by
  obtain ⟨-, -, -, -, -, hiff⟩ := peeked_agrees_iff sampleTree_built sampleTree_small
  have hcut : ¬ sampleTree.Cut 1 3 := Nat.lt_irrefl 3
  exact (hiff 1).2 (.inl ⟨by decide, hcut⟩)

/-- A window of one byte over three: behind its end there is no `NULL` but the second byte. -/
theorem peeks_behind_window :
    ¬ ∀ (windowed : Bool) (mbuf : Mbuf), Built windowed mbuf → mbuf.Small →
      ∀ offset < 65536, mbuf.PeekAgrees offset := by
  intro hall
  have hbytes : Built false ⟨1, [.data .keep [1, 2, 3]], 0, 0, 3, 0, 0⟩ :=
    @Built.append _ _ [1, 2, 3] .keep true _ (.alloc 1) rfl
  have hwindow : Built true ⟨1, [.data .keep [1, 2, 3]], 0, 0, 1, 0, 1⟩ :=
    @Built.setWindowAt _ _ _ 0 1 1 hbytes rfl
  have hagrees := hall true _ hwindow ⟨by decide, trivial, trivial⟩ 1 (by decide)
  exact absurd hagrees.1 (by decide)

end Mbuf

end Stack
