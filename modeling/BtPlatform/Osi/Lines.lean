import BtPlatform.Osi.Config

/-!
# The lines of a configuration file

What a line contributes to the configuration does not depend on the other lines, apart from
the section in which it stands.
-/

namespace Osi

open Support.Scanf List

/-- The lines that `std::getline` delivers. -/
def getlines : List Char → List (List Char)
  | [] => []
  | ch :: rest =>
      if ch = '\n' then [] :: getlines rest else attach ch (getlines rest)

/-- The lines, each with a newline behind it. -/
def putlines (lines : List (List Char)) : List Char := lines.flatMap (· ++ ['\n'])

/-- The pieces that mean something, as items. -/
def itemsOf (ps : List (List Char)) : List Item := (ps.map item).filter fun i => decide (i ≠ .skip)

/-- What is read from a line. -/
def reads (line : List Char) : List Item := itemsOf (pieces 1022 (line ++ ['\n']))

def Reader.scan (r : Reader) (items : List Item) : Reader := items.foldl Reader.read r

/-- A file is empty, a line without a newline, or a line in front of a file. -/
theorem file_induction {P : List Char → Prop} (nil : P [])
    (last : ∀ line, line ≠ [] → '\n' ∉ line → P line)
    (cons : ∀ line rest, '\n' ∉ line → P rest → P (line ++ '\n' :: rest)) (file : List Char) :
    P file := by
  induction hlength : file.length using Nat.strong_induction_on generalizing file with
  | _ n ih =>
      by_cases hnewline : '\n' ∈ file
      · obtain ⟨line, rest, rfl, hline⟩ := eq_append_cons_of_mem hnewline
        refine cons line rest hline (ih rest.length ?_ rest rfl)
        rw [← hlength, length_append, length_cons]
        omega
      · by_cases hfile : file = []
        · exact hfile ▸ nil
        · exact last file hfile hnewline

/-! ## Lines -/

theorem getlines_newline (rest : List Char) : getlines ('\n' :: rest) = [] :: getlines rest :=
  if_pos rfl

variable {ch : Char} {line : List Char}

theorem getlines_char (h : ch ≠ '\n') (rest : List Char) :
    getlines (ch :: rest) = attach ch (getlines rest) :=
  if_neg h

theorem getlines_cons (hline : '\n' ∉ line) (rest : List Char) :
    getlines (line ++ '\n' :: rest) = line :: getlines rest := by
  induction line with
  | nil => exact getlines_newline rest
  | cons ch line ih =>
      have hch : ch ≠ '\n' := fun h => hline (h ▸ mem_cons_self)
      rw [cons_append, getlines_char hch, ih fun h => hline (mem_cons_of_mem ch h)]
      rfl

theorem getlines_last (hne : line ≠ []) (hline : '\n' ∉ line) : getlines line = [line] := by
  induction line with
  | nil => exact absurd rfl hne
  | cons ch line ih =>
      have hch : ch ≠ '\n' := fun h => hline (h ▸ mem_cons_self)
      rw [getlines_char hch]
      cases line with
      | nil => rfl
      | cons ch' line =>
          rw [ih (cons_ne_nil ch' line) fun h => hline (mem_cons_of_mem ch h)]
          rfl

/-- No line has a newline inside. -/
theorem newline_notMem_getlines (file : List Char) : ∀ line ∈ getlines file, '\n' ∉ line := by
  induction file using file_induction with
  | nil => exact fun _ h => absurd h not_mem_nil
  | last line hne hline =>
      rw [getlines_last hne hline]
      intro line' hmem
      rw [mem_singleton.1 hmem]
      exact hline
  | cons line rest hline ih =>
      rw [getlines_cons hline]
      intro line' hmem
      rcases mem_cons.1 hmem with rfl | hmem
      · exact hline
      · exact ih line' hmem

theorem getlines_putlines {lines : List (List Char)} (h : ∀ line ∈ lines, '\n' ∉ line) :
    getlines (putlines lines) = lines := by
  induction lines with
  | nil => rfl
  | cons line lines ih =>
      have hfile : putlines (line :: lines) = line ++ '\n' :: putlines lines := by
        unfold putlines
        rw [flatMap_cons, append_assoc]
        rfl
      rw [hfile, getlines_cons (h line mem_cons_self),
        ih fun line' hmem => h line' (mem_cons_of_mem line hmem)]

/-! ## Pieces -/

theorem pieces_full {room : Nat} (h : ch = '\n' ∨ room = 0) (rest : List Char) :
    pieces room (ch :: rest) = [ch] :: pieces 1022 rest :=
  if_pos h

theorem pieces_room {room : Nat} (h : ¬(ch = '\n' ∨ room = 0)) (rest : List Char) :
    pieces room (ch :: rest) = attach ch (pieces (room - 1) rest) :=
  if_neg h

theorem attach_append {ps : List (List Char)} (h : ps ≠ []) (ps' : List (List Char)) :
    attach ch (ps ++ ps') = attach ch ps ++ ps' := by
  cases ps with
  | nil => exact absurd rfl h
  | cons piece others => rfl

theorem pieces_ne_nil (room : Nat) {input : List Char} (h : input ≠ []) :
    pieces room input ≠ [] := by
  cases input with
  | nil => exact absurd rfl h
  | cons ch rest =>
      by_cases hroom : ch = '\n' ∨ room = 0
      · rw [pieces_full hroom]
        exact cons_ne_nil _ _
      · rw [pieces_room hroom]
        cases pieces (room - 1) rest with
        | nil => exact cons_ne_nil _ _
        | cons piece others => exact cons_ne_nil _ _

theorem pieces_cons (room : Nat) (line rest : List Char) :
    pieces room (line ++ '\n' :: rest) = pieces room (line ++ ['\n']) ++ pieces 1022 rest := by
  induction line generalizing room with
  | nil =>
      have hnewline : '\n' = '\n' ∨ room = 0 := Or.inl rfl
      rw [nil_append, nil_append, pieces_full hnewline, pieces_full hnewline]
      rfl
  | cons ch line ih =>
      rw [cons_append, cons_append]
      by_cases hroom : ch = '\n' ∨ room = 0
      · rw [pieces_full hroom, pieces_full hroom, ih, cons_append]
      · have hne : line ++ ['\n'] ≠ [] :=
          append_ne_nil_of_right_ne_nil line (cons_ne_nil _ _)
        rw [pieces_room hroom, pieces_room hroom, ih, attach_append (pieces_ne_nil _ hne)]

/-- A newline at the end belongs to the last piece, unless that is full. -/
theorem pieces_last (room : Nat) (hne : line ≠ []) :
    ∃ front last, pieces room line = front ++ [last] ∧
      (pieces room (line ++ ['\n']) = front ++ [last ++ ['\n']] ∨
        pieces room (line ++ ['\n']) = front ++ [last, ['\n']]) := by
  induction line generalizing room with
  | nil => exact absurd rfl hne
  | cons ch line ih =>
      rw [cons_append]
      by_cases hroom : ch = '\n' ∨ room = 0
      · rw [pieces_full hroom, pieces_full hroom]
        by_cases hline : line = []
        · subst hline
          exact ⟨[], [ch], rfl, .inr rfl⟩
        · obtain ⟨front, last, hpieces, hnewline⟩ := ih 1022 hline
          refine ⟨[ch] :: front, last, congrArg _ hpieces, ?_⟩
          exact hnewline.imp (congrArg _) (congrArg _)
      · rw [pieces_room hroom, pieces_room hroom]
        by_cases hline : line = []
        · subst hline
          exact ⟨[], [ch], rfl, .inl rfl⟩
        · obtain ⟨front, last, hpieces, hnewline⟩ := ih (room - 1) hline
          cases front with
          | nil =>
              refine ⟨[], ch :: last, congrArg (attach ch) hpieces, ?_⟩
              exact hnewline.imp (congrArg (attach ch)) (congrArg (attach ch))
          | cons piece front =>
              refine ⟨(ch :: piece) :: front, last, congrArg (attach ch) hpieces, ?_⟩
              exact hnewline.imp (congrArg (attach ch)) (congrArg (attach ch))

/-! ## What a newline does not change -/

theorem trim_append_newline (str : List Char) : trim (str ++ ['\n']) = trim str := by
  unfold trim
  rw [dropWhile_append]
  split
  · next hempty =>
    rw [isEmpty_iff.1 hempty]
    rfl
  · rw [reverse_append]
    rfl

theorem item_append_newline (piece : List Char) : item (piece ++ ['\n']) = item piece := by
  unfold item cLine
  rw [takeWhile_append]
  split
  · next hall =>
    have hnewline : ['\n'].takeWhile (· ≠ '\x00') = ['\n'] := rfl
    rw [hnewline, (List.takeWhile_prefix _).eq_of_length hall, trim_append_newline]
  · rfl

theorem itemsOf_append (ps ps' : List (List Char)) :
    itemsOf (ps ++ ps') = itemsOf ps ++ itemsOf ps' := by
  unfold itemsOf
  rw [map_append, filter_append]

theorem itemsOf_newline (room : Nat) (line : List Char) :
    itemsOf (pieces room (line ++ ['\n'])) = itemsOf (pieces room line) := by
  by_cases hline : line = []
  · subst hline
    rw [nil_append, pieces_full (.inl rfl)]
    rfl
  · obtain ⟨front, last, hpieces, hnewline⟩ := pieces_last room hline
    rw [hpieces]
    rcases hnewline with hnewline | hnewline
    · rw [hnewline, itemsOf_append, itemsOf_append]
      unfold itemsOf
      rw [map_singleton, map_singleton, item_append_newline]
    · rw [hnewline, append_cons, itemsOf_append]
      exact append_nil _

/-! ## Reading line by line -/

theorem scan_itemsOf (r : Reader) (ps : List (List Char)) :
    r.scan (itemsOf ps) = (ps.map item).foldl Reader.read r := by
  unfold Reader.scan itemsOf
  induction ps generalizing r with
  | nil => rfl
  | cons piece ps ih =>
      rw [map_cons, foldl_cons]
      by_cases hskip : item piece = .skip
      · rw [filter_cons_of_neg (by simpa using hskip), hskip]
        exact ih r
      · rw [filter_cons_of_pos (by simpa using hskip), foldl_cons]
        exact ih _

theorem itemsOf_pieces (file : List Char) :
    itemsOf (pieces 1022 file) = (getlines file).flatMap reads := by
  induction file using file_induction with
  | nil => rfl
  | last line hne hline =>
      rw [getlines_last hne hline, flatMap_singleton]
      exact (itemsOf_newline 1022 line).symm
  | cons line rest hline ih =>
      rw [getlines_cons hline, pieces_cons, itemsOf_append, ih, flatMap_cons]
      rfl

/-- The configuration comes from the lines one after the other. -/
theorem configNew_eq (file : List Char) :
    configNew file = (Reader.scan ⟨defaultSection, .newEmpty⟩
      ((getlines file).flatMap reads)).config := by
  rw [← itemsOf_pieces, scan_itemsOf]
  rfl

end Osi
