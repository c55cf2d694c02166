import BtPlatform.Property.List

/-!
# The file of properties

`save_ds_to_persist` writes one line `name,value,callback` for each node through a buffer
of 80 characters; `create_node_from_persist` reads pieces of at most 79 characters and takes
from each one what stands before the first two commas.
-/

namespace Property

open List

def MAX_ALLOWED_LINE_LEN : Nat := 80
def MAX_PROPERTY_ITER : Nat := 3

def comma : UInt8 := 44
def newline : UInt8 := 10

/-- What `%s` prints for `callback_to_be_invoked`, which is zero: `(null)`. -/
def nullText : List UInt8 := [40, 110, 117, 108, 108, 41]

/-! ## Saving -/

/-- `snprintf(stringtowrite, MAX_ALLOWED_LINE_LEN, "%s,%s,%s\n", …)` -/
def stringToWrite (u : PropertyUnit) : List UInt8 :=
  (u.propertyName.chars ++ comma :: (u.propertyValue.chars ++ comma ::
    (nullText ++ [newline]))).take
    (MAX_ALLOWED_LINE_LEN - 1)

/-- The loop over the nodes, from the node where it stands; the lines before the first
one that `fputs` refuses are in the file. -/
def saveNodes (fputs : List UInt8 → Bool) (retval : Bool) :
    List PropertyUnit → List UInt8 × Bool
  | [] => ([], retval)
  | u :: list =>
      if fputs (stringToWrite u) then
        let rest := saveNodes fputs true list
        (stringToWrite u ++ rest.1, rest.2)
      else ([], false)

/-- `save_ds_to_persist`: the content that the file gets, if it can be opened, and the
result. -/
def saveDsToPersist (opened : Bool) (fputs : List UInt8 → Bool) (list : List PropertyUnit) :
    Option (List UInt8) × Bool :=
  if opened then
    let saved := saveNodes fputs false list
    (some saved.1, saved.2)
  else (none, false)

/-! ## Loading -/

/-- `fgets` with room for `n` characters: up to a newline or as many as there is room
for, and what is left of the file. -/
def fgets : Nat → List UInt8 → List UInt8 × List UInt8
  | 0, file => ([], file)
  | _ + 1, [] => ([], [])
  | n + 1, c :: file =>
      if c = newline then ([c], file)
      else (c :: (fgets n file).1, (fgets n file).2)

theorem fgets_append (n : Nat) (file : List UInt8) :
    (fgets n file).1 ++ (fgets n file).2 = file := by
  induction n generalizing file with
  | zero => rfl
  | succ n ih =>
      cases file with
      | nil => rfl
      | cons c file =>
          by_cases hc : c = newline
          · rw [fgets, if_pos hc]
            rfl
          · rw [fgets, if_neg hc, cons_append, ih]

theorem fgets_rest_lt (n : Nat) (c : UInt8) (file : List UInt8) :
    (fgets (n + 1) (c :: file)).2.length < (c :: file).length := by
  have h := congrArg length (fgets_append (n + 1) (c :: file))
  have hpos : 0 < (fgets (n + 1) (c :: file)).1.length := by
    rw [fgets]
    split <;> simp
  rw [length_append] at h
  omega

/-- The pieces that the loop over `fgets(line, MAX_ALLOWED_LINE_LEN, fp)` reads. -/
def pieces : List UInt8 → List (List UInt8)
  | [] => []
  | c :: file =>
      (fgets (MAX_ALLOWED_LINE_LEN - 2 + 1) (c :: file)).1 ::
        pieces (fgets (MAX_ALLOWED_LINE_LEN - 2 + 1) (c :: file)).2
  termination_by file => file.length
  decreasing_by exact fgets_rest_lt _ c file

/-- The characters before the terminator. -/
def cString (line : List UInt8) : List UInt8 := line.takeWhile (· ≠ 0)

/-- What stands before the first `c` and what follows it. -/
def strchr (c : UInt8) : List UInt8 → Option (List UInt8 × List UInt8)
  | [] => none
  | x :: s => if x = c then some ([], s) else (strchr c s).map fun r => (x :: r.1, r.2)

/-- `strlcpy(dst, src, n)` into an array of `size` characters; `none` is a write behind
its end. -/
def strlcpy (size : Nat) (src : List UInt8) (n : Nat) : Option (CString size) :=
  if h : 0 ∉ src.take (n - 1) ∧ (src.take (n - 1)).length < size then
    some ⟨src.take (n - 1), h.1, h.2⟩
  else none

def CString.empty (size : Nat) (h : 0 < size) : CString size := ⟨[], not_mem_nil, h⟩

/-- A node as `calloc` returns it. -/
def PropertyUnit.zero : PropertyUnit :=
  ⟨.empty MAX_NAME_LEN (by decide), .empty MAX_VALUE_LEN (by decide)⟩

/-- The `switch` on the iterator: `EXT_NAME`, `EXT_VAL`, or nothing. -/
def storeField (iterator : Nat) (u : PropertyUnit) (currLinePtr : List UInt8)
    (currLength : Nat) : Option PropertyUnit :=
  match iterator with
  | 0 => (strlcpy MAX_NAME_LEN currLinePtr (currLength + 1)).map fun name =>
      { u with propertyName := name }
  | 1 => (strlcpy MAX_VALUE_LEN currLinePtr (currLength + 1)).map fun value =>
      { u with propertyValue := value }
  | _ => some u

/-- The loop of `__pull_one_line_data` with `n` iterations left. -/
def pullFields (iterator : Nat) : Nat → PropertyUnit → List UInt8 → Option PropertyUnit
  | 0, u, _ => some u
  | n + 1, u, currLinePtr =>
      match strchr comma currLinePtr with
      | none => some u
      | some (field, next) =>
          match storeField iterator u currLinePtr (min field.length MAX_ALLOWED_LINE_LEN) with
          | none => none
          | some u => pullFields (iterator + 1) n u next

/-- `__pull_one_line_data`, with the node that `calloc` returned. -/
def pullOneLineData (line : List UInt8) : Option PropertyUnit :=
  pullFields 0 MAX_PROPERTY_ITER .zero (cString line)

/-- The loop of `__search_and_add_property_val` over the pieces, from line number
`lineNum`; without memory for a node the line is passed over. -/
def addLines (calloc : Nat → Bool) :
    Nat → List (List UInt8) → List PropertyUnit → Option (List PropertyUnit)
  | _, [], list => some list
  | lineNum, line :: rest, list =>
      if calloc (lineNum + 1) then
        match pullOneLineData line with
        | none => none
        | some node => addLines calloc (lineNum + 1) rest (listAdd node list)
      else addLines calloc (lineNum + 1) rest list

/-- `create_node_from_persist` of a file with this content. Its result is that of the
last `__list_add`, which is 0, or the initial `false`. -/
def createNodeFromPersist (calloc : Nat → Bool) (file : List UInt8) (list : List PropertyUnit) :
    Option (List PropertyUnit × Bool) :=
  (addLines calloc 0 (pieces file) list).map fun added => (added, false)

end Property
