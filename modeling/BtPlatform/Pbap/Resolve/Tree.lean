import BtPlatform.Pbap.Names

/-!
# Paths in the tree of folders

A path is a list of names, each of which has to name a folder in the one before. The
characters of a path are split at the separators; `TokenizePath` does so while there is room
for the elements.
-/

namespace Pbap

open Support Repository Phonebook List

/-! ## The folders next to a folder -/

/-- The phonebooks in the order of their folders. -/
def Book.all : List Book :=
  [⟨mainPhonebook, nofun⟩, ⟨incomingCallsHistory, nofun⟩, ⟨outgoingCallsHistory, nofun⟩,
    ⟨missedCallsHistory, nofun⟩, ⟨combinedCallsHistory, nofun⟩]

theorem Book.mem_all (book : Book) : book ∈ Book.all := by
  obtain ⟨pb, h⟩ := book
  cases pb with
  | invalidPhonebook => exact absurd rfl h
  | _ => simp [Book.all]

/-- The phonebook whose folder has the name. -/
def Book.named (name : List UInt16) : Option Book := Book.all.find? fun book => book.dir = name

theorem Book.dir_injective {book other : Book} (h : book.dir = other.dir) : book = other := by
  have hall : ∀ book ∈ Book.all, ∀ other ∈ Book.all, book.dir = other.dir → book = other := by
    decide
  exact hall book book.mem_all other other.mem_all h

variable {name : List UInt16}

theorem Book.named_eq_some {book : Book} : Book.named name = some book ↔ book.dir = name := by
  have hdir : ∀ other, Book.named name = some other → other.dir = name := by
    intro other h
    have hfound := find?_some h
    exact of_decide_eq_true hfound
  constructor
  · exact hdir book
  · rintro rfl
    cases hfind : Book.named book.dir with
    | none => simpa using find?_eq_none.1 hfind book book.mem_all
    | some other => rw [dir_injective (hdir other hfind)]

namespace Folder

/-- The folder with a name in a folder. -/
def child : Folder → List UInt16 → Option Folder
  | .root, name =>
      if name = usim1 then some .sim1
      else if name = utelecom then some (.telecom .phone) else none
  | .sim1, name => if name = utelecom then some (.telecom .sim1) else none
  | .telecom store, name => (Book.named name).map (.phonebook store)
  | .phonebook _ _, _ => none

/-- The folder above. -/
def parent : Folder → Option Folder
  | .root => none
  | .sim1 => some .root
  | .telecom .phone => some .root
  | .telecom .sim1 => some .sim1
  | .phonebook store _ => some (.telecom store)

/-- The folder that a path leads to. -/
def descend (here : Folder) : List (List UInt16) → Option Folder
  | [] => some here
  | name :: path => (here.child name).bind fun there => there.descend path

theorem level_le (here : Folder) : here.level ≤ 3 := by
  cases here with
  | root => decide
  | sim1 => decide
  | telecom store => cases store <;> decide
  | phonebook store book => cases store <;> exact Nat.le_of_ble_eq_true rfl

theorem level_child {here there : Folder} (h : here.child name = some there) :
    there.level = here.level + 1 := by
  cases here with
  | root =>
      simp only [child] at h
      split at h
      · cases h
        rfl
      · split at h
        · cases h
          rfl
        · cases h
  | sim1 =>
      simp only [child] at h
      split at h
      · cases h
        rfl
      · cases h
  | telecom store =>
      obtain ⟨book, -, rfl⟩ := Option.map_eq_some_iff.1 h
      cases store <;> rfl
  | phonebook store book => cases h

/-- Each element of a path leads one level down. -/
theorem level_descend {here there : Folder} {path : List (List UInt16)}
    (h : here.descend path = some there) : there.level = here.level + path.length := by
  induction path generalizing here with
  | nil =>
      cases h
      rfl
  | cons name path ih =>
      obtain ⟨next, hchild, hrest⟩ := Option.bind_eq_some_iff.1 h
      rw [ih hrest, level_child hchild, length_cons]
      omega

/-- No path leads deeper than the tree is. -/
theorem descend_eq_none {here : Folder} {path : List (List UInt16)}
    (h : 3 < here.level + path.length) : here.descend path = none := by
  cases hdescend : here.descend path with
  | none => rfl
  | some there =>
      have hlevel := level_descend hdescend
      have := there.level_le
      omega

end Folder

/-! ## The elements of a path -/

/-- The names between the separators, up to the terminator if there is one. -/
def pathElements (path : List UInt16) : List (List UInt16) := (cString path).splitOn slash

section Tokens

variable {maxCnt capacity : Nat} {elements : List (List UInt16)} {path str : List UInt16}

theorem splitOn_cons_slash (str : List UInt16) :
    (slash :: str).splitOn slash = [] :: str.splitOn slash := by
  rw [splitOn_cons_eq_if_modifyHead, if_pos (beq_self_eq_true slash)]

variable {c : UInt16}

theorem splitOn_cons_ne (h : c ≠ slash) (str : List UInt16) :
    (c :: str).splitOn slash = (str.splitOn slash).modifyHead (c :: ·) := by
  rw [splitOn_cons_eq_if_modifyHead, if_neg (by simpa using h)]

theorem splitOn_length_pos (str : List UInt16) : 0 < (str.splitOn slash).length :=
  length_pos_iff.2 (splitOn_ne_nil _ _)

/-- The loop splits the path where there is room for all elements. -/
theorem tokenizeLoop_splitOn
    (hcapacity : elements.length + (str.splitOn slash).length ≤ capacity)
    (hmax : maxCnt = 0 ∨ elements.length + (str.splitOn slash).length ≤ maxCnt) :
    tokenizeLoop maxCnt capacity elements path str =
      .ok (.ok, elements ++ (str.splitOn slash).modifyHead (path ++ ·)) := by
  induction str generalizing elements path with
  | nil => simp [tokenizeLoop, splitOn_nil]
  | cons c str ih =>
      rw [tokenizeLoop]
      by_cases hc : c = slash
      · subst hc
        rw [splitOn_cons_slash, length_cons] at hcapacity hmax
        have hpos := splitOn_length_pos str
        have hlen : (elements ++ [path]).length = elements.length + 1 := length_append
        rw [if_pos rfl, if_neg (by omega), if_neg (by omega), splitOn_cons_slash,
          ih (by omega) (by omega)]
        cases str.splitOn slash <;> simp
      · rw [splitOn_cons_ne hc, length_modifyHead] at hcapacity hmax
        rw [if_neg hc, splitOn_cons_ne hc, ih hcapacity hmax]
        cases str.splitOn slash <;> simp

/-- A path with more elements than are asked for is not found. -/
theorem tokenizeLoop_long (hroom : elements.length < maxCnt)
    (hlong : maxCnt < elements.length + (str.splitOn slash).length) :
    ∃ read, tokenizeLoop maxCnt maxCnt elements path str = .ok (.obexNotFound, read) ∧
      read ≠ [] := by
  induction str generalizing elements path with
  | nil =>
      rw [splitOn_nil, length_singleton] at hlong
      omega
  | cons c str ih =>
      rw [tokenizeLoop]
      by_cases hc : c = slash
      · subst hc
        rw [splitOn_cons_slash, length_cons] at hlong
        have hlen : (elements ++ [path]).length = elements.length + 1 := length_append
        rw [if_pos rfl]
        by_cases hfull : elements.length + 1 = maxCnt
        · rw [if_pos hfull]
          exact ⟨_, rfl, append_ne_nil_of_right_ne_nil _ (cons_ne_nil _ _)⟩
        · rw [if_neg hfull, if_neg (by omega)]
          exact ih (by omega) (by omega)
      · rw [splitOn_cons_ne hc, length_modifyHead] at hlong
        rw [if_neg hc]
        exact ih hroom hlong

/-- Without a limit, a path with more elements than there is room for is written past the
end of the array. -/
theorem tokenizeLoop_overflow (hroom : elements.length < capacity)
    (hlong : capacity < elements.length + (str.splitOn slash).length) :
    tokenizeLoop 0 capacity elements path str = .error .outOfBounds := by
  induction str generalizing elements path with
  | nil =>
      rw [splitOn_nil, length_singleton] at hlong
      omega
  | cons c str ih =>
      rw [tokenizeLoop]
      by_cases hc : c = slash
      · subst hc
        rw [splitOn_cons_slash, length_cons] at hlong
        have hlen : (elements ++ [path]).length = elements.length + 1 := length_append
        rw [if_pos rfl, if_neg (Nat.succ_ne_zero _)]
        by_cases hfull : elements.length + 1 ≥ capacity
        · rw [if_pos hfull]
        · rw [if_neg hfull]
          exact ih (by omega) (by omega)
      · rw [splitOn_cons_ne hc, length_modifyHead] at hlong
        rw [if_neg hc]
        exact ih hroom hlong

/-- The element that is read last is among those that are stored. -/
theorem tokenizeLoop_ne_nil {status : Status} {read : List (List UInt16)}
    (h : tokenizeLoop maxCnt capacity elements path str = .ok (status, read)) : read ≠ [] := by
  induction str generalizing elements path with
  | nil =>
      cases h
      exact append_ne_nil_of_right_ne_nil _ (cons_ne_nil _ _)
  | cons c str ih =>
      rw [tokenizeLoop] at h
      split at h
      · split at h
        · cases h
          exact append_ne_nil_of_right_ne_nil _ (cons_ne_nil _ _)
        · split at h
          · cases h
          · exact ih h
      · exact ih h

/-- Without an element, a path that is not empty is refused. -/
theorem success_of_tokenizePath_nil {room : Bool} {status : Status} (hzero : c ≠ 0)
    (h : tokenizePath room maxCnt capacity (c :: str) = .ok (status, [])) :
    status.success = false := by
  unfold tokenizePath at h
  rw [if_neg (by simp [hzero])] at h
  split at h
  · cases h
    rfl
  · split at h
    · cases h
      rfl
    · exact absurd rfl (tokenizeLoop_ne_nil h)

theorem modifyHead_nil_append (names : List (List UInt16)) :
    names.modifyHead (([] : List UInt16) ++ ·) = names := by
  cases names <;> rfl

/-- A path that is neither empty nor absolute. -/
theorem tokenizePath_relative (hne : ¬ (name = [] ∨ name = [0]))
    (hslash : name.head? ≠ some slash) :
    tokenizePath true maxCnt capacity name =
      tokenizeLoop maxCnt capacity [] [] (cString name) := by
  unfold tokenizePath
  rw [if_neg hne, if_neg (by decide), if_neg hslash]

/-- A path with a first character that is neither the terminator nor a separator. -/
theorem tokenizePath_cons (hzero : c ≠ 0) (hslash : c ≠ slash) :
    tokenizePath true maxCnt capacity (c :: str) =
      tokenizeLoop maxCnt capacity [] [] (cString (c :: str)) :=
  tokenizePath_relative (by simp [hzero]) (by simpa using hslash)

theorem pathElements_length_pos {path : List UInt16} : 0 < (pathElements path).length :=
  splitOn_length_pos _

/-- The elements of a path for which there is room. -/
theorem tokenizePath_elements (hzero : c ≠ 0) (hslash : c ≠ slash)
    (hcapacity : (pathElements (c :: str)).length ≤ capacity)
    (hmax : maxCnt = 0 ∨ (pathElements (c :: str)).length ≤ maxCnt) :
    tokenizePath true maxCnt capacity (c :: str) = .ok (.ok, pathElements (c :: str)) := by
  rw [tokenizePath_cons hzero hslash, tokenizeLoop_splitOn (by simpa [pathElements] using hcapacity)
    (by simpa [pathElements] using hmax), nil_append, modifyHead_nil_append]
  rfl

end Tokens

end Pbap
