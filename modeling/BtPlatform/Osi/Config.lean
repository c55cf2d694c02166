import BtPlatform.Support.Scanf
import Mathlib.Data.List.TakeWhile

/-!
# Configuration files

A configuration is a list of sections, each with its entries. It is read from a file piece by
piece, as `fgets` delivers it. A file is the list of its characters; of the list functions
only the cases in which there is memory are kept.
-/

namespace Osi

open Support.Scanf

/-- `entry_t`. -/
structure Entry where
  key : List Char
  value : List Char
  deriving DecidableEq

/-- `section_t`. -/
structure Section where
  name : List Char
  entries : List Entry
  deriving DecidableEq

/-- `config_t`. -/
structure Config where
  sections : List Section
  deriving DecidableEq

/-- `CONFIG_DEFAULT_SECTION`. -/
def defaultSection : List Char := ['G', 'l', 'o', 'b', 'a', 'l']

namespace Config

def newEmpty : Config := ⟨[]⟩

/-- The loop of `config_set_string` over the entries of a section. -/
def setEntry (key value : List Char) : List Entry → List Entry
  | [] => [⟨key, value⟩]
  | entry :: entries =>
      if entry.key = key then { entry with value := value } :: entries
      else entry :: setEntry key value entries

/-- `config_set_string` in the section with this name, which is made if there is none. -/
def setSection (name key value : List Char) : List Section → List Section
  | [] => [⟨name, [⟨key, value⟩]⟩]
  | sec :: sections =>
      if sec.name = name then { sec with entries := setEntry key value sec.entries } :: sections
      else sec :: setSection name key value sections

def setString (config : Config) (name key value : List Char) : Config :=
  ⟨setSection name key value config.sections⟩

/-- `section_find`. -/
def sectionFind (name : List Char) : List Section → Option Section
  | [] => none
  | sec :: sections => if sec.name = name then some sec else sectionFind name sections

/-- The search of `entry_find` in a section. -/
def findEntry (key : List Char) : List Entry → Option Entry
  | [] => none
  | entry :: entries => if entry.key = key then some entry else findEntry key entries

def entryFind (config : Config) (name key : List Char) : Option Entry :=
  match sectionFind name config.sections with
  | none => none
  | some sec => findEntry key sec.entries

/-- `config_get_string`, with `none` for the default value. -/
def getString (config : Config) (name key : List Char) : Option (List Char) :=
  (config.entryFind name key).map Entry.value

end Config

/-! ## Reading -/

/-- The character comes in front of the first piece. -/
def attach (ch : Char) : List (List Char) → List (List Char)
  | [] => [[ch]]
  | piece :: others => (ch :: piece) :: others

/-- What `fgets` reads one after the other: a piece ends behind a newline, or when the buffer
is full. Behind the next character there is room for so many more. -/
def pieces (room : Nat) : List Char → List (List Char)
  | [] => []
  | ch :: rest =>
      if ch = '\n' ∨ room = 0 then [ch] :: pieces 1022 rest
      else attach ch (pieces (room - 1) rest)

/-- A C string ends at its first zero. -/
def cLine (piece : List Char) : List Char := piece.takeWhile (· ≠ '\x00')

def trim (str : List Char) : List Char :=
  ((str.dropWhile isSpace).reverse.dropWhile isSpace).reverse

/-- What `config_parse` makes of a piece. -/
inductive Item
  | skip
  | header (name : List Char)
  | assignment (key value : List Char)
  deriving DecidableEq

/-- The body of the loop of `config_parse`, for a line that has been trimmed. -/
def itemOf (line : List Char) : Item :=
  match line with
  | [] => .skip
  | '#' :: _ => .skip
  | '[' :: name => if name.getLast? = some ']' then .header name.dropLast else .skip
  | line =>
      match line.dropWhile (· ≠ '=') with
      | [] => .skip
      | _ :: value => .assignment (trim (line.takeWhile (· ≠ '='))) (trim value)

def item (piece : List Char) : Item := itemOf (trim (cLine piece))

/-- The section that is read and the configuration so far. -/
structure Reader where
  current : List Char
  config : Config

def Reader.read (r : Reader) : Item → Reader
  | .skip => r
  | .header name => { r with current := name }
  | .assignment key value => { r with config := r.config.setString r.current key value }

def configParse (config : Config) (file : List Char) : Config :=
  (((pieces 1022 file).map item).foldl Reader.read ⟨defaultSection, config⟩).config

def configNew (file : List Char) : Config := configParse .newEmpty file

/-! ## What a configuration holds -/

namespace Config

theorem findEntry_setEntry (key value key' : List Char) (entries : List Entry) :
    (findEntry key' (setEntry key value entries)).map Entry.value =
      if key' = key then some value else (findEntry key' entries).map Entry.value := by
  induction entries with
  | nil =>
      unfold setEntry findEntry findEntry
      by_cases hkey : key' = key
      · rw [if_pos hkey.symm, if_pos hkey]
        rfl
      · rw [if_neg (Ne.symm hkey), if_neg hkey]
  | cons entry entries ih =>
      unfold setEntry
      by_cases hfirst : entry.key = key
      · rw [if_pos hfirst]
        unfold findEntry
        dsimp only
        by_cases hkey : key' = key
        · rw [if_pos (hfirst.trans hkey.symm), if_pos hkey]
          rfl
        · have hne : entry.key ≠ key' := fun h => hkey (h.symm.trans hfirst)
          rw [if_neg hne, if_neg hkey, if_neg hne]
      · rw [if_neg hfirst]
        unfold findEntry
        by_cases hentry : entry.key = key'
        · have hkey : key' ≠ key := fun h => hfirst (hentry.trans h)
          rw [if_pos hentry, if_neg hkey, if_pos hentry]
        · rw [if_neg hentry, ih, if_neg hentry]

/-- What is set is held, and everything else stays. -/
theorem getString_setString (config : Config) (name key value name' key' : List Char) :
    (config.setString name key value).getString name' key' =
      if name' = name ∧ key' = key then some value else config.getString name' key' := by
  obtain ⟨sections⟩ := config
  unfold getString entryFind setString
  dsimp only
  induction sections with
  | nil =>
      unfold setSection sectionFind sectionFind
      by_cases hname : name' = name
      · rw [if_pos hname.symm]
        exact (findEntry_setEntry key value key' []).trans (if_congr (by simp [hname]) rfl rfl)
      · rw [if_neg (Ne.symm hname), if_neg fun h => hname h.1]
  | cons sec sections ih =>
      unfold setSection
      by_cases hfirst : sec.name = name
      · rw [if_pos hfirst]
        unfold sectionFind
        dsimp only
        by_cases hname : name' = name
        · rw [if_pos (hfirst.trans hname.symm), if_pos (hfirst.trans hname.symm)]
          exact (findEntry_setEntry key value key' sec.entries).trans
            (if_congr (by simp [hname]) rfl rfl)
        · have hne : sec.name ≠ name' := fun h => hname (h.symm.trans hfirst)
          rw [if_neg hne, if_neg fun h => hname h.1, if_neg hne]
      · rw [if_neg hfirst]
        unfold sectionFind
        by_cases hsec : sec.name = name'
        · have hname : name' ≠ name := fun h => hfirst (hsec.trans h)
          rw [if_pos hsec, if_neg fun h => hname h.1, if_pos hsec]
        · rw [if_neg hsec, ih, if_neg hsec]

end Config

end Osi
