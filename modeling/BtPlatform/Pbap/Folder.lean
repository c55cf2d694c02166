import BtPlatform.Support.Status
import Mathlib.Data.List.Basic

/-!
# The folders of a phonebook server

A server holds two repositories with the same folders: `telecom` directly below the
root, and `SIM1/telecom`; in each of the two `telecom` folders there is one folder
for each phonebook. `Folder` is this tree, and `Object` what a client can ask for
in it. The names of the folders are Unicode strings.
-/

namespace Pbap

/-- `OI_PBAP_REPOSITORY`. -/
inductive Repository
  | localRepository
  | sim1Repository
  | invalidRepository
  deriving DecidableEq, Repr

/-- `OI_PBAP_PHONEBOOK`. -/
inductive Phonebook
  | mainPhonebook
  | incomingCallsHistory
  | outgoingCallsHistory
  | missedCallsHistory
  | combinedCallsHistory
  | invalidPhonebook
  deriving DecidableEq, Repr

open Repository Phonebook List

/-! ## Names -/

/-- `'/'`. -/
def slash : UInt16 := 0x2F

/-- `OI_PBAP_usim1`: "SIM1". -/
def usim1 : List UInt16 := [0x53, 0x49, 0x4D, 0x31]

/-- `OI_PBAP_utelecom`: "telecom". -/
def utelecom : List UInt16 := [0x74, 0x65, 0x6C, 0x65, 0x63, 0x6F, 0x6D]

/-- `OI_PBAP_vcf`: ".vcf". -/
def vcf : List UInt16 := [0x2E, 0x76, 0x63, 0x66]

/-- `OI_PBAP_upbdirs`: "pb", "ich", "och", "mch" and "cch". The invalid phonebook is
the first index past the array. -/
def upbdirs : Phonebook → Option (List UInt16)
  | mainPhonebook => some [0x70, 0x62]
  | incomingCallsHistory => some [0x69, 0x63, 0x68]
  | outgoingCallsHistory => some [0x6F, 0x63, 0x68]
  | missedCallsHistory => some [0x6D, 0x63, 0x68]
  | combinedCallsHistory => some [0x63, 0x63, 0x68]
  | invalidPhonebook => none

/-- A string with its terminator, as the arrays of the source hold it. -/
def terminated (str : List UInt16) : List UInt16 := str ++ [0]

@[simp] theorem append_terminated_ne_nil {buf str : List UInt16} : buf ++ terminated str ≠ [] := by
  simp [terminated]

@[simp] theorem dropLast_append_terminated (buf str : List UInt16) :
    (buf ++ terminated str).dropLast = buf ++ str := by
  rw [terminated, ← append_assoc, dropLast_concat]

/-- A C string: the characters in front of the terminator. -/
def cString (chars : List UInt16) : List UInt16 := chars.takeWhile (· ≠ 0)

/-- A string without a terminator inside is read back as it was written. -/
theorem cString_terminated {str : List UInt16} (h : 0 ∉ str) : cString (terminated str) = str := by
  unfold cString terminated
  rw [takeWhile_append_of_pos]
  · simp
  · intro c hc
    exact decide_eq_true fun hzero => h (hzero ▸ hc)

/-! ## Folders -/

/-- A repository that exists. -/
inductive Store
  | phone
  | sim1
  deriving DecidableEq, Repr

/-- The enumeration value of a repository. -/
def Store.repository : Store → Repository
  | .phone => localRepository
  | .sim1 => sim1Repository

theorem Store.of_repository {repository : Repository} (h : repository ≠ invalidRepository) :
    ∃ store : Store, repository = store.repository := by
  cases repository with
  | localRepository => exact ⟨.phone, rfl⟩
  | sim1Repository => exact ⟨.sim1, rfl⟩
  | invalidRepository => exact absurd rfl h

/-- A phonebook that exists. -/
abbrev Book : Type := { pb : Phonebook // pb ≠ invalidPhonebook }

/-- The name of a phonebook's folder. -/
def Book.dir (book : Book) : List UInt16 := (upbdirs book.1).getD []

theorem Book.upbdirs_eq (book : Book) : upbdirs book.1 = some book.dir := by
  obtain ⟨pb, h⟩ := book
  cases pb with
  | invalidPhonebook => exact absurd rfl h
  | _ => rfl

/-- A folder of the server. -/
inductive Folder
  | root
  | sim1
  | telecom (store : Store)
  | phonebook (store : Store) (book : Book)
  deriving DecidableEq, Repr

/-- How many folders are above it. -/
def Folder.level : Folder → Nat
  | .root => 0
  | .sim1 => 1
  | .telecom .phone => 1
  | .telecom .sim1 => 2
  | .phonebook .phone _ => 2
  | .phonebook .sim1 _ => 3

/-! ## The way to a folder -/

/-- A folder that a client wants to be in. -/
inductive Target
  | root
  | telecom (store : Store)
  | phonebook (store : Store) (book : Book)
  deriving DecidableEq, Repr

/-- The folder meant. -/
def Target.folder : Target → Folder
  | .root => .root
  | .telecom store => .telecom store
  | .phonebook store book => .phonebook store book

/-- The next folder on the way to one below `telecom` of a repository: down to
`telecom` if the way is open, otherwise back to the root. -/
def Folder.toTelecom (store : Store) : Folder → Folder
  | .root => if store = .phone then .telecom .phone else .sim1
  | .sim1 => if store = .sim1 then .telecom .sim1 else .root
  | .telecom _ => .root
  | .phonebook here _ => if store = here then .telecom here else .root

/-- The next folder on the way, or nothing on arrival. -/
def Target.next (here : Folder) : Target → Option Folder
  | .root => if here = .root then none else some .root
  | .telecom store => if here = .telecom store then none else some (here.toTelecom store)
  | .phonebook store book =>
      if here = .phonebook store book then none
      else if here = .telecom store then some (.phonebook store book)
      else some (here.toTelecom store)

/-- How many folders away `telecom` of a repository is. -/
def Folder.telecomDistance (store : Store) : Folder → Nat
  | .root => if store = .phone then 1 else 2
  | .sim1 => if store = .sim1 then 1 else 2
  | .telecom here => if store = here then 0 else if store = .phone then 2 else 3
  | .phonebook here _ => if store = here then 1 else if store = .phone then 2 else 3

/-- How many folders away the target is. -/
def Target.distance (here : Folder) : Target → Nat
  | .root => if here = .root then 0 else 1
  | .telecom store => here.telecomDistance store
  | .phonebook store book =>
      if here = .phonebook store book then 0 else here.telecomDistance store + 1

variable {here : Folder} {target : Target} {store : Store}

theorem Target.next_eq_none : target.next here = none ↔ here = target.folder := by
  cases target with
  | root => simp [next, folder]
  | telecom store => simp [next, folder]
  | phonebook store book =>
      simp only [next, folder]
      split
      · next h => simp [h]
      · next h => split <;> simp [h]

theorem Target.next_telecom (h : here ≠ .telecom store) :
    (Target.telecom store).next here = some (here.toTelecom store) := by
  simp [next, h]

theorem Target.next_inTelecom (store : Store) (book : Book) :
    (Target.phonebook store book).next (.telecom store) = some (.phonebook store book) := by
  simp [next]

theorem Target.next_phonebook {book : Book} (hthere : here ≠ .phonebook store book)
    (h : here ≠ .telecom store) :
    (Target.phonebook store book).next here = some (here.toTelecom store) := by
  simp [next, hthere, h]

/-- A phonebook is the next folder only if it is the destination. -/
theorem Target.next_eq_phonebook {book : Book}
    (h : target.next here = some (.phonebook store book)) :
    Folder.phonebook store book = target.folder := by
  have htelecom (store' : Store) : here.toTelecom store' ≠ .phonebook store book := by
    cases here <;> simp only [Folder.toTelecom] <;> (try split) <;> nofun
  cases target with
  | root =>
      simp only [next] at h
      split at h <;> cases h
  | telecom store' =>
      simp only [next] at h
      split at h
      · cases h
      · exact absurd (Option.some.inj h) (htelecom store')
  | phonebook store' book' =>
      simp only [next] at h
      split at h
      · cases h
      · split at h
        · next htelecom =>
            subst htelecom
            cases h
            rfl
        · exact absurd (Option.some.inj h) (htelecom store')

/-- Each hop comes one folder closer. -/
theorem Target.distance_next {there : Folder} (h : target.next here = some there) :
    target.distance there + 1 = target.distance here := by
  cases target with
  | root =>
      simp only [next] at h
      split at h
      · cases h
      · next hne =>
          cases h
          simp [distance, hne]
  | telecom store =>
      simp only [next] at h
      split at h
      · cases h
      · next hne =>
          cases h
          cases here with
          | root => cases store <;> rfl
          | sim1 => cases store <;> rfl
          | telecom here =>
              have hstore : store ≠ here := fun heq => hne (heq ▸ rfl)
              cases store <;> cases here <;> first | rfl | exact absurd rfl hstore
          | phonebook here book => cases store <;> cases here <;> rfl
  | phonebook store book =>
      simp only [next] at h
      split at h
      · cases h
      · next hne =>
          split at h
          · next htelecom =>
              cases h
              subst htelecom
              simp [distance, Folder.telecomDistance]
          · next htelecom =>
              cases h
              cases here with
              | root => cases store <;> rfl
              | sim1 => cases store <;> rfl
              | telecom here =>
                  have hstore : store ≠ here := fun heq => htelecom (heq ▸ rfl)
                  cases store <;> cases here <;> first | rfl | exact absurd rfl hstore
              | phonebook here other =>
                  simp only [distance, if_neg hne]
                  cases store <;> cases here <;> rfl

/-- No target is further away than four folders. -/
theorem Target.distance_le (here : Folder) (target : Target) : target.distance here ≤ 4 := by
  have htelecom (store : Store) : here.telecomDistance store ≤ 3 := by
    cases here <;> cases store <;> simp only [Folder.telecomDistance] <;> (repeat' split) <;> omega
  cases target with
  | root => simp only [distance]; split <;> omega
  | telecom store => exact Nat.le_succ_of_le (htelecom store)
  | phonebook store book =>
      have hstore := htelecom store
      simp only [distance]
      split <;> omega

/-- The object of a GET: a phonebook, its listing, or one entry of it. -/
structure Object where
  repository : Repository
  phonebook : Phonebook
  entry : Option UInt32
  deriving DecidableEq, Repr

/-- The type header of a GET. -/
inductive ObjectType
  | phonebook
  | vCard
  | vCardListing
  deriving DecidableEq, Repr

end Pbap
