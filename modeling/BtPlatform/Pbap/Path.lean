import BtPlatform.Pbap.Folder
import Mathlib.Algebra.Group.Nat.Defs

/-!
# The client's path: position, next SETPATH and object names

The client keeps its position as a repository, a flag for `telecom` and a phonebook.
From a position and a destination `SetPath` decides which SETPATH to send next; its
confirmation moves the position. The names of objects are relative to the position.
A position that denotes a folder of the server goes from it along `Target.next`.
-/

namespace Pbap

open Support Repository Phonebook List

/-- `PBAP_PATH_STATE` without the callback. -/
structure PathState where
  currRepo : Repository
  currPb : Phonebook
  inTelecom : Bool
  destRepo : Repository
  destPb : Phonebook
  deriving DecidableEq, Repr

/-- The confirmation callback of a SETPATH. -/
inductive SetPathCfm
  | toRootDirCfm
  | toSim1DirCfm
  | toTelecomDirCfm
  | toPbDirCfm
  deriving DecidableEq, Repr

/-- A SETPATH: a folder name, with its terminator, or the flag to go up; with
neither, the root is meant. -/
structure SetPathRequest where
  folder : Option (List UInt16)
  upLevel : Bool
  cfm : SetPathCfm
  deriving DecidableEq, Repr

namespace PathState

/-- The branches of `SetPath`: the SETPATH to send, or nothing where it calls
`SetPathDone` at once. -/
def setPath (p : PathState) : Except Fault (Option SetPathRequest) :=
  if p.destRepo ≠ p.currRepo then
    if p.currRepo = localRepository ∧ p.inTelecom = false then
      if p.destRepo ≠ invalidRepository then
        .ok (some ⟨some (terminated usim1), false, .toSim1DirCfm⟩)
      else .ok none
    else .ok (some ⟨none, false, .toRootDirCfm⟩)
  else if p.inTelecom = false then
    .ok (some ⟨some (terminated utelecom), false, .toTelecomDirCfm⟩)
  else if p.destPb ≠ p.currPb then
    if p.currPb = invalidPhonebook then
      match upbdirs p.destPb with
      | some dir => .ok (some ⟨some (terminated dir), false, .toPbDirCfm⟩)
      | none => .error .outOfBounds
    else .ok (some ⟨none, true, .toTelecomDirCfm⟩)
  else .ok none

/-- The position after a successful SETPATH. -/
def confirm (cfm : SetPathCfm) (p : PathState) : PathState :=
  match cfm with
  | .toRootDirCfm =>
      { p with currRepo := localRepository, inTelecom := false, currPb := invalidPhonebook }
  | .toSim1DirCfm => { p with currRepo := sim1Repository, currPb := invalidPhonebook }
  | .toTelecomDirCfm => { p with inTelecom := true, currPb := invalidPhonebook }
  | .toPbDirCfm => { p with currPb := p.destPb }

/-! ## Names of objects -/

/-- `buf[len - 1] = '/'` unless nothing has been written: the terminator becomes a
separator. -/
def separate (buf : List UInt16) : List UInt16 :=
  if buf.length > 0 then buf.dropLast ++ [slash] else buf

@[simp] theorem separate_nil : separate [] = [] := rfl

@[simp] theorem separate_append_terminated (buf str : List UInt16) :
    separate (buf ++ terminated str) = buf ++ str ++ [slash] := by
  have hlen : (buf ++ str ++ [0]).length > 0 := by
    rw [length_append]
    exact Nat.succ_pos _
  rw [terminated, ← append_assoc, separate, dropLast_concat, if_pos hlen]

@[simp] theorem separate_terminated (str : List UInt16) :
    separate (terminated str) = str ++ [slash] := separate_append_terminated [] str

def buildRepoPathName (p : PathState) (repo : Repository) : List UInt16 :=
  let buf := if p.currRepo = localRepository ∧ repo = sim1Repository then terminated usim1 else []
  if p.inTelecom = false then separate buf ++ terminated utelecom else buf

def buildPbDirPathName (p : PathState) (repo : Repository) (pb : Phonebook) :
    Except Fault (List UInt16) :=
  if p.currPb = invalidPhonebook then
    match upbdirs pb with
    | some dir => .ok (separate (p.buildRepoPathName repo) ++ terminated dir)
    | none => .error .outOfBounds
  else .ok []

/-- `BuildPbVCardPathName`: the suffix is written over the terminator, so there has to
be one. -/
def buildPbVCardPathName (p : PathState) (repo : Repository) (pb : Phonebook) :
    Except Fault (List UInt16) := do
  let buf ← p.buildPbDirPathName repo pb
  if buf = [] then .error .outOfBounds
  else return buf.dropLast ++ terminated vcf

/-- The loop of `BuildVCardPathName`: hexadecimal digits of `entry` from the
position of `16 ^ n` down, `written` of them so far. -/
def entryDigits : Nat → Nat → Nat → List UInt16
  | 0, _, _ => []
  | n + 1, entry, written =>
      let digit := entry / 16 ^ n % 256
      let rest := entry - digit * 16 ^ n
      if digit ≥ 10 ∧ digit ≤ 16 then
        UInt16.ofNat (digit - 10 + 0x41) :: entryDigits n rest (written + 1)
      else if n = 0 ∨ digit > 0 ∨ written > 0 then
        UInt16.ofNat (digit + 0x30) :: entryDigits n rest (written + 1)
      else entryDigits n rest written

def buildVCardPathName (p : PathState) (repo : Repository) (pb : Phonebook) (entry : UInt32) :
    Except Fault (List UInt16) := do
  let buf ← p.buildPbDirPathName repo pb
  return separate buf ++ entryDigits 8 entry.toNat 0 ++ terminated vcf

/-! ## The position on the tree -/

/-- The position of a client in the folder. -/
def At (p : PathState) : Folder → Prop
  | .root => p.currRepo = localRepository ∧ p.inTelecom = false ∧ p.currPb = invalidPhonebook
  | .sim1 => p.currRepo = sim1Repository ∧ p.inTelecom = false ∧ p.currPb = invalidPhonebook
  | .telecom store =>
      p.currRepo = store.repository ∧ p.inTelecom = true ∧ p.currPb = invalidPhonebook
  | .phonebook store book =>
      p.currRepo = store.repository ∧ p.inTelecom = true ∧ p.currPb = book.1

instance (p : PathState) (folder : Folder) : Decidable (p.At folder) := by
  cases folder <;> exact inferInstanceAs (Decidable (_ ∧ _))

/-- The destination. -/
def target (p : PathState) : Target :=
  match p.destRepo with
  | invalidRepository => .root
  | localRepository => within .phone
  | sim1Repository => within .sim1
where
  /-- The destination below `telecom`. -/
  within (store : Store) : Target :=
    if h : p.destPb ≠ invalidPhonebook then .phonebook store ⟨p.destPb, h⟩ else .telecom store

/-- The confirmation of a SETPATH does not change the destination. -/
@[simp] theorem confirm_target (cfm : SetPathCfm) (p : PathState) :
    (p.confirm cfm).target = p.target := by
  cases cfm <;> rfl

/-- A position does not depend on the destination. -/
theorem At.dest {p : PathState} {folder : Folder} (h : p.At folder) (repo : Repository)
    (pb : Phonebook) : PathState.At { p with destRepo := repo, destPb := pb } folder := by
  cases folder <;> exact h

/-- The destination is the folder of a phonebook. -/
theorem target_phonebook (p : PathState) (store : Store) (book : Book) :
    PathState.target { p with destRepo := store.repository, destPb := book.1 } =
      .phonebook store book := by
  cases store <;> exact dif_pos book.2

end PathState

/-- The SETPATH that leads from a folder to one next to it. -/
inductive Leads : Folder → Folder → SetPathRequest → Prop
  | toRoot (here : Folder) : Leads here .root ⟨none, false, .toRootDirCfm⟩
  | toSim1 : Leads .root .sim1 ⟨some (terminated usim1), false, .toSim1DirCfm⟩
  | toPhone : Leads .root (.telecom .phone) ⟨some (terminated utelecom), false, .toTelecomDirCfm⟩
  | toCard : Leads .sim1 (.telecom .sim1) ⟨some (terminated utelecom), false, .toTelecomDirCfm⟩
  | toBook (store : Store) (book : Book) :
      Leads (.telecom store) (.phonebook store book)
        ⟨some (terminated book.dir), false, .toPbDirCfm⟩
  | up (store : Store) (book : Book) :
      Leads (.phonebook store book) (.telecom store) ⟨none, true, .toTelecomDirCfm⟩

namespace PathState

variable {p : PathState} {here : Folder}

/-- A position decides by the folder it denotes which way `SetPath` goes. -/
theorem target_cases (p : PathState) :
    (p.destRepo = invalidRepository ∧ p.target = .root) ∨
    (∃ store : Store, p.destRepo = store.repository ∧ p.destPb = invalidPhonebook ∧
      p.target = .telecom store) ∨
    ∃ (store : Store) (book : Book), p.destRepo = store.repository ∧ p.destPb = book.1 ∧
      p.target = .phonebook store book := by
  have hbelow (store : Store) (hrepo : p.destRepo = store.repository)
      (htarget : p.target = target.within p store) :
      (∃ store : Store, p.destRepo = store.repository ∧ p.destPb = invalidPhonebook ∧
        p.target = .telecom store) ∨
      ∃ (store : Store) (book : Book), p.destRepo = store.repository ∧ p.destPb = book.1 ∧
        p.target = .phonebook store book := by
    unfold target.within at htarget
    split at htarget
    · next hpb => exact .inr ⟨store, ⟨p.destPb, hpb⟩, hrepo, rfl, htarget⟩
    · next hpb => exact .inl ⟨store, hrepo, not_not.1 hpb, htarget⟩
  cases hrepo : p.destRepo with
  | invalidRepository => exact .inl ⟨rfl, by rw [target, hrepo]⟩
  | localRepository => exact .inr (hrepo ▸ hbelow .phone hrepo (by rw [target, hrepo]))
  | sim1Repository => exact .inr (hrepo ▸ hbelow .sim1 hrepo (by rw [target, hrepo]))

/-- Below the other repository, or below `telecom` with the root as destination, the
way is back to the root. -/
theorem setPath_back (hrepo : p.destRepo ≠ p.currRepo)
    (hhere : p.currRepo ≠ localRepository ∨ p.inTelecom = true) :
    p.setPath = .ok (some ⟨none, false, .toRootDirCfm⟩) := by
  unfold setPath
  rw [if_pos hrepo, if_neg]
  rintro ⟨hlocal, htelecom⟩
  obtain hne | htrue := hhere
  · exact hne hlocal
  · rw [htrue] at htelecom
    cases htelecom

/-- What `SetPath` does in a folder: nothing at the destination, otherwise it sends the
SETPATH to the next folder of the way, and its confirmation moves the position there. -/
def Proceeds (p : PathState) (here : Folder) : Prop :=
  (p.target.next here = none ∧ p.setPath = .ok none) ∨
    ∃ there request, p.target.next here = some there ∧ p.setPath = .ok (some request) ∧
      Leads here there request ∧ (p.confirm request.cfm).At there

theorem proceeds_back (hnext : p.target.next here = some .root) (hrepo : p.destRepo ≠ p.currRepo)
    (hhere : p.currRepo ≠ localRepository ∨ p.inTelecom = true) : p.Proceeds here :=
  .inr ⟨.root, _, hnext, setPath_back hrepo hhere, .toRoot here, rfl, rfl, rfl⟩

theorem proceeds_toRoot (hat : p.At here) (hrepo : p.destRepo = invalidRepository)
    (htarget : p.target = .root) : p.Proceeds here := by
  cases here with
  | root =>
      obtain ⟨hcurr, htelecom, -⟩ := hat
      refine .inl ⟨by rw [htarget]; rfl, ?_⟩
      simp [setPath, hrepo, hcurr, htelecom]
  | sim1 =>
      obtain ⟨hcurr, -, -⟩ := hat
      exact proceeds_back (by rw [htarget]; rfl) (by simp [hrepo, hcurr]) (.inl (by simp [hcurr]))
  | telecom store =>
      obtain ⟨hcurr, htelecom, -⟩ := hat
      exact proceeds_back (by rw [htarget]; rfl) (by cases store <;> simp [hrepo, hcurr,
        Store.repository]) (.inr htelecom)
  | phonebook store book =>
      obtain ⟨hcurr, htelecom, -⟩ := hat
      exact proceeds_back (by rw [htarget]; rfl) (by cases store <;> simp [hrepo, hcurr,
        Store.repository]) (.inr htelecom)

/-- The way to `telecom`, from every other folder but a phonebook next to it. -/
theorem proceeds_toTelecom {store : Store} (hat : p.At here) (hrepo : p.destRepo = store.repository)
    (hnext : p.target.next here = some (here.toTelecom store)) (hne : here ≠ .telecom store)
    (hout : ∀ book, here ≠ .phonebook store book) : p.Proceeds here := by
  cases here with
  | root =>
      obtain ⟨hcurr, htelecom, hpb⟩ := hat
      cases store with
      | phone =>
          refine .inr ⟨_, _, hnext, ?_, .toPhone, hcurr, rfl, rfl⟩
          simp [setPath, hrepo, hcurr, htelecom, Store.repository]
      | sim1 =>
          refine .inr ⟨_, _, hnext, ?_, .toSim1, rfl, htelecom, rfl⟩
          simp [setPath, hrepo, hcurr, htelecom, Store.repository]
  | sim1 =>
      obtain ⟨hcurr, htelecom, hpb⟩ := hat
      cases store with
      | phone =>
          exact proceeds_back hnext (by simp [hrepo, hcurr, Store.repository])
            (.inl (by simp [hcurr]))
      | sim1 =>
          refine .inr ⟨_, _, hnext, ?_, .toCard, hcurr, rfl, rfl⟩
          simp [setPath, hrepo, hcurr, htelecom, Store.repository]
  | telecom here =>
      obtain ⟨hcurr, htelecom, -⟩ := hat
      have hother : store ≠ here := fun heq => hne (heq ▸ rfl)
      refine proceeds_back hnext ?_ (.inr htelecom)
      rw [hrepo, hcurr]
      cases store <;> cases here <;> first | exact absurd rfl hother | simp [Store.repository]
  | phonebook here book =>
      obtain ⟨hcurr, htelecom, -⟩ := hat
      have hother : store ≠ here := fun heq => hout book (heq ▸ rfl)
      have hroot : Folder.toTelecom store (.phonebook here book) = .root := if_neg hother
      refine proceeds_back (hnext.trans (by rw [hroot])) ?_ (.inr htelecom)
      rw [hrepo, hcurr]
      cases store <;> cases here <;> first | exact absurd rfl hother | simp [Store.repository]

/-- Up from a phonebook to `telecom` above it. -/
theorem proceeds_up {store : Store} {book : Book} (hat : p.At (.phonebook store book))
    (hrepo : p.destRepo = store.repository) (hpb : p.destPb ≠ book.1)
    (hnext : p.target.next (.phonebook store book) = some (.telecom store)) :
    p.Proceeds (.phonebook store book) := by
  obtain ⟨hcurr, htelecom, hcurrPb⟩ := hat
  refine .inr ⟨_, _, hnext, ?_, .up store book, hcurr, rfl, rfl⟩
  unfold setPath
  rw [if_neg (by simp [hrepo, hcurr]), if_neg (by simp [htelecom]), if_pos (by rwa [hcurrPb]),
    if_neg (by rw [hcurrPb]; exact book.2)]

/-- In every folder `SetPath` goes on towards its destination. -/
theorem setPath_proceeds (hat : p.At here) : p.Proceeds here := by
  obtain ⟨hrepo, htarget⟩ | ⟨store, hrepo, hpb, htarget⟩ | ⟨store, book, hrepo, hpb, htarget⟩ :=
    target_cases p
  · exact proceeds_toRoot hat hrepo htarget
  · by_cases hne : here = .telecom store
    · subst hne
      obtain ⟨hcurr, htelecom, hcurrPb⟩ := hat
      refine .inl ⟨by rw [htarget]; exact if_pos rfl, ?_⟩
      simp [setPath, hrepo, hcurr, htelecom, hcurrPb, hpb]
    · have hnext : p.target.next here = some (here.toTelecom store) := by
        rw [htarget, Target.next_telecom hne]
      by_cases hout : ∃ book, here = .phonebook store book
      · obtain ⟨book, rfl⟩ := hout
        refine proceeds_up hat hrepo (by rw [hpb]; exact book.2.symm) (hnext.trans ?_)
        exact congrArg some (if_pos rfl)
      · exact proceeds_toTelecom hat hrepo hnext hne fun book heq => hout ⟨book, heq⟩
  · by_cases hthere : here = .phonebook store book
    · subst hthere
      obtain ⟨hcurr, htelecom, hcurrPb⟩ := hat
      refine .inl ⟨by rw [htarget]; exact if_pos rfl, ?_⟩
      simp [setPath, hrepo, hcurr, htelecom, hcurrPb, hpb]
    · by_cases hne : here = .telecom store
      · subst hne
        obtain ⟨hcurr, htelecom, hcurrPb⟩ := hat
        refine .inr ⟨.phonebook store book, _, ?_, ?_, .toBook store book, hcurr, htelecom, hpb⟩
        · rw [htarget, Target.next_inTelecom]
        · unfold setPath
          rw [if_neg (by simp [hrepo, hcurr]), if_neg (by simp [htelecom]),
            if_pos (by rw [hpb, hcurrPb]; exact book.2), if_pos hcurrPb, hpb, book.upbdirs_eq]
      · have hnext : p.target.next here = some (here.toTelecom store) := by
          rw [htarget, Target.next_phonebook hthere hne]
        by_cases hout : ∃ other, here = .phonebook store other
        · obtain ⟨other, rfl⟩ := hout
          have hpbs : p.destPb ≠ other.1 := by
            rw [hpb]
            exact fun heq => hthere (congrArg _ (Subtype.ext heq.symm))
          exact proceeds_up hat hrepo hpbs (hnext.trans (congrArg some (if_pos rfl)))
        · exact proceeds_toTelecom hat hrepo hnext hne fun other heq => hout ⟨other, heq⟩

end PathState

end Pbap
