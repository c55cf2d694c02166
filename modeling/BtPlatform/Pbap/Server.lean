import BtPlatform.Pbap.Path
import BtPlatform.Support.Memory

/-!
# The server: current folder and names of objects

The server keeps its position as a level, a repository and a phonebook, each of the
two with a flag that says whether it is set. A SETPATH moves the position, also
through several folders at once; a GET names its object relative to the position.
-/

namespace Pbap

open Support Repository Phonebook

/-- The position of a `PBAP_SERVER`. -/
structure Server where
  repository : Repository
  phonebook : Phonebook
  repositorySet : Bool
  phonebookSet : Bool
  folderLevel : UInt8
  deriving DecidableEq, Repr

/-! ## Path names -/

/-- The loop of `TokenizePath`: `elements` are complete, `path` is the one being read. -/
def tokenizeLoop (maxCnt capacity : Nat) (elements : List (List UInt16)) (path : List UInt16) :
    List UInt16 → Except Fault (Status × List (List UInt16))
  | [] => .ok (.ok, elements ++ [path])
  | c :: rest =>
      if c = slash then
        if elements.length + 1 = maxCnt then .ok (.obexNotFound, elements ++ [path])
        else if elements.length + 1 ≥ capacity then .error .outOfBounds
        else tokenizeLoop maxCnt capacity (elements ++ [path]) [] rest
      else tokenizeLoop maxCnt capacity elements (path ++ [c]) rest

/-- `TokenizePath`, with room for `capacity` elements in the caller's array. Without
memory, and on an absolute path, it leaves the array as it was. -/
def tokenizePath (room : Bool) (maxCnt capacity : Nat) (ustr : List UInt16) :
    Except Fault (Status × List (List UInt16)) :=
  if ustr = [] ∨ ustr = [0] then .ok (.ok, [])
  else if room = false then .ok (.outOfMemory, [])
  else if ustr.head? = some slash then .ok (.obexNotFound, [])
  else tokenizeLoop maxCnt capacity [] [] (cString ustr)

/-- `LookupPhonebook`: the first folder name that `pbStr` starts with. -/
def lookupPhonebook (pbStr : List UInt16) : Option Phonebook :=
  [mainPhonebook, incomingCallsHistory, outgoingCallsHistory, missedCallsHistory,
    combinedCallsHistory].find? fun pb => (upbdirs pb).any fun dir => pbStr.take dir.length = dir

namespace Server

/-! ## SETPATH -/

/-- One element of a path in `ServerSetPathInd`. -/
def enter (s : Server) (element : List UInt16) : Status × Server :=
  match s.folderLevel with
  | 0 =>
      if element = usim1 then
        (.ok, { s with repository := sim1Repository, folderLevel := s.folderLevel + 1 })
      else if element = utelecom then
        (.ok, { s with repository := localRepository, repositorySet := true,
                       folderLevel := s.folderLevel + 1 })
      else (.obexNotFound, s)
  | 1 =>
      if s.repository = sim1Repository ∧ element = utelecom then
        (.ok, { s with repositorySet := true, folderLevel := s.folderLevel + 1 })
      else enterPhonebook s element
  | 2 =>
      if s.repository = localRepository then (.obexNotFound, s)
      else enterPhonebook s element
  | _ => (.obexNotFound, s)
where
  /-- The folder of a phonebook. -/
  enterPhonebook (s : Server) (element : List UInt16) : Status × Server :=
    match lookupPhonebook element with
    | some pb =>
        (.ok, { s with phonebook := pb, phonebookSet := true, folderLevel := s.folderLevel + 1 })
    | none => (.obexNotFound, s)

/-- The elements of a path, up to the first that is not found. -/
def enterAll (s : Server) : List (List UInt16) → Status × Server
  | [] => (.ok, s)
  | element :: rest =>
      let (status, s') := s.enter element
      if status.success then s'.enterAll rest else (status, s')

/-- The parent folder. -/
def leave (s : Server) : Status × Server :=
  if s.folderLevel = 0 then (.obexNotFound, s)
  else
    let s := { s with folderLevel := s.folderLevel - 1 }
    if s.phonebookSet then (.ok, { s with phonebookSet := false })
    else if s.folderLevel = 0 then
      (.ok, { s with repositorySet := false, repository := localRepository })
    else if s.repository = sim1Repository ∧ s.folderLevel = 1 then
      (.ok, { s with repositorySet := false })
    else (.ok, s)

/-- `ServerSetPathInd`, up to the confirmation it sends. An error of `TokenizePath`
that stores no element makes it free an uninitialised pointer. -/
def serverSetPathInd (s : Server) (room : Bool) (folder : Option (List UInt16))
    (upLevel create : Bool) : Except Fault (Status × Server) :=
  if create then .ok (.obexAccessDenied, s)
  else
    match folder with
    | none => .ok (descend s)
    | some [] => .error .outOfBounds
    | some (c :: rest) =>
        if c = 0 then .ok (descend s)
        else if s.phonebookSet then .ok (.obexNotFound, s)
        else do
          let (status, elements) ← tokenizePath room 3 3 (c :: rest)
          if status.success then
            if s.folderLevel.toNat + elements.length > 3 then return (.obexNotFound, s)
            else return s.enterAll elements
          else if elements = [] then .error .useAfterFree
          else return (status, s)
where
  /-- A null or empty name. -/
  descend (s : Server) : Status × Server :=
    if upLevel then s.leave
    else
      (.ok, { s with repositorySet := false, phonebookSet := false,
                     repository := localRepository, folderLevel := 0 })

/-! ## Names of objects -/

def getRepository (s : Server) (elements : List (List UInt16)) : Option Repository :=
  if s.repositorySet then some s.repository
  else
    match elements with
    | first :: second :: _ =>
        if first = usim1 ∧ second = utelecom then some sim1Repository
        else if first = utelecom then some s.repository
        else none
    | _ => none

/-- The value of a hexadecimal digit in the arithmetic of `ParseEntryName`. -/
def hexDigit (c : UInt16) : Option UInt32 :=
  let digit := c.toUInt32 - 0x30
  if digit > 9 then
    let digit := 10 + c.toUInt32 - 0x41
    if digit > 15 ∨ digit < 10 then
      let digit := 10 + c.toUInt32 - 0x61
      if digit > 15 ∨ digit < 10 then none else some digit
    else some digit
  else some digit

/-- The digits of an entry. -/
def parseEntry (e : UInt32) : List UInt16 → Option UInt32
  | [] => some e
  | c :: rest => do
      let digit ← hexDigit c
      parseEntry (e * 16 + digit) rest

/-- `ParseEntryName`. A name shorter than the suffix is compared from in front of its
buffer. -/
def parseEntryName (s : Server) (elements : List (List UInt16)) :
    Except Fault (Status × Object) := do
  let fail : Status × Object := (.obexNotFound, ⟨invalidRepository, invalidPhonebook, none⟩)
  match s.getRepository elements with
  | none => return fail
  | some repo =>
      if elements.length = 4 ∧ repo = localRepository then return fail
      else
        match parsedPhonebook s elements, elements.getLast? with
        | some pb, some fn =>
            if fn.length < vcf.length then .error .outOfBounds
            else if fn.drop (fn.length - vcf.length) ≠ vcf then return fail
            else if fn.length > 15 then return fail
            else
              match parseEntry 0 (fn.take (fn.length - vcf.length)) with
              | some entry => return (.ok, ⟨repo, pb, some entry⟩)
              | none => return fail
        | _, _ => return fail
where
  /-- The phonebook that the entry is in. -/
  parsedPhonebook (s : Server) (elements : List (List UInt16)) : Option Phonebook :=
    if s.phonebookSet ∧ elements.length = 1 then some s.phonebook
    else if s.phonebookSet = false ∧ elements.length ≥ 2 then
      elements[elements.length - 2]?.bind lookupPhonebook
    else none

/-- A phonebook below the current folder whose name is `suffix` characters longer than
the name of its folder. -/
def namedPhonebook (s : Server) (elements : List (List UInt16)) (suffix : Nat) :
    Except Fault (Status × Object) :=
  let fail : Status × Object := (.obexNotFound, ⟨invalidRepository, invalidPhonebook, none⟩)
  match s.getRepository elements with
  | none => .ok fail
  | some repo =>
      if elements.length = 3 ∧ repo = localRepository then .ok fail
      else
        match elements.getLast? with
        | none => .error .outOfBounds
        | some last =>
            match lookupPhonebook last with
            | none => .ok fail
            | some pb =>
                if (upbdirs pb).any fun dir => last.length = dir.length + suffix then
                  .ok (.ok, ⟨repo, pb, none⟩)
                else .ok fail

def parsePhonebookvCard (s : Server) (elements : List (List UInt16)) :
    Except Fault (Status × Object) :=
  if s.phonebookSet ∧ elements.length < 2 then
    .ok (.obexNotFound, ⟨invalidRepository, invalidPhonebook, none⟩)
  else s.namedPhonebook elements vcf.length

def parsePhonebookDir (s : Server) (elements : List (List UInt16)) :
    Except Fault (Status × Object) :=
  if s.phonebookSet then
    if elements.length > 0 then
      .ok (.obexNotFound, ⟨invalidRepository, invalidPhonebook, none⟩)
    else .ok (.ok, ⟨s.repository, s.phonebook, none⟩)
  else s.namedPhonebook elements 0

/-- The object of a GET: `ParseObexHeader` takes the name apart without a limit for
the number of elements; `GetPhonebookSize`, for an empty list, or `OpenDataHandle` looks
it up. -/
def getObject (s : Server) (room : Bool) (type : ObjectType) (maxListCount : Option UInt16)
    (name : List UInt16) : Except Fault (Status × Object) := do
  let (status, elements) ← tokenizePath room 0 4 name
  if status.success then
    match type with
    | .vCardListing => s.parsePhonebookDir elements
    | .vCard =>
        if maxListCount = some 0 then s.parsePhonebookvCard elements
        else s.parseEntryName elements
    | .phonebook => s.parsePhonebookvCard elements
  else return (status, ⟨invalidRepository, invalidPhonebook, none⟩)

/-! ## The position on the tree -/

/-- The position of the server in the folder; a phonebook that is not set is left over
from earlier. -/
def At (s : Server) : Folder → Prop
  | .root =>
      s.repository = localRepository ∧ s.repositorySet = false ∧ s.phonebookSet = false ∧
        s.folderLevel = 0
  | .sim1 =>
      s.repository = sim1Repository ∧ s.repositorySet = false ∧ s.phonebookSet = false ∧
        s.folderLevel = 1
  | .telecom store =>
      s.repository = store.repository ∧ s.repositorySet = true ∧ s.phonebookSet = false ∧
        s.folderLevel = UInt8.ofNat (Folder.telecom store).level
  | .phonebook store book =>
      s.repository = store.repository ∧ s.repositorySet = true ∧ s.phonebookSet = true ∧
        s.folderLevel = UInt8.ofNat (Folder.phonebook store book).level ∧ s.phonebook = book.1

instance (s : Server) : (folder : Folder) → Decidable (s.At folder)
  | .root | .sim1 | .telecom _ | .phonebook .. => inferInstanceAs (Decidable (_ ∧ _))

variable {s : Server} {here there : Folder} {request : SetPathRequest}

/-- With memory, a SETPATH to a folder next to the current one leads there. -/
theorem serverSetPathInd_leads (hat : s.At here) (hleads : Leads here there request) :
    ∃ s', s.serverSetPathInd true request.folder request.upLevel false = .ok (.ok, s') ∧
      s'.At there := by
  obtain ⟨repository, phonebook, repositorySet, phonebookSet, folderLevel⟩ := s
  cases hleads with
  | toRoot => exact ⟨_, rfl, rfl, rfl, rfl, rfl⟩
  | toSim1 =>
      obtain ⟨rfl, rfl, rfl, rfl⟩ := hat
      exact ⟨_, rfl, rfl, rfl, rfl, rfl⟩
  | toPhone =>
      obtain ⟨rfl, rfl, rfl, rfl⟩ := hat
      exact ⟨_, rfl, rfl, rfl, rfl, rfl⟩
  | toCard =>
      obtain ⟨rfl, rfl, rfl, rfl⟩ := hat
      exact ⟨_, rfl, rfl, rfl, rfl, rfl⟩
  | toBook store book =>
      obtain ⟨rfl, rfl, rfl, rfl⟩ := hat
      obtain ⟨pb, hpb⟩ := book
      cases pb with
      | invalidPhonebook => exact absurd rfl hpb
      | _ => cases store <;> exact ⟨_, rfl, rfl, rfl, rfl, rfl, rfl⟩
  | up store book =>
      obtain ⟨rfl, rfl, rfl, rfl, rfl⟩ := hat
      cases store with
      | phone => exact ⟨_, rfl, rfl, rfl, rfl, (by decide : (2 : UInt8) - 1 = 1)⟩
      | sim1 => exact ⟨_, rfl, rfl, rfl, rfl, (by decide : (3 : UInt8) - 1 = 2)⟩

/-- Without memory the server answers as with memory, or not at all. -/
theorem serverSetPathInd_room {room : Bool} {folder : Option (List UInt16)}
    {upLevel create : Bool} {result : Status × Server}
    (h : s.serverSetPathInd room folder upLevel create = .ok result) :
    s.serverSetPathInd true folder upLevel create = .ok result := by
  cases room with
  | true => exact h
  | false =>
      rw [← h]
      unfold serverSetPathInd at h ⊢
      split
      · rfl
      · next hcreate =>
          rw [if_neg hcreate] at h
          cases folder with
          | none => rfl
          | some name =>
              cases name with
              | nil => rfl
              | cons c rest =>
                  dsimp only at h ⊢
                  split
                  · rfl
                  · next hc =>
                      rw [if_neg hc] at h
                      split
                      · rfl
                      · next hset =>
                          -- here the path would have to be taken apart without memory
                          rw [if_neg hset] at h
                          simp [tokenizePath, hc] at h

/-- A SETPATH to a folder next to the current one leads there, if it is answered. -/
theorem serverSetPathInd_at {room : Bool} {status : Status} {s' : Server} (hat : s.At here)
    (hleads : Leads here there request)
    (h : s.serverSetPathInd room request.folder request.upLevel false = .ok (status, s')) :
    status = .ok ∧ s'.At there := by
  obtain ⟨t, ht, hthere⟩ := serverSetPathInd_leads hat hleads
  obtain ⟨rfl, rfl⟩ := Prod.mk.inj (Except.ok.inj ((serverSetPathInd_room h).symm.trans ht))
  exact ⟨rfl, hthere⟩

end Server

end Pbap
