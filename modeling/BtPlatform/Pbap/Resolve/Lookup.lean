import BtPlatform.Pbap.Resolve.SetPath

/-!
# What a GET names

Relative to the current folder, a name denotes the folder of a phonebook, its file in
`telecom`, or one of its entries. `GetRepository` looks at the first elements of the name
only, and the elements behind them are not compared with anything.
-/

namespace Pbap

open Support Repository Phonebook List

/-! ## Files -/

/-- The phonebook whose file has the name. -/
def Book.fileNamed (name : List UInt16) : Option Book :=
  Book.all.find? fun book => book.dir ++ vcf = name

variable {name : List UInt16}

theorem Book.fileNamed_eq_some {book : Book} :
    Book.fileNamed name = some book ↔ book.dir ++ vcf = name := by
  have hfile : ∀ other, Book.fileNamed name = some other → other.dir ++ vcf = name := by
    intro other h
    have hfound := find?_some h
    exact of_decide_eq_true hfound
  constructor
  · exact hfile book
  · rintro rfl
    cases hfind : Book.fileNamed (book.dir ++ vcf) with
    | none => simpa using find?_eq_none.1 hfind book book.mem_all
    | some other => rw [dir_injective (append_cancel_right (hfile other hfind))]

/-- The value of a hexadecimal digit. -/
def hexDigitValue (c : UInt16) : Option Nat :=
  if 0x30 ≤ c.toNat ∧ c.toNat ≤ 0x39 then some (c.toNat - 0x30)
  else if 0x41 ≤ c.toNat ∧ c.toNat ≤ 0x46 then some (c.toNat - 0x41 + 10)
  else if 0x61 ≤ c.toNat ∧ c.toNat ≤ 0x66 then some (c.toNat - 0x61 + 10)
  else none

/-- The value of hexadecimal digits behind a number. -/
def hexNumber (n : Nat) : List UInt16 → Option Nat
  | [] => some n
  | c :: rest => (hexDigitValue c).bind fun digit => hexNumber (n * 16 + digit) rest

/-- The characters in front of the suffix of a file. -/
def stem (name : List UInt16) : List UInt16 := name.take (name.length - vcf.length)

/-- The number of an entry, from the name of its file. -/
def entryNumber (name : List UInt16) : Option Nat :=
  if name = stem name ++ vcf ∧ stem name ≠ [] then
    (hexNumber 0 (stem name)).filter fun n => n ≤ 0xffffffff
  else none

/-- Which object a GET is about: a folder, a file or an entry of a phonebook. -/
inductive Lookup where
  | directory
  | file
  | entry
  deriving DecidableEq, Repr

/-- The object that a name denotes in a folder. -/
def Lookup.denotes (here : Option Folder) (names : List (List UInt16)) : Lookup → Option Object
  | .directory =>
      match here.bind fun here => here.descend names with
      | some (.phonebook store book) => some ⟨store.repository, book.1, none⟩
      | _ => none
  | .file =>
      match here.bind fun here => here.descend names.dropLast,
          names.getLast?.bind Book.fileNamed with
      | some (.telecom store), some book => some ⟨store.repository, book.1, none⟩
      | _, _ => none
  | .entry =>
      match here.bind fun here => here.descend names.dropLast, names.getLast?.bind entryNumber with
      | some (.phonebook store book), some n =>
          some ⟨store.repository, book.1, some (UInt32.ofNat n)⟩
      | _, _ => none

/-- The elements of a NAME header; none in an empty name. -/
def nameElements (name : List UInt16) : List (List UInt16) :=
  if name = [] ∨ name = [0] then [] else pathElements name

namespace Server

/-- The three functions that look up an object. -/
def parse (s : Server) (elements : List (List UInt16)) :
    Lookup → Except Fault (Status × Object)
  | .directory => s.parsePhonebookDir elements
  | .file => s.parsePhonebookvCard elements
  | .entry => s.parseEntryName elements

/-- A GET up to the object: the name is taken apart, then it is looked up. -/
def lookUp (s : Server) (kind : Lookup) (room : Bool) (name : List UInt16) :
    Except Fault (Status × Object) := do
  let (status, elements) ← tokenizePath room 0 4 name
  if status.success then s.parse elements kind
  else return (status, ⟨invalidRepository, invalidPhonebook, none⟩)

/-- The object that is denoted is found, or nothing. -/
def Found (result : Status × Object) : Option Object → Prop
  | some object => result = (.ok, object)
  | none => result.1 ≠ .ok

/-- There is memory for a copy of the name, or no need for it. -/
def Copies (room : Bool) (name : List UInt16) : Prop := room = true ∨ name = [] ∨ name = [0]

/-- Nothing is read outside of an array and, unless memory is missing, the object that the
name denotes is found. -/
def LooksUp (s : Server) (kind : Lookup) (room : Bool) (name : List UInt16) : Prop :=
  ∃ result, s.lookUp kind room name = .ok result ∧
    (Copies room name → Found result (kind.denotes s.current (nameElements name)))

/-! ## The names that are looked up as they should be -/

/-- The repository for some elements, where the phone's repository is not as deep as
`limit`. -/
def admits (s : Server) (limit : Nat) (elements : List (List UInt16)) : Option Repository :=
  (s.getRepository elements).filter fun repo =>
    ¬ (elements.length = limit ∧ repo = localRepository)

/-- The elements lead from the current folder to `telecom`. -/
def InTelecom (s : Server) (elements : List (List UInt16)) : Prop :=
  ∃ store, (s.current.bind fun here => here.descend elements) = some (.telecom store)

/-- The elements lead to the folder of a phonebook. -/
def InBook (s : Server) (elements : List (List UInt16)) : Prop :=
  ∃ store book, (s.current.bind fun here => here.descend elements) =
    some (.phonebook store book)

/-- The folder of a phonebook: a name is not missing in `telecom`, and the name of a
phonebook stands in `telecom`. -/
def CarefulDirectory (s : Server) (elements : List (List UInt16)) : Prop :=
  if s.phonebookSet then elements = [] → s.current ≠ none
  else
    (s.repositorySet = true → elements ≠ []) ∧
      ∀ book : Book, elements.getLast? = some book.dir → s.admits 3 elements ≠ none →
        s.InTelecom elements.dropLast

/-- The file of a phonebook: the four characters behind the name of a phonebook are the
suffix. -/
def CarefulFile (s : Server) (elements : List (List UInt16)) : Prop :=
  s.phonebookSet = true ∧ elements.length < 2 ∨
    (s.repositorySet = true → elements ≠ []) ∧
      ∀ (book : Book) (suffix : List UInt16), elements.getLast? = some (book.dir ++ suffix) →
        suffix.length = vcf.length → s.admits 3 elements ≠ none →
          s.InTelecom elements.dropLast ∧ suffix = vcf

/-- The file of an entry, in the folder of a phonebook: its name is as long as the suffix,
what `ParseEntryName` reads as a number is one that fits, and a number that fits has not too
many digits. -/
def CarefulEntry (s : Server) (elements : List (List UInt16)) : Prop :=
  ∀ name pb, elements.getLast? = some name → s.admits 4 elements ≠ none →
    parseEntryName.parsedPhonebook s elements = some pb →
      vcf.length ≤ name.length ∧
        (name = stem name ++ vcf → name.length ≤ 15 → hexNumber 0 (stem name) ≠ none →
          s.InBook elements.dropLast ∧ entryNumber name ≠ none) ∧
        (s.InBook elements.dropLast → entryNumber name ≠ none → name.length ≤ 15)

def CarefulElements (s : Server) (elements : List (List UInt16)) : Lookup → Prop
  | .directory => s.CarefulDirectory elements
  | .file => s.CarefulFile elements
  | .entry => s.CarefulEntry elements

/-- The names that are looked up as they should be, if there is memory: absolute ones,
which are refused, or with at most four elements. -/
def CarefulName (s : Server) (kind : Lookup) (room : Bool) (name : List UInt16) : Prop :=
  Copies room name → name.head? ≠ some slash →
    (nameElements name).length ≤ 4 ∧ s.CarefulElements (nameElements name) kind

/-! ## Hexadecimal digits -/

/-- The arithmetic on characters finds the hexadecimal digits. -/
theorem hexDigit_eq (c : UInt16) : hexDigit c = (hexDigitValue c).map UInt32.ofNat := by
  have hc : c.toUInt32.toNat = c.toNat := rfl
  have hlt : c.toNat < 65536 := c.toNat_lt
  -- the value of a character, from the first character of its range
  have hvalue : ∀ low base : Nat, low ≤ c.toNat → low < 65536 → base ≤ 10 →
      UInt32.ofNat base + c.toUInt32 - UInt32.ofNat low =
        UInt32.ofNat (c.toNat - low + base) := by
    intro low base hlow hlow' hbase
    rw [← UInt32.toNat_inj, UInt32.toNat_sub, UInt32.toNat_add, hc, UInt32.toNat_ofNat',
      UInt32.toNat_ofNat', UInt32.toNat_ofNat']
    omega
  unfold hexDigit hexDigitValue
  simp only [gt_iff_lt, UInt32.lt_iff_toNat_lt, UInt32.toNat_sub, UInt32.toNat_add, hc,
    show UInt32.toNat 9 = 9 from rfl, show UInt32.toNat 48 = 48 from rfl,
    show UInt32.toNat 15 = 15 from rfl, show UInt32.toNat 65 = 65 from rfl,
    show UInt32.toNat 10 = 10 from rfl, show UInt32.toNat 97 = 97 from rfl]
  by_cases hdecimal : 0x30 ≤ c.toNat ∧ c.toNat ≤ 0x39
  · have h := hvalue 0x30 0 hdecimal.1 (by decide) (by decide)
    rw [Nat.add_zero] at h
    rw [if_neg (by omega), if_pos hdecimal, Option.map_some, ← h]
    simp
  · rw [if_pos (by omega), if_neg hdecimal]
    by_cases hupper : 0x41 ≤ c.toNat ∧ c.toNat ≤ 0x46
    · have h := hvalue 0x41 10 hupper.1 (by decide) (by decide)
      rw [if_neg (by omega), if_pos hupper, Option.map_some, ← h]
      rfl
    · rw [if_pos (by omega), if_neg hupper]
      by_cases hlower : 0x61 ≤ c.toNat ∧ c.toNat ≤ 0x66
      · have h := hvalue 0x61 10 hlower.1 (by decide) (by decide)
        rw [if_neg (by omega), if_pos hlower, Option.map_some, ← h]
        rfl
      · rw [if_pos (by omega), if_neg hlower, Option.map_none]

/-- The number is read modulo 2³². -/
theorem parseEntry_eq (n : Nat) (digits : List UInt16) :
    parseEntry (UInt32.ofNat n) digits = (hexNumber n digits).map UInt32.ofNat := by
  induction digits generalizing n with
  | nil => rfl
  | cons c rest ih =>
      rw [parseEntry, hexNumber, hexDigit_eq]
      cases hexDigitValue c with
      | none => rfl
      | some digit =>
          have hnext : UInt32.ofNat n * 16 + UInt32.ofNat digit =
            UInt32.ofNat (n * 16 + digit) := by
            rw [UInt32.ofNat_add, UInt32.ofNat_mul]
            rfl
          show parseEntry (UInt32.ofNat n * 16 + UInt32.ofNat digit) rest = _
          rw [hnext, ih]
          rfl

/-! ## Ways to a phonebook -/

section Ways

variable {s : Server} {here there : Folder} {store : Store} {book : Book}
variable {elements rest : List (List UInt16)}

theorem descend_concat (here : Folder) (elements : List (List UInt16)) (name : List UInt16) :
    here.descend (elements ++ [name]) =
      (here.descend elements).bind fun there => there.child name := by
  induction elements generalizing here with
  | nil =>
      show (here.child name).bind _ = here.child name
      cases here.child name <;> rfl
  | cons element elements ih =>
      show (here.child element).bind _ = ((here.child element).bind _).bind _
      rw [Option.bind_assoc]
      congr 1
      funext there
      exact ih there

theorem descend_from_book (h : (Folder.phonebook store book).descend elements = some there) :
    elements = [] ∧ there = .phonebook store book := by
  cases elements with
  | nil => exact ⟨rfl, (Option.some.inj h).symm⟩
  | cons element elements => cases h

theorem descend_from_telecom {other : Store}
    (h : (Folder.telecom store).descend elements = some (.telecom other)) :
    elements = [] ∧ store = other := by
  cases elements with
  | nil =>
      cases h
      exact ⟨rfl, rfl⟩
  | cons element elements =>
      obtain ⟨next, hchild, hrest⟩ := Option.bind_eq_some_iff.1 h
      obtain ⟨book, -, rfl⟩ := Option.map_eq_some_iff.1 hchild
      cases (descend_from_book hrest).2

/-- The ways to `telecom`. -/
theorem descend_telecom_cases (h : here.descend elements = some (.telecom store)) :
    here = .root ∧ elements = foldersAbove store ∨
      here = .sim1 ∧ store = .sim1 ∧ elements = [utelecom] ∨
        here = .telecom store ∧ elements = [] := by
  have hsim1 : ∀ elements, Folder.sim1.descend elements = some (.telecom store) →
      store = .sim1 ∧ elements = [utelecom] := by
    intro elements h
    cases elements with
    | nil => cases h
    | cons element elements =>
        obtain ⟨next, hchild, hrest⟩ := Option.bind_eq_some_iff.1 h
        simp only [Folder.child] at hchild
        split at hchild
        · next htelecom =>
            cases hchild
            obtain ⟨rfl, rfl⟩ := descend_from_telecom hrest
            exact ⟨rfl, by rw [htelecom]⟩
        · cases hchild
  cases here with
  | root =>
      refine .inl ⟨rfl, ?_⟩
      cases elements with
      | nil => cases h
      | cons element elements =>
          obtain ⟨next, hchild, hrest⟩ := Option.bind_eq_some_iff.1 h
          simp only [Folder.child] at hchild
          split at hchild
          · next hname =>
              cases hchild
              obtain ⟨rfl, rfl⟩ := hsim1 _ hrest
              rw [hname]
              rfl
          · split at hchild
            · next hname =>
                cases hchild
                obtain ⟨rfl, rfl⟩ := descend_from_telecom hrest
                rw [hname]
                rfl
            · cases hchild
  | sim1 => exact .inr (.inl ⟨rfl, hsim1 _ h⟩)
  | telecom other =>
      obtain ⟨rfl, rfl⟩ := descend_from_telecom h
      exact .inr (.inr ⟨rfl, rfl⟩)
  | phonebook other book => cases (descend_from_book h).2

/-- The ways to the folder of a phonebook. -/
theorem descend_book_cases (h : here.descend elements = some (.phonebook store book)) :
    here = .phonebook store book ∧ elements = [] ∨
      ∃ above, elements = above ++ [book.dir] ∧ here.descend above = some (.telecom store) := by
  obtain rfl | ⟨above, name, rfl⟩ := eq_nil_or_concat elements
  · cases h
    exact .inl ⟨rfl, rfl⟩
  · rw [concat_eq_append, descend_concat] at h
    obtain ⟨next, habove, hchild⟩ := Option.bind_eq_some_iff.1 h
    cases next with
    | root =>
        simp only [Folder.child] at hchild
        split at hchild
        · cases hchild
        · split at hchild <;> cases hchild
    | sim1 =>
        simp only [Folder.child] at hchild
        split at hchild <;> cases hchild
    | telecom other =>
        obtain ⟨other, hnamed, heq⟩ := Option.map_eq_some_iff.1 hchild
        cases heq
        rw [← Book.named_eq_some.1 hnamed]
        exact .inr ⟨above, concat_eq_append, habove⟩
    | phonebook other other => cases hchild

/-- The repository of a name below `telecom`. -/
theorem getRepository_of_telecom (hat : s.At here)
    (h : here.descend elements = some (.telecom store)) (hrest : rest ≠ []) :
    s.getRepository (elements ++ rest) = some store.repository ∧
      (store = .phone → elements.length ≤ 1) := by
  obtain ⟨name, rest, rfl⟩ := exists_cons_of_ne_nil hrest
  obtain ⟨rfl, rfl⟩ | ⟨rfl, rfl, rfl⟩ | ⟨rfl, rfl⟩ := descend_telecom_cases h
  · obtain ⟨hrepo, hset, -, -⟩ := hat
    cases store with
    | phone =>
        refine ⟨?_, fun _ => Nat.le_refl 1⟩
        simp [getRepository, hset, hrepo, foldersAbove, Store.repository,
          show utelecom ≠ usim1 by decide]
    | sim1 =>
        refine ⟨?_, by rintro ⟨⟩⟩
        simp [getRepository, hset, foldersAbove, Store.repository]
  · obtain ⟨hrepo, hset, -, -⟩ := hat
    refine ⟨?_, by rintro ⟨⟩⟩
    simp [getRepository, hset, hrepo, Store.repository, show utelecom ≠ usim1 by decide]
  · obtain ⟨hrepo, hset, -, -⟩ := hat
    refine ⟨?_, fun _ => Nat.zero_le 1⟩
    unfold getRepository
    rw [if_pos hset, hrepo]

/-- The phone's repository is not as deep as the limit for the name. -/
theorem admits_of_telecom (hat : s.At here)
    (h : here.descend elements = some (.telecom store)) (hrest : rest ≠ []) :
    s.admits (rest.length + 2) (elements ++ rest) = some store.repository := by
  obtain ⟨hrepository, hphone⟩ := getRepository_of_telecom hat h hrest
  have hshort : ¬ ((elements ++ rest).length = rest.length + 2 ∧
      store.repository = localRepository) := by
    rintro ⟨hlen, hlocal⟩
    rw [length_append] at hlen
    cases store with
    | phone =>
        have := hphone rfl
        omega
    | sim1 => cases hlocal
  rw [admits, hrepository, Option.filter_some, if_pos (decide_eq_true hshort)]

/-- A repository from elements that are missing is that of the current folder. -/
theorem getRepository_nil : s.getRepository [] =
    if s.repositorySet then some s.repository else none :=
  rfl

/-! ## The three functions -/

/-- The phonebook whose folder's name is at the start, and that many characters in front of
the end. -/
def titleOf (suffix : Nat) (name : List UInt16) : Option Phonebook :=
  (lookupPhonebook name).filter fun pb =>
    (upbdirs pb).any fun dir => name.length = dir.length + suffix

theorem titleOf_eq_some {suffix : Nat} :
    titleOf suffix name = some book.1 ↔
      ∃ tail, tail.length = suffix ∧ name = book.dir ++ tail := by
  constructor
  · intro h
    obtain ⟨hlookup, hlength⟩ := Option.filter_eq_some_iff.1 h
    have hstart := find?_some hlookup
    rw [book.upbdirs_eq] at hlength hstart
    have htake : name.take book.dir.length = book.dir := of_decide_eq_true hstart
    have hlen : name.length = book.dir.length + suffix := of_decide_eq_true hlength
    refine ⟨name.drop book.dir.length, ?_, ?_⟩
    · rw [length_drop]
      omega
    · rw [← take_append_drop book.dir.length name, htake]
      simp
  · rintro ⟨tail, rfl, rfl⟩
    exact Option.filter_eq_some_iff.2 ⟨book.lookup tail, book.dir_length tail⟩

/-- A title is that of a phonebook. -/
theorem exists_book_of_titleOf {suffix : Nat} {pb : Phonebook} (h : titleOf suffix name = some pb) :
    ∃ book : Book, book.1 = pb :=
  ⟨⟨pb, lookupPhonebook_ne_invalid (Option.filter_eq_some_iff.1 h).1⟩, rfl⟩

/-- The answer where nothing is found. -/
def notFound : Status × Object := (.obexNotFound, ⟨invalidRepository, invalidPhonebook, none⟩)

theorem namedPhonebook_none (h : s.admits 3 elements = none) (suffix : Nat) :
    s.namedPhonebook elements suffix = .ok notFound := by
  unfold namedPhonebook
  unfold admits at h
  cases hrepo : s.getRepository elements with
  | none => rfl
  | some repo =>
      rw [hrepo, Option.filter_some] at h
      split at h
      · cases h
      · next hlimit =>
          have hlocal : elements.length = 3 ∧ repo = localRepository := by simpa using hlimit
          exact if_pos hlocal

theorem namedPhonebook_some {repo : Repository} (h : s.admits 3 elements = some repo)
    (suffix : Nat) :
    s.namedPhonebook elements suffix =
      match elements.getLast? with
      | none => .error .outOfBounds
      | some last =>
          match titleOf suffix last with
          | some pb => .ok (.ok, ⟨repo, pb, none⟩)
          | none => .ok notFound := by
  obtain ⟨hrepo, hlimit⟩ := Option.filter_eq_some_iff.1 h
  have hlocal : ¬ (elements.length = 3 ∧ repo = localRepository) := of_decide_eq_true hlimit
  unfold namedPhonebook
  rw [hrepo]
  refine (if_neg hlocal).trans ?_
  cases elements.getLast? with
  | none => rfl
  | some last =>
      dsimp only
      unfold titleOf
      cases lookupPhonebook last with
      | none => rfl
      | some pb =>
          dsimp only
          rw [Option.filter_some]
          split <;> rfl

theorem parseEntryName_eq (s : Server) (elements : List (List UInt16)) :
    s.parseEntryName elements =
      match s.admits 4 elements, parseEntryName.parsedPhonebook s elements,
        elements.getLast? with
      | some repo, some pb, some name =>
          if name.length < vcf.length then .error .outOfBounds
          else if name ≠ stem name ++ vcf ∨ 15 < name.length then .ok notFound
          else
            match hexNumber 0 (stem name) with
            | some n => .ok (.ok, ⟨repo, pb, some (UInt32.ofNat n)⟩)
            | none => .ok notFound
      | _, _, _ => .ok notFound := by
  unfold parseEntryName admits
  cases s.getRepository elements with
  | none => rfl
  | some repo =>
      rw [Option.filter_some]
      dsimp only
      by_cases hlocal : elements.length = 4 ∧ repo = localRepository
      · rw [if_pos hlocal, if_neg (by simpa using hlocal)]
        rfl
      · rw [if_neg hlocal, if_pos (decide_eq_true hlocal)]
        cases parseEntryName.parsedPhonebook s elements with
        | none => rfl
        | some pb =>
            cases elements.getLast? with
            | none => rfl
            | some name =>
                dsimp only
                split
                · rfl
                · next hlen =>
                    have hsuffix : name = stem name ++ vcf ↔
                        name.drop (name.length - vcf.length) = vcf := by
                      constructor
                      · intro h
                        have hdrop := congrArg (List.drop (name.length - vcf.length)) h
                        rw [hdrop, stem, drop_left']
                        exact length_take_of_le (Nat.sub_le _ _)
                      · intro h
                        conv_lhs => rw [← take_append_drop (name.length - vcf.length) name, h]
                        rfl
                    have hparse : parseEntry 0 (stem name) = _ := parseEntry_eq 0 (stem name)
                    by_cases hvcf : name.drop (name.length - vcf.length) = vcf
                    · rw [if_neg (not_not.2 hvcf)]
                      by_cases hlong : name.length > 15
                      · rw [if_pos hlong, if_pos (.inr hlong)]
                        rfl
                      · rw [if_neg hlong, if_neg (not_or.2 ⟨not_not.2 (hsuffix.2 hvcf), hlong⟩)]
                        rw [stem] at hparse
                        rw [hparse, ← stem]
                        cases hexNumber 0 (stem name) <;> rfl
                    · rw [if_pos hvcf, if_pos (.inl fun h => hvcf (hsuffix.1 h))]
                      rfl

end Ways

end Server

end Pbap
