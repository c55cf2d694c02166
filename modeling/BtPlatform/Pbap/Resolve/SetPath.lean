import BtPlatform.Pbap.Resolve.Tree

/-!
# SETPATH as a move in the tree

A SETPATH should lead to the folder that it names and change nothing if there is none. The
server moves element by element, and takes a name for that of a phonebook if it starts with
it, so both hold for some requests only. Its position can also be below `SIM1`, where there
are no phonebooks.
-/

namespace Pbap

open Support Repository Phonebook List

/-- All folders of the tree. -/
def Folder.all : List Folder :=
  [.root, .sim1, .telecom .phone, .telecom .sim1] ++
    (Book.all.map (.phonebook .phone) ++ Book.all.map (.phonebook .sim1))

theorem Folder.mem_all (here : Folder) : here ∈ Folder.all := by
  cases here with
  | root => simp [Folder.all]
  | sim1 => simp [Folder.all]
  | telecom store => cases store <;> simp [Folder.all]
  | phonebook store book => cases store <;> simp [Folder.all, book.mem_all]

/-- The string that a NAME header is passed as: without characters it has no pointer. -/
def passed : Option (List UInt16) → Option (List UInt16)
  | some [] => none
  | name => name

/-- The path of a request; none in an empty name. -/
def requestedPath : Option (List UInt16) → Option (List UInt16)
  | some (c :: rest) => if c = 0 then none else some (c :: rest)
  | _ => none

namespace Server

variable {s s' : Server} {here there : Folder} {element : List UInt16}
variable {path : List (List UInt16)}

/-! ## The folder that the position denotes -/

/-- The current folder. -/
def current (s : Server) : Option Folder := Folder.all.find? fun here => s.At here

theorem At.unique (h : s.At here) (h' : s.At there) : here = there := by
  obtain ⟨repository, phonebook, repositorySet, phonebookSet, folderLevel⟩ := s
  cases here with
  | root =>
      obtain ⟨rfl, rfl, rfl, rfl⟩ := h
      cases there with
      | root => rfl
      | sim1 => exact absurd h'.1 nofun
      | telecom store => exact absurd h'.2.1 nofun
      | phonebook store book => exact absurd h'.2.1 nofun
  | sim1 =>
      obtain ⟨rfl, rfl, rfl, rfl⟩ := h
      cases there with
      | root => exact absurd h'.1 nofun
      | sim1 => rfl
      | telecom store => exact absurd h'.2.1 nofun
      | phonebook store book => exact absurd h'.2.1 nofun
  | telecom store =>
      obtain ⟨hrepo, rfl, rfl, -⟩ := h
      cases there with
      | root => exact absurd h'.2.1 nofun
      | sim1 => exact absurd h'.2.1 nofun
      | telecom store' =>
          have heq : store.repository = store'.repository := hrepo.symm.trans h'.1
          cases store <;> cases store' <;> first | rfl | cases heq
      | phonebook store book => exact absurd h'.2.2.1 nofun
  | phonebook store book =>
      obtain ⟨hrepo, rfl, rfl, -, hbook⟩ := h
      cases there with
      | root => exact absurd h'.2.1 nofun
      | sim1 => exact absurd h'.2.1 nofun
      | telecom store => exact absurd h'.2.2.1 nofun
      | phonebook store' book' =>
          have heq : store.repository = store'.repository := hrepo.symm.trans h'.1
          obtain rfl : book = book' := Subtype.ext (hbook.symm.trans h'.2.2.2.2)
          cases store <;> cases store' <;> first | rfl | cases heq

theorem current_eq_some : s.current = some here ↔ s.At here := by
  have hat : ∀ there, s.current = some there → s.At there := by
    intro there h
    have hfound := find?_some h
    exact of_decide_eq_true hfound
  constructor
  · exact hat here
  · intro h
    cases hcurrent : s.current with
    | none => exact absurd h (by simpa using find?_eq_none.1 hcurrent here here.mem_all)
    | some there => rw [h.unique (hat there hcurrent)]

/-- The positions below `SIM1` that are in no folder: in a phonebook there, in one below
that, and in the folder between the two. -/
def Stray (s : Server) : Prop :=
  s.repository = sim1Repository ∧ s.repositorySet = false ∧
    (s.phonebookSet = true ∧ (s.folderLevel = 2 ∨ s.folderLevel = 3) ∨
      s.phonebookSet = false ∧ s.folderLevel = 2)

theorem Stray.current (h : s.Stray) : s.current = none := by
  cases hcurrent : s.current with
  | none => rfl
  | some here =>
      have hat := current_eq_some.1 hcurrent
      obtain ⟨hrepo, hset, hbook⟩ := h
      cases here with
      | root => exact absurd (hrepo.symm.trans hat.1) nofun
      | sim1 =>
          obtain ⟨-, -, hpb, hlevel⟩ := hat
          obtain ⟨htrue, -⟩ | ⟨-, htwo⟩ := hbook
          · exact absurd (htrue.symm.trans hpb) nofun
          · exact absurd (htwo.symm.trans hlevel) (by decide)
      | telecom store => exact absurd (hset.symm.trans hat.2.1) nofun
      | phonebook store book => exact absurd (hset.symm.trans hat.2.1) nofun

/-- In a folder, or not in the tree. -/
def Placed (s : Server) : Prop := (∃ here, s.At here) ∨ s.Stray

/-! ## What a request names -/

/-- The folder that a request names; to create a folder is not allowed. -/
def named (s : Server) (name : Option (List UInt16)) (upLevel create : Bool) : Option Folder :=
  if create then none
  else
    match requestedPath name with
    | none => if upLevel then s.current.bind Folder.parent else some .root
    | some path => s.current.bind fun here => here.descend (pathElements path)

/-- The position in the folder that is named, or where it was. -/
def Outcome (s : Server) (result : Status × Server) : Option Folder → Prop
  | some there => result.1 = .ok ∧ result.2.At there
  | none => result.1 ≠ .ok ∧ result.2 = s

/-- The string that `ServerSetPathInd` takes a copy of, to split it. -/
def copied (s : Server) (name : Option (List UInt16)) (create : Bool) :
    Option (List UInt16) :=
  if create = true ∨ s.phonebookSet = true then none else requestedPath name

/-- A SETPATH leads to the folder that it names, if there is one, and otherwise changes
nothing; the element that is freed is the copy of the path. -/
structure SetsPath (s : Server) (room : Bool) (name : Option (List UInt16))
    (upLevel create : Bool) : Prop where
  outcome : ∃ result, s.serverSetPathInd room (passed name) upLevel create = .ok result ∧
    s.Outcome result (s.named name upLevel create)
  freed : ∀ path, s.copied name create = some path →
    ∃ status elements, tokenizePath room 3 3 path = .ok (status, elements) ∧ elements ≠ []

/-- The element names a folder here, or a phonebook is taken for it. -/
def Accepts (s : Server) (element : List UInt16) : Prop :=
  (s.current.bind fun here => here.child element) ≠ none ∨
    s.folderLevel ≠ 0 ∧ lookupPhonebook element ≠ none

/-- The path names a folder, or is too long, or has a first element that leads nowhere. -/
def Resolves (s : Server) (path : List (List UInt16)) : Prop :=
  (s.current.bind fun here => here.descend path) ≠ none ∨
    3 < s.folderLevel.toNat + path.length ∨
    ∀ element ∈ path.head?, ¬ s.Accepts element

/-- The requests that are answered as they should be. -/
def CarefulPath (s : Server) (room : Bool) (name : Option (List UInt16)) (upLevel : Bool) :
    Prop :=
  match requestedPath name with
  | none => upLevel = true → s.current ≠ none
  | some path => s.phonebookSet = false →
      room = true ∧ path.head? ≠ some slash ∧ s.Resolves (pathElements path)

/-! ## One element -/

theorem lookupPhonebook_ne_invalid {pb : Phonebook} (h : lookupPhonebook element = some pb) :
    pb ≠ invalidPhonebook := by
  have hmem := mem_of_find?_eq_some h
  rintro rfl
  revert hmem
  decide

/-- The folder with the name is entered. -/
theorem enter_child (hat : s.At here) (hchild : here.child element = some there) :
    ∃ s', s.enter element = (.ok, s') ∧ s'.At there := by
  obtain ⟨repository, phonebook, repositorySet, phonebookSet, folderLevel⟩ := s
  cases here with
  | root =>
      obtain ⟨rfl, rfl, rfl, rfl⟩ := hat
      simp only [Folder.child] at hchild
      split at hchild
      · next hsim1 =>
          cases hchild
          subst hsim1
          exact ⟨_, rfl, rfl, rfl, rfl, rfl⟩
      · split at hchild
        · next htelecom =>
            cases hchild
            subst htelecom
            exact ⟨_, rfl, rfl, rfl, rfl, rfl⟩
        · cases hchild
  | sim1 =>
      obtain ⟨rfl, rfl, rfl, rfl⟩ := hat
      simp only [Folder.child] at hchild
      split at hchild
      · next htelecom =>
          cases hchild
          subst htelecom
          exact ⟨_, rfl, rfl, rfl, rfl, rfl⟩
      · cases hchild
  | telecom store =>
      obtain ⟨rfl, rfl, rfl, rfl⟩ := hat
      obtain ⟨⟨pb, hpb⟩, hnamed, rfl⟩ := Option.map_eq_some_iff.1 hchild
      obtain rfl := Book.named_eq_some.1 hnamed
      cases pb with
      | invalidPhonebook => exact absurd rfl hpb
      | _ => cases store <;> exact ⟨_, rfl, rfl, rfl, rfl, rfl, rfl⟩
  | phonebook store book => cases hchild

theorem enter_zero (h : s.folderLevel = 0) :
    s.enter element =
      if element = usim1 then
        (.ok, { s with repository := sim1Repository, folderLevel := s.folderLevel + 1 })
      else if element = utelecom then
        (.ok, { s with repository := localRepository, repositorySet := true,
                       folderLevel := s.folderLevel + 1 })
      else (.obexNotFound, s) := by
  cases s
  cases h
  rfl

theorem enter_one (h : s.folderLevel = 1) :
    s.enter element =
      if s.repository = sim1Repository ∧ element = utelecom then
        (.ok, { s with repositorySet := true, folderLevel := s.folderLevel + 1 })
      else enter.enterPhonebook s element := by
  cases s
  cases h
  rfl

theorem enter_two (h : s.folderLevel = 2) :
    s.enter element =
      if s.repository = localRepository then (.obexNotFound, s)
      else enter.enterPhonebook s element := by
  cases s
  cases h
  rfl

/-- What `LookupPhonebook` finds is entered. -/
theorem enterPhonebook_eq (s : Server) (element : List UInt16) :
    enter.enterPhonebook s element =
      match lookupPhonebook element with
      | some pb => (.ok, { s with phonebook := pb, phonebookSet := true,
                                  folderLevel := s.folderLevel + 1 })
      | none => (.obexNotFound, s) := rfl

/-- An element that is not accepted changes nothing. -/
theorem enter_not_accepts (hplaced : s.Placed) (hset : s.phonebookSet = false)
    (h : ¬ s.Accepts element) : s.enter element = (.obexNotFound, s) := by
  have hchild : (s.current.bind fun here => here.child element) = none := by
    by_contra hne
    exact h (.inl hne)
  have hlookup : s.folderLevel ≠ 0 → lookupPhonebook element = none := by
    intro hlevel
    by_contra hne
    exact h (.inr ⟨hlevel, hne⟩)
  have hnotFound : s.folderLevel ≠ 0 →
      enter.enterPhonebook s element = (.obexNotFound, s) := by
    intro hlevel
    rw [enterPhonebook_eq, hlookup hlevel]
  obtain ⟨here, hat⟩ | ⟨hrepo, -, hbook⟩ := hplaced
  · rw [current_eq_some.2 hat] at hchild
    cases here with
    | root =>
        simp only [Folder.child, Option.bind_some] at hchild
        rw [enter_zero hat.2.2.2]
        split at hchild
        · cases hchild
        · next hsim1 =>
            split at hchild
            · cases hchild
            · next htelecom => rw [if_neg hsim1, if_neg htelecom]
    | sim1 =>
        have hone : s.folderLevel = 1 := hat.2.2.2
        simp only [Folder.child, Option.bind_some] at hchild
        split at hchild
        · cases hchild
        · next htelecom =>
            rw [enter_one hone, if_neg fun h => htelecom h.2,
              hnotFound (by rw [hone]; decide)]
    | telecom store =>
        obtain ⟨hrepo, -, -, hlevel⟩ := hat
        cases store with
        | phone =>
            have hone : s.folderLevel = 1 := hlevel
            rw [enter_one hone, hnotFound (by rw [hone]; decide),
              if_neg fun h => Repository.noConfusion (hrepo.symm.trans h.1)]
        | sim1 =>
            have htwo : s.folderLevel = 2 := hlevel
            rw [enter_two htwo, hnotFound (by rw [htwo]; decide)]
            exact ite_self _
    | phonebook store book => exact absurd (hset.symm.trans hat.2.2.1) Bool.false_ne_true
  · obtain ⟨htrue, -⟩ | ⟨-, htwo⟩ := hbook
    · exact absurd (hset.symm.trans htrue) Bool.false_ne_true
    · rw [enter_two htwo, hnotFound (by rw [htwo]; decide)]
      exact ite_self _

/-- An element that is accepted is entered, wherever it leads. -/
theorem enter_accepts (hplaced : s.Placed) (hset : s.phonebookSet = false)
    (h : s.Accepts element) : (s.enter element).1 = .ok := by
  obtain hchild | ⟨hlevel, hlookup⟩ := h
  · obtain ⟨there, hthere⟩ := Option.ne_none_iff_exists'.1 hchild
    obtain ⟨here, hcurrent, hstep⟩ := Option.bind_eq_some_iff.1 hthere
    obtain ⟨s', hs', -⟩ := enter_child (current_eq_some.1 hcurrent) hstep
    rw [hs']
  · obtain ⟨pb, hpb⟩ := Option.ne_none_iff_exists'.1 hlookup
    have hfound : (enter.enterPhonebook s element).1 = .ok := by
      rw [enterPhonebook_eq, hpb]
    have hsim1 : s.repository = sim1Repository → s.folderLevel = 2 →
        (s.enter element).1 = .ok := by
      intro hrepo htwo
      rw [enter_two htwo, if_neg fun h => Repository.noConfusion (hrepo.symm.trans h)]
      exact hfound
    have hone : s.folderLevel = 1 → (s.enter element).1 = .ok := by
      intro hone
      rw [enter_one hone]
      split
      · rfl
      · exact hfound
    obtain ⟨here, hat⟩ | ⟨hrepo, -, hbook⟩ := hplaced
    · cases here with
      | root => exact absurd hat.2.2.2 hlevel
      | sim1 => exact hone hat.2.2.2
      | telecom store =>
          obtain ⟨hrepo, -, -, hlevel⟩ := hat
          cases store with
          | phone => exact hone hlevel
          | sim1 => exact hsim1 hrepo hlevel
      | phonebook store book => exact absurd (hset.symm.trans hat.2.2.1) nofun
    · obtain ⟨htrue, -⟩ | ⟨-, htwo⟩ := hbook
      · exact absurd (hset.symm.trans htrue) nofun
      · exact hsim1 hrepo htwo

/-- An element leads one level down or changes nothing. -/
theorem enter_level (s : Server) (element : List UInt16) :
    ((s.enter element).1 = .ok ∧
        (s.enter element).2.folderLevel.toNat = s.folderLevel.toNat + 1) ∨
      ((s.enter element).1 ≠ .ok ∧ (s.enter element).2 = s) := by
  have hbook : ∀ level : UInt8, s.folderLevel = level → (level + 1).toNat = level.toNat + 1 →
      ((enter.enterPhonebook s element).1 = .ok ∧
          (enter.enterPhonebook s element).2.folderLevel.toNat = s.folderLevel.toNat + 1) ∨
        ((enter.enterPhonebook s element).1 ≠ .ok ∧ (enter.enterPhonebook s element).2 = s) := by
    intro level hlevel hsucc
    rw [enterPhonebook_eq]
    cases lookupPhonebook element with
    | none => exact .inr ⟨nofun, rfl⟩
    | some pb => exact .inl ⟨rfl, by rw [hlevel]; exact hsucc⟩
  unfold enter
  split
  · next hzero =>
      split
      · exact .inl ⟨rfl, by rw [hzero]; rfl⟩
      · split
        · exact .inl ⟨rfl, by rw [hzero]; rfl⟩
        · exact .inr ⟨nofun, rfl⟩
  · next hone =>
      split
      · exact .inl ⟨rfl, by rw [hone]; rfl⟩
      · exact hbook 1 hone rfl
  · next htwo =>
      split
      · exact .inr ⟨nofun, rfl⟩
      · exact hbook 2 htwo rfl
  · exact .inr ⟨nofun, rfl⟩

/-- Entering leads from a position to a position. -/
theorem enter_placed (hplaced : s.Placed) (element : List UInt16) :
    (s.enter element).2.Placed := by
  have hbook : ∀ s' : Server, s'.Placed →
      (∀ pb, pb ≠ invalidPhonebook →
        Placed { s' with phonebook := pb, phonebookSet := true,
                         folderLevel := s'.folderLevel + 1 }) →
      (enter.enterPhonebook s' element).2.Placed := by
    intro s' hs' hnext
    rw [enterPhonebook_eq]
    cases hlookup : lookupPhonebook element with
    | none => exact hs'
    | some pb => exact hnext pb (lookupPhonebook_ne_invalid hlookup)
  have hself := hplaced
  obtain ⟨here, hat⟩ | ⟨hrepo, hrepoSet, hset⟩ := hplaced
  · cases here with
    | root =>
        obtain ⟨hrepo, hrepoSet, hset, hzero⟩ := hat
        rw [enter_zero hzero]
        split
        · exact .inl ⟨.sim1, rfl, hrepoSet, hset, by rw [hzero]; rfl⟩
        · split
          · exact .inl ⟨.telecom .phone, rfl, rfl, hset, by rw [hzero]; rfl⟩
          · exact hself
    | sim1 =>
        obtain ⟨hrepo, hrepoSet, hset, hone⟩ := hat
        rw [enter_one hone]
        split
        · exact .inl ⟨.telecom .sim1, hrepo, rfl, hset, by rw [hone]; rfl⟩
        · exact hbook s hself fun pb _ =>
            .inr ⟨hrepo, hrepoSet, .inl ⟨rfl, .inl (by rw [hone]; rfl)⟩⟩
    | telecom store =>
        obtain ⟨hrepo, hrepoSet, hset, hlevel⟩ := hat
        have hin : ∀ pb, pb ≠ invalidPhonebook →
            Placed { s with phonebook := pb, phonebookSet := true,
                            folderLevel := s.folderLevel + 1 } := by
          intro pb hpb
          refine .inl ⟨.phonebook store ⟨pb, hpb⟩, hrepo, hrepoSet, rfl, ?_, rfl⟩
          rw [hlevel]
          cases store <;> rfl
        cases store with
        | phone =>
            rw [enter_one hlevel, if_neg fun h => Repository.noConfusion (hrepo.symm.trans h.1)]
            exact hbook s hself hin
        | sim1 =>
            rw [enter_two hlevel]
            split
            · exact hself
            · exact hbook s hself hin
    | phonebook store book =>
        obtain ⟨hrepo, -, -, hlevel, -⟩ := hat
        cases store with
        | phone =>
            have hlocal : s.repository = localRepository := hrepo
            rw [enter_two hlevel, if_pos hlocal]
            exact hself
        | sim1 =>
            obtain ⟨hok, hnext⟩ | ⟨-, hsame⟩ := enter_level s element
            · rw [show s.folderLevel = 3 from hlevel] at hnext
              have hthree : s.enter element = (.obexNotFound, s) := by
                cases s
                cases hlevel
                rfl
              rw [hthree]
              exact hself
            · rw [hsame]
              exact hself
  · obtain ⟨-, htwo | hthree⟩ | ⟨-, htwo⟩ := hset
    · rw [enter_two htwo]
      split
      · exact hself
      · exact hbook s hself fun pb _ =>
          .inr ⟨hrepo, hrepoSet, .inl ⟨rfl, .inr (by rw [htwo]; rfl)⟩⟩
    · have hnone : s.enter element = (.obexNotFound, s) := by
        cases s
        cases hthree
        rfl
      rw [hnone]
      exact hself
    · rw [enter_two htwo]
      split
      · exact hself
      · exact hbook s hself fun pb _ =>
          .inr ⟨hrepo, hrepoSet, .inl ⟨rfl, .inr (by rw [htwo]; rfl)⟩⟩

/-! ## A path -/

theorem success_iff {status : Status} : status.success = true ↔ status = .ok :=
  beq_iff_eq

theorem enterAll_cons (s : Server) (element : List UInt16) (path : List (List UInt16)) :
    s.enterAll (element :: path) =
      if (s.enter element).1.success then (s.enter element).2.enterAll path
      else s.enter element := rfl

/-- The folder that a path leads to is reached. -/
theorem enterAll_descend (hat : s.At here) (h : here.descend path = some there) :
    ∃ s', s.enterAll path = (.ok, s') ∧ s'.At there := by
  induction path generalizing s here with
  | nil =>
      cases h
      exact ⟨s, rfl, hat⟩
  | cons element path ih =>
      obtain ⟨next, hchild, hrest⟩ := Option.bind_eq_some_iff.1 h
      obtain ⟨s₁, henter, hnext⟩ := enter_child hat hchild
      rw [enterAll_cons, henter, if_pos (success_iff.2 rfl)]
      exact ih hnext hrest

theorem enterAll_level (s : Server) (path : List (List UInt16)) :
    s.folderLevel.toNat ≤ (s.enterAll path).2.folderLevel.toNat := by
  induction path generalizing s with
  | nil => exact Nat.le_refl _
  | cons element path ih =>
      rw [enterAll_cons]
      obtain ⟨hok, hlevel⟩ | ⟨hne, hsame⟩ := enter_level s element
      · rw [if_pos (success_iff.2 hok)]
        have := ih (s.enter element).2
        omega
      · rw [if_neg fun h => hne (success_iff.1 h)]
        exact Nat.le_of_eq (by rw [hsame])

theorem enterAll_placed (hplaced : s.Placed) (path : List (List UInt16)) :
    (s.enterAll path).2.Placed := by
  induction path generalizing s with
  | nil => exact hplaced
  | cons element path ih =>
      rw [enterAll_cons]
      split
      · exact ih (enter_placed hplaced element)
      · exact enter_placed hplaced element

/-- Behind an accepted element, the position has changed. -/
theorem enterAll_accepted (hplaced : s.Placed) (hset : s.phonebookSet = false)
    (haccepts : s.Accepts element) (path : List (List UInt16)) :
    (s.enterAll (element :: path)).2 ≠ s := by
  have hok := enter_accepts hplaced hset haccepts
  obtain ⟨-, hlevel⟩ | ⟨hne, -⟩ := enter_level s element
  · rw [enterAll_cons, if_pos (success_iff.2 hok)]
    intro heq
    have hle := enterAll_level (s.enter element).2 path
    rw [heq] at hle
    omega
  · exact absurd hok hne

/-! ## A request -/

section Requests

variable {room : Bool} {name : Option (List UInt16)} {upLevel create : Bool}

/-- The folder above is entered; from a position that is not in the tree, some other. -/
theorem leave_at (hat : s.At here) : s.Outcome s.leave here.parent := by
  obtain ⟨repository, phonebook, repositorySet, phonebookSet, folderLevel⟩ := s
  cases here with
  | root =>
      obtain ⟨rfl, rfl, rfl, rfl⟩ := hat
      exact ⟨nofun, rfl⟩
  | sim1 =>
      obtain ⟨rfl, rfl, rfl, rfl⟩ := hat
      simp [Outcome, Folder.parent, leave, At]
  | telecom store =>
      obtain ⟨rfl, rfl, rfl, rfl⟩ := hat
      cases store with
      | phone => simp [Outcome, Folder.parent, leave, At, Folder.level]
      | sim1 => simp [Outcome, Folder.parent, leave, At, Folder.level, Store.repository]
  | phonebook store book =>
      obtain ⟨rfl, rfl, rfl, rfl, rfl⟩ := hat
      cases store with
      | phone => exact ⟨rfl, rfl, rfl, rfl, (by decide : (2 : UInt8) - 1 = 1)⟩
      | sim1 => exact ⟨rfl, rfl, rfl, rfl, (by decide : (3 : UInt8) - 1 = 2)⟩

theorem leave_stray (h : s.Stray) : s.leave.1 = .ok ∧ s.leave.2.Placed := by
  obtain ⟨repository, phonebook, repositorySet, phonebookSet, folderLevel⟩ := s
  obtain ⟨rfl, rfl, ⟨rfl, rfl | rfl⟩ | ⟨rfl, rfl⟩⟩ := h
  · exact ⟨rfl, .inl ⟨.sim1, rfl, rfl, rfl, (by decide : (2 : UInt8) - 1 = 1)⟩⟩
  · exact ⟨rfl, .inr ⟨rfl, rfl, .inr ⟨rfl, (by decide : (3 : UInt8) - 1 = 2)⟩⟩⟩
  · simp only [leave]
    exact ⟨rfl, .inl ⟨.sim1, by simp [At]⟩⟩

/-- A request without a path. -/
theorem serverSetPathInd_noPath (h : requestedPath name = none) :
    s.serverSetPathInd room (passed name) upLevel false =
      .ok (serverSetPathInd.descend upLevel s) := by
  match name with
  | none => rfl
  | some [] => rfl
  | some (c :: rest) =>
      simp only [requestedPath] at h
      split at h
      · next hzero => exact if_pos hzero
      · cases h

/-- A request with a path that is taken apart. -/
theorem serverSetPathInd_path {path : List UInt16} (h : requestedPath name = some path)
    (hset : s.phonebookSet = false) :
    s.serverSetPathInd room (passed name) upLevel false = (do
      let (status, elements) ← tokenizePath room 3 3 path
      if status.success then
        if s.folderLevel.toNat + elements.length > 3 then return (.obexNotFound, s)
        else return s.enterAll elements
      else if elements = [] then .error .useAfterFree
      else return (status, s)) := by
  match name with
  | none => cases h
  | some [] => cases h
  | some (c :: rest) =>
      simp only [requestedPath] at h
      split at h
      · cases h
      · next hzero =>
          cases h
          refine (if_neg hzero).trans ?_
          rw [hset]
          rfl

theorem serverSetPathInd_inBook {path : List UInt16} (h : requestedPath name = some path)
    (hset : s.phonebookSet = true) :
    s.serverSetPathInd room (passed name) upLevel false = .ok (.obexNotFound, s) := by
  match name with
  | none => cases h
  | some [] => cases h
  | some (c :: rest) =>
      simp only [requestedPath] at h
      split at h
      · cases h
      · next hzero =>
          cases h
          refine (if_neg hzero).trans ?_
          rw [hset]
          rfl

/-- There is no folder in a phonebook. -/
theorem descend_inBook (hplaced : s.Placed) (hset : s.phonebookSet = true)
    (hpath : path ≠ []) : (s.current.bind fun here => here.descend path) = none := by
  obtain ⟨here, hat⟩ | hstray := hplaced
  · rw [current_eq_some.2 hat, Option.bind_some]
    cases here with
    | root => exact absurd (hset.symm.trans hat.2.2.1) nofun
    | sim1 => exact absurd (hset.symm.trans hat.2.2.1) nofun
    | telecom store => exact absurd (hset.symm.trans hat.2.2.1) nofun
    | phonebook store book =>
        cases path with
        | nil => exact absurd rfl hpath
        | cons element path => rfl
  · rw [hstray.current, Option.bind_none]

theorem level_at (hat : s.At here) : s.folderLevel.toNat = here.level := by
  cases here with
  | root => rw [hat.2.2.2]; rfl
  | sim1 => rw [hat.2.2.2]; rfl
  | telecom store => rw [hat.2.2.2]; cases store <;> rfl
  | phonebook store book => rw [hat.2.2.2.1]; cases store <;> rfl

theorem descend_tooDeep (h : 3 < s.folderLevel.toNat + path.length) :
    (s.current.bind fun here => here.descend path) = none := by
  cases hcurrent : s.current with
  | none => rfl
  | some here =>
      rw [level_at (current_eq_some.1 hcurrent)] at h
      exact Folder.descend_eq_none h

/-- A path that is split leads to its folder or nowhere if and only if it is careful. -/
theorem enterAll_outcome_iff (hplaced : s.Placed) (hset : s.phonebookSet = false)
    (hpath : path ≠ []) (hdeep : ¬ 3 < s.folderLevel.toNat + path.length) :
    s.Outcome (s.enterAll path) (s.current.bind fun here => here.descend path) ↔
      s.Resolves path := by
  cases hdescend : s.current.bind fun here => here.descend path with
  | some there =>
      obtain ⟨here, hcurrent, hleads⟩ := Option.bind_eq_some_iff.1 hdescend
      obtain ⟨s', hs', hat⟩ := enterAll_descend (current_eq_some.1 hcurrent) hleads
      rw [hs']
      refine iff_of_true ⟨rfl, hat⟩ (.inl ?_)
      rw [hdescend]
      exact Option.some_ne_none _
  | none =>
      obtain ⟨element, path, rfl⟩ := exists_cons_of_ne_nil hpath
      constructor
      · rintro ⟨-, hsame⟩
        refine .inr (.inr ?_)
        intro element' helement haccepts
        cases helement
        exact enterAll_accepted hplaced hset haccepts path hsame
      · rintro (hne | hlong | hfirst)
        · exact absurd hdescend hne
        · exact absurd hlong hdeep
        · have hnot := enter_not_accepts hplaced hset (hfirst element rfl)
          rw [enterAll_cons, hnot]
          exact ⟨nofun, rfl⟩

theorem requestedPath_cons {str : List UInt16} (h : requestedPath name = some str) :
    ∃ c rest, str = c :: rest ∧ c ≠ 0 := by
  match name with
  | none => cases h
  | some [] => cases h
  | some (c :: rest) =>
      simp only [requestedPath] at h
      split at h
      · cases h
      · next hzero => exact ⟨c, rest, (Option.some.inj h).symm, hzero⟩

/-- A request with a path is answered as it should be if and only if it is careful. -/
theorem path_outcome_iff {str : List UInt16} (hplaced : s.Placed)
    (hset : s.phonebookSet = false) (hname : requestedPath name = some str) :
    (∃ result, s.serverSetPathInd room (passed name) upLevel false = .ok result ∧
        s.Outcome result (s.current.bind fun here => here.descend (pathElements str))) ↔
      room = true ∧ str.head? ≠ some slash ∧ s.Resolves (pathElements str) := by
  obtain ⟨c, rest, rfl, hzero⟩ := requestedPath_cons hname
  rw [serverSetPathInd_path hname hset]
  by_cases hroom : room = true
  · subst hroom
    by_cases hslash : c = slash
    · subst hslash
      refine iff_of_false ?_ fun h => h.2.1 rfl
      rintro ⟨result, hresult, -⟩
      cases hresult
    · have hhead : (c :: rest).head? ≠ some slash := by simpa using hslash
      simp only [hhead, ne_eq, not_false_eq_true, true_and]
      have hne : pathElements (c :: rest) ≠ [] :=
        length_pos_iff.1 pathElements_length_pos
      by_cases hmany : (pathElements (c :: rest)).length ≤ 3
      · rw [tokenizePath_elements hzero hslash hmany (.inr hmany)]
        by_cases hdeep : 3 < s.folderLevel.toNat + (pathElements (c :: rest)).length
        · rw [descend_tooDeep hdeep]
          refine iff_of_true ⟨(.obexNotFound, s), if_pos hdeep, nofun, rfl⟩ (.inr (.inl hdeep))
        · rw [← enterAll_outcome_iff hplaced hset hne hdeep]
          constructor
          · rintro ⟨result, hresult, houtcome⟩
            have heq := (if_neg hdeep).symm.trans hresult
            cases heq
            exact houtcome
          · intro houtcome
            exact ⟨_, if_neg hdeep, houtcome⟩
      · have hdeep : 3 < s.folderLevel.toNat + (pathElements (c :: rest)).length := by omega
        obtain ⟨read, hread, hreadne⟩ := @tokenizeLoop_long 3 [] [] (cString (c :: rest))
          (by decide) (by rw [length_nil, Nat.zero_add]; exact Nat.lt_of_not_le hmany)
        rw [tokenizePath_cons hzero hslash, hread, descend_tooDeep hdeep]
        exact iff_of_true ⟨(.obexNotFound, s), if_neg hreadne, nofun, rfl⟩ (.inr (.inl hdeep))
  · refine iff_of_false ?_ fun h => hroom h.1
    rintro ⟨result, hresult, -⟩
    rw [Bool.not_eq_true] at hroom
    subst hroom
    simp [tokenizePath, hzero] at hresult

/-- The string that is copied is the path of the request. -/
theorem requestedPath_of_copied {path : List UInt16} (h : s.copied name create = some path) :
    create = false ∧ s.phonebookSet = false ∧ requestedPath name = some path := by
  unfold copied at h
  split at h
  · cases h
  · next hnot =>
      obtain ⟨hcreate, hset⟩ := not_or.1 hnot
      exact ⟨Bool.not_eq_true _ ▸ hcreate, Bool.not_eq_true _ ▸ hset, h⟩

/-- Without a fault, the element that is freed is the copy. -/
theorem freed_of_outcome {result : Status × Server}
    (h : s.serverSetPathInd room (passed name) upLevel create = .ok result) :
    ∀ path, s.copied name create = some path →
      ∃ status elements, tokenizePath room 3 3 path = .ok (status, elements) ∧
        elements ≠ [] := by
  intro path hcopied
  obtain ⟨rfl, hset, hname⟩ := requestedPath_of_copied hcopied
  obtain ⟨c, rest, rfl, hzero⟩ := requestedPath_cons hname
  rw [serverSetPathInd_path hname hset] at h
  cases hread : tokenizePath room 3 3 (c :: rest) with
  | error f =>
      rw [hread] at h
      cases h
  | ok read =>
      obtain ⟨status, elements⟩ := read
      refine ⟨status, elements, rfl, ?_⟩
      rintro rfl
      rw [hread] at h
      have hfailed := success_of_tokenizePath_nil hzero hread
      have herror := (if_neg (by rw [hfailed]; exact Bool.false_ne_true)).symm.trans h
      cases herror

theorem setsPath_iff :
    s.SetsPath room name upLevel create ↔
      ∃ result, s.serverSetPathInd room (passed name) upLevel create = .ok result ∧
        s.Outcome result (s.named name upLevel create) := by
  constructor
  · exact SetsPath.outcome
  · rintro ⟨result, hresult, houtcome⟩
    exact ⟨⟨result, hresult, houtcome⟩, freed_of_outcome hresult⟩

/-- The requests that are answered as they should be, in a position that is reached. -/
theorem setsPath_iff_carefulPath (hplaced : s.Placed) :
    s.SetsPath room name upLevel false ↔ s.CarefulPath room name upLevel := by
  rw [setsPath_iff]
  unfold CarefulPath named
  cases hname : requestedPath name with
  | none =>
      rw [serverSetPathInd_noPath hname]
      cases upLevel with
      | false =>
          exact iff_of_true ⟨_, rfl, rfl, rfl, rfl, rfl, rfl⟩ (absurd · Bool.false_ne_true)
      | true =>
          obtain ⟨here, hat⟩ | hstray := hplaced
          · rw [current_eq_some.2 hat]
            exact iff_of_true ⟨_, rfl, leave_at hat⟩ fun _ => Option.some_ne_none _
          · rw [hstray.current]
            refine iff_of_false ?_ fun h => h rfl rfl
            rintro ⟨result, hresult, hne, -⟩
            cases hresult
            exact hne (leave_stray hstray).1
  | some path =>
      cases hset : s.phonebookSet with
      | false => simpa using path_outcome_iff hplaced hset hname
      | true =>
          have hne : pathElements path ≠ [] :=
            length_pos_iff.1 pathElements_length_pos
          have hnone := descend_inBook hplaced hset hne
          refine iff_of_true ⟨_, serverSetPathInd_inBook hname hset, ?_⟩ nofun
          simp only [Bool.false_eq_true, if_false, hnone]
          exact ⟨nofun, rfl⟩

/-- A SETPATH leads from a position to a position. -/
theorem serverSetPathInd_placed {result : Status × Server} (hplaced : s.Placed)
    (h : s.serverSetPathInd room (passed name) upLevel create = .ok result) :
    result.2.Placed := by
  cases create with
  | true =>
      cases h
      exact hplaced
  | false =>
      cases hname : requestedPath name with
      | none =>
          rw [serverSetPathInd_noPath hname] at h
          cases h
          cases upLevel with
          | false => exact .inl ⟨.root, rfl, rfl, rfl, rfl⟩
          | true =>
              obtain ⟨here, hat⟩ | hstray := hplaced
              · have hleave := leave_at hat
                cases hparent : here.parent with
                | none =>
                    rw [hparent] at hleave
                    exact hleave.2.symm ▸ .inl ⟨here, hat⟩
                | some there =>
                    rw [hparent] at hleave
                    exact .inl ⟨there, hleave.2⟩
              · exact (leave_stray hstray).2
      | some path =>
          cases hset : s.phonebookSet with
          | true =>
              rw [serverSetPathInd_inBook hname hset] at h
              cases h
              exact hplaced
          | false =>
              rw [serverSetPathInd_path hname hset] at h
              cases hread : tokenizePath room 3 3 path with
              | error f =>
                  rw [hread] at h
                  cases h
              | ok read =>
                  obtain ⟨status, elements⟩ := read
                  rw [hread] at h
                  simp only [ok_bind] at h
                  split at h
                  · split at h
                    · cases h
                      exact hplaced
                    · cases h
                      exact enterAll_placed hplaced elements
                  · split at h
                    · cases h
                    · cases h
                      exact hplaced

end Requests

/-! ## Sessions -/

/-- The positions that a server reaches, from the root where a connection starts. -/
inductive Reachable : Server → Prop
  | connected (s : Server) (hat : s.At .root) : Reachable s
  | setPath (s : Server) (room name upLevel create status s') (hreached : Reachable s)
      (hrequest : s.serverSetPathInd room (passed name) upLevel create = .ok (status, s')) :
      Reachable s'

theorem Reachable.placed (h : s.Reachable) : s.Placed := by
  induction h with
  | connected s hat => exact .inl ⟨.root, hat⟩
  | setPath s room name upLevel create status s' hreached hrequest ih =>
      exact serverSetPathInd_placed ih hrequest

/-- The requests that are answered as they should be. -/
def Careful (s : Server) (room : Bool) (name : Option (List UInt16)) (upLevel create : Bool) :
    Prop :=
  create = true ∨ s.CarefulPath room name upLevel

/-- In each position that is reached, a SETPATH leads to the folder that it names and
otherwise changes nothing if and only if it is careful. -/
theorem setsPath_iff_careful (h : s.Reachable) (room : Bool) (name : Option (List UInt16))
    (upLevel create : Bool) :
    s.SetsPath room name upLevel create ↔ s.Careful room name upLevel create := by
  cases create with
  | true =>
      refine iff_of_true ?_ (.inl rfl)
      exact setsPath_iff.2 ⟨(.obexAccessDenied, s), rfl, nofun, rfl⟩
  | false =>
      rw [setsPath_iff_carefulPath h.placed]
      exact (or_iff_right Bool.false_ne_true).symm

/-- The position of a new connection. -/
def start : Server := ⟨localRepository, mainPhonebook, false, false, 0⟩

/-- From the root to "SIM1/telecom/pb" in one request. -/
theorem setsPath_iff_careful_start :
    start.SetsPath true (some (terminated (usim1 ++ slash :: (utelecom ++ [slash, 0x70, 0x62]))))
      false false := by
  refine (setsPath_iff_careful (.connected start ⟨rfl, rfl, rfl, rfl⟩) _ _ _ _).2 (.inr ?_)
  intro _
  refine ⟨rfl, by decide, .inl ?_⟩
  have hcurrent : start.current = some .root := current_eq_some.2 ⟨rfl, rfl, rfl, rfl⟩
  rw [hcurrent]
  decide

/-- "telecom/x" from the root leaves the server in "telecom". -/
theorem not_setsPath_partly : ¬ ∀ s : Server, s.Reachable →
    ∀ room name upLevel create, s.SetsPath room name upLevel create := by
  intro h
  obtain ⟨⟨result, hresult, houtcome⟩, -⟩ := h start (.connected start ⟨rfl, rfl, rfl, rfl⟩)
    true (some (terminated (utelecom ++ [slash, 0x78]))) false false
  have hcurrent : start.current = some .root := current_eq_some.2 ⟨rfl, rfl, rfl, rfl⟩
  have hnone : start.named (some (terminated (utelecom ++ [slash, 0x78]))) false false = none := by
    unfold named
    rw [hcurrent]
    decide
  rw [hnone] at houtcome
  have hsame := houtcome.2
  cases hresult
  exact absurd (congrArg Server.folderLevel hsame) (by decide)

end Server

end Pbap
