import BtPlatform.Pbap.Resolve.Lookup

/-!
# Names that are looked up as they should be

For each of the three functions the elements of a name are characterised for which it finds
what they denote, and from these the NAME headers.
-/

namespace Pbap.Server

open Support Repository Phonebook List

variable {s : Server} {kind : Lookup} {room : Bool} {name last : List UInt16}
variable {above elements : List (List UInt16)} {object : Object}

/-- The function finds what the elements denote. -/
def Parses (s : Server) (elements : List (List UInt16)) (kind : Lookup) : Prop :=
  ∃ result, s.parse elements kind = .ok result ∧ Found result (kind.denotes s.current elements)

/-! ## Objects below `telecom` -/

theorem denotes_directory_concat :
    Lookup.directory.denotes s.current (above ++ [last]) = some object ↔
      ∃ (store : Store) (book : Book),
        (s.current.bind fun here => here.descend above) = some (.telecom store) ∧
          last = book.dir ++ [] ∧ object = ⟨store.repository, book.1, none⟩ := by
  unfold Lookup.denotes
  dsimp only
  constructor
  · intro h
    split at h
    · next store book hleads =>
        obtain ⟨here, hcurrent, hdescend⟩ := Option.bind_eq_some_iff.1 hleads
        obtain ⟨-, hnil⟩ | ⟨above', heq, htelecom⟩ := descend_book_cases hdescend
        · exact absurd hnil (append_ne_nil_of_right_ne_nil _ (cons_ne_nil _ _))
        · obtain ⟨rfl, hlast⟩ := append_inj' heq rfl
          refine ⟨store, book, by rw [hcurrent]; exact htelecom, ?_, (Option.some.inj h).symm⟩
          rw [append_nil]
          exact singleton_inj.1 hlast
    · cases h
  · rintro ⟨store, book, hleads, rfl, rfl⟩
    obtain ⟨here, hcurrent, hdescend⟩ := Option.bind_eq_some_iff.1 hleads
    have hbook : (s.current.bind fun here => here.descend (above ++ [book.dir ++ []])) =
        some (.phonebook store book) := by
      rw [hcurrent, Option.bind_some, descend_concat, hdescend, Option.bind_some, Folder.child,
        append_nil, Book.named_eq_some.2 rfl, Option.map_some]
    rw [hbook]

theorem denotes_file_concat :
    Lookup.file.denotes s.current (above ++ [last]) = some object ↔
      ∃ (store : Store) (book : Book),
        (s.current.bind fun here => here.descend above) = some (.telecom store) ∧
          last = book.dir ++ vcf ∧ object = ⟨store.repository, book.1, none⟩ := by
  unfold Lookup.denotes
  rw [dropLast_concat, getLast?_concat, Option.bind_some]
  constructor
  · intro h
    dsimp only at h
    split at h
    · next store book hleads hnamed =>
        exact ⟨store, book, hleads, (Book.fileNamed_eq_some.1 hnamed).symm,
          (Option.some.inj h).symm⟩
    · cases h
  · rintro ⟨store, book, hleads, rfl, rfl⟩
    rw [hleads, Book.fileNamed_eq_some.2 rfl]

/-- A phonebook is found below `telecom` if its name and what is behind it are as long as
they should be; this is right if the name stands there and ends as it should. -/
theorem namedPhonebook_iff {tail : List UInt16} {denoted : Option Object}
    (hdenoted : ∀ object, denoted = some object ↔ ∃ (store : Store) (book : Book),
      (s.current.bind fun here => here.descend above) = some (.telecom store) ∧
        last = book.dir ++ tail ∧ object = ⟨store.repository, book.1, none⟩) :
    (∃ result, s.namedPhonebook (above ++ [last]) tail.length = .ok result ∧
        Found result denoted) ↔
      ∀ (book : Book) (suffix : List UInt16), last = book.dir ++ suffix →
        suffix.length = tail.length → s.admits 3 (above ++ [last]) ≠ none →
          s.InTelecom above ∧ suffix = tail := by
  have hadmits : ∀ store, (s.current.bind fun here => here.descend above) =
      some (.telecom store) → s.admits 3 (above ++ [last]) = some store.repository := by
    intro store hleads
    obtain ⟨here, hcurrent, hdescend⟩ := Option.bind_eq_some_iff.1 hleads
    exact admits_of_telecom (current_eq_some.1 hcurrent) hdescend (cons_ne_nil last [])
  -- without a result nothing may be denoted
  have hnone : (∀ (store : Store) (book : Book),
      (s.current.bind fun here => here.descend above) = some (.telecom store) →
        last ≠ book.dir ++ tail) → Found notFound denoted := by
    intro hnot
    cases hobject : denoted with
    | none => exact nofun
    | some object =>
        obtain ⟨store, book, hleads, hlast, -⟩ := (hdenoted object).1 hobject
        exact absurd hlast (hnot store book hleads)
  cases hrepo : s.admits 3 (above ++ [last]) with
  | none =>
      refine iff_of_true ⟨notFound, namedPhonebook_none hrepo _, hnone ?_⟩ ?_
      · intro store book hleads
        rw [hadmits store hleads] at hrepo
        cases hrepo
      · intro book suffix _ _ hne
        exact absurd rfl hne
  | some repo =>
      rw [namedPhonebook_some hrepo, getLast?_concat]
      dsimp only
      cases htitle : titleOf tail.length last with
      | none =>
          have hnot : ∀ (book : Book) suffix, last = book.dir ++ suffix →
              suffix.length ≠ tail.length := by
            intro book suffix hlast hlen
            rw [titleOf_eq_some.2 ⟨suffix, hlen, hlast⟩] at htitle
            cases htitle
          refine iff_of_true ⟨notFound, rfl, hnone ?_⟩ ?_
          · intro store book _ hlast
            exact hnot book tail hlast rfl
          · intro book suffix hlast hlen
            exact absurd hlen (hnot book suffix hlast)
      | some pb =>
          obtain ⟨book, rfl⟩ := exists_book_of_titleOf htitle
          obtain ⟨suffix, hlen, hlast⟩ := titleOf_eq_some.1 htitle
          constructor
          · rintro ⟨result, hresult, hfound⟩
            cases hresult
            cases hobject : denoted with
            | none =>
                rw [hobject] at hfound
                exact absurd rfl hfound
            | some object =>
                obtain ⟨store, other, hleads, hother, -⟩ := (hdenoted object).1 hobject
                intro book' suffix' hlast' hlen' _
                refine ⟨⟨store, hleads⟩, ?_⟩
                exact (append_inj' (hlast'.symm.trans hother) hlen').2
          · intro h
            obtain ⟨⟨store, hleads⟩, rfl⟩ := h book suffix hlast hlen (Option.some_ne_none _)
            refine ⟨_, rfl, ?_⟩
            have hsame : repo = store.repository :=
              Option.some.inj (hrepo.symm.trans (hadmits store hleads))
            rw [(hdenoted ⟨store.repository, book.1, none⟩).2 ⟨store, book, hleads, hlast, rfl⟩,
              hsame]
            rfl

/-- Without an element a phonebook's name is read in front of the array if the repository is
known. -/
theorem namedPhonebook_nil (suffix : Nat) :
    s.namedPhonebook [] suffix =
      if s.repositorySet then .error .outOfBounds else .ok notFound := by
  by_cases hset : s.repositorySet = true
  · have hadmits : s.admits 3 [] = some s.repository := by
      rw [admits, getRepository_nil, if_pos hset]
      rfl
    rw [namedPhonebook_some hadmits, if_pos hset]
    rfl
  · have hadmits : s.admits 3 [] = none := by
      rw [admits, getRepository_nil, if_neg hset]
      rfl
    rw [namedPhonebook_none hadmits, if_neg hset]

theorem not_book_of_phonebookSet {store : Store} {book : Book} (hset : s.phonebookSet = false) :
    s.current ≠ some (.phonebook store book) := by
  intro h
  exact Bool.false_ne_true (hset.symm.trans (current_eq_some.1 h).2.2.1)

theorem book_of_phonebookSet {here : Folder} (hset : s.phonebookSet = true)
    (h : s.current = some here) :
    ∃ store book, here = .phonebook store book ∧ s.repository = store.repository ∧
      s.phonebook = book.1 := by
  have hat := current_eq_some.1 h
  cases here with
  | root => exact absurd (hat.2.2.1.symm.trans hset) nofun
  | sim1 => exact absurd (hat.2.2.1.symm.trans hset) nofun
  | telecom store => exact absurd (hat.2.2.1.symm.trans hset) nofun
  | phonebook store book => exact ⟨store, book, rfl, hat.1, hat.2.2.2.2⟩

/-! ## The three functions -/

theorem parses_directory_iff (hplaced : s.Placed) :
    s.Parses elements .directory ↔ s.CarefulDirectory elements := by
  unfold Parses CarefulDirectory
  show (∃ result, s.parsePhonebookDir elements = .ok result ∧ _) ↔ _
  unfold parsePhonebookDir
  by_cases hset : s.phonebookSet = true
  · rw [if_pos hset, if_pos hset]
    cases elements with
    | nil =>
        rw [if_neg (by decide)]
        cases hcurrent : s.current with
        | none =>
            refine iff_of_false ?_ fun h => h rfl rfl
            rintro ⟨result, hresult, hfound⟩
            cases hresult
            exact hfound rfl
        | some here =>
            obtain ⟨store, book, rfl, hrepo, hbook⟩ := book_of_phonebookSet hset hcurrent
            refine iff_of_true ⟨_, rfl, ?_⟩ fun _ => Option.some_ne_none _
            rw [hrepo, hbook]
            rfl
    | cons element elements =>
        rw [if_pos (show (element :: elements).length > 0 from Nat.succ_pos _)]
        refine iff_of_true ⟨notFound, rfl, ?_⟩ nofun
        have hnone := descend_inBook hplaced hset (cons_ne_nil element elements)
        rw [Lookup.denotes, hnone]
        exact nofun
  · rw [if_neg hset, if_neg hset]
    rw [Bool.not_eq_true] at hset
    obtain rfl | ⟨above, last, rfl⟩ := eq_nil_or_concat' elements
    · rw [namedPhonebook_nil]
      by_cases hrepo : s.repositorySet = true
      · rw [if_pos hrepo]
        refine iff_of_false ?_ fun h => h.1 hrepo rfl
        rintro ⟨result, hresult, -⟩
        cases hresult
      · rw [if_neg hrepo]
        refine iff_of_true ⟨notFound, rfl, ?_⟩ ⟨fun h => absurd h hrepo, nofun⟩
        unfold Lookup.denotes
        dsimp only
        split
        · next store book hbook =>
            obtain ⟨here, hcurrent, hdescend⟩ := Option.bind_eq_some_iff.1 hbook
            cases hdescend
            exact absurd hcurrent (not_book_of_phonebookSet hset)
        · exact nofun
    · have hiff := namedPhonebook_iff (fun object => @denotes_directory_concat s last above object)
      rw [length_nil] at hiff
      rw [hiff, getLast?_concat, dropLast_concat]
      have hne : above ++ [last] ≠ [] :=
        append_ne_nil_of_right_ne_nil _ (cons_ne_nil _ _)
      constructor
      · intro h
        refine ⟨fun _ => hne, ?_⟩
        intro book hlast hadmits
        exact (h book [] (by rw [append_nil]; exact Option.some.inj hlast) rfl hadmits).1
      · rintro ⟨-, h⟩ book suffix hlast hlen hadmits
        obtain rfl := length_eq_zero_iff.1 hlen
        rw [append_nil] at hlast
        exact ⟨h book (congrArg some hlast) hadmits, rfl⟩

theorem parses_file_iff : s.Parses elements .file ↔ s.CarefulFile elements := by
  unfold Parses CarefulFile
  show (∃ result, s.parsePhonebookvCard elements = .ok result ∧ _) ↔ _
  unfold parsePhonebookvCard
  by_cases hshort : s.phonebookSet = true ∧ elements.length < 2
  · rw [if_pos hshort]
    refine iff_of_true ⟨notFound, rfl, ?_⟩ (.inl hshort)
    obtain ⟨hset, hlen⟩ := hshort
    have hnil : elements.dropLast = [] := by
      rw [← length_eq_zero_iff, length_dropLast]
      omega
    unfold Lookup.denotes
    rw [hnil]
    dsimp only
    split
    · next store book hleads hnamed =>
        obtain ⟨here, hcurrent, hdescend⟩ := Option.bind_eq_some_iff.1 hleads
        obtain ⟨store', book', rfl, -⟩ := book_of_phonebookSet hset hcurrent
        cases hdescend
    · exact nofun
  · rw [if_neg hshort, or_iff_right hshort]
    obtain rfl | ⟨above, last, rfl⟩ := eq_nil_or_concat' elements
    · rw [namedPhonebook_nil]
      by_cases hrepo : s.repositorySet = true
      · rw [if_pos hrepo]
        refine iff_of_false ?_ fun h => h.1 hrepo rfl
        rintro ⟨result, hresult, -⟩
        cases hresult
      · rw [if_neg hrepo]
        refine iff_of_true ⟨notFound, rfl, ?_⟩ ⟨fun h => absurd h hrepo, nofun⟩
        unfold Lookup.denotes
        dsimp only
        split
        · next hnamed => cases hnamed
        · exact nofun
    · rw [namedPhonebook_iff (fun object => @denotes_file_concat s last above object),
        getLast?_concat, dropLast_concat]
      have hne : above ++ [last] ≠ [] :=
        append_ne_nil_of_right_ne_nil _ (cons_ne_nil _ _)
      constructor
      · intro h
        exact ⟨fun _ => hne, fun book suffix hlast => h book suffix (Option.some.inj hlast)⟩
      · rintro ⟨-, h⟩ book suffix hlast
        exact h book suffix (congrArg some hlast)

/-- The repository and the phonebook of an entry. -/
theorem entry_of_book {store : Store} {book : Book}
    (hleads : (s.current.bind fun here => here.descend above) = some (.phonebook store book)) :
    s.admits 4 (above ++ [last]) = some store.repository ∧
      parseEntryName.parsedPhonebook s (above ++ [last]) = some book.1 := by
  obtain ⟨here, hcurrent, hdescend⟩ := Option.bind_eq_some_iff.1 hleads
  have hat := current_eq_some.1 hcurrent
  obtain ⟨rfl, rfl⟩ | ⟨above, rfl, htelecom⟩ := descend_book_cases hdescend
  · obtain ⟨hrepo, hrepoSet, hset, -, hbook⟩ := hat
    have hrepository : s.getRepository [last] = some store.repository := by
      unfold getRepository
      rw [if_pos hrepoSet, hrepo]
    constructor
    · rw [nil_append, admits, hrepository]
      simp
    · rw [nil_append, parseEntryName.parsedPhonebook, if_pos ⟨hset, rfl⟩, hbook]
  · have hset : s.phonebookSet = false := by
      obtain ⟨rfl, -⟩ | ⟨rfl, -⟩ | ⟨rfl, -⟩ := descend_telecom_cases htelecom
      · exact hat.2.2.1
      · exact hat.2.2.1
      · exact hat.2.2.1
    have happend : above ++ [book.dir] ++ [last] = above ++ [book.dir, last] := by simp
    rw [happend]
    constructor
    · exact admits_of_telecom hat htelecom (cons_ne_nil book.dir [last])
    · have hbook : (above ++ [book.dir, last])[(above ++ [book.dir, last]).length - 2]? =
          some book.dir := by simp
      have hlookup := book.lookup []
      rw [append_nil] at hlookup
      rw [parseEntryName.parsedPhonebook, if_neg (by simp [hset]), if_pos (by simp [hset]), hbook]
      exact hlookup

theorem denotes_entry_concat :
    Lookup.entry.denotes s.current (above ++ [last]) = some object ↔
      ∃ (store : Store) (book : Book) (n : Nat),
        (s.current.bind fun here => here.descend above) = some (.phonebook store book) ∧
          entryNumber last = some n ∧
          object = ⟨store.repository, book.1, some (UInt32.ofNat n)⟩ := by
  unfold Lookup.denotes
  dsimp only
  rw [dropLast_concat, getLast?_concat, Option.bind_some]
  constructor
  · intro h
    split at h
    · next store book n hleads hnumber =>
        exact ⟨store, book, n, hleads, hnumber, (Option.some.inj h).symm⟩
    · cases h
  · rintro ⟨store, book, n, hleads, hnumber, rfl⟩
    rw [hleads, hnumber]

theorem entryNumber_eq_some {n : Nat} (h : entryNumber name = some n) :
    name = stem name ++ vcf ∧ hexNumber 0 (stem name) = some n := by
  unfold entryNumber at h
  split at h
  · next hname => exact ⟨hname.1, (Option.filter_eq_some_iff.1 h).1⟩
  · cases h

theorem parses_entry_iff : s.Parses elements .entry ↔ s.CarefulEntry elements := by
  unfold Parses CarefulEntry
  show (∃ result, s.parseEntryName elements = .ok result ∧ _) ↔ _
  rw [parseEntryName_eq]
  obtain rfl | ⟨above, last, rfl⟩ := eq_nil_or_concat' elements
  · have hnone : Lookup.entry.denotes s.current [] = none := by
      unfold Lookup.denotes
      dsimp only
      split
      · next hnumber => cases hnumber
      · rfl
    rw [hnone]
    refine iff_of_true ⟨notFound, ?_, nofun⟩ nofun
    split
    · next hlast => cases hlast
    · rfl
  · rw [getLast?_concat, dropLast_concat]
    -- where nothing is found, nothing may be denoted
    have hnone : (∀ store book n,
        (s.current.bind fun here => here.descend above) = some (.phonebook store book) →
          entryNumber last ≠ some n) →
        Found notFound (Lookup.entry.denotes s.current (above ++ [last])) := by
      intro hnot
      cases hobject : Lookup.entry.denotes s.current (above ++ [last]) with
      | none => exact nofun
      | some object =>
          obtain ⟨store, book, n, hleads, hnumber, -⟩ := denotes_entry_concat.1 hobject
          exact absurd hnumber (hnot store book n hleads)
    cases hrepo : s.admits 4 (above ++ [last]) with
    | none =>
        refine iff_of_true ⟨notFound, rfl, hnone ?_⟩ ?_
        · intro store book n hleads
          rw [(entry_of_book hleads).1] at hrepo
          cases hrepo
        · intro name pb _ hne
          exact absurd rfl hne
    | some repo =>
        cases hbook : parseEntryName.parsedPhonebook s (above ++ [last]) with
        | none =>
            refine iff_of_true ⟨notFound, rfl, hnone ?_⟩ ?_
            · intro store book n hleads
              rw [(entry_of_book hleads).2] at hbook
              cases hbook
            · intro name pb _ _ hne
              cases hne
        | some pb =>
            dsimp only
            by_cases hshort : last.length < vcf.length
            · rw [if_pos hshort]
              refine iff_of_false ?_ fun h => ?_
              · rintro ⟨result, hresult, -⟩
                cases hresult
              · exact absurd (h last pb rfl (Option.some_ne_none _) rfl).1 (Nat.not_le.2 hshort)
            · have hlen := Nat.le_of_not_lt hshort
              rw [if_neg hshort]
              by_cases hrefused : last ≠ stem last ++ vcf ∨ 15 < last.length
              · rw [if_pos hrefused]
                constructor
                · rintro ⟨result, hresult, hfound⟩ name pb' hname - -
                  cases hresult
                  cases hname
                  refine ⟨hlen, ?_, ?_⟩
                  · intro hsuffix hlong
                    obtain hne | hlt := hrefused
                    · exact absurd hsuffix hne
                    · omega
                  · rintro ⟨store, book, hleads⟩ hnumber
                    obtain ⟨n, hn⟩ := Option.ne_none_iff_exists'.1 hnumber
                    rw [denotes_entry_concat.2 ⟨store, book, n, hleads, hn, rfl⟩] at hfound
                    cases hfound
                · intro h
                  obtain ⟨-, -, hlong⟩ := h last pb rfl (Option.some_ne_none _) rfl
                  refine ⟨notFound, rfl, hnone ?_⟩
                  intro store book n hleads hnumber
                  have hle := hlong ⟨store, book, hleads⟩
                    (by rw [hnumber]; exact Option.some_ne_none n)
                  obtain hne | hlt := hrefused
                  · exact hne (entryNumber_eq_some hnumber).1
                  · omega
              · rw [if_neg hrefused]
                obtain ⟨hsuffix, hle⟩ := not_or.1 hrefused
                rw [not_not] at hsuffix
                rw [Nat.not_lt] at hle
                cases hvalue : hexNumber 0 (stem last) with
                | none =>
                    refine iff_of_true ⟨notFound, rfl, hnone ?_⟩ ?_
                    · intro store book n _ hnumber
                      rw [(entryNumber_eq_some hnumber).2] at hvalue
                      cases hvalue
                    · intro name pb' hname _ _
                      cases hname
                      exact ⟨hlen, fun _ _ hne => absurd hvalue hne, fun _ _ => hle⟩
                | some n =>
                    constructor
                    · rintro ⟨result, hresult, hfound⟩ name pb' hname - -
                      cases hresult
                      cases hname
                      refine ⟨hlen, fun _ _ _ => ?_, fun _ _ => hle⟩
                      cases hobject : Lookup.entry.denotes s.current (above ++ [last]) with
                      | none =>
                          rw [hobject] at hfound
                          exact absurd rfl hfound
                      | some object =>
                          obtain ⟨store, book, m, hleads, hnumber, -⟩ :=
                            denotes_entry_concat.1 hobject
                          exact ⟨⟨store, book, hleads⟩,
                            by rw [hnumber]; exact Option.some_ne_none m⟩
                    · intro h
                      obtain ⟨-, hright, -⟩ := h last pb rfl (Option.some_ne_none _) rfl
                      obtain ⟨⟨store, book, hleads⟩, hnumber⟩ := hright hsuffix hle
                        (by rw [hvalue]; exact Option.some_ne_none n)
                      obtain ⟨m, hm⟩ := Option.ne_none_iff_exists'.1 hnumber
                      obtain rfl : m = n :=
                        Option.some.inj ((entryNumber_eq_some hm).2.symm.trans hvalue)
                      obtain ⟨hrepo', hbook'⟩ := @entry_of_book s last above store book hleads
                      rw [hrepo] at hrepo'
                      rw [hbook] at hbook'
                      refine ⟨_, rfl, ?_⟩
                      rw [denotes_entry_concat.2 ⟨store, book, m, hleads, hm, rfl⟩,
                        Option.some.inj hrepo', Option.some.inj hbook']
                      rfl

/-- The elements that each function looks up as it should. -/
theorem parses_iff_careful (hplaced : s.Placed) :
    s.Parses elements kind ↔ s.CarefulElements elements kind := by
  cases kind with
  | directory => exact parses_directory_iff hplaced
  | file => exact parses_file_iff
  | entry => exact parses_entry_iff

/-! ## NAME headers -/

/-- An absolute name denotes nothing. -/
theorem denotes_absolute (here : Option Folder) (rest : List UInt16) (kind : Lookup) :
    kind.denotes here (nameElements (slash :: rest)) = none := by
  have hcons : ∃ name names, nameElements (slash :: rest) = [] :: name :: names := by
    have helements : nameElements (slash :: rest) = pathElements (slash :: rest) :=
      if_neg (by simp [slash])
    have hstring : cString (slash :: rest) = slash :: cString rest := rfl
    obtain ⟨name, names, hnames⟩ :=
      exists_cons_of_ne_nil (splitOn_ne_nil slash (cString rest))
    refine ⟨name, names, ?_⟩
    rw [helements, pathElements, hstring, splitOn_cons_slash, hnames]
  obtain ⟨name, names, hcons⟩ := hcons
  have hchild : ∀ here : Folder, here.child [] = none := by
    intro here
    cases here with
    | root => rfl
    | sim1 => rfl
    | telecom store => rfl
    | phonebook store book => rfl
  have hdescend : ∀ names, (here.bind fun here => here.descend ([] :: names)) = none := by
    intro names
    cases here with
    | none => rfl
    | some here =>
        show (here.child []).bind _ = none
        rw [hchild, Option.bind_none]
  rw [hcons]
  cases kind with
  | directory =>
      unfold Lookup.denotes
      rw [hdescend]
  | file =>
      unfold Lookup.denotes
      dsimp only
      rw [dropLast_cons_cons, hdescend]
  | entry =>
      unfold Lookup.denotes
      dsimp only
      rw [dropLast_cons_cons, hdescend]

/-- In each position that is reached, a NAME header is looked up as it should be if and only
if it is careful. -/
theorem looksUp_iff_careful (h : s.Reachable) (kind : Lookup) (room : Bool)
    (name : List UInt16) :
    s.LooksUp kind room name ↔ s.CarefulName kind room name := by
  unfold LooksUp CarefulName lookUp
  by_cases hempty : name = [] ∨ name = [0]
  · have hcopies : Copies room name := .inr hempty
    have hslash : name.head? ≠ some slash := by
      obtain rfl | rfl := hempty <;> decide
    have hread : tokenizePath room 0 4 name = .ok (.ok, nameElements name) := by
      rw [nameElements, if_pos hempty]
      exact if_pos hempty
    have hlen : (nameElements name).length ≤ 4 := by
      rw [nameElements, if_pos hempty]
      exact Nat.zero_le 4
    rw [hread, ok_bind]
    simp only [hcopies, hslash, hlen, true_imp_iff, true_and, ne_eq, not_false_eq_true]
    exact parses_iff_careful h.placed
  · cases room with
    | false =>
        have hcopies : ¬ Copies false name := fun hc => hc.elim nofun hempty
        have hread : tokenizePath false 0 4 name = .ok (.outOfMemory, []) :=
          (if_neg hempty).trans (if_pos rfl)
        rw [hread, ok_bind]
        exact iff_of_true ⟨_, rfl, fun hc => absurd hc hcopies⟩ fun hc => absurd hc hcopies
    | true =>
        have hcopies : Copies true name := .inl rfl
        by_cases hslash : name.head? = some slash
        · obtain ⟨rest, rfl⟩ : ∃ rest, name = slash :: rest := by
            cases name with
            | nil => exact absurd (.inl rfl) hempty
            | cons c rest => exact ⟨rest, by rw [Option.some.inj hslash]⟩
          have hread : tokenizePath true 0 4 (slash :: rest) = .ok (.obexNotFound, []) :=
            (if_neg hempty).trans ((if_neg (by decide)).trans (if_pos rfl))
          rw [hread, ok_bind]
          refine iff_of_true ⟨_, rfl, fun _ => ?_⟩ fun _ hne => absurd rfl hne
          rw [denotes_absolute]
          exact nofun
        · have helements : nameElements name = (cString name).splitOn slash := if_neg hempty
          rw [tokenizePath_relative hempty hslash]
          simp only [hcopies, hslash, true_imp_iff, ne_eq, not_false_eq_true]
          by_cases hmany : (nameElements name).length ≤ 4
          · rw [tokenizeLoop_splitOn (by rw [← helements]; simpa using hmany) (.inl rfl),
              nil_append, modifyHead_nil_append, ← helements, ok_bind]
            simp only [hmany, true_and]
            exact parses_iff_careful h.placed
          · rw [tokenizeLoop_overflow (by decide) (by
              rw [← helements, length_nil, Nat.zero_add]
              exact Nat.lt_of_not_le hmany)]
            refine iff_of_false ?_ fun hcareful => hmany hcareful.1
            rintro ⟨result, hresult, -⟩
            cases hresult

/-- From the root, the second entry of the main phonebook. -/
theorem looksUp_iff_careful_start : start.LooksUp .entry true
    (terminated (utelecom ++ [slash, 0x70, 0x62, slash, 0x32] ++ vcf)) := by
  refine (looksUp_iff_careful (.connected start ⟨rfl, rfl, rfl, rfl⟩) _ _ _).2 ?_
  intro _ _
  have hcurrent : start.current = some .root := current_eq_some.2 ⟨rfl, rfl, rfl, rfl⟩
  refine ⟨by decide, ?_⟩
  intro name pb hname _ _
  have hlast : (nameElements (terminated (utelecom ++ [slash, 0x70, 0x62, slash, 0x32] ++
      vcf))).getLast? = some ([0x32] ++ vcf) := by decide
  obtain rfl : [0x32] ++ vcf = name := Option.some.inj (hlast.symm.trans hname)
  refine ⟨by decide, fun _ _ _ => ⟨⟨.phone, ⟨mainPhonebook, by decide⟩, ?_⟩, by decide⟩,
    fun _ _ => by decide⟩
  rw [hcurrent]
  decide

/-- In "telecom", "x/pb.vcf" is taken for the main phonebook. -/
theorem not_looksUp_detour : ¬ ∀ s : Server, s.Reachable →
    ∀ kind room name, s.LooksUp kind room name := by
  intro h
  have hreached : Reachable ⟨localRepository, mainPhonebook, true, false, 1⟩ :=
    .setPath start true (some (terminated utelecom)) false false .ok _
      (.connected start ⟨rfl, rfl, rfl, rfl⟩) rfl
  have hcurrent : current ⟨localRepository, mainPhonebook, true, false, 1⟩ =
      some (.telecom .phone) := current_eq_some.2 ⟨rfl, rfl, rfl, rfl⟩
  obtain ⟨result, hresult, hfound⟩ := h _ hreached .file true
    (terminated ([0x78, slash, 0x70, 0x62] ++ vcf))
  cases hresult
  have hnone := hfound (.inl rfl)
  rw [hcurrent] at hnone
  exact hnone rfl

end Pbap.Server
