import BtPlatform.Pbap.Server

/-!
# The names that the client builds

Client and server agree on names: when both are in the root, the name of a phonebook
file leads the server to that phonebook; when both are in the folder of a phonebook,
the empty name leads it to the listing and a number with the suffix to the entry of
that number. The number is written in hexadecimal without leading zeros, and read back
modulo 2³².
-/

namespace Pbap

open Support Repository Phonebook List

/-! ## Numbers -/

/-- The character for a digit below 16. -/
def digitChar (digit : Nat) : UInt16 :=
  if digit ≥ 10 then UInt16.ofNat (digit - 10 + 0x41) else UInt16.ofNat (digit + 0x30)

theorem hexDigit_digitChar {digit : Nat} (h : digit < 16) :
    Server.hexDigit (digitChar digit) = some (UInt32.ofNat digit) := by
  have hall : ∀ digit : Fin 16,
      Server.hexDigit (digitChar digit) = some (UInt32.ofNat digit) := by decide
  exact hall ⟨digit, h⟩

theorem digitChar_ne {digit : Nat} (h : digit < 16) :
    digitChar digit ≠ 0 ∧ digitChar digit ≠ slash := by
  have hall : ∀ digit : Fin 16, digitChar digit ≠ 0 ∧ digitChar digit ≠ slash := by decide
  exact hall ⟨digit, h⟩

variable {n entry : Nat} {c : UInt16}

theorem leadingDigit_lt (h : entry < 16 ^ (n + 1)) : entry / 16 ^ n < 16 :=
  Nat.div_lt_of_lt_mul (by rwa [Nat.pow_succ] at h)

theorem trailingDigits_lt (n entry : Nat) : entry % 16 ^ n < 16 ^ n :=
  Nat.mod_lt _ (Nat.pow_pos (by decide))

/-- One turn of the loop, for a number that fits the positions left. -/
theorem entryDigits_succ (h : entry < 16 ^ (n + 1)) (written : Nat) :
    PathState.entryDigits (n + 1) entry written =
      if n = 0 ∨ entry / 16 ^ n > 0 ∨ written > 0 then
        digitChar (entry / 16 ^ n) :: PathState.entryDigits n (entry % 16 ^ n) (written + 1)
      else PathState.entryDigits n (entry % 16 ^ n) written := by
  have hdigit := leadingDigit_lt h
  have hmod : entry / 16 ^ n % 256 = entry / 16 ^ n := Nat.mod_eq_of_lt (by omega)
  have hrest : entry - entry / 16 ^ n * 16 ^ n = entry % 16 ^ n := by
    have hsum := Nat.div_add_mod' entry (16 ^ n)
    omega
  simp only [PathState.entryDigits, hmod, hrest]
  by_cases hhigh : entry / 16 ^ n ≥ 10
  · rw [if_pos ⟨hhigh, by omega⟩, if_pos (.inr (.inl (by omega))), digitChar, if_pos hhigh]
  · rw [if_neg fun h => hhigh h.1, digitChar, if_neg hhigh]

/-- Once a digit is written, all positions are. -/
theorem parseEntry_entryDigits_pos {written : Nat} (h : entry < 16 ^ n) (hwritten : written > 0)
    (e : UInt32) :
    Server.parseEntry e (PathState.entryDigits n entry written) =
      some (e * UInt32.ofNat (16 ^ n) + UInt32.ofNat entry) := by
  induction n generalizing e entry written with
  | zero =>
      obtain rfl : entry = 0 := by omega
      simp [PathState.entryDigits, Server.parseEntry]
  | succ n ih =>
      have hdigit := leadingDigit_lt h
      rw [entryDigits_succ h, if_pos (.inr (.inr hwritten))]
      simp only [Server.parseEntry, hexDigit_digitChar hdigit, Option.bind_eq_bind,
        Option.bind_some]
      rw [ih (trailingDigits_lt n entry) (by omega)]
      have hentry : entry = entry / 16 ^ n * 16 ^ n + entry % 16 ^ n :=
        (Nat.div_add_mod' entry (16 ^ n)).symm
      conv_rhs => rw [hentry]
      rw [UInt32.ofNat_add, UInt32.ofNat_mul, Nat.pow_succ, UInt32.ofNat_mul, UInt32.add_mul]
      congr 1
      rw [UInt32.add_assoc, UInt32.mul_assoc, UInt32.mul_comm 16]
      rfl

/-- The digits of a number are read back as the number. -/
theorem parseEntry_entryDigits (h : entry < 16 ^ n) (hn : n > 0) :
    Server.parseEntry 0 (PathState.entryDigits n entry 0) = some (UInt32.ofNat entry) := by
  induction n generalizing entry with
  | zero => cases hn
  | succ n ih =>
      have hdigit := leadingDigit_lt h
      rw [entryDigits_succ h]
      by_cases hfirst : n = 0 ∨ entry / 16 ^ n > 0 ∨ 0 > 0
      · rw [if_pos hfirst]
        simp only [Server.parseEntry, hexDigit_digitChar hdigit, Option.bind_eq_bind,
          Option.bind_some]
        rw [parseEntry_entryDigits_pos (trailingDigits_lt n entry) (by omega)]
        conv_rhs => rw [← Nat.div_add_mod' entry (16 ^ n), UInt32.ofNat_add, UInt32.ofNat_mul]
        simp
      · -- a leading zero: the number fits the positions that are left
        rw [if_neg hfirst]
        have hzero : entry / 16 ^ n = 0 :=
          Nat.eq_zero_of_not_pos fun hpos => hfirst (.inr (.inl hpos))
        have hlt : entry < 16 ^ n := by
          rwa [Nat.div_eq_zero_iff_lt (Nat.pow_pos (by decide))] at hzero
        rw [Nat.mod_eq_of_lt hlt]
        exact ih hlt (by omega)

theorem entryDigits_length_le (h : entry < 16 ^ n) (written : Nat) :
    (PathState.entryDigits n entry written).length ≤ n := by
  induction n generalizing entry written with
  | zero => simp [PathState.entryDigits]
  | succ n ih =>
      have hrest (written : Nat) :
          (PathState.entryDigits n (entry % 16 ^ n) written).length ≤ n :=
        ih (trailingDigits_lt n entry) written
      rw [entryDigits_succ h]
      split
      · rw [length_cons]
        exact Nat.succ_le_succ (hrest _)
      · exact Nat.le_succ_of_le (hrest _)

theorem entryDigits_chars (h : entry < 16 ^ n) {written : Nat}
    (hc : c ∈ PathState.entryDigits n entry written) : c ≠ 0 ∧ c ≠ slash := by
  induction n generalizing entry written with
  | zero => cases hc
  | succ n ih =>
      have hmod := trailingDigits_lt n entry
      have hdigit := leadingDigit_lt h
      rw [entryDigits_succ h] at hc
      split at hc
      · obtain rfl | hc := mem_cons.1 hc
        · exact digitChar_ne hdigit
        · exact ih hmod hc
      · exact ih hmod hc

/-! ## Taking names apart -/

section Tokens

variable {maxCnt capacity : Nat} {elements : List (List UInt16)} {path str : List UInt16}

theorem tokenizeLoop_single (h : slash ∉ str) :
    tokenizeLoop maxCnt capacity elements path str = .ok (.ok, elements ++ [path ++ str]) := by
  induction str generalizing path with
  | nil => simp [tokenizeLoop]
  | cons c rest ih =>
      rw [mem_cons, not_or] at h
      rw [tokenizeLoop, if_neg (Ne.symm h.1), ih h.2, append_assoc]
      rfl

/-- A separator ends an element, as long as there is room for the next. -/
theorem tokenizeLoop_slash {str : List UInt16} (rest : List UInt16) (h : slash ∉ str)
    (hmax : elements.length + 1 ≠ maxCnt)
    (hroom : elements.length + 1 < capacity) :
    tokenizeLoop maxCnt capacity elements path (str ++ slash :: rest) =
      tokenizeLoop maxCnt capacity (elements ++ [path ++ str]) [] rest := by
  induction str generalizing path with
  | nil =>
      rw [nil_append, tokenizeLoop, if_pos rfl, if_neg hmax, if_neg (Nat.not_le.2 hroom),
        append_nil]
  | cons c str ih =>
      rw [mem_cons, not_or] at h
      rw [cons_append, tokenizeLoop, if_neg (Ne.symm h.1), ih h.2, append_assoc]
      rfl

/-- A name that is not empty and not absolute is taken apart at its separators. -/
theorem tokenizePath_terminated (hc : c ≠ slash) (hzero : 0 ∉ c :: str) :
    tokenizePath true maxCnt capacity (terminated (c :: str)) =
      tokenizeLoop maxCnt capacity [] [] (c :: str) := by
  unfold tokenizePath
  rw [if_neg, if_neg (by decide), if_neg, cString_terminated hzero]
  · intro h
    exact hc (Option.some.inj h)
  · simp [terminated]

/-- A name without a separator is one element. -/
theorem tokenizePath_single (hne : str ≠ []) (hzero : 0 ∉ str) (hslash : slash ∉ str) :
    tokenizePath true maxCnt capacity (terminated str) = .ok (.ok, [str]) := by
  cases str with
  | nil => exact absurd rfl hne
  | cons c str =>
      rw [tokenizePath_terminated (fun h => hslash (h ▸ mem_cons_self)) hzero,
        tokenizeLoop_single hslash]
      rfl

end Tokens

/-! ## What the names mean to the server -/

section Resolve

variable {p : PathState} {s : Server} {store : Store} {book : Book}

/-- The folders above a phonebook. -/
def foldersAbove : Store → List (List UInt16)
  | .phone => [utelecom]
  | .sim1 => [usim1, utelecom]

/-- The name of a phonebook file, relative to the root. -/
def phonebookName (store : Store) (book : Book) : List UInt16 :=
  ((foldersAbove store).map (· ++ [slash])).flatten ++ (book.dir ++ vcf)

theorem buildRepoPathName_root (hp : p.At .root) :
    PathState.separate (p.buildRepoPathName store.repository) =
      ((foldersAbove store).map (· ++ [slash])).flatten := by
  obtain ⟨hrepo, htelecom, -⟩ := hp
  unfold PathState.buildRepoPathName
  cases store with
  | phone => simp [htelecom, foldersAbove, Store.repository]
  | sim1 =>
      rw [if_pos htelecom, if_pos ⟨hrepo, rfl⟩, PathState.separate_append_terminated,
        PathState.separate_terminated]
      rfl

theorem buildPbVCardPathName_root (hp : p.At .root) :
    p.buildPbVCardPathName store.repository book.1 =
      .ok (terminated (phonebookName store book)) := by
  have hfolders : PathState.separate (p.buildRepoPathName store.repository) =
      ((foldersAbove store).map (· ++ [slash])).flatten := buildRepoPathName_root hp
  obtain ⟨-, -, hpb⟩ := hp
  unfold PathState.buildPbVCardPathName PathState.buildPbDirPathName
  rw [if_pos hpb, book.upbdirs_eq, ok_bind, if_neg append_terminated_ne_nil,
    dropLast_append_terminated, hfolders]
  exact congrArg Except.ok (by simp [phonebookName, terminated])

/-- A character that neither ends a name nor an element of a path. -/
def plainChar (c : UInt16) : Bool := c ≠ 0 ∧ c ≠ slash

theorem plain_of_all {chars : List UInt16} (h : chars.all plainChar = true) (hc : c ∈ chars) :
    c ≠ 0 ∧ c ≠ slash :=
  of_decide_eq_true (all_eq_true.1 h c hc)

theorem Book.dir_chars (book : Book) (hc : c ∈ book.dir ++ vcf) : c ≠ 0 ∧ c ≠ slash := by
  refine plain_of_all ?_ hc
  obtain ⟨pb, hpb⟩ := book
  cases pb with
  | invalidPhonebook => exact absurd rfl hpb
  | _ => rfl

theorem zero_notMem_phonebookName (store : Store) (book : Book) : 0 ∉ phonebookName store book := by
  intro h
  obtain h | h := mem_append.1 h
  · revert h
    cases store <;> decide
  · exact (book.dir_chars h).1 rfl

theorem tokenizePath_phonebookName (store : Store) (book : Book) :
    tokenizePath true 0 4 (terminated (phonebookName store book)) =
      .ok (.ok, foldersAbove store ++ [book.dir ++ vcf]) := by
  have hslash : slash ∉ book.dir ++ vcf := fun h => (book.dir_chars h).2 rfl
  have hzero := zero_notMem_phonebookName store book
  cases store with
  | phone =>
      refine (tokenizePath_terminated (by decide) hzero).trans ?_
      have htelecom : slash ∉ utelecom := by decide
      exact (tokenizeLoop_slash (book.dir ++ vcf) htelecom (by decide) (by decide)).trans
        (tokenizeLoop_single hslash)
  | sim1 =>
      refine (tokenizePath_terminated (by decide) hzero).trans ?_
      have hsim1 : slash ∉ usim1 := by decide
      have htelecom : slash ∉ utelecom := by decide
      refine (tokenizeLoop_slash (utelecom ++ slash :: (book.dir ++ vcf)) hsim1 (by decide)
        (by decide)).trans ?_
      exact (tokenizeLoop_slash (book.dir ++ vcf) htelecom (by decide) (by decide)).trans
        (tokenizeLoop_single hslash)

theorem Book.lookup (book : Book) (suffix : List UInt16) :
    lookupPhonebook (book.dir ++ suffix) = some book.1 := by
  obtain ⟨pb, hpb⟩ := book
  cases pb with
  | invalidPhonebook => exact absurd rfl hpb
  | _ => rfl

theorem Book.dir_length (book : Book) (suffix : List UInt16) :
    ((upbdirs book.1).any fun dir => (book.dir ++ suffix).length = dir.length + suffix.length) =
      true := by
  rw [book.upbdirs_eq, length_append]
  exact decide_eq_true rfl

/-- From the root, the name of a phonebook file means that phonebook. -/
theorem phonebookName_resolves (hp : p.At .root) (hs : s.At .root) (maxListCount : Option UInt16) :
    ∃ name, p.buildPbVCardPathName store.repository book.1 = .ok name ∧
      s.getObject true .phonebook maxListCount name =
        .ok (.ok, ⟨store.repository, book.1, none⟩) := by
  obtain ⟨hrepo, hrepoSet, hset, -⟩ := hs
  refine ⟨_, buildPbVCardPathName_root hp, ?_⟩
  have hrepository : s.getRepository (foldersAbove store ++ [book.dir ++ vcf]) =
      some store.repository := by
    unfold Server.getRepository
    cases store with
    | phone => simp [hrepoSet, hrepo, foldersAbove, Store.repository,
      show utelecom ≠ usim1 by decide]
    | sim1 => simp [hrepoSet, foldersAbove, Store.repository]
  have hcount : ¬ ((foldersAbove store ++ [book.dir ++ vcf]).length = 3 ∧
      store.repository = localRepository) := by
    cases store <;> simp [foldersAbove, Store.repository]
  unfold Server.getObject Server.parsePhonebookvCard Server.namedPhonebook
  rw [tokenizePath_phonebookName, ok_bind]
  simp only [Status.success, beq_self_eq_true, if_true, hset, Bool.false_eq_true, false_and,
    if_false, hrepository, if_neg hcount, getLast?_concat, book.lookup, book.dir_length]

/-- In the folder of a phonebook, the empty name means its listing. -/
theorem listingName_resolves (hp : p.At (.phonebook store book))
    (hs : s.At (.phonebook store book)) (maxListCount : Option UInt16) :
    ∃ name, p.buildPbDirPathName store.repository book.1 = .ok name ∧
      s.getObject true .vCardListing maxListCount name =
        .ok (.ok, ⟨store.repository, book.1, none⟩) := by
  obtain ⟨-, -, hpb⟩ := hp
  obtain ⟨hrepo, -, hset, -, hbook⟩ := hs
  refine ⟨[], ?_, ?_⟩
  · rw [PathState.buildPbDirPathName, if_neg (by rw [hpb]; exact book.2)]
  · unfold Server.getObject tokenizePath
    simp [Server.parsePhonebookDir, hset, hrepo, hbook]

/-- In the folder of a phonebook, the number of an entry means that entry. -/
theorem entryName_resolves (hp : p.At (.phonebook store book))
    (hs : s.At (.phonebook store book)) (entry : UInt32) :
    ∃ name, p.buildVCardPathName store.repository book.1 entry = .ok name ∧
      s.getObject true .vCard none name =
        .ok (.ok, ⟨store.repository, book.1, some entry⟩) := by
  obtain ⟨-, -, hpb⟩ := hp
  obtain ⟨hrepo, hrepoSet, hset, -, hbook⟩ := hs
  have hentry : entry.toNat < 16 ^ 8 := entry.toNat_lt
  have hlength := entryDigits_length_le hentry 0
  have hsuffix : vcf.all plainChar = true := rfl
  have hchars (c : UInt16) (hc : c ∈ PathState.entryDigits 8 entry.toNat 0 ++ vcf) :
      c ≠ 0 ∧ c ≠ slash :=
    (mem_append.1 hc).elim (entryDigits_chars hentry) (plain_of_all hsuffix)
  have htokens : tokenizePath true 0 4 (terminated (PathState.entryDigits 8 entry.toNat 0 ++ vcf)) =
      .ok (.ok, [PathState.entryDigits 8 entry.toNat 0 ++ vcf]) :=
    tokenizePath_single (by simp [vcf]) (fun h => (hchars 0 h).1 rfl)
      fun h => (hchars slash h).2 rfl
  refine ⟨terminated (PathState.entryDigits 8 entry.toNat 0 ++ vcf), ?_, ?_⟩
  · rw [PathState.buildVCardPathName, PathState.buildPbDirPathName,
      if_neg (by rw [hpb]; exact book.2)]
    simp [PathState.separate, terminated]
  · have hlen : (PathState.entryDigits 8 entry.toNat 0 ++ vcf).length =
        (PathState.entryDigits 8 entry.toNat 0).length + 4 := length_append
    have hstem : (PathState.entryDigits 8 entry.toNat 0 ++ vcf).length - vcf.length =
        (PathState.entryDigits 8 entry.toNat 0).length := by simp
    have hread : Server.parseEntry 0 (PathState.entryDigits 8 entry.toNat 0) = some entry := by
      rw [parseEntry_entryDigits hentry (by decide), UInt32.ofNat_toNat]
    have hfound : s.parseEntryName [PathState.entryDigits 8 entry.toNat 0 ++ vcf] =
        .ok (.ok, ⟨store.repository, book.1, some entry⟩) := by
      unfold Server.parseEntryName
      simp only [Server.getRepository, hrepoSet, if_true, hrepo,
        Server.parseEntryName.parsedPhonebook,
        hset, length_singleton, and_self, hbook, getLast?_singleton]
      rw [if_neg (by simp), if_neg (by rw [hlen]; simp [vcf]), hstem, drop_left,
        if_neg (by simp), if_neg (by omega), take_left, hread]
      rfl
    unfold Server.getObject
    rw [htokens, ok_bind]
    exact hfound

end Resolve

end Pbap
