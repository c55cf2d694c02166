import BtPlatform.Osi.Lines
import Mathlib.Data.List.Forall2
import Mathlib.Data.List.Infix

/-!
# Persisting one key

`config_file_append` writes the value of a key into the file. The line is found with the key as
a regular expression; the search of the standard library is a parameter, and gives `none` where
it throws.
-/

namespace Osi

open List

/-- `std::regex_search` of a pattern in a line. -/
abbrev Search := List Char → List Char → Option Bool

/-- The value that is written: that of the last section that has the key. -/
def appendValue (config : Config) (key : List Char) : Option (List Char) :=
  config.sections.foldl (fun value sec =>
    match Config.findEntry key sec.entries with
    | some entry => some entry.value
    | none => value) none

/-- The line with the value behind its first `=`, or with the value alone if it has none: then
`npos + 1` is 0. -/
def splice (line value : List Char) : List Char :=
  match line.dropWhile (· ≠ '=') with
  | [] => value
  | _ :: _ => line.takeWhile (· ≠ '=') ++ '=' :: value

/-- The loop over the lines, up to the first one in which the pattern is found. -/
def rewriteLines (search : Search) (key value : List Char) :
    List (List Char) → Option (List (List Char))
  | [] => some []
  | line :: lines =>
      match search key line with
      | none => none
      | some true => some (splice line value :: lines)
      | some false => (rewriteLines search key value lines).map (line :: ·)

/-- `config_file_append`, with the contents of the file before and after; `none` where the
value of a key that is not set is read, or the search throws. -/
def configFileAppend (search : Search) (key : List Char) (config : Config)
    (file : List Char) : Option (List Char) :=
  match appendValue config key with
  | none => none
  | some value => (rewriteLines search key value (getlines file)).map putlines

/-! ## What it is for -/

/-- The line is an assignment to the key, and nothing else. -/
def Assigns (key line : List Char) : Prop := ∃ value, reads line = [.assignment key value]

/-- The line stays as it is, or is an assignment to the key before and after. -/
def Follows (key line line' : List Char) : Prop :=
  line' = line ∨ Assigns key line ∧ Assigns key line'

/-- From one file to the other only the key changes, to this value. -/
structure OnlyKey (before after name key value : List Char) : Prop where
  value : (configNew after).getString name key = some value
  others : ∀ name' key', ¬(name' = name ∧ key' = key) →
    (configNew after).getString name' key' = (configNew before).getString name' key'
  lines : List.Forall₂ (Follows key) (getlines before) (getlines after)

/-- The value that is set for the key is persisted, and nothing else changes. -/
def Persists (search : Search) (config : Config) (file name key : List Char) : Prop :=
  ∀ value, config.getString name key = some value →
    ∃ after, configFileAppend search key config file = some after ∧
      OnlyKey file after name key value

/-! ## When it does it -/

/-- The section behind the items. -/
def sectionAfter (current : List Char) : List Item → List Char
  | [] => current
  | .header name :: items => sectionAfter name items
  | _ :: items => sectionAfter current items

/-- The last value that the items give to the key. -/
def lastValue (name key current : List Char) : List Item → Option (List Char)
  | [] => none
  | .skip :: items => lastValue name key current items
  | .header name' :: items => lastValue name key name' items
  | .assignment key' value :: items => (lastValue name key current items).or
      (if current = name ∧ key' = key then some value else none)

/-- The pattern is found in no line. -/
def Absent (search : Search) (key : List Char) (lines : List (List Char)) : Prop :=
  ∀ line ∈ lines, search key line = some false

/-- The first line in which the pattern is found, and the lines around it. -/
structure Found (search : Search) (key : List Char) (lines before : List (List Char))
    (line : List Char) (after : List (List Char)) : Prop where
  eq : lines = before ++ line :: after
  absent : Absent search key before
  found : search key line = some true

/-- The line stays the assignment to the key that it is. Either it is the last one in the
section of the key, and is read back with the value; or the file gives the value already, and
the line does not count or says the same as before. -/
structure Rewritable (file name key value taken : List Char) (before : List (List Char))
    (line : List Char) (after : List (List Char)) : Prop where
  newline : '\n' ∉ taken
  old : Assigns key line
  new : ∃ value', reads (splice line taken) = [.assignment key value'] ∧
    (sectionAfter defaultSection (before.flatMap reads) = name ∧
        lastValue name key name (after.flatMap reads) = none ∧ value' = value ∨
      (configNew file).getString name key = some value ∧
        (lastValue (sectionAfter defaultSection (before.flatMap reads)) key
            (sectionAfter defaultSection (before.flatMap reads)) (after.flatMap reads) ≠ none ∨
          reads line = [.assignment key value']))

/-- The value that is taken is the right one, and so is the line; or no line changes, and the
file gives the value already. -/
def Persistable (search : Search) (config : Config) (file name key : List Char) : Prop :=
  ∀ value, config.getString name key = some value →
    ∃ taken, appendValue config key = some taken ∧
      ((configNew file).getString name key = some value ∧ Absent search key (getlines file) ∨
        ∃ before line after, Found search key (getlines file) before line after ∧
          ((configNew file).getString name key = some value ∧ splice line taken = line ∨
            Rewritable file name key value taken before line after))

/-! ## Items -/

theorem lastValue_append (name key current : List Char) (items items' : List Item) :
    lastValue name key current (items ++ items') =
      (lastValue name key (sectionAfter current items) items').or
        (lastValue name key current items) := by
  induction items generalizing current with
  | nil => exact (Option.or_none).symm
  | cons i items ih =>
      cases i with
      | skip => exact ih current
      | header name' => exact ih name'
      | assignment key' value =>
          change (lastValue name key current (items ++ items')).or _ = _
          rw [ih, Option.or_assoc]
          rfl

/-- What is held after the items is the last value that they give. -/
theorem getString_scan (r : Reader) (items : List Item) (name key : List Char) :
    (r.scan items).config.getString name key =
      (lastValue name key r.current items).or (r.config.getString name key) := by
  induction items generalizing r with
  | nil => rfl
  | cons i items ih =>
      cases i with
      | skip => exact ih r
      | header name' => exact ih _
      | assignment key' value =>
          change ((r.read (.assignment key' value)).scan items).config.getString name key = _
          rw [ih]
          unfold Reader.read
          dsimp only
          rw [Config.getString_setString]
          change _ = ((lastValue name key r.current items).or _).or _
          rw [Option.or_assoc]
          congr 1
          by_cases h : name = r.current ∧ key = key'
          · rw [if_pos h, if_pos ⟨h.1.symm, h.2.symm⟩]
            rfl
          · rw [if_neg h, if_neg fun h' => h ⟨h'.1.symm, h'.2.symm⟩]
            rfl

theorem getString_configNew (file name key : List Char) :
    (configNew file).getString name key =
      lastValue name key defaultSection ((getlines file).flatMap reads) := by
  rw [configNew_eq, getString_scan]
  exact Option.or_none

/-- The part that an assignment has in what a file holds. -/
theorem getString_assignment {file line key value : List Char} {before after : List (List Char)}
    (hlines : getlines file = before ++ line :: after)
    (hline : reads line = [.assignment key value]) (name' key' : List Char) :
    (configNew file).getString name' key' =
      ((lastValue name' key' (sectionAfter defaultSection (before.flatMap reads))
          (after.flatMap reads)).or
        (if sectionAfter defaultSection (before.flatMap reads) = name' ∧ key = key'
          then some value else none)).or
        (lastValue name' key' defaultSection (before.flatMap reads)) := by
  rw [getString_configNew, hlines, flatMap_append, flatMap_cons, hline, lastValue_append]
  rfl

/-! ## Lines -/

theorem rewriteLines_of_absent {search : Search} {key value : List Char}
    {lines : List (List Char)} (h : Absent search key lines) :
    rewriteLines search key value lines = some lines := by
  induction lines with
  | nil => rfl
  | cons line lines ih =>
      unfold rewriteLines
      rw [h line mem_cons_self, ih fun line' hmem => h line' (mem_cons_of_mem line hmem)]
      rfl

theorem rewriteLines_of_found {search : Search} {key value line : List Char}
    {before after : List (List Char)} (habsent : Absent search key before)
    (hfound : search key line = some true) :
    rewriteLines search key value (before ++ line :: after) =
      some (before ++ splice line value :: after) := by
  induction before with
  | nil =>
      rw [nil_append]
      unfold rewriteLines
      rw [hfound]
      rfl
  | cons first before ih =>
      rw [cons_append]
      unfold rewriteLines
      rw [habsent first mem_cons_self,
        ih fun line' hmem => habsent line' (mem_cons_of_mem first hmem)]
      rfl

theorem rewriteLines_cases {search : Search} {key value : List Char}
    {lines lines' : List (List Char)} (h : rewriteLines search key value lines = some lines') :
    Absent search key lines ∨ ∃ before line after, Found search key lines before line after := by
  induction lines generalizing lines' with
  | nil => exact .inl fun _ hmem => absurd hmem not_mem_nil
  | cons line lines ih =>
      unfold rewriteLines at h
      cases hsearch : search key line with
      | none =>
          rw [hsearch] at h
          cases h
      | some found =>
          cases found with
          | true =>
              refine .inr ⟨[], line, lines, rfl, fun _ hmem => ?_, hsearch⟩
              exact absurd hmem not_mem_nil
          | false =>
              rw [hsearch] at h
              obtain ⟨rest, hrest, -⟩ := Option.map_eq_some_iff.1 h
              have hcons : ∀ before : List (List Char), Absent search key before →
                  Absent search key (line :: before) := by
                intro before habsent line' hmem
                rcases mem_cons.1 hmem with rfl | hmem
                · exact hsearch
                · exact habsent line' hmem
              rcases ih hrest with habsent | ⟨before, found, after, hfound⟩
              · exact .inl (hcons lines habsent)
              · exact .inr ⟨line :: before, found, after, congrArg _ hfound.eq,
                  hcons before hfound.absent, hfound.found⟩

/-- A newline inside a line makes one more line. -/
theorem length_lt_count {lines : List (List Char)} {line : List Char} (hmem : line ∈ lines)
    (hnewline : '\n' ∈ line) : lines.length < (putlines lines).count '\n' := by
  have hle : ∀ lines : List (List Char), lines.length ≤ (putlines lines).count '\n' := by
    intro lines
    induction lines with
    | nil => exact Nat.zero_le _
    | cons line lines ih =>
        unfold putlines at ih ⊢
        rw [flatMap_cons, count_append, count_append, count_singleton_self,
          length_cons]
        omega
  obtain ⟨before, after, rfl⟩ := append_of_mem hmem
  have hbefore := hle before
  have hafter := hle after
  have hline : 0 < line.count '\n' := count_pos_iff.2 hnewline
  unfold putlines at hbefore hafter ⊢
  rw [flatMap_append, flatMap_cons, count_append, count_append,
    count_append, count_singleton_self, length_append, length_cons]
  omega

theorem count_le_length_getlines (file : List Char) :
    file.count '\n' ≤ (getlines file).length := by
  induction file with
  | nil => exact Nat.zero_le _
  | cons ch rest ih =>
      by_cases hch : ch = '\n'
      · rw [hch, getlines_newline, count_cons_self, length_cons]
        omega
      · rw [getlines_char hch, count_cons_of_ne hch]
        refine ih.trans ?_
        cases getlines rest with
        | nil => exact Nat.zero_le _
        | cons line lines => exact le_rfl

theorem splice_newline {line value : List Char} (hline : '\n' ∉ line) (hvalue : '\n' ∉ value) :
    '\n' ∉ splice line value := by
  unfold splice
  split
  · exact hvalue
  · intro hmem
    rcases mem_append.1 hmem with hmem | hmem
    · exact hline ((takeWhile_sublist _).subset hmem)
    · rcases mem_cons.1 hmem with hmem | hmem
      · cases hmem
      · exact hvalue hmem

theorem newline_splice {line value : List Char} (hvalue : '\n' ∈ value) :
    '\n' ∈ splice line value := by
  unfold splice
  split
  · exact hvalue
  · exact mem_append_right _ (mem_cons_of_mem _ hvalue)

theorem forall₂_append {α : Type} {R : α → α → Prop} {before after : List α} {a a' : α}
    (hrefl : ∀ b, R b b) :
    List.Forall₂ R (before ++ a :: after) (before ++ a' :: after) ↔ R a a' := by
  induction before with
  | nil =>
      rw [nil_append, nil_append, forall₂_cons]
      exact and_iff_left (forall₂_same.2 fun b _ => hrefl b)
  | cons b before ih =>
      rw [cons_append, cons_append, forall₂_cons, ih]
      exact and_iff_right (hrefl b)

/-! ## The file with a line rewritten -/

section Rewritten

variable {file name key value taken line : List Char} {before after : List (List Char)}

/-- A file whose lines are written back holds what it held. -/
theorem onlyKey_same : OnlyKey file (putlines (getlines file)) name key value ↔
    (configNew file).getString name key = some value := by
  have hlines : getlines (putlines (getlines file)) = getlines file :=
    getlines_putlines (newline_notMem_getlines file)
  have hconfig : configNew (putlines (getlines file)) = configNew file := by
    rw [configNew_eq, hlines, ← configNew_eq]
  constructor
  · intro h
    exact hconfig ▸ h.value
  · intro h
    refine ⟨hconfig ▸ h, fun _ _ _ => hconfig ▸ rfl, ?_⟩
    rw [hlines]
    exact forall₂_same.2 fun _ _ => .inl rfl

theorem newline_notMem (hlines : getlines file = before ++ line :: after) :
    ∀ line' ∈ before ++ line :: after, '\n' ∉ line' :=
  hlines ▸ newline_notMem_getlines file

theorem getlines_rewritten (hlines : getlines file = before ++ line :: after)
    (htaken : '\n' ∉ taken) :
    getlines (putlines (before ++ splice line taken :: after)) =
      before ++ splice line taken :: after := by
  have hold := newline_notMem hlines
  refine getlines_putlines fun line' hmem => ?_
  rcases mem_append.1 hmem with hmem | hmem
  · exact hold line' (mem_append_left _ hmem)
  · rcases mem_cons.1 hmem with rfl | hmem
    · exact splice_newline (hold line (mem_append_right _ mem_cons_self)) htaken
    · exact hold line' (mem_append_right _ (mem_cons_of_mem _ hmem))

/-- If a line changes, then it is the assignment to the key before and after. -/
theorem lines_rewritten (hlines : getlines file = before ++ line :: after)
    (hchanged : splice line taken ≠ line) :
    List.Forall₂ (Follows key) (getlines file)
        (getlines (putlines (before ++ splice line taken :: after))) ↔
      '\n' ∉ taken ∧ Assigns key line ∧ Assigns key (splice line taken) := by
  by_cases htaken : '\n' ∈ taken
  · refine iff_of_false (fun hforall => ?_) fun h => h.1 htaken
    have hlength := hforall.length_eq
    have hmore := (length_lt_count (mem_append_right before
      (mem_cons_self : splice line taken ∈ _ :: after)) (newline_splice htaken)).trans_le
      (count_le_length_getlines _)
    rw [← hlength, hlines, length_append, length_append, length_cons,
      length_cons] at hmore
    omega
  · rw [getlines_rewritten hlines htaken, hlines,
      forall₂_append fun _ => (.inl rfl : Follows key _ _), and_iff_right htaken]
    exact or_iff_right hchanged

/-- The values of the rewritten file, where `sec` is the section of the line. -/
theorem values_rewritten {file' sec old new : List Char}
    (hlines : getlines file = before ++ line :: after)
    (hlines' : getlines file' = before ++ splice line taken :: after)
    (hold : reads line = [.assignment key old])
    (hnew : reads (splice line taken) = [.assignment key new])
    (hsec : sectionAfter defaultSection (before.flatMap reads) = sec) :
    ((configNew file').getString name key = some value ∧
      ∀ name' key', ¬(name' = name ∧ key' = key) →
        (configNew file').getString name' key' = (configNew file).getString name' key') ↔
      (sec = name ∧ lastValue name key name (after.flatMap reads) = none ∧ new = value) ∨
        (configNew file).getString name key = some value ∧
          (lastValue sec key sec (after.flatMap reads) ≠ none ∨ old = new) := by
  have hvalue := getString_assignment hlines hold
  have hvalue' := getString_assignment hlines' hnew
  rw [hsec] at hvalue hvalue'
  have hother : ∀ name' key', ¬(name' = sec ∧ key' = key) →
      (configNew file').getString name' key' = (configNew file).getString name' key' := by
    intro name' key' hne
    have hne' : ¬(sec = name' ∧ key = key') := fun h => hne ⟨h.1.symm, h.2.symm⟩
    rw [hvalue, hvalue', if_neg hne', if_neg hne']
  by_cases hlast : lastValue sec key sec (after.flatMap reads) = none
  · -- the line decides what the file holds for the key in its section
    have hheld : (configNew file).getString sec key = some old := by
      rw [hvalue, hlast, if_pos ⟨rfl, rfl⟩]
      rfl
    have hheld' : (configNew file').getString sec key = some new := by
      rw [hvalue', hlast, if_pos ⟨rfl, rfl⟩]
      rfl
    by_cases hname : sec = name
    · subst hname
      rw [hheld', hheld]
      constructor
      · rintro ⟨hnew, -⟩
        exact .inl ⟨rfl, hlast, Option.some.inj hnew⟩
      · rintro (⟨-, -, rfl⟩ | ⟨hgiven, hlater | rfl⟩)
        · exact ⟨rfl, hother⟩
        · exact absurd hlast hlater
        · exact ⟨hgiven, hother⟩
    · have hsame := hother name key fun h => hname h.1.symm
      constructor
      · rintro ⟨hnew, hothers⟩
        refine .inr ⟨hsame ▸ hnew, .inr ?_⟩
        have := hothers sec key fun h => hname h.1
        rw [hheld', hheld] at this
        exact (Option.some.inj this).symm
      · rintro (⟨h, -⟩ | ⟨hgiven, hlater | rfl⟩)
        · exact absurd h hname
        · exact absurd hlast hlater
        · refine ⟨hsame.trans hgiven, fun name' key' _ => ?_⟩
          rw [hvalue, hvalue']
  · -- a later line decides
    have hall : ∀ name' key',
        (configNew file').getString name' key' = (configNew file).getString name' key' := by
      intro name' key'
      by_cases h : name' = sec ∧ key' = key
      · obtain ⟨later, hlater⟩ := Option.ne_none_iff_exists'.1 hlast
        rw [h.1, h.2, hvalue, hvalue', hlater]
        rfl
      · exact hother name' key' h
    rw [hall]
    constructor
    · rintro ⟨hgiven, -⟩
      exact .inr ⟨hgiven, .inl hlast⟩
    · rintro (⟨rfl, hnone, -⟩ | ⟨hgiven, -⟩)
      · exact absurd hnone hlast
      · exact ⟨hgiven, fun name' key' _ => hall name' key'⟩

/-- A changed line persists the value if and only if it may be rewritten. -/
theorem onlyKey_rewritten (hlines : getlines file = before ++ line :: after)
    (hchanged : splice line taken ≠ line) :
    OnlyKey file (putlines (before ++ splice line taken :: after)) name key value ↔
      Rewritable file name key value taken before line after := by
  have hforall := @lines_rewritten file key taken line before after hlines hchanged
  constructor
  · rintro ⟨hvalue, hothers, hkept⟩
    obtain ⟨hnewline, ⟨old, hold⟩, ⟨new, hnew⟩⟩ := hforall.1 hkept
    refine ⟨hnewline, ⟨old, hold⟩, new, hnew, ?_⟩
    have hcounts := (values_rewritten hlines (getlines_rewritten hlines hnewline) hold hnew rfl).1
      ⟨hvalue, hothers⟩
    rw [hold]
    refine hcounts.imp id (And.imp_right (Or.imp_right ?_))
    rintro rfl
    rfl
  · rintro ⟨hnewline, ⟨old, hold⟩, new, hnew, hcounts⟩
    have hkept := hforall.2 ⟨hnewline, ⟨old, hold⟩, ⟨new, hnew⟩⟩
    have := (@values_rewritten file name key value taken line before after _ _ old new hlines
      (getlines_rewritten hlines hnewline) hold hnew rfl).2
      (hcounts.imp id (And.imp_right (Or.imp_right fun hsame => by
        rw [hold] at hsame
        exact (Item.assignment.inj (cons.inj hsame).1).2)))
    exact ⟨this.1, this.2, hkept⟩

/-- A line that may be rewritten but does not change has the value already. -/
theorem Rewritable.given (h : Rewritable file name key value taken before line after)
    (hlines : getlines file = before ++ line :: after) (hsame : splice line taken = line) :
    (configNew file).getString name key = some value := by
  obtain ⟨-, -, new, hnew, ⟨hsec, hlast, rfl⟩ | ⟨hgiven, -⟩⟩ := h
  · rw [hsame] at hnew
    rw [getString_assignment hlines hnew, hsec, hlast, if_pos ⟨rfl, rfl⟩]
    rfl
  · exact hgiven

end Rewritten

theorem configFileAppend_eq_some {search : Search} {config : Config}
    {file key after : List Char} :
    configFileAppend search key config file = some after ↔
      ∃ taken, appendValue config key = some taken ∧
        ∃ lines, rewriteLines search key taken (getlines file) = some lines ∧
          putlines lines = after := by
  unfold configFileAppend
  cases appendValue config key with
  | none => exact iff_of_false nofun (by rintro ⟨_, h, -⟩; cases h)
  | some taken =>
      dsimp only
      rw [Option.map_eq_some_iff]
      constructor
      · exact fun h => ⟨taken, rfl, h⟩
      · rintro ⟨taken', htaken, h⟩
        cases htaken
        exact h

/-- When a key is persisted. -/
theorem persists_iff (search : Search) (config : Config) (file name key : List Char) :
    Persists search config file name key ↔ Persistable search config file name key := by
  refine forall_congr' fun value => imp_congr_right fun _ => ?_
  constructor
  · rintro ⟨after, happend, honly⟩
    obtain ⟨taken, htaken, lines, hrewrite, rfl⟩ := configFileAppend_eq_some.1 happend
    refine ⟨taken, htaken, ?_⟩
    rcases rewriteLines_cases hrewrite with habsent | ⟨before, line, after, hfound⟩
    · rw [rewriteLines_of_absent habsent] at hrewrite
      obtain rfl := Option.some.inj hrewrite
      exact .inl ⟨onlyKey_same.1 honly, habsent⟩
    · refine .inr ⟨before, line, after, hfound, ?_⟩
      rw [hfound.eq, rewriteLines_of_found hfound.absent hfound.found] at hrewrite
      obtain rfl := Option.some.inj hrewrite
      by_cases hsame : splice line taken = line
      · rw [hsame, ← hfound.eq] at honly
        exact .inl ⟨onlyKey_same.1 honly, hsame⟩
      · exact .inr ((onlyKey_rewritten hfound.eq hsame).1 honly)
  · rintro ⟨taken, htaken, h⟩
    rcases h with ⟨hgiven, habsent⟩ | ⟨before, line, after, hfound, h⟩
    · have hrewrite := @rewriteLines_of_absent search key taken _ habsent
      exact ⟨_, configFileAppend_eq_some.2 ⟨taken, htaken, _, hrewrite, rfl⟩,
        onlyKey_same.2 hgiven⟩
    · have hrewrite := @rewriteLines_of_found search key taken line before after hfound.absent
        hfound.found
      rw [← hfound.eq] at hrewrite
      refine ⟨_, configFileAppend_eq_some.2 ⟨taken, htaken, _, hrewrite, rfl⟩, ?_⟩
      by_cases hsame : splice line taken = line
      · have hgiven : (configNew file).getString name key = some value :=
          h.elim And.left fun hrewritable => hrewritable.given hfound.eq hsame
        rw [hsame, ← hfound.eq]
        exact onlyKey_same.2 hgiven
      · have hrewritable := h.resolve_left fun hgiven => hsame hgiven.2
        exact (onlyKey_rewritten hfound.eq hsame).2 hrewritable

/-! ## A key in a comment -/

/-- What the library does with a pattern without special characters. -/
def literalSearch : Search := fun key line => some (decide (key <:+: line))

/-- The comment in front of the assignment is overwritten, and the value is not persisted. -/
theorem comment_overwritten :
    ¬∀ (search : Search) (config : Config) (file name key : List Char),
      Persists search config file name key := by
  intro hall
  obtain ⟨after, happend, honly⟩ := hall literalSearch
    (Config.newEmpty.setString defaultSection ['k'] ['2'])
    ['#', 'k', '\n', 'k', '=', '1', '\n'] defaultSection ['k'] ['2'] (by decide)
  have hafter : configFileAppend literalSearch ['k']
      (Config.newEmpty.setString defaultSection ['k'] ['2'])
      ['#', 'k', '\n', 'k', '=', '1', '\n'] = some ['2', '\n', 'k', '=', '1', '\n'] := by decide
  obtain rfl := Option.some.inj (hafter.symm.trans happend)
  have hvalue := honly.value
  revert hvalue
  decide

end Osi
