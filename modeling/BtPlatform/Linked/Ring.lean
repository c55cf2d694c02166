import Mathlib.Data.List.Nodup
import Mathlib.Logic.Basic

/-!
# Circular doubly linked lists

The link fields of all nodes are two functions on addresses. In a ring they lead from a
head through its elements and back to the head, in both directions.
-/

namespace Linked

open List Function

/-- The link fields of all nodes. -/
structure Links (α : Type) where
  next : α → α
  prev : α → α

namespace Links

variable {α : Type} [DecidableEq α]

/-- A new element between two others. -/
def insert (l : Links α) (new prev next : α) : Links α where
  next := update (update l.next prev new) new next
  prev := update (update l.prev new prev) next new

/-- The neighbours of an element linked to each other. -/
def unlink (l : Links α) (elem : α) : Links α where
  next := update l.next (l.prev elem) (l.next elem)
  prev := update l.prev (l.next elem) (l.prev elem)

/-- The elements from a position up to the head, if there are less of them than `fuel`. -/
def walk (l : Links α) (head : α) : Nat → α → Option (List α)
  | 0, _ => none
  | fuel + 1, pos =>
      if pos = head then some [] else (l.walk head fuel (l.next pos)).map (pos :: ·)

/-- The same nodes read backwards. -/
def flip (l : Links α) : Links α := ⟨l.prev, l.next⟩

end Links

variable {α : Type}

theorem map_update_of_notMem {β : Type} [DecidableEq α] {f : α → β} {a : α} {b : β} {xs : List α}
    (h : a ∉ xs) :
    xs.map (update f a b) = xs.map f := by
  apply map_congr_left
  intro x hx
  refine update_of_ne ?_ _ _
  rintro rfl
  exact h hx

/-- The links lead from the head through the elements and back. -/
structure Ring (l : Links α) (head : α) (xs : List α) : Prop where
  nodup : (head :: xs).Nodup
  next : (head :: xs).map l.next = xs ++ [head]
  prev : (xs ++ [head]).map l.prev = head :: xs

namespace Ring

variable {l : Links α} {head new elem : α} {xs us vs : List α}

theorem empty (head : α) : Ring (⟨fun a => a, fun a => a⟩ : Links α) head [] where
  nodup := nodup_singleton head
  next := rfl
  prev := rfl

theorem flip (h : Ring l head xs) : Ring l.flip head xs.reverse where
  nodup := by simpa using h.nodup
  next := by simpa [Links.flip] using congrArg reverse h.prev
  prev := by simpa [Links.flip] using congrArg reverse h.next

theorem next_head (h : Ring l head (elem :: xs)) : l.next head = elem := by
  have hnext := h.next
  rw [map_cons, cons_append, cons.injEq] at hnext
  exact hnext.1

theorem next_head_nil (h : Ring l head []) : l.next head = head := by
  have hnext := h.next
  rw [map_cons, nil_append, cons.injEq] at hnext
  exact hnext.1

theorem prev_mem (h : Ring l head xs) : l.prev head ∈ head :: xs := by
  rw [← h.prev]
  exact mem_map_of_mem (mem_append_right _ (mem_singleton_self head))

variable [DecidableEq α]

/-- A new element behind the head. -/
theorem insert_front (h : Ring l head xs) (hnew : new ∉ head :: xs) :
    Ring (l.insert new head (l.next head)) head (new :: xs) := by
  obtain ⟨hhead, hxs⟩ := not_or.1 (fun hor => hnew (mem_cons.2 hor))
  obtain ⟨hfront, hnodup⟩ := nodup_cons.1 h.nodup
  have hcycle : xs ++ [head] = l.next head :: xs.map l.next := h.next.symm
  have hnewCycle : new ∉ xs ++ [head] := by simp [hhead, hxs]
  have hnodupCycle : (xs ++ [head]).Nodup :=
    hnodup.append (nodup_singleton head) (by simpa using hfront)
  rw [hcycle] at hnewCycle hnodupCycle
  obtain ⟨hnext, hrest⟩ := not_or.1 (fun hor => hnewCycle (mem_cons.2 hor))
  have hprev := h.prev
  rw [hcycle, map_cons, cons.injEq] at hprev
  refine ⟨nodup_cons.2 ⟨?_, nodup_cons.2 ⟨hxs, hnodup⟩⟩, ?_, ?_⟩
  · rintro (_ | ⟨_, hmem⟩)
    · exact hhead rfl
    · exact hfront hmem
  · have hmap : xs.map (l.insert new head (l.next head)).next = xs.map l.next := by
      rw [Links.insert, map_update_of_notMem hxs, map_update_of_notMem hfront]
    rw [map_cons, map_cons, hmap, cons_append, hcycle, Links.insert]
    simp [update_of_ne (Ne.symm hhead)]
  · have hmap : (xs.map l.next).map (l.insert new head (l.next head)).prev = xs := by
      rw [Links.insert, map_update_of_notMem (nodup_cons.1 hnodupCycle).1,
        map_update_of_notMem hrest]
      exact hprev.2
    rw [cons_append, hcycle, map_cons, map_cons, hmap, Links.insert]
    simp [update_of_ne hnext]

/-- A new element before the head. -/
theorem insert_back (h : Ring l head xs) (hnew : new ∉ head :: xs) :
    Ring (l.insert new (l.prev head) head) head (xs ++ [new]) := by
  have hne : l.prev head ≠ new := fun heq => hnew (heq ▸ h.prev_mem)
  have hhead : head ≠ new := fun heq => hnew (heq ▸ mem_cons_self)
  have hfront := (h.flip.insert_front (show new ∉ head :: xs.reverse by simpa using hnew)).flip
  have hlinks : (l.flip.insert new head (l.flip.next head)).flip =
      l.insert new (l.prev head) head := by
    unfold Links.insert Links.flip
    congr 1
    · exact update_comm hne.symm _ _ _
    · exact update_comm hhead _ _ _
  rw [hlinks, reverse_cons, reverse_reverse] at hfront
  exact hfront

theorem next_unlink (h : Ring l head (us ++ elem :: vs)) :
    (head :: (us ++ vs)).map (l.unlink elem).next = us ++ vs ++ [head] ∧
      l.next (l.prev elem) = elem := by
  have hnext := h.next
  have hprev := h.prev
  rw [show head :: (us ++ elem :: vs) = (head :: us) ++ elem :: vs from rfl, map_append,
    show us ++ elem :: vs ++ [head] = (us ++ [elem]) ++ (vs ++ [head]) by simp] at hnext
  rw [show us ++ elem :: vs ++ [head] = (us ++ [elem]) ++ (vs ++ [head]) by simp,
    map_append, show head :: (us ++ elem :: vs) = (head :: us) ++ elem :: vs from rfl] at hprev
  obtain ⟨hbefore, hafter⟩ := append_inj hnext (by simp)
  obtain ⟨hbefore', -⟩ := append_inj hprev (by simp)
  -- the predecessor of the element, and its successor
  have hlast : head :: us = (us.map l.prev) ++ [l.prev elem] := by
    rw [← hbefore', map_append, map_singleton]
  have hfirst : vs ++ [head] = l.next elem :: vs.map l.next := by rw [← hafter, map_cons]
  rw [hlast, map_append, map_singleton] at hbefore
  obtain ⟨hmap, hlink⟩ := append_inj hbefore (by simp)
  have hnodup : ((us.map l.prev ++ [l.prev elem]) ++ elem :: vs).Nodup := hlast ▸ h.nodup
  obtain ⟨hnodup₁, -, hdisjoint⟩ := nodup_append.1 hnodup
  obtain ⟨-, -, hdisjoint₁⟩ := nodup_append.1 hnodup₁
  have hus : l.prev elem ∉ us.map l.prev := fun hmem =>
    hdisjoint₁ _ hmem _ (mem_singleton_self _) rfl
  have hvs : l.prev elem ∉ vs := fun hmem =>
    hdisjoint _ (mem_append_right _ (mem_singleton_self _)) _
      (mem_cons_of_mem _ hmem) rfl
  constructor
  · have hself : (l.unlink elem).next (l.prev elem) = l.next elem := update_self _ _ _
    rw [show head :: (us ++ vs) = (head :: us) ++ vs from rfl, hlast, map_append,
      map_append, map_singleton, hself, Links.unlink, map_update_of_notMem hus,
      map_update_of_notMem hvs, hmap, append_assoc, append_assoc, hfirst]
    rfl
  · exact singleton_inj.1 hlink

/-- An element is taken out. -/
theorem unlink (h : Ring l head (us ++ elem :: vs)) : Ring (l.unlink elem) head (us ++ vs) := by
  have hflip := h.flip
  rw [reverse_append, reverse_cons, append_assoc, singleton_append] at hflip
  refine ⟨?_, h.next_unlink.1, ?_⟩
  · exact h.nodup.sublist (((sublist_cons_self elem vs).append_left us).cons_cons head)
  · simpa [Links.unlink, Links.flip] using congrArg reverse hflip.next_unlink.1

/-- The neighbours of an element are linked to it. -/
theorem linked (h : Ring l head (us ++ elem :: vs)) :
    l.next (l.prev elem) = elem ∧ l.prev (l.next elem) = elem := by
  have hflip := h.flip
  rw [reverse_append, reverse_cons, append_assoc, singleton_append] at hflip
  exact ⟨h.next_unlink.2, hflip.next_unlink.2⟩

theorem walk_next {p : α} {fuel : Nat} (hnext : (p :: xs).map l.next = xs ++ [head])
    (hhead : head ∉ xs) (hfuel : xs.length < fuel) : l.walk head fuel (l.next p) = some xs := by
  induction xs generalizing p fuel with
  | nil =>
      obtain ⟨fuel, rfl⟩ := Nat.exists_eq_succ_of_ne_zero (Nat.ne_zero_of_lt hfuel)
      rw [Links.walk, if_pos (singleton_inj.1 hnext)]
  | cons x xs ih =>
      obtain ⟨fuel, rfl⟩ := Nat.exists_eq_succ_of_ne_zero (Nat.ne_zero_of_lt hfuel)
      rw [map_cons, cons_append, cons.injEq] at hnext
      obtain ⟨hne, hhead⟩ := not_or.1 (fun hor => hhead (mem_cons.2 hor))
      rw [hnext.1, Links.walk, if_neg (Ne.symm hne),
        ih hnext.2 hhead (Nat.lt_of_succ_lt_succ hfuel), Option.map_some]

/-- The walk over a ring finds its elements. -/
theorem walk (h : Ring l head xs) {fuel : Nat} (hfuel : xs.length < fuel) :
    l.walk head fuel (l.next head) = some xs :=
  walk_next h.next (nodup_cons.1 h.nodup).1 hfuel

end Ring

end Linked
