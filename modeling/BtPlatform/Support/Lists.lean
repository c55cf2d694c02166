import Mathlib.Data.List.Nodup

/-!
# Searches in lists

What `find?` finds and `eraseP` erases where only one element qualifies.
-/

namespace Support

open List

variable {α : Type} {l : List α} {p q : α → Bool} {x : α}

/-- A search finds the only element it may find. -/
theorem find?_of_unique {l : List α} {p : α → Bool} {a : α} (hmem : a ∈ l) (hp : p a = true)
    (hunique : ∀ b ∈ l, p b = true → b = a) : l.find? p = some a := by
  obtain ⟨b, hb⟩ := Option.isSome_iff_exists.1 (find?_isSome.2 ⟨a, hmem, hp⟩)
  rw [hb, hunique b (mem_of_find?_eq_some hb) (find?_some hb)]

/-- From behind the search finds the same, if there is only one element to find. -/
theorem find?_reverse_of_unique
    (hunique : ∀ x ∈ l, ∀ y ∈ l, p x = true → p y = true → x = y) :
    l.reverse.find? p = l.find? p := by
  cases hfind : l.find? p with
  | none =>
      rw [find?_eq_none] at hfind ⊢
      exact fun x hx => hfind x (mem_reverse.1 hx)
  | some x =>
      have hx := mem_of_find?_eq_some hfind
      apply find?_of_unique (mem_reverse.2 hx) (find?_some hfind)
      exact fun y hy hp => hunique y (mem_reverse.1 hy) x hx hp (find?_some hfind)

/-- What is the same for all elements does not depend on the one that is found. -/
theorem map_find?_of_const {β : Type} {f : α → β} {v : β}
    (h : ∀ a ∈ l, f a = v) : (l.find? p).map f = if l.any p then some v else none := by
  cases hfind : l.find? p with
  | none =>
      have hany : l.any p = false := any_eq_false.2 (find?_eq_none.1 hfind)
      rw [hany]
      rfl
  | some a =>
      have hmem := mem_of_find?_eq_some hfind
      rw [any_eq_true.2 ⟨a, hmem, find?_some hfind⟩, if_pos rfl,
        Option.map_some, h a hmem]

/-- Erasing the first element of a kind is filtering, if it is the only one to go. -/
theorem eraseP_eq_filter (hnodup : l.Nodup) (hfind : l.find? p = some x)
    (hq : ∀ y ∈ l, q y = false ↔ y = x) : l.eraseP p = l.filter q := by
  induction l with
  | nil => cases hfind
  | cons y l ih =>
      obtain ⟨hy, hnodup⟩ := nodup_cons.1 hnodup
      cases hp : p y with
      | true =>
          rw [find?_cons_of_pos hp] at hfind
          obtain rfl := Option.some.inj hfind
          have hgone : q y = false := (hq y mem_cons_self).2 rfl
          rw [eraseP_cons_of_pos hp, filter_cons_of_neg (by rw [hgone]; nofun)]
          refine (filter_eq_self.2 fun z hz => ?_).symm
          by_contra hfalse
          have := (hq z (mem_cons_of_mem y hz)).1 (eq_false_of_ne_true hfalse)
          exact hy (this ▸ hz)
      | false =>
          rw [find?_cons_of_neg (by rw [hp]; nofun)] at hfind
          have hstays : q y = true := by
            by_contra hfalse
            have := (hq y mem_cons_self).1 (eq_false_of_ne_true hfalse)
            exact hy (this ▸ mem_of_find?_eq_some hfind)
          rw [eraseP_cons_of_neg (by rw [hp]; nofun), filter_cons_of_pos hstays,
            ih hnodup hfind fun z hz => hq z (mem_cons_of_mem y hz)]

theorem mem_eraseP_of_nodup (hnodup : l.Nodup) (hfind : l.find? p = some x) (y : α) :
    y ∈ l.eraseP p ↔ y ∈ l ∧ y ≠ x := by
  classical
  rw [eraseP_eq_filter hnodup hfind fun (z : α) _ =>
    (decide_eq_false_iff_not.trans not_not : decide (z ≠ x) = false ↔ z = x), mem_filter,
    decide_eq_true_iff]

/-- Replacing the first element of a kind is replacing all of them, if a key tells them apart. -/
theorem replaceF_eq_map {κ : Type} {key : α → κ} {f : α → α} (hnodup : (l.map key).Nodup)
    (hsame : ∀ x ∈ l, ∀ y ∈ l, p x = true → p y = true → key x = key y) :
    l.replaceF (fun x => if p x then some (f x) else none) =
      l.map fun x => if p x then f x else x := by
  induction l with
  | nil => rfl
  | cons x l ih =>
      rw [map_cons, nodup_cons] at hnodup
      cases hp : p x with
      | true =>
          have hrest : l.map (fun y => if p y then f y else y) = l := by
            conv_rhs => rw [← map_id l]
            refine map_congr_left fun y hy => if_neg fun hpy => ?_
            have hkey := hsame x mem_cons_self y (mem_cons_of_mem x hy) hp hpy
            exact hnodup.1 (hkey ▸ mem_map_of_mem hy)
          rw [map_cons, hrest, replaceF, hp]
          rfl
      | false =>
          have hrest := ih hnodup.2 fun y hy z hz =>
            hsame y (mem_cons_of_mem x hy) z (mem_cons_of_mem x hz)
          rw [map_cons, ← hrest, replaceF, hp]
          rfl

end Support
