import Mathlib.Data.List.Induction
import Mathlib.Tactic.Common

/-!
# Logs

A log grows at its end. `AtEach P log` says that `P` holds of every entry with what
precedes it.
-/

namespace Program

open List

variable {α : Type} {P : List α → α → Prop} {log : List α} {a : α}

/-- Every entry stands well with those before it. -/
def AtEach (P : List α → α → Prop) (log : List α) : Prop :=
  ∀ before a after, log = before ++ a :: after → P before a

theorem AtEach.nil : AtEach P [] := by
  intro before a after h
  cases before with
  | nil => cases h
  | cons => cases h

/-- What comes later does not matter. -/
theorem AtEach.of_append {later : List α} (h : AtEach P (log ++ later)) : AtEach P log := by
  intro before a after hlog
  refine h before a (after ++ later) ?_
  rw [hlog, append_assoc]
  rfl

theorem atEach_append_singleton : AtEach P (log ++ [a]) ↔ AtEach P log ∧ P log a := by
  constructor
  · intro h
    exact ⟨h.of_append, h log a [] rfl⟩
  · rintro ⟨h, ha⟩ before b after hlog
    obtain rfl | ⟨after', c, rfl⟩ := eq_nil_or_concat after
    · obtain ⟨rfl, hb⟩ := append_inj' hlog rfl
      obtain rfl := singleton_inj.1 hb
      exact ha
    · have hlog' : log ++ [a] = (before ++ b :: after') ++ [c] := by
        rw [hlog, concat_eq_append, append_assoc]
        rfl
      exact h before b after' (append_inj' hlog' rfl).1

theorem AtEach.append_singleton (h : AtEach P log) (ha : P log a) : AtEach P (log ++ [a]) :=
  atEach_append_singleton.2 ⟨h, ha⟩

/-- The entries one by one. -/
theorem atEach_iff_get : AtEach P log ↔ ∀ i : Fin log.length, P (log.take i) log[i] := by
  constructor
  · intro h i
    refine h (log.take i) log[i] (log.drop (i + 1)) ?_
    rw [Fin.getElem_fin, ← drop_eq_getElem_cons, take_append_drop]
  · rintro h before a after rfl
    have hlt : before.length < (before ++ a :: after).length := by
      rw [length_append, length_cons]
      omega
    have hentry := h ⟨before.length, hlt⟩
    have hget : (before ++ a :: after)[before.length] = a := getElem_of_append rfl rfl
    rwa [take_left, Fin.getElem_fin, hget] at hentry

/-! ## What holds since an entry -/

section Since

variable {start stop : α → Prop}

/-- There is an entry of the one kind after which there is none of the other kind. -/
def Since (start stop : α → Prop) (log : List α) : Prop :=
  ∃ before a after, log = before ++ a :: after ∧ start a ∧ ∀ b ∈ after, ¬ stop b

theorem Since.exists_mem (h : Since start stop log) : ∃ a ∈ log, start a := by
  obtain ⟨before, a, after, rfl, ha, -⟩ := h
  exact ⟨a, mem_append_right before mem_cons_self, ha⟩

theorem since_append_singleton :
    Since start stop (log ++ [a]) ↔ start a ∨ (¬ stop a ∧ Since start stop log) := by
  constructor
  · rintro ⟨before, b, after, hlog, hb, hafter⟩
    obtain rfl | ⟨after', c, rfl⟩ := eq_nil_or_concat after
    · obtain ⟨-, hab⟩ := append_inj' hlog rfl
      obtain rfl := singleton_inj.1 hab
      exact .inl hb
    · have hlog' : log ++ [a] = (before ++ b :: after') ++ [c] := by
        rw [hlog, concat_eq_append, append_assoc]
        rfl
      obtain ⟨hbefore, hac⟩ := append_inj' hlog' rfl
      obtain rfl := singleton_inj.1 hac
      rw [concat_eq_append] at hafter
      refine .inr ⟨hafter a (mem_append_right after' (mem_singleton_self a)), before, b,
        after', hbefore, hb, fun d hd => hafter d (mem_append_left [a] hd)⟩
  · rintro (ha | ⟨hstop, before, b, after, rfl, hb, hafter⟩)
    · exact ⟨log, a, [], rfl, ha, nofun⟩
    · refine ⟨before, b, after ++ [a], ?_, hb, fun c hc => ?_⟩
      · rw [append_assoc]
        rfl
      · obtain hc | hc := mem_append.1 hc
        · exact hafter c hc
        · rw [mem_singleton.1 hc]
          exact hstop

/-- An entry of neither kind changes nothing. -/
theorem since_append_other (hstart : ¬ start a) (hstop : ¬ stop a) :
    Since start stop (log ++ [a]) ↔ Since start stop log := by
  rw [since_append_singleton]
  exact ⟨fun h => h.elim (fun ha => absurd ha hstart) And.right, fun h => .inr ⟨hstop, h⟩⟩

end Since

/-! ## Runs over a list of inputs -/

section Runs

variable {σ ι : Type} {f : σ → ι → σ} {s₀ : σ} {E : σ → Prop} {C : σ → ι → Prop}

/-- A property that one input keeps exactly under a condition holds all along a run exactly
if every input of the run meets the condition. -/
theorem forall_prefix_iff_atEach (hstart : E s₀)
    (hstep : ∀ (before : List ι) i, E (before.foldl f s₀) →
      (E (f (before.foldl f s₀) i) ↔ C (before.foldl f s₀) i)) (inputs : List ι) :
    (∀ before : List ι, before <+: inputs → E (before.foldl f s₀)) ↔
      AtEach (fun (before : List ι) i => C (before.foldl f s₀) i) inputs := by
  induction inputs using List.reverseRecOn with
  | nil =>
      constructor
      · exact fun _ => .nil
      · intro _ before hbefore
        obtain rfl := prefix_nil.1 hbefore
        exact hstart
  | append_singleton inputs i ih =>
      rw [atEach_append_singleton, ← ih]
      have hnext : (inputs ++ [i]).foldl f s₀ = f (inputs.foldl f s₀) i := by
        rw [foldl_append]
        rfl
      constructor
      · intro h
        have hbefore : ∀ before : List ι, before <+: inputs → E (before.foldl f s₀) :=
          fun before hp => h before (hp.trans (prefix_append inputs [i]))
        refine ⟨hbefore, (hstep inputs i (hbefore inputs prefix_rfl)).1 ?_⟩
        rw [← hnext]
        exact h _ prefix_rfl
      · rintro ⟨hbefore, hlast⟩ before hp
        rcases prefix_concat_iff.1 hp with rfl | hp
        · rw [hnext]
          exact (hstep inputs i (hbefore inputs prefix_rfl)).2 hlast
        · exact hbefore before hp

end Runs

instance [∀ before a, Decidable (P before a)] : Decidable (AtEach P log) :=
  decidable_of_iff _ atEach_iff_get.symm

end Program
