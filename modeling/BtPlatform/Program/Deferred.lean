import BtPlatform.Program.Prog
import Mathlib.Data.List.Induction
import Mathlib.Tactic.Common

/-!
# Functions that wait for an object

A machine has an object that can go, and functions that wait to be run on it. If a machine
without the object neither gets it back nor makes a function wait, then no function is ever run
on an object that is gone, exactly if none waits when it goes.
-/

namespace Program.Prog

open List

variable {σ ε ι : Type} {step : ι → Prog σ ε Unit} {alive waiting : σ → Bool}
  {inputs : List ι} {s : σ}

/-- The state is one that the run passes. -/
def Passes (step : ι → Prog σ ε Unit) (inputs : List ι) (s t : σ) : Prop :=
  ∃ before after, inputs = before ++ after ∧ Ends (perform step before) s () t

/-- Whatever waits in a state that the run passes, the object is there. -/
def NeverLate (step : ι → Prog σ ε Unit) (alive waiting : σ → Bool) (inputs : List ι)
    (s : σ) : Prop :=
  ∀ t, Passes step inputs s t → waiting t = true → alive t = true

/-- Nothing waits when the object goes. -/
def GoesAlone (step : ι → Prog σ ε Unit) (alive waiting : σ → Bool) (inputs : List ι)
    (s : σ) : Prop :=
  ∀ before input after t t', inputs = before ++ input :: after →
    Ends (perform step before) s () t → Ends (step input) t () t' →
    alive t = true → alive t' = false → waiting t' = false

/-- Without the object nothing happens that matters to it. -/
def Inert (step : ι → Prog σ ε Unit) (alive waiting : σ → Bool) : Prop :=
  ∀ input t t', Ends (step input) t () t' → alive t = false →
    alive t' = false ∧ (waiting t' = true → waiting t = true)

theorem perform_concat {before : List ι} {input : ι} {t : σ} :
    Ends (perform step (before ++ [input])) s () t ↔
      ∃ t', Ends (perform step before) s () t' ∧ Ends (step input) t' () t := by
  rw [perform_append]
  constructor
  · rintro ⟨t', hbefore, hlast⟩
    obtain ⟨_, hstep, -⟩ := ends_bind_return.1 hlast
    exact ⟨t', hbefore, hstep⟩
  · rintro ⟨t', hbefore, hstep⟩
    exact ⟨t', hbefore, ends_bind.2 ⟨(), t, hstep, ends_pure.2 ⟨rfl, rfl⟩⟩⟩

theorem neverLate_iff (hinert : Inert step alive waiting) (hstart : alive s = true) :
    NeverLate step alive waiting inputs s ↔ GoesAlone step alive waiting inputs s := by
  constructor
  · intro hnever before input after t t' hinputs hbefore hstep _ hgone
    have hpasses : Passes step inputs s t' :=
      ⟨before ++ [input], after, by rw [hinputs, append_assoc]; rfl,
        perform_concat.2 ⟨t, hbefore, hstep⟩⟩
    cases hwaiting : waiting t' with
    | false => rfl
    | true =>
        rw [hnever t' hpasses hwaiting] at hgone
        cases hgone
  · rintro halone t ⟨before, after, hinputs, hbefore⟩
    induction before using reverseRecOn generalizing after t with
    | nil =>
        obtain ⟨-, rfl⟩ := ends_pure.1 hbefore
        exact fun _ => hstart
    | append_singleton before input ih =>
        obtain ⟨t', hbefore', hstep⟩ := perform_concat.1 hbefore
        intro hwaiting
        have hsplit : inputs = before ++ input :: after := by
          rw [hinputs, append_assoc]
          rfl
        cases halive : alive t with
        | true => rfl
        | false =>
            cases halive' : alive t' with
            | true =>
                have hnone := halone before input after t' t hsplit hbefore' hstep halive' halive
                rw [hnone] at hwaiting
                cases hwaiting
            | false =>
                have hwaiting' := (hinert input t' t hstep halive').2 hwaiting
                rw [ih t' (input :: after) hsplit hbefore' hwaiting'] at halive'
                cases halive'

end Program.Prog
