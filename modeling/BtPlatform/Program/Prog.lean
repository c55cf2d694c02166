import Mathlib.Order.Defs.Unbundled

/-!
# Programs with a state and a fault

A program reads and changes a state and either ends with a value or stops at a
fault. Reasoning is about runs that end: `Ends m s a s'` says that `m`, started
in `s`, ends with the value `a` in the state `s'`. The rules take a run of a
compound program apart; `Within R m` says that every run of `m` relates its two
states by `R`, which composes as soon as `R` is a preorder.
-/

namespace Program

/-- A program over the state `σ` with faults `ε`. -/
def Prog (σ ε α : Type) : Type := σ → Except ε (α × σ)

namespace Prog

variable {σ τ ε α β : Type}

/-- Sequential composition. -/
def andThen (m : Prog σ ε α) (f : α → Prog σ ε β) : Prog σ ε β := fun s =>
  match m s with
  | .ok (a, s') => f a s'
  | .error e => .error e

instance : Monad (Prog σ ε) where
  pure a := fun s => .ok (a, s)
  bind := andThen

/-- The state, seen through `f`. -/
def view (f : σ → α) : Prog σ ε α := fun s => .ok (f s, s)

/-- Change the state. -/
def update (f : σ → σ) : Prog σ ε Unit := fun s => .ok ((), f s)

/-- Stop at a fault. -/
def fault (e : ε) : Prog σ ε α := fun _ => .error e

/-- A computation that does not look at the state. -/
def lift (x : Except ε α) : Prog σ ε α := fun s =>
  match x with
  | .ok a => .ok (a, s)
  | .error e => .error e

/-- Do something only under a condition. -/
def only (c : Prop) [Decidable c] (m : Prog σ ε Unit) : Prog σ ε Unit :=
  if c then m else pure ()

/-- One program or the other. -/
def branch (c : Prop) [Decidable c] (m₁ m₂ : Prog σ ε α) : Prog σ ε α := if c then m₁ else m₂

/-- A program that works on a part of the state. -/
def zoom (part : σ → τ) (put : τ → σ → σ) (m : Prog τ ε α) : Prog σ ε α := fun s =>
  match m (part s) with
  | .ok (a, t) => .ok (a, put t s)
  | .error e => .error e

/-- `m`, started in `s`, ends with `a` in `s'`. -/
def Ends (m : Prog σ ε α) (s : σ) (a : α) (s' : σ) : Prop := m s = .ok (a, s')

/-! ## Equations -/

section Equations

variable {γ : Type}

theorem bind_bind (m : Prog σ ε α) (f : α → Prog σ ε β) (g : β → Prog σ ε γ) :
    (m >>= f) >>= g = m >>= fun a => f a >>= g := by
  funext s
  change andThen (andThen m f) g s = andThen m (fun a => andThen (f a) g) s
  unfold andThen
  cases m s with
  | ok r => rfl
  | error e => rfl

theorem pure_then (a : α) (f : α → Prog σ ε β) : (pure a : Prog σ ε α) >>= f = f a := rfl

theorem ite_then (c : Prop) [Decidable c] (m₁ m₂ : Prog σ ε α) (f : α → Prog σ ε β) :
    (if c then m₁ else m₂) >>= f = if c then m₁ >>= f else m₂ >>= f := by
  split
  · rfl
  · rfl

theorem lift_ok_then (a : α) (f : α → Prog σ ε β) : lift (.ok a) >>= f = f a := rfl

end Equations

/-! ## Taking a run apart -/

variable {g : σ → σ} {x : Except ε α} {c : Prop} {m₁ m₂ : Prog σ ε α} {part : σ → τ}
variable {put : τ → σ → σ}

section Rules

variable {m : Prog σ ε α} {f : α → Prog σ ε β} {s s' : σ} {a : α} {b : β}

@[simp] theorem ends_pure {b : α} :
    Ends (pure a : Prog σ ε α) s b s' ↔ b = a ∧ s' = s := by
  constructor
  · intro h
    obtain ⟨rfl, rfl⟩ := Prod.mk.inj (Except.ok.inj h)
    exact ⟨rfl, rfl⟩
  · rintro ⟨rfl, rfl⟩
    rfl

@[simp] theorem ends_bind :
    Ends (m >>= f) s b s' ↔ ∃ a t, Ends m s a t ∧ Ends (f a) t b s' := by
  change (match m s with
    | .ok (a, s') => f a s'
    | .error e => .error e) = .ok (b, s') ↔ _
  constructor
  · intro h
    split at h
    · next a t hm => exact ⟨a, t, hm, h⟩
    · cases h
  · rintro ⟨a, t, hm, hf⟩
    have hrun : m s = .ok (a, t) := hm
    rw [hrun]
    exact hf

@[simp] theorem ends_view {g : σ → α} : Ends (view g : Prog σ ε α) s a s' ↔ a = g s ∧ s' = s := by
  constructor
  · intro h
    obtain ⟨rfl, rfl⟩ := Prod.mk.inj (Except.ok.inj h)
    exact ⟨rfl, rfl⟩
  · rintro ⟨rfl, rfl⟩
    rfl

@[simp] theorem ends_update {u : Unit} : Ends (update g : Prog σ ε Unit) s u s' ↔ s' = g s := by
  constructor
  · intro h
    exact (Prod.mk.inj (Except.ok.inj h)).2.symm
  · rintro rfl
    rfl

@[simp] theorem ends_fault {e : ε} : ¬ Ends (fault e : Prog σ ε α) s a s' := by
  intro h
  cases h

@[simp] theorem ends_lift : Ends (lift x : Prog σ ε α) s a s' ↔ x = .ok a ∧ s' = s := by
  cases x with
  | ok b =>
      constructor
      · intro h
        obtain ⟨rfl, rfl⟩ := Prod.mk.inj (Except.ok.inj h)
        exact ⟨rfl, rfl⟩
      · rintro ⟨h, rfl⟩
        cases h
        rfl
  | error e => exact ⟨nofun, nofun⟩

theorem ends_only [Decidable c] {m : Prog σ ε Unit} {u : Unit} :
    Ends (only c m) s u s' ↔ (c ∧ Ends m s u s') ∨ (¬ c ∧ s' = s) := by
  unfold only
  split
  · next hc => simp [hc]
  · next hc =>
      rw [ends_pure]
      simp [hc]

theorem ends_branch [Decidable c] :
    Ends (branch c m₁ m₂) s a s' ↔ (c ∧ Ends m₁ s a s') ∨ (¬ c ∧ Ends m₂ s a s') := by
  unfold branch
  split
  · next hc => simp [hc]
  · next hc => simp [hc]

theorem ends_zoom {m : Prog τ ε α} :
    Ends (zoom part put m) s a s' ↔ ∃ t, Ends m (part s) a t ∧ s' = put t s := by
  unfold Ends zoom
  constructor
  · intro h
    split at h
    · next b t hm =>
        obtain ⟨rfl, rfl⟩ := Prod.mk.inj (Except.ok.inj h)
        exact ⟨t, hm, rfl⟩
    · cases h
  · rintro ⟨t, hm, rfl⟩
    rw [hm]

theorem ends_bind_view {g : σ → α} : Ends (view g >>= f) s b s' ↔ Ends (f (g s)) s b s' := Iff.rfl

theorem ends_bind_state {f : σ → Prog σ ε β} :
    Ends (view id >>= f) s b s' ↔ Ends (f s) s b s' := Iff.rfl

theorem ends_bind_update {f : Unit → Prog σ ε β} :
    Ends (update g >>= f) s b s' ↔ Ends (f ()) (g s) b s' := Iff.rfl

theorem ends_bind_pure : Ends (pure a >>= f) s b s' ↔ Ends (f a) s b s' := Iff.rfl

theorem ends_bind_return {g : α → β} :
    Ends (m >>= fun a => pure (g a)) s b s' ↔ ∃ a, Ends m s a s' ∧ b = g a := by
  simp only [ends_bind, ends_pure]
  constructor
  · rintro ⟨a, _, hm, rfl, rfl⟩
    exact ⟨a, hm, rfl⟩
  · rintro ⟨a, hm, rfl⟩
    exact ⟨a, s', hm, rfl, rfl⟩

theorem ends_bind_lift :
    Ends (lift x >>= f) s b s' ↔ ∃ a, x = .ok a ∧ Ends (f a) s b s' := by
  simp only [ends_bind, ends_lift]
  constructor
  · rintro ⟨a, _, ⟨hx, rfl⟩, hf⟩
    exact ⟨a, hx, hf⟩
  · rintro ⟨a, hx, hf⟩
    exact ⟨a, s, ⟨hx, rfl⟩, hf⟩

/-- Whether the run of `m` ends in a state that passes a test. -/
def reaches (m : Prog σ ε Unit) (s : σ) (p : σ → Bool) : Bool :=
  match m s with
  | .ok (_, s') => p s'
  | .error _ => false

theorem reaches_iff {m : Prog σ ε Unit} {p : σ → Bool} :
    reaches m s p = true ↔ ∃ s', Ends m s () s' ∧ p s' = true := by
  unfold reaches Ends
  constructor
  · intro h
    cases hm : m s with
    | error e => rw [hm] at h; cases h
    | ok r => exact ⟨r.2, rfl, by rw [hm] at h; exact h⟩
  · rintro ⟨s', hm, hp⟩
    rw [hm]
    exact hp

/-- A run has one end. -/
theorem Ends.unique {a₁ a₂ : α} {s₁ s₂ : σ} (h₁ : Ends m s a₁ s₁) (h₂ : Ends m s a₂ s₂) :
    a₁ = a₂ ∧ s₁ = s₂ :=
  Prod.mk.inj (Except.ok.inj (h₁.symm.trans h₂))

end Rules

/-! ## Programs without a fault -/

/-- From every state `m` ends. -/
def Total (m : Prog σ ε α) : Prop := ∀ s, ∃ a s', Ends m s a s'

section Total

variable {m : Prog σ ε α} {f : α → Prog σ ε β}

theorem Total.pure {a : α} : Total (pure a : Prog σ ε α) :=
  fun s => ⟨a, s, ends_pure.2 ⟨rfl, rfl⟩⟩

theorem Total.view {g : σ → α} : Total (view g : Prog σ ε α) :=
  fun s => ⟨g s, s, ends_view.2 ⟨rfl, rfl⟩⟩

theorem Total.update : Total (update g : Prog σ ε Unit) :=
  fun s => ⟨(), g s, ends_update.2 rfl⟩

theorem Total.lift (h : ∃ a, x = .ok a) : Total (lift x : Prog σ ε α) := by
  obtain ⟨a, rfl⟩ := h
  exact fun s => ⟨a, s, ends_lift.2 ⟨rfl, rfl⟩⟩

theorem Total.bind (hm : Total m) (hf : ∀ a, Total (f a)) : Total (m >>= f) := by
  intro s
  obtain ⟨a, t, hmt⟩ := hm s
  obtain ⟨b, s', hft⟩ := hf a t
  exact ⟨b, s', ends_bind.2 ⟨a, t, hmt, hft⟩⟩

theorem Total.ite [Decidable c] (h₁ : Total m₁) (h₂ : Total m₂) : Total (if c then m₁ else m₂) := by
  split
  · exact h₁
  · exact h₂

theorem Total.only [Decidable c] {m : Prog σ ε Unit} (h : Total m) :
    Total (only c m) := .ite h .pure

theorem Total.zoom {m : Prog τ ε α} (h : Total m) : Total (zoom part put m) := by
  intro s
  obtain ⟨a, t, hm⟩ := h (part s)
  exact ⟨a, put t s, ends_zoom.2 ⟨t, hm, rfl⟩⟩

end Total

/-! ## Programs without a certain fault -/

/-- `m` never stops at the fault `e`. -/
def Avoids (e : ε) (m : Prog σ ε α) : Prop := ∀ s, m s ≠ .error e

section Avoids

variable {e : ε}

theorem Avoids.pure {a : α} : Avoids e (pure a : Prog σ ε α) := nofun

theorem Avoids.view {g : σ → α} : Avoids e (view g : Prog σ ε α) := nofun

theorem Avoids.update : Avoids e (update g : Prog σ ε Unit) := nofun

theorem Avoids.fault {e' : ε} (h : e' ≠ e) : Avoids e (fault e' : Prog σ ε α) := by
  intro s hs
  exact h (Except.error.inj hs)

theorem Avoids.bind {m : Prog σ ε α} {f : α → Prog σ ε β} (hm : Avoids e m)
    (hf : ∀ a, Avoids e (f a)) : Avoids e (m >>= f) := by
  intro s hs
  change (match m s with
    | .ok (a, s') => f a s'
    | .error e => .error e) = .error e at hs
  split at hs
  · exact hf _ _ hs
  · next e' he =>
      cases hs
      exact hm s he

theorem Avoids.ite [Decidable c] (h₁ : Avoids e m₁) (h₂ : Avoids e m₂) :
    Avoids e (if c then m₁ else m₂) := by
  split
  · exact h₁
  · exact h₂

theorem Avoids.zoom {m : Prog τ ε α} (h : Avoids e m) : Avoids e (zoom part put m) := by
  intro s hs
  unfold Prog.zoom at hs
  split at hs
  · cases hs
  · next e' he =>
      cases hs
      exact h _ he

/-- A program that goes on with a rest that avoids a fault meets it where its first part does. -/
theorem bind_error_iff {m : Prog σ ε α} {f : α → Prog σ ε β} (hf : ∀ a, Avoids e (f a)) {s : σ} :
    (m >>= f) s = .error e ↔ m s = .error e := by
  change (match m s with
    | .ok (a, s') => f a s'
    | .error e => .error e) = .error e ↔ _
  split
  · next a t hm => exact iff_of_false (hf a t) (by rw [hm]; nofun)
  · next e' hm =>
      rw [hm]
      exact ⟨fun h => congrArg _ (Except.error.inj h), fun h => congrArg _ (Except.error.inj h)⟩

end Avoids

/-! ## What every run does to the state -/

/-- Every run of `m` that ends relates its first to its last state. -/
def Within (R : σ → σ → Prop) (m : Prog σ ε α) : Prop :=
  ∀ s a s', Ends m s a s' → R s s'

section Within

variable {R R' : σ → σ → Prop} {m : Prog σ ε α} {f : α → Prog σ ε β}

theorem Within.mono (h : Within R m) (hsub : ∀ s s', R s s' → R' s s') : Within R' m :=
  fun s a s' hm => hsub s s' (h s a s' hm)

theorem Within.fault {e : ε} : Within R (fault e : Prog σ ε α) :=
  fun _ _ _ h => absurd h ends_fault

theorem Within.update (h : ∀ s, R s (g s)) : Within R (update g : Prog σ ε Unit) := by
  intro s a s' hm
  rw [ends_update] at hm
  subst hm
  exact h s

theorem Within.ite [Decidable c] (h₁ : Within R m₁) (h₂ : Within R m₂) :
    Within R (if c then m₁ else m₂) := by
  split
  · exact h₁
  · exact h₂

theorem Within.branch [Decidable c] (h₁ : Within R m₁) (h₂ : Within R m₂) :
    Within R (branch c m₁ m₂) := Within.ite h₁ h₂

theorem Within.zoom {S : τ → τ → Prop} {m : Prog τ ε α} (h : Within S m)
    (hput : ∀ s t, S (part s) t → R s (put t s)) : Within R (zoom part put m) := by
  intro s a s' hm
  obtain ⟨t, ht, rfl⟩ := ends_zoom.1 hm
  exact hput s t (h _ _ _ ht)

variable [IsPreorder σ R]

theorem Within.pure {a : α} : Within R (pure a : Prog σ ε α) := by
  intro s b s' h
  obtain ⟨-, rfl⟩ := ends_pure.1 h
  exact Std.Refl.refl _

theorem Within.view {g : σ → α} : Within R (view g : Prog σ ε α) := by
  intro s b s' h
  obtain ⟨-, rfl⟩ := ends_view.1 h
  exact Std.Refl.refl _

theorem Within.lift : Within R (lift x : Prog σ ε α) := by
  intro s b s' h
  obtain ⟨-, rfl⟩ := ends_lift.1 h
  exact Std.Refl.refl _

theorem Within.only [Decidable c] {m : Prog σ ε Unit} (h : Within R m) : Within R (only c m) := by
  intro s u s' hm
  obtain ⟨-, hm⟩ | ⟨-, rfl⟩ := ends_only.1 hm
  · exact h s u s' hm
  · exact Std.Refl.refl _

theorem Within.bind (hm : Within R m) (hf : ∀ a, Within R (f a)) : Within R (m >>= f) := by
  intro s b s' h
  obtain ⟨a, t, h₁, h₂⟩ := ends_bind.1 h
  exact trans_of R (hm s a t h₁) (hf a t b s' h₂)

theorem Within.seq (hm : Within R m) (hf : ∀ {a}, Within R (f a)) : Within R (m >>= f) :=
  hm.bind fun _ => hf

/-! The two kinds of preorder that occur most. -/

/-- The two states look the same through `g`. -/
def Same (g : σ → τ) (s s' : σ) : Prop := g s' = g s

/-- The second state satisfies `I` if the first does. -/
def Stays (I : σ → Prop) (s s' : σ) : Prop := I s → I s'

instance {g : σ → τ} : IsPreorder σ (Same g) where
  refl _ := rfl
  trans _ _ _ h₁ h₂ := h₂.trans h₁

instance {I : σ → Prop} : IsPreorder σ (Stays I) where
  refl _ := id
  trans _ _ _ h₁ h₂ := h₂ ∘ h₁

end Within

/-! ## What a run counts

A count never goes back in a run; a run that has counted something is one that does
so in one of its parts. -/

section Counting

variable {count : σ → Nat} {R : σ → σ → Prop} {m : Prog σ ε α} {f : α → Prog σ ε β}

/-- The count does not go back. -/
def Monotone (count : σ → Nat) (s s' : σ) : Prop := count s ≤ count s'

/-- The count goes on. -/
def Advances (count : σ → Nat) (s s' : σ) : Prop := count s < count s'

instance : IsPreorder σ (Monotone count) where
  refl _ := Nat.le_refl _
  trans _ _ _ := Nat.le_trans

theorem Within.advances_bind (hm : Within (Advances count) m)
    (hf : ∀ a, Within (Monotone count) (f a)) : Within (Advances count) (m >>= f) := by
  intro s b s' h
  obtain ⟨a, t, h₁, h₂⟩ := ends_bind.1 h
  exact Nat.lt_of_lt_of_le (hm s a t h₁) (hf a t b s' h₂)

theorem Within.bind_advances (hm : Within (Monotone count) m)
    (hf : ∀ a, Within (Advances count) (f a)) : Within (Advances count) (m >>= f) := by
  intro s b s' h
  obtain ⟨a, t, h₁, h₂⟩ := ends_bind.1 h
  exact Nat.lt_of_le_of_lt (hm s a t h₁) (hf a t b s' h₂)

theorem Within.monotone (h : Within (Advances count) m) : Within (Monotone count) m :=
  h.mono fun _ _ => Nat.le_of_lt

end Counting

/-! ## Runs of a machine -/

section Runs

variable {ι : Type} {step : ι → Prog σ ε Unit} {R : σ → σ → Prop} {s s' : σ}

/-- Take the inputs one after the other. -/
def perform (step : ι → Prog σ ε Unit) : List ι → Prog σ ε Unit
  | [] => pure ()
  | i :: is => do
      step i
      perform step is

theorem perform_append {is js : List ι} :
    Ends (perform step (is ++ js)) s () s' ↔
      ∃ t, Ends (perform step is) s () t ∧ Ends (perform step js) t () s' := by
  induction is generalizing s with
  | nil => simp [perform]
  | cons i is ih =>
      simp only [perform, List.cons_append, ends_bind, ih]
      constructor
      · rintro ⟨u, t, hi, t', his, hjs⟩
        exact ⟨t', ⟨u, t, hi, his⟩, hjs⟩
      · rintro ⟨t', ⟨u, t, hi, his⟩, hjs⟩
        exact ⟨u, t, hi, t', his, hjs⟩

/-- What every step does to the state, a run does. -/
theorem Within.perform [IsPreorder σ R] (h : ∀ i, Within R (step i)) (is : List ι) :
    Within R (perform step is) := by
  induction is with
  | nil => exact Within.pure
  | cons i is ih => exact (h i).seq ih

end Runs

end Prog

end Program
