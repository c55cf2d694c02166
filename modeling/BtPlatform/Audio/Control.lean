import BtPlatform.Audio.Manager

/-!
# Who holds control

The last status that has been posted to a profile since it last released control says
whether it holds control. At most one profile does, the topmost one of the stack.
-/

namespace Audio

open List

/-! ## The last status -/

/-- The last status of a profile, after one more act. -/
def Act.update (profileId : ProfileId) (last : Option ControlStatus) : Act → Option ControlStatus
  | .posted _ status q => if q = profileId then some status else last
  | .released q => if q = profileId then none else last

/-- The last status posted to a profile since its last release. -/
def lastStatus (history : List Act) (profileId : ProfileId) : Option ControlStatus :=
  history.foldl (Act.update profileId) none

/-- A status with which a profile holds control. -/
def ControlStatus.isGain : ControlStatus → Bool
  | .gain | .gainTransient | .regained => true
  | .loss | .lossTransient => false

/-- A status posted to the profile. -/
def Act.isFor (profileId : ProfileId) : Act → Bool
  | .posted _ _ q => q = profileId
  | .released _ => false

/-- A profile holds control. -/
def HoldsControl (history : List Act) (profileId : ProfileId) : Prop :=
  ∃ status, lastStatus history profileId = some status ∧ status.isGain = true

/-- The profile of the topmost entry. -/
def ControlStack.topProfile (stack : ControlStack) : Option ProfileId :=
  stack.getTopIndex.map fun top => (stack top).profileId

section Last

variable {history : List Act} {p q : ProfileId} {split sinkStream : Bool} {status : ControlStatus}

theorem lastStatus_posts : lastStatus (history ++ posts split sinkStream status q) p =
    if q = p ∧ (destination split sinkStream q).isSome then some status else lastStatus
      history p := by
  unfold posts lastStatus
  cases destination split sinkStream q with
  | none => simp
  | some thread =>
      rw [foldl_append]
      by_cases h : q = p <;> simp [Act.update, h]

theorem lastStatus_released :
    lastStatus (history ++ [.released q]) p = if q = p then none else lastStatus history p := by
  rw [lastStatus, foldl_append]
  rfl

end Last

/-! ## One event -/

/-- Whoever holds control is the topmost profile, and status messages can reach it. -/
def OnlyTop (split sinkStream : Bool) (stack : ControlStack) (history : List Act) : Prop :=
  ∀ p, HoldsControl history p →
    stack.topProfile = some p ∧ (destination split sinkStream p).isSome = true

section Event

variable {split sinkStream : Bool} {event : ControlEvent} {stack stack' : ControlStack}
  {acts history : List Act}

theorem OnlyTop.mono {sinkStream' : Bool} (h : OnlyTop split sinkStream stack history)
    (hle : sinkStream = true → sinkStream' = true) : OnlyTop split sinkStream' stack history := by
  intro p hp
  obtain ⟨htop, hreach⟩ := h p hp
  refine ⟨htop, ?_⟩
  unfold destination at hreach ⊢
  by_cases hsink : p ≠ .a2dpSink
  · rw [if_pos hsink] at hreach ⊢
    exact hreach
  · rw [if_neg hsink] at hreach ⊢
    cases split with
    | true => rfl
    | false =>
        cases sinkStream with
        | true =>
            rw [hle rfl]
            rfl
        | false => exact absurd hreach (by decide)

@[simp] theorem topProfile_empty : ControlStack.topProfile ![.empty, .empty] = none := by
  rw [ControlStack.topProfile, ControlStack.getTopIndex_empty]
  rfl

theorem topProfile_unused {t : ControlRequestType} :
    ControlStack.topProfile ![⟨.max, t⟩, .empty] = none := by
  rw [ControlStack.topProfile, ControlStack.getTopIndex, ControlStack.finRange_reverse]
  simp [ControlStackEntry.empty]

@[simp] theorem topProfile_one {p : ProfileId} {t : ControlRequestType} (hp : p ≠ .max) :
    ControlStack.topProfile ![⟨p, t⟩, .empty] = some p := by
  rw [ControlStack.topProfile, ControlStack.getTopIndex_one hp]
  rfl

@[simp] theorem topProfile_two {p q : ProfileId} {t u : ControlRequestType} (hq : q ≠ .max) :
    ControlStack.topProfile ![⟨p, t⟩, ⟨q, u⟩] = some q := by
  rw [ControlStack.topProfile, ControlStack.getTopIndex_two hq]
  rfl

theorem ControlStack.Sound.profiles_injective (h : stack.Sound) (i j : Fin maxProfileEntries)
    (hi : (stack i).profileId ≠ .max) (heq : (stack i).profileId = (stack j).profileId) :
    i = j := by
  cases h with
  | empty =>
      fin_cases i
      · exact absurd rfl hi
      · exact absurd rfl hi
  | one hp ht =>
      fin_cases i
      · fin_cases j
        · rfl
        · exact absurd heq hp
      · exact absurd rfl hi
  | two hp hq hne =>
      fin_cases i
      · fin_cases j
        · rfl
        · exact absurd heq hne
      · fin_cases j
        · exact absurd heq.symm hne
        · rfl

theorem ControlStack.Sound.used_first (h : stack.Sound) (i j : Fin maxProfileEntries) (hij : i < j)
    (hj : (stack j).profileId ≠ .max) : (stack i).profileId ≠ .max := by
  obtain ⟨rfl, rfl⟩ : i = 0 ∧ j = 1 := by
    revert hij
    fin_cases i <;> fin_cases j <;> decide
  cases h with
  | empty => exact hj
  | one hp ht => exact hp
  | two hp hq hne => exact hp

theorem Handles.sound (h : Handles split sinkStream event stack stack' acts)
    (hsound : stack.Sound) : stack'.Sound := by
  cases h with
  | @fresh p t _ _ => exact .one p.2 t.2
  | again | denied | againTransient | deniedTransient | unmatched => exact hsound
  | @interrupt p _ q _ hne hq => exact .two hq p.2 hne
  | @replace p _ q _ _ => exact .one p.2 (by decide)
  | leave => exact .empty
  | leaveBelow _ hq => exact .one hq (by decide)
  | handBack _ hq => exact .one hq (by decide)

/-- After a post either nothing has changed for a profile, or it is the one posted to. -/
theorem holdsControl_posts {status : ControlStatus} {p r : ProfileId}
    (h : HoldsControl (history ++ posts split sinkStream status p) r) :
    (p = r ∧ status.isGain = true ∧ (destination split sinkStream r).isSome = true) ∨
      (¬ (p = r ∧ (destination split sinkStream r).isSome = true) ∧ HoldsControl history r) := by
  obtain ⟨last, hlast, hgain⟩ := h
  rw [lastStatus_posts] at hlast
  split at hlast
  · next hpost =>
      obtain ⟨rfl, hreach⟩ := hpost
      cases hlast
      exact .inl ⟨rfl, hgain, hreach⟩
  · next hpost =>
      refine .inr ⟨?_, last, hlast, hgain⟩
      rintro ⟨rfl, hreach⟩
      exact hpost ⟨rfl, hreach⟩

theorem holdsControl_released {p r : ProfileId} (h : HoldsControl (history ++ [.released p]) r) :
    p ≠ r ∧ HoldsControl history r := by
  obtain ⟨last, hlast, hgain⟩ := h
  rw [lastStatus_released] at hlast
  split at hlast
  · cases hlast
  · next hne => exact ⟨hne, last, hlast, hgain⟩

theorem onlyTop_step (h : Handles split sinkStream event stack stack' acts)
    (honly : OnlyTop split sinkStream stack history) :
    OnlyTop split sinkStream stack' (history ++ acts) := by
  intro r hr
  cases h with
  | @fresh p t _ _ =>
      rw [topProfile_one p.2]
      obtain ⟨rfl, -, hreach⟩ | ⟨-, hold⟩ := holdsControl_posts hr
      · exact ⟨rfl, hreach⟩
      · obtain ⟨htop, -⟩ := honly r hold
        rw [topProfile_empty] at htop
        cases htop
  | @again p _ _ _ _ =>
      obtain ⟨rfl, -, hreach⟩ | ⟨-, hold⟩ := holdsControl_posts hr
      · exact ⟨topProfile_one p.2, hreach⟩
      · exact honly r hold
  | denied | deniedTransient =>
      obtain ⟨-, hgain, -⟩ | ⟨-, hold⟩ := holdsControl_posts hr
      · cases hgain
      · exact honly r hold
  | @againTransient p _ _ _ _ =>
      obtain ⟨rfl, -, hreach⟩ | ⟨-, hold⟩ := holdsControl_posts hr
      · exact ⟨topProfile_two p.2, hreach⟩
      · exact honly r hold
  | @interrupt p _ q _ hne hq =>
      rw [topProfile_two p.2]
      rw [← append_assoc] at hr
      obtain ⟨rfl, -, hreach⟩ | ⟨-, hr⟩ := holdsControl_posts hr
      · exact ⟨rfl, hreach⟩
      · obtain ⟨-, hgain, -⟩ | ⟨hnot, hold⟩ := holdsControl_posts hr
        · cases hgain
        · -- the old holder has been told that it has lost control
          obtain ⟨htop, hreach⟩ := honly r hold
          rw [topProfile_one hq] at htop
          exact absurd ⟨Option.some.inj htop, hreach⟩ hnot
  | @replace p _ q _ hne =>
      rw [topProfile_one p.2]
      rw [← append_assoc] at hr
      obtain ⟨rfl, -, hreach⟩ | ⟨-, hr⟩ := holdsControl_posts hr
      · exact ⟨rfl, hreach⟩
      · obtain ⟨-, hgain, -⟩ | ⟨hnot, hold⟩ := holdsControl_posts hr
        · cases hgain
        · obtain ⟨htop, hreach⟩ := honly r hold
          by_cases hq : q = .max
          · subst hq
            rw [topProfile_unused] at htop
            cases htop
          · rw [topProfile_one hq] at htop
            exact absurd ⟨Option.some.inj htop, hreach⟩ hnot
  | unmatched => exact honly r (holdsControl_released hr).2
  | @leave p t =>
      obtain ⟨hne, hold⟩ := holdsControl_released hr
      obtain ⟨htop, -⟩ := honly r hold
      rw [topProfile_one p.2] at htop
      exact absurd (Option.some.inj htop) hne
  | @leaveBelow p q hne hq =>
      obtain ⟨-, hold⟩ := holdsControl_released hr
      obtain ⟨htop, hreach⟩ := honly r hold
      rw [topProfile_two hq] at htop
      exact ⟨(topProfile_one hq).trans htop, hreach⟩
  | @handBack p q hne hq =>
      rw [topProfile_one hq]
      rw [append_cons] at hr
      obtain ⟨rfl, -, hreach⟩ | ⟨-, hr⟩ := holdsControl_posts hr
      · exact ⟨rfl, hreach⟩
      · obtain ⟨hne', hold⟩ := holdsControl_released hr
        obtain ⟨htop, -⟩ := honly r hold
        rw [topProfile_two p.2] at htop
        exact absurd (Option.some.inj htop) hne'

/-- A request is answered by one status to the profile that made it, if there is a thread
that takes it. -/
theorem request_answered {p : { p : ProfileId // p ≠ .max }}
    {t : { t : ControlRequestType // t ≠ .default }}
    (h : Handles split sinkStream (.request p t) stack stack' acts) :
    acts.countP (Act.isFor p) = if (destination split sinkStream p).isSome then 1 else 0 := by
  have hown : ∀ status, (posts split sinkStream status p).countP (Act.isFor p) =
      if (destination split sinkStream p).isSome then 1 else 0 := by
    intro status
    unfold posts
    cases destination split sinkStream p with
    | none => rfl
    | some thread => simp [Act.isFor]
  have hother : ∀ status q, q ≠ p.val → (posts split sinkStream status q).countP
    (Act.isFor p) = 0 := by
    intro status q hne
    unfold posts
    cases destination split sinkStream q with
    | none => rfl
    | some thread => simp [Act.isFor, hne]
  cases h with
  | fresh | again | denied | againTransient | deniedTransient => exact hown _
  | interrupt _ hne _ => rw [countP_append, hother _ _ hne, hown, Nat.zero_add]
  | replace _ hne => rw [countP_append, hother _ _ hne, hown, Nat.zero_add]

/-- When the topmost profile releases control while another entry remains, the new topmost
profile is told that it regained control. -/
theorem release_regained {p : { p : ProfileId // p ≠ .max }} {q : ProfileId} {thread : ThreadId}
    (h : Handles split sinkStream (.release p) stack stack' acts)
    (htop : stack.topProfile = some p.val)
    (htop' : stack'.topProfile = some q) (hthread : destination split sinkStream q = some thread) :
    acts = [.released p, .posted thread .regained q] := by
  cases h with
  | unmatched hsound hp =>
      rw [ControlStack.topProfile, Option.map_eq_some_iff] at htop
      obtain ⟨i, -, hi⟩ := htop
      exact absurd hi (hp i)
  | leave =>
      rw [topProfile_empty] at htop'
      cases htop'
  | leaveBelow hne hq =>
      rw [topProfile_two hq] at htop
      exact absurd (Option.some.inj htop) hne
  | handBack hne hq =>
      rw [topProfile_one hq] at htop'
      cases htop'
      unfold posts
      rw [hthread]

end Event

/-! ## Runs -/

namespace AudioManager

variable {m : AudioManager} {inputs : List (ControlEvent × Bool)}

/-- The stream of the A2DP sink does not disappear during the run. -/
def StreamStays (inputs : List (ControlEvent × Bool)) : Prop :=
  inputs.Pairwise fun input input' => input.2 = true → input'.2 = true

theorem sound_new (split : Bool) : (new split).audioControlStack.Sound := by
  have hstack : (new split).audioControlStack = ![.empty, .empty] := by
    funext i
    fin_cases i <;> rfl
  rw [hstack]
  exact .empty

theorem run_append (inputs : List (ControlEvent × Bool)) (input : ControlEvent × Bool) :
    m.run (inputs ++ [input]) = (m.run inputs).processEvent input.2 input.1 := by
  rw [run, foldl_append]
  rfl

theorem run_sound (split : Bool) (inputs : List (ControlEvent × Bool)) :
    ((new split).run inputs).isA2dpSinkSplitEnabled = split ∧
      ((new split).run inputs).audioControlStack.Sound := by
  induction inputs using reverseRecOn with
  | nil => exact ⟨rfl, sound_new split⟩
  | append_singleton inputs input ih =>
      obtain ⟨stack, acts, hhandles, hrun⟩ := @processEvent_handles _ input.2 ih.2 input.1
      rw [run_append, hrun]
      exact ⟨ih.1, hhandles.sound ih.2⟩

theorem run_onlyTop (split : Bool) (inputs : List (ControlEvent × Bool))
    (hstays : StreamStays inputs) :
    OnlyTop split (inputs.any Prod.snd) ((new split).run inputs).audioControlStack
      ((new split).run inputs).history := by
  induction inputs using reverseRecOn with
  | nil =>
      rintro p ⟨last, hlast, -⟩
      cases hlast
  | append_singleton inputs input ih =>
      obtain ⟨hearlier, -, hbefore⟩ := pairwise_append.1 hstays
      obtain ⟨hsplit, hsound⟩ := run_sound split inputs
      obtain ⟨stack, acts, hhandles, hrun⟩ := @processEvent_handles _ input.2 hsound input.1
      rw [hsplit] at hhandles
      have honly : OnlyTop split input.2 ((new split).run inputs).audioControlStack
          ((new split).run inputs).history := by
        refine (ih hearlier).mono ?_
        intro hany
        obtain ⟨earlier, hmem, hstream⟩ := any_eq_true.1 hany
        exact hbefore earlier hmem input (mem_singleton_self _) hstream
      rw [run_append, hrun]
      refine (onlyTop_step hhandles honly).mono ?_
      intro hstream
      simp [hstream]

/-- In every run no profile occurs twice in the stack and the used entries come first; if
the stream of the sink does not disappear, only the topmost profile holds control; a
request is answered by one status to the profile that made it, if a thread takes its
messages; and a release by the topmost profile tells the next one that it regained
control. -/
theorem control_exclusive (split : Bool) (inputs : List (ControlEvent × Bool)) :
    let m := (new split).run inputs
    (∀ i j, (m.audioControlStack i).profileId ≠ .max →
      (m.audioControlStack i).profileId = (m.audioControlStack j).profileId → i = j) ∧
    (∀ i j, i < j → (m.audioControlStack j).profileId ≠ .max →
      (m.audioControlStack i).profileId ≠ .max) ∧
    (StreamStays inputs → ∀ p, HoldsControl m.history p →
      m.audioControlStack.topProfile = some p) ∧
    (∀ p t sinkStream, (m.processEvent sinkStream (.request p t)).history.countP (Act.isFor p) =
      m.history.countP (Act.isFor p) +
        if (destination split sinkStream p).isSome then 1 else 0) ∧
    (∀ p q sinkStream thread, m.audioControlStack.topProfile = some p.val →
      (m.processEvent sinkStream (.release p)).audioControlStack.topProfile = some q →
      destination split sinkStream q = some thread →
      (m.processEvent sinkStream (.release p)).history =
        m.history ++ [.released p, .posted thread .regained q]) := by
  intro m
  obtain ⟨hsplit, hsound⟩ := run_sound split inputs
  refine ⟨?_, ?_, ?_, ?_, ?_⟩
  · exact hsound.profiles_injective
  · exact hsound.used_first
  · intro hstays p hp
    exact (run_onlyTop split inputs hstays p hp).1
  · intro p t sinkStream
    obtain ⟨stack, acts, hhandles, hrun⟩ := @processEvent_handles m sinkStream hsound (.request p t)
    rw [hsplit] at hhandles
    rw [hrun, countP_append, request_answered hhandles]
  · intro p q sinkStream thread htop htop' hthread
    obtain ⟨stack, acts, hhandles, hrun⟩ := @processEvent_handles m sinkStream hsound (.release p)
    rw [hsplit] at hhandles
    rw [hrun] at htop' ⊢
    rw [release_regained hhandles htop htop' hthread]

/-- A profile that `GetThreadId` does not know gets no answer. -/
theorem unknown_profile_not_answered :
    ((new false).processEvent true (.request ⟨.pan, by decide⟩
      ⟨.permanent, by decide⟩)).history.countP
      (Act.isFor .pan) = 0 := by
  decide

end AudioManager

end Audio
