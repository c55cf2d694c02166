import BtPlatform.Stack.Dispatch.Books
import BtPlatform.Program.Log

/-!
# Calls and what the users have asked for

A function is called once, not after it has been cancelled, and by a run only when it is neither
suspended nor early nor new. The history tells what has been asked for; an entry that is in the
table stands well with it, and every change keeps this. A run that begins while a function is
running can call it again, and a request that comes when the function is runnable already comes
too late.
-/

namespace Stack.Dispatch

open Support Program Program.Prog List

/-! ## What the history says -/

namespace Event

/-- The registration that an event is about. -/
def About (r : Nat) : Event → Prop
  | .registered r' _ _ _ => r' = r
  | .cancelled r' => r' = r
  | .suspended r' _ => r' = r
  | .timeoutSet r' _ _ _ => r' = r
  | .runBegan _ => False
  | .invoked r' _ _ _ _ => r' = r

def Registers (r : Nat) : Event → Prop
  | .registered r' _ _ _ => r' = r
  | _ => False

/-- `OI_Dispatch_SuspendFunc` succeeds; `late` allows that the function was runnable already. -/
def Suspends (r : Nat) (late : Bool) : Event → Prop
  | .suspended r' late' => r' = r ∧ (late' = true → late = true)
  | _ => False

/-- `OI_Dispatch_SetFuncTimeout` succeeds. -/
def SetsTimeout (r : Nat) : Event → Prop
  | .timeoutSet r' _ _ _ => r' = r
  | _ => False

/-- It succeeds with a certain timeout at a certain time. -/
def Sets (r : Nat) (late : Bool) (timeout : OIInterval) (start : Nat) : Event → Prop
  | .timeoutSet r' timeout' late' clock =>
      r' = r ∧ timeout' = timeout ∧ clock = start ∧ (late' = true → late = true)
  | _ => False

/-- The function is not suspended any more. -/
def Resumes (r : Nat) : Event → Prop
  | .timeoutSet r' _ _ _ => r' = r
  | .invoked r' _ _ .callFunc _ => r' = r
  | _ => False

def Invokes (r : Nat) : Event → Prop
  | .invoked r' _ _ _ _ => r' = r
  | _ => False

def RunBegins : Event → Prop
  | .runBegan _ => True
  | _ => False

variable {r : Nat} {late : Bool} {event : Event}

theorem Registers.about (h : event.Registers r) : event.About r := by
  cases event <;> first | exact h | exact h.elim

theorem Suspends.about (h : event.Suspends r late) : event.About r := by
  cases event <;> first | exact h.1 | exact h.elim

theorem SetsTimeout.about (h : event.SetsTimeout r) : event.About r := by
  cases event <;> first | exact h | exact h.elim

theorem Sets.about {timeout : OIInterval} {start : Nat} (h : event.Sets r late timeout start) :
    event.About r := by
  cases event <;> first | exact h.1 | exact h.elim

theorem Resumes.about (h : event.Resumes r) : event.About r := by
  cases event with
  | invoked r' function arg caller clock =>
      cases caller with
      | run => exact h.elim
      | callFunc => exact h
  | timeoutSet => exact h
  | _ => exact h.elim

theorem Invokes.about (h : event.Invokes r) : event.About r := by
  cases event <;> first | exact h | exact h.elim

end Event

/-- Requests taken to the letter: a function that is called has not been called, it has not been
cancelled, it is not suspended, its last timeout is over, and a run does not call what has been
registered since it began. -/
def ToTheLetter (before : List Event) : Event → Prop
  | .invoked r _ _ caller clock =>
      (∀ event ∈ before, ¬ event.Invokes r) ∧ Event.cancelled r ∉ before ∧
        ¬ Since (Event.Suspends r true) (Event.SetsTimeout r) before ∧
        (∀ timeout start, Since (Event.Sets r true timeout start) (Event.SetsTimeout r) before →
          intervals start + timeout.toNat ≤ intervals clock) ∧
        (caller = .run → ¬ Since (Event.Registers r) Event.RunBegins before)
  | _ => True

/-- What a run respects. -/
structure Respects (before : List Event) (r clock : Nat) : Prop where
  suspended : ¬ Since (Event.Suspends r false) (Event.Resumes r) before
  timeout : ∀ timeout start,
    Since (Event.Sets r false timeout start) (Event.SetsTimeout r) before →
      intervals start + timeout.toNat ≤ intervals clock
  new : ¬ Since (Event.Registers r) Event.RunBegins before

/-- A run began while the function was running. -/
def RunInside (r : Nat) (log : List Event) : Prop :=
  ∃ running, .runBegan running ∈ log ∧ r ∈ running

/-- What holds of an event and those before it. -/
def Obeyed (before : List Event) : Event → Prop
  | .invoked r _ _ caller clock =>
      ((∃ event ∈ before, event.Invokes r) → RunInside r before) ∧
        Event.cancelled r ∉ before ∧ (caller = .run → Respects before r clock)
  | _ => True

/-! ## Time -/

theorem intervals_eq (clock : Nat) : intervals clock = (clock + 99) / 100 := by
  unfold intervals
  omega

theorem intervals_mono {clock clock' : Nat} (h : clock ≤ clock') :
    intervals clock ≤ intervals clock' := by
  rw [intervals_eq, intervals_eq]
  omega

theorem timeNowInterval_eq (clock : Nat) :
    timeNowInterval clock = UInt16.ofNat (intervals clock) := (UInt16.ofNat_add _ _).symm

theorem signed_eq {t : OIInterval} (h : t.toNat < 2 ^ 15) : signed t = t.toNat := by
  unfold signed
  rw [BitVec.toInt_eq_toNat_of_lt]
  · rfl
  · change 2 * t.toNat < 2 ^ 16
    omega

/-- A timeout that the dispatcher takes to be over is over. -/
theorem elapsed_of_due {entry : DispatchEntry} {timeout : OIInterval} {start clock : Nat}
    (hmax : timeout ≤ maxInterval) (hle : start ≤ clock)
    (htimeout : entry.timeout = timeNowInterval start + timeout)
    (hdue : entry.due (timeNowInterval clock) = true) :
    intervals start + timeout.toNat ≤ intervals clock := by
  by_contra hearly
  have hmono := intervals_mono hle
  have hbound : timeout.toNat ≤ 2 ^ 15 - 1 := hmax
  have hrest : (entry.timeout - timeNowInterval clock).toNat =
      intervals start + timeout.toNat - intervals clock := by
    rw [htimeout, timeNowInterval_eq, timeNowInterval_eq, UInt16.toNat_sub, UInt16.toNat_add,
      UInt16.toNat_ofNat', UInt16.toNat_ofNat']
    omega
  have hsigned := signed_eq (t := entry.timeout - timeNowInterval clock) (by omega)
  have hle := of_decide_eq_true hdue
  omega

/-! ## The invariant -/

section Coherent

variable {b b' : Books} {entry : DispatchEntry}

/-- The entry stands well with the history. -/
structure Tracked (b : Books) (entry : DispatchEntry) : Prop where
  registered : entry.registration < b.registrations
  cancelled : Event.cancelled entry.registration ∉ b.log
  invoked : entry.state ≠ .funcRunning → (∃ event ∈ b.log, event.Invokes entry.registration) →
    RunInside entry.registration b.log
  suspended : Since (Event.Suspends entry.registration false)
    (Event.Resumes entry.registration) b.log → entry.state = .funcSuspended
  timeout : ∀ timeout start, Since (Event.Sets entry.registration false timeout start)
      (Event.SetsTimeout entry.registration) b.log →
    timeout ≤ maxInterval ∧ start ≤ b.clock ∧
      entry.timeout = timeNowInterval start + timeout ∧
      (entry.state = .funcRunnable → intervals start + timeout.toNat ≤ intervals b.clock)
  new : entry.state = .funcRunnable →
    ¬ Since (Event.Registers entry.registration) Event.RunBegins b.log

/-- The table stands well with the history. -/
structure Coherent (b : Books) : Prop where
  sound : ∀ i entry, b.slot? i = some entry →
    (entry.inUse = true ↔ entry.state ≠ .freeSlot)
  tracked : ∀ i entry, b.slot? i = some entry → entry.state ≠ .freeSlot → Tracked b entry
  unique : ∀ i j entry entry', b.slot? i = some entry → b.slot? j = some entry' →
    entry.state ≠ .freeSlot → entry'.state ≠ .freeSlot →
    entry.registration = entry'.registration → i = j
  known : ∀ event ∈ b.log, ∀ r, event.About r → r < b.registrations
  obeyed : AtEach Obeyed b.log

/-- A run respects a function that is runnable. -/
theorem Tracked.respects (h : Tracked b entry) (hstate : entry.state = .funcRunnable) :
    Respects b.log entry.registration b.clock := by
  refine ⟨fun hsince => ?_, fun timeout start hsince => ?_, h.new hstate⟩
  · have hsuspended := h.suspended hsince
    rw [hstate] at hsuspended
    cases hsuspended
  · exact (h.timeout timeout start hsince).2.2.2 hstate

variable {log : List Event}

theorem exists_mem_append_other {event : Event} {p : Event → Prop} (hp : ¬ p event)
    (h : ∃ e ∈ log ++ [event], p e) : ∃ e ∈ log, p e := by
  obtain ⟨e, he, hpe⟩ := h
  obtain he | he := mem_append.1 he
  · exact ⟨e, he, hpe⟩
  · rw [mem_singleton.1 he] at hpe
    exact absurd hpe hp

theorem RunInside.append {later : List Event} {r : Nat} (h : RunInside r log) :
    RunInside r (log ++ later) := by
  obtain ⟨running, hbegan, hrunning⟩ := h
  exact ⟨running, mem_append_left _ hbegan, hrunning⟩

theorem cancelled_not_mem_append {event : Event} {r : Nat} (h : Event.cancelled r ∉ log)
    (hevent : event ≠ .cancelled r) : Event.cancelled r ∉ log ++ [event] := by
  intro hmem
  obtain hmem | hmem := mem_append.1 hmem
  · exact h hmem
  · exact hevent (mem_singleton.1 hmem).symm

/-- What happens to another function changes nothing. -/
theorem Tracked.record_other {event : Event} (h : Tracked b entry)
    (hrun : ¬ event.RunBegins) (hother : ¬ event.About entry.registration) :
    Tracked (b.record event) entry := by
  have hcancelled : event ≠ .cancelled entry.registration := by
    rintro rfl
    exact hother rfl
  have hinvokes : ¬ event.Invokes entry.registration := fun hi => hother hi.about
  have hsuspends : ¬ event.Suspends entry.registration false := fun hs => hother hs.about
  have hresumes : ¬ event.Resumes entry.registration := fun hr => hother hr.about
  have hset : ¬ event.SetsTimeout entry.registration := fun hs => hother hs.about
  have hsets (timeout : OIInterval) (start : Nat) :
      ¬ event.Sets entry.registration false timeout start := fun hs => hother hs.about
  have hregisters : ¬ event.Registers entry.registration := fun hr => hother hr.about
  refine ⟨h.registered, cancelled_not_mem_append h.cancelled hcancelled,
    fun hstate hinvoked => ?_, fun hsince => ?_, fun timeout start hsince => ?_,
    fun hstate hsince => ?_⟩
  · exact (h.invoked hstate (exists_mem_append_other hinvokes hinvoked)).append
  · exact h.suspended ((since_append_other hsuspends hresumes).1 hsince)
  · exact h.timeout timeout start ((since_append_other (hsets timeout start) hset).1 hsince)
  · exact h.new hstate ((since_append_other hregisters hrun).1 hsince)

namespace Coherent

variable {i : Nat} {old new : DispatchEntry} {event : Event}

/-- What is to be shown where one entry changes. -/
theorem of_entry (h : Coherent b) (i : Nat) (hother : ∀ j, i ≠ j → b'.slot? j = b.slot? j)
    (hself : ∀ new, b'.slot? i = some new → (new.inUse = true ↔ new.state ≠ .freeSlot) ∧
      (new.state ≠ .freeSlot → Tracked b' new ∧ (b.registrations ≤ new.registration ∨
        ∃ old, b.slot? i = some old ∧ old.state ≠ .freeSlot ∧
          new.registration = old.registration)))
    (htracked : ∀ j entry, i ≠ j → b.slot? j = some entry → entry.state ≠ .freeSlot →
      Tracked b' entry)
    (hknown : ∀ event ∈ b'.log, ∀ r, event.About r → r < b'.registrations)
    (hobeyed : AtEach Obeyed b'.log) : Coherent b' := by
  -- no other entry has the registration of the entry that changes
  have hdistinct (j : Nat) (new entry : DispatchEntry) (hij : i ≠ j)
      (hnew : b'.slot? i = some new) (hentry : b.slot? j = some entry)
      (hnewState : new.state ≠ .freeSlot) (hstate : entry.state ≠ .freeSlot) :
      new.registration ≠ entry.registration := by
    intro hsame
    obtain hfresh | ⟨old, hold, holdState, hreg⟩ := ((hself new hnew).2 hnewState).2
    · have := (h.tracked j entry hentry hstate).registered
      omega
    · exact hij (h.unique i j old entry hold hentry holdState hstate (hreg.symm.trans hsame))
  refine ⟨fun j entry hentry => ?_, fun j entry hentry hstate => ?_, ?_, hknown, hobeyed⟩
  · by_cases hij : i = j
    · subst hij
      exact (hself entry hentry).1
    · rw [hother j hij] at hentry
      exact h.sound j entry hentry
  · by_cases hij : i = j
    · subst hij
      exact ((hself entry hentry).2 hstate).1
    · rw [hother j hij] at hentry
      exact htracked j entry hij hentry hstate
  · intro j k entry entry' hentry hentry' hstate hstate' hsame
    by_cases hij : i = j
    · subst hij
      by_cases hik : i = k
      · exact hik
      · rw [hother k hik] at hentry'
        exact absurd hsame (hdistinct k entry entry' hik hentry hentry' hstate hstate')
    · rw [hother j hij] at hentry
      by_cases hik : i = k
      · subst hik
        exact absurd hsame.symm (hdistinct j entry' entry hij hentry' hentry hstate' hstate)
      · rw [hother k hik] at hentry'
        exact h.unique j k entry entry' hentry hentry' hstate hstate' hsame

/-- An event about a function whose entry may change. -/
theorem of_event {c : Books} (h : Coherent b) (hold : b.slot? i = some old)
    (hstate : old.state ≠ .freeSlot) (hlog : c.log = b.log)
    (hregistrations : c.registrations = b.registrations) (hclock : c.clock = b.clock)
    (hother : ∀ j, i ≠ j → c.slot? j = b.slot? j) (hnew : c.slot? i = some new)
    (hsound : new.inUse = true ↔ new.state ≠ .freeSlot)
    (hsame : new.registration = old.registration)
    (habout : ∀ r, event.About r → r = old.registration) (hrun : ¬ event.RunBegins)
    (hself : new.state ≠ .freeSlot → Tracked (c.record event) new)
    (hobeyed : Obeyed b.log event) : Coherent (c.record event) := by
  have hregistered := (h.tracked i old hold hstate).registered
  refine h.of_entry i hother (fun new' hnew' => ?_) (fun j entry hij hentry hstate' => ?_)
    (fun e he r hr => ?_) ?_
  · obtain rfl := Option.some.inj (hnew.symm.trans hnew')
    exact ⟨hsound, fun hnewState => ⟨hself hnewState, .inr ⟨old, hold, hstate, hsame⟩⟩⟩
  · have htracked := h.tracked j entry hentry hstate'
    have hc : Tracked c entry := by
      obtain ⟨h₁, h₂, h₃, h₄, h₅, h₆⟩ := htracked
      exact ⟨hregistrations ▸ h₁, hlog ▸ h₂, hlog ▸ h₃, hlog ▸ h₄, hclock ▸ hlog ▸ h₅, hlog ▸ h₆⟩
    refine hc.record_other hrun fun hr => ?_
    exact hij (h.unique i j old entry hold hentry hstate hstate' (habout _ hr).symm)
  · change r < c.registrations
    rw [hregistrations]
    obtain he | he := mem_append.1 he
    · rw [hlog] at he
      exact h.known e he r hr
    · rw [mem_singleton.1 he] at hr
      rw [habout r hr]
      exact hregistered
  · change AtEach Obeyed (c.log ++ [event])
    rw [hlog]
    exact h.obeyed.append_singleton hobeyed

/-- A change of an entry that is not an event. -/
theorem of_silent (h : Coherent b) (i : Nat) (hlog : b'.log = b.log)
    (hregistrations : b'.registrations = b.registrations) (hclock : b'.clock = b.clock)
    (hother : ∀ j, i ≠ j → b'.slot? j = b.slot? j)
    (hself : ∀ new, b'.slot? i = some new → (new.inUse = true ↔ new.state ≠ .freeSlot) ∧
      (new.state ≠ .freeSlot → Tracked b' new ∧
        ∃ old, b.slot? i = some old ∧ old.state ≠ .freeSlot ∧
          new.registration = old.registration)) : Coherent b' := by
  refine h.of_entry i hother (fun new hnew => ?_) (fun j entry hij hentry hstate => ?_) ?_ ?_
  · obtain ⟨hsound, htracked⟩ := hself new hnew
    exact ⟨hsound, fun hstate => ⟨(htracked hstate).1, .inr (htracked hstate).2⟩⟩
  · obtain ⟨h₁, h₂, h₃, h₄, h₅, h₆⟩ := h.tracked j entry hentry hstate
    exact ⟨hregistrations ▸ h₁, hlog ▸ h₂, hlog ▸ h₃, hlog ▸ h₄, hclock ▸ hlog ▸ h₅, hlog ▸ h₆⟩
  · rw [hlog, hregistrations]
    exact h.known
  · rw [hlog]
    exact h.obeyed

theorem wait (h : Coherent b) (delay : Nat) :
    Coherent { b with clock := b.clock + delay } := by
  refine ⟨h.sound, fun i entry hentry hstate => ?_, h.unique, h.known, h.obeyed⟩
  obtain ⟨h₁, h₂, h₃, h₄, h₅, h₆⟩ := h.tracked i entry hentry hstate
  refine ⟨h₁, h₂, h₃, h₄, fun timeout start hsince => ?_, h₆⟩
  obtain ⟨hmax, hstart, htimeout, helapsed⟩ := h₅ timeout start hsince
  refine ⟨hmax, Nat.le_add_right_of_le hstart, htimeout, fun hrunnable => ?_⟩
  exact Nat.le_trans (helapsed hrunnable) (intervals_mono (Nat.le_add_right _ _))

variable {timeout : OIInterval}

/-- An entry that is not in use stays so when its timeout is set. -/
theorem prepare (h : Coherent b) (hentry : b.slot? i = some old) (hfree : old.inUse = false) :
    Coherent (b.setTimeout i old timeout) := by
  have hstate : old.state = .freeSlot := by
    by_contra hne
    rw [(h.sound i old hentry).2 hne] at hfree
    cases hfree
  refine h.of_silent i rfl rfl rfl (fun j hij => Books.slot?_put_ne hij) fun new hnew => ?_
  obtain rfl := Option.some.inj ((Books.slot?_setTimeout hentry).symm.trans hnew)
  have hstays : (if old.state = .funcSuspended then EntryState.funcActive else old.state) =
      .freeSlot := by
    rw [hstate]
    rfl
  refine ⟨iff_of_false ?_ fun hne => hne hstays, fun hne => absurd hstays hne⟩
  change ¬ old.inUse = true
  rw [hfree]
  exact nofun

/-- The entry of a function that is gone is free. -/
theorem free (h : Coherent b) (hentry : b.slot? i = some old) : Coherent (b.free i old) := by
  refine h.of_silent i rfl rfl rfl (fun j hij => Books.slot?_put_ne hij) fun new hnew => ?_
  obtain rfl := Option.some.inj ((Books.slot?_put hentry).symm.trans hnew)
  exact ⟨iff_of_false nofun fun hne => hne rfl, fun hne => absurd rfl hne⟩

/-- A new function has no history. -/
theorem take {heap : Heap} (h : Coherent b) (hentry : b.slot? i = some old)
    (hfresh : Fresh b new heap) : Coherent (b.take i new heap) := by
  have hnothing (event : Event) (hmem : event ∈ b.log) : ¬ event.About new.registration := by
    intro habout
    have := h.known event hmem _ habout
    rw [hfresh.registration] at this
    omega
  have hnever {start stop : Event → Prop}
      (habout : ∀ event, start event → event.About new.registration) :
      ¬ Since start stop b.log := by
    intro hsince
    obtain ⟨event, hmem, hstart⟩ := hsince.exists_mem
    exact hnothing event hmem (habout event hstart)
  have hactive : new.state ≠ .funcRunnable := by
    rw [hfresh.state]
    decide
  refine h.of_entry i (fun j hij => Books.slot?_put_ne hij) (fun new' hnew => ?_)
    (fun j entry hij hentry hstate => ?_) (fun event hmem r habout => ?_) h.obeyed
  · obtain rfl := Option.some.inj ((Books.slot?_take hentry).symm.trans hnew)
    have hinUse : new.state ≠ .freeSlot := by
      rw [hfresh.state]
      decide
    refine ⟨iff_of_true hfresh.inUse hinUse,
      fun _ => ⟨?_, .inl (Nat.le_of_eq hfresh.registration.symm)⟩⟩
    refine ⟨?_, fun hmem => hnothing _ hmem rfl, fun _ hinvoked => ?_, fun hsince => ?_,
      fun timeout start hsince => ?_, fun hrunnable => absurd hrunnable hactive⟩
    · rw [hfresh.registration]
      exact Nat.lt_succ_self _
    · obtain ⟨event, hmem, hinvokes⟩ := hinvoked
      exact absurd hinvokes.about (hnothing event hmem)
    · exact absurd hsince (hnever fun _ hs => hs.about)
    · exact absurd hsince (hnever fun _ hs => hs.about)
  · obtain ⟨h₁, h₂, h₃, h₄, h₅, h₆⟩ := h.tracked j entry hentry hstate
    exact ⟨Nat.lt_succ_of_lt h₁, h₂, h₃, h₄, h₅, h₆⟩
  · exact Nat.lt_succ_of_lt (h.known event hmem r habout)

/-- The registration of a function has succeeded. -/
theorem announce {handle : CBHandle} (h : Coherent b) (hentry : b.slot? i = some old)
    (hstate : old.state = .funcActive) :
    Coherent (b.record (.registered old.registration handle timeout b.clock)) := by
  have hvalid : old.state ≠ .freeSlot := by
    rw [hstate]
    decide
  have htracked := h.tracked i old hentry hvalid
  refine h.of_event hentry hvalid rfl rfl rfl (fun _ _ => rfl) hentry (h.sound i old hentry) rfl
    (fun r hr => hr.symm) id (fun _ => ?_) trivial
  refine ⟨htracked.registered, cancelled_not_mem_append htracked.cancelled nofun,
    fun hrunning hinvoked => ?_, fun hsince => ?_, fun t start hsince => ?_, fun hrunnable => ?_⟩
  · exact (htracked.invoked hrunning (exists_mem_append_other id hinvoked)).append
  · exact htracked.suspended ((since_append_other id id).1 hsince)
  · exact htracked.timeout t start ((since_append_other id id).1 hsince)
  · rw [hstate] at hrunnable
    cases hrunnable

/-- A function that has been cancelled is not in the table any more. -/
theorem cancel (h : Coherent b) (hentry : b.slot? i = some old) (hvalid : old.Valid) :
    Coherent ((b.free i old).record (.cancelled old.registration)) := by
  refine h.of_event hentry hvalid.1 rfl rfl rfl (fun j hij => Books.slot?_put_ne hij)
    (Books.slot?_put hentry) (iff_of_false nofun fun hne => hne rfl) rfl (fun r hr => hr.symm) id
    (fun hne => absurd rfl hne) trivial

/-- A function that is suspended is suspended in the table. -/
theorem suspend (h : Coherent b) (hentry : b.slot? i = some old)
    (hstate : old.state = .funcActive) :
    Coherent ((b.enter i old .funcSuspended).record (.suspended old.registration false)) := by
  have hvalid : old.state ≠ .freeSlot := by
    rw [hstate]
    decide
  have htracked := h.tracked i old hentry hvalid
  refine h.of_event hentry hvalid rfl rfl rfl (fun j hij => Books.slot?_put_ne hij)
    (Books.slot?_enter hentry) (iff_of_true ((h.sound i old hentry).2 hvalid) nofun) rfl
    (fun r hr => hr.symm) id (fun _ => ?_) trivial
  refine ⟨htracked.registered, cancelled_not_mem_append htracked.cancelled nofun,
    fun _ hinvoked => ?_, fun _ => rfl, fun t start hsince => ?_, nofun⟩
  · have hrunning : old.state ≠ .funcRunning := by
      rw [hstate]
      decide
    exact (htracked.invoked hrunning (exists_mem_append_other id hinvoked)).append
  · obtain ⟨hmax, hstart, htimeout, -⟩ :=
      htracked.timeout t start ((since_append_other id id).1 hsince)
    exact ⟨hmax, hstart, htimeout, nofun⟩

/-- To suspend a function that is not active changes nothing, and promises nothing if the
function is runnable. -/
theorem suspendAgain (h : Coherent b) (hentry : b.slot? i = some old) (hvalid : old.Valid)
    (hstate : old.state ≠ .funcActive) :
    Coherent (b.record (.suspended old.registration (old.state = .funcRunnable))) := by
  have htracked := h.tracked i old hentry hvalid.1
  refine h.of_event hentry hvalid.1 rfl rfl rfl (fun _ _ => rfl) hentry (h.sound i old hentry) rfl
    (fun r hr => hr.symm) id (fun _ => ?_) trivial
  refine ⟨htracked.registered, cancelled_not_mem_append htracked.cancelled nofun,
    fun hrunning hinvoked => ?_, fun hsince => ?_, fun t start hsince => ?_,
    fun hrunnable hsince => ?_⟩
  · exact (htracked.invoked hrunning (exists_mem_append_other id hinvoked)).append
  · obtain ⟨-, hlate⟩ | ⟨-, hsince⟩ := since_append_singleton.1 hsince
    · cases hsuspended : old.state with
      | funcSuspended => rfl
      | freeSlot => exact absurd hsuspended hvalid.1
      | funcRunning => exact absurd hsuspended hvalid.2
      | funcActive => exact absurd hsuspended hstate
      | funcRunnable => exact absurd (hlate (decide_eq_true hsuspended)) nofun
    · exact htracked.suspended hsince
  · exact htracked.timeout t start ((since_append_other id id).1 hsince)
  · exact htracked.new hrunnable ((since_append_other id id).1 hsince)

/-- The timeout of a function that is not runnable begins anew. -/
theorem setTimeout (h : Coherent b) (hentry : b.slot? i = some old) (hvalid : old.Valid)
    (hmax : timeout ≤ maxInterval) :
    Coherent ((b.setTimeout i old timeout).record
      (.timeoutSet old.registration timeout (old.state = .funcRunnable) b.clock)) := by
  have htracked := h.tracked i old hentry hvalid.1
  have hnotFree :
      (if old.state = .funcSuspended then EntryState.funcActive else old.state) ≠ .freeSlot := by
    split
    · decide
    · exact hvalid.1
  have hrunnable
      (hstate : (if old.state = .funcSuspended then EntryState.funcActive else old.state) =
        .funcRunnable) : old.state = .funcRunnable := by
    split at hstate
    · cases hstate
    · exact hstate
  refine h.of_event hentry hvalid.1 rfl rfl rfl (fun j hij => Books.slot?_put_ne hij)
    (Books.slot?_setTimeout hentry) (iff_of_true ((h.sound i old hentry).2 hvalid.1) hnotFree) rfl
    (fun r hr => hr.symm) id (fun _ => ?_) trivial
  refine ⟨htracked.registered, cancelled_not_mem_append htracked.cancelled nofun,
    fun _ hinvoked => ?_, fun hsince => ?_, fun t start hsince => ?_, fun hstate hsince => ?_⟩
  · exact (htracked.invoked hvalid.2 (exists_mem_append_other id hinvoked)).append
  · obtain hno | ⟨hno, -⟩ := since_append_singleton.1 hsince
    · exact hno.elim
    · exact absurd rfl hno
  · obtain ⟨-, rfl, rfl, hlate⟩ | ⟨hno, -⟩ := since_append_singleton.1 hsince
    · refine ⟨hmax, Nat.le_refl _, rfl, fun hstate => ?_⟩
      exact absurd (hlate (decide_eq_true (hrunnable hstate))) nofun
    · exact absurd rfl hno
  · exact htracked.new (hrunnable hstate) ((since_append_other id id).1 hsince)

/-- Nothing is new when a run begins. -/
theorem begin {running : List Nat} (h : Coherent b) : Coherent (b.record (.runBegan running)) := by
  refine ⟨h.sound, fun i entry hentry hstate => ?_, h.unique, fun event hmem r habout => ?_,
    h.obeyed.append_singleton trivial⟩
  · have htracked := h.tracked i entry hentry hstate
    refine ⟨htracked.registered, cancelled_not_mem_append htracked.cancelled nofun,
      fun hrunning hinvoked => ?_, fun hsince => ?_, fun t start hsince => ?_,
      fun hrunnable hsince => ?_⟩
    · exact (htracked.invoked hrunning (exists_mem_append_other id hinvoked)).append
    · exact htracked.suspended ((since_append_other id id).1 hsince)
    · exact htracked.timeout t start ((since_append_other id id).1 hsince)
    · obtain hno | ⟨hno, -⟩ := since_append_singleton.1 hsince
      · exact hno.elim
      · exact hno trivial
  · obtain hmem | hmem := mem_append.1 hmem
    · exact h.known event hmem r habout
    · rw [mem_singleton.1 hmem] at habout
      exact habout.elim

/-- What a run finds runnable is neither suspended nor early nor new. -/
theorem mark {before : List Event} {running : List Nat} (h : Coherent b)
    (hlog : b.log = before ++ [.runBegan running])
    (hrunning : old.state = .funcRunning → old.registration ∈ running)
    (hentry : b.slot? i = some old) (hinUse : old.inUse = true)
    (hstate : old.state ≠ .funcSuspended) (hdue : old.due (timeNowInterval b.clock) = true) :
    Coherent (b.enter i old .funcRunnable) := by
  have hvalid := (h.sound i old hentry).1 hinUse
  have htracked := h.tracked i old hentry hvalid
  refine h.of_silent i rfl rfl rfl (fun j hij => Books.slot?_put_ne hij) fun new hnew => ?_
  obtain rfl := Option.some.inj ((Books.slot?_enter hentry).symm.trans hnew)
  refine ⟨iff_of_true hinUse nofun, fun _ => ⟨?_, old, hentry, hvalid, rfl⟩⟩
  refine ⟨htracked.registered, htracked.cancelled, fun _ hinvoked => ?_, fun hsince => ?_,
    fun t start hsince => ?_, fun _ hsince => ?_⟩
  · by_cases hinside : old.state = .funcRunning
    · refine ⟨running, ?_, hrunning hinside⟩
      change Event.runBegan running ∈ b.log
      rw [hlog]
      exact mem_append_right before (mem_singleton_self _)
    · exact htracked.invoked hinside hinvoked
  · exact absurd (htracked.suspended hsince) hstate
  · obtain ⟨hmax, hstart, htimeout, -⟩ := htracked.timeout t start hsince
    exact ⟨hmax, hstart, htimeout, fun _ => elapsed_of_due hmax hstart htimeout hdue⟩
  · change Since _ _ b.log at hsince
    rw [hlog] at hsince
    obtain hno | ⟨hno, -⟩ := since_append_singleton.1 hsince
    · exact hno.elim
    · exact hno trivial

/-- A run calls a function that is runnable. -/
theorem run {function : CBFunc} {arg : Option (List UInt8)} (h : Coherent b)
    (hentry : b.slot? i = some old) (hstate : old.state = .funcRunnable) :
    Coherent ((b.enter i old .funcRunning).record
      (.invoked old.registration function arg .run b.clock)) := by
  have hvalid : old.state ≠ .freeSlot := by
    rw [hstate]
    decide
  have hrunning : old.state ≠ .funcRunning := by
    rw [hstate]
    decide
  have htracked := h.tracked i old hentry hvalid
  refine h.of_event hentry hvalid rfl rfl rfl (fun j hij => Books.slot?_put_ne hij)
    (Books.slot?_enter hentry) (iff_of_true ((h.sound i old hentry).2 hvalid) nofun) rfl
    (fun r hr => hr.symm) id (fun _ => ?_)
    ⟨htracked.invoked hrunning, htracked.cancelled, fun _ => htracked.respects hstate⟩
  refine ⟨htracked.registered, cancelled_not_mem_append htracked.cancelled nofun,
    fun hno => absurd rfl hno, fun hsince => ?_, fun t start hsince => ?_, nofun⟩
  · have hsuspended := htracked.suspended ((since_append_other id id).1 hsince)
    rw [hstate] at hsuspended
    cases hsuspended
  · obtain ⟨hmax, hstart, htimeout, -⟩ :=
      htracked.timeout t start ((since_append_other id id).1 hsince)
    exact ⟨hmax, hstart, htimeout, nofun⟩

/-- A user calls a function, which is not suspended any more. -/
theorem call {function : CBFunc} {arg : Option (List UInt8)} (h : Coherent b)
    (hentry : b.slot? i = some old) (hvalid : old.Valid) :
    Coherent ((b.enter i old .funcRunning).record
      (.invoked old.registration function arg .callFunc b.clock)) := by
  have htracked := h.tracked i old hentry hvalid.1
  refine h.of_event hentry hvalid.1 rfl rfl rfl (fun j hij => Books.slot?_put_ne hij)
    (Books.slot?_enter hentry) (iff_of_true ((h.sound i old hentry).2 hvalid.1) nofun) rfl
    (fun r hr => hr.symm) id (fun _ => ?_)
    ⟨htracked.invoked hvalid.2, htracked.cancelled, nofun⟩
  refine ⟨htracked.registered, cancelled_not_mem_append htracked.cancelled nofun,
    fun hno => absurd rfl hno, fun hsince => ?_, fun t start hsince => ?_, nofun⟩
  · obtain hno | ⟨hno, -⟩ := since_append_singleton.1 hsince
    · exact hno.elim
    · exact absurd rfl hno
  · obtain ⟨hmax, hstart, htimeout, -⟩ :=
      htracked.timeout t start ((since_append_other id id).1 hsince)
    exact ⟨hmax, hstart, htimeout, nofun⟩

theorem drop (h : Coherent b) : Coherent b.drop := by
  refine ⟨fun i entry hentry => ?_, fun i entry hentry => ?_, fun i j entry entry' hentry => ?_,
    h.known, h.obeyed⟩
  · cases hentry
  · cases hentry
  · cases hentry

/-- Every change keeps table and history in agreement. -/
theorem change (hchange : Change b b') (h : Coherent b) : Coherent b' := by
  cases hchange with
  | wait delay => exact h.wait delay
  | prepare timeout hentry hfree => exact h.prepare hentry hfree
  | take hentry hfree hfresh => exact h.take hentry hfresh
  | announce handle hentry hstate htimeout hmax => exact h.announce hentry hstate
  | free hentry => exact h.free hentry
  | cancel hentry hvalid => exact h.cancel hentry hvalid
  | suspend hentry hstate => exact h.suspend hentry hstate
  | suspendAgain hentry hvalid hstate => exact h.suspendAgain hentry hvalid hstate
  | setTimeout hentry hvalid hmax => exact h.setTimeout hentry hvalid hmax
  | begin => exact h.begin
  | mark hlog hrunning hentry hinUse hstate hdue =>
      exact h.mark hlog hrunning hentry hinUse hstate hdue
  | run hentry hstate => exact h.run hentry hstate
  | call hentry hvalid => exact h.call hentry hvalid

end Coherent

end Coherent

theorem coherent_init {debug serviceCallback : Bool} {tableSize : Fin (2 ^ 15)} {clock : Nat} :
    Coherent (init debug serviceCallback tableSize clock).books := by
  have hzero (i : Nat) (entry : DispatchEntry)
      (hentry : (init debug serviceCallback tableSize clock).books.slot? i = some entry) :
      entry = .zero := eq_of_mem_replicate (mem_of_getElem? hentry)
  refine ⟨fun i entry hentry => ?_, fun i entry hentry hstate => ?_,
    fun i j entry entry' hentry _ hstate => ?_, nofun, .nil⟩
  · rw [hzero i entry hentry]
    decide
  · rw [hzero i entry hentry] at hstate
    exact absurd rfl hstate
  · rw [hzero i entry hentry] at hstate
    exact absurd rfl hstate

/-! ## Runs -/

/-- In every run a function is called once, unless a run begins while it is running; it is not
called after it has been cancelled; and a run respects what has been asked for in time. -/
theorem wishes_obeyed {debug serviceCallback : Bool} {tableSize : Fin (2 ^ 15)} {clock : Nat}
    {inputs : List Input} {s : Machine}
    (h : Ends (perform step inputs) (init debug serviceCallback tableSize clock) () s) :
    AtEach Obeyed s.log :=
  (reached_keeps Coherent.change Coherent.drop h coherent_init).obeyed

/-- The function that an event calls. -/
def Event.called? : Event → Option CBFunc
  | .invoked _ function _ _ _ => some function
  | _ => none

/-- Two functions are called at once, the first of which suspends a third one, which is called
when it has a new timeout. -/
theorem wishes_obeyed_suspended : ∃ s, Ends (perform step
    [⟨0, .registerTimedFunc (some 1) none 0 true⟩, ⟨0, .registerTimedFunc (some 2) none 0 true⟩,
      ⟨0, .registerTimedFunc (some 3) none 5 true⟩, ⟨0, .run⟩, ⟨0, .suspendFunc 0x20001⟩,
      ⟨0, .returns⟩, ⟨0, .returns⟩, ⟨1000, .run⟩, ⟨0, .setFuncTimeout 0x20001 2⟩, ⟨300, .run⟩])
    (init true true 16 0) () s ∧ s.log.filterMap Event.called? = [1, 2, 3] ∧
    AtEach Obeyed s.log := by
  obtain ⟨s, hs, hlog⟩ := reaches_iff.1 (by decide +kernel : reaches (perform step
    [⟨0, .registerTimedFunc (some 1) none 0 true⟩, ⟨0, .registerTimedFunc (some 2) none 0 true⟩,
      ⟨0, .registerTimedFunc (some 3) none 5 true⟩, ⟨0, .run⟩, ⟨0, .suspendFunc 0x20001⟩,
      ⟨0, .returns⟩, ⟨0, .returns⟩, ⟨1000, .run⟩, ⟨0, .setFuncTimeout 0x20001 2⟩, ⟨300, .run⟩])
    (init true true 16 0) (fun s => s.log.filterMap Event.called? = [1, 2, 3]) = true)
  exact ⟨s, hs, of_decide_eq_true hlog, wishes_obeyed hs⟩

/-- `OI_Dispatch_CallFunc` calls a function that is suspended. -/
theorem calls_suspended : ¬ ∀ s, Ends (perform step
    [⟨0, .registerTimedFunc (some 1) none 0 true⟩, ⟨0, .suspendFunc 1⟩, ⟨0, .callFunc 1⟩])
    (init true false 16 0) () s → AtEach ToTheLetter s.log := by
  intro h
  obtain ⟨s, hs, hlog⟩ := reaches_iff.1 (by decide +kernel : reaches (perform step
    [⟨0, .registerTimedFunc (some 1) none 0 true⟩, ⟨0, .suspendFunc 1⟩, ⟨0, .callFunc 1⟩])
    (init true false 16 0) (fun s => s.log = [.registered 0 1 0 0, .suspended 0 false,
      .invoked 0 1 none .callFunc 0]) = true)
  have hletter := h s hs [.registered 0 1 0 0, .suspended 0 false] _ [] (of_decide_eq_true hlog)
  apply hletter.2.2.1
  exact ⟨[.registered 0 1 0 0], .suspended 0 false, [], rfl, ⟨rfl, nofun⟩, nofun⟩

/-- The entries in use are those of different registrations that have not been cancelled, with
the state and the time that were asked for last. -/
structure FollowsHistory (s : Machine) : Prop where
  unique : ∀ i j entry entry', s.slot? i = some entry → s.slot? j = some entry' →
    entry.inUse = true → entry'.inUse = true → entry.registration = entry'.registration → i = j
  kept : ∀ i entry, s.slot? i = some entry → entry.inUse = true →
    Event.cancelled entry.registration ∉ s.log
  suspended : ∀ i entry, s.slot? i = some entry → entry.inUse = true →
    Since (Event.Suspends entry.registration false) (Event.Resumes entry.registration) s.log →
      entry.state = .funcSuspended
  timeout : ∀ i entry, s.slot? i = some entry → entry.inUse = true → ∀ timeout start,
    Since (Event.Sets entry.registration false timeout start)
      (Event.SetsTimeout entry.registration) s.log → entry.timeout = timeNowInterval start + timeout

/-- Of two functions the first one is cancelled and the second one suspended. -/
def cancelsAndSuspends : List Input :=
  [⟨0, .registerTimedFunc (some 1) none 0 true⟩, ⟨0, .registerTimedFunc (some 2) none 5 true⟩,
    ⟨0, .cancelFunc 1⟩, ⟨0, .suspendFunc 0x10001⟩]

end Stack.Dispatch
