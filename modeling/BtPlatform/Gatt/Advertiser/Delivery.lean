import BtPlatform.Gatt.Advertiser.LeAdvertiser
import BtPlatform.Gatt.Advertiser.Sets

/-!
# Delivery of advertiser events

The advertising sets of the applications, as they are seen from outside, beside the
advertiser and the manager. An event of a set should reach the callback with which the
set was started, and no request for one set should cut off another.
-/

namespace Gatt.Advertiser

open Support List

variable {A : Type}

/-- The registration id of a start that went to the controller. -/
def System.startedWith (s s' : System A) : Option Int :=
  if s'.manager.sTempRegistrationId = s.manager.sTempRegistrationId then none
  else some s'.manager.sTempRegistrationId

/-- What becomes of the sets of the applications when an event takes `s` to `s'`. -/
def Sets.followApp (sets : Sets A) (s s' : System A) : AppEvent A → Sets A
  | .start _ _ callback =>
      match s.startedWith s' with
      | some regId => { sets with requested := sets.requested.insert regId (callback, false) }
      | none => sets
  | .stop _ => sets
  | .update _ => sets
  | .started regId advertiserId _ status => sets.answer regId advertiserId.toNat status
  | .notice _ _ => sets

/-- The controller answers each request once, with an advertiser id that no live set has. -/
def LegalApp (sets : Sets A) : AppEvent A → Prop
  | .started regId advertiserId _ status =>
      regId ∈ sets.requested ∧ (status = 0 → (advertiserId.toNat : Int) ∉ sets.live)
  | _ => True

/-- No set is cut off: the manager has an entry for it, and the advertiser a handle if it
is live. -/
structure Heard (s : System A) (sets : Sets A) : Prop where
  requested : ∀ k ∈ sets.requested, s.manager.mAdvertisers.lookup k = some ()
  live : ∀ k ∈ sets.live, s.manager.mAdvertisers.lookup k = some () ∧
    s.advertiser.mAdvertisingSets.lookup k = some ⟨k⟩

/-- The answer to a start and the notices about a live set go once to the callback with
which the set was started. -/
def RightApp (sets : Sets A) (seen : List (AppOutput A)) : AppEvent A → Prop
  | .started regId advertiserId txPower status =>
      ∀ (callback : A) stopAsked, sets.requested.lookup regId = some (callback, stopAsked) →
        seen = [if status = ADVERTISE_SUCCESS then
            .started callback (some ⟨advertiserId.toNat⟩) txPower status
          else .started callback none 0 status]
  | .notice advertiserId notice =>
      ∀ callback : A, sets.live.lookup (advertiserId.toNat : Int) = some callback →
        seen = [.noticed callback ⟨advertiserId.toNat⟩ notice]
  | _ => True

/-- The event has a meaning and is delivered right, and no set is cut off. -/
def DeliveredRight [DecidableEq A] (s : System A) (sets : Sets A) (event : AppEvent A) : Prop :=
  ∃ s' seen, s.handle event = .ok (s', seen) ∧
    Heard s' (sets.followApp s s' event) ∧ RightApp sets seen event

/-- The events that are delivered right: a start that goes to the controller finds a
registration id, a stop is for a callback without a set, and an event is for a set of the
callback that came last; the answer to a failed start has no advertiser id of a live set. -/
def CarefulApp (s : System A) (sets : Sets A) : AppEvent A → Prop
  | .start service request _ =>
      ∀ sv, service = some sv → checkAdvertisingSet sv request = .ok () →
        s.manager.sTempRegistrationId ≠ INT_MIN
  | .stop callback => callback ∉ s.advertiser.mCallback
  | .update _ => True
  | .started regId advertiserId _ status =>
      (∀ (callback : A) stopAsked, sets.requested.lookup regId = some (callback, stopAsked) →
        s.advertiser.mCb = some callback) ∧
      (status ≠ 0 → (advertiserId.toNat : Int) ∉ sets.live)
  | .notice advertiserId _ =>
      ∀ callback : A, sets.live.lookup (advertiserId.toNat : Int) = some callback →
        s.advertiser.mCb = some callback

/-- The states of the runs in which every event meets the condition. -/
inductive ReachesApp [DecidableEq A] : System A → Sets A → Prop where
  | initial : ReachesApp System.initial Sets.initial
  | step {s s' : System A} {sets : Sets A} {event : AppEvent A} {seen : List (AppOutput A)} :
      ReachesApp s sets → LegalApp sets event → CarefulApp s sets event →
      s.handle event = .ok (s', seen) → ReachesApp s' (sets.followApp s s' event)

/-- What the proof carries along: the ids of requested sets are negative, those of live sets
are not, and a handle has the id it is kept under. -/
structure InvariantApp (s : System A) (sets : Sets A) : Prop extends Heard s sets where
  requested_neg : ∀ k ∈ sets.requested, k < 0
  live_nonneg : ∀ k ∈ sets.live, 0 ≤ k
  handles : ∀ k h, s.advertiser.mAdvertisingSets.lookup k = some h → h = ⟨k⟩
  cb : ∀ k h, s.advertiser.mAdvertisingSets.lookup k = some h → s.advertiser.mCb ≠ none
  temp_neg : s.manager.sTempRegistrationId < 0

theorem LeAdvertiser.callbacks_singleton (a : LeAdvertiser A) (output : Output Unit) :
    a.callbacks [output] = a.callback output := by
  simp only [LeAdvertiser.callbacks]
  cases h : a.callback output with
  | error e => rfl
  | ok r =>
      show Except.ok (r.1, r.2 ++ []) = Except.ok r
      rw [append_nil]

theorem LeAdvertiser.lastCallback_ok {a : LeAdvertiser A} {callback : A}
    (h : a.mCb = some callback) : a.lastCallback = .ok callback := by
  rw [LeAdvertiser.lastCallback, h]

/-- The state after a start that went to the controller. -/
def System.afterStart [DecidableEq A] (s : System A) (callback : A) : System A where
  advertiser :=
    { s.advertiser with
      mCb := some callback
      mCallback := s.advertiser.mCallback.emplace callback () }
  manager :=
    { sTempRegistrationId := s.manager.sTempRegistrationId - 1
      mAdvertisers := s.manager.mAdvertisers.emplace (s.manager.sTempRegistrationId - 1) () }

theorem System.afterStart_lookup [DecidableEq A] (s : System A) (callback : A) (k : Int) :
    (s.afterStart callback).manager.mAdvertisers.lookup k =
      (s.manager.mAdvertisers.lookup k).or
        (if k = s.manager.sTempRegistrationId - 1 then some () else none) :=
  Table.lookup_emplace _ _ _ _

theorem System.handle_start [DecidableEq A] {s : System A} {service : Service}
    {request : Request} (hcheck : checkAdvertisingSet service request = .ok ())
    (hid : s.manager.sTempRegistrationId ≠ INT_MIN) (callback : A) :
    s.handle (.start (some service) request callback) = .ok (s.afterStart callback, []) := by
  simp only [System.handle, System.startAdvertisingSet, hcheck, System.throughManager,
    Manager.handle, Manager.startAdvertisingSet, decrement_ok hid]
  rfl

namespace InvariantApp

variable {s s' : System A} {sets : Sets A} {event : AppEvent A}

theorem initial : InvariantApp (System.initial : System A) Sets.initial where
  requested := fun _ h => absurd h (AList.notMem_empty _)
  live := fun _ h => absurd h (AList.notMem_empty _)
  requested_neg := fun _ h => absurd h (AList.notMem_empty _)
  live_nonneg := fun _ h => absurd h (AList.notMem_empty _)
  handles := fun _ _ h => absurd h (by simp [System.initial])
  cb := fun _ _ h => absurd h (by simp [System.initial])
  temp_neg := Int.negSucc_lt_zero 0

/-- A start that goes to the controller. -/
theorem start [DecidableEq A] (h : InvariantApp s sets) (callback : A) :
    InvariantApp (s.afterStart callback)
      { sets with
        requested :=
          sets.requested.insert (s.manager.sTempRegistrationId - 1) (callback, false) } := by
  have hneg := h.temp_neg
  refine ⟨⟨?_, ?_⟩, ?_, h.live_nonneg, h.handles, ?_, ?_⟩
  · intro k hk
    rw [s.afterStart_lookup]
    obtain rfl | hk := (AList.mem_insert _).1 hk
    · rw [if_pos rfl]
      cases AList.lookup (s.manager.sTempRegistrationId - 1) s.manager.mAdvertisers <;> rfl
    · rw [h.requested k hk, Option.some_or]
  · intro k hk
    refine ⟨?_, (h.live k hk).2⟩
    rw [s.afterStart_lookup, (h.live k hk).1, Option.some_or]
  · intro k hk
    obtain rfl | hk := (AList.mem_insert _).1 hk
    · omega
    · exact h.requested_neg k hk
  · intro _ _ _
    exact Option.some_ne_none callback
  · show s.manager.sTempRegistrationId - 1 < 0
    omega

variable {regId : Int}

/-- A successful answer: the set gets an entry and a handle. -/
theorem answer_success (h : InvariantApp s sets) {advertiserId : Int} {callback : A}
    (hregId : regId < 0) (hid : 0 ≤ advertiserId) (hcb : s.advertiser.mCb = some callback)
    {live : Table Int A} (hlive : ∀ k ∈ live, k = advertiserId ∨ k ∈ sets.live) :
    InvariantApp
      ⟨{ s.advertiser with
          mAdvertisingSets := s.advertiser.mAdvertisingSets.emplace advertiserId ⟨advertiserId⟩ },
        { s.manager with
          mAdvertisers := (s.manager.mAdvertisers.emplace advertiserId ()).erase regId }⟩
      { requested := sets.requested.erase regId, live := live } := by
  have hhandle : ∀ k hd, (s.advertiser.mAdvertisingSets.emplace advertiserId
      ⟨advertiserId⟩).lookup k = some hd → hd = ⟨k⟩ := by
    intro k hd hlookup
    rw [Table.lookup_emplace] at hlookup
    cases hold : AList.lookup k s.advertiser.mAdvertisingSets with
    | some hd' =>
        rw [hold, Option.some_or, Option.some.injEq] at hlookup
        rw [← hlookup]
        exact h.handles k hd' hold
    | none =>
        rw [hold, Option.none_or] at hlookup
        split at hlookup
        · next heq =>
            rw [heq]
            exact (Option.some.inj hlookup).symm
        · cases hlookup
  refine ⟨⟨?_, ?_⟩, ?_, ?_, hhandle, ?_, h.temp_neg⟩
  · intro k hk
    obtain ⟨hne, hk⟩ := AList.mem_erase.1 hk
    rw [Table.lookup_erase, if_neg hne, Table.lookup_emplace, h.requested k hk, Option.some_or]
  · intro k hk
    have hnonneg : 0 ≤ k := by
      obtain rfl | hk := hlive k hk
      · exact hid
      · exact h.live_nonneg k hk
    have hentry : (AList.lookup k s.manager.mAdvertisers).or
        (if k = advertiserId then some () else none) = some () := by
      obtain rfl | hk := hlive k hk
      · rw [if_pos rfl]
        cases AList.lookup k s.manager.mAdvertisers <;> rfl
      · rw [(h.live k hk).1, Option.some_or]
    refine ⟨?_, ?_⟩
    · rw [Table.lookup_erase, if_neg (show k ≠ regId by omega), Table.lookup_emplace, hentry]
    · have hsome : ((s.advertiser.mAdvertisingSets.emplace advertiserId
          ⟨advertiserId⟩).lookup k).isSome := by
        rw [Table.lookup_emplace]
        obtain rfl | hk := hlive k hk
        · rw [if_pos rfl]
          cases AList.lookup k s.advertiser.mAdvertisingSets <;> rfl
        · rw [(h.live k hk).2, Option.some_or]
          rfl
      obtain ⟨hd, hhd⟩ := Option.isSome_iff_exists.1 hsome
      rw [hhd, hhandle k hd hhd]
  · intro k hk
    exact h.requested_neg k (AList.mem_erase.1 hk).2
  · intro k hk
    obtain rfl | hk := hlive k hk
    · exact hid
    · exact h.live_nonneg k hk
  · intro _ _ _
    show s.advertiser.mCb ≠ none
    rw [hcb]
    exact Option.some_ne_none callback

/-- The answer to a failed start takes the entry of its advertiser id, which no live set
may have. -/
theorem answer_failure (h : InvariantApp s sets) {advertiserId : Int} (hid : 0 ≤ advertiserId)
    (hfree : advertiserId ∉ sets.live) :
    InvariantApp
      { s with manager :=
          { s.manager with mAdvertisers := s.manager.mAdvertisers.erase advertiserId } }
      { sets with requested := sets.requested.erase regId } := by
  refine ⟨⟨?_, ?_⟩, ?_, h.live_nonneg, h.handles, h.cb, h.temp_neg⟩
  · intro k hk
    have hk' := (AList.mem_erase.1 hk).2
    have := h.requested_neg k hk'
    rw [Table.lookup_erase, if_neg (show k ≠ advertiserId by omega), h.requested k hk']
  · intro k hk
    have hne : k ≠ advertiserId := by
      rintro rfl
      exact hfree hk
    refine ⟨?_, (h.live k hk).2⟩
    rw [Table.lookup_erase, if_neg hne, (h.live k hk).1]
  · intro k hk
    exact h.requested_neg k (AList.mem_erase.1 hk).2

section Step

variable [DecidableEq A]

/-- A start that meets the condition. -/
theorem step_start (h : InvariantApp s sets) {service : Option Service} {request : Request}
    {callback : A} (hcareful : CarefulApp s sets (.start service request callback)) :
    ∃ s' seen, s.handle (.start service request callback) = .ok (s', seen) ∧
      InvariantApp s' (sets.followApp s s' (.start service request callback)) := by
  have hsame : sets.followApp s s (.start service request callback) = sets := by
    simp only [Sets.followApp, System.startedWith, if_true]
  cases service with
  | none =>
      refine ⟨s, _, rfl, ?_⟩
      rw [hsame]
      exact h
  | some service =>
      cases hcheck : checkAdvertisingSet service request with
      | error refusal =>
          refine ⟨s, [.threw refusal], ?_, ?_⟩
          · simp only [System.handle, System.startAdvertisingSet, hcheck]
          · rw [hsame]
            exact h
      | ok _ =>
          have hnew : (s.afterStart callback).manager.sTempRegistrationId ≠
              s.manager.sTempRegistrationId := by
            show s.manager.sTempRegistrationId - 1 ≠ s.manager.sTempRegistrationId
            omega
          refine ⟨s.afterStart callback, [],
            System.handle_start hcheck (hcareful service rfl hcheck) callback, ?_⟩
          simp only [Sets.followApp, System.startedWith, if_neg hnew]
          exact h.start callback

variable {advertiserId : UInt8}

/-- The answer to a request, as the manager hands it on. -/
theorem handle_started (h : InvariantApp s sets) {txPower status : Int}
    (hmem : regId ∈ sets.requested) :
    s.handle (.started regId advertiserId txPower status) =
      (s.advertiser.onAdvertisingSetStarted advertiserId.toNat txPower status).map fun r =>
        (⟨r.1, { s.manager with
          mAdvertisers :=
            if status = 0 then
              (s.manager.mAdvertisers.emplace (advertiserId.toNat : Int) ()).erase regId
            else s.manager.mAdvertisers.erase (advertiserId.toNat : Int) }⟩, r.2) := by
  simp only [System.handle, System.throughManager, Manager.handle,
    Manager.onAdvertisingSetStarted, h.requested regId hmem, bind, Except.bind,
    LeAdvertiser.callbacks_singleton, LeAdvertiser.callback]
  cases s.advertiser.onAdvertisingSetStarted advertiserId.toNat txPower status <;> rfl

theorem step_started (h : InvariantApp s sets) {txPower status : Int}
    (hlegal : LegalApp sets (.started regId advertiserId txPower status))
    (hcareful : CarefulApp s sets (.started regId advertiserId txPower status)) :
    ∃ s' seen, s.handle (.started regId advertiserId txPower status) = .ok (s', seen) ∧
      InvariantApp s' (sets.followApp s s' (.started regId advertiserId txPower status)) ∧
      RightApp sets seen (.started regId advertiserId txPower status) := by
  obtain ⟨⟨callback, stopAsked⟩, hlookup⟩ :=
    Option.isSome_iff_exists.1 (AList.lookup_isSome.2 hlegal.1)
  have hregId := h.requested_neg regId hlegal.1
  have hcb := hcareful.1 callback stopAsked hlookup
  rw [h.handle_started hlegal.1]
  simp only [LeAdvertiser.onAdvertisingSetStarted, LeAdvertiser.lastCallback_ok hcb]
  by_cases hstatus : status = 0
  · subst hstatus
    refine ⟨_, _, rfl, ?_, ?_⟩
    · simp only [Sets.followApp, Sets.answer, hlookup]
      refine h.answer_success hregId (Int.natCast_nonneg _) hcb ?_
      intro k hk
      split at hk
      · exact (AList.mem_insert _).1 hk
      · exact .inr hk
    · intro callback' stopAsked' hlookup'
      rw [hlookup] at hlookup'
      cases hlookup'
      rfl
  · have hfail : status ≠ ADVERTISE_SUCCESS := hstatus
    simp only [if_pos hfail, if_neg hstatus]
    refine ⟨_, _, rfl, ?_, ?_⟩
    · simp only [Sets.followApp, Sets.answer, hlookup, hstatus, false_and, if_false]
      exact h.answer_failure (Int.natCast_nonneg _) (hcareful.2 hstatus)
    · intro callback' stopAsked' hlookup'
      rw [hlookup] at hlookup'
      cases hlookup'
      rw [if_neg hfail]

/-- A notice, as the manager hands it on if it has an entry. -/
theorem handle_notice {notice : Notice} :
    s.handle (.notice advertiserId notice) =
      match s.manager.mAdvertisers.lookup (advertiserId.toNat : Int) with
      | none => .ok (s, [])
      | some _ => (s.advertiser.onNotice advertiserId.toNat notice).map fun r =>
          (⟨r.1, s.manager⟩, r.2) := by
  simp only [System.handle, System.throughManager, Manager.handle, Manager.onNotice_eq,
    Manager.deliver, bind, Except.bind]
  cases s.manager.mAdvertisers.lookup (advertiserId.toNat : Int) with
  | none => rfl
  | some _ =>
      rw [LeAdvertiser.callbacks_singleton, LeAdvertiser.callback]
      cases s.advertiser.onNotice advertiserId.toNat notice <;> rfl

theorem step_notice (h : InvariantApp s sets) {notice : Notice}
    (hcareful : CarefulApp s sets (.notice advertiserId notice)) :
    ∃ s' seen, s.handle (.notice advertiserId notice) = .ok (s', seen) ∧
      InvariantApp s' (sets.followApp s s' (.notice advertiserId notice)) ∧
      RightApp sets seen (.notice advertiserId notice) := by
  rw [handle_notice]
  by_cases hlive : (advertiserId.toNat : Int) ∈ sets.live
  · obtain ⟨callback, hlookup⟩ := Option.isSome_iff_exists.1 (AList.lookup_isSome.2 hlive)
    have hcb := hcareful callback hlookup
    obtain ⟨hentry, hhandle⟩ := h.live _ hlive
    refine ⟨s, [.noticed callback ⟨advertiserId.toNat⟩ notice], ?_, h, ?_⟩
    · simp only [hentry, LeAdvertiser.onNotice, hhandle, LeAdvertiser.lastCallback_ok hcb]
      rfl
    · intro callback' hlookup'
      rw [hlookup] at hlookup'
      cases hlookup'
      rfl
  · have hvacuous : ∀ seen, RightApp sets seen (.notice advertiserId notice) := by
      intro seen callback hlookup
      exact absurd (Table.mem_of_lookup hlookup) hlive
    cases hentry : s.manager.mAdvertisers.lookup (advertiserId.toNat : Int) with
    | none => exact ⟨s, [], rfl, h, hvacuous _⟩
    | some _ =>
        simp only [LeAdvertiser.onNotice]
        cases hhandle : s.advertiser.mAdvertisingSets.lookup (advertiserId.toNat : Int) with
        | none => exact ⟨s, [], rfl, h, hvacuous _⟩
        | some hd =>
            obtain ⟨callback, hcb⟩ := Option.ne_none_iff_exists'.1 (h.cb _ hd hhandle)
            refine ⟨s, [.noticed callback hd notice], ?_, h, hvacuous _⟩
            simp only [LeAdvertiser.lastCallback_ok hcb]
            rfl

/-- One event that meets the condition. -/
theorem step (h : InvariantApp s sets) (hlegal : LegalApp sets event)
    (hcareful : CarefulApp s sets event) :
    ∃ s' seen, s.handle event = .ok (s', seen) ∧
      InvariantApp s' (sets.followApp s s' event) ∧ RightApp sets seen event := by
  cases event with
  | start service request callback =>
      obtain ⟨s', seen, hhandle, hinv⟩ := h.step_start hcareful
      exact ⟨s', seen, hhandle, hinv, trivial⟩
  | stop callback =>
      have hnone : s.advertiser.mCallback.lookup callback = none :=
        AList.lookup_eq_none.2 hcareful
      refine ⟨s, [], ?_, h, trivial⟩
      simp only [System.handle, System.stopAdvertisingSet, hnone]
  | update advertisingSet => exact ⟨s, [], rfl, h, trivial⟩
  | started regId advertiserId txPower status => exact h.step_started hlegal hcareful
  | notice advertiserId notice => exact h.step_notice hcareful

/-- The answer to a request is delivered right only to the callback that came last. -/
theorem careful_of_started (h : InvariantApp s sets) {txPower status : Int}
    (hlegal : LegalApp sets (.started regId advertiserId txPower status))
    (hright : DeliveredRight s sets (.started regId advertiserId txPower status)) :
    CarefulApp s sets (.started regId advertiserId txPower status) := by
  obtain ⟨s', seen, hhandle, hheard, hseen⟩ := hright
  rw [h.handle_started hlegal.1] at hhandle
  cases hcb : s.advertiser.mCb with
  | none =>
      simp only [LeAdvertiser.onAdvertisingSetStarted, LeAdvertiser.lastCallback, hcb] at hhandle
      cases hhandle
  | some callback' =>
      simp only [LeAdvertiser.onAdvertisingSetStarted, LeAdvertiser.lastCallback_ok hcb] at hhandle
      by_cases hstatus : status = 0
      · subst hstatus
        cases hhandle
        refine ⟨?_, fun hne => absurd rfl hne⟩
        intro callback stopAsked hlookup
        have heq := hseen callback stopAsked hlookup
        simp only [ADVERTISE_SUCCESS, if_true, cons.injEq, AppOutput.started.injEq] at heq
        rw [hcb, heq.1.1]
      · have hfail : status ≠ ADVERTISE_SUCCESS := hstatus
        simp only [if_pos hfail, if_neg hstatus] at hhandle
        cases hhandle
        refine ⟨?_, ?_⟩
        · intro callback stopAsked hlookup
          have heq := hseen callback stopAsked hlookup
          simp only [if_neg hfail, cons.injEq, AppOutput.started.injEq] at heq
          rw [hcb, heq.1.1]
        · -- the entry of a live set is gone
          intro _ hlive
          obtain ⟨⟨callback, stopAsked⟩, hlookup⟩ :=
            Option.isSome_iff_exists.1 (AList.lookup_isSome.2 hlegal.1)
          simp only [Sets.followApp, Sets.answer, hlookup, hstatus, false_and,
            if_false] at hheard
          have hgone := (hheard.live _ hlive).1
          rw [Table.lookup_erase, if_pos rfl] at hgone
          cases hgone

/-- So is a notice about a live set. -/
theorem careful_of_notice (h : InvariantApp s sets) {notice : Notice}
    (hright : DeliveredRight s sets (.notice advertiserId notice)) :
    CarefulApp s sets (.notice advertiserId notice) := by
  obtain ⟨s', seen, hhandle, -, hseen⟩ := hright
  intro callback hlookup
  obtain ⟨hentry, hhd⟩ := h.live _ (Table.mem_of_lookup hlookup)
  rw [handle_notice, hentry] at hhandle
  simp only [LeAdvertiser.onNotice, hhd] at hhandle
  cases hcb : s.advertiser.mCb with
  | none =>
      rw [LeAdvertiser.lastCallback, hcb] at hhandle
      cases hhandle
  | some callback' =>
      rw [LeAdvertiser.lastCallback_ok hcb] at hhandle
      cases hhandle
      have heq := hseen callback hlookup
      simp only [cons.injEq, AppOutput.noticed.injEq] at heq
      rw [heq.1.1]

/-- Where an event of a reached state is delivered right, it meets the condition. -/
theorem careful_of_deliveredRight (h : InvariantApp s sets) (hlegal : LegalApp sets event)
    (hright : DeliveredRight s sets event) : CarefulApp s sets event := by
  cases event with
  | start service request callback =>
      obtain ⟨s', seen, hhandle, -⟩ := hright
      rintro service' rfl hcheck hmin
      simp only [System.handle, System.startAdvertisingSet, hcheck, System.throughManager,
        Manager.handle, Manager.startAdvertisingSet, decrement, if_pos hmin] at hhandle
      cases hhandle
  | stop callback =>
      obtain ⟨s', seen, hhandle, -⟩ := hright
      intro hmem
      obtain ⟨u, hu⟩ := Option.isSome_iff_exists.1 (AList.lookup_isSome.2 hmem)
      simp only [System.handle, System.stopAdvertisingSet, hu] at hhandle
      cases hhandle
  | update advertisingSet => trivial
  | started regId advertiserId txPower status => exact h.careful_of_started hlegal hright
  | notice advertiserId notice => exact h.careful_of_notice hright

end Step

end InvariantApp

section Runs

variable [DecidableEq A] {s : System A} {sets : Sets A}

theorem ReachesApp.invariant (h : ReachesApp s sets) : InvariantApp s sets := by
  induction h with
  | initial => exact InvariantApp.initial
  | @step s s' sets event seen _ hlegal hcareful hhandle ih =>
      obtain ⟨s'', seen', hok, hinv, -⟩ := ih.step hlegal hcareful
      rw [hhandle] at hok
      cases hok
      exact hinv

/-- In every run whose events meet the condition no set is cut off, and the next event is
delivered right exactly if it meets the condition too. -/
theorem reachesApp_heard (h : ReachesApp s sets) :
    Heard s sets ∧
      ∀ event, LegalApp sets event → (DeliveredRight s sets event ↔ CarefulApp s sets event) := by
  refine ⟨h.invariant.toHeard, ?_⟩
  intro event hlegal
  constructor
  · intro hright
    exact h.invariant.careful_of_deliveredRight hlegal hright
  · intro hcareful
    obtain ⟨s', seen, hhandle, hinv, hseen⟩ := h.invariant.step hlegal hcareful
    exact ⟨s', seen, hhandle, hinv.toHeard, hseen⟩

end Runs

section TwoSets

def plainService : Service := ⟨[], false, false, false, 31⟩

def plainRequest : Request := ⟨false, true, 1, 1, false, noData⟩

/-- Two applications have asked for a set, the one with callback 2 last. -/
def twoRequested : System Nat := (System.initial.afterStart 1).afterStart 2

def twoRequestedSets : Sets Nat :=
  ⟨AList.insert (-3) (2, false) (AList.singleton (-2) (1, false)), ∅⟩

theorem twoRequested_reaches : ReachesApp twoRequested twoRequestedSets := by
  have hcheck : checkAdvertisingSet plainService plainRequest = .ok () := rfl
  have hfirst : System.initial.handle (.start (some plainService) plainRequest 1) =
      .ok (System.initial.afterStart 1, []) := System.handle_start hcheck (by decide) 1
  have hsecond : (System.initial.afterStart 1).handle (.start (some plainService) plainRequest 2) =
      .ok (twoRequested, []) := System.handle_start hcheck (by decide) 2
  have hone := @ReachesApp.step _ _ _ _ _ (.start (some plainService) plainRequest 1) _
    .initial trivial (fun _ _ _ => by decide) hfirst
  exact @ReachesApp.step _ _ _ _ _ (.start (some plainService) plainRequest 2) _
    hone trivial (fun _ _ _ => by decide) hsecond

theorem twoRequested_last :
    DeliveredRight twoRequested twoRequestedSets (.started (-3) 0 0 0) := by
  refine ((reachesApp_heard twoRequested_reaches).2 (.started (-3) 0 0 0) ?_).2 ?_
  · exact ⟨by decide, fun _ => AList.notMem_empty _⟩
  · refine ⟨?_, fun h => absurd rfl h⟩
    intro callback stopAsked hlookup
    cases hlookup
    rfl

/-- The answer to the first request goes to the callback of the second one. -/
theorem twoRequested_first_not_deliveredRight :
    ReachesApp twoRequested twoRequestedSets ∧
      LegalApp twoRequestedSets (.started (-2) 0 0 0) ∧
      ¬ DeliveredRight twoRequested twoRequestedSets (.started (-2) 0 0 0) := by
  have hlegal : LegalApp twoRequestedSets (.started (-2) 0 0 0) :=
    ⟨by decide, fun _ => AList.notMem_empty _⟩
  refine ⟨twoRequested_reaches, hlegal, ?_⟩
  intro hright
  have hcareful := twoRequested_reaches.invariant.careful_of_deliveredRight hlegal hright
  exact absurd (hcareful.1 1 false rfl) (by decide)

end TwoSets

end Gatt.Advertiser
