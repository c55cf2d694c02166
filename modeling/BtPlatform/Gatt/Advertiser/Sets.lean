import BtPlatform.Gatt.Advertiser.Manager

/-!
# Registrations and live sets

The advertising sets as they are seen from outside: requested ones by their registration
id, with the callback and whether a stop was asked for, and live ones by their advertiser
id. The manager should have an entry for each of them and for no other set.
-/

namespace Gatt.Advertiser

open Support List

variable {C : Type}

/-- The advertising sets that are requested or live. -/
structure Sets (C : Type) where
  requested : Table Int (C × Bool)
  live : Table Int C

namespace Sets

def initial : Sets C := ⟨∅, ∅⟩

/-- A stop of the set that the manager found. -/
def stop (sets : Sets C) (k : Int) : Sets C :=
  match sets.requested.lookup k with
  | some (callback, _) => { sets with requested := sets.requested.insert k (callback, true) }
  | none => { sets with live := sets.live.erase k }

/-- The answer to a request. The set is live from now on, unless the start failed or a stop
was asked for. -/
def answer (sets : Sets C) (regId advertiserId status : Int) : Sets C :=
  match sets.requested.lookup regId with
  | none => sets
  | some (callback, stopAsked) =>
      { requested := sets.requested.erase regId
        live := if status = 0 ∧ stopAsked = false then sets.live.insert advertiserId callback
          else sets.live }

/-- What becomes of the sets, given what was asked of the controller. -/
def follow (sets : Sets C) (outputs : List (Output C)) : Event C → Sets C
  | .start _ _ callback =>
      match outputs with
      | [.startNative regId _ _ _ _ _] =>
          { sets with requested := sets.requested.insert regId (callback, false) }
      | _ => sets
  | .stop _ none => sets
  | .stop _ (some k) => sets.stop k
  | .started regId advertiserId _ status => sets.answer regId advertiserId.toNat status
  | .notice _ _ => sets

end Sets

/-- What can happen: the loop of a stop ends where it can, and the controller answers each
request once, with an advertiser id that no live set has. -/
def Legal (m : Manager C) (sets : Sets C) : Event C → Prop
  | .start _ _ _ => True
  | .stop callback it => m.Finds callback it
  | .started regId advertiserId _ status =>
      regId ∈ sets.requested ∧ (status = 0 → (advertiserId.toNat : Int) ∉ sets.live)
  | .notice _ _ => True

/-- An entry for each requested or live set and no other entry. -/
structure Follows (m : Manager C) (sets : Sets C) : Prop where
  entries : ∀ k, m.mAdvertisers.lookup k =
    if k < 0 then (sets.requested.lookup k).map Prod.fst else sets.live.lookup k
  requested_neg : ∀ k ∈ sets.requested, k < 0
  live_nonneg : ∀ k ∈ sets.live, 0 ≤ k

/-- The outputs an event should have: the answer to a request goes to its callback, and the
set is stopped if that was asked for before; a notice about a live set goes to the
callback that started it. -/
def Right (sets : Sets C) (outputs : List (Output C)) : Event C → Prop
  | .start _ _ _ => True
  | .stop _ _ => True
  | .started regId advertiserId txPower status =>
      ∀ callback stopAsked, sets.requested.lookup regId = some (callback, stopAsked) →
        .started callback advertiserId.toNat txPower status ∈ outputs ∧
          (stopAsked = true → status = 0 → .stopNative advertiserId.toNat ∈ outputs)
  | .notice advertiserId notice =>
      ∀ callback : C, sets.live.lookup (advertiserId.toNat : Int) = some callback →
        outputs = [.noticed callback advertiserId.toNat notice]

/-- The event is handled with the right outputs, and the entries still follow the sets. -/
def HandledRight (m : Manager C) (sets : Sets C) (event : Event C) : Prop :=
  ∃ m' outputs, m.handle event = .ok (m', outputs) ∧
    Follows m' (sets.follow outputs event) ∧ Right sets outputs event

/-- The events the manager handles right: the registration ids are not used up, no live set
is stopped, and the start of a set does not fail and was not asked to be stopped. -/
def Careful (m : Manager C) (sets : Sets C) : Event C → Prop
  | .start deviceName _ _ => deviceName ≠ none → m.sTempRegistrationId ≠ INT_MIN
  | .stop _ it => ∀ k, it = some k → k < 0
  | .started regId _ _ status =>
      status = 0 ∧ ∀ callback stopAsked,
        sets.requested.lookup regId = some (callback, stopAsked) → stopAsked = false
  | .notice _ _ => True

/-- The states of the runs in which every event meets the condition. -/
inductive Reaches : Manager C → Sets C → Prop where
  | initial : Reaches Manager.initial Sets.initial
  | step {m m' : Manager C} {sets : Sets C} {event : Event C} {outputs : List (Output C)} :
      Reaches m sets → Legal m sets event → Careful m sets event →
      m.handle event = .ok (m', outputs) → Reaches m' (sets.follow outputs event)

/-- What the proof carries along: the registration ids of the requested sets were given
out before. -/
structure Invariant (m : Manager C) (sets : Sets C) : Prop extends Follows m sets where
  temp_neg : m.sTempRegistrationId < 0
  requested_ge : ∀ k ∈ sets.requested, m.sTempRegistrationId ≤ k

namespace Invariant

variable {m m' : Manager C} {sets : Sets C} {event : Event C} {outputs : List (Output C)}

theorem initial : Invariant (Manager.initial : Manager C) Sets.initial where
  entries := by
    intro k
    simp [Manager.initial, Sets.initial]
  requested_neg := fun _ h => absurd h (AList.notMem_empty _)
  live_nonneg := fun _ h => absurd h (AList.notMem_empty _)
  temp_neg := Int.negSucc_lt_zero 0
  requested_ge := fun _ h => absurd h (AList.notMem_empty _)

/-- A request gets a registration id that no requested set has. -/
theorem start (h : Invariant m sets) (callback : C) :
    Invariant ⟨m.sTempRegistrationId - 1,
        m.mAdvertisers.emplace (m.sTempRegistrationId - 1) callback⟩
      { sets with
        requested := sets.requested.insert (m.sTempRegistrationId - 1) (callback, false) } := by
  have hneg := h.temp_neg
  have hfresh : sets.requested.lookup (m.sTempRegistrationId - 1) = none := by
    rw [AList.lookup_eq_none]
    intro hmem
    have := h.requested_ge _ hmem
    omega
  refine ⟨⟨?_, ?_, h.live_nonneg⟩, ?_, ?_⟩
  · intro k
    rw [Table.lookup_emplace, h.entries, Table.lookup_insert]
    by_cases hk : k = m.sTempRegistrationId - 1
    · subst hk
      rw [if_pos (by omega), if_pos rfl, if_pos rfl, if_pos (by omega), hfresh]
      rfl
    · rw [if_neg hk, if_neg hk, Option.or_none]
  · intro k hk
    obtain rfl | hk := (AList.mem_insert _).1 hk
    · omega
    · exact h.requested_neg k hk
  · show m.sTempRegistrationId - 1 < 0
    omega
  · intro k hk
    obtain rfl | hk := (AList.mem_insert _).1 hk
    · exact Int.le_refl _
    · have := h.requested_ge k hk
      show m.sTempRegistrationId - 1 ≤ k
      omega

/-- A stop before the answer is only noted. -/
theorem stop (h : Invariant m sets) {k : Int} (hk : k < 0) : Invariant m (sets.stop k) := by
  unfold Sets.stop
  split
  · next callback stopAsked hlookup =>
      refine ⟨⟨?_, ?_, h.live_nonneg⟩, h.temp_neg, ?_⟩
      · intro k'
        rw [h.entries, Table.lookup_insert]
        split
        · split
          · next heq =>
              rw [heq, hlookup]
              rfl
          · rfl
        · rfl
      · intro k' hk'
        obtain rfl | hk' := (AList.mem_insert _).1 hk'
        · exact hk
        · exact h.requested_neg k' hk'
      · intro k' hk'
        obtain rfl | hk' := (AList.mem_insert _).1 hk'
        · exact h.requested_ge _ (Table.mem_of_lookup hlookup)
        · exact h.requested_ge k' hk'
  · next hlookup =>
      refine ⟨⟨?_, h.requested_neg, ?_⟩, h.temp_neg, h.requested_ge⟩
      · intro k'
        rw [h.entries, Table.lookup_erase]
        split
        · rfl
        · rw [if_neg (by omega)]
      · intro k' hk'
        exact h.live_nonneg k' (AList.mem_erase.1 hk').2

/-- A successful answer moves the entry from the registration id to the advertiser id. -/
theorem answer (h : Invariant m sets) {regId advertiserId : Int} {callback : C}
    (hlookup : sets.requested.lookup regId = some (callback, false))
    (hid : 0 ≤ advertiserId) (hfree : advertiserId ∉ sets.live) :
    Invariant
      { m with mAdvertisers := (m.mAdvertisers.emplace advertiserId callback).erase regId }
      { requested := sets.requested.erase regId
        live := sets.live.insert advertiserId callback } := by
  have hregId : regId < 0 := h.requested_neg regId (Table.mem_of_lookup hlookup)
  refine ⟨⟨?_, ?_, ?_⟩, h.temp_neg, ?_⟩
  · intro k
    rw [Table.lookup_erase, Table.lookup_emplace, h.entries]
    by_cases hneg : k < 0
    · rw [if_pos hneg, if_pos hneg, if_neg (show k ≠ advertiserId by omega), Option.or_none,
        Table.lookup_erase]
      split
      · rfl
      · rfl
    · rw [if_neg hneg, if_neg hneg, if_neg (show k ≠ regId by omega), Table.lookup_insert]
      split
      · next heq =>
          rw [heq, AList.lookup_eq_none.2 hfree, Option.none_or]
      · rw [Option.or_none]
  · intro k hk
    exact h.requested_neg k (AList.mem_erase.1 hk).2
  · intro k hk
    obtain rfl | hk := (AList.mem_insert _).1 hk
    · exact hid
    · exact h.live_nonneg k hk
  · intro k hk
    exact h.requested_ge k (AList.mem_erase.1 hk).2

/-- One event that meets the condition. -/
theorem step (h : Invariant m sets) (hlegal : Legal m sets event)
    (hcareful : Careful m sets event) :
    ∃ m' outputs, m.handle event = .ok (m', outputs) ∧
      Invariant m' (sets.follow outputs event) ∧ Right sets outputs event := by
  cases event with
  | start deviceName data callback =>
      cases deviceName with
      | none => exact ⟨m, [], rfl, h, trivial⟩
      | some deviceName =>
          have hid := decrement_ok (hcareful (Option.some_ne_none _))
          refine ⟨_, [.startNative (m.sTempRegistrationId - 1)
            (advertiseDataToBytes data.advertiseData deviceName)
            (advertiseDataToBytes data.scanResponse deviceName)
            (advertiseDataToBytes data.periodicData deviceName) data.duration
            data.maxExtAdvEvents], ?_, h.start callback, trivial⟩
          simp only [Manager.handle, Manager.startAdvertisingSet, hid]
          rfl
  | stop callback it =>
      cases it with
      | none => exact ⟨m, [], rfl, h, trivial⟩
      | some k =>
          have hk : k < 0 := hcareful k rfl
          refine ⟨m, [], ?_, h.stop hk, trivial⟩
          simp only [Manager.handle, Manager.stopAdvertisingSet, if_pos hk]
  | started regId advertiserId txPower status =>
      obtain ⟨rfl, hasked⟩ := hcareful
      obtain ⟨⟨callback, stopAsked⟩, hlookup⟩ :=
        Option.isSome_iff_exists.1 (AList.lookup_isSome.2 hlegal.1)
      obtain rfl := hasked callback stopAsked hlookup
      have hregId : regId < 0 := h.requested_neg regId (Table.mem_of_lookup hlookup)
      have hentry : m.mAdvertisers.lookup regId = some callback := by
        rw [h.entries, if_pos hregId, hlookup]
        rfl
      have hanswer := h.answer hlookup (Int.natCast_nonneg advertiserId.toNat) (hlegal.2 rfl)
      refine ⟨{ m with
          mAdvertisers := (m.mAdvertisers.emplace
            (advertiserId.toNat : Int) callback).erase regId },
        [.started callback advertiserId.toNat txPower 0], ?_, ?_, ?_⟩
      · simp only [Manager.handle, Manager.onAdvertisingSetStarted, hentry, if_true]
      · simpa only [Sets.follow, Sets.answer, hlookup, and_self, if_true] using hanswer
      · intro callback' stopAsked' hlookup'
        rw [hlookup] at hlookup'
        cases hlookup'
        exact ⟨mem_singleton_self _, fun h => absurd h Bool.false_ne_true⟩
  | notice advertiserId notice =>
      refine ⟨m, m.onNotice advertiserId.toNat notice, rfl, h, ?_⟩
      intro callback hlive
      have hentry : m.mAdvertisers.lookup (advertiserId.toNat : Int) = some callback := by
        rw [h.entries, if_neg (by omega)]
        exact hlive
      rw [Manager.onNotice_eq, Manager.deliver, hentry]

end Invariant

theorem Reaches.invariant {m : Manager C} {sets : Sets C} (h : Reaches m sets) :
    Invariant m sets := by
  induction h with
  | initial => exact Invariant.initial
  | @step m m' sets event outputs _ hlegal hcareful hhandle ih =>
      obtain ⟨m'', outputs', hok, hinv, -⟩ := ih.step hlegal hcareful
      rw [hhandle] at hok
      cases hok
      exact hinv

/-- Where an event of a reached state is handled right, it meets the condition. -/
theorem Invariant.careful_of_handledRight {m : Manager C} {sets : Sets C} {event : Event C}
    (h : Invariant m sets) (hlegal : Legal m sets event) (hright : HandledRight m sets event) :
    Careful m sets event := by
  obtain ⟨m', outputs, hhandle, hfollows, houtputs⟩ := hright
  cases event with
  | start deviceName data callback =>
      intro hup hmin
      obtain ⟨deviceName, rfl⟩ := Option.ne_none_iff_exists'.1 hup
      simp only [Manager.handle, Manager.startAdvertisingSet, decrement, if_pos hmin] at hhandle
      cases hhandle
  | stop callback it =>
      rintro k rfl
      -- the entry of a live set stays
      by_contra hneg
      have hentry : m.mAdvertisers.lookup k = some callback := hlegal
      have hnot : sets.requested.lookup k = none := by
        rw [AList.lookup_eq_none]
        exact fun hmem => hneg (h.requested_neg k hmem)
      have hsame : m' = m := by
        simp only [Manager.handle, Manager.stopAdvertisingSet, if_neg hneg] at hhandle
        cases hhandle
        rfl
      have hgone := hfollows.entries k
      rw [hsame, hentry, if_neg hneg] at hgone
      simp only [Sets.follow, Sets.stop, hnot, AList.lookup_erase] at hgone
      cases hgone
  | started regId advertiserId txPower status =>
      obtain ⟨⟨callback, stopAsked⟩, hlookup⟩ :=
        Option.isSome_iff_exists.1 (AList.lookup_isSome.2 hlegal.1)
      have hregId : regId < 0 := h.requested_neg regId (Table.mem_of_lookup hlookup)
      have hentry : m.mAdvertisers.lookup regId = some callback := by
        rw [h.entries, if_pos hregId, hlookup]
        rfl
      simp only [Manager.handle, Manager.onAdvertisingSetStarted, hentry] at hhandle
      cases hhandle
      have hstatus : status = 0 := by
        -- a failed start leaves the entry of the registration id
        by_contra hfail
        have hgone := hfollows.entries regId
        rw [if_neg hfail, if_pos hregId, Table.lookup_erase,
          if_neg (show regId ≠ (advertiserId.toNat : Int) by omega), hentry] at hgone
        simp only [Sets.follow, Sets.answer, hlookup, AList.lookup_erase] at hgone
        cases hgone
      refine ⟨hstatus, ?_⟩
      intro callback' stopAsked' hlookup'
      by_contra hasked
      have hstop := (houtputs callback' stopAsked' hlookup').2
        (by simpa using hasked) hstatus
      cases mem_singleton.1 hstop
  | notice advertiserId notice => trivial

/-- In every run whose events meet the condition the manager has an entry for each
requested or live set and no other one, and it handles the next event right exactly if
this meets the condition too. -/
theorem reaches_follows {m : Manager C} {sets : Sets C} (h : Reaches m sets) :
    Follows m sets ∧
      ∀ event, Legal m sets event → (HandledRight m sets event ↔ Careful m sets event) := by
  refine ⟨h.invariant.toFollows, ?_⟩
  intro event hlegal
  constructor
  · intro hright
    exact h.invariant.careful_of_handledRight hlegal hright
  · intro hcareful
    obtain ⟨m', outputs, hhandle, hinv, hright⟩ := h.invariant.step hlegal hcareful
    exact ⟨m', outputs, hhandle, hinv.toFollows, hright⟩

section OneSet

/-- A set without data. -/
def noData : SetData := ⟨none, none, none, 0, 0⟩

/-- The manager with one live set, the first one that was requested. -/
def oneLive : Manager Nat := ⟨-2, AList.singleton 5 7⟩

def oneLiveSet : Sets Nat := ⟨∅, AList.singleton 5 7⟩

theorem oneLive_reaches : Reaches oneLive oneLiveSet := by
  have hrequested : Reaches (⟨-2, AList.singleton (-2) 7⟩ : Manager Nat)
      ⟨AList.singleton (-2) (7, false), ∅⟩ := by
    refine @Reaches.step _ _ _ _ (.start (some []) noData 7) [.startNative (-2) [] [] [] 0 0]
      .initial trivial ?_ rfl
    intro _
    decide
  refine @Reaches.step _ _ _ _ (.started (-2) 5 0 0) [.started 7 5 0 0] hrequested ?_ ?_ rfl
  · exact ⟨by decide, fun _ => AList.notMem_empty _⟩
  · refine ⟨rfl, ?_⟩
    intro callback stopAsked hlookup
    cases hlookup
    rfl

theorem oneLive_notice : HandledRight oneLive oneLiveSet (.notice 5 (.enabled true 0)) :=
  ((reaches_follows oneLive_reaches).2 (.notice 5 (.enabled true 0)) trivial).2 trivial

/-- A set is started, then stopped: its entry stays. -/
theorem oneLive_stop_not_handledRight :
    Reaches oneLive oneLiveSet ∧ Legal oneLive oneLiveSet (.stop 7 (some 5)) ∧
      ¬ HandledRight oneLive oneLiveSet (.stop 7 (some 5)) := by
  have hlegal : Legal oneLive oneLiveSet (.stop 7 (some 5)) := rfl
  refine ⟨oneLive_reaches, hlegal, ?_⟩
  intro hright
  have hcareful := oneLive_reaches.invariant.careful_of_handledRight hlegal hright
  exact absurd (hcareful 5 rfl) (by decide)

end OneSet

end Gatt.Advertiser
