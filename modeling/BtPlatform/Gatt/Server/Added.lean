import BtPlatform.Gatt.Server.Services
import Mathlib.Data.List.Pairwise

/-!
# Every service gets its own handles

As long as every successful answer finds its own service pending, the services of the
server are those that were added and not removed, with the handles of their answers.
-/

namespace Gatt

open List Function

/-! ## Requests -/

variable {svc : GattService}

/-- The elements of a service do not depend on its handles. -/
theorem shape_sent_of_forgetHandles {svc' : GattService}
    (h : svc.forgetHandles = svc'.forgetHandles) : svc.sent.shape = svc'.sent.shape := by
  have hforget : ∀ c : GattCharacteristic, c.sent.shape = c.forgetHandles.sent.shape := by
    intro c
    simp only [GattCharacteristic.shape, GattCharacteristic.sent,
      GattCharacteristic.forgetHandles, map_map]
    rfl
  have hwhole : ∀ s : GattService, s.sent.shape = s.forgetHandles.sent.shape := by
    intro s
    have hmap : s.characteristics.map (fun c => c.sent.shape) =
        s.characteristics.map fun c => c.forgetHandles.sent.shape :=
      map_congr_left fun c _ => hforget c
    simp only [GattService.shape, GattService.sent, GattService.forgetHandles, map_map]
    exact congrArg (fun l => (s.serviceType, s.uuid, l)) hmap
  rw [hwhole svc, hwhole svc', h]

/-- Two services without a common handle. -/
def Apart (e e' : ServiceId × List (Uuid × Int)) : Prop :=
  (e.2.map Prod.snd).Disjoint (e'.2.map Prod.snd)

instance : Std.Symm Apart := ⟨fun _ _ h _ ha hb => h hb ha⟩

/-- The requests that are not answered have the elements of their services, and no two
registered services share a handle. -/
structure Consistent (r : ServerRun) (m : Registered) : Prop where
  requests : ∀ p request, (p, request) ∈ r.inFlight → ∃ checkServiceExists svc,
    request = libAddService checkServiceExists svc ∧
      svc.sent.shape = (r.server.objects p).sent.shape
  disjoint : m.Pairwise Apart

section Steps

variable {s : GattServer} {m : Registered} {r r' : ServerRun} {reports : List AddedReport}

theorem Tracks.mem_iff (h : Tracks s m) (p : ServiceId) :
    p ∈ s.mServices ↔ ∃ attributes, (p, attributes) ∈ m := by
  rw [h.exactly.mem_iff, mem_map]
  constructor
  · rintro ⟨⟨q, attributes⟩, hmem, rfl⟩
    exact ⟨attributes, hmem⟩
  · rintro ⟨attributes, hmem⟩
    exact ⟨(p, attributes), hmem, rfl⟩

theorem Tracks.nodup (h : Tracks s m) : (m.map Prod.fst).Nodup := h.exactly.nodup_iff.1 h.once

variable {p : ServiceId} {service : List GattDbElement} {event : ServerEvent}

theorem nodup_snoc {l : List ServiceId} : (l ++ [p]).Nodup ↔ l.Nodup ∧ p ∉ l := by
  rw [(perm_append_singleton p l).nodup_iff, nodup_cons, and_comm]

theorem map_fst_filter (p : ServiceId) (m : Registered) :
    (m.filter fun entry => entry.1 != p).map Prod.fst = (m.map Prod.fst).filter (· != p) := by
  rw [filter_map]
  rfl

/-- The service itself is found, if it is there. -/
theorem getService_self_ne_none (hmem : p ∈ s.mServices) : s.getService (s.objects p) ≠ none := by
  intro hnone
  rw [GattServer.getService, find?_eq_none] at hnone
  exact hnone p hmem (decide_eq_true ⟨rfl, rfl, rfl⟩)

theorem Tracks.erase (h : Tracks s m) (p : ServiceId) :
    Tracks { s with mServices := s.mServices.erase p } (m.filter fun entry => entry.1 != p) := by
  refine ⟨?_, h.once.erase p, ?_⟩
  · show (s.mServices.erase p).Perm _
    rw [map_fst_filter, ← h.nodup.erase_eq_filter]
    exact h.exactly.erase p
  · intro q attributes hmem
    exact h.handles q attributes (mem_filter.1 hmem).1

theorem remove_keeps_iff (h : Tracks r.server m) (service : ServiceId) :
    KeepsServices r m (.removeService service) ↔
      CarefulServices r (.removeService service) := by
  simp only [KeepsServices, ServerRun.step, CarefulServices, expectedReports, true_and,
    Registered.after, GattServer.removeService]
  cases hfound : r.server.getService (r.server.objects service) with
  | none =>
      -- the service is not there, so there is nothing to remove
      have hnotMem : service ∉ r.server.mServices :=
        fun hmem => getService_self_ne_none hmem hfound
      have hfilter : (m.filter fun entry => entry.1 != service) = m := by
        rw [filter_eq_self]
        intro entry hentry
        rw [bne_iff_ne]
        rintro rfl
        exact hnotMem ((h.mem_iff _).2 ⟨entry.2, hentry⟩)
      simp only [hfilter, reduceCtorEq, false_implies, implies_true, iff_true]
      exact h
  | some q =>
      simp only [Option.some.injEq, forall_eq']
      constructor
      · intro htracks
        by_contra hne
        have hq : q ∈ r.server.mServices := mem_of_find?_eq_some hfound
        obtain ⟨attributes, hattributes⟩ := (h.mem_iff q).1 hq
        have hkept : q ∈ r.server.mServices.erase q :=
          (htracks.mem_iff q).2 ⟨attributes, mem_filter.2 ⟨hattributes, bne_iff_ne.2 hne⟩⟩
        exact h.once.not_mem_erase hkept
      · rintro rfl
        exact h.erase q

/-- A service with new handles, at the end of the list. -/
theorem Tracks.add (h : Tracks s m) (hnotMem : p ∉ s.mServices) (svc : GattService)
    (pending : Option ServiceId) :
    Tracks ⟨update s.objects p svc, pending, s.mServices ++ [p]⟩
      (m ++ [(p, svc.attributes)]) := by
  refine ⟨?_, ?_, ?_⟩
  · show (s.mServices ++ [p]).Perm _
    rw [map_append]
    exact h.exactly.append_right [p]
  · show (s.mServices ++ [p]).Nodup
    exact nodup_snoc.2 ⟨h.once, hnotMem⟩
  · intro q attributes hmem
    rcases mem_append.1 hmem with hold | hmem
    · have hne : q ≠ p := by
        rintro rfl
        exact hnotMem ((h.mem_iff q).2 ⟨attributes, hold⟩)
      show (update s.objects p svc q).attributes = attributes
      rw [update_of_ne hne]
      exact h.handles q attributes hold
    · obtain ⟨rfl, rfl⟩ := Prod.mk.inj (mem_singleton.1 hmem)
      show (update s.objects q svc q).attributes = svc.attributes
      rw [update_self]

/-- The answer to the request of a service that is pending. -/
theorem onAnswer_own {request : List GattDbElement}
    {inFlight : List (ServiceId × List GattDbElement)} (hconsistent : Consistent r m)
    (hflight : r.inFlight = (p, request) :: inFlight) (hfilled : Filled request service)
    (hpending : r.server.mPendingService = some p) :
    ∃ assigned, r.server.onAnswer 0 service = some (⟨update r.server.objects p assigned,
        none, r.server.mServices ++ [p]⟩, [⟨0, p⟩]) ∧
      assigned.forgetHandles = (r.server.objects p).forgetHandles ∧
      assigned.attributes = answerAttributes service := by
  have hmem : (p, request) ∈ r.inFlight := by
    rw [hflight]
    exact mem_cons_self
  obtain ⟨checkServiceExists, svc, rfl, hshape⟩ := hconsistent.requests p request hmem
  obtain ⟨rebuilt, hrebuilt, hsame, hattributes⟩ := libOnServiceAdded_filled hfilled
  obtain ⟨assigned, hassigned, hforget, hhandles⟩ := assignHandles_eq (hsame.trans hshape)
  refine ⟨assigned, ?_, hforget, hhandles.trans hattributes⟩
  simp only [GattServer.onAnswer, hrebuilt, GattServer.onServiceAdded, hpending, hassigned]
  rfl

/-- Without its own service pending an answer is not reported as it should be. -/
theorem onAnswer_reports {s' : GattServer} (h : s.onAnswer 0 service = some (s', reports))
    (hreports : reports = [⟨0, p⟩]) :
    s.mPendingService = some p ∧ s'.mServices = s.mServices ++ [p] := by
  simp only [GattServer.onAnswer, ne_eq, not_true_eq_false, if_false] at h
  cases hsvc : libOnServiceAdded service with
  | none =>
      rw [hsvc] at h
      cases h
  | some svc =>
      rw [hsvc] at h
      simp only [GattServer.onServiceAdded] at h
      cases hpending : s.mPendingService with
      | none =>
          rw [hpending] at h
          cases h
          cases hreports
      | some tmp =>
          rw [hpending] at h
          simp only at h
          split at h
          · cases h
          · cases h
            cases hreports
            exact ⟨rfl, rfl⟩

theorem answer_keeps_iff (h : Tracks r.server m) (hconsistent : Consistent r m) {status : Int}
    (hlegal : LegalAnswer r m (.answer status service)) :
    KeepsServices r m (.answer status service) ↔
      CarefulServices r (.answer status service) := by
  obtain ⟨p, request, inFlight, hflight, hfilled⟩ := hlegal
  have howner : r.owner = some p := by rw [ServerRun.owner, hflight]; rfl
  simp only [KeepsServices, ServerRun.step, hflight, CarefulServices, howner, expectedReports,
    Registered.after, Option.some.injEq, exists_eq_left']
  by_cases hstatus : status = 0
  · subst hstatus
    simp only [if_true, true_implies]
    constructor
    · intro hkeeps
      cases hanswer : r.server.onAnswer 0 service with
      | none =>
          rw [hanswer] at hkeeps
          exact hkeeps.elim
      | some answered =>
          rw [hanswer] at hkeeps
          obtain ⟨hreports, htracks⟩ := hkeeps
          obtain ⟨hpending, hservices⟩ := onAnswer_reports hanswer hreports
          refine ⟨hpending, ?_⟩
          intro hmem
          have honce := htracks.once
          rw [hservices] at honce
          exact (nodup_snoc.1 honce).2 hmem
    · rintro ⟨hpending, hnotMem⟩
      obtain ⟨assigned, hanswer, -, hattributes⟩ :=
        onAnswer_own hconsistent hflight (hfilled rfl).1 hpending
      rw [hanswer]
      refine ⟨rfl, ?_⟩
      rw [← hattributes]
      exact h.add hnotMem assigned none
  · have hanswer : r.server.onAnswer status service = some (r.server, []) := if_pos hstatus
    simp only [hanswer, Option.map_some, hstatus, if_false, false_implies, iff_true, true_and]
    exact h

/-- An event keeps to the registered services exactly when it is careful. -/
theorem keeps_iff (h : Tracks r.server m) (hconsistent : Consistent r m)
    (hlegal : LegalAnswer r m event) : KeepsServices r m event ↔ CarefulServices r event := by
  cases event with
  | addService checkServiceExists service =>
      refine iff_of_true ⟨rfl, ?_⟩ trivial
      exact ⟨h.exactly, h.once, h.handles⟩
  | removeService service => exact remove_keeps_iff h service
  | clearServices =>
      refine iff_of_true ⟨rfl, ?_⟩ trivial
      refine ⟨List.Perm.refl _, nodup_nil, ?_⟩
      intro p attributes hmem
      cases hmem
  | answer status service => exact answer_keeps_iff h hconsistent hlegal

theorem KeepsServices.of_step (hkeeps : KeepsServices r m event)
    (hstep : r.step event = some (r', reports)) : Tracks r'.server (m.after r.owner event) := by
  unfold KeepsServices at hkeeps
  rw [hstep] at hkeeps
  exact hkeeps.2

theorem Consistent.add (h : Consistent r m) (checkServiceExists : Uuid → Int → Bool)
    (service : ServiceId) :
    Consistent ⟨r.server.addService service, r.inFlight ++
      [(service, libAddService checkServiceExists (r.server.objects service))]⟩ m := by
  refine ⟨?_, h.disjoint⟩
  intro p request hmem
  rcases mem_append.1 hmem with hmem | hmem
  · exact h.requests p request hmem
  · obtain ⟨rfl, rfl⟩ := Prod.mk.inj (mem_singleton.1 hmem)
    exact ⟨checkServiceExists, r.server.objects p, rfl, rfl⟩

theorem Consistent.step (h : Consistent r m) (hlegal : LegalAnswer r m event)
    (hcareful : CarefulServices r event) (hstep : r.step event = some (r', reports)) :
    Consistent r' (m.after r.owner event) := by
  cases event with
  | addService checkServiceExists service =>
      cases hstep
      exact h.add checkServiceExists service
  | removeService service =>
      cases hstep
      refine ⟨?_, h.disjoint.filter _⟩
      intro p request hmem
      have hobjects : (r.server.removeService service).objects = r.server.objects := by
        rw [GattServer.removeService]
        split <;> rfl
      show ∃ _ _, _ ∧ _ = ((r.server.removeService service).objects p).sent.shape
      rw [hobjects]
      exact h.requests p request hmem
  | clearServices =>
      cases hstep
      exact ⟨h.requests, List.Pairwise.nil⟩
  | answer status service =>
      obtain ⟨p, request, inFlight, hflight, hfilled⟩ := hlegal
      have howner : r.owner = some p := by rw [ServerRun.owner, hflight]; rfl
      have hrest : ∀ q req, (q, req) ∈ inFlight → (q, req) ∈ r.inFlight := by
        intro q req hmem
        rw [hflight]
        exact mem_cons_of_mem _ hmem
      simp only [ServerRun.step, hflight] at hstep
      by_cases hstatus : status = 0
      · subst hstatus
        obtain ⟨p', howner', hpending, -⟩ := hcareful rfl
        obtain rfl := Option.some.inj (howner.symm.trans howner')
        obtain ⟨assigned, hanswer, hforget, hattributes⟩ :=
          onAnswer_own h hflight (hfilled rfl).1 hpending
        rw [hanswer] at hstep
        cases hstep
        refine ⟨?_, ?_⟩
        · intro q req hmem
          obtain ⟨checkServiceExists, svc, hreq, hshape⟩ := h.requests q req (hrest q req hmem)
          refine ⟨checkServiceExists, svc, hreq, hshape.trans ?_⟩
          show _ = (update r.server.objects p assigned q).sent.shape
          by_cases hq : q = p
          · subst hq
            rw [update_self]
            exact shape_sent_of_forgetHandles hforget.symm
          · rw [update_of_ne hq]
        · simp only [Registered.after, howner, if_true]
          rw [pairwise_append]
          refine ⟨h.disjoint, pairwise_singleton _ _, ?_⟩
          intro e he e' he'
          obtain rfl := mem_singleton.1 he'
          exact fun _ hold hnew => (hfilled rfl).2 e.1 e.2 he hnew hold
      · have hanswer : r.server.onAnswer status service = some (r.server, []) := if_pos hstatus
        rw [hanswer] at hstep
        cases hstep
        simp only [Registered.after, howner, if_neg hstatus]
        exact ⟨fun q req hmem => h.requests q req (hrest q req hmem), h.disjoint⟩

end Steps

/-! ## Lookups -/

section Lookups

variable {s : GattServer} {m : Registered}

theorem handle_mem_attributes {charac : GattCharacteristic}
   
    (hcharac : charac ∈ svc.characteristics) :
    charac.instanceId ∈ svc.attributes.map Prod.snd := by
  rw [GattService.attributes, map_cons, map_flatMap]
  refine mem_cons_of_mem _ (mem_flatMap.2 ⟨charac, hcharac, ?_⟩)
  exact mem_cons_self

theorem descriptor_mem_attributes {charac : GattCharacteristic} {desc : GattDescriptor}
    (hcharac : charac ∈ svc.characteristics) (hdesc : desc ∈ charac.descriptors) :
    desc.instanceId ∈ svc.attributes.map Prod.snd := by
  rw [GattService.attributes, map_cons, map_flatMap]
  refine mem_cons_of_mem _ (mem_flatMap.2 ⟨charac, hcharac, ?_⟩)
  rw [GattCharacteristic.attributes, map_cons, map_map]
  exact mem_cons_of_mem _ (mem_map.2 ⟨desc, hdesc, rfl⟩)

/-- Only one registered service has a handle. -/
theorem owner_unique (hapart : m.Pairwise Apart)
    {p q : ServiceId} {attributes attributes' : List (Uuid × Int)} {handle : Int}
    (hp : (p, attributes) ∈ m) (hhandle : handle ∈ attributes.map Prod.snd)
    (hq : (q, attributes') ∈ m) (hhandle' : handle ∈ attributes'.map Prod.snd) : p = q := by
  by_contra hne
  have hne' : (p, attributes) ≠ (q, attributes') := fun h => hne (Prod.mk.inj h).1
  exact hapart.forall hp hq hne' hhandle hhandle'

/-- What a lookup by a handle returns: an attribute with this handle, of the service that
owns it; and it finds the characteristics and descriptors of all services. -/
structure LooksUp (s : GattServer) (m : Registered) : Prop where
  characteristic : ∀ p attributes handle charac, (p, attributes) ∈ m →
    handle ∈ attributes.map Prod.snd → s.getCharacteristicByHandle handle = some charac →
      charac ∈ (s.objects p).characteristics ∧ charac.instanceId = handle
  descriptor : ∀ p attributes handle desc, (p, attributes) ∈ m →
    handle ∈ attributes.map Prod.snd → s.getDescriptorByHandle handle = some desc →
      (∃ charac ∈ (s.objects p).characteristics, desc ∈ charac.descriptors) ∧
        desc.instanceId = handle
  characteristicFound : ∀ p ∈ s.mServices, ∀ charac ∈ (s.objects p).characteristics,
    (s.getCharacteristicByHandle charac.instanceId).isSome
  descriptorFound : ∀ p ∈ s.mServices, ∀ charac ∈ (s.objects p).characteristics,
    ∀ desc ∈ charac.descriptors, (s.getDescriptorByHandle desc.instanceId).isSome

theorem Tracks.looksUp (h : Tracks s m) (hapart : m.Pairwise Apart) : LooksUp s m := by
  -- the service that a search stops at is the owner of the handle
  have howner : ∀ p attributes handle q, (p, attributes) ∈ m →
      handle ∈ attributes.map Prod.snd → q ∈ s.mServices →
      handle ∈ (s.objects q).attributes.map Prod.snd → q = p := by
    intro p attributes handle q hp hhandle hq hhandle'
    obtain ⟨attributes', hattributes'⟩ := (h.mem_iff q).1 hq
    rw [h.handles q attributes' hattributes'] at hhandle'
    exact (owner_unique hapart hp hhandle hattributes' hhandle').symm
  refine ⟨?_, ?_, ?_, ?_⟩
  · intro p attributes handle charac hp hhandle hfound
    obtain ⟨q, hq, hcharac⟩ := exists_of_findSome?_eq_some hfound
    have hmem := mem_of_find?_eq_some hcharac
    have hid : charac.instanceId = handle := by simpa using find?_some hcharac
    have hattribute := handle_mem_attributes hmem
    rw [hid] at hattribute
    obtain rfl := howner p attributes handle q hp hhandle hq hattribute
    exact ⟨hmem, hid⟩
  · intro p attributes handle desc hp hhandle hfound
    obtain ⟨q, hq, hservice⟩ := exists_of_findSome?_eq_some hfound
    obtain ⟨charac, hcharac, hdesc⟩ := exists_of_findSome?_eq_some hservice
    have hmem := mem_of_find?_eq_some hdesc
    have hid : desc.instanceId = handle := by simpa using find?_some hdesc
    have hattribute := descriptor_mem_attributes hcharac hmem
    rw [hid] at hattribute
    obtain rfl := howner p attributes handle q hp hhandle hq hattribute
    exact ⟨⟨charac, hcharac, hmem⟩, hid⟩
  · intro p hp charac hcharac
    rw [GattServer.getCharacteristicByHandle, findSome?_isSome_iff]
    refine ⟨p, hp, ?_⟩
    rw [find?_isSome]
    exact ⟨charac, hcharac, decide_eq_true rfl⟩
  · intro p hp charac hcharac desc hdesc
    rw [GattServer.getDescriptorByHandle, findSome?_isSome_iff]
    refine ⟨p, hp, ?_⟩
    rw [findSome?_isSome_iff]
    refine ⟨charac, hcharac, ?_⟩
    rw [find?_isSome]
    exact ⟨desc, hdesc, decide_eq_true rfl⟩

end Lookups

/-! ## Runs -/

section Runs

variable {objects : ServiceId → GattService} {r : ServerRun} {m : Registered}

theorem ReachesServices.tracks (h : ReachesServices objects r m) :
    Tracks r.server m ∧ Consistent r m := by
  induction h with
  | start =>
      refine ⟨⟨List.Perm.refl _, nodup_nil, ?_⟩, ?_, List.Pairwise.nil⟩
      · intro p attributes hmem
        cases hmem
      · intro p request hmem
        cases hmem
  | step event _ hlegal hcareful hstep ih =>
      exact ⟨((keeps_iff ih.1 ih.2 hlegal).2 hcareful |>.of_step hstep),
        ih.2.step hlegal hcareful hstep⟩

/-- In a run of careful events the services that were added and not removed are in
`mServices` once, with the handles of their own answers, and lookups by handle find their
attributes; and the next event keeps this, with the reports it owes, exactly when it is
careful. -/
theorem services_added (h : ReachesServices objects r m) :
    Tracks r.server m ∧ LooksUp r.server m ∧
      ∀ event, LegalAnswer r m event → (KeepsServices r m event ↔ CarefulServices r event) := by
  obtain ⟨htracks, hconsistent⟩ := h.tracks
  refine ⟨htracks, htracks.looksUp hconsistent.disjoint, ?_⟩
  intro event hlegal
  exact keeps_iff htracks hconsistent hlegal

/-- A primary service without characteristics. -/
def bareService : GattService := .create .empty 0 .primary

/-- The answer to its request, with a handle. -/
def bareAnswer (handle : Int) : List GattDbElement :=
  [{ GattDbElement.createPrimaryService .empty with attributeHandle := handle }]

/-- The requests for a bare service as the first and as the second service. -/
def bareRequest (service : ServiceId) : ServerEvent := .addService (fun _ _ => true) service

theorem bareAnswer_legal {p : ServiceId} {server : GattServer}
    {inFlight : List (ServiceId × List GattDbElement)} (handle : Int) :
    LegalAnswer ⟨server, (p, libAddService (fun _ _ => true) bareService) :: inFlight⟩ []
      (.answer 0 (bareAnswer handle)) := by
  refine ⟨p, _, inFlight, rfl, ?_⟩
  intro _
  refine ⟨rfl, ?_⟩
  intro q attributes hmem
  cases hmem

/-- One service, added and answered with the handle 40. -/
theorem services_added_one :
    let r : ServerRun := ⟨⟨update (fun _ => bareService) 1
      { bareService with instanceId := 40 }, none, [1]⟩, []⟩
    let m : Registered := [(1, [(.empty, 40)])]
    Tracks r.server m ∧ LooksUp r.server m ∧
      ∀ event, LegalAnswer r m event → (KeepsServices r m event ↔ CarefulServices r event) := by
  intro r m
  have hadded := @ReachesServices.step (fun _ => bareService) _ _ _ _ (bareRequest 1) .start
    trivial trivial rfl
  have hanswered := @ReachesServices.step (fun _ => bareService) _ r _ _
    (.answer 0 (bareAnswer 40)) hadded (bareAnswer_legal 40)
    (fun _ => ⟨1, rfl, rfl, not_mem_nil⟩) rfl
  exact services_added hanswered

/-- With two services in flight the first answer is taken for the second service. -/
theorem first_answer_taken_for_second :
    ∃ first both answered,
      (⟨⟨fun _ => bareService, none, []⟩, []⟩ : ServerRun).step (bareRequest 1) = some (first, []) ∧
      first.step (bareRequest 2) = some (both, []) ∧
      LegalAnswer both [] (.answer 0 (bareAnswer 40)) ∧
      both.step (.answer 0 (bareAnswer 40)) = some (answered, [⟨0, 2⟩]) ∧
      ¬ KeepsServices both [] (.answer 0 (bareAnswer 40)) := by
  refine ⟨_, _, _, rfl, rfl, bareAnswer_legal 40, rfl, ?_⟩
  rintro ⟨hreports, -⟩
  exact absurd hreports (by decide)

end Runs

end Gatt
