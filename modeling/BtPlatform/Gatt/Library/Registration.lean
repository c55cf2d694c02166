import BtPlatform.Gatt.Library.Registry

/-!
# Registrations of clients, scanners and servers

Every kind of application has a map of its own, and a handler of its own for the answers to
its registrations. The maps are followed beside the applications that are live, which make no
connections here.
-/

namespace Gatt

open Support List Function

inductive AppKind
  | client
  | scanner
  | server
  deriving DecidableEq

/-- What is reported to an application about its registration. -/
structure Outcome (C : Type) where
  callback : C
  status : Int
  id : Int
  deriving DecidableEq

variable {C : Type}

/-- The report, where the callback is not `NULL`. -/
def outcomes (callback : Option C) (status id : Int) : List (Outcome C) :=
  callback.toList.map fun callback => ⟨callback, status, id⟩

/-! ## The handlers -/

namespace ContextMap

variable (m : ContextMap (Option C))

def onClientRegistered (status clientIf : Int) (uuid : Uuid) :
    ContextMap (Option C) × List (Outcome C) :=
  match m.getByUuid uuid with
  | none => (m, [])
  | some app =>
      (if status = 0 then m.setId uuid clientIf else m.removeUuid uuid,
        outcomes app.callback status clientIf)

/-- `onScannerRegistered`, which removes what has the id. -/
def onScannerRegistered (status scannerId : Int) (uuid : Uuid) :
    ContextMap (Option C) × List (Outcome C) :=
  match m.getByUuid uuid with
  | none => (m, [])
  | some cbApp =>
      (if status = 0 then m.setId uuid scannerId else m.remove scannerId,
        outcomes cbApp.callback status scannerId)

/-- `onServerRegistered`; the status is only passed on. -/
def onServerRegistered (status serverIf : Int) (uuid : Uuid) :
    ContextMap (Option C) × List (Outcome C) :=
  match m.getByUuid uuid with
  | none => (m, [])
  | some app => (m.setId uuid serverIf, outcomes app.callback status serverIf)

/-- The handler of a kind. -/
def onRegistered (kind : AppKind) (status id : Int) (uuid : Uuid) :
    ContextMap (Option C) × List (Outcome C) :=
  match kind with
  | .client => m.onClientRegistered status id uuid
  | .scanner => m.onScannerRegistered status id uuid
  | .server => m.onServerRegistered status id uuid

end ContextMap

/-! ## Runs -/

/-- What happens to the applications of a kind. A registration comes with what the memory of
the new id holds; only scanners are registered without a callback. -/
inductive RegistrationEvent (C : Type)
  | register (uuid : Uuid) (memory : Int) (callback : Option C)
  | registered (status id : Int) (uuid : Uuid)
  | unregister (id : Int)

/-- `registerClient`, `registerScanner` and `registerServer`, up to the call of the stack, the
handlers of the answers, and `unregisterClient`, `unregisterScanner` and `unregisterServer`. -/
def ContextMap.handle (m : ContextMap (Option C)) (kind : AppKind) :
    RegistrationEvent C → ContextMap (Option C) × List (Outcome C)
  | .register uuid memory callback => (m.addWith uuid memory callback, [])
  | .registered status id uuid => m.onRegistered kind status id uuid
  | .unregister id => (m.remove id, [])

namespace Registry

/-- What is meant: a success gives the id to the application with the UUID, a failure removes
it, and either is reported to it. -/
def handle (a : Registry (Option C)) :
    RegistrationEvent C → Registry (Option C) × List (Outcome C)
  | .register uuid memory callback => (a.add uuid memory callback, [])
  | .registered status id uuid =>
      (if status = 0 then a.setId uuid id else a.removeUuid uuid,
        (a.apps.filter fun app => decide (app.uuid = uuid)).flatMap fun app =>
          outcomes app.callback status id)
  | .unregister id => (a.remove id, [])

/-- The condition. The UUIDs and the ids of live applications differ; a failure of a scanner
carries the id that its own entry holds, and that no earlier one holds; no registration of
a server fails; and no application goes by an id that only the memory of a new one holds. -/
def Proper (a : Registry (Option C)) (kind : AppKind) : RegistrationEvent C → Prop
  | .register uuid _ _ => ∀ app ∈ a.apps, app.uuid ≠ uuid
  | .registered status id uuid => (∃ app ∈ a.apps, app.uuid = uuid) →
      if status = 0 then ∀ app ∈ a.apps, app.uuid ≠ uuid → app.id ≠ some id
      else
        match kind with
        | .client => True
        | .scanner => ∃ app, a.apps.find? (fun app => decide (app.field = id)) = some app ∧
            app.uuid = uuid
        | .server => False
  | .unregister id => ¬a.Hits id

end Registry

/-- `mClientMap`, `mScannerMap` and `mServerMap`. -/
abbrev AppMaps (C : Type) : Type := AppKind → ContextMap (Option C)

/-- The live applications of each kind. -/
abbrev LiveApps (C : Type) : Type := AppKind → Registry (Option C)

/-- The states of all runs. -/
inductive RunsMaps : AppMaps C → LiveApps C → Prop
  | start : RunsMaps (fun _ => .empty) fun _ => .empty
  | step {maps : AppMaps C} {live : LiveApps C} (kind : AppKind) (event : RegistrationEvent C) :
      RunsMaps maps live →
      RunsMaps (update maps kind ((maps kind).handle kind event).1)
        (update live kind ((live kind).handle event).1)

/-- The states of the runs whose events meet the condition. -/
inductive ReachesMaps : AppMaps C → LiveApps C → Prop
  | start : ReachesMaps (fun _ => .empty) fun _ => .empty
  | step {maps : AppMaps C} {live : LiveApps C} (kind : AppKind) (event : RegistrationEvent C) :
      ReachesMaps maps live → (live kind).Proper kind event →
      ReachesMaps (update maps kind ((maps kind).handle kind event).1)
        (update live kind ((live kind).handle event).1)

/-- The map holds the live applications and no others, and finds each by the id of its
success. A search is not made with an id that only the memory of a new application holds. -/
structure Recorded (m : ContextMap (Option C)) (a : Registry (Option C)) : Prop where
  apps : m.mApps = a.apps.map LiveApp.entry
  found : ∀ id, ¬a.Hits id → ∀ entry, m.getById id = some entry ↔
    ∃ app ∈ a.apps, app.id = some id ∧ app.entry = entry

/-! ## What is kept -/

namespace Sound

variable {m : ContextMap (Option C)} {a : Registry (Option C)} {kind : AppKind} {status id : Int}
  {uuid : Uuid}

/-- An answer for an unknown UUID changes nothing. -/
theorem setId_unknown (hunknown : ∀ app ∈ a.apps, app.uuid ≠ uuid)
    (hnone : a.connections = ∅) : a.setId uuid id = a := by
  have happs : a.apps.map (LiveApp.withId uuid id) = a.apps.map fun app => app :=
    map_congr_left fun app hmem => if_neg (hunknown app hmem)
  unfold Registry.setId
  rw [happs, map_id', hnone]
  simp only [Set.mem_empty_iff_false, false_and, exists_false, or_self, Set.ofPred_false]
  rw [← hnone]

theorem removeUuid_unknown (hunknown : ∀ app ∈ a.apps, app.uuid ≠ uuid)
    (hnone : a.connections = ∅) : a.removeUuid uuid = a := by
  have happs : a.apps.filter (fun app => decide (app.uuid ≠ uuid)) = a.apps :=
    filter_eq_self.2 fun app hmem => decide_eq_true (hunknown app hmem)
  unfold Registry.removeUuid
  rw [happs, hnone]
  simp only [Set.mem_empty_iff_false, false_and, Set.ofPred_false]
  rw [← hnone]

/-- The search by UUID, and the applications that have the UUID. -/
theorem getByUuid_cases (h : Sound m a) (uuid : Uuid) :
    ((∀ app ∈ a.apps, app.uuid ≠ uuid) ∧ m.getByUuid uuid = none) ∨
    ∃ app ∈ a.apps, app.uuid = uuid ∧ m.getByUuid uuid = some app.entry ∧
      a.apps.filter (fun app => decide (app.uuid = uuid)) = [app] := by
  cases hentry : m.getByUuid uuid with
  | none =>
      refine .inl ⟨fun app hmem huuid => ?_, rfl⟩
      rw [(h.byUuid uuid app.entry).2 ⟨app, hmem, huuid, rfl⟩] at hentry
      cases hentry
  | some entry =>
      obtain ⟨app, hmem, huuid, rfl⟩ := (h.byUuid uuid entry).1 hentry
      refine .inr ⟨app, hmem, huuid, rfl, ?_⟩
      apply perm_singleton.1
      apply (perm_ext_iff_of_nodup (h.apps_nodup.filter _) (nodup_singleton app)).2
      intro app'
      rw [mem_filter, mem_singleton, decide_eq_true_iff]
      constructor
      · rintro ⟨hmem', huuid'⟩
        exact h.uuid_eq hmem' hmem (huuid'.trans huuid.symm)
      · rintro rfl
        exact ⟨hmem, huuid⟩

/-- Removing the id that the own entry holds is removing by the UUID. -/
theorem remove_own (h : Sound m a) (hnone : a.connections = ∅) {app : LiveApp (Option C)}
    (hfind : a.apps.find? (fun app => decide (app.field = id)) = some app)
    (huuid : app.uuid = uuid) : m.remove id = m.removeUuid uuid := by
  have hmem := mem_of_find?_eq_some hfind
  have hown : ∀ app' ∈ a.apps, decide (app'.uuid ≠ uuid) = false ↔ app' = app := by
    intro app' hmem'
    rw [decide_eq_false_iff_not, not_not]
    constructor
    · exact fun huuid' => h.uuid_eq hmem' hmem (huuid'.trans huuid.symm)
    · rintro rfl
      exact huuid
  have hfindUuid : a.apps.find? (fun app => decide (app.uuid = uuid)) = some app :=
    find?_of_unique hmem (decide_eq_true huuid) fun app' hmem' huuid' =>
      h.uuid_eq hmem' hmem ((of_decide_eq_true huuid').trans huuid.symm)
  have hfindId : a.apps.find?
      ((fun app : App (Option C) => decide (app.id = some id)) ∘ LiveApp.entry) = some app := by
    rw [← hfind]
    refine congrArg (find? · a.apps) (funext fun app => ?_)
    exact decide_eq_decide.2 Option.some_inj
  have happs : m.mApps.eraseP (fun app => decide (app.id = some id)) =
      m.mApps.eraseP fun app => decide (app.uuid = uuid) := by
    rw [h.apps, eraseP_map, eraseP_map, eraseP_eq_filter h.apps_nodup hfindId hown]
    exact congrArg _ (eraseP_eq_filter h.apps_nodup hfindUuid hown).symm
  have hconnections : m.mConnections = [] := by
    apply eq_nil_iff_forall_not_mem.2
    intro c hc
    have hmem := (h.connections c).1 hc
    rw [hnone] at hmem
    exact hmem
  unfold ContextMap.remove ContextMap.removeUuid ContextMap.removeConnectionsByAppId
  rw [getById_eq h.toAgrees, hfind, happs, hconnections]
  rfl

theorem registered (h : Sound m a) (hnone : a.connections = ∅)
    (hproper : a.Proper kind (.registered status id uuid)) :
    Sound (m.onRegistered kind status id uuid).1
      (if status = 0 then a.setId uuid id else a.removeUuid uuid) := by
  obtain ⟨hunknown, hget⟩ | ⟨app, hmem, huuid, hget, -⟩ := h.getByUuid_cases uuid
  · have hsame : (if status = 0 then a.setId uuid id else a.removeUuid uuid) = a := by
      split
      · exact setId_unknown hunknown hnone
      · exact removeUuid_unknown hunknown hnone
    have hkept : (m.onRegistered kind status id uuid).1 = m := by
      unfold ContextMap.onRegistered ContextMap.onClientRegistered ContextMap.onScannerRegistered
        ContextMap.onServerRegistered
      rw [hget]
      cases kind with
      | client => rfl
      | scanner => rfl
      | server => rfl
    rw [hsame, hkept]
    exact h
  · have hproper := hproper ⟨app, hmem, huuid⟩
    have howns : ∀ c, ¬c ∈ a.connections := by
      intro c hc
      rw [hnone] at hc
      exact hc
    have hdone : (m.onRegistered kind status id uuid).1 =
        if status = 0 then m.setId uuid id else m.removeUuid uuid := by
      unfold ContextMap.onRegistered ContextMap.onClientRegistered ContextMap.onScannerRegistered
        ContextMap.onServerRegistered
      rw [hget]
      by_cases hstatus : status = 0
      · rw [if_pos hstatus, if_pos hstatus]
        cases kind with
        | client => rfl
        | scanner => rfl
        | server => rfl
      · rw [if_neg hstatus] at hproper ⊢
        rw [if_neg hstatus]
        cases kind with
        | client => rfl
        | scanner =>
            obtain ⟨app', hfind, huuid'⟩ := hproper
            exact h.remove_own hnone hfind huuid'
        | server => exact hproper.elim
    rw [hdone]
    by_cases hstatus : status = 0
    · rw [if_pos hstatus] at hproper ⊢
      rw [if_pos hstatus]
      exact h.setId hproper fun c hc => absurd hc (howns c)
    · rw [if_neg hstatus, if_neg hstatus]
      exact h.removeUuid fun c hc => absurd hc (howns c)

theorem handle (h : Sound m a) (hnone : a.connections = ∅) {event : RegistrationEvent C}
    (hproper : a.Proper kind event) : Sound (m.handle kind event).1 (a.handle event).1 := by
  have howns : ∀ c, c ∉ a.connections := by
    intro c hc
    rw [hnone] at hc
    exact hc
  cases event with
  | register uuid memory callback => exact h.add hproper memory callback
  | registered status id uuid => exact h.registered hnone hproper
  | unregister id => exact h.remove hproper fun c hc => absurd hc (howns c)

/-- What is reported is reported to the application with the UUID. -/
theorem outcomes_eq (h : Sound m a) (kind : AppKind) (event : RegistrationEvent C) :
    (m.handle kind event).2 = (a.handle event).2 := by
  cases event with
  | register uuid memory callback => rfl
  | unregister id => rfl
  | registered status id uuid =>
      change (m.onRegistered kind status id uuid).2 = flatMap _ _
      unfold ContextMap.onRegistered ContextMap.onClientRegistered ContextMap.onScannerRegistered
        ContextMap.onServerRegistered
      obtain ⟨hunknown, hget⟩ | ⟨app, -, -, hget, hfilter⟩ := h.getByUuid_cases uuid
      · have hfilter : a.apps.filter (fun app => decide (app.uuid = uuid)) = [] :=
          filter_eq_nil_iff.2 fun app hmem huuid =>
            hunknown app hmem (of_decide_eq_true huuid)
        rw [hget, hfilter]
        cases kind with
        | client => rfl
        | scanner => rfl
        | server => rfl
      · rw [hget, hfilter, flatMap_cons, flatMap_nil, append_nil]
        cases kind with
        | client => rfl
        | scanner => rfl
        | server => rfl

end Sound

/-- Registrations make no connections. -/
theorem handle_connections {a : Registry (Option C)} (hnone : a.connections = ∅)
    (event : RegistrationEvent C) : (a.handle event).1.connections = ∅ := by
  have hempty : ∀ c, c ∉ a.connections := by
    intro c hc
    rw [hnone] at hc
    exact hc
  apply Set.eq_empty_iff_forall_notMem.2
  intro c hc
  cases event with
  | register uuid memory callback => exact hempty c hc
  | unregister id => exact hempty c hc.1
  | registered status id uuid =>
      unfold Registry.handle at hc
      dsimp only at hc
      split at hc
      · obtain ⟨hold, -⟩ | ⟨c', hold, -⟩ := hc
        · exact hempty c hold
        · exact hempty c' hold
      · exact hempty c hc.1

theorem ReachesMaps.sound {maps : AppMaps C} {live : LiveApps C} (h : ReachesMaps maps live)
    (kind : AppKind) : Sound (maps kind) (live kind) ∧ (live kind).connections = ∅ := by
  induction h with
  | start => exact ⟨Sound.empty, rfl⟩
  | step kind' event _ hproper ih =>
      by_cases hkind : kind = kind'
      · obtain rfl := hkind
        rw [update_self, update_self]
        exact ⟨ih.1.handle ih.2 hproper, handle_connections ih.2 event⟩
      · rw [update_of_ne hkind, update_of_ne hkind]
        exact ih

/-- In every run whose events meet the condition the maps hold the live applications and find
them by their ids, and the next outcome is reported to the application that it is about. -/
theorem registrations_recorded {maps : AppMaps C} {live : LiveApps C}
    (h : ReachesMaps maps live) (kind : AppKind) :
    Recorded (maps kind) (live kind) ∧ ∀ event : RegistrationEvent C,
      ((maps kind).handle kind event).2 = ((live kind).handle event).2 := by
  obtain ⟨hsound, -⟩ := h.sound kind
  refine ⟨⟨hsound.apps, fun id hits entry => hsound.byId hits entry⟩, ?_⟩
  exact fun event => hsound.outcomes_eq kind event

/-- A client that is registered with the interface 4. -/
theorem registrations_recorded_client : ∃ (maps : AppMaps Nat) (live : LiveApps Nat),
    ((maps .client).getById 4).map App.uuid = some .empty ∧
      Recorded (maps .client) (live .client) ∧ ∀ event : RegistrationEvent Nat,
        ((maps .client).handle .client event).2 = ((live .client).handle event).2 := by
  have h1 := (ReachesMaps.start : ReachesMaps (C := Nat) _ _).step .client
    (.register .empty 0 (some 7)) nofun
  have h2 := h1.step .client (.registered 0 4 .empty) (by
    rintro - app hmem hne
    obtain rfl := mem_singleton.1 hmem
    exact absurd rfl hne)
  exact ⟨_, _, rfl, registrations_recorded h2 .client⟩

/-- A server whose registration fails with the interface 4 is found by it. -/
theorem failed_server_found : ¬∀ (maps : AppMaps Nat) (live : LiveApps Nat), RunsMaps maps live →
    ∀ kind id, ((maps kind).getById id).isSome ↔
      ∃ app ∈ (live kind).apps, app.id = some id := by
  intro hall
  have h1 := (RunsMaps.start : RunsMaps (C := Nat) _ _).step .server
    (.register .empty 0 (some 7))
  have h2 := h1.step .server (.registered 133 4 .empty)
  obtain ⟨app, hmem, -⟩ := (hall _ _ h2 .server 4).1 rfl
  cases hmem

end Gatt
