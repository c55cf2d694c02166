import BtPlatform.Gatt.Client.GattClient

/-!
# The interface of a client

A registration is answered later, and its answer starts the connection whatever the client
has done in between. As long as the client does not connect while it has an interface, and is
not closed while a registration is outstanding, it has at most one interface, and none once it
is closed.
-/

namespace Gatt.GattClient

open List

variable {C : Type} {c c' : GattClient C}

/-! ## The functions -/

theorem registerApp_of_service (hservice : c.mService = true) (callback : C) :
    c.registerApp callback = (true, { c with mCallback := some callback }, [.registerClient]) :=
  if_pos hservice

theorem connect_of_idle (hservice : c.mService = true) (hidle : c.mConnState = .idle)
    (autoConnect : Bool) (callback : C) : c.connect autoConnect callback =
      ({ c with
          mConnState := .connecting
          mAutoConnect := autoConnect
          mCallback := some callback }, ⟨[.registerClient], []⟩) := by
  have hregister := registerApp_of_service
    (c := { c with mConnState := .connecting, mAutoConnect := autoConnect }) hservice callback
  unfold connect
  rw [if_pos hidle, hregister]

theorem connect_of_ne {autoConnect : Bool} {callback : C} (hstate : c.mConnState ≠ .idle) :
    c.connect autoConnect callback = (c, .none) := if_neg hstate

theorem disconnect_calls (c : GattClient C) : c.disconnect.calls = [] ∨
    c.disconnect.calls = [.clientDisconnect c.mClientIf c.mDeviceAddress] := by
  unfold disconnect
  split
  · exact .inl rfl
  · exact .inr rfl

theorem unregisterApp_of_zero (hzero : c.mClientIf = 0) : c.unregisterApp = (c, .none) :=
  if_pos (.inr hzero)

theorem unregisterApp_of_ne (hservice : c.mService = true) (hne : c.mClientIf ≠ 0) :
    c.unregisterApp = ({ c with mCallback := none, mClientIf := 0 },
      ⟨[.unregisterClient c.mClientIf], []⟩) := by
  apply if_neg
  rintro (hnone | hzero)
  · rw [hservice] at hnone
    cases hnone
  · exact hne hzero

theorem onClientRegistered_failed {status : Int} {callback : C} (hstatus : status ≠ GATT_SUCCESS)
    (hcallback : c.mCallback = some callback) (clientIf : Int) :
    c.onClientRegistered status clientIf =
      some ({ c with mClientIf := clientIf, mConnState := .idle }, .none) := by
  unfold onClientRegistered
  rw [if_pos hstatus, hcallback]

theorem onClientRegistered_done (hservice : c.mService = true) (clientIf : Int) :
    c.onClientRegistered GATT_SUCCESS clientIf = some ({ c with mClientIf := clientIf },
      ⟨[.clientConnect clientIf c.mDeviceAddress (!c.mAutoConnect) c.mTransport c.mOpportunistic
        c.mPhy], []⟩) := by
  unfold onClientRegistered
  rw [if_neg (not_not_intro rfl), if_pos hservice]

/-- Of the connection the client remembers the state, and it calls nothing. -/
theorem onConnectionState_cases (c : GattClient C) (status : Int) (connected : Bool)
    (address : List Char) :
    (c.onConnectionState status connected address).2.calls = [] ∧
      ((c.onConnectionState status connected address).1 = c ∨
        ∃ state, (c.onConnectionState status connected address).1 =
          { c with mConnState := state, mDeviceBusy := false }) := by
  unfold onConnectionState
  split
  · exact ⟨rfl, .inr ⟨_, rfl⟩⟩
  · exact ⟨rfl, .inl rfl⟩

namespace Interface

/-! ## Runs -/

inductive Event (C : Type)
  | connect (autoConnect : Bool) (callback : C)
  | disconnect
  | close
  | onClientRegistered (status clientIf : Int)
  | onConnectionState (status clientIf : Int) (connected : Bool) (address : List Char)

/-- `none` is a call of a callback that is `NULL`. -/
def step (c : GattClient C) : Event C → Option (GattClient C × ClientActs C)
  | .connect autoConnect callback => some (c.connect autoConnect callback)
  | .disconnect => some (c, c.disconnect)
  | .close => some c.close
  | .onClientRegistered status clientIf => c.onClientRegistered status clientIf
  | .onConnectionState status _ connected address =>
      some (c.onConnectionState status connected address)

/-- What the stack knows of the client: how many registrations are to be answered, and the
interfaces that are registered for it. -/
structure Registry where
  outstanding : Nat
  interfaces : List Int
  closed : Bool

def Registry.empty : Registry := ⟨0, [], false⟩

def Registry.arrive (w : Registry) : Event C → Registry
  | .close => { w with closed := true }
  | .onClientRegistered status clientIf =>
      ⟨w.outstanding - 1, if status = 0 then w.interfaces ++ [clientIf] else w.interfaces, w.closed⟩
  | _ => w

def Registry.obey (w : Registry) : LibCall → Registry
  | .registerClient => { w with outstanding := w.outstanding + 1 }
  | .unregisterClient clientIf => { w with interfaces := w.interfaces.filter (· != clientIf) }
  | _ => w

def Registry.after (w : Registry) (event : Event C) (acts : ClientActs C) : Registry :=
  acts.calls.foldl Registry.obey (w.arrive event)

/-- A registration is answered once, with an interface that is not in use; zero is none. The
library reports a connection to the client that its interface is registered for. -/
def Legal (w : Registry) : Event C → Prop
  | .onClientRegistered status clientIf =>
      0 < w.outstanding ∧ (status = 0 → clientIf ≠ 0 ∧ clientIf ∉ w.interfaces)
  | .onConnectionState _ clientIf _ _ => clientIf ∈ w.interfaces
  | _ => True

def isConnect : LibCall → Bool
  | .clientConnect .. => true
  | _ => false

/-- What is promised of an event: a closed client connects no more, and a registration that
failed leaves the client idle, with one report that it is disconnected. -/
def Correct (w : Registry) (event : Event C) (c' : GattClient C) (acts : ClientActs C) : Prop :=
  (w.closed = true → ∀ call ∈ acts.calls, isConnect call = false) ∧
    match event with
    | .onClientRegistered status _ => status ≠ 0 → c'.mConnState = .idle ∧
        ∃ callback, acts.reports = [(callback, .onConnectionStateChange GATT_FAILURE false)]
    | _ => True

/-- A registration that failed. -/
def Event.Fails : Event C → Prop
  | .onClientRegistered status _ => status ≠ 0
  | _ => False

/-- The condition. An idle client that connects has no interface, and no registration is
outstanding where the client is closed. -/
def Careful (c : GattClient C) (w : Registry) : Event C → Prop
  | .connect _ _ => c.mConnState = .idle → w.interfaces = []
  | .close => w.outstanding = 0
  | _ => True

/-- The runs of a client, with what the stack knows in each state. -/
inductive Runs : GattClient C → Registry → Prop
  | start (address : List Char) (transport : Int) (opportunistic : Bool) (phy clientIf : Int)
      (autoConnect : Bool) :
      Runs (.create address transport opportunistic phy clientIf autoConnect) .empty
  | step {c c' : GattClient C} {w : Registry} {acts : ClientActs C} (event : Event C) :
      Runs c w → Legal w event → step c event = some (c', acts) → Runs c' (w.after event acts)

/-- The runs whose events meet the condition. -/
inductive Reaches : GattClient C → Registry → Prop
  | start (address : List Char) (transport : Int) (opportunistic : Bool) (phy clientIf : Int)
      (autoConnect : Bool) :
      Reaches (.create address transport opportunistic phy clientIf autoConnect) .empty
  | step {c c' : GattClient C} {w : Registry} {acts : ClientActs C} (event : Event C) :
      Reaches c w → Legal w event → Careful c w event → step c event = some (c', acts) →
      Reaches c' (w.after event acts)

/-! ## What is kept -/

/-- What holds in every state that is reached. -/
structure Safe (c : GattClient C) (w : Registry) : Prop where
  service : c.mService = true
  held : ∀ k ∈ w.interfaces, k = c.mClientIf ∧ k ≠ 0
  one : w.outstanding + w.interfaces.length ≤ 1
  waiting : 0 < w.outstanding → c.mConnState = .connecting ∧ c.mCallback.isSome
  closed : w.closed = true → c.mConnState = .closed ∧ w.outstanding = 0 ∧ w.interfaces = []

theorem safe_create (address : List Char) (transport : Int) (opportunistic : Bool)
    (phy clientIf : Int) (autoConnect : Bool) :
    Safe (.create address transport opportunistic phy clientIf autoConnect : GattClient C)
      .empty where
  service := rfl
  held := nofun
  one := Nat.zero_le 1
  waiting := nofun
  closed := nofun

namespace Safe

variable {w : Registry}

/-- While a registration is outstanding there is no interface, and the client is open. -/
theorem of_outstanding (h : Safe c w) (hpos : 0 < w.outstanding) :
    w = ⟨1, [], false⟩ ∧ ∃ callback, c.mCallback = some callback := by
  obtain ⟨outstanding, interfaces, closed⟩ := w
  have hone := h.one
  dsimp only at hpos hone
  obtain rfl : outstanding = 1 := by omega
  obtain rfl : interfaces = [] := length_eq_zero_iff.1 (by omega)
  refine ⟨?_, Option.isSome_iff_exists.1 (h.waiting hpos).2⟩
  cases closed with
  | false => rfl
  | true =>
      have hzero := (h.closed rfl).2.1
      cases hzero

theorem connect (h : Safe c w) {autoConnect : Bool} {callback : C}
    (hcareful : Careful c w (.connect autoConnect callback)) :
    Safe (c.connect autoConnect callback).1
      (w.after (.connect autoConnect callback) (c.connect autoConnect callback).2) := by
  by_cases hidle : c.mConnState = .idle
  · have hnone : w.interfaces = [] := hcareful hidle
    rw [connect_of_idle h.service hidle]
    refine ⟨h.service, ?_, ?_, fun _ => ⟨rfl, rfl⟩, ?_⟩
    · intro k hk
      change k ∈ w.interfaces at hk
      rw [hnone] at hk
      cases hk
    · change w.outstanding + 1 + w.interfaces.length ≤ 1
      have hzero : w.outstanding = 0 := by
        by_contra hne
        have hconnecting := (h.waiting (Nat.pos_of_ne_zero hne)).1
        rw [hidle] at hconnecting
        cases hconnecting
      rw [hzero, hnone]
      exact le_refl 1
    · intro hclosed
      have hstate := (h.closed hclosed).1
      rw [hidle] at hstate
      cases hstate
  · rw [connect_of_ne hidle]
    exact h

theorem disconnect (h : Safe c w) : Safe c (w.after .disconnect c.disconnect) := by
  have hsame : w.after .disconnect c.disconnect = w := by
    unfold Registry.after
    obtain hcalls | hcalls := c.disconnect_calls
    · rw [hcalls]
      rfl
    · rw [hcalls]
      rfl
  rw [hsame]
  exact h

theorem close (h : Safe c w) (hcareful : Careful c w .close) :
    Safe c.close.1 (w.after .close c.close.2) := by
  have hzero : w.outstanding = 0 := hcareful
  unfold GattClient.close
  by_cases hclientIf : c.mClientIf = 0
  · have hnone : w.interfaces = [] := by
      apply eq_nil_iff_forall_not_mem.2
      intro k hk
      obtain ⟨rfl, hne⟩ := h.held k hk
      exact hne hclientIf
    rw [unregisterApp_of_zero hclientIf]
    refine ⟨h.service, h.held, h.one, ?_, fun _ => ⟨rfl, hzero, hnone⟩⟩
    intro hpos
    exact absurd hzero (Nat.ne_of_gt hpos)
  · have hnone : w.interfaces.filter (· != c.mClientIf) = [] := by
      apply filter_eq_nil_iff.2
      intro k hk hne
      exact bne_iff_ne.1 hne (h.held k hk).1
    rw [unregisterApp_of_ne h.service hclientIf]
    refine ⟨h.service, ?_, ?_, ?_, fun _ => ⟨rfl, hzero, hnone⟩⟩
    · intro k hk
      change k ∈ w.interfaces.filter (· != c.mClientIf) at hk
      rw [hnone] at hk
      cases hk
    · change w.outstanding + (w.interfaces.filter (· != c.mClientIf)).length ≤ 1
      rw [hnone, hzero]
      exact Nat.zero_le 1
    · intro hpos
      exact absurd hzero (Nat.ne_of_gt hpos)

theorem onClientRegistered (h : Safe c w) {status clientIf : Int} {acts : ClientActs C}
    (hlegal : Legal w (.onClientRegistered status clientIf : Event C))
    (hstep : c.onClientRegistered status clientIf = some (c', acts)) :
    Safe c' (w.after (.onClientRegistered status clientIf) acts) := by
  obtain ⟨hpos, hnew⟩ := hlegal
  obtain ⟨rfl, callback, hcallback⟩ := h.of_outstanding hpos
  by_cases hstatus : status = 0
  · subst hstatus
    have hdone := onClientRegistered_done h.service clientIf
    obtain ⟨rfl, rfl⟩ := Prod.ext_iff.1 (Option.some.inj (hdone.symm.trans hstep))
    refine ⟨h.service, ?_, le_refl 1, nofun, nofun⟩
    intro k hk
    obtain rfl := mem_singleton.1 hk
    exact ⟨rfl, (hnew rfl).1⟩
  · rw [onClientRegistered_failed hstatus hcallback] at hstep
    cases hstep
    have hafter : Registry.after ⟨1, [], false⟩ (.onClientRegistered status clientIf : Event C)
        .none = ⟨0, [], false⟩ := by
      simp [Registry.after, Registry.arrive, ClientActs.none, hstatus]
    rw [hafter]
    exact ⟨h.service, nofun, Nat.zero_le 1, nofun, nofun⟩

theorem onConnectionState (h : Safe c w) {status clientIf : Int} {connected : Bool}
    {address : List Char}
    (hlegal : Legal w (.onConnectionState status clientIf connected address : Event C)) :
    Safe (c.onConnectionState status connected address).1
      (w.after (.onConnectionState status clientIf connected address)
        (c.onConnectionState status connected address).2) := by
  obtain ⟨hcalls, hstate⟩ := c.onConnectionState_cases status connected address
  have hsame : w.after (.onConnectionState status clientIf connected address)
      (c.onConnectionState status connected address).2 = w := by
    unfold Registry.after
    rw [hcalls]
    rfl
  rw [hsame]
  obtain hstate | ⟨state, hstate⟩ := hstate
  · rw [hstate]
    exact h
  · rw [hstate]
    refine ⟨h.service, h.held, h.one, ?_, ?_⟩
    · intro hpos
      obtain ⟨rfl, -⟩ := h.of_outstanding hpos
      cases hlegal
    · intro hclosed
      have hnone := (h.closed hclosed).2.2
      change clientIf ∈ w.interfaces at hlegal
      rw [hnone] at hlegal
      cases hlegal

theorem step (h : Safe c w) {event : Event C} {acts : ClientActs C} (hlegal : Legal w event)
    (hcareful : Careful c w event) (hstep : step c event = some (c', acts)) :
    Safe c' (w.after event acts) := by
  cases event with
  | connect autoConnect callback =>
      obtain ⟨rfl, rfl⟩ := Prod.ext_iff.1 (Option.some.inj hstep)
      exact h.connect hcareful
  | disconnect =>
      cases hstep
      exact h.disconnect
  | close =>
      cases hstep
      exact h.close hcareful
  | onClientRegistered status clientIf => exact h.onClientRegistered hlegal hstep
  | onConnectionState status clientIf connected address =>
      obtain ⟨rfl, rfl⟩ := Prod.ext_iff.1 (Option.some.inj hstep)
      exact h.onConnectionState hlegal

end Safe

theorem Reaches.safe {w : Registry} (h : Reaches c w) : Safe c w := by
  induction h with
  | start address transport opportunistic phy clientIf autoConnect =>
      exact safe_create address transport opportunistic phy clientIf autoConnect
  | step event _ hlegal hcareful hstep ih => exact ih.step hlegal hcareful hstep

/-! ## One interface -/

theorem connects_single {call : LibCall} (hcall : isConnect call = false) :
    ∀ call' ∈ [call], isConnect call' = false := by
  intro call' hmem
  obtain rfl := mem_singleton.1 hmem
  exact hcall

/-- An event is answered as it is promised, but for a registration that failed. -/
theorem Safe.correct_iff {w : Registry} (h : Safe c w) {event : Event C}
    (hlegal : Legal w event) : ∃ c' acts, Interface.step c event = some (c', acts) ∧
      (Correct w event c' acts ↔ ¬ event.Fails) := by
  cases event with
  | connect autoConnect callback =>
      refine ⟨(c.connect autoConnect callback).1, (c.connect autoConnect callback).2, rfl,
        iff_of_true ⟨?_, trivial⟩ id⟩
      intro _
      by_cases hidle : c.mConnState = .idle
      · rw [connect_of_idle h.service hidle]
        exact connects_single rfl
      · rw [connect_of_ne hidle]
        exact nofun
  | disconnect =>
      refine ⟨c, c.disconnect, rfl, iff_of_true ⟨?_, trivial⟩ id⟩
      intro _
      obtain hcalls | hcalls := c.disconnect_calls
      · rw [hcalls]
        exact nofun
      · rw [hcalls]
        exact connects_single rfl
  | close =>
      refine ⟨c.close.1, c.close.2, rfl, iff_of_true ⟨?_, trivial⟩ id⟩
      intro _
      unfold GattClient.close
      by_cases hzero : c.mClientIf = 0
      · rw [unregisterApp_of_zero hzero]
        exact nofun
      · rw [unregisterApp_of_ne h.service hzero]
        exact connects_single rfl
  | onClientRegistered status clientIf =>
      obtain ⟨rfl, callback, hcallback⟩ := h.of_outstanding hlegal.1
      by_cases hstatus : status = 0
      · subst hstatus
        refine ⟨_, _, onClientRegistered_done h.service clientIf, iff_of_true ⟨nofun, ?_⟩ ?_⟩
        · intro hne
          exact absurd rfl hne
        · exact not_not_intro rfl
      · refine ⟨_, _, onClientRegistered_failed hstatus hcallback clientIf,
          iff_of_false ?_ (not_not_intro hstatus)⟩
        -- the report is made only to a callback that is missing
        rintro ⟨-, hreport⟩
        obtain ⟨-, callback', hreports⟩ := hreport hstatus
        cases hreports
  | onConnectionState status clientIf connected address =>
      refine ⟨(c.onConnectionState status connected address).1,
        (c.onConnectionState status connected address).2, rfl,
        iff_of_true ⟨?_, trivial⟩ id⟩
      intro _
      rw [(c.onConnectionState_cases status connected address).1]
      exact nofun

/-- As long as every event meets its condition, a client has at most one interface, and none
once it is closed; an event is answered as it is promised if and only if it is no registration
that failed. -/
theorem owns_one_interface {w : Registry} (h : Reaches c w) :
    w.interfaces.length ≤ 1 ∧
      (w.closed = true → w.outstanding = 0 → w.interfaces = []) ∧
      ∀ event : Event C, Legal w event → Careful c w event →
        ∃ c' acts, step c event = some (c', acts) ∧
          (Correct w event c' acts ↔ ¬ event.Fails) :=
  ⟨Nat.le_trans (Nat.le_add_left _ _) h.safe.one, fun hclosed _ => (h.safe.closed hclosed).2.2,
    fun _ hlegal _ => h.safe.correct_iff hlegal⟩

/-- The client of these runs. -/
def start : GattClient Nat := .create "A".toList 2 false 1 0 false

theorem owns_one_interface_closed : ∃ (c : GattClient Nat) (w : Registry),
    w = ⟨0, [], true⟩ ∧ (w.interfaces.length ≤ 1 ∧
      (w.closed = true → w.outstanding = 0 → w.interfaces = []) ∧
      ∀ event : Event Nat, Legal w event → Careful c w event →
        ∃ c' acts, step c event = some (c', acts) ∧
          (Correct w event c' acts ↔ ¬ event.Fails)) := by
  have h1 := (Reaches.start "A".toList 2 false 1 0 false : Reaches start _).step
    (.connect true 9) trivial (fun _ => rfl) rfl
  have h2 := h1.step (.onClientRegistered 0 4) ⟨by decide, fun _ => ⟨by decide, nofun⟩⟩ trivial rfl
  have h3 := h2.step (.onConnectionState 0 4 true "A".toList) (mem_singleton.2 rfl) trivial rfl
  have h4 := h3.step .close trivial rfl rfl
  exact ⟨_, _, rfl, owns_one_interface h4⟩

/-- A client that is disconnected and connects again has two interfaces. -/
theorem not_owns_one_interface : ¬ ∀ (c : GattClient Nat) (w : Registry), Runs c w →
    w.interfaces.length ≤ 1 ∧
      (w.closed = true → w.outstanding = 0 → w.interfaces = []) ∧
      ∀ event : Event Nat, Legal w event →
        ∃ c' acts, step c event = some (c', acts) ∧ Correct w event c' acts := by
  intro hall
  have h1 := (Runs.start "A".toList 2 false 1 0 false : Runs start _).step (.connect true 9)
    trivial rfl
  have h2 := h1.step (.onClientRegistered 0 4) ⟨by decide, fun _ => ⟨by decide, nofun⟩⟩ rfl
  have h3 := h2.step (.onConnectionState 0 4 true "A".toList) (mem_singleton.2 rfl) rfl
  have h4 := h3.step (.onConnectionState 0 4 false "A".toList) (mem_singleton.2 rfl) rfl
  have h5 := h4.step (.connect true 9) trivial rfl
  have h6 := h5.step (.onClientRegistered 0 5) ⟨by decide, fun _ => ⟨by decide, by decide⟩⟩ rfl
  have hone := (hall _ _ h6).1
  exact absurd hone (by decide)

end Interface

end Gatt.GattClient
