import BtPlatform.Gap.Bonds

/-!
# What the bonds are for

Beside the records and the list stands what the stack has reported: the last bond state of each
device, whether a name is known, and whether a device that was learned from a list waits for
its name. The main thread is to be told of each change once.
-/

namespace Bonding

open List Function

/-- What the stack has reported since the adapter was switched on. -/
structure Reports where
  reported : BdAddr → Option BondState
  named : BdAddr → Bool
  waiting : BdAddr → Bool

/-- The bond state that the main thread is told. -/
structure Told where
  addr : BdAddr
  state : BondState
  deriving DecidableEq

def Message.told : Message → Option Told
  | .bondState state addr _ => some ⟨addr, state⟩
  | .deviceFound _ => none

namespace Reports

def empty : Reports := ⟨fun _ => none, fun _ => false, fun _ => false⟩

def state (r : Reports) (addr : BdAddr) : BondState := (r.reported addr).getD .none

def report (r : Reports) (addr : BdAddr) (state : BondState) : Reports :=
  { r with reported := update r.reported addr (some state) }

/-- A bond state is reported for the device. -/
def change (r : Reports) (addr : BdAddr) (state : BondState) : Reports × List Told :=
  if r.state addr = state then (r.report addr state, [])
  else ({ r.report addr state with waiting := update r.waiting addr false },
    [⟨addr, state⟩])

/-- The device is in a list of bonded devices. -/
def learn (r : Reports) (addr : BdAddr) : Reports × List Told :=
  if r.state addr = .bonded then (r, [])
  else if r.named addr then (r.report addr .bonded, [⟨addr, .bonded⟩])
  else ({ r.report addr .bonded with waiting := update r.waiting addr true }, [])

def learnAll (r : Reports) : List BdAddr → Reports × List Told
  | [] => (r, [])
  | addr :: devices =>
      (((r.learn addr).1.learnAll devices).1,
        (r.learn addr).2 ++ ((r.learn addr).1.learnAll devices).2)

/-- A name is reported for the device. -/
def hear (r : Reports) (addr : BdAddr) (name : List UInt8) : Reports × List Told :=
  if HasName name then
    ({ r with
        named := update r.named addr true
        waiting := update r.waiting addr false },
      if r.waiting addr then [⟨addr, .bonded⟩] else [])
  else (r, [])

def step (r : Reports) : Event → Reports × List Told
  | .bondState addr state => r.change addr state
  | .adapterProperties properties => r.learnAll (devicesOf properties)
  | .remoteProperties addr properties => r.hear addr (nameOf properties)
  | .deviceFound properties =>
      match addressOf properties with
      | none => (r, [])
      | some addr => r.hear addr (nameOf properties)
  | .powerCycle => (Reports.empty, [])

end Reports

/-- The bonds beside what was reported, with what the main thread has been told and should have
been told. -/
structure Session where
  bonds : Bonds
  reports : Reports
  told : List Told
  due : List Told

namespace Session

def new : Session := ⟨.empty, .empty, [], []⟩

def take (s : Session) (event : Event) : Session where
  bonds := (s.bonds.processEvent event).1
  reports := (s.reports.step event).1
  told := s.told ++ (s.bonds.processEvent event).2.filterMap Message.told
  due := s.due ++ (s.reports.step event).2

/-- An address among the properties of a device is the one of the device. -/
def Legal : Event → Prop
  | .remoteProperties addr properties => ∀ addr' ∈ addressOf properties, addr' = addr
  | _ => True

/-- The events at which the bonds keep up with the reports: no bonded device goes back to
bonding, none that waits for its name changes, a list has no more devices than there is room
for and none that is newly bonded and has a name already, the name of a waiting device comes
with its remote properties, and those of a bonded device that does not wait find the same name
and no flag. -/
def Careful (s : Session) : Event → Prop
  | .bondState addr state => ¬(s.reports.state addr = .bonded ∧ state = .bonding) ∧
      (s.reports.waiting addr = true → state = .bonded)
  | .adapterProperties properties => (devicesOf properties).length ≤ maxBondedDevices ∧
      ∀ addr ∈ devicesOf properties,
        s.reports.state addr ≠ .bonded → s.reports.named addr = false
  | .remoteProperties addr properties => HasName (nameOf properties) →
      s.reports.state addr = .bonded → s.reports.waiting addr = false →
        (s.bonds.device addr).broadcast = false ∧
          (s.bonds.device addr).name = nameOf properties
  | .deviceFound properties => ∀ addr ∈ addressOf properties,
      HasName (nameOf properties) → s.reports.waiting addr = false
  | .powerCycle => True

/-- The bonds agree with the reports. -/
structure Agrees (s : Session) : Prop where
  bonded : ∀ addr, s.bonds.isDeviceBonded addr = true ↔ s.reports.reported addr = some .bonded
  distinct : s.bonds.bondedDevices.Nodup
  told : s.told = s.due

/-- The sessions of all runs. -/
inductive Runs : Session → Prop
  | new : Runs new
  | take {s : Session} {event : Event} : Runs s → Legal event → Runs (s.take event)

/-- The sessions of the runs at whose events the bonds keep up. -/
inductive Reaches : Session → Prop
  | new : Reaches new
  | take {s : Session} {event : Event} : Reaches s → Legal event → s.Careful event →
      Reaches (s.take event)

end Session

/-! ## The invariant -/

/-- The records and the list say what was reported. -/
structure Sound (b : Bonds) (r : Reports) : Prop where
  bonded : ∀ addr, bdaddrToString addr ∈ b.bondedDevices ↔ r.reported addr = some .bonded
  distinct : b.bondedDevices.Nodup
  record : ∀ addr, (b.device addr).bondState = r.state addr
  address : ∀ addr, (b.device addr).address = addr
  waiting : ∀ addr, r.waiting addr = true →
    r.state addr = .bonded ∧ (b.device addr).broadcast = true

namespace Reports

variable {r : Reports} {addr addr' : BdAddr}

theorem state_of_reported (h : r.reported addr = some .bonded) : r.state addr = .bonded := by
  unfold state
  rw [h]
  rfl

theorem reported_report (state : BondState) : (r.report addr state).reported addr' =
    if addr' = addr then some state else r.reported addr' :=
  update_apply r.reported addr (some state) addr'

theorem state_report (state : BondState) : (r.report addr state).state addr' =
    if addr' = addr then state else r.state addr' := by
  unfold Reports.state
  rw [reported_report]
  split
  · rfl
  · rfl

/-- The main thread is told nothing of devices that have no name. -/
theorem learn_quiet (h : r.state addr ≠ .bonded → r.named addr = false) :
    (r.learn addr).2 = [] := by
  unfold learn
  split
  · rfl
  · next hstate =>
    rw [h hstate]
    rfl

theorem learn_named : (r.learn addr).1.named = r.named := by
  unfold learn
  split
  · rfl
  · split
    · rfl
    · rfl

theorem learn_state (haddr : r.state addr' = .bonded) : (r.learn addr).1.state addr' = .bonded := by
  unfold learn
  split
  · exact haddr
  · split
    · rw [state_report]
      split
      · rfl
      · exact haddr
    · change (r.report addr .bonded).state addr' = _
      rw [state_report]
      split
      · rfl
      · exact haddr

end Reports

namespace Sound

variable {b : Bonds} {r : Reports} {addr : BdAddr}

theorem empty : Sound Bonds.empty Reports.empty where
  bonded := fun _ => iff_of_false not_mem_nil nofun
  distinct := nodup_nil
  record := fun _ => rfl
  address := fun _ => rfl
  waiting := fun _ h => nomatch h

theorem mem_iff (h : Sound b r) (addr : BdAddr) :
    bdaddrToString addr ∈ b.bondedDevices ↔ r.state addr = .bonded := by
  rw [h.bonded]
  refine ⟨Reports.state_of_reported, fun hstate => ?_⟩
  unfold Reports.state at hstate
  cases hreported : r.reported addr with
  | none =>
      rw [hreported] at hstate
      cases hstate
  | some state =>
      rw [hreported] at hstate
      exact congrArg some hstate

variable {state : BondState}

/-- The list follows a bond state, if no bonded device goes back to bonding. -/
theorem mem_listed (h : Sound b r) (hback : ¬(r.state addr = .bonded ∧ state = .bonding))
    (addr' : BdAddr) :
    bdaddrToString addr' ∈ b.listed (bdaddrToString addr) state ↔
      (if addr' = addr then some state else r.reported addr') = some .bonded := by
  have htext : bdaddrToString addr' = bdaddrToString addr ↔ addr' = addr :=
    bdaddrToString_injective.eq_iff
  cases state with
  | none =>
      change _ ∈ b.bondedDevices.filter _ ↔ _
      rw [mem_filter, decide_eq_true_iff, Ne, htext, h.bonded]
      split
      · next heq => exact iff_of_false (fun hmem => hmem.2 heq) nofun
      · next hne => exact and_iff_left hne
  | bonding =>
      change _ ∈ b.bondedDevices ↔ _
      split
      · next heq =>
        rw [h.mem_iff, heq]
        exact iff_of_false (fun hstate => hback ⟨hstate, rfl⟩) nofun
      · exact h.bonded addr'
  | bonded =>
      have hmem : bdaddrToString addr' ∈ b.listed (bdaddrToString addr) .bonded ↔
          addr' = addr ∨ bdaddrToString addr' ∈ b.bondedDevices := by
        unfold Bonds.listed
        dsimp only
        split
        · next hin =>
          refine ⟨Or.inr, ?_⟩
          rintro (rfl | hmem)
          · exact hin
          · exact hmem
        · rw [mem_append, mem_singleton, htext, or_comm]
      rw [hmem, h.bonded]
      split
      · next heq => exact iff_of_true (.inl heq) rfl
      · next hne => exact or_iff_right hne

theorem listed_nodup (h : Sound b r) (text : List Char) (state : BondState) :
    (b.listed text state).Nodup := by
  cases state with
  | none => exact h.distinct.filter _
  | bonding => exact h.distinct
  | bonded =>
      unfold Bonds.listed
      dsimp only
      split
      · exact h.distinct
      · next hnew =>
        rw [nodup_append]
        refine ⟨h.distinct, nodup_singleton text, ?_⟩
        rintro other hother text' htext rfl
        exact hnew (mem_singleton.1 htext ▸ hother)

/-! ### What the handlers keep -/

/-- The record keeps its bond state. -/
theorem store (h : Sound b r) {p : DeviceProperties} (hbond : p.bondState = r.state addr)
    (haddress : p.address = addr) (hflag : r.waiting addr = true → p.broadcast = true) :
    Sound (b.store addr p) r where
  bonded := h.bonded
  distinct := h.distinct
  record := by
    intro addr'
    rw [Bonds.device_store]
    split
    · next heq => rw [heq, hbond]
    · exact h.record addr'
  address := by
    intro addr'
    rw [Bonds.device_store]
    split
    · next heq => rw [heq, haddress]
    · exact h.address addr'
  waiting := by
    intro addr' hwaiting
    refine ⟨(h.waiting addr' hwaiting).1, ?_⟩
    rw [Bonds.device_store]
    split
    · next heq => exact hflag (heq ▸ hwaiting)
    · exact (h.waiting addr' hwaiting).2

/-- The device gets another bond state; `waiting` says who waits from then on. -/
theorem changed (h : Sound b r) {p : DeviceProperties} {waiting : BdAddr → Bool}
    (hback : ¬(r.state addr = .bonded ∧ state = .bonding)) (hbond : p.bondState = state)
    (haddress : p.address = addr)
    (hothers : ∀ addr' ≠ addr, waiting addr' = true → r.waiting addr' = true)
    (hflag : waiting addr = true → state = .bonded ∧ p.broadcast = true) :
    Sound (({ b with bondedDevices := b.listed (bdaddrToString addr) state }).store addr p)
      { r.report addr state with waiting := waiting } where
  bonded := by
    intro addr'
    change _ ↔ (r.report addr state).reported addr' = _
    rw [Reports.reported_report]
    exact h.mem_listed hback addr'
  distinct := h.listed_nodup _ state
  record := by
    intro addr'
    change _ = (r.report addr state).state addr'
    rw [Bonds.device_store, Reports.state_report]
    split
    · exact hbond
    · exact h.record addr'
  address := by
    intro addr'
    rw [Bonds.device_store]
    split
    · next heq => rw [heq, haddress]
    · exact h.address addr'
  waiting := by
    intro addr' hwaiting
    change (r.report addr state).state addr' = _ ∧ _
    rw [Bonds.device_store, Reports.state_report]
    split
    · next heq =>
      subst heq
      exact hflag hwaiting
    · next hne => exact h.waiting addr' (hothers addr' hne hwaiting)

/-- A bond state without a change. -/
theorem report (h : Sound b r) (hsame : r.state addr = state) : Sound b (r.report addr state) := by
  have hstate : (r.report addr state).state = r.state := by
    funext addr'
    rw [Reports.state_report]
    split
    · next heq => rw [heq, hsame]
    · rfl
  refine ⟨fun addr' => ?_, h.distinct, ?_, h.address, ?_⟩
  · rw [h.mem_iff, ← hstate, Reports.reported_report, Reports.state_report]
    split
    · exact Option.some_inj.symm
    · rw [← h.bonded, h.mem_iff]
  · rw [hstate]
    exact h.record
  · rw [hstate]
    exact h.waiting

theorem bondState (h : Sound b r) (hback : ¬(r.state addr = .bonded ∧ state = .bonding)) :
    Sound (b.handleBondStateEvent addr state).1 (r.change addr state).1 ∧
      (b.handleBondStateEvent addr state).2.filterMap Message.told = (r.change addr state).2 := by
  have hstored : Sound (b.store addr (b.device addr)) r :=
    h.store (h.record addr) (h.address addr) fun hwaiting => (h.waiting addr hwaiting).2
  have hdevice : (b.store addr (b.device addr)).device addr = b.device addr := by
    rw [Bonds.device_store, if_pos rfl]
  unfold Bonds.handleBondStateEvent Reports.change
  dsimp only
  rw [h.record]
  by_cases hsame : r.state addr = state
  · rw [if_pos hsame, if_pos hsame]
    exact ⟨hstored.report hsame, rfl⟩
  · rw [if_neg hsame, if_neg hsame]
    unfold Bonds.onBondStateChanged
    rw [hdevice]
    refine ⟨hstored.changed hback rfl (h.address addr) ?_ ?_, rfl⟩
    · intro addr' hne hwaiting
      rwa [update_of_ne hne] at hwaiting
    · intro hwaiting
      rw [update_self] at hwaiting
      cases hwaiting

theorem learned (h : Sound b r) (hquiet : r.state addr ≠ .bonded → r.named addr = false) :
    Sound (b.onBondStateChanged addr .bonded false).1 (r.learn addr).1 := by
  unfold Bonds.onBondStateChanged Reports.learn
  dsimp only
  by_cases hbonded : r.state addr = .bonded
  · have hlisted : b.listed (bdaddrToString addr) .bonded = b.bondedDevices :=
      if_pos ((h.mem_iff addr).2 hbonded)
    rw [if_pos hbonded, hlisted]
    exact h.store hbonded.symm (h.address addr) fun _ => rfl
  · rw [if_neg hbonded, hquiet hbonded]
    refine h.changed (fun hback => hbonded hback.1) rfl (h.address addr) ?_ fun _ => ⟨rfl, rfl⟩
    intro addr' hne hwaiting
    rwa [update_of_ne hne] at hwaiting

theorem learnedAll (h : Sound b r) {devices : List BdAddr}
    (hquiet : ∀ addr ∈ devices, r.state addr ≠ .bonded → r.named addr = false) :
    Sound (devices.foldl (fun b addr => (b.onBondStateChanged addr .bonded false).1) b)
      (r.learnAll devices).1 ∧ (r.learnAll devices).2 = [] := by
  induction devices generalizing b r with
  | nil => exact ⟨h, rfl⟩
  | cons addr devices ih =>
      have hfirst := hquiet addr mem_cons_self
      have hrest : ∀ addr' ∈ devices, (r.learn addr).1.state addr' ≠ .bonded →
          (r.learn addr).1.named addr' = false := by
        intro addr' hmem hstate
        rw [Reports.learn_named]
        apply hquiet addr' (mem_cons_of_mem addr hmem)
        exact fun hbonded => hstate (Reports.learn_state hbonded)
      obtain ⟨hsound, htold⟩ := ih (h.learned hfirst) hrest
      unfold Reports.learnAll
      exact ⟨hsound, by rw [htold, Reports.learn_quiet hfirst]; rfl⟩

/-- What a name changes in the reports the records need not follow, if nobody waits for it in
vain. -/
theorem heard (h : Sound b r) (name : List UInt8) : Sound b (r.hear addr name).1 := by
  unfold Reports.hear
  split
  · refine ⟨h.bonded, h.distinct, h.record, h.address, fun addr' hwaiting => ?_⟩
    by_cases heq : addr' = addr
    · change update r.waiting addr false addr' = true at hwaiting
      rw [heq, update_self] at hwaiting
      cases hwaiting
    · change update r.waiting addr false addr' = true at hwaiting
      rw [update_of_ne heq] at hwaiting
      exact h.waiting addr' hwaiting
  · exact h

theorem deviceFound (h : Sound b r) {properties : List Property}
    (hcareful : ∀ addr ∈ addressOf properties,
      HasName (nameOf properties) → r.waiting addr = false) :
    Sound (b.deviceFound properties).1 (r.step (.deviceFound properties)).1 ∧
      (b.deviceFound properties).2.filterMap Message.told =
        (r.step (.deviceFound properties)).2 := by
  unfold Bonds.deviceFound Reports.step
  dsimp only
  cases haddr : addressOf properties with
  | none => exact ⟨h, rfl⟩
  | some addr =>
      dsimp only
      refine ⟨Sound.heard ?_ _, ?_⟩
      · exact h.store (h.record addr) rfl fun hwaiting => (h.waiting addr hwaiting).2
      · unfold Reports.hear
        split
        · next hname =>
          rw [hcareful addr haddr hname]
          rfl
        · rfl

/-- The main thread is told with the remote properties if the device has been waiting. -/
theorem remoteProperties (h : Sound b r) {properties : List Property}
    (hlegal : ∀ addr' ∈ addressOf properties, addr' = addr)
    (hcareful : HasName (nameOf properties) → r.state addr = .bonded → r.waiting addr = false →
      (b.device addr).broadcast = false ∧ (b.device addr).name = nameOf properties) :
    Sound (b.remoteDeviceProperties addr properties).1 (r.hear addr (nameOf properties)).1 ∧
      (b.remoteDeviceProperties addr properties).2.filterMap Message.told =
        (r.hear addr (nameOf properties)).2 := by
  have haddress : (addressOf properties).getD (b.device addr).address = addr := by
    cases haddr : addressOf properties with
    | none => exact h.address addr
    | some addr' => exact hlegal addr' haddr
  have htell : (HasName (nameOf properties) ∧ (b.device addr).bondState = .bonded ∧
      ((b.device addr).broadcast = true ∨ (b.device addr).name ≠ nameOf properties)) ↔
      HasName (nameOf properties) ∧ r.waiting addr = true := by
    refine and_congr_right fun hname => ?_
    rw [h.record]
    constructor
    · rintro ⟨hbonded, hnews⟩
      by_contra hwaiting
      obtain ⟨hflag, hsame⟩ := hcareful hname hbonded (eq_false_of_ne_true hwaiting)
      rcases hnews with hset | hother
      · rw [hflag] at hset
        cases hset
      · exact hother hsame
    · intro hwaiting
      obtain ⟨hbonded, hflag⟩ := h.waiting addr hwaiting
      exact ⟨hbonded, .inl hflag⟩
  unfold Bonds.remoteDeviceProperties Reports.hear
  dsimp only
  simp only [htell, haddress]
  by_cases hname : HasName (nameOf properties)
  · rw [if_pos hname]
    have hheard : Sound b (r.hear addr (nameOf properties)).1 := h.heard _
    unfold Reports.hear at hheard
    rw [if_pos hname] at hheard
    refine ⟨hheard.store (h.record addr) rfl fun hwaiting => ?_, ?_⟩
    · change update r.waiting addr false addr = true at hwaiting
      rw [update_self] at hwaiting
      cases hwaiting
    · by_cases hwaiting : r.waiting addr = true
      · rw [if_pos ⟨hname, hwaiting⟩, if_pos hwaiting]
        rfl
      · rw [if_neg fun htell => hwaiting htell.2, if_neg hwaiting]
        rfl
  · rw [if_neg hname, if_neg fun htell => hname htell.1, if_neg fun htell => hname htell.1]
    refine ⟨h.store (h.record addr) rfl fun hwaiting => (h.waiting addr hwaiting).2, rfl⟩

end Sound

namespace Session

/-- What holds in every session that is reached: the bonds are sound, and the main thread has
been told what was due. -/
structure Kept (s : Session) : Prop where
  sound : Sound s.bonds s.reports
  told : s.told = s.due

variable {s : Session}

theorem Kept.take (h : s.Kept) {event : Event} (legal : Legal event) (careful : s.Careful event) :
    (s.take event).Kept := by
  have hstep : Sound (s.bonds.processEvent event).1 (s.reports.step event).1 ∧
      (s.bonds.processEvent event).2.filterMap Message.told = (s.reports.step event).2 := by
    cases event with
    | bondState addr state => exact h.sound.bondState careful.1
    | adapterProperties properties =>
        have hall := h.sound.learnedAll careful.2
        unfold Bonds.processEvent Bonds.adapterPropertiesUpdate Reports.step
        dsimp only
        rw [take_of_length_le careful.1]
        exact ⟨hall.1, hall.2.symm⟩
    | remoteProperties addr properties => exact h.sound.remoteProperties legal careful
    | deviceFound properties => exact h.sound.deviceFound careful
    | powerCycle => exact ⟨Sound.empty, rfl⟩
  exact ⟨hstep.1, congrArg₂ _ h.told hstep.2⟩

theorem Reaches.kept (h : Reaches s) : s.Kept := by
  induction h with
  | new => exact ⟨Sound.empty, rfl⟩
  | take _ legal careful ih => exact ih.take legal careful

theorem Kept.agrees (h : s.Kept) : s.Agrees where
  bonded := by
    intro addr
    unfold Bonds.isDeviceBonded
    rw [decide_eq_true_iff]
    exact h.sound.bonded addr
  distinct := h.sound.distinct
  told := h.told

/-- In every run at whose events the bonds keep up they agree with the reports. -/
theorem bonds_agree {s : Session} (h : Reaches s) : s.Agrees :=
  h.kept.agrees

theorem Reaches.runs (h : Reaches s) : Runs s := by
  induction h with
  | new => exact Runs.new
  | take _ legal _ ih => exact ih.take legal

/-! ## A device that is learned from a list -/

def headset : BdAddr := ⟨[0, 1, 2, 3, 4, 5], rfl⟩

/-- The stack's list of bonded devices has one device. -/
def headsetListed : Event := .adapterProperties [.adapterBondedDevices [headset]]

/-- The device tells its name. -/
def headsetNamed : Event := .remoteProperties headset [.bdname ⟨[72], by decide⟩]

theorem headsetListed_reached : Reaches (new.take headsetListed) := by
  refine Reaches.new.take trivial ⟨by decide, ?_⟩
  intro addr _ _
  rfl

theorem headsetNamed_reached : Reaches ((new.take headsetListed).take headsetNamed) := by
  refine headsetListed_reached.take (fun _ h => nomatch h) ?_
  intro _ _ hwaiting
  revert hwaiting
  decide

theorem headsetNamed_agrees : ((new.take headsetListed).take headsetNamed).Agrees :=
  bonds_agree headsetNamed_reached

/-- After a second list the main thread is told again. -/
theorem second_list_tells : ¬∀ s, Runs s → s.Agrees := by
  intro hall
  have listed := headsetNamed_reached.runs.take (show Legal headsetListed from trivial)
  have named := listed.take (show Legal headsetNamed from fun _ h => nomatch h)
  have htold := (hall _ named).told
  revert htold
  decide

end Session

end Bonding
