import BtPlatform.Gap.Steps

/-!
# Every command is answered

Whatever inputs come, as long as each meets its condition, every command is answered once and
truthfully. A disable that overtakes the start of a profile is the shortest run on which the
condition fails.
-/

namespace Adapter

namespace Session

variable {s : Session}

/-- Every event from outside keeps everything in its place. -/
theorem Sound.process (h : Sound s) {event : Event} (hlegal : event ≠ .profileApiStart)
    (hcareful : s.Careful event) : Sound (s.process event) := by
  cases event with
  | adapterState status =>
      cases status with
      | on => exact h.adapterOn hcareful
      | off => exact h.adapterOff hcareful
  | apiEnable ok => exact h.apiEnable hcareful
  | profileApiStart => exact absurd rfl hlegal
  | startDone profile status => exact h.startDone hcareful
  | stopDone profile status => exact h.stopDone hcareful
  | amDisableDone ok => exact h.amDisableDone rfl hcareful
  | apiDisable => exact h.apiDisable hcareful
  | sinkCleanupDone => exact h.sinkCleanupDone hcareful

theorem Sound.take (h : Sound s) {input : Input} {s' : Session} (hlegal : s.Legal input)
    (hcareful : s.CarefulInput input) (htake : s.take input = some s') : Sound s' := by
  cases input with
  | event event =>
      obtain rfl := Option.some.inj htake
      refine h.process ?_ hcareful
      rintro rfl
      exact hlegal
  | own ok =>
      cases hown : s.own with
      | nil =>
          rw [Session.take, hown] at htake
          cases htake
      | cons message own =>
          rw [Session.take, hown] at htake
          obtain rfl := Option.some.inj htake
          cases message with
          | profileApiStart => exact h.profileApiStart hown
          | amDisableDone =>
              have hne : OwnMessage.amDisableDone ≠ .profileApiStart := nofun
              refine h.amDisableDone ?_ (hcareful _ _ hown)
              rw [hown, List.count_cons_of_ne hne]

theorem Reaches.sound {config : Config} (h : Reaches config s) : Sound s := by
  induction h with
  | new => exact Sound.new config
  | take _ _ hlegal hcareful htake ih => exact ih.take hlegal hcareful htake

theorem Reaches.event {config : Config} (h : Reaches config s) (event : Event)
    (hlegal : s.Legal (.event event)) (hcareful : s.Careful event) :
    Reaches config (s.process event) := h.take (.event event) hlegal hcareful rfl

theorem Reaches.own {config : Config} (h : Reaches config s) (ok : Bool)
    {message : OwnMessage} {own : List OwnMessage} (hown : s.own = message :: own)
    (hcareful : s.Careful (message.event ok)) :
    Reaches config ({ s with own := own }.process (message.event ok)) := by
  refine h.take (.own ok) trivial ?_ ?_
  · intro message' own' hown'
    rw [hown] at hown'
    obtain ⟨rfl, rfl⟩ := List.cons.inj hown'
    exact hcareful
  · rw [Session.take, hown]

/-! ## Results -/

/-- Everything that is promised holds as long as every input meets its condition. -/
theorem kept_of_reaches {config : Config} (h : Reaches config s) : Kept s := h.sound.kept

/-- Only the SDP client is enabled. -/
def sdpOnly : Config where
  isEnabled p := p = .sdpClient
  sdpClient := rfl
  gatt := rfl
  btAm := rfl

/-- The inputs are taken one after the other. -/
def takeAll (s : Session) : List Input → Option Session
  | [] => some s
  | input :: inputs => (s.take input).bind (takeAll · inputs)

/-- The adapter is enabled, and disabled again. -/
def enableDisable : List Input :=
  [.event (.apiEnable true), .event (.adapterState .on), .own true,
    .event (.startDone .sdpClient true), .event .apiDisable,
    .event (.stopDone .sdpClient true), .own true, .event (.adapterState .off)]

theorem kept_of_reaches_enableDisable :
    ∃ s, (new sdpOnly).takeAll enableDisable = some s ∧ Kept s := by
  have henable := (Reaches.new : Reaches sdpOnly _).event (.apiEnable true) trivial
    (.inl rfl)
  have hon := henable.event (.adapterState .on) trivial rfl
  have hstart := hon.own true rfl trivial
  have hstarted := hstart.event (.startDone .sdpClient true) trivial fun _ => rfl
  have hdisable := hstarted.event (.apiDisable) trivial fun _ => by
    refine ⟨rfl, fun _ p hp _ => ?_⟩
    obtain rfl : p = .sdpClient := of_decide_eq_true hp
    rfl
  have hstopped := hdisable.event (.stopDone .sdpClient true) trivial fun _ => rfl
  have ham := hstopped.own true rfl ⟨.inr (.inr rfl), fun _ => rfl⟩
  have hoff := ham.event (.adapterState .off) trivial rfl
  exact ⟨_, rfl, kept_of_reaches hoff⟩

/-- A disable that overtakes the start of the SDP client waits for its stop, which it was
never told. -/
theorem not_kept_of_runs : ¬ ∀ config s, Runs config s → Kept s := by
  intro hall
  have henable := (Runs.new : Runs sdpOnly _).take (.event (.apiEnable true))
    trivial rfl
  have hon := henable.take (.event (.adapterState .on)) trivial rfl
  have hstart := hon.take (.own true) trivial rfl
  have hdisable := hstart.take (.event .apiDisable) trivial rfl
  have htold := ((hall _ _ hdisable).waits rfl).1 .sdpClient rfl nofun rfl
  cases htold

end Session

end Adapter
