import BtPlatform.Gap.Gap

/-!
# Commands and their answers

What should be seen from outside: each command gets one answer, an enabled adapter has all
its profiles, a disable waits for profiles that were told to stop, and no timer runs while
nothing is under way. The ledger keeps the commands, the answers, and how far the transitions
have come.
-/

namespace Adapter

/-- How far the enable has come that the stack took on. -/
inductive Enabling where
  /-- the stack has not reported that the adapter is on -/
  | turningOn
  /-- the start of the profiles is posted -/
  | posted
  /-- the profiles are told to start -/
  | starting
  deriving DecidableEq

/-- How far the disable has come that was accepted. -/
inductive Disabling where
  /-- the A2DP sink cleans up -/
  | cleaning
  /-- the profiles are told to stop -/
  | stopping
  /-- the audio manager disables itself, or its message is posted in its place -/
  | amDisabling
  /-- the stack has not reported that the adapter is off -/
  | turningOff
  deriving DecidableEq

/-- An answer with the adapter and the profiles that reported a start as it was sent. -/
structure Answered where
  answer : Answer
  gap : Gap
  reported : ProfileId → Bool

/-- The thread with its own messages and the ledger. -/
structure Session where
  gap : Gap
  own : List OwnMessage
  enabling : Option Enabling
  disabling : Option Disabling
  told : ProfileId → Bool
  reported : ProfileId → Bool
  enables : Nat
  disables : Nat
  answered : List Answered

/-! ## The ledger -/

def nextEnabling (event : Event) (messages : List Message) (enabling : Option Enabling) :
    Option Enabling :=
  match event with
  | .apiEnable _ => if answers messages = [] then some .turningOn else enabling
  | .adapterState .on => if enabling = some .turningOn then some .posted else enabling
  | .profileApiStart => if enabling = some .posted then some .starting else enabling
  | .startDone _ _ => if answers messages = [] then enabling else none
  | _ => enabling

def nextDisabling (event : Event) (messages : List Message) (disabling : Option Disabling) :
    Option Disabling :=
  match event with
  | .apiDisable =>
      if answers messages ≠ [] then disabling
      else if .sinkCleanup ∈ messages then some .cleaning
      else some .stopping
  | .sinkCleanupDone => some .stopping
  | .stopDone _ _ => if messages = [] then disabling else some .amDisabling
  | .amDisableDone _ => if answers messages = [] then some .turningOff else none
  | .adapterState .off => none
  | _ => disabling

/-- The profiles that were told to stop for the last disable. -/
def nextTold (event : Event) (messages : List Message) (told : ProfileId → Bool) :
    ProfileId → Bool :=
  match event with
  | .apiDisable => fun p => .stop p ∈ messages
  | .sinkCleanupDone => fun p => .stop p ∈ messages
  | _ => told

/-- The profiles that reported a start since the adapter was last enabled. -/
def nextReported (config : Config) (event : Event) (messages : List Message)
    (reported : ProfileId → Bool) : ProfileId → Bool :=
  match event with
  | .apiEnable _ => if answers messages = [] then fun _ => false else reported
  | .profileApiStart => fun _ => false
  | .startDone profile status => setStatus config profile status reported
  | _ => reported

/-- How many enables the event is. -/
def Event.enables : Event → Nat
  | .apiEnable _ => 1
  | _ => 0

/-- How many disables the event is. -/
def Event.disables : Event → Nat
  | .apiDisable => 1
  | _ => 0

namespace Session

def new (config : Config) : Session where
  gap := .new config
  own := []
  enabling := none
  disabling := none
  told _ := false
  reported _ := false
  enables := 0
  disables := 0
  answered := []

/-- The ledger after an event that left the adapter so and posted the messages. -/
def record (event : Event) (gap : Gap) (messages : List Message) (s : Session) : Session :=
  let reported := nextReported gap.config event messages s.reported
  { gap := gap
    own := s.own ++ ownMessages messages
    enabling := nextEnabling event messages s.enabling
    disabling := nextDisabling event messages s.disabling
    told := nextTold event messages s.told
    reported := reported
    enables := s.enables + event.enables
    disables := s.disables + event.disables
    answered := s.answered ++ (answers messages).map (⟨·, gap, reported⟩) }

def process (event : Event) (s : Session) : Session :=
  s.record event (s.gap.processEvent event).1 (s.gap.processEvent event).2

/-- The next input is taken; there is nothing to take if no own message is posted. -/
def take (s : Session) : Input → Option Session
  | .event event => some (s.process event)
  | .own ok =>
      match s.own with
      | [] => none
      | message :: own => some ({ s with own := own }.process (message.event ok))

/-- How many answers were `MAIN_EVENT_ENABLED`. -/
def enabledAnswers (s : Session) : Nat :=
  s.answered.countP fun a => match a.answer with | .enabled _ => true | .disabled _ => false

/-- How many answers were `MAIN_EVENT_DISABLED`. -/
def disabledAnswers (s : Session) : Nat :=
  s.answered.countP fun a => match a.answer with | .enabled _ => false | .disabled _ => true

/-- What is promised to the main thread. -/
structure Kept (s : Session) : Prop where
  /-- every enable is answered once, but for one that is under way -/
  enables : s.enables = s.enabledAnswers + if s.enabling = none then 0 else 1
  /-- every disable is answered once, but for one that is under way -/
  disables : s.disables = s.disabledAnswers + if s.disabling = none then 0 else 1
  truthful : ∀ a ∈ s.answered, a.answer = .enabled .on →
    a.gap.state = .on ∧ ∀ p, a.gap.config.isEnabled p = true → a.reported p = true
  /-- a start is under way only while a profile has not reported it -/
  starting : s.enabling = some .starting →
    ∃ p, s.gap.config.isEnabled p = true ∧ s.gap.startStatus p = false
  /-- a stop waits for profiles that were told to stop, and only while one has not answered -/
  waits : s.disabling = some .stopping →
    (∀ p, s.gap.config.isEnabled p = true → p ≠ .btAm → s.gap.stopStatus p = false →
      s.told p = true) ∧
    ∃ p, s.told p = true ∧ s.gap.stopStatus p = false
  /-- the audio manager is there to answer, or the message in its place is posted -/
  amAsked : s.disabling = some .amDisabling →
    s.gap.config.isEnabled .btAm = true ∨ .amDisableDone ∈ s.own
  timers : s.enabling = none → s.disabling = none →
    s.gap.profile_startup_timer = false ∧ s.gap.profile_stop_timer = false ∧
      s.gap.enable_timer = false ∧ s.gap.disable_timer = false

/-! ## The condition -/

/-- What an event must find. The adapter's states come only as answers to a command; an
enable comes when the adapter is off, or on with all profiles; a disable comes when none is
under way, and profiles are stopped only once all have started; the last start and the last
stop of a round, and the audio manager's answer, come in their rounds. -/
def Careful (s : Session) : Event → Prop
  | .adapterState .on => s.enabling = some .turningOn
  | .adapterState .off => s.disabling = some .turningOff
  | .apiEnable _ => s.gap.state = .off ∨
      s.gap.state = .on ∧ ∀ p, s.gap.config.isEnabled p = true → s.reported p = true
  | .profileApiStart => True
  | .startDone profile status =>
      (s.gap.noteStart profile status).allStarted = true → s.enabling = some .starting
  | .stopDone profile status =>
      (s.gap.noteStop profile status).allStopped = true → s.disabling = some .stopping
  | .amDisableDone ok =>
      (s.disabling = some .cleaning ∨ s.disabling = some .stopping ∨
        s.disabling = some .amDisabling) ∧ (ok = true → s.enabling = none)
  | .apiDisable => s.gap.state = .on → s.disabling = none ∧
      (s.gap.config.isEnabled .a2dpSink = false →
        ∀ p, s.gap.config.isEnabled p = true → p ≠ .btAm → s.gap.startStatus p = true)
  | .sinkCleanupDone => s.disabling = some .cleaning ∧
      ∀ p, s.gap.config.isEnabled p = true → p ≠ .btAm → s.gap.startStatus p = true

/-- The condition for the next input. -/
def CarefulInput (s : Session) : Input → Prop
  | .event event => s.Careful event
  | .own ok => ∀ message own, s.own = message :: own → s.Careful (message.event ok)

/-- The start of the profiles comes from the thread itself, and an audio manager that is not
enabled sends nothing. -/
def Legal (s : Session) : Input → Prop
  | .event .profileApiStart => False
  | .event (.amDisableDone _) => s.gap.config.isEnabled .btAm = true
  | _ => True

/-- The sessions that are reached by whatever comes. -/
inductive Runs (config : Config) : Session → Prop where
  | new : Runs config (new config)
  | take {s s' : Session} (input : Input) : Runs config s → s.Legal input →
      s.take input = some s' → Runs config s'

/-- The sessions that are reached by inputs that meet the condition. -/
inductive Reaches (config : Config) : Session → Prop where
  | new : Reaches config (new config)
  | take {s s' : Session} (input : Input) : Reaches config s → s.Legal input →
      s.CarefulInput input → s.take input = some s' → Reaches config s'

end Session

end Adapter
