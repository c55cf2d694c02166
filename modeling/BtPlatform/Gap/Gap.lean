import Mathlib.Tactic.Common

/-!
# Enabling and disabling the adapter

`Gap::ProcessEvent` as far as it enables and disables the adapter: the state of the adapter,
the start and the stop of the profiles, and the four timers, each with a process kill behind
it. What the thread is told and what it posts are messages; those to itself come back in the
order in which they were posted.
-/

namespace Adapter

/-- `ProfileIdType`, with the profiles over OBEX. -/
inductive ProfileId where
  | a2dpSink
  | hfpClient
  | btAm
  | pan
  | gatt
  | sdpClient
  | pbapClient
  | opp
  | hfpAg
  | a2dpSource
  | avrcp
  | hid
  deriving DecidableEq, Repr

/-- The profiles in the order of the loops from `PROFILE_ID_A2DP_SINK` to `PROFILE_ID_MAX`. -/
def ProfileId.all : List ProfileId :=
  [.a2dpSink, .hfpClient, .btAm, .pan, .gatt, .sdpClient, .pbapClient, .opp, .hfpAg, .a2dpSource,
    .avrcp, .hid]

theorem ProfileId.mem_all (p : ProfileId) : p ∈ ProfileId.all := by
  cases p <;> decide

/-- Which profiles the constructor enables: the SDP client always, the GATT profile never,
and the audio manager with each of three profiles. -/
structure Config where
  isEnabled : ProfileId → Bool
  sdpClient : isEnabled .sdpClient = true
  gatt : isEnabled .gatt = false
  btAm : isEnabled .btAm = (isEnabled .a2dpSink || isEnabled .hfpClient || isEnabled .hfpAg)

/-- `AdapterState`. -/
inductive AdapterState where
  | off
  | on
  | turningOn
  | turningOff
  deriving DecidableEq, Repr

/-- `bt_state_t`. -/
inductive BtState where
  | off
  | on
  deriving DecidableEq, Repr

/-- The answers to the main thread. -/
inductive Answer where
  /-- `MAIN_EVENT_ENABLED` -/
  | enabled (status : BtState)
  /-- `MAIN_EVENT_DISABLED` -/
  | disabled (status : BtState)
  deriving DecidableEq, Repr

/-- What the thread posts to itself. -/
inductive OwnMessage where
  /-- `PROFILE_API_START` -/
  | profileApiStart
  /-- `BT_AM_DISABLE_DONE` -/
  | amDisableDone
  deriving DecidableEq, Repr

inductive Message where
  | main (answer : Answer)
  | own (message : OwnMessage)
  /-- `PROFILE_API_START` to a profile -/
  | start (profile : ProfileId)
  /-- `PROFILE_API_STOP` to a profile -/
  | stop (profile : ProfileId)
  /-- `PAN_EVENT_API_DISABLE` -/
  | panDisable
  /-- `HID_API_DISABLE` -/
  | hidDisable
  /-- `A2DP_SINK_CLEANUP_REQ` -/
  | sinkCleanup
  /-- `BT_AM_DISABLE_REQ` -/
  | amDisable
  deriving DecidableEq, Repr

/-- The events that take part. `ok` is what the stack returns from `enable` or `disable`. -/
inductive Event where
  /-- `GAP_EVENT_ADAPTER_STATE` -/
  | adapterState (status : BtState)
  /-- `GAP_API_ENABLE` -/
  | apiEnable (ok : Bool)
  /-- `PROFILE_API_START` -/
  | profileApiStart
  /-- `PROFILE_EVENT_START_DONE` -/
  | startDone (profile : ProfileId) (status : Bool)
  /-- `PROFILE_EVENT_STOP_DONE` -/
  | stopDone (profile : ProfileId) (status : Bool)
  /-- `BT_AM_DISABLE_DONE` -/
  | amDisableDone (ok : Bool)
  /-- `GAP_API_DISABLE` -/
  | apiDisable
  /-- `A2DP_SINK_CLEANUP_DONE` -/
  | sinkCleanupDone
  deriving DecidableEq, Repr

/-- `Gap`, with which of its timers are armed. -/
structure Gap where
  config : Config
  state : AdapterState
  startStatus : ProfileId → Bool
  stopStatus : ProfileId → Bool
  profile_startup_timer : Bool
  profile_stop_timer : Bool
  enable_timer : Bool
  disable_timer : Bool

/-- The statuses with that of one enabled profile set. -/
def setStatus (config : Config) (profile : ProfileId) (status : Bool)
    (statuses : ProfileId → Bool) :
    ProfileId → Bool :=
  fun p => if config.isEnabled p ∧ p = profile then status else statuses p

/-- The statuses with those of the enabled profiles reset. -/
def resetStatuses (config : Config) (statuses : ProfileId → Bool) : ProfileId → Bool :=
  fun p => if config.isEnabled p then false else statuses p

namespace Gap

def new (config : Config) : Gap where
  config := config
  state := .off
  startStatus _ := false
  stopStatus _ := false
  profile_startup_timer := false
  profile_stop_timer := false
  enable_timer := false
  disable_timer := false

/-- Every enabled profile has reported its start. -/
def allStarted (g : Gap) : Bool :=
  ProfileId.all.all fun p => !g.config.isEnabled p || g.startStatus p

/-- Every enabled profile but the audio manager has reported its stop. -/
def allStopped (g : Gap) : Bool :=
  ProfileId.all.all fun p => !g.config.isEnabled p || (g.stopStatus p || p = .btAm)

/-- The start status of a profile is noted, if it is enabled. -/
def noteStart (g : Gap) (profile : ProfileId) (status : Bool) : Gap :=
  { g with startStatus := setStatus g.config profile status g.startStatus }

/-- The stop status of a profile is noted, if it is enabled. -/
def noteStop (g : Gap) (profile : ProfileId) (status : Bool) : Gap :=
  { g with stopStatus := setStatus g.config profile status g.stopStatus }

/-- The profiles that are told to start. -/
def startMessages (g : Gap) : List Message :=
  (ProfileId.all.filter g.config.isEnabled).map .start

/-- The profiles that are told to stop. -/
def stopMessages (g : Gap) : List Message :=
  (ProfileId.all.filter fun p => g.config.isEnabled p && g.startStatus p && p ≠ .btAm).map .stop

def handleEnable (g : Gap) (ok : Bool) : Gap × List Message :=
  if g.state = .off then
    if ok then ({ g with enable_timer := true, state := .turningOn }, [])
    else (g, [.main (.enabled .off)])
  else (g, [.main (.enabled .off)])

def handleDisable (g : Gap) (ok : Bool) : Gap × List Message :=
  if g.state = .on ∧ ok then ({ g with disable_timer := true, state := .turningOff }, [])
  else (g, [.main (.disabled .on)])

/-- The stop of the profiles, after the cleanup of the A2DP sink or without one. -/
def stopProfiles (g : Gap) : Gap × List Message :=
  ({ g with
      stopStatus := resetStatuses g.config g.stopStatus
      profile_stop_timer := true },
    g.stopMessages)

/-- The requests of `GAP_API_DISABLE` before the profiles are stopped. -/
def disableMessages (g : Gap) : List Message :=
  (if g.config.isEnabled .pan then [.panDisable] else []) ++
    (if g.config.isEnabled .hid then [.hidDisable] else [])

def processEvent (g : Gap) : Event → Gap × List Message
  | .adapterState .on => ({ g with state := .on }, [.own .profileApiStart])
  | .adapterState .off =>
      ({ g with state := .off, disable_timer := false }, [.main (.disabled .off)])
  | .apiEnable ok =>
      if g.state = .off then g.handleEnable ok else (g, [.main (.enabled .on)])
  | .profileApiStart =>
      ({ g with
          startStatus := resetStatuses g.config g.startStatus
          profile_startup_timer := true },
        g.startMessages)
  | .startDone profile status =>
      let g := g.noteStart profile status
      if g.allStarted then
        ({ g with profile_startup_timer := false, enable_timer := false }, [.main (.enabled .on)])
      else (g, [])
  | .stopDone profile status =>
      let g := g.noteStop profile status
      if g.allStopped then
        (g, if g.config.isEnabled .btAm then [.amDisable] else [.own .amDisableDone])
      else (g, [])
  | .amDisableDone ok => { g with profile_stop_timer := false }.handleDisable ok
  | .apiDisable =>
      if g.state ≠ .on then (g, [.main (.disabled .off)])
      else if g.config.isEnabled .a2dpSink then (g, g.disableMessages ++ [.sinkCleanup])
      else
        let (g', messages) := g.stopProfiles
        (g', g.disableMessages ++ messages)
  | .sinkCleanupDone => g.stopProfiles

end Gap

/-- What the thread posted to itself. -/
def ownMessages (messages : List Message) : List OwnMessage :=
  messages.filterMap fun
    | .own message => some message
    | _ => none

/-- What was answered. -/
def answers (messages : List Message) : List Answer :=
  messages.filterMap fun
    | .main answer => some answer
    | _ => none

/-- What comes to the thread: an event from outside, or the next of its own messages. -/
inductive Input where
  | event (event : Event)
  | own (ok : Bool)

/-- The event of an own message. -/
def OwnMessage.event (ok : Bool) : OwnMessage → Event
  | .profileApiStart => .profileApiStart
  | .amDisableDone => .amDisableDone ok

end Adapter
