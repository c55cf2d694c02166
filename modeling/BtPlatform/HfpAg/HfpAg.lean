import Mathlib.Tactic.Common

/-!
# The states of the HFP gateway

`Hfp_Ag` as far as it connects and disconnects, brings audio up and takes it down: the five
states, the request that waits for the end of audio, and the two media threads. What the
stack and the operating system return comes with each event.
-/

namespace HfpAg

/-- `bt_bdaddr_t`. -/
abbrev Address := BitVec 48

/-- `HfpAgState`. -/
inductive HfpAgState where
  | notStarted
  | disconnected
  | pending
  | connected
  | audioOn
  deriving DecidableEq, Repr

/-- The ids of the events that take part, and one for all others. -/
inductive EventId where
  /-- `PROFILE_API_START` -/
  | profileApiStart
  /-- `PROFILE_API_STOP` -/
  | profileApiStop
  /-- `HFP_AG_API_CONNECT_REQ` -/
  | apiConnectReq
  /-- `HFP_AG_API_DISCONNECT_REQ` -/
  | apiDisconnectReq
  /-- `HFP_AG_API_DISCONNECT_AUDIO_REQ` -/
  | apiDisconnectAudioReq
  /-- `HFP_AG_CONNECTING_CB` -/
  | connectingCb
  /-- `HFP_AG_CONNECTED_CB` -/
  | connectedCb
  /-- `HFP_AG_DISCONNECTED_CB` -/
  | disconnectedCb
  /-- `HFP_AG_AUDIO_STATE_CONNECTED_CB` -/
  | audioStateConnectedCb
  /-- `HFP_AG_AUDIO_STATE_DISCONNECTED_CB` -/
  | audioStateDisconnectedCb
  | other
  deriving DecidableEq, Repr

/-- `BtEvent`. -/
structure BtEvent where
  event_id : EventId
  bd_addr : Address
  deriving DecidableEq, Repr

/-- What `pthread_create` does. If it fails, what it leaves in the id is not defined. -/
inductive Created where
  | started (tid : Nat)
  | failed (left : Option Nat)
  deriving DecidableEq, Repr

/-- What the calls return that are made for an event. -/
structure Env where
  /-- the profile interface is there -/
  interface : Bool
  /-- the vendor interface is there -/
  vendor : Bool
  /-- the stack's `disconnect` succeeds -/
  disconnect : Bool
  /-- the file of the recording is opened -/
  opened : Bool
  playback : Created
  record : Created

/-- What the gateway asks of the stack, and what happens to its threads. -/
inductive Act where
  | connect (device : Address)
  | disconnectAudio (device : Address)
  | disconnect (device : Address) (ok : Bool)
  | started (tid : Nat)
  | joined (tid : Nat)
  deriving DecidableEq, Repr

/-- `Hfp_Ag`; of its interfaces it matters whether they are there. -/
structure Gateway where
  bluetooth_interface : Bool
  sBtHfpAgInterface : Bool
  mAgState : HfpAgState
  mConnectingDevice : Address
  mConnectedDevice : Address
  memorized_evt : List BtEvent
  record_tid : Option Nat
  playback_tid : Option Nat
  stop_record : Bool
  stop_playback : Bool
  deriving DecidableEq, Repr

/-- What is left in the id. -/
def Created.tid : Created → Option Nat
  | .started tid => some tid
  | .failed left => left

def Created.acts : Created → List Act
  | .started tid => [.started tid]
  | .failed _ => []

namespace Gateway

def new (bluetooth_interface : Bool) : Gateway where
  bluetooth_interface := bluetooth_interface
  sBtHfpAgInterface := false
  mAgState := .notStarted
  mConnectingDevice := 0
  mConnectedDevice := 0
  memorized_evt := []
  record_tid := none
  playback_tid := none
  stop_record := true
  stop_playback := true

def handleEnableAg (env : Env) (g : Gateway) : Gateway :=
  if g.bluetooth_interface then
    if env.interface then
      if env.vendor then { g with sBtHfpAgInterface := true, mAgState := .disconnected }
      else { g with sBtHfpAgInterface := true }
    else { g with sBtHfpAgInterface := false }
  else g

/-- The threads are told to stop, and joined. -/
def joinThreads (g : Gateway) : Gateway × List Act :=
  ({ g with stop_record := true, stop_playback := true, record_tid := none, playback_tid := none },
    (g.record_tid.toList ++ g.playback_tid.toList).map .joined)

/-- The two threads of audio. Both ids go to the same place. -/
def startThreads (env : Env) (g : Gateway) : Gateway × List Act :=
  if env.opened then
    ({ g with stop_record := false, stop_playback := false, record_tid := env.record.tid },
      env.playback.acts ++ env.record.acts)
  else ({ g with stop_record := false, stop_playback := false }, [])

def handleDisableAg (g : Gateway) : Gateway × List Act :=
  { g with mAgState := .notStarted, sBtHfpAgInterface := false }.joinThreads

/-- `state_disconnected_handler`. -/
def stateDisconnectedHandler (event : BtEvent) (g : Gateway) : Gateway × List Act :=
  match event.event_id with
  | .apiConnectReq =>
      ({ g with mConnectingDevice := event.bd_addr, mAgState := .pending },
        if g.sBtHfpAgInterface then [.connect event.bd_addr] else [])
  | .connectingCb => ({ g with mConnectingDevice := event.bd_addr, mAgState := .pending }, [])
  | .connectedCb =>
      ({ g with
          mConnectingDevice := 0
          mConnectedDevice := event.bd_addr
          mAgState := .connected }, [])
  | _ => (g, [])

/-- The end of audio in `state_pending_handler`: the request that was memorized last is
served, through the interface without a look whether it is there. -/
def servePending (env : Env) (g : Gateway) (joined : List Act) : Option (Gateway × List Act) :=
  match g.memorized_evt.getLast? with
  | none => some ({ g with mAgState := .connected }, joined)
  | some memorized =>
      if memorized.event_id = .apiDisconnectReq then
        if g.sBtHfpAgInterface then
          some (if env.disconnect then { g with memorized_evt := g.memorized_evt.dropLast } else g,
            joined ++ [.disconnect memorized.bd_addr env.disconnect])
        else none
      else some (g, joined)

/-- `state_pending_handler`. -/
def statePendingHandler (env : Env) (event : BtEvent) (g : Gateway) :
    Option (Gateway × List Act) :=
  match event.event_id with
  | .connectedCb =>
      some ({ g with
          mConnectingDevice := 0
          mConnectedDevice := event.bd_addr
          mAgState := .connected }, [])
  | .disconnectedCb =>
      some ({ g with
          mConnectingDevice := 0
          mConnectedDevice := 0
          mAgState := .disconnected }, [])
  | .audioStateDisconnectedCb => g.joinThreads.1.servePending env g.joinThreads.2
  | _ => some (g, [])

/-- `HFP_AG_API_DISCONNECT_REQ` in `state_connected_handler`. -/
def disconnectConnected (env : Env) (device : Address) (g : Gateway) : Gateway × List Act :=
  if g.sBtHfpAgInterface ∧ env.disconnect = false then (g, [.disconnect device false])
  else
    ({ g with mConnectingDevice := 0, mConnectedDevice := 0, mAgState := .pending },
      if g.sBtHfpAgInterface then [.disconnect device true] else [])

/-- `state_connected_handler`. -/
def stateConnectedHandler (env : Env) (event : BtEvent) (g : Gateway) : Gateway × List Act :=
  match event.event_id with
  | .apiDisconnectReq => g.disconnectConnected env event.bd_addr
  | .disconnectedCb =>
      ({ g with mConnectingDevice := 0, mConnectedDevice := 0, mAgState := .disconnected }, [])
  | .audioStateConnectedCb => { g with mAgState := .audioOn }.startThreads env
  | _ => (g, [])

/-- `state_audio_on_handler`. -/
def stateAudioOnHandler (event : BtEvent) (g : Gateway) : Gateway × List Act :=
  match event.event_id with
  | .apiDisconnectReq =>
      if g.sBtHfpAgInterface then
        ({ g with memorized_evt := g.memorized_evt ++ [event], mAgState := .pending },
          [.disconnectAudio event.bd_addr])
      else ({ g with mAgState := .pending }, [])
  | .apiDisconnectAudioReq =>
      (g, if g.sBtHfpAgInterface then [.disconnectAudio event.bd_addr] else [])
  | .audioStateDisconnectedCb => { g with mAgState := .connected }.joinThreads
  | _ => (g, [])

def processEvent (env : Env) (event : BtEvent) (g : Gateway) : Option (Gateway × List Act) :=
  match g.mAgState with
  | .disconnected => some (g.stateDisconnectedHandler event)
  | .pending => g.statePendingHandler env event
  | .connected => some (g.stateConnectedHandler env event)
  | .audioOn => some (g.stateAudioOnHandler event)
  | .notStarted => some (g, [])

/-- `BtHfpAgMsgHandler`. There is no result where a null pointer is followed. -/
def msgHandler (env : Env) (event : BtEvent) (g : Gateway) : Option (Gateway × List Act) :=
  match event.event_id with
  | .profileApiStart => some (g.handleEnableAg env, [])
  | .profileApiStop => some g.handleDisableAg
  | _ => g.processEvent env event

end Gateway

end HfpAg
