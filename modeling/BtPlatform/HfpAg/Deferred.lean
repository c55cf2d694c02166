import BtPlatform.HfpAg.HfpAg

/-!
# Deferred disconnects

What a request to disconnect may lead to that comes while audio is on, and what becomes of
the threads. The ledger numbers these requests as they come, knows which of them each
memorized event is, and which threads were started and not joined.
-/

namespace HfpAg

/-- A successful disconnect, with how its request stood as it was issued. -/
structure Disconnect where
  device : Address
  scoDown : Bool
  nextSession : Bool
  deriving DecidableEq, Repr

/-- A request that was accepted while audio was on. -/
structure Request where
  device : Address
  /-- the SCO link was reported down since -/
  scoDown : Bool
  /-- another session was connected since -/
  nextSession : Bool
  disconnects : List Disconnect
  deriving DecidableEq, Repr

/-- The gateway with the ledger. -/
structure Session where
  gateway : Gateway
  requests : List Request
  /-- which request each memorized event is -/
  tickets : List Nat
  unjoined : List Nat
  deriving DecidableEq, Repr

/-! ## The ledger -/

def Request.new (device : Address) : Request where
  device := device
  scoDown := false
  nextSession := false
  disconnects := []

/-- A session is connected where the event is handled. -/
def connects (event : BtEvent) (state : HfpAgState) : Bool :=
  event.event_id = .connectedCb && (state = .disconnected || state = .pending)

/-- A request is accepted while audio is on. -/
def accepts (event : BtEvent) (state : HfpAgState) : Bool :=
  event.event_id = .apiDisconnectReq && state = .audioOn

/-- What the event reports, noted for a request. -/
def Request.note (event : BtEvent) (state : HfpAgState) (r : Request) : Request :=
  { r with
    scoDown := r.scoDown || event.event_id = .audioStateDisconnectedCb
    nextSession := r.nextSession || connects event state }

/-- A successful disconnect, noted for its request. -/
def Request.issue (device : Address) (r : Request) : Request :=
  { r with disconnects := r.disconnects ++ [⟨device, r.scoDown, r.nextSession⟩] }

/-- The device of a successful disconnect. -/
def Act.disconnected : Act → Option Address
  | .disconnect device true => some device
  | _ => none

/-- The device of the successful disconnect at the end of audio, if there was one. -/
def deferred (event : BtEvent) (acts : List Act) : Option Address :=
  if event.event_id = .audioStateDisconnectedCb then acts.findSome? Act.disconnected else none

/-- The requests after an event. -/
def nextRequests (event : BtEvent) (state : HfpAgState) (acts : List Act) (tickets : List Nat)
    (requests : List Request) : List Request :=
  let noted := requests.map (Request.note event state)
  match deferred event acts with
  | none => if accepts event state then noted ++ [.new event.bd_addr] else noted
  | some device =>
      match tickets.getLast? with
      | none => noted
      | some ticket => noted.modify ticket (Request.issue device)

/-- Which requests the memorized events are after an event. -/
def nextTickets (event : BtEvent) (g : Gateway) (acts : List Act) (requests : List Request)
    (tickets : List Nat) : List Nat :=
  match deferred event acts with
  | none =>
      if accepts event g.mAgState && g.sBtHfpAgInterface then tickets ++ [requests.length]
      else tickets
  | some _ => tickets.dropLast

/-- The threads that are left to join. -/
def nextUnjoined (unjoined : List Nat) : Act → List Nat
  | .started tid => unjoined ++ [tid]
  | .joined tid => unjoined.filter (· ≠ tid)
  | _ => unjoined

namespace Session

def new (bluetooth_interface : Bool) : Session where
  gateway := .new bluetooth_interface
  requests := []
  tickets := []
  unjoined := []

/-- The ledger after an event that left the gateway so and did the acts. -/
def record (event : BtEvent) (gateway : Gateway) (acts : List Act) (s : Session) : Session where
  gateway := gateway
  requests := nextRequests event s.gateway.mAgState acts s.tickets s.requests
  tickets := nextTickets event s.gateway acts s.requests s.tickets
  unjoined := acts.foldl nextUnjoined s.unjoined

def take (env : Env) (event : BtEvent) (s : Session) : Option Session :=
  (s.gateway.msgHandler env event).map fun result => s.record event result.1 result.2

/-- What a deferred disconnect and a media thread may not outlive. -/
structure Kept (s : Session) : Prop where
  once : ∀ r ∈ s.requests, r.disconnects.length ≤ 1
  /-- for its device, after the end of audio, before the next session -/
  own : ∀ r ∈ s.requests, ∀ d ∈ r.disconnects,
    d.device = r.device ∧ d.scoDown = true ∧ d.nextSession = false
  empty : s.gateway.mAgState ≠ .pending → s.gateway.memorized_evt = []
  joined : s.gateway.mAgState ≠ .audioOn → s.gateway.mAgState ≠ .pending → s.unjoined = []

/-! ## The condition -/

/-- Nothing is left that only the end of audio takes care of. -/
def Settled (s : Session) : Prop :=
  s.gateway.memorized_evt = [] ∧ s.unjoined = []

/-- What an event must find. A session starts and ends, and the profile is started again,
only with nothing left; the profile is stopped only with no request left; audio starts no
thread whose id is lost. -/
def Careful (env : Env) (event : BtEvent) (s : Session) : Prop :=
  match event.event_id with
  | .profileApiStart =>
      s.gateway.bluetooth_interface = true → env.interface = true → env.vendor = true → s.Settled
  | .profileApiStop => s.gateway.memorized_evt = []
  | .connectedCb | .disconnectedCb => s.gateway.mAgState = .pending → s.Settled
  | .audioStateConnectedCb =>
      s.gateway.mAgState = .connected → env.opened = true →
        ∀ tid, env.playback = .started tid → env.record = .failed (some tid)
  | _ => True

/-- The sessions that are reached by whatever comes. -/
inductive Runs (bluetooth_interface : Bool) : Session → Prop where
  | new : Runs bluetooth_interface (new bluetooth_interface)
  | take {s s' : Session} (env : Env) (event : BtEvent) : Runs bluetooth_interface s →
      s.take env event = some s' → Runs bluetooth_interface s'

/-- The sessions that are reached by events that meet the condition. -/
inductive Reaches (bluetooth_interface : Bool) : Session → Prop where
  | new : Reaches bluetooth_interface (new bluetooth_interface)
  | take {s s' : Session} (env : Env) (event : BtEvent) : Reaches bluetooth_interface s →
      s.Careful env event → s.take env event = some s' → Reaches bluetooth_interface s'

end Session

end HfpAg
