import BtPlatform.Gatt.Server.Requests

/-!
# Responses answer their requests

What happens at the library of GATT servers, and what it means: the services that are there,
the connections, and the requests that wait for an answer. As long as a request finds no
other one under its transaction id and no entry of a deleted service under its handle, it
gets to the server that owns the attribute, and its answer goes back to where it came from.
-/

namespace Gatt.ServerLib

variable {C : Type}

/-! ## Runs -/

inductive Event (C : Type)
  | registerServer (uuid : Uuid) (callback : C)
  | onServerRegistered (serverIf : Int) (uuid : Uuid)
  | unregisterServer (serverIf : Int)
  | onServiceAdded (status serverIf : Int) (service : List GattDbElement)
  | onServiceDeleted (status serverIf srvcHandle : Int)
  | onClientConnected (address : String) (connected : Bool) (connId serverIf : Int)
      (order : List AppConnection)
  | onRequest (address : String) (connId transId handle : Int) (access : Access)
  | onExecuteWrite (address : String) (connId transId execWrite : Int)
  | sendResponse (serverIf : Int) (address : String) (requestId status offset : Int)
      (value : Option (List UInt8))

def step (s : ServerLib C) : Event C → ServerLib C × Effect C
  | .registerServer uuid callback => (s.registerServer uuid callback, .none)
  | .onServerRegistered serverIf uuid => (s.onServerRegistered serverIf uuid, .none)
  | .unregisterServer serverIf => s.unregisterServer serverIf
  | .onServiceAdded status serverIf service => (s.onServiceAdded status serverIf service, .none)
  | .onServiceDeleted _ serverIf srvcHandle => (s.onServiceDeleted serverIf srvcHandle, .none)
  | .onClientConnected address connected connId serverIf order =>
      (s.onClientConnected address connected connId serverIf order, .none)
  | .onRequest address _ transId handle (.readCharacteristic offset isLong) =>
      s.onServerReadCharacteristic address transId handle offset isLong
  | .onRequest address _ transId handle (.readDescriptor offset isLong) =>
      s.onServerReadDescriptor address transId handle offset isLong
  | .onRequest address _ transId handle
      (.writeCharacteristic offset length isPrep needRsp data) =>
      s.onServerWriteCharacteristic address transId handle offset length needRsp isPrep data
  | .onRequest address _ transId handle (.writeDescriptor offset length isPrep needRsp data) =>
      s.onServerWriteDescriptor address transId handle offset length needRsp isPrep data
  | .onExecuteWrite address connId transId execWrite =>
      s.onExecuteWrite address connId transId execWrite
  | .sendResponse serverIf address requestId status offset value =>
      s.sendResponse serverIf address requestId status offset value

/-! ## What the events mean -/

/-- A service of the stack, with the handles of its attributes. -/
structure LiveService where
  serverIf : Int
  handle : Int
  handles : List Int

/-- A request that was delivered and waits for its answer. The execution of prepared writes
is for no attribute. -/
structure Pending where
  serverIf : Int
  address : String
  connId : Int
  transId : Int
  handle : Option Int
  deriving DecidableEq

def Pending.link (r : Pending) : AppConnection := ⟨r.connId, r.address, r.serverIf⟩

/-- An answer of a server with this transaction id to this address is for the request. -/
def Pending.AnsweredBy (r : Pending) (serverIf : Int) (address : String) (requestId : Int) : Prop :=
  r.serverIf = serverIf ∧ r.address = address ∧ r.transId = requestId

instance (r : Pending) (serverIf : Int) (address : String) (requestId : Int) :
    Decidable (r.AnsweredBy serverIf address requestId) :=
  inferInstanceAs (Decidable (_ ∧ _ ∧ _))

/-- What is there: services, connections of registered servers, and requests. -/
structure World where
  services : List LiveService
  links : List AppConnection
  pending : List Pending

def World.empty : World := ⟨[], [], []⟩

def liveService (serverIf : Int) : List GattDbElement → List LiveService
  | [] => []
  | svcEl :: rest =>
      [⟨serverIf, svcEl.attributeHandle, (svcEl :: rest).map (·.attributeHandle)⟩]

/-- The server that owns an attribute: the one of the service that the handle belongs to. -/
def World.owner (w : World) (handle : Int) : Option Int :=
  (w.services.find? fun svc => decide (handle ∈ svc.handles)).map LiveService.serverIf

/-- The server that a connection belongs to. -/
def World.linkOwner (w : World) (connId : Int) : Option Int :=
  (w.links.find? fun c => decide (c.connId = connId)).map AppConnection.appId

/-- A request waits for its answer once it is delivered. -/
def World.await (w : World) (effect : Effect C) (r : Pending) : World :=
  if effect.delivered.isEmpty then w else { w with pending := w.pending ++ [r] }

def World.dropService (w : World) (serverIf handle : Int) : World where
  services := w.services.filter fun svc => !(svc.serverIf == serverIf && svc.handle == handle)
  links := w.links
  pending := w.pending

/-- A server goes, and with it its connections and requests. -/
def World.dropServer (w : World) (serverIf : Int) : World where
  services := w.services
  links := w.links.filter fun c => c.appId != serverIf
  pending := w.pending.filter fun r => r.serverIf != serverIf

/-- A connection goes, and with it its requests. -/
def World.dropLink (w : World) (connId : Int) : World where
  services := w.services
  links := w.links.filter fun c => c.connId != connId
  pending := w.pending.filter fun r => r.connId != connId

/-- The request that an answer is for is answered. -/
def World.answer (w : World) (serverIf : Int) (address : String) (requestId : Int) : World where
  services := w.services
  links := w.links
  pending := w.pending.filter fun r => !decide (r.AnsweredBy serverIf address requestId)

def World.after (w : World) (s : ServerLib C) : Event C → World
  | .registerServer _ _ | .onServerRegistered _ _ => w
  | .unregisterServer serverIf => w.dropServer serverIf
  | .onServiceAdded status serverIf service =>
      if status ≠ 0 then w else { w with services := w.services ++ liveService serverIf service }
  | .onServiceDeleted status serverIf srvcHandle =>
      if status ≠ 0 then w else w.dropService serverIf srvcHandle
  | .onClientConnected address connected connId serverIf _ =>
      if connected then
        if (s.mServerMap.getById serverIf).isSome then
          { w with links := w.links ++ [⟨connId, address, serverIf⟩] }
        else w
      else w.dropLink connId
  | .onRequest address connId transId handle access =>
      w.await (s.onRequest address transId handle access).2
        ⟨(w.owner handle).getD 0, address, connId, transId, some handle⟩
  | .onExecuteWrite address connId transId execWrite =>
      w.await (s.onExecuteWrite address connId transId execWrite).2
        ⟨(w.linkOwner connId).getD 0, address, connId, transId, none⟩
  | .sendResponse serverIf address requestId _ _ _ => w.answer serverIf address requestId

/-- What the stack and the callers do. UUIDs are drawn at random, and a registration is
answered once, with an interface that no other server has. A connection has an id of its own.
A request is for an attribute of a live service, over a connection of its server. -/
def Legal (s : ServerLib C) (w : World) : Event C → Prop
  | .registerServer uuid _ => ∀ app ∈ s.mServerMap.mApps, app.uuid ≠ uuid
  | .onServerRegistered serverIf uuid =>
      (∃ app ∈ s.mServerMap.mApps, app.uuid = uuid ∧ app.id = none) ∧
        ¬ s.mServerMap.Registered serverIf
  | .onClientConnected _ connected connId _ _ =>
      connected = true → 0 ≤ connId ∧ ∀ c ∈ w.links, c.connId ≠ connId
  | .onRequest address connId _ handle _ =>
      ∃ serverIf, w.owner handle = some serverIf ∧ ⟨connId, address, serverIf⟩ ∈ w.links
  | .onExecuteWrite address connId _ _ =>
      ∃ serverIf, w.linkOwner connId = some serverIf ∧ ⟨connId, address, serverIf⟩ ∈ w.links
  | _ => True

/-- What is promised of an event. A request goes to its server only, and as it came; the
answer to a request goes to its connection, with its transaction id and its handle. -/
def Correct (s : ServerLib C) (w : World) : Event C → Prop
  | .onRequest address connId transId handle access =>
      ∀ d ∈ (s.step (.onRequest address connId transId handle access)).2.delivered,
        ∃ app ∈ s.mServerMap.mApps, app.id = w.owner handle ∧
          d = .request app.callback address transId handle access
  | .onExecuteWrite address connId transId execWrite =>
      ∀ d ∈ (s.step (.onExecuteWrite address connId transId execWrite)).2.delivered,
        ∃ app ∈ s.mServerMap.mApps, app.id = w.linkOwner connId ∧
          d = .executeWrite app.callback address transId (decide (execWrite = 1))
  | .sendResponse serverIf address requestId status offset value =>
      ∀ r ∈ w.pending, r.AnsweredBy serverIf address requestId →
        ∃ response,
          (s.step (.sendResponse serverIf address requestId status offset value)).2.calls =
            [.sendResponse response] ∧
          response.serverIf = serverIf ∧ response.connId = r.connId ∧
            response.transId = r.transId ∧ response.handle = r.handle.getD 0
  | _ => True

/-- The entry under the transaction id of a request is its own. -/
def OwnEntries (s : ServerLib C) (w : World) : Prop :=
  ∀ r ∈ w.pending, s.mHandleMap.mRequestMap.lookup r.transId = r.handle

/-! ## The condition -/

/-- Nothing is left under a transaction id. -/
def Unused (s : ServerLib C) (w : World) (transId : Int) : Prop :=
  s.mHandleMap.mRequestMap.lookup transId = none ∧ ∀ r ∈ w.pending, r.transId ≠ transId

/-- The condition. A connection that is recorded finds none with its id, nor one of its server
to its address. A request that finds an entry under its handle finds one of its own server,
and nothing under its transaction id; neither does the execution of prepared writes. A response
under the transaction id of a request is the answer to it, and its attribute is still in the
handle map. -/
def Careful (s : ServerLib C) (w : World) : Event C → Prop
  | .onClientConnected address connected connId serverIf _ =>
      connected = true → s.mServerMap.Registered serverIf →
        s.mServerMap.Fresh ⟨connId, address, serverIf⟩
  | .onRequest _ _ transId handle _ =>
      ∀ entry, s.mHandleMap.getByHandle handle = some entry →
        s.Unused w transId ∧ w.owner handle = some entry.serverIf
  | .onExecuteWrite _ connId transId _ =>
      ∀ app, s.mServerMap.getByConnId connId = some app → s.Unused w transId
  | .sendResponse serverIf address requestId _ _ _ =>
      ∀ r ∈ w.pending, r.transId = requestId →
        r.AnsweredBy serverIf address requestId ∧
          ∀ handle ∈ r.handle, ∃ entry ∈ s.mHandleMap.mEntries, entry.handle = handle
  | _ => True

/-- The runs of a library, with what is there in each state. -/
inductive Runs : ServerLib C → World → Prop
  | start : Runs .empty .empty
  | step {s : ServerLib C} {w : World} (event : Event C) :
      Runs s w → Legal s w event → Runs (s.step event).1 (w.after s event)

/-- The runs whose events meet the condition. -/
inductive Reaches : ServerLib C → World → Prop
  | start : Reaches .empty .empty
  | step {s : ServerLib C} {w : World} (event : Event C) :
      Reaches s w → Legal s w event → Careful s w event →
      Reaches (s.step event).1 (w.after s event)

end Gatt.ServerLib
