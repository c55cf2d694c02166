import BtPlatform.Gatt.Database.Rebuilt

/-!
# The services of a GATT server

An application adds services of its own to a server. The stack answers each request later,
in the order of the requests; the server remembers only the service of the last one.
-/

namespace Gatt

/-- A service object of the application. -/
abbrev ServiceId := Nat

/-- `GattServer`, registered, with the service objects that its pointers lead to. -/
structure GattServer where
  objects : ServiceId → GattService
  mPendingService : Option ServiceId
  mServices : List ServiceId

/-- A call of `onServiceAdded` of the application's callback. -/
structure AddedReport where
  status : Int
  service : ServiceId
  deriving DecidableEq

namespace GattServer

/-- `GattServer::addService`, up to the call of the library. -/
def addService (s : GattServer) (service : ServiceId) : GattServer :=
  { s with mPendingService := some service }

/-- `GattServer::getService` with type, instance and UUID. -/
def getService (s : GattServer) (service : GattService) : Option ServiceId :=
  s.mServices.find? fun svc =>
    decide ((s.objects svc).serviceType = service.serviceType ∧
      (s.objects svc).instanceId = service.instanceId ∧ (s.objects svc).uuid = service.uuid)

/-- `GattServer::removeService`: the pointer that is found is erased. -/
def removeService (s : GattServer) (service : ServiceId) : GattServer :=
  match s.getService (s.objects service) with
  | none => s
  | some intService => { s with mServices := s.mServices.erase intService }

def clearServices (s : GattServer) : GattServer := { s with mServices := [] }

/-- `GattServer::onServiceAdded`; `none` is an exception that nobody catches. -/
def onServiceAdded (s : GattServer) (status : Int) (service : GattService) :
    Option (GattServer × List AddedReport) :=
  match s.mPendingService with
  | none => some (s, [])
  | some tmp =>
      match assignHandles (s.objects tmp) service with
      | none => none
      | some assigned =>
          some (⟨Function.update s.objects tmp assigned, none, s.mServices ++ [tmp]⟩,
            [⟨status, tmp⟩])

/-- `GattLibService::onServiceAdded`: an answer with an error goes no further. -/
def onAnswer (s : GattServer) (status : Int) (service : List GattDbElement) :
    Option (GattServer × List AddedReport) :=
  if status ≠ 0 then some (s, [])
  else
    match libOnServiceAdded service with
    | none => none
    | some svc => s.onServiceAdded status svc

def getCharacteristicByHandle (s : GattServer) (handle : Int) : Option GattCharacteristic :=
  s.mServices.findSome? fun svc =>
    (s.objects svc).characteristics.find? fun charac => decide (charac.instanceId = handle)

def getDescriptorByHandle (s : GattServer) (handle : Int) : Option GattDescriptor :=
  s.mServices.findSome? fun svc =>
    (s.objects svc).characteristics.findSome? fun charac =>
      charac.descriptors.find? fun desc => decide (desc.instanceId = handle)

end GattServer

/-- The server and the requests that the stack has not answered, each with the service
whose elements it has. -/
structure ServerRun where
  server : GattServer
  inFlight : List (ServiceId × List GattDbElement)

/-- `checkServiceExists` is the handle map at the time of the call. -/
inductive ServerEvent where
  | addService (checkServiceExists : Uuid → Int → Bool) (service : ServiceId)
  | removeService (service : ServiceId)
  | clearServices
  | answer (status : Int) (service : List GattDbElement)

def ServerRun.step (r : ServerRun) : ServerEvent → Option (ServerRun × List AddedReport)
  | .addService checkServiceExists service =>
      some (⟨r.server.addService service, r.inFlight ++
        [(service, libAddService checkServiceExists (r.server.objects service))]⟩, [])
  | .removeService service => some (⟨r.server.removeService service, r.inFlight⟩, [])
  | .clearServices => some (⟨r.server.clearServices, r.inFlight⟩, [])
  | .answer status service =>
      match r.inFlight with
      | [] => none
      | _ :: inFlight =>
          (r.server.onAnswer status service).map fun answered =>
            (⟨answered.1, inFlight⟩, answered.2)

/-! ## What the events mean -/

/-- The services that were added and not removed, each with the attributes of its own
answer. -/
abbrev Registered := List (ServiceId × List (Uuid × Int))

/-- The attributes that an answer has handles for. -/
def answerAttributes (service : List GattDbElement) : List (Uuid × Int) :=
  (service.filter GattDbElement.isAttribute).map GattDbElement.attribute

/-- The service whose request an answer is for. -/
def ServerRun.owner (r : ServerRun) : Option ServiceId := r.inFlight.head?.map Prod.fst

def Registered.after (m : Registered) (owner : Option ServiceId) : ServerEvent → Registered
  | .addService _ _ => m
  | .removeService service => m.filter fun entry => entry.1 != service
  | .clearServices => []
  | .answer status service =>
      match owner with
      | some p => if status = 0 then m ++ [(p, answerAttributes service)] else m
      | none => m

/-- The one report of an added service. -/
def expectedReports (owner : Option ServiceId) : ServerEvent → List AddedReport
  | .answer status _ =>
      match owner with
      | some p => if status = 0 then [⟨status, p⟩] else []
      | none => []
  | _ => []

/-- Every registered service is in `mServices` once and has the handles of its answer. -/
structure Tracks (s : GattServer) (m : Registered) : Prop where
  exactly : s.mServices.Perm (m.map Prod.fst)
  once : s.mServices.Nodup
  handles : ∀ p attributes, (p, attributes) ∈ m → (s.objects p).attributes = attributes

/-- What the stack does: it answers the first request with the elements of that request
and with handles that no registered service has. -/
def LegalAnswer (r : ServerRun) (m : Registered) : ServerEvent → Prop
  | .answer status service =>
      ∃ p request inFlight, r.inFlight = (p, request) :: inFlight ∧
        (status = 0 → Filled request service ∧
          ∀ q attributes, (q, attributes) ∈ m →
            ((answerAttributes service).map Prod.snd).Disjoint (attributes.map Prod.snd))
  | _ => True

/-- The event does what it says to the registered services, and each success is reported
once for its own service. -/
def KeepsServices (r : ServerRun) (m : Registered) (event : ServerEvent) : Prop :=
  match r.step event with
  | none => False
  | some (r', reports) =>
      reports = expectedReports r.owner event ∧ Tracks r'.server (m.after r.owner event)

/-- The condition: a successful answer finds its own service pending, which is not in
`mServices`, and a service that is removed is the one with its type, UUID and instance, if
there is one. -/
def CarefulServices (r : ServerRun) : ServerEvent → Prop
  | .answer status _ =>
      status = 0 → ∃ p, r.owner = some p ∧ r.server.mPendingService = some p ∧
        p ∉ r.server.mServices
  | .removeService service =>
      ∀ q, r.server.getService (r.server.objects service) = some q → q = service
  | _ => True

/-- The runs of careful events from a server without services, with the services
registered in each state. -/
inductive ReachesServices (objects : ServiceId → GattService) : ServerRun → Registered → Prop
  | start : ReachesServices objects ⟨⟨objects, none, []⟩, []⟩ []
  | step {r r' : ServerRun} {m : Registered} {reports : List AddedReport} (event : ServerEvent) :
      ReachesServices objects r m → LegalAnswer r m event → CarefulServices r event →
      r.step event = some (r', reports) →
      ReachesServices objects r' (m.after r.owner event)

end Gatt
