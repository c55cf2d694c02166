import BtPlatform.Gatt.Uuid
import Mathlib.Algebra.Group.Int.Defs

/-!
# Services and their flat form

A service holds its characteristics, each with its descriptors, and refers to included
services. The stack takes and returns a service as a list of elements: the service itself,
the included services, and each characteristic followed by its descriptors.
-/

namespace Gatt

structure GattDescriptor where
  uuid : Uuid
  instanceId : Int
  permissions : Int
  deriving DecidableEq

structure GattCharacteristic where
  uuid : Uuid
  instanceId : Int
  properties : Int
  permissions : Int
  keySize : Int
  descriptors : List GattDescriptor
  deriving DecidableEq

/-- `SERVICE_TYPE_PRIMARY` and `SERVICE_TYPE_SECONDARY`. -/
inductive ServiceType where
  | primary
  | secondary
  deriving DecidableEq

/-- What is read of an included service. -/
structure ServiceRef where
  uuid : Uuid
  instanceId : Int
  deriving DecidableEq

structure GattService where
  device : List Char
  uuid : Uuid
  instanceId : Int
  serviceType : ServiceType
  characteristics : List GattCharacteristic
  includedServices : List ServiceRef
  deriving DecidableEq

inductive ElementType where
  | primaryService
  | secondaryService
  | includedService
  | characteristic
  | descriptor
  deriving DecidableEq

/-- `GattDbElement`. The constructors leave the fields they do not set as they are; for
these nothing but the type decides whether they are read, and they stand here as zero. -/
structure GattDbElement where
  type : ElementType
  id : Int := 0
  uuid : Uuid := Uuid.empty
  attributeHandle : Int := 0
  startHandle : Int := 0
  properties : Int := 0
  permissions : Int := 0
  deriving DecidableEq

namespace GattDbElement

def createPrimaryService (uuid : Uuid) : GattDbElement :=
  { type := .primaryService, uuid := uuid }

def createSecondaryService (uuid : Uuid) : GattDbElement :=
  { type := .secondaryService, uuid := uuid }

def createCharacteristic (uuid : Uuid) (properties permissions : Int) : GattDbElement :=
  { type := .characteristic, uuid := uuid, properties := properties,
    permissions := permissions }

def createDescriptor (uuid : Uuid) (permissions : Int) : GattDbElement :=
  { type := .descriptor, uuid := uuid, permissions := permissions }

def createIncludedService (attributeHandle : Int) : GattDbElement :=
  { type := .includedService, attributeHandle := attributeHandle }

/-- The fields of `gatt_db_element_t`: eight bits for the properties, sixteen for the
other numbers. -/
def narrow (el : GattDbElement) : GattDbElement :=
  { el with
    id := el.id % 2 ^ 16
    attributeHandle := el.attributeHandle % 2 ^ 16
    startHandle := el.startHandle % 2 ^ 16
    properties := el.properties % 2 ^ 8
    permissions := el.permissions % 2 ^ 16 }

end GattDbElement

/-! ## The service of an application -/

/-- `((keySize - 7) << 12) + permissions`; the sixteen bits that are kept do not depend
on an overflow of `int`. -/
def elementPermissions (keySize permissions : Int) : Int := (keySize - 7) * 2 ^ 12 + permissions

/-- The elements of a characteristic. -/
def characteristicElements (characteristic : GattCharacteristic) : List GattDbElement :=
  .createCharacteristic characteristic.uuid characteristic.properties
      (elementPermissions characteristic.keySize characteristic.permissions) ::
    characteristic.descriptors.map fun descriptor =>
      .createDescriptor descriptor.uuid
        (elementPermissions characteristic.keySize descriptor.permissions)

/-- `GattLibService::addService`, up to the call of the stack with the result of
`fillGattDbStructureArray`; `checkServiceExists` is the lookup in the handle map. -/
def libAddService (checkServiceExists : Uuid → Int → Bool) (svc : GattService) :
    List GattDbElement :=
  let service :=
    if svc.serviceType = .primary then GattDbElement.createPrimaryService svc.uuid
    else .createSecondaryService svc.uuid
  let included := svc.includedServices.filterMap fun includedService =>
    if checkServiceExists includedService.uuid includedService.instanceId then
      some (GattDbElement.createIncludedService includedService.instanceId)
    else none
  (service :: (included ++ svc.characteristics.flatMap characteristicElements)).map
    GattDbElement.narrow

/-- `new GattService(uuid, instanceId, serviceType)` -/
def GattService.create (uuid : Uuid) (instanceId : Int) (serviceType : ServiceType) : GattService :=
  ⟨[], uuid, instanceId, serviceType, [], []⟩

/-- `new GattCharacteristic(uuid, instanceId, properties, permissions)` -/
def GattCharacteristic.create (uuid : Uuid) (instanceId properties permissions : Int) :
    GattCharacteristic :=
  ⟨uuid, instanceId, properties, permissions, 16, []⟩

def GattService.addCharacteristic (svc : GattService) (characteristic : GattCharacteristic) :
    GattService :=
  { svc with characteristics := svc.characteristics ++ [characteristic] }

def GattCharacteristic.addDescriptor (characteristic : GattCharacteristic)
    (descriptor : GattDescriptor) : GattCharacteristic :=
  { characteristic with descriptors := characteristic.descriptors ++ [descriptor] }

/-- `chars.at(chars.size() - 1)->addDescriptor(…)`; without a characteristic `at` throws. -/
def GattService.addDescriptor (svc : GattService) (descriptor : GattDescriptor) :
    Option GattService :=
  match svc.characteristics.getLast? with
  | none => none
  | some last =>
      some { svc with
        characteristics := svc.characteristics.dropLast ++ [last.addDescriptor descriptor] }

/-- One round of the loop of `GattLibService::onServiceAdded`, which has no case for an
included service; `none` is a service that is `NULL`, or an exception. -/
def rebuildElement (svcEl : GattDbElement) (svc : Option GattService) (el : GattDbElement) :
    Option (Option GattService) :=
  match el.type with
  | .primaryService => some (some (.create svcEl.uuid svcEl.attributeHandle .primary))
  | .secondaryService => some (some (.create svcEl.uuid svcEl.attributeHandle .secondary))
  | .characteristic =>
      svc.map fun svc => some (svc.addCharacteristic
        (.create el.uuid el.attributeHandle el.properties el.permissions))
  | .descriptor =>
      (svc.bind fun svc => svc.addDescriptor ⟨el.uuid, el.attributeHandle, el.permissions⟩).map
        some
  | .includedService => some svc

/-- The tree that `GattLibService::onServiceAdded` builds from the elements of a
successful answer. -/
def libOnServiceAdded (service : List GattDbElement) : Option GattService :=
  match service with
  | [] => none
  | svcEl :: _ => (service.foldlM (rebuildElement svcEl) none).bind id

/-- `temp_descs.at(j)->setInstanceId(svc_descs.at(j)->getInstanceId())`, for every
descriptor of the stack's service; `none` is an exception of `at`. -/
def assignDescriptors : List GattDescriptor → List GattDescriptor → Option (List GattDescriptor)
  | temps, [] => some temps
  | [], _ :: _ => none
  | temp :: temps, svc :: svcs =>
      (assignDescriptors temps svcs).map ({ temp with instanceId := svc.instanceId } :: ·)

/-- The loop of `GattServer::onServiceAdded` over the characteristics. -/
def assignCharacteristics :
    List GattCharacteristic → List GattCharacteristic → Option (List GattCharacteristic)
  | temps, [] => some temps
  | [], _ :: _ => none
  | temp :: temps, svc :: svcs =>
      match assignDescriptors temp.descriptors svc.descriptors with
      | none => none
      | some descriptors =>
          (assignCharacteristics temps svcs).map
            ({ temp with instanceId := svc.instanceId, descriptors := descriptors } :: ·)

/-- `GattServer::onServiceAdded` on the pending service: the handles of the stack's
service. -/
def assignHandles (tmp service : GattService) : Option GattService :=
  (assignCharacteristics tmp.characteristics service.characteristics).map fun characteristics =>
    { tmp with instanceId := service.instanceId, characteristics := characteristics }

/-! ## The database of a remote device -/

/-- The services found so far, the last one being `currSrvc`, and the position of the
service that has `currChar` as its last characteristic. -/
structure DbCursor where
  dbOut : List GattService
  currChar : Option Nat

/-- A change of the service `currSrvc`, which is `NULL` before the first one. -/
def DbCursor.inCurrSrvc (s : DbCursor) (f : GattService → GattService) :
    Option (List GattService) :=
  match s.dbOut.getLast? with
  | none => none
  | some last => some (s.dbOut.dropLast ++ [f last])

/-- `new GattService(el->uuid, el->id, el->type)` for a service that is discovered. -/
def DbCursor.addService (s : DbCursor) (el : GattDbElement) (serviceType : ServiceType) :
    DbCursor :=
  { s with dbOut := s.dbOut ++ [.create el.uuid el.id serviceType] }

/-- One round of the loop of `GattLibService::onGetGattDb`; `none` is the use of a
`NULL` pointer. -/
def discoverElement (s : DbCursor) (el : GattDbElement) : Option DbCursor :=
  match el.type with
  | .primaryService => some (s.addService el .primary)
  | .secondaryService => some (s.addService el .secondary)
  | .characteristic =>
      (s.inCurrSrvc fun svc =>
        svc.addCharacteristic (.create el.uuid el.id el.properties 0)).map fun dbOut =>
          ⟨dbOut, some (dbOut.length - 1)⟩
  | .descriptor =>
      match s.currChar with
      | none => none
      | some i =>
          match s.dbOut[i]? with
          | none => none
          | some svc => (svc.addDescriptor ⟨el.uuid, el.id, 0⟩).map fun svc =>
              { s with dbOut := s.dbOut.set i svc }
  | .includedService =>
      (s.inCurrSrvc fun svc =>
        { svc with includedServices :=
            svc.includedServices ++ [⟨el.uuid, el.startHandle⟩] }).map fun dbOut =>
          { s with dbOut := dbOut }

/-- The services that `GattLibService::onGetGattDb` hands to the client. -/
def onGetGattDb (db : List GattDbElement) : Option (List GattService) :=
  (db.foldlM discoverElement ⟨[], none⟩).map DbCursor.dbOut

def caseInsCompare (a b : List Char) : Bool := a.map Char.toLower == b.map Char.toLower

/-- `GattClient::getService`: the instance is not compared. -/
def clientGetService (mServices : List GattService) (deviceAddress : List Char) (uuid : Uuid) :
    Option GattService :=
  mServices.find? fun service => service.device == deviceAddress && service.uuid == uuid

/-- The loop over the references of a service. The vector it goes through is the empty one
declared in its place, and the one that is cleared is a copy. -/
def fixReferences (mServices : List GattService) (address : List Char)
    (fixedService : GattService) : GattService :=
  let includedServices : List ServiceRef := []
  includedServices.foldl
    (fun fixedService brokenRef =>
      match clientGetService mServices address brokenRef.uuid with
      | some includedService =>
          { fixedService with includedServices := fixedService.includedServices ++
              [⟨includedService.uuid, includedService.instanceId⟩] }
      | none => fixedService)
    fixedService

/-- `GattClient::onSearchComplete`: the services of the client. -/
def onSearchComplete (mDeviceAddress : List Char) (mServices : List GattService)
    (address : List Char) (services : List GattService) (status : Int) : List GattService :=
  if caseInsCompare address mDeviceAddress then
    let found := services.map fun s => { s with device := mDeviceAddress }
    let all := found ++ mServices
    if status = 0 then all.map (fixReferences all address) else all
  else mServices

end Gatt
