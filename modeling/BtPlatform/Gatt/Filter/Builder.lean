import BtPlatform.Gatt.Filter.Matches

/-!
# The builder of scan filters

`ScanFilter::Builder`. Its fields are those of the filter that it builds, and a call that throws
has no result. The calls that set data together with a mask check the data and the mask that the
builder holds already, not the ones that they are given.
-/

namespace Gatt.ScanFilter

open Support Format

namespace Builder

/-- A hexadecimal digit of either case. -/
def isHex (ch : Char) : Bool :=
  decide ('0' ≤ ch ∧ ch ≤ '9' ∨ 'A' ≤ ch ∧ ch ≤ 'F' ∨ 'a' ≤ ch ∧ ch ≤ 'f')

def checkBluetoothAddress (address : List Char) : Bool :=
  decide (address.length = 17) &&
    address.zipIdx.all fun (ch, i) => if i % 3 = 2 then ch == ':' else isHex ch

def setDeviceName (b : ScanFilter) (deviceName : List UInt8) : ScanFilter :=
  { b with mDeviceName := deviceName }

def setDeviceAddress (b : ScanFilter) (deviceAddress : List Char) : Option ScanFilter :=
  if deviceAddress ≠ [] ∧ checkBluetoothAddress deviceAddress = false then none
  else some { b with mDeviceAddress := deviceAddress }

def setServiceUuid (b : ScanFilter) (serviceUuid : Uuid) : ScanFilter :=
  { b with mServiceUuid := serviceUuid, mServiceUuidMask := .empty }

def setServiceUuidMasked (b : ScanFilter) (serviceUuid uuidMask : Uuid) : Option ScanFilter :=
  if b.mServiceUuidMask ≠ .empty ∧ b.mServiceUuid = .empty then none
  else some { b with mServiceUuid := serviceUuid, mServiceUuidMask := uuidMask }

def setServiceSolicitationUuid (b : ScanFilter) (serviceSolicitationUuid : Uuid) : ScanFilter :=
  { b with mServiceSolicitationUuid := serviceSolicitationUuid }

def setServiceSolicitationUuidMasked (b : ScanFilter)
    (serviceSolicitationUuid solicitationUuidMask : Uuid) : Option ScanFilter :=
  if b.mServiceSolicitationUuidMask ≠ .empty ∧ b.mServiceSolicitationUuid = .empty then none
  else
    some { b with
      mServiceSolicitationUuid := serviceSolicitationUuid
      mServiceSolicitationUuidMask := solicitationUuidMask }

/-- The fields of service data, which come with a UUID. -/
def withServiceData (b : ScanFilter) (serviceDataUuid : Uuid) (serviceData mask : List UInt8)
    (h : serviceDataUuid ≠ .empty) : ScanFilter :=
  { b with
    mServiceDataUuid := serviceDataUuid, mServiceData := serviceData, mServiceDataMask := mask
    hasUuid := fun hempty => absurd hempty h }

def setServiceData (b : ScanFilter) (serviceDataUuid : Uuid) (serviceData : List UInt8) :
    Option ScanFilter :=
  if h : serviceDataUuid = .empty then none
  else some (withServiceData b serviceDataUuid serviceData [] h)

def setServiceDataMasked (b : ScanFilter) (serviceDataUuid : Uuid)
    (serviceData serviceDataMask : List UInt8) : Option ScanFilter :=
  if h : serviceDataUuid = .empty then none
  else if b.mServiceDataMask ≠ [] ∧
      (b.mServiceData = [] ∨ b.mServiceData.length ≠ b.mServiceDataMask.length) then none
  else some (withServiceData b serviceDataUuid serviceData serviceDataMask h)

/-- The fields of manufacturer data, which come with the number of a company. -/
def withManufacturerData (b : ScanFilter) (manufacturerId : Int)
    (manufacturerData mask : List UInt8)
    (h : ¬(manufacturerData ≠ [] ∧ manufacturerId < 0)) : ScanFilter :=
  { b with
    mManufacturerId := manufacturerId, mManufacturerData := manufacturerData
    mManufacturerDataMask := mask
    hasId := fun hneg => not_not.1 fun hdata => h ⟨hdata, hneg⟩ }

def setManufacturerData (b : ScanFilter) (manufacturerId : Int) (manufacturerData : List UInt8) :
    Option ScanFilter :=
  if h : manufacturerData ≠ [] ∧ manufacturerId < 0 then none
  else some (withManufacturerData b manufacturerId manufacturerData [] h)

def setManufacturerDataMasked (b : ScanFilter) (manufacturerId : Int)
    (manufacturerData manufacturerDataMask : List UInt8) : Option ScanFilter :=
  if h : manufacturerData ≠ [] ∧ manufacturerId < 0 then none
  else if b.mManufacturerDataMask ≠ [] ∧ (b.mManufacturerData = [] ∨
      b.mManufacturerData.length ≠ b.mManufacturerDataMask.length) then none
  else some (withManufacturerData b manufacturerId manufacturerData manufacturerDataMask h)

/-- The calls of a builder. -/
inductive Call
  | deviceName (deviceName : List UInt8)
  | deviceAddress (deviceAddress : List Char)
  | serviceUuid (serviceUuid : Uuid)
  | serviceUuidMasked (serviceUuid uuidMask : Uuid)
  | solicitationUuid (serviceSolicitationUuid : Uuid)
  | solicitationUuidMasked (serviceSolicitationUuid solicitationUuidMask : Uuid)
  | serviceData (serviceDataUuid : Uuid) (serviceData : List UInt8)
  | serviceDataMasked (serviceDataUuid : Uuid) (serviceData serviceDataMask : List UInt8)
  | manufacturerData (manufacturerId : Int) (manufacturerData : List UInt8)
  | manufacturerDataMasked (manufacturerId : Int)
      (manufacturerData manufacturerDataMask : List UInt8)

def call (b : ScanFilter) : Call → Option ScanFilter
  | .deviceName name => some (setDeviceName b name)
  | .deviceAddress address => setDeviceAddress b address
  | .serviceUuid uuid => some (setServiceUuid b uuid)
  | .serviceUuidMasked uuid mask => setServiceUuidMasked b uuid mask
  | .solicitationUuid uuid => some (setServiceSolicitationUuid b uuid)
  | .solicitationUuidMasked uuid mask => setServiceSolicitationUuidMasked b uuid mask
  | .serviceData uuid data => setServiceData b uuid data
  | .serviceDataMasked uuid data mask => setServiceDataMasked b uuid data mask
  | .manufacturerData id data => setManufacturerData b id data
  | .manufacturerDataMasked id data mask => setManufacturerDataMasked b id data mask

/-- The calls one after the other. -/
def run (b : ScanFilter) : List Call → Option ScanFilter
  | [] => some b
  | c :: calls => (call b c).bind fun b => run b calls

/-! ## What the last calls were given -/

/-- Data with its mask, and what it belongs to. -/
structure Given where
  uuid : Uuid
  serviceData : List UInt8
  serviceDataMask : List UInt8
  id : Int
  manufacturerData : List UInt8
  manufacturerDataMask : List UInt8

def Given.start : Given := ⟨.empty, [], [], -1, [], []⟩

/-- The arguments of a call take the place of those of the last one of its kind. -/
def Given.after (given : Given) : Call → Given
  | .serviceData uuid data => { given with uuid, serviceData := data, serviceDataMask := [] }
  | .serviceDataMasked uuid data mask =>
      { given with uuid, serviceData := data, serviceDataMask := mask }
  | .manufacturerData id data =>
      { given with id, manufacturerData := data, manufacturerDataMask := [] }
  | .manufacturerDataMasked id data mask =>
      { given with id, manufacturerData := data, manufacturerDataMask := mask }
  | _ => given

/-- What a filter has been given. -/
def given (b : ScanFilter) : Given :=
  ⟨b.mServiceDataUuid, b.mServiceData, b.mServiceDataMask, b.mManufacturerId,
    b.mManufacturerData, b.mManufacturerDataMask⟩

theorem call_given {b b' : ScanFilter} {c : Call} (h : call b c = some b') :
    given b' = (given b).after c := by
  cases c with
  | deviceName name =>
      obtain rfl := Option.some.inj h
      rfl
  | deviceAddress address =>
      obtain ⟨-, h⟩ := Option.ite_none_left_eq_some.1 h
      obtain rfl := Option.some.inj h
      rfl
  | serviceUuid uuid =>
      obtain rfl := Option.some.inj h
      rfl
  | serviceUuidMasked uuid mask =>
      obtain ⟨-, h⟩ := Option.ite_none_left_eq_some.1 h
      obtain rfl := Option.some.inj h
      rfl
  | solicitationUuid uuid =>
      obtain rfl := Option.some.inj h
      rfl
  | solicitationUuidMasked uuid mask =>
      obtain ⟨-, h⟩ := Option.ite_none_left_eq_some.1 h
      obtain rfl := Option.some.inj h
      rfl
  | serviceData uuid data =>
      change setServiceData b uuid data = some b' at h
      unfold setServiceData at h
      split at h
      · cases h
      · obtain rfl := Option.some.inj h
        rfl
  | serviceDataMasked uuid data mask =>
      change setServiceDataMasked b uuid data mask = some b' at h
      unfold setServiceDataMasked at h
      split at h
      · cases h
      · obtain ⟨-, h⟩ := Option.ite_none_left_eq_some.1 h
        obtain rfl := Option.some.inj h
        rfl
  | manufacturerData id data =>
      change setManufacturerData b id data = some b' at h
      unfold setManufacturerData at h
      split at h
      · cases h
      · obtain rfl := Option.some.inj h
        rfl
  | manufacturerDataMasked id data mask =>
      change setManufacturerDataMasked b id data mask = some b' at h
      unfold setManufacturerDataMasked at h
      split at h
      · cases h
      · obtain ⟨-, h⟩ := Option.ite_none_left_eq_some.1 h
        obtain rfl := Option.some.inj h
        rfl

/-- A filter has the data of the last calls. -/
theorem run_given {calls : List Call} {b f : ScanFilter} (h : run b calls = some f) :
    given f = calls.foldl Given.after (given b) := by
  induction calls generalizing b with
  | nil =>
      obtain rfl := Option.some.inj h
      rfl
  | cons c calls ih =>
      obtain ⟨b', hcall, hrest⟩ := Option.bind_eq_some_iff.1 h
      rw [List.foldl_cons, ← call_given hcall]
      exact ih hrest

end Builder

end Gatt.ScanFilter
