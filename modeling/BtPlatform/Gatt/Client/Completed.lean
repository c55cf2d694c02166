import BtPlatform.Gatt.Client.Operations

/-!
# Operations are completed

The operations that the library has passed to the stack are followed until their results. As
long as the library refuses nothing, no descriptor is written and no reliable write aborted,
and every result is final and for an attribute that is known, at most one operation is
outstanding, the device is busy exactly while one is, and its result is reported once.
-/

namespace Gatt.GattClient.Operation

open List

variable {C : Type} {c c' : GattClient C}

/-! ## Runs -/

/-- The result that a call leads to. -/
inductive Kind
  | characteristicRead
  | characteristicWrite
  | executeWrite
  | descriptorRead
  | descriptorWrite
  deriving DecidableEq

def kind : LibCall → Option Kind
  | .request _ _ (.readCharacteristic ..) => some .characteristicRead
  | .request _ _ (.readUsingCharacteristicUuid ..) => some .characteristicRead
  | .request _ _ (.writeCharacteristic ..) => some .characteristicWrite
  | .request _ _ (.readDescriptor ..) => some .descriptorRead
  | .request _ _ (.writeDescriptor ..) => some .descriptorWrite
  | .endReliableWrite .. => some .executeWrite
  | _ => none

/-- The attribute that a call names. -/
def handle : LibCall → Option Int
  | .request _ _ (.readCharacteristic handle _) => some handle
  | .request _ _ (.writeCharacteristic handle ..) => some handle
  | .request _ _ (.readDescriptor handle _) => some handle
  | .request _ _ (.writeDescriptor handle ..) => some handle
  | _ => none

def authReq : LibCall → Int
  | .request _ _ (.readCharacteristic _ authReq) => authReq
  | .request _ _ (.readUsingCharacteristicUuid _ _ _ authReq) => authReq
  | .request _ _ (.writeCharacteristic _ _ authReq _) => authReq
  | .request _ _ (.readDescriptor _ authReq) => authReq
  | .request _ _ (.writeDescriptor _ authReq _) => authReq
  | _ => 0

/-- Whether the library passes a call to the stack is up to the library. A result may lead to
another call. -/
inductive Event
  | readCharacteristic (x : Value.GattCharacteristic) (passed : Bool)
  | readUsingCharacteristicUuid (uuid : Uuid) (startHandle endHandle : Int) (passed : Bool)
  | writeCharacteristic (x : Value.GattCharacteristic) (passed : Bool)
  | readDescriptor (x : Value.GattDescriptor) (passed : Bool)
  | writeDescriptor (x : Value.GattDescriptor) (passed : Bool)
  | beginReliableWrite
  | executeReliableWrite (passed : Bool)
  | abortReliableWrite (passed : Bool)
  | result (call : LibCall) (address : List Char) (status handle : Int) (value : List UInt8)
      (passed : Bool)
  | onConnectionState (status : Int) (connected : Bool) (address : List Char)
  | onSearchComplete (address : List Char) (services : List GattService) (status : Int)

def Event.passed : Event → Bool
  | .readCharacteristic _ passed => passed
  | .readUsingCharacteristicUuid _ _ _ passed => passed
  | .writeCharacteristic _ passed => passed
  | .readDescriptor _ passed => passed
  | .writeDescriptor _ passed => passed
  | .executeReliableWrite passed => passed
  | .abortReliableWrite passed => passed
  | .result _ _ _ _ _ passed => passed
  | _ => false

/-- The function that takes the result of an operation. -/
def onResult (c : GattClient C) (kind : Kind) (address : List Char) (status handle : Int)
    (value : List UInt8) : Option (GattClient C × ClientActs C) :=
  match kind with
  | .characteristicRead => c.onCharacteristicRead address status handle value
  | .characteristicWrite => c.onCharacteristicWrite address status handle
  | .executeWrite => some (c.onExecuteWrite address status)
  | .descriptorRead => c.onDescriptorRead address status handle value
  | .descriptorWrite => c.onDescriptorWrite address status handle

/-- An operation that was called; what it returns is for the application. -/
def called (outcome : Bool × GattClient C × List LibCall) : GattClient C × ClientActs C :=
  (outcome.2.1, ⟨outcome.2.2, []⟩)

def step (c : GattClient C) : Event → Option (GattClient C × ClientActs C)
  | .readCharacteristic x _ => some (called (c.readCharacteristic x))
  | .readUsingCharacteristicUuid uuid startHandle endHandle _ =>
      some (called (c.readUsingCharacteristicUuid uuid startHandle endHandle))
  | .writeCharacteristic x _ => some (called (c.writeCharacteristic x))
  | .readDescriptor x _ => some (called (c.readDescriptor x))
  | .writeDescriptor x _ => some (c, ⟨(c.writeDescriptor x).2, []⟩)
  | .beginReliableWrite => some (c, ⟨c.beginReliableWrite.2, []⟩)
  | .executeReliableWrite _ => some (called c.executeReliableWrite)
  | .abortReliableWrite _ => some (c, ⟨c.abortReliableWrite, []⟩)
  | .result call address status handle value _ =>
      match kind call with
      | some kind => onResult c kind address status handle value
      | none => some (c, .none)
  | .onConnectionState status connected address =>
      some (c.onConnectionState status connected address)
  | .onSearchComplete address services status => some (c.onSearchComplete address services status)

/-- The operations that wait for their result. A result is for one of them, and a connection
that ends takes all of them along. -/
def arrive (w : List LibCall) : Event → List LibCall
  | .result call _ _ _ _ _ => w.erase call
  | .onConnectionState _ false _ => []
  | _ => w

/-- The operations that an event leads to. -/
def issued (event : Event) (acts : ClientActs C) : List LibCall :=
  if event.passed then acts.calls.filter fun call => (kind call).isSome else []

def outstandingAfter (w : List LibCall) (event : Event) (acts : ClientActs C) : List LibCall :=
  arrive w event ++ issued event acts

/-- The stack answers the operations that it has, for the attribute that they name, and all
events are for the device of the client. A connection begins without operations. -/
def Legal (c : GattClient C) (w : List LibCall) : Event → Prop
  | .result call address _ resultHandle _ _ => call ∈ w ∧
      caseInsCompare address c.mDeviceAddress = true ∧ ∀ h ∈ handle call, resultHandle = h
  | .onConnectionState _ connected address =>
      caseInsCompare address c.mDeviceAddress = true ∧ (connected = true → w = [])
  | _ => True

/-- The report of a result. -/
def Completes (kind : Kind) (handle status : Int) : AppReport → Prop
  | .onCharacteristicRead h st _ => kind = .characteristicRead ∧ h = handle ∧ st = status
  | .onCharacteristicWrite h st => kind = .characteristicWrite ∧ h = handle ∧ st = status
  | .onReliableWriteCompleted st => kind = .executeWrite ∧ st = status
  | .onDescriptorRead h st _ => kind = .descriptorRead ∧ h = handle ∧ st = status
  | .onDescriptorWrite h st => kind = .descriptorWrite ∧ h = handle ∧ st = status
  | _ => False

/-- At most one operation is outstanding, and the device is busy exactly while one is. -/
def Serial (c : GattClient C) (w : List LibCall) : Prop :=
  w.length ≤ 1 ∧ (c.mDeviceBusy = true ↔ w ≠ [])

/-- What is promised of a result: the operation is issued again with a stronger authentication
(from none over the one without MITM to the one with it), or it is reported once. -/
def Correct (event : Event) (acts : ClientActs C) : Prop :=
  match event with
  | .result call _ status resultHandle _ passed =>
      (∃ retry, acts = ⟨[retry], []⟩ ∧ passed = true ∧ kind retry = kind call ∧
        authReq call < authReq retry ∧ authReq retry ≤ Value.AUTHENTICATION_MITM) ∨
      (acts.calls = [] ∧ ∃ k callback report, kind call = some k ∧
        acts.reports = [(callback, report)] ∧ Completes k resultHandle status report)
  | _ => True

/-- The result is not to be tried again, and its attribute is known. -/
def Final (c : GattClient C) (status handle : Int) : Kind → Prop
  | .executeWrite => True
  | .characteristicRead => c.retries status = false ∧ (c.getCharacteristicById handle).isSome
  | .characteristicWrite => c.retries status = false ∧ (c.getCharacteristicById handle).isSome
  | .descriptorRead => c.retries status = false ∧ (c.getDescriptorById handle).isSome
  | .descriptorWrite => c.retries status = false ∧ (c.getDescriptorById handle).isSome

/-- The condition. What is called while the device is free is passed to the stack, but for
writes of descriptors and the abort of a reliable write, which are not. A result is final. -/
def Careful (c : GattClient C) : Event → Prop
  | .readCharacteristic _ passed => c.mDeviceBusy = false → passed = true
  | .readUsingCharacteristicUuid _ _ _ passed => c.mDeviceBusy = false → passed = true
  | .writeCharacteristic _ passed => c.mDeviceBusy = false → passed = true
  | .readDescriptor _ passed => c.mDeviceBusy = false → passed = true
  | .executeReliableWrite passed => c.mDeviceBusy = false → passed = true
  | .writeDescriptor _ passed => c.mDeviceBusy = false → passed = false
  | .abortReliableWrite passed => passed = false
  | .result call _ status resultHandle _ _ => ∀ k ∈ kind call, Final c status resultHandle k
  | _ => True

/-- A client that is registered, with a free device. -/
def Opened (c : GattClient C) : Prop :=
  c.mService = true ∧ c.mCallback.isSome ∧ c.mDeviceBusy = false

/-- The runs of a client, with the operations that are outstanding in each state. -/
inductive Runs : GattClient C → List LibCall → Prop
  | start (c : GattClient C) : Opened c → Runs c []
  | step {c c' : GattClient C} {w : List LibCall} {acts : ClientActs C} (event : Event) :
      Runs c w → Legal c w event → step c event = some (c', acts) →
      Runs c' (outstandingAfter w event acts)

/-- The runs whose events meet the condition. -/
inductive Reaches : GattClient C → List LibCall → Prop
  | start (c : GattClient C) : Opened c → Reaches c []
  | step {c c' : GattClient C} {w : List LibCall} {acts : ClientActs C} (event : Event) :
      Reaches c w → Legal c w event → Careful c event → step c event = some (c', acts) →
      Reaches c' (outstandingAfter w event acts)

/-! ## What is kept -/

/-- What holds in every state that is reached. -/
structure Safe (c : GattClient C) (w : List LibCall) : Prop where
  callback : c.mCallback.isSome
  serial : Serial c w
  operations : ∀ call ∈ w, (kind call).isSome

theorem Opened.safe (h : Opened c) : Safe c [] where
  callback := h.2.1
  serial := ⟨Nat.zero_le 1, by
    rw [h.2.2]
    exact iff_of_false Bool.false_ne_true (not_not_intro rfl)⟩
  operations := nofun

/-- An operation is refused, or called while the device is free. -/
theorem operate_cases (c : GattClient C) (ready : Bool) (call : LibCall) :
    c.operate ready call = (false, c, []) ∨
      c.mDeviceBusy = false ∧
        c.operate ready call = (true, { c with mDeviceBusy := true }, [call]) := by
  unfold operate
  split
  · split
    · exact .inl rfl
    · next hbusy => exact .inr ⟨Bool.eq_false_iff.2 hbusy, rfl⟩
  · exact .inl rfl

theorem issued_nil (event : Event) (reports : List (C × AppReport)) :
    issued event (⟨[], reports⟩ : ClientActs C) = [] := by
  unfold issued
  split
  · rfl
  · rfl

theorem issued_of_not_passed (event : Event) (hpassed : event.passed = false)
    (acts : ClientActs C) : issued event acts = [] := by
  unfold issued
  rw [hpassed]
  rfl

variable {address : List Char}

/-- A result that is final is reported once, and leaves the device free. -/
theorem onResult_final {k : Kind} {status handle : Int} {callback : C}
    (haddress : caseInsCompare address c.mDeviceAddress = true)
    (hcallback : c.mCallback = some callback) (hfinal : Final c status handle k)
    (value : List UInt8) : ∃ c' report, onResult c k address status handle value =
        some (c', ⟨[], [(callback, report)]⟩) ∧ c'.mDeviceBusy = false ∧
      c'.mCallback = c.mCallback ∧ Completes k handle status report := by
  have hmatch : ¬ caseInsCompare address c.mDeviceAddress = false := by
    rw [haddress]
    exact Bool.noConfusion
  have hreport : ∀ r, c.report r = [(callback, r)] := by
    intro r
    unfold report
    rw [hcallback]
  cases k with
  | characteristicRead =>
      obtain ⟨hretry, hknown⟩ := hfinal
      obtain ⟨characteristic, hcharacteristic⟩ := Option.isSome_iff_exists.1 hknown
      refine ⟨c.setBusy false .idle, .onCharacteristicRead handle status
        (if status = GATT_SUCCESS then some value else none), ?_, rfl, rfl, rfl, rfl, rfl⟩
      change c.onCharacteristicRead address status handle value = _
      unfold onCharacteristicRead
      rw [if_neg hmatch, hretry, if_neg Bool.false_ne_true, hcharacteristic, hreport]
  | characteristicWrite =>
      obtain ⟨hretry, hknown⟩ := hfinal
      obtain ⟨characteristic, hcharacteristic⟩ := Option.isSome_iff_exists.1 hknown
      refine ⟨c.setBusy false .idle, .onCharacteristicWrite handle status, ?_, rfl, rfl,
        rfl, rfl, rfl⟩
      change c.onCharacteristicWrite address status handle = _
      unfold onCharacteristicWrite
      rw [if_neg hmatch, hretry, hcharacteristic, hreport]
      rfl
  | executeWrite =>
      refine ⟨c.setBusy false c.mAuthRetryState, .onReliableWriteCompleted status, ?_, rfl, rfl,
        rfl, rfl⟩
      change some (c.onExecuteWrite address status) = _
      unfold onExecuteWrite
      rw [if_neg hmatch, hreport]
  | descriptorRead =>
      obtain ⟨hretry, hknown⟩ := hfinal
      obtain ⟨descriptor, hdescriptor⟩ := Option.isSome_iff_exists.1 hknown
      refine ⟨c.setBusy false .idle, .onDescriptorRead handle status
        (if status = GATT_SUCCESS then some value else none), ?_, rfl, rfl, rfl, rfl, rfl⟩
      change c.onDescriptorRead address status handle value = _
      unfold onDescriptorRead
      rw [if_neg hmatch, hretry, hdescriptor, hreport]
      rfl
  | descriptorWrite =>
      obtain ⟨hretry, hknown⟩ := hfinal
      obtain ⟨descriptor, hdescriptor⟩ := Option.isSome_iff_exists.1 hknown
      refine ⟨c.setBusy false .idle, .onDescriptorWrite handle status, ?_, rfl, rfl, rfl, rfl, rfl⟩
      change c.onDescriptorWrite address status handle = _
      unfold onDescriptorWrite
      rw [if_neg hmatch, hretry, hdescriptor, hreport]
      rfl

namespace Safe

variable {w : List LibCall}

theorem free (h : Safe c w) (hbusy : c.mDeviceBusy = false) : w = [] := by
  by_contra hne
  have htrue := h.serial.2.2 hne
  rw [hbusy] at htrue
  cases htrue

/-- The device stays as it is, and no operation comes or goes. -/
theorem keep (h : Safe c w) (hbusy : c'.mDeviceBusy = c.mDeviceBusy)
    (hcallback : c'.mCallback = c.mCallback) : Safe c' w where
  callback := by
    rw [hcallback]
    exact h.callback
  serial := by
    unfold Serial
    rw [hbusy]
    exact h.serial
  operations := h.operations

/-- The device is free, and no operation is left. -/
theorem release (h : Safe c w) (hbusy : c'.mDeviceBusy = false)
    (hcallback : c'.mCallback = c.mCallback) : Safe c' [] where
  callback := by
    rw [hcallback]
    exact h.callback
  serial := ⟨Nat.zero_le 1, by
    rw [hbusy]
    exact iff_of_false Bool.false_ne_true (not_not_intro rfl)⟩
  operations := nofun

theorem operate (h : Safe c w) {event : Event} (ready : Bool) {call : LibCall}
    (hkind : (kind call).isSome) (harrive : arrive w event = w)
    (hpassed : c.mDeviceBusy = false → event.passed = true) :
    Safe (called (c.operate ready call)).1
      (outstandingAfter w event (called (c.operate ready call)).2) := by
  unfold outstandingAfter
  rw [harrive]
  obtain heq | ⟨hbusy, heq⟩ := operate_cases c ready call
  · rw [heq]
    change Safe c (w ++ issued event ⟨[], []⟩)
    rw [issued_nil, append_nil]
    exact h
  · obtain rfl := h.free hbusy
    have hissued : issued event (⟨[call], []⟩ : ClientActs C) = [call] := by
      unfold issued
      rw [if_pos (hpassed hbusy)]
      exact filter_cons_of_pos hkind
    rw [heq]
    change Safe _ ([] ++ issued event (⟨[call], []⟩ : ClientActs C))
    rw [hissued]
    refine ⟨h.callback, ⟨le_refl 1, iff_of_true rfl (cons_ne_nil call [])⟩, ?_⟩
    intro call' hmem
    obtain rfl := mem_singleton.1 hmem
    exact hkind

theorem not_passed (h : Safe c w) (event : Event) (harrive : arrive w event = w)
    {acts : ClientActs C} (hissued : issued event acts = [])
    (hbusy : c'.mDeviceBusy = c.mDeviceBusy) (hcallback : c'.mCallback = c.mCallback) :
    Safe c' (outstandingAfter w event acts) := by
  unfold outstandingAfter
  rw [harrive, hissued, append_nil]
  exact h.keep hbusy hcallback

theorem writeDescriptor (h : Safe c w) {x : Value.GattDescriptor} {passed : Bool}
    (hcareful : Careful c (.writeDescriptor x passed)) :
    Safe c (outstandingAfter w (.writeDescriptor x passed)
      (⟨(c.writeDescriptor x).2, []⟩ : ClientActs C)) := by
  refine h.not_passed (.writeDescriptor x passed) rfl ?_ rfl rfl
  cases hbusy : c.mDeviceBusy with
  | false => exact issued_of_not_passed (.writeDescriptor x passed) (hcareful hbusy) _
  | true =>
      have hrefused : (c.writeDescriptor x).2 = [] := by
        unfold GattClient.writeDescriptor
        rw [hbusy]
        split
        · rfl
        · rfl
      rw [hrefused]
      exact issued_nil _ _

/-- The result of the outstanding operation is what is promised. -/
theorem result (h : Safe c w) {call : LibCall} {status resultHandle : Int} {value : List UInt8}
    {passed : Bool} (hlegal : Legal c w (.result call address status resultHandle value passed))
    (hcareful : Careful c (.result call address status resultHandle value passed)) :
    ∃ c' acts,
      Operation.step c (.result call address status resultHandle value passed) = some (c', acts) ∧
        Safe c' (outstandingAfter w (.result call address status resultHandle value passed) acts) ∧
        Correct (.result call address status resultHandle value passed) acts := by
  obtain ⟨hmem, haddress, -⟩ := hlegal
  obtain ⟨k, hkind⟩ := Option.isSome_iff_exists.1 (h.operations call hmem)
  obtain ⟨callback, hcallback⟩ := Option.isSome_iff_exists.1 h.callback
  obtain ⟨c', report, hresult, hbusy, hsame, hcompletes⟩ :=
    onResult_final haddress hcallback (hcareful k hkind) value
  have hnone : w.erase call = [] := by
    apply length_eq_zero_iff.1
    rw [length_erase_of_mem hmem]
    exact Nat.sub_eq_zero_of_le h.serial.1
  refine ⟨c', ⟨[], [(callback, report)]⟩, ?_, ?_,
    Or.inr ⟨rfl, k, callback, report, hkind, rfl, hcompletes⟩⟩
  · unfold Operation.step
    dsimp only
    rw [hkind]
    exact hresult
  · unfold outstandingAfter
    rw [issued_nil, append_nil]
    change Safe c' (w.erase call)
    rw [hnone]
    exact h.release hbusy hsame

theorem onConnectionState (h : Safe c w) {status : Int} {connected : Bool}
    (hlegal : Legal c w (.onConnectionState status connected address)) :
    Safe (c.onConnectionState status connected address).1
      (outstandingAfter w (.onConnectionState status connected address)
        (c.onConnectionState status connected address).2) := by
  obtain ⟨haddress, hnew⟩ := hlegal
  have hnone : arrive w (.onConnectionState status connected address) = [] := by
    cases connected with
    | false => rfl
    | true => exact hnew rfl
  unfold outstandingAfter
  rw [hnone, issued_of_not_passed _ rfl]
  unfold GattClient.onConnectionState
  rw [if_pos haddress]
  exact h.release rfl rfl

theorem onSearchComplete (h : Safe c w) (address : List Char) (services : List GattService)
    (status : Int) : Safe (c.onSearchComplete address services status).1
      (outstandingAfter w (.onSearchComplete address services status)
        (c.onSearchComplete address services status).2) := by
  have hsame : (c.onSearchComplete address services status).1.mDeviceBusy = c.mDeviceBusy ∧
      (c.onSearchComplete address services status).1.mCallback = c.mCallback := by
    unfold GattClient.onSearchComplete
    split
    · exact ⟨rfl, rfl⟩
    · exact ⟨rfl, rfl⟩
  exact h.not_passed (.onSearchComplete address services status) rfl (issued_of_not_passed _ rfl _)
    hsame.1 hsame.2

/-- An event that meets its condition is answered as it is promised. -/
theorem step (h : Safe c w) {event : Event} (hlegal : Legal c w event)
    (hcareful : Careful c event) : ∃ c' acts, Operation.step c event = some (c', acts) ∧
      Safe c' (outstandingAfter w event acts) ∧ Correct event acts := by
  cases event with
  | readCharacteristic x passed => exact ⟨_, _, rfl, h.operate _ rfl rfl hcareful, trivial⟩
  | readUsingCharacteristicUuid uuid startHandle endHandle passed =>
      exact ⟨_, _, rfl, h.operate _ rfl rfl hcareful, trivial⟩
  | writeCharacteristic x passed => exact ⟨_, _, rfl, h.operate _ rfl rfl hcareful, trivial⟩
  | readDescriptor x passed => exact ⟨_, _, rfl, h.operate _ rfl rfl hcareful, trivial⟩
  | writeDescriptor x passed => exact ⟨_, _, rfl, h.writeDescriptor hcareful, trivial⟩
  | beginReliableWrite =>
      exact ⟨_, _, rfl, h.not_passed .beginReliableWrite rfl (issued_of_not_passed _ rfl _) rfl rfl,
        trivial⟩
  | executeReliableWrite passed => exact ⟨_, _, rfl, h.operate _ rfl rfl hcareful, trivial⟩
  | abortReliableWrite passed =>
      exact ⟨_, _, rfl, h.not_passed (.abortReliableWrite passed) rfl
        (issued_of_not_passed (.abortReliableWrite passed) hcareful _) rfl rfl, trivial⟩
  | result call address status resultHandle value passed => exact h.result hlegal hcareful
  | onConnectionState status connected address =>
      exact ⟨_, _, rfl, h.onConnectionState hlegal, trivial⟩
  | onSearchComplete address services status =>
      exact ⟨_, _, rfl, h.onSearchComplete address services status, trivial⟩

end Safe

theorem Reaches.safe {w : List LibCall} (h : Reaches c w) : Safe c w := by
  induction h with
  | start c hopened => exact hopened.safe
  | step event _ hlegal hcareful hstep ih =>
      obtain ⟨c', acts, hstep', hsafe, -⟩ := ih.step hlegal hcareful
      obtain ⟨rfl, rfl⟩ := Prod.ext_iff.1 (Option.some.inj (hstep'.symm.trans hstep))
      exact hsafe

/-- As long as every event meets its condition, at most one operation is outstanding, the
device is busy exactly while one is, and the result of an operation is reported once. -/
theorem operations_completed {w : List LibCall} (h : Reaches c w) : Serial c w ∧
    ∀ event : Event, Legal c w event → Careful c event →
      ∃ c' acts, step c event = some (c', acts) ∧ Correct event acts := by
  refine ⟨h.safe.serial, ?_⟩
  intro event hlegal hcareful
  obtain ⟨c', acts, hstep, -, hcorrect⟩ := h.safe.step hlegal hcareful
  exact ⟨c', acts, hstep, hcorrect⟩

/-- A registered client that has discovered a characteristic. -/
def client : GattClient Nat where
  mService := true
  mCallback := some 9
  mClientIf := 4
  mDeviceAddress := "A".toList
  mAutoConnect := false
  mAuthRetryState := .idle
  mConnState := .connected
  mDeviceBusy := false
  mTransport := 2
  mPhy := 1
  mOpportunistic := false
  mServices := [⟨"A".toList, Uuid.empty, 10, .primary, [.create Uuid.empty 12 2 0], []⟩]

/-- The characteristic, and the call that reads it. -/
def readable : Value.GattCharacteristic := ⟨2, 2, 12, some "A", none⟩
def readCall : LibCall := .request 4 "A".toList (.readCharacteristic 12 0)

theorem operations_completed_read : ∃ c : GattClient Nat, Serial c [readCall] ∧
    ∃ c' acts, step c (.result readCall "A".toList 0 12 [1] false) = some (c', acts) ∧
      Correct (.result readCall "A".toList 0 12 [1] false) acts := by
  have h1 := (Reaches.start client ⟨rfl, rfl, rfl⟩).step (.readCharacteristic readable true)
    trivial (fun _ => rfl) rfl
  have hcompleted := operations_completed h1
  refine ⟨_, hcompleted.1, hcompleted.2 _ ⟨mem_singleton.2 rfl, by decide, ?_⟩ ?_⟩
  · rintro _ ⟨⟩
    rfl
  · rintro _ ⟨⟩
    exact ⟨rfl, rfl⟩

/-- A read that has not enough authentication is neither tried again nor reported. -/
theorem not_operations_completed : ¬ ∀ (c : GattClient Nat) (w : List LibCall), Runs c w →
    Serial c w ∧ ∀ event : Event, Legal c w event →
      ∃ c' acts, step c event = some (c', acts) ∧ Correct event acts := by
  intro hall
  have h1 := (Runs.start client ⟨rfl, rfl, rfl⟩).step (.readCharacteristic readable true)
    trivial rfl
  obtain ⟨c', acts, hstep, hcorrect⟩ :=
    (hall _ _ h1).2 (.result readCall "A".toList 5 12 [] true)
      ⟨mem_singleton.2 rfl, by decide, by rintro _ ⟨⟩; rfl⟩
  cases hstep
  obtain ⟨retry, hretry, -⟩ | ⟨-, k, callback, report, -, hreports, -⟩ := hcorrect
  · cases hretry
  · cases hreports

end Gatt.GattClient.Operation
