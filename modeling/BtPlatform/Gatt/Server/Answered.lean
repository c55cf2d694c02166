import BtPlatform.Gatt.Server.Responses

/-!
# Every response finds its request

Every connection that is there is recorded under its own id, and every request that waits for
an answer has its own entry, or none if it is for no attribute.
-/

namespace Gatt.ServerLib

open Support List

variable {C : Type} {s : ServerLib C} {w : World}

/-! ## The handlers -/

/-- A request is dropped, recorded and dropped, or recorded and delivered. -/
theorem onRequest_cases (s : ServerLib C) (address : String) (transId handle : Int)
    (access : Access) :
    s.onRequest address transId handle access = (s, .none) ∨
    ∃ entry, s.mHandleMap.getByHandle handle = some entry ∧
      (s.onRequest address transId handle access =
        ({ s with mHandleMap := s.mHandleMap.addRequest transId handle }, .none) ∨
      ∃ app, s.mServerMap.getById entry.serverIf = some app ∧
        s.onRequest address transId handle access =
          ({ s with mHandleMap := s.mHandleMap.addRequest transId handle },
            ⟨[.request app.callback address transId handle access], []⟩)) := by
  unfold onRequest
  cases hentry : s.mHandleMap.getByHandle handle with
  | none => exact .inl rfl
  | some entry =>
      refine .inr ⟨entry, rfl, ?_⟩
      dsimp only
      cases happ : s.mServerMap.getById entry.serverIf with
      | none => exact .inl rfl
      | some app => exact .inr ⟨app, rfl, rfl⟩

theorem onExecuteWrite_cases (s : ServerLib C) (address : String)
    (connId transId execWrite : Int) :
    s.onExecuteWrite address connId transId execWrite = (s, .none) ∨
    ∃ app, s.mServerMap.getByConnId connId = some app ∧
      s.onExecuteWrite address connId transId execWrite =
        (s, ⟨[.executeWrite app.callback address transId (decide (execWrite = 1))], []⟩) := by
  unfold onExecuteWrite
  cases happ : s.mServerMap.getByConnId connId with
  | none => exact .inl rfl
  | some app => exact .inr ⟨app, rfl, rfl⟩

theorem step_onRequest (s : ServerLib C) (address : String) (connId transId handle : Int)
    (access : Access) : s.step (.onRequest address connId transId handle access) =
      s.onRequest address transId handle access := by
  cases access with
  | readCharacteristic offset isLong => rfl
  | readDescriptor offset isLong => rfl
  | writeCharacteristic offset length isPrep needRsp data => rfl
  | writeDescriptor offset length isPrep needRsp data => rfl

/-! ## What is kept -/

/-- What holds in every state that is reached. -/
structure Safe (s : ServerLib C) (w : World) : Prop where
  own : OwnEntries s w
  linked : ∀ r ∈ w.pending, r.link ∈ w.links
  recorded : ∀ c ∈ w.links,
    c ∈ s.mServerMap.mConnections ∧ s.mServerMap.Registered c.appId ∧ 0 ≤ c.connId
  distinct : s.mServerMap.Distinct
  uuids : s.mServerMap.UuidsDistinct

theorem safe_empty : Safe (.empty : ServerLib C) .empty where
  own := nofun
  linked := nofun
  recorded := nofun
  distinct := nofun
  uuids := nodup_nil

variable {serverIf transId : Int}

namespace Safe

variable {s' : ServerLib C} {connId : Int} {address : String}

/-- The handle map may change but for the entries of the requests, and the map of the servers
but for the connections that are there. -/
theorem keep (h : Safe s w) (hrequests : s'.mHandleMap.mRequestMap = s.mHandleMap.mRequestMap)
    (hservers : s'.mServerMap = s.mServerMap) : Safe s' w where
  own r hr := by
    rw [hrequests]
    exact h.own r hr
  linked := h.linked
  recorded c hc := by
    rw [hservers]
    exact h.recorded c hc
  distinct := by
    rw [hservers]
    exact h.distinct
  uuids := by
    rw [hservers]
    exact h.uuids

theorem services (h : Safe s w) (services : List LiveService) :
    Safe s { w with services := services } := ⟨h.own, h.linked, h.recorded, h.distinct, h.uuids⟩

theorem registerServer (h : Safe s w) {uuid : Uuid} {callback : C}
    (hlegal : Legal s w (.registerServer uuid callback)) :
    Safe (s.registerServer uuid callback) w := { h with
  recorded c hc :=
    have ⟨hmem, hregistered, hpos⟩ := h.recorded c hc
    ⟨hmem, hregistered.add uuid callback, hpos⟩
  uuids := h.uuids.add hlegal callback }

theorem onServerRegistered (h : Safe s w) {uuid : Uuid}
    (hlegal : Legal s w (.onServerRegistered serverIf uuid)) :
    Safe (s.onServerRegistered serverIf uuid) w := { h with
  recorded c hc :=
    have ⟨hmem, hregistered, hpos⟩ := h.recorded c hc
    ⟨hmem, hregistered.setId h.uuids hlegal.1, hpos⟩
  uuids := h.uuids.setId uuid serverIf }

theorem unregisterServer (h : Safe s w) (serverIf : Int) :
    Safe (s.unregisterServer serverIf).1 (w.dropServer serverIf) where
  own r hr := h.own r (mem_of_mem_filter hr)
  linked r hr := by
    obtain ⟨hmem, hne⟩ := mem_filter.1 hr
    exact mem_filter.2 ⟨h.linked r hmem, hne⟩
  recorded c hc := by
    obtain ⟨hmem, hne⟩ := mem_filter.1 hc
    obtain ⟨hconnection, hregistered, hpos⟩ := h.recorded c hmem
    have hother : c.appId ≠ serverIf := bne_iff_ne.1 hne
    exact ⟨ContextMap.mem_remove hconnection hother, hregistered.remove hother, hpos⟩
  distinct := h.distinct.subset fun _ => ContextMap.remove_subset
  uuids := h.uuids.remove serverIf

theorem onServiceAdded (h : Safe s w) (status serverIf : Int) (service : List GattDbElement) :
    Safe (s.onServiceAdded status serverIf service) w := by
  unfold ServerLib.onServiceAdded
  split
  · exact h
  · split
    · exact h
    · exact h.keep rfl rfl

theorem dropLink (h : Safe s w) (hrequests : s'.mHandleMap = s.mHandleMap)
    (hservers : s'.mServerMap = s.mServerMap ∨
      s'.mServerMap = s.mServerMap.removeConnection connId) : Safe s' (w.dropLink connId) where
  own r hr := by
    rw [hrequests]
    exact h.own r (mem_of_mem_filter hr)
  linked r hr := by
    obtain ⟨hmem, hne⟩ := mem_filter.1 hr
    exact mem_filter.2 ⟨h.linked r hmem, hne⟩
  recorded c hc := by
    obtain ⟨hmem, hne⟩ := mem_filter.1 hc
    obtain ⟨hconnection, hregistered, hpos⟩ := h.recorded c hmem
    obtain heq | heq := hservers
    · rw [heq]
      exact ⟨hconnection, hregistered, hpos⟩
    · rw [heq]
      exact ⟨ContextMap.mem_removeConnection hconnection (bne_iff_ne.1 hne), hregistered, hpos⟩
  distinct := by
    obtain heq | heq := hservers
    · rw [heq]
      exact h.distinct
    · rw [heq]
      exact h.distinct.subset fun _ => ContextMap.removeConnection_subset
  uuids := by
    obtain heq | heq := hservers
    · rw [heq]
      exact h.uuids
    · rw [heq]
      exact h.uuids

/-- A new connection that clashes with none. -/
theorem addLink (h : Safe s w) {c : AppConnection} {order : List AppConnection}
    (hregistered : s.mServerMap.Registered c.appId) (hfresh : s.mServerMap.Fresh c)
    (hpos : 0 ≤ c.connId) :
    Safe { s with mServerMap := s.mServerMap.insertConnection c order }
      { w with links := w.links ++ [c] } where
  own := h.own
  linked r hr := mem_append_left _ (h.linked r hr)
  recorded c' hc' := by
    obtain hold | hnew := mem_append.1 hc'
    · obtain ⟨hconnection, hregistered', hpos'⟩ := h.recorded c' hold
      exact ⟨ContextMap.mem_insertConnection.2 (.inr hconnection), hregistered', hpos'⟩
    · obtain rfl := mem_singleton.1 hnew
      exact ⟨ContextMap.mem_insertConnection.2 (.inl rfl), hregistered, hpos⟩
  distinct := h.distinct.insertConnection hfresh order
  uuids := h.uuids

theorem onClientConnected (h : Safe s w) {connected : Bool} {order : List AppConnection}
    (hlegal : Legal s w (.onClientConnected address connected connId serverIf order))
    (hcareful : Careful s w (.onClientConnected address connected connId serverIf order)) :
    Safe (s.onClientConnected address connected connId serverIf order)
      (w.after s (.onClientConnected address connected connId serverIf order)) := by
  unfold ServerLib.onClientConnected
  cases happ : s.mServerMap.getById serverIf with
  | none =>
      cases connected with
      | false => exact h.dropLink rfl (.inl rfl)
      | true =>
          have hsame : w.after s (.onClientConnected address true connId serverIf order) = w := by
            simp [World.after, happ]
          rw [hsame]
          exact h
  | some app =>
      cases connected with
      | false => exact h.dropLink rfl (.inr rfl)
      | true =>
          have hregistered : s.mServerMap.Registered serverIf :=
            ContextMap.registered_iff.2 (by rw [happ]; rfl)
          have hlink : w.after s (.onClientConnected address true connId serverIf order) =
              { w with links := w.links ++ [⟨connId, address, serverIf⟩] } := by
            simp [World.after, happ]
          have hadd : s.mServerMap.addConnection serverIf connId address order =
              s.mServerMap.insertConnection ⟨connId, address, serverIf⟩ order := by
            simp [ContextMap.addConnection, happ]
          dsimp only
          rw [if_pos rfl, hlink, hadd]
          exact h.addLink hregistered (hcareful rfl hregistered) (hlegal rfl).1

/-- A request under an unused transaction id is recorded, and waits for its answer if it is
delivered. -/
theorem await (h : Safe s w) {effect : Effect C} {r : Pending} (hunused : Unused s w r.transId)
    (hlink : r.link ∈ w.links) (hservers : s'.mServerMap = s.mServerMap)
    (hothers : ∀ transId ≠ r.transId, s'.mHandleMap.mRequestMap.lookup transId =
      s.mHandleMap.mRequestMap.lookup transId) (hown : effect.delivered.isEmpty = false →
      s'.mHandleMap.mRequestMap.lookup r.transId = r.handle) : Safe s' (w.await effect r) := by
  have hold : ∀ r' ∈ w.pending, s'.mHandleMap.mRequestMap.lookup r'.transId = r'.handle := by
    intro r' hr'
    rw [hothers r'.transId (hunused.2 r' hr')]
    exact h.own r' hr'
  have hrecorded : ∀ c ∈ w.links, c ∈ s'.mServerMap.mConnections ∧
      s'.mServerMap.Registered c.appId ∧ 0 ≤ c.connId := by
    rw [hservers]
    exact h.recorded
  have hdistinct : s'.mServerMap.Distinct := by
    rw [hservers]
    exact h.distinct
  have huuids : s'.mServerMap.UuidsDistinct := by
    rw [hservers]
    exact h.uuids
  unfold World.await
  split
  · exact ⟨hold, h.linked, hrecorded, hdistinct, huuids⟩
  · next hdelivered =>
      refine ⟨?_, ?_, hrecorded, hdistinct, huuids⟩
      · intro r' hr'
        obtain hr' | hr' := mem_append.1 hr'
        · exact hold r' hr'
        · obtain rfl := mem_singleton.1 hr'
          exact hown (Bool.eq_false_iff.2 hdelivered)
      · intro r' hr'
        obtain hr' | hr' := mem_append.1 hr'
        · exact h.linked r' hr'
        · obtain rfl := mem_singleton.1 hr'
          exact hlink

theorem onRequest (h : Safe s w) {handle : Int} {access : Access}
    (hlegal : Legal s w (.onRequest address connId transId handle access))
    (hcareful : Careful s w (.onRequest address connId transId handle access)) :
    Safe (s.onRequest address transId handle access).1
      (w.after s (.onRequest address connId transId handle access)) := by
  obtain ⟨serverIf, howner, hlink⟩ := hlegal
  have hlink' : Pending.link ⟨(w.owner handle).getD 0, address, connId, transId, some handle⟩ ∈
      w.links := by
    rw [howner]
    exact hlink
  have hlookup : ∀ transId', (s.mHandleMap.addRequest transId handle).mRequestMap.lookup transId' =
      (s.mHandleMap.mRequestMap.lookup transId').or
        (if transId' = transId then some handle else none) :=
    fun transId' => Table.lookup_emplace transId transId' handle _
  change Safe _ (w.await _ _)
  obtain hdropped | ⟨entry, hentry, hdropped | ⟨app, -, hdelivered⟩⟩ :=
    s.onRequest_cases address transId handle access
  · rw [hdropped]
    exact h
  · have hunused := (hcareful entry hentry).1
    rw [hdropped]
    refine h.await hunused hlink' rfl ?_ ?_
    · intro transId' hne
      rw [hlookup, if_neg hne, Option.or_none]
    · intro hdelivered
      cases hdelivered
  · have hunused := (hcareful entry hentry).1
    rw [hdelivered]
    refine h.await hunused hlink' rfl ?_ ?_
    · intro transId' hne
      rw [hlookup, if_neg hne, Option.or_none]
    · intro _
      rw [hlookup, if_pos rfl, hunused.1, Option.none_or]

theorem onExecuteWrite (h : Safe s w) {execWrite : Int}
    (hlegal : Legal s w (.onExecuteWrite address connId transId execWrite))
    (hcareful : Careful s w (.onExecuteWrite address connId transId execWrite)) :
    Safe (s.onExecuteWrite address connId transId execWrite).1
      (w.after s (.onExecuteWrite address connId transId execWrite)) := by
  obtain ⟨serverIf, howner, hlink⟩ := hlegal
  change Safe _ (w.await _ _)
  obtain hdropped | ⟨app, happ, hdelivered⟩ :=
    s.onExecuteWrite_cases address connId transId execWrite
  · rw [hdropped]
    exact h
  · have hunused := hcareful app happ
    rw [hdelivered]
    refine h.await hunused ?_ rfl (fun _ _ => rfl) fun _ => hunused.1
    rw [howner]
    exact hlink

theorem sendResponse (h : Safe s w) {requestId status offset : Int} {value : Option (List UInt8)}
    (hcareful : Careful s w (.sendResponse serverIf address requestId status offset value)) :
    Safe (s.sendResponse serverIf address requestId status offset value).1
      (w.answer serverIf address requestId) := { h with
  own r hr := by
    obtain ⟨hmem, hother⟩ := mem_filter.1 hr
    have hne : r.transId ≠ requestId := by
      intro heq
      have hanswered := (hcareful r hmem heq).1
      rw [decide_eq_true hanswered] at hother
      cases hother
    have hlookup : (s.mHandleMap.mRequestMap.erase requestId).lookup r.transId =
        if r.transId = requestId then none else s.mHandleMap.mRequestMap.lookup r.transId :=
      Table.lookup_erase requestId r.transId _
    exact hlookup.trans ((if_neg hne).trans (h.own r hmem))
  linked r hr := h.linked r (mem_of_mem_filter hr) }

theorem step (h : Safe s w) {event : Event C} (hlegal : Legal s w event)
    (hcareful : Careful s w event) : Safe (s.step event).1 (w.after s event) := by
  cases event with
  | registerServer uuid callback => exact h.registerServer hlegal
  | onServerRegistered serverIf uuid => exact h.onServerRegistered hlegal
  | unregisterServer serverIf => exact h.unregisterServer serverIf
  | onServiceAdded status serverIf service =>
      have hlib := h.onServiceAdded status serverIf service
      by_cases hstatus : status ≠ 0
      · rw [show w.after s (.onServiceAdded status serverIf service) = w from if_pos hstatus]
        exact hlib
      · rw [show w.after s (.onServiceAdded status serverIf service) = _ from if_neg hstatus]
        exact hlib.services _
  | onServiceDeleted status serverIf srvcHandle =>
      have hlib : Safe (s.onServiceDeleted serverIf srvcHandle) w := h.keep rfl rfl
      by_cases hstatus : status ≠ 0
      · rw [show w.after s (.onServiceDeleted status serverIf srvcHandle) = w from if_pos hstatus]
        exact hlib
      · rw [show w.after s (.onServiceDeleted status serverIf srvcHandle) = _ from if_neg hstatus]
        exact hlib.services _
  | onClientConnected address connected connId serverIf order =>
      exact h.onClientConnected hlegal hcareful
  | onRequest address connId transId handle access =>
      have hsafe := h.onRequest hlegal hcareful
      cases access
      · exact hsafe
      · exact hsafe
      · exact hsafe
      · exact hsafe
  | onExecuteWrite address connId transId execWrite => exact h.onExecuteWrite hlegal hcareful
  | sendResponse serverIf address requestId status offset value => exact h.sendResponse hcareful

end Safe

theorem Reaches.safe (h : Reaches s w) : Safe s w := by
  induction h with
  | start => exact safe_empty
  | step event _ hlegal hcareful ih => exact ih.step hlegal hcareful

/-! ## Requests and responses -/

/-- The entry that a request finds is one of its server. -/
theorem onRequest_correct {address : String} {connId handle : Int} {access : Access}
    (hcareful : Careful s w (.onRequest address connId transId handle access)) :
    Correct s w (.onRequest address connId transId handle access) := by
  intro d hd
  rw [step_onRequest] at hd
  obtain heq | ⟨entry, hentry, heq | ⟨app, happ, heq⟩⟩ :=
    s.onRequest_cases address transId handle access
  · rw [heq] at hd
    cases hd
  · rw [heq] at hd
    cases hd
  · rw [heq] at hd
    have howner := (hcareful entry hentry).2
    obtain ⟨hmem, hid⟩ := ContextMap.getById_mem happ
    obtain rfl := mem_singleton.1 hd
    exact ⟨app, hmem, hid.trans howner.symm, rfl⟩

theorem Safe.onExecuteWrite_correct (h : Safe s w) {address : String} {connId execWrite : Int}
    (hlegal : Legal s w (.onExecuteWrite address connId transId execWrite)) :
    Correct s w (.onExecuteWrite address connId transId execWrite) := by
  obtain ⟨serverIf, howner, hlink⟩ := hlegal
  intro d hd
  change d ∈ (s.onExecuteWrite address connId transId execWrite).2.delivered at hd
  obtain heq | ⟨app, happ, heq⟩ := s.onExecuteWrite_cases address connId transId execWrite
  · rw [heq] at hd
    cases hd
  · rw [heq] at hd
    have hfind : s.mServerMap.getById serverIf = some app :=
      (h.distinct.getByConnId (h.recorded _ hlink).1).symm.trans happ
    obtain ⟨hmem, hid⟩ := ContextMap.getById_mem hfind
    obtain rfl := mem_singleton.1 hd
    exact ⟨app, hmem, hid.trans howner.symm, rfl⟩

theorem Safe.sendResponse_correct (h : Safe s w) {requestId status offset : Int} {address : String}
    {value : Option (List UInt8)}
    (hcareful : Careful s w (.sendResponse serverIf address requestId status offset value)) :
    Correct s w (.sendResponse serverIf address requestId status offset value) := by
  rintro r hr ⟨rfl, rfl, rfl⟩
  refine ⟨_, rfl, rfl, ?_, rfl, ?_⟩
  · obtain ⟨hconnection, hregistered, hpos⟩ := h.recorded r.link (h.linked r hr)
    have hconn : s.mServerMap.connIdByAddress r.serverIf r.address = r.connId :=
      h.distinct.connIdByAddress hconnection hregistered
    have hnonneg : ¬ r.connId < 0 := Int.not_lt.2 hpos
    dsimp only
    unfold responseConnId
    rw [hconn, if_neg hnonneg]
  · have hentry := (hcareful r hr rfl).2
    dsimp only
    unfold responseHandle HandleMap.getByRequestId
    rw [h.own r hr]
    cases hhandle : r.handle with
    | none => rfl
    | some handle =>
        obtain ⟨entry, hmem, heq⟩ := hentry handle hhandle
        have hsome : (s.mHandleMap.getByHandle handle).isSome := by
          unfold HandleMap.getByHandle
          exact find?_isSome.2 ⟨entry, hmem, decide_eq_true heq⟩
        obtain ⟨found, hfound⟩ := Option.isSome_iff_exists.1 hsome
        dsimp only
        rw [hfound]
        unfold HandleMap.getByHandle at hfound
        simpa using find?_some hfound

/-- As long as every event meets its condition, every request has its own entry, a request
goes to its server only, and a response goes back to where its request came from. -/
theorem responses_answered (h : Reaches s w) : OwnEntries s w ∧
    ∀ event : Event C, Legal s w event → Careful s w event → Correct s w event := by
  refine ⟨h.safe.own, ?_⟩
  intro event hlegal hcareful
  cases event with
  | onRequest address connId transId handle access => exact onRequest_correct hcareful
  | onExecuteWrite address connId transId execWrite => exact h.safe.onExecuteWrite_correct hlegal
  | sendResponse serverIf address requestId status offset value =>
      exact h.safe.sendResponse_correct hcareful
  | registerServer uuid callback => trivial
  | onServerRegistered serverIf uuid => trivial
  | unregisterServer serverIf => trivial
  | onServiceAdded status serverIf service => trivial
  | onServiceDeleted status serverIf srvcHandle => trivial
  | onClientConnected address connected connId serverIf order => trivial

/-- A service with two characteristics. -/
def twoCharacteristics : List GattDbElement :=
  [{ type := .primaryService, attributeHandle := 10 },
    { type := .characteristic, attributeHandle := 12 },
    { type := .characteristic, attributeHandle := 14 }]

theorem responses_answered_two : ∃ (s : ServerLib Nat) (w : World),
    w.pending = [⟨5, "A", 1, 7, some 12⟩, ⟨5, "B", 2, 8, some 14⟩] ∧
      OwnEntries s w ∧ Correct s w (.sendResponse 5 "B" 8 0 0 none) := by
  have h1 := (Reaches.start : Reaches (.empty : ServerLib Nat) _).step
    (.registerServer Uuid.empty 0) nofun trivial
  have h2 := h1.step (.onServerRegistered 5 Uuid.empty)
    ⟨⟨_, mem_singleton.2 rfl, rfl, rfl⟩, by
      rintro ⟨app, hmem, hid⟩
      obtain rfl := mem_singleton.1 hmem
      cases hid⟩ trivial
  have h3 := h2.step (.onServiceAdded 0 5 twoCharacteristics) trivial trivial
  have h4 := h3.step (.onClientConnected "A" true 1 5 [])
    (fun _ => ⟨by decide, nofun⟩) (fun _ _ => nofun)
  have h5 := h4.step (.onClientConnected "B" true 2 5 [])
    (fun _ => ⟨by decide, by decide⟩) (fun _ _ => by unfold ContextMap.Fresh; decide)
  have h6 := h5.step (.onRequest "A" 1 7 12 (.readCharacteristic 0 false))
    ⟨5, rfl, by decide⟩ (by rintro _ ⟨⟩; exact ⟨⟨rfl, nofun⟩, rfl⟩)
  have h7 := h6.step (.onRequest "B" 2 8 14 (.readCharacteristic 0 false))
    ⟨5, rfl, by decide⟩ (by rintro _ ⟨⟩; exact ⟨⟨rfl, by decide⟩, rfl⟩)
  have hanswered := responses_answered h7
  refine ⟨_, _, rfl, hanswered.1, hanswered.2 _ trivial ?_⟩
  intro r hr heq
  obtain rfl | rfl := mem_pair.1 hr
  · cases heq
  · refine ⟨⟨rfl, rfl, rfl⟩, ?_⟩
    rintro _ ⟨⟩
    exact ⟨⟨5, .characteristic, 14, 10⟩, by decide, rfl⟩

/-- Two clients use one transaction id: the second response is sent with the handle of the
first request. -/
theorem not_responses_answered : ¬ ∀ (s : ServerLib Nat) (w : World), Runs s w →
    ∀ event : Event Nat, Legal s w event → Correct s w event := by
  intro hall
  have h1 := (Runs.start : Runs (.empty : ServerLib Nat) _).step
    (.registerServer Uuid.empty 0) nofun
  have h2 := h1.step (.onServerRegistered 5 Uuid.empty)
    ⟨⟨_, mem_singleton.2 rfl, rfl, rfl⟩, by
      rintro ⟨app, hmem, hid⟩
      obtain rfl := mem_singleton.1 hmem
      cases hid⟩
  have h3 := h2.step (.onServiceAdded 0 5 twoCharacteristics) trivial
  have h4 := h3.step (.onClientConnected "A" true 1 5 []) fun _ => ⟨by decide, nofun⟩
  have h5 := h4.step (.onClientConnected "B" true 2 5 []) fun _ => ⟨by decide, by decide⟩
  have h6 := h5.step (.onRequest "A" 1 7 12 (.readCharacteristic 0 false)) ⟨5, rfl, by decide⟩
  have h7 := h6.step (.onRequest "B" 2 7 14 (.readCharacteristic 0 false)) ⟨5, rfl, by decide⟩
  obtain ⟨response, hcalls, -, -, -, hhandle⟩ := hall _ _ h7 (.sendResponse 5 "B" 7 0 0 none)
    trivial ⟨5, "B", 2, 7, some 14⟩ (by decide) ⟨rfl, rfl, rfl⟩
  cases hcalls
  cases hhandle

end Gatt.ServerLib
