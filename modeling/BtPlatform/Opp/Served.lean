import BtPlatform.Opp.Server

/-!
# The names that the server hands out

The handlers of the server pass on the name of the object, or one that the application
gives. What is shown of a handler is that the names it passes on are no paths, if the names
it is given are not.
-/

namespace Opp

open Obex Support List

/-- The name that a call hands to the object store or to the application. -/
def ServerAct.handed : ServerAct → Option (List UInt16)
  | .openWrite name _ _ => name
  | .push localName _ _ => localName
  | _ => none

/-- The headers of a push are read into the object of the connection. -/
structure ServerConnection.Reads (c : ServerConnection) (obexStatus : Status) : Prop where
  confirmed : c.ofsCfmPending = false
  status : obexStatus = .ok ∨ obexStatus = .obexContinue
  allowed : c.allowPush = true
  ready : c.state = .connected ∨ c.state = .pushPending ∨ c.state = .clientPushing

namespace Serving

/-- No name is a path: neither the one in the object nor one that has been handed out. -/
structure Safe (s : Serving) : Prop where
  kept : ∀ c ∈ s.connection, c.rcvObj.NameBase
  handed : ∀ act ∈ s.acts, ∀ name ∈ act.handed, Base name

theorem start_safe : Safe start where
  kept := by
    intro c hc
    cases hc
  handed := by
    intro act hact
    cases hact

variable {reg : Registration} {s : Serving} {env : Surroundings} {c : ServerConnection}

theorem Safe.set (hs : s.Safe) {c : ServerConnection} (hc : c.rcvObj.NameBase) :
    (s.set c).Safe where
  kept := by
    intro c' hc'
    cases hc'
    exact hc
  handed := hs.handed

theorem Safe.emit (hs : s.Safe) {act : ServerAct} (hact : ∀ name ∈ act.handed, Base name) :
    (s.emit act).Safe where
  kept := hs.kept
  handed := by
    intro act' hmem
    obtain hmem | hmem := mem_append.1 hmem
    · exact hs.handed act' hmem
    · rw [mem_singleton.1 hmem]
      exact hact

/-- Write to the connection, and leave a function with the dispatcher. -/
theorem Safe.opened (hs : s.Safe) {c : ServerConnection} (hc : c.rcvObj.NameBase)
    (dispatcher : Dispatcher Task) :
    Safe { s with connection := some c, dispatcher := dispatcher } :=
  ⟨(hs.set hc).kept, hs.handed⟩

/-- A call that hands over no name. -/
theorem Safe.emit_other (hs : s.Safe) (act : ServerAct) (hact : act.handed = none) :
    (s.emit act).Safe :=
  hs.emit fun name hname => by
    rw [hact] at hname
    cases hname

theorem Safe.dispatcher (hs : s.Safe) (dispatcher : Dispatcher Task) :
    Safe { s with dispatcher := dispatcher } :=
  ⟨hs.kept, hs.handed⟩

theorem Safe.disconnected (hs : s.Safe) : Safe { s with connection := none } where
  kept := by
    intro c hc
    cases hc
  handed := hs.handed

theorem Safe.setupDeferredObjectClose (hs : s.Safe) {c : ServerConnection}
    (hc : c.rcvObj.NameBase) (status : Status) :
    (s.setupDeferredObjectClose env c status).Safe where
  kept := by
    intro c' hc'
    cases hc'
    exact hc
  handed := hs.handed

theorem completion_handed {status : Status} {act : ServerAct}
    (h : act ∈ completion reg c status) : act.handed = none := by
  unfold completion at h
  split at h
  · split at h
    all_goals
      first
        | cases mem_singleton.1 h
          rfl
        | cases h
  · cases h

theorem Safe.objectClose (hs : s.Safe) (disconnected : Bool) (status : Status) :
    (s.objectClose reg c disconnected status).Safe where
  kept := by
    intro c' hc'
    cases disconnected with
    | true => cases hc'
    | false =>
        cases hc'
        exact GenericObject.nameBase_zero
  handed := by
    have hnone : ∀ {act : ServerAct}, act.handed = none → ∀ name ∈ act.handed, Base name := by
      intro act hact name hname
      rw [hact] at hname
      cases hname
    intro act hmem
    rw [Serving.objectClose, mem_append, mem_append, mem_append] at hmem
    obtain ((hold | hclose) | hcompletion) | hdisconnect := hmem
    · exact hs.handed act hold
    · obtain ⟨handle, -, rfl⟩ := mem_map.1 hclose
      exact hnone rfl
    · exact hnone (completion_handed hcompletion)
    · split at hdisconnect
      · cases mem_singleton.1 hdisconnect
        exact hnone rfl
      · cases hdisconnect

theorem Safe.deferredObjectClose (hs : s.Safe) : (s.deferredObjectClose reg).Safe := by
  unfold Serving.deferredObjectClose
  split
  · exact hs
  · exact hs.objectClose false _

theorem Safe.checkDeferredObjectClose (hs : s.Safe) :
    (s.checkDeferredObjectClose reg c).Safe := by
  unfold Serving.checkDeferredObjectClose
  split
  · exact hs
  · split
    · exact (hs.dispatcher _).deferredObjectClose
    · exact hs

/-! ## A push -/

theorem Safe.pushWriteCfm (hs : s.Safe) (status : Status) : (s.pushWriteCfm env status).Safe := by
  unfold Serving.pushWriteCfm
  split
  · exact hs
  · next c hc =>
      have hbase := hs.kept c hc
      split
      · exact hs
      · dsimp only
        split
        · split
          · apply Safe.emit_other
            · exact hs.set hbase
            · rfl
          · apply Safe.setupDeferredObjectClose
            · apply Safe.emit_other
              · exact hs.set hbase
              · rfl
            · exact hbase
        · apply Safe.setupDeferredObjectClose
          · apply Safe.emit_other
            · exact hs.set hbase
            · rfl
          · exact hbase

theorem Safe.firstBodyHeader (hs : s.Safe) : (s.firstBodyHeader env).Safe := by
  unfold Serving.firstBodyHeader
  split
  · exact hs
  · next c hc =>
      have hwritten : ((s.set (c.afterWrite env)).emit c.bodyWrite).Safe := by
        apply Safe.emit_other
        · exact hs.set (hs.kept c hc)
        · rfl
      dsimp only
      split
      · exact hwritten
      · apply Safe.setupDeferredObjectClose
        · exact hwritten.emit_other _ rfl
        · exact hs.kept c hc

theorem Safe.pushOpenCfm (hs : s.Safe) (handle : Option Handle) (status : Status) :
    (s.pushOpenCfm env handle status).Safe := by
  unfold Serving.pushOpenCfm
  split
  · exact hs
  · next c hc =>
      have hbase := hs.kept c hc
      split
      · exact hs
      · split
        · apply hs.opened
          exact hbase
        · apply Safe.setupDeferredObjectClose
          · apply Safe.emit_other
            · exact hs.set hbase
            · rfl
          · exact hbase

theorem Safe.objPushError (hs : s.Safe) (hc : c.rcvObj.NameBase) (status : Status) :
    (s.objPushError env c status).2.Safe :=
  hs.setupDeferredObjectClose hc status

theorem Safe.objPushOpen (hs : s.Safe) (hc : c.rcvObj.NameBase) {name : List UInt16}
    (hname : Base name) (objType : List UInt8) :
    (s.objPushOpen reg env c name objType).2.Safe := by
  have hhanded : ∀ name' ∈ some name, Base name' := by
    intro name' hmem
    cases hmem
    exact hname
  unfold Serving.objPushOpen
  split
  · apply Safe.emit
    · exact hs.set hc
    · exact hhanded
  · dsimp only
    split
    · apply Safe.emit
      · exact hs.set hc
      · exact hhanded
    · apply Safe.objPushError
      · apply Safe.emit
        · exact hs.set hc
        · exact hhanded
      · exact hc

theorem objPushPending_ends :
    ∃ r, s.objPushPending reg env c = .ok r ∧ (s.Safe → c.rcvObj.NameBase → r.2.Safe) := by
  unfold Serving.objPushPending
  split
  · exact ⟨_, rfl, fun hs hc => hs.objPushError hc _⟩
  · next name hname =>
      obtain ⟨supported, hsupported⟩ :=
        isSupportedType_ok (c.rcvObj.type.getD (objTypeFromSuffix name)) reg.supportedFormats
      dsimp only
      rw [hsupported, ok_bind]
      cases supported with
      | true => exact ⟨_, rfl, fun hs hc => hs.objPushOpen hc (hc name hname) _⟩
      | false => exact ⟨_, rfl, fun hs hc => hs.objPushError hc _⟩

variable {headers : List Header} {cmdHeaders : Option (List Header)} {obexStatus : Status}
variable {r : Status × Serving}

/-- A push whose headers are taken carefully goes through, and hands over no path. -/
theorem objPushHeaders_ends (hcareful : Parsing.Careful ⟨c.rcvObj, env.memory⟩ headers) :
    ∃ r, s.objPushHeaders reg env c headers = .ok r ∧
      (s.Safe → c.rcvObj.NameBase → r.2.Safe) := by
  obtain ⟨⟨status, parsed⟩, hparsed⟩ := Parsing.parseHeaders_ends hcareful
  have hkept : c.rcvObj.NameBase → parsed.obj.NameBase := by
    intro hc
    obtain ⟨r, hr, hbase⟩ := Parsing.parseHeaders_careful hcareful hc
    cases hr.symm.trans hparsed
    exact hbase
  unfold Serving.objPushHeaders
  rw [hparsed, ok_bind]
  dsimp only
  split
  · exact ⟨_, rfl, fun hs hc => hs.objPushError (hkept hc) _⟩
  · split
    · obtain ⟨r, hr, hsafe⟩ := @objPushPending_ends reg (s.set { c with rcvObj := parsed.obj })
        env { c with rcvObj := parsed.obj }
      exact ⟨r, hr, fun hs hc => hsafe (hs.set (hkept hc)) (hkept hc)⟩
    · refine ⟨_, rfl, fun hs hc => ?_⟩
      split
      · apply Safe.emit_other
        · exact hs.set (hkept hc)
        · rfl
      · apply Safe.objPushError
        · apply Safe.emit_other
          · exact hs.set (hkept hc)
          · rfl
        · exact hkept hc

theorem objPushHeaders_careless (hcareless : ¬ Parsing.Careful ⟨c.rcvObj, env.memory⟩ headers) :
    s.objPushHeaders reg env c headers = .error .outOfBounds := by
  unfold Serving.objPushHeaders
  rw [Parsing.parseHeaders_careless hcareless, error_bind]

/-- Headers that are not read change nothing but the errors that are kept. -/
theorem objPushConnection_unread (h : cmdHeaders = none ∨ ¬ c.Reads obexStatus) :
    ∃ r, s.objPushConnection reg env c cmdHeaders obexStatus = .ok r ∧ r.2.acts = s.acts ∧
      (s.Safe → c.rcvObj.NameBase → r.2.Safe) := by
  unfold Serving.objPushConnection
  split
  · split
    · exact ⟨_, rfl, rfl, fun hs _ => hs⟩
    · exact ⟨_, rfl, rfl, fun hs hc => hs.set hc⟩
  · next hconfirmed =>
      split
      · exact ⟨_, rfl, rfl, fun hs hc => hs.setupDeferredObjectClose hc _⟩
      · next hstatus =>
          split
          · exact ⟨_, rfl, rfl, fun hs _ => hs⟩
          · next hallowed =>
              cases cmdHeaders with
              | none => exact ⟨_, rfl, rfl, fun hs hc => hs.objPushError hc _⟩
              | some cmdHeaders =>
                  have hunread := h.resolve_left nofun
                  refine ⟨_, if_pos ?_, rfl, fun hs _ => hs⟩
                  by_contra hready
                  refine hunread ⟨by simpa using hconfirmed, ?_, by simpa using hallowed, ?_⟩
                  · by_contra hother
                    exact hstatus (not_or.1 hother)
                  · split at hready
                    · next hconnected => exact .inl hconnected
                    · by_contra hother
                      exact hready ⟨fun h => hother (.inr (.inr h)),
                        fun h => hother (.inr (.inl h))⟩

/-- `objPushConnection` for headers that are read. -/
theorem objPushConnection_read (h : c.Reads obexStatus) (cmdHeaders : List Header) :
    ∃ c' : ServerConnection, c'.rcvObj = c.rcvObj ∧
      (c'.state = .pushPending ↔ c.state ≠ .clientPushing) ∧
      s.objPushConnection reg env c (some cmdHeaders) obexStatus =
        s.objPushHeaders reg env c' cmdHeaders := by
  obtain ⟨hconfirmed, hstatus, hallowed, hready⟩ := h
  unfold Serving.objPushConnection
  rw [if_neg (by simp [hconfirmed]), if_neg, if_neg (by simp [hallowed])]
  · dsimp only
    by_cases hconnected : c.state = .connected
    · rw [if_pos hconnected, if_neg (by simp)]
      exact ⟨_, by rfl, by simp [hconnected], rfl⟩
    · rw [if_neg hconnected, if_neg]
      · refine ⟨_, by rfl, ?_, rfl⟩
        obtain h | h | h := hready
        · exact absurd h hconnected
        · simp [h]
        · simp [h]
      · rintro ⟨hpushing, hpending⟩
        obtain h | h | h := hready
        · exact hconnected h
        · exact hpending h
        · exact hpushing h
  · rintro ⟨hok, hcontinue⟩
    exact hstatus.elim hok hcontinue

/-! ## The other handlers -/

theorem Safe.acceptPush (hs : s.Safe) {objname : Option (List UInt16)} {accept : Bool}
    (h : accept = true → ∀ c ∈ s.connection, c.state = .pushPending →
      c.ofsAcceptPending = true → ∀ name ∈ objname, Base name) :
    (s.acceptPush env objname accept).2.Safe := by
  unfold Serving.acceptPush
  split
  · exact hs
  · next c hc =>
      have hbase := hs.kept c hc
      split
      · exact hs
      · next hready =>
          rw [not_or, not_not, Bool.not_eq_false] at hready
          dsimp only
          split
          · next haccept =>
              have hname : ∀ name ∈ objname <|> c.rcvObj.name, Base name := by
                intro name hmem
                cases objname with
                | none => exact hbase name hmem
                | some given => exact h haccept c hc hready.1 hready.2 name hmem
              split
              · apply Safe.emit
                · exact hs.set hbase
                · exact hname
              · apply Safe.emit_other
                · apply Safe.emit
                  · exact hs.set GenericObject.nameBase_zero
                  · exact hname
                · rfl
          · apply Safe.emit_other
            · exact hs.set GenericObject.nameBase_zero
            · rfl

theorem Safe.pullOpened (hs : s.Safe) (hc : c.rcvObj.NameBase) (name : List UInt16)
    (type : List UInt8) (size : Nat) : (s.pullOpened reg env c name type size).Safe := by
  unfold Serving.pullOpened
  by_cases hevent : reg.eventInd
  · simp only [if_pos hevent]
    have hset := @Safe.set s hs { c with rcvObj := { c.rcvObj with objSize := size } } hc
    have hemit := hset.emit_other (.pull (some name) size type) rfl
    split
    · apply Safe.set
      · exact hemit.emit_other _ rfl
      · exact hc
    · apply Safe.setupDeferredObjectClose
      · exact hemit.emit_other _ rfl
      · exact hc
  · simp only [if_neg hevent]
    split
    · apply Safe.set
      · exact (hs.set hc).emit_other _ rfl
      · exact hc
    · apply Safe.setupDeferredObjectClose
      · exact (hs.set hc).emit_other _ rfl
      · exact hc

theorem Safe.pullOpenCfm (hs : s.Safe) (handle : Option Handle) (name : List UInt16)
    (type : List UInt8) (size : Nat) (status : Status) :
    (s.pullOpenCfm reg env handle name type size status).Safe := by
  unfold Serving.pullOpenCfm
  split
  · exact hs
  · next c hc =>
      have hbase := hs.kept c hc
      dsimp only
      generalize (if c.deferredPPError then c.deferredErrorStatus else status) = answer
      split
      · exact hs
      · split
        · apply hs.pullOpened
          exact hbase
        · apply Safe.setupDeferredObjectClose
          · apply Safe.emit_other
            · exact hs.set hbase
            · rfl
          · exact hbase

theorem Safe.pullReadCfm (hs : s.Safe) (data : List UInt8) (status : Status) :
    (s.pullReadCfm env data status).Safe := by
  unfold Serving.pullReadCfm
  split
  · exact hs
  · next c hc =>
      have hbase := hs.kept c hc
      split
      · exact hs
      · dsimp only
        split
        · apply Safe.setupDeferredObjectClose
          · apply Safe.emit_other
            · exact hs.set hbase
            · rfl
          · exact hbase
        · have hsent : ∀ act : ServerAct, act.handed = none →
              ((s.set { c with ofsCfmPending := false }).emit act).Safe := by
            intro act hact
            apply Safe.emit_other
            · exact hs.set hbase
            · exact hact
          split
          · split
            · exact hsent _ rfl
            · exact hsent _ rfl
          · apply Safe.setupDeferredObjectClose
            · split
              · exact hsent _ rfl
              · exact hsent _ rfl
            · exact hbase

theorem Safe.objPullStart (hs : s.Safe) (hc : c.rcvObj.NameBase)
    (h : s.objPullStart env c headers = .ok r) : r.2.Safe := by
  unfold Serving.objPullStart at h
  have hcomplete := fun status => @Safe.setupDeferredObjectClose s env hs c hc status
  split at h
  · cases h
    exact hcomplete _
  · split at h
    · cases h
      exact hcomplete _
    · split at h
      · cases h
        exact hcomplete _
      · obtain ⟨same, -, h⟩ := bind_eq_ok.1 h
        split at h
        · cases h
          split
          · apply Safe.emit_other
            · exact hs.set hc
            · rfl
          · apply Safe.setupDeferredObjectClose
            · apply Safe.emit_other
              · exact hs.set hc
              · rfl
            · exact hc
        · cases h
          exact hcomplete _

theorem Safe.objPullRead (hs : s.Safe) (hc : c.rcvObj.NameBase) :
    (s.objPullRead env c).2.Safe := by
  have hread : ((s.set { c with ofsCfmPending := true }).emit
      (.read c.ofsHandle c.maxReadSize)).Safe := by
    apply Safe.emit_other
    · exact hs.set hc
    · rfl
  unfold Serving.objPullRead
  dsimp only
  split
  · exact hread.pullReadCfm _ _
  · split
    · exact hread
    · apply Safe.setupDeferredObjectClose
      · exact hread.set hc
      · exact hc

theorem Safe.objPullConnection (hs : s.Safe) (hc : c.rcvObj.NameBase)
    (h : s.objPullConnection env c headers obexStatus = .ok r) : r.2.Safe := by
  unfold Serving.objPullConnection at h
  split at h
  · split at h
    · cases h
      exact hs.set hc
    · cases h
      exact hs.setupDeferredObjectClose hc _
  · split at h
    · cases h
      exact hs.set hc
    · split at h
      · cases h
        exact hs
      · split at h
        · cases h
          exact hs.setupDeferredObjectClose hc _
        · split at h
          · exact hs.objPullStart hc h
          · split at h
            · cases h
              exact hs
            · cases h
              exact hs.objPullRead hc

theorem Safe.objPullInd (hs : s.Safe) (h : s.objPullInd reg env headers obexStatus = .ok r) :
    r.2.Safe := by
  unfold Serving.objPullInd at h
  split at h
  · cases h
    exact hs
  · next c hc =>
      have hchecked : (s.checkDeferredObjectClose reg c).Safe := hs.checkDeferredObjectClose
      dsimp only at h
      split at h
      · cases h
        exact hchecked
      · next c' hc' => exact hchecked.objPullConnection (hchecked.kept c' hc') h

theorem Safe.acceptConnect (hs : s.Safe) (allowPush allowPull : Bool) :
    (s.acceptConnect reg env allowPush allowPull).2.Safe := by
  have hsent := fun accept => hs.emit_other (.acceptConnect accept) rfl
  unfold Serving.acceptConnect
  split
  · exact hs
  · next c hc =>
      have hbase := hs.kept c hc
      split
      · exact hs
      · split
        · exact (hsent _).disconnected
        · dsimp only
          split
          · exact (hsent _).set hbase
          · exact (hsent _).disconnected

theorem Safe.serverConnectInd (hs : s.Safe) {unauthorized : Bool} {s' : Serving}
    (h : s.serverConnectInd reg env unauthorized = .ok s') : s'.Safe := by
  have hnew : (s.set .new).Safe := hs.set GenericObject.nameBase_zero
  unfold Serving.serverConnectInd at h
  split at h
  · cases h
    exact hs.emit_other _ rfl
  · split at h
    · cases h
      exact hs.emit_other _ rfl
    · split at h
      · cases h
        exact hs.disconnected.emit_other _ rfl
      · split at h
        · cases h
          exact hnew.emit_other _ rfl
        · dsimp only at h
          split at h
          · cases h
            exact hnew.acceptConnect true true
          · cases h

theorem Safe.serverDisconnectInd (hs : s.Safe) : (s.serverDisconnectInd reg).Safe := by
  unfold Serving.serverDisconnectInd
  split
  · exact hs
  · exact (hs.dispatcher _).objectClose true _

theorem Safe.dispatch (hs : s.Safe) (handle : Nat) : (s.dispatch reg env handle).Safe := by
  unfold Serving.dispatch
  dsimp only
  split
  · exact hs
  · exact (hs.dispatcher _).deferredObjectClose
  · exact (hs.dispatcher _).firstBodyHeader

/-! ## Steps and runs -/

/-- An event that the server deals with safely: the names of the headers that a push reads
do not belong to `telecom/` as a whole, and a name that the application gives instead is
no path. -/
def Careful (reg : Registration) (s : Serving) (env : Surroundings) : ServerEvent → Prop
  | .objPushInd (some cmdHeaders) obexStatus =>
      ∀ c ∈ s.connection, ∀ c' ∈ (s.checkDeferredObjectClose reg c).connection,
        c'.Reads obexStatus → Parsing.Careful ⟨c'.rcvObj, env.memory⟩ cmdHeaders
  | .acceptPush objname true =>
      ∀ c ∈ s.connection, c.state = .pushPending → c.ofsAcceptPending = true →
        ∀ name ∈ objname, Base name
  | _ => True

/-- A push reads nothing behind a name, and no name becomes a path. -/
structure SafeStep (reg : Registration) (s : Serving) (env : Surroundings)
    (event : ServerEvent) : Prop where
  inside : ∀ cmdHeaders obexStatus, event = .objPushInd cmdHeaders obexStatus →
    ∃ s', s.step reg env event = .ok s'
  safe : ∀ s', s.step reg env event = .ok s' → s'.Safe

theorem objPushInd_eq (hc : s.connection = some c) {c' : ServerConnection}
    (hc' : (s.checkDeferredObjectClose reg c).connection = some c')
    (cmdHeaders : Option (List Header)) (obexStatus : Status) :
    s.objPushInd reg env cmdHeaders obexStatus =
      (s.checkDeferredObjectClose reg c).objPushConnection reg env c' cmdHeaders obexStatus := by
  unfold objPushInd
  rw [hc]
  dsimp only
  rw [hc']

/-- A push that is careful goes through, and hands over no path. -/
theorem objPushInd_ends (h : s.Careful reg env (.objPushInd cmdHeaders obexStatus)) :
    ∃ r, s.objPushInd reg env cmdHeaders obexStatus = .ok r ∧ (s.Safe → r.2.Safe) := by
  cases hc : s.connection with
  | none =>
      refine ⟨(.invalidHandle, s), ?_, fun hs => hs⟩
      unfold Serving.objPushInd
      rw [hc]
  | some c =>
      have hchecked : s.Safe → (s.checkDeferredObjectClose reg c).Safe :=
        fun hs => hs.checkDeferredObjectClose
      cases hc' : (s.checkDeferredObjectClose reg c).connection with
      | none =>
          refine ⟨(.ok, s.checkDeferredObjectClose reg c), ?_, hchecked⟩
          unfold Serving.objPushInd
          rw [hc]
          dsimp only
          rw [hc']
      | some c' =>
          rw [objPushInd_eq hc hc']
          have hbase : s.Safe → c'.rcvObj.NameBase := fun hs => (hchecked hs).kept c' hc'
          have hunread : ∀ cmdHeaders, cmdHeaders = none ∨ ¬ c'.Reads obexStatus →
              ∃ r, (s.checkDeferredObjectClose reg c).objPushConnection reg env c' cmdHeaders
                obexStatus = .ok r ∧ (s.Safe → r.2.Safe) := by
            intro cmdHeaders h
            obtain ⟨r, hr, -, hsafe⟩ := objPushConnection_unread h
            exact ⟨r, hr, fun hs => hsafe (hchecked hs) (hbase hs)⟩
          cases cmdHeaders with
          | none => exact hunread none (.inl rfl)
          | some cmdHeaders =>
              by_cases hreads : c'.Reads obexStatus
              · obtain ⟨c'', hobj, -, heq⟩ := @objPushConnection_read reg
                  (s.checkDeferredObjectClose reg c) env c' obexStatus hreads cmdHeaders
                rw [heq]
                have hcareful := h c hc c' hc' hreads
                rw [← hobj] at hbase hcareful
                obtain ⟨r, hr, hsafe⟩ := @objPushHeaders_ends reg
                  (s.checkDeferredObjectClose reg c) env c'' cmdHeaders hcareful
                exact ⟨r, hr, fun hs => hsafe (hchecked hs) (hbase hs)⟩
              · exact hunread _ (.inr hreads)

/-- Any other push reads behind a name. -/
theorem objPushInd_careless (h : ¬ s.Careful reg env (.objPushInd cmdHeaders obexStatus)) :
    s.objPushInd reg env cmdHeaders obexStatus = .error .outOfBounds := by
  cases cmdHeaders with
  | none => exact absurd trivial h
  | some cmdHeaders =>
      unfold Careful at h
      push Not at h
      obtain ⟨c, hc, c', hc', hreads, hcareless⟩ := h
      obtain ⟨c'', hobj, -, heq⟩ := @objPushConnection_read reg
        (s.checkDeferredObjectClose reg c) env c' obexStatus hreads cmdHeaders
      rw [objPushInd_eq hc hc', heq]
      rw [← hobj] at hcareless
      exact objPushHeaders_careless hcareless

/-- A name of the application is handed over as it is. -/
theorem acceptPush_handed (hc : s.connection = some c) (hpending : c.state = .pushPending)
    (haccept : c.ofsAcceptPending = true) (name : List UInt16) :
    ∃ type size,
      .openWrite (some name) type size ∈ (s.acceptPush env (some name) true).2.acts := by
  unfold acceptPush
  rw [hc]
  dsimp only
  rw [if_neg (by simp [hpending, haccept]), if_pos rfl]
  refine ⟨c.rcvObj.type, c.rcvObj.objSize, ?_⟩
  split
  · exact mem_append_right _ (mem_singleton_self _)
  · exact mem_append_left _ (mem_append_right _ (mem_singleton_self _))

theorem map_snd_eq_ok {x : Except Fault (Status × Serving)} {s' : Serving}
    (h : x.map Prod.snd = .ok s') : ∃ r, x = .ok r ∧ r.2 = s' := by
  cases x with
  | error e => cases h
  | ok r => exact ⟨r, rfl, Except.ok.inj h⟩

/-- A step from a safe state is safe exactly if it is careful. -/
theorem safeStep_iff_careful (hs : s.Safe) (event : ServerEvent) :
    SafeStep reg s env event ↔ s.Careful reg env event := by
  constructor
  · intro hstep
    cases event with
    | objPushInd cmdHeaders obexStatus =>
        by_contra hcareless
        obtain ⟨s', hs'⟩ := hstep.inside cmdHeaders obexStatus rfl
        obtain ⟨r, hr, -⟩ := map_snd_eq_ok hs'
        rw [objPushInd_careless hcareless] at hr
        cases hr
    | acceptPush objname accept =>
        cases accept with
        | false => trivial
        | true =>
            intro c hc hpending haccept name hname
            cases hname
            obtain ⟨type, size, hmem⟩ :=
              @acceptPush_handed s env c hc hpending haccept name
            exact (hstep.safe _ rfl).handed _ hmem name rfl
    | _ => trivial
  · intro hcareful
    cases event with
    | objPushInd cmdHeaders obexStatus =>
        obtain ⟨r, hr, hsafe⟩ := objPushInd_ends hcareful
        have heq : s.step reg env (.objPushInd cmdHeaders obexStatus) = .ok r.2 := by
          rw [step, hr]
          rfl
        refine ⟨fun _ _ _ => ⟨_, heq⟩, fun s' hs' => ?_⟩
        rw [heq] at hs'
        cases hs'
        exact hsafe hs
    | acceptPush objname accept =>
        refine ⟨nofun, fun s' hs' => ?_⟩
        cases hs'
        refine hs.acceptPush fun haccept => ?_
        subst haccept
        exact hcareful
    | objPullInd cmdHeaders obexStatus =>
        refine ⟨nofun, fun s' hs' => ?_⟩
        obtain ⟨r, hr, rfl⟩ := map_snd_eq_ok hs'
        exact hs.objPullInd hr
    | serverConnectInd unauthorized => exact ⟨nofun, fun s' hs' => hs.serverConnectInd hs'⟩
    | acceptConnect allowPush allowPull =>
        exact ⟨nofun, fun s' hs' => Except.ok.inj hs' ▸ hs.acceptConnect allowPush allowPull⟩
    | serverDisconnectInd =>
        exact ⟨nofun, fun s' hs' => Except.ok.inj hs' ▸ hs.serverDisconnectInd⟩
    | pushOpenCfm handle status =>
        exact ⟨nofun, fun s' hs' => Except.ok.inj hs' ▸ hs.pushOpenCfm handle status⟩
    | pushWriteCfm status =>
        exact ⟨nofun, fun s' hs' => Except.ok.inj hs' ▸ hs.pushWriteCfm status⟩
    | pullOpenCfm handle name type size status =>
        exact ⟨nofun, fun s' hs' =>
          Except.ok.inj hs' ▸ hs.pullOpenCfm handle name type size status⟩
    | pullReadCfm data status =>
        exact ⟨nofun, fun s' hs' => Except.ok.inj hs' ▸ hs.pullReadCfm data status⟩
    | dispatch handle => exact ⟨nofun, fun s' hs' => Except.ok.inj hs' ▸ hs.dispatch handle⟩

/-- The runs of a connection whose steps are careful. -/
inductive Reaches (reg : Registration) : Serving → Prop
  | start : Reaches reg start
  | step {s s' : Serving} (run : Reaches reg s) (env : Surroundings) (event : ServerEvent)
      (careful : s.Careful reg env event) (next : s.step reg env event = .ok s') :
      Reaches reg s'

theorem Reaches.safe (h : Reaches reg s) : s.Safe := by
  induction h with
  | start => exact start_safe
  | step run env event careful next ih =>
      exact ((safeStep_iff_careful ih event).2 careful).safe _ next

end Serving

end Opp
