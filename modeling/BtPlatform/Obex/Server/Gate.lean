import BtPlatform.Obex.Server.Refuse

/-!
# The authentication gate

Requests of a client reach the application only after a connect request was accepted,
and that happens, where the target requires authentication, only after an
authentication succeeded. A get request received before the connection is accepted
breaks this: its rejection leaves the connection in state `OBEX_CONNECTED`. Without
such a request the gate holds in every run.

The proof splits on whether the state of the connection is past the connect request.
If it is, an event only extends the session. If not, `Silent` functions make up the
event, with callbacks that carry no request.
-/

namespace Obex.Server

open Support Program Linked Prog Srv List

/-! ## The property -/

/-- `OBEX_CONNECTED` and the states of an operation. -/
def ConnectionState.isOpen : ConnectionState → Bool
  | .obexConnected | .getInProgress | .getCompleting | .bulkGetInProgress | .bulkGetCompleting
  | .bulkGetFailed | .putInProgress | .putCompleting | .settingPath | .doAction => true
  | _ => false

/-- A callback that passes a request of the client. -/
def Indication.isRequest : Indication → Bool
  | .putInd .. | .getInd .. | .bulkGetInd .. | .setPathInd .. | .actionInd .. => true
  | _ => false

/-- A connect request for the target was accepted and, if the target requires it, an
authentication for the target succeeded before that. -/
def Authorized (history : List Act) (target : TargetInfo) : Prop :=
  ∃ before after, history = before ++ .accepted target :: after ∧
    (target.authRequired ≠ .none → .authenticated target .ok ∈ before)

/-- The current target has been authorized. -/
def Admitted (s : Session) : Prop :=
  ∃ target, s.connection.currentTarget = some target ∧ Authorized s.history target

/-- Every request in the history comes after an authorization. -/
def RequestsAuthorized (history : List Act) : Prop :=
  ∀ before ind status after, history = before ++ .indicated ind status :: after →
    ind.isRequest → ∃ target, Authorized before target

/-- The gate: open states and requests only after authorization. -/
structure Gate (s : Session) : Prop where
  state : s.connection.state.isOpen → Admitted s
  requests : RequestsAuthorized s.history

/-- The packet is a get command. -/
def isGet (dataBuf : List UInt8) : Bool :=
  (dataBuf.head?.map fun cmdCode => obexFinal cmdCode == obexFinal cmdGet) = some true

/-- No connect request has led further than an indication to the application. -/
def ConnectionState.beforeConnect : ConnectionState → Bool
  | .disconnected | .lowerLayerConnecting | .lowerLayerConnected | .obexConnecting => true
  | _ => false

/-- A get command is received only after a connect request was accepted. -/
def GetAfterConnect : Act → Prop
  | .event (.lowerRecvDataInd dataBuf _) before =>
      isGet dataBuf → before.connection.state.beforeConnect = false
  | _ => True

instance : DecidablePred GetAfterConnect
  | .event (.lowerRecvDataInd ..) _ => inferInstanceAs (Decidable (_ → _))
  | .event (.lowerConnectCfm ..) _ | .event (.lowerDisconnectInd _) _
  | .event (.lowerWriteCfm ..) _ | .event .connectTimeout _ | .event (.dispatch _) _
  | .event (.call _) _ | .called .. | .answered .. | .indicated .. | .accepted _
  | .authenticated .. | .freed => inferInstanceAs (Decidable True)

/-! ## Authorization is not lost -/

variable {history : List Act} {target : TargetInfo} {s s' : Session} {state : ConnectionState}
variable {cfg : Config} {status : Status}

theorem Authorized.mono {history' : List Act} (h : Authorized history target)
    (hpre : history <+: history') : Authorized history' target := by
  obtain ⟨before, after, rfl, hauth⟩ := h
  obtain ⟨more, rfl⟩ := hpre
  exact ⟨before, after ++ more, by simp, hauth⟩

theorem Admitted.extends (h : Admitted s) (hext : Extends s s') : Admitted s' := by
  obtain ⟨target, htarget, hauth⟩ := h
  exact ⟨target, hext.target.trans htarget, hauth.mono hext.history⟩

/-- Acts that pass no request may be added at any time. -/
theorem RequestsAuthorized.append {new : List Act} (h : RequestsAuthorized history)
    (hnew : ∀ ind status, .indicated ind status ∈ new → ind.isRequest = false) :
    RequestsAuthorized (history ++ new) := by
  intro before ind status after hsplit hreq
  obtain ⟨more, rfl, hcons⟩ | ⟨more, rfl, hnew'⟩ := append_eq_append_iff.1 hsplit
  · have hmem : .indicated ind status ∈ new := by simp [hcons]
    rw [hnew ind status hmem] at hreq
    cases hreq
  · cases more with
    | nil =>
        have hmem : .indicated ind status ∈ new := by
          rw [nil_append] at hnew'
          rw [← hnew']
          exact mem_cons_self
        rw [hnew ind status hmem] at hreq
        cases hreq
    | cons act more =>
        obtain ⟨rfl, -⟩ := cons.inj hnew'
        exact h before ind status more rfl hreq

/-- Once a target is authorized, any act may be added. -/
theorem RequestsAuthorized.of_prefix {history' : List Act} (h : RequestsAuthorized history)
    (hauth : Authorized history target) (hpre : history <+: history') :
    RequestsAuthorized history' := by
  intro before ind status after hsplit hreq
  obtain ⟨new, rfl⟩ := hpre
  obtain ⟨more, rfl, hcons⟩ | ⟨more, rfl, hnew⟩ := append_eq_append_iff.1 hsplit
  · exact ⟨target, hauth.mono (prefix_append _ _)⟩
  · cases more with
    | nil => exact ⟨target, by simpa using hauth⟩
    | cons act more =>
        obtain ⟨rfl, -⟩ := cons.inj hnew
        exact h before ind status more rfl hreq

/-! ## The invariant -/

/-- Past the connect request: open, or about to be. -/
def ConnectionState.pastConnect (state : ConnectionState) : Bool :=
  state.isOpen || state = .connectCompleting

/-- The gate, with what it needs while the connection is being established. -/
structure Guarded (s : Session) : Prop where
  past : s.connection.state.pastConnect → Admitted s
  connecting : s.connection.state = .obexConnecting →
    ∃ target, s.connection.currentTarget = some target ∧
      (s.connection.unauthorized = false → target.authRequired ≠ .none →
        .authenticated target .ok ∈ s.history)
  requests : RequestsAuthorized s.history

theorem Guarded.gate (h : Guarded s) : Gate s where
  state hopen := h.past (by simp [ConnectionState.pastConnect, hopen])
  requests := h.requests

/-- Past the connect request, whatever extends the session is safe. -/
theorem Guarded.extends (h : Guarded s) (hpast : s.connection.state.pastConnect)
    (hext : Extends s s') : Guarded s' := by
  have hadm := h.past hpast
  obtain ⟨target, htarget, hauth⟩ := hadm
  refine ⟨fun _ => (h.past hpast).extends hext, fun hconn => ?_,
    h.requests.of_prefix hauth hext.history⟩
  have hstate := hext.connecting hconn
  rw [hstate] at hpast
  cases hpast

/-- Nothing is passed to the application but what is no request, the target stays, and
the connection gets no further. -/
structure Silent (s s' : Session) : Prop where
  target : s'.connection.currentTarget = s.connection.currentTarget
  unauthorized : s'.connection.unauthorized = s.connection.unauthorized
  state : s'.connection.state = s.connection.state ∨
    s'.connection.state.pastConnect = false ∧ s'.connection.state ≠ .obexConnecting
  history : ∃ new, s'.history = s.history ++ new ∧
    ∀ ind status, .indicated ind status ∈ new → ind.isRequest = false

instance : IsPreorder Session Silent where
  refl s := ⟨rfl, rfl, .inl rfl, [], by simp, by simp⟩
  trans s₁ s₂ s₃ h₁ h₂ := by
    obtain ⟨new₁, hist₁, hreq₁⟩ := h₁.history
    obtain ⟨new₂, hist₂, hreq₂⟩ := h₂.history
    refine ⟨h₂.target.trans h₁.target, h₂.unauthorized.trans h₁.unauthorized, ?_,
      new₁ ++ new₂, by rw [hist₂, hist₁, append_assoc], ?_⟩
    · rcases h₂.state with hst | hst
      · rw [hst]
        exact h₁.state
      · exact .inr hst
    · intro ind status hmem
      rcases mem_append.1 hmem with hmem | hmem
      · exact hreq₁ ind status hmem
      · exact hreq₂ ind status hmem

theorem Guarded.silent (h : Guarded s) (hs : Silent s s') : Guarded s' := by
  obtain ⟨new, hist, hreq⟩ := hs.history
  have hpre : s.history <+: s'.history := ⟨new, hist.symm⟩
  refine ⟨fun hpast => ?_, fun hconn => ?_, ?_⟩
  · rcases hs.state with hst | hst
    · rw [hst] at hpast
      obtain ⟨target, htarget, hauth⟩ := h.past hpast
      exact ⟨target, hs.target.trans htarget, hauth.mono hpre⟩
    · rw [hst.1] at hpast
      cases hpast
  · rcases hs.state with hst | hst
    · rw [hst] at hconn
      obtain ⟨target, htarget, hauth⟩ := h.connecting hconn
      refine ⟨target, hs.target.trans htarget, fun hun hreqd => ?_⟩
      rw [hs.unauthorized] at hun
      exact hpre.subset (hauth hun hreqd)
    · exact absurd hconn hst.2
  · rw [hist]
    exact h.requests.append hreq

/-- The session's channel, tasks and replies, and what the gate does not look at in the
connection, may change. -/
theorem Silent.of_eq (hadmission : s'.connection.admission = s.connection.admission)
    (hhist : s'.history = s.history) : Silent s s' := by
  obtain ⟨hstate, hrest⟩ := Prod.mk.inj hadmission
  obtain ⟨htarget, hrest⟩ := Prod.mk.inj hrest
  exact ⟨htarget, (Prod.mk.inj hrest).1, .inl hstate, [], by rw [hhist, append_nil], by simp⟩

instance : Aborts Silent where
  quiet _ _ := .of_eq rfl rfl
  common _ := .of_eq rfl rfl
  channel _ _ _ := .of_eq rfl rfl
  rest hconn _ hhist := .of_eq (by rw [hconn]) hhist
  connection hstanding := .of_eq (Prod.mk.inj hstanding).1 rfl
  drop := ⟨rfl, rfl, .inr ⟨rfl, nofun⟩, [], by simp, by simp⟩
  note := by
    intro s act hplain
    refine ⟨rfl, rfl, .inl rfl, [act], rfl, fun ind status hmem => ?_⟩
    obtain rfl := mem_singleton.1 hmem
    cases hplain

theorem silent_guarded {α : Type} {m : Srv α} (h : Within Silent m) :
    Within (Stays Guarded) m :=
  h.mono fun _ _ hs hg => hg.silent hs

instance : Aborts (Stays Guarded) where
  quiet hquiet hsrm hguard := hguard.silent (Sends.quiet hquiet hsrm)
  common hcommon hguard := hguard.silent (Sends.common hcommon)
  channel hattempts hsrm hcount hguard := hguard.silent (Idles.channel hattempts hsrm hcount)
  rest hconn hchannel hhist hguard := hguard.silent (Aborts.rest hconn hchannel hhist)
  connection hstanding hguard := hguard.silent (Aborts.connection hstanding)
  drop hguard := hguard.silent Idles.drop
  note hplain hguard := hguard.silent (Idles.note hplain)

theorem Answers.silent (h : Answers s s') : Silent s s' :=
  .of_eq (by rw [h.rest]) (by rw [h.rest])

theorem answers_silent {α : Type} {m : Srv α} (h : Within Answers m) : Within Silent m :=
  h.mono fun _ _ => Answers.silent

theorem setState_silent (hpast : state.pastConnect = false) (hconn : state ≠ .obexConnecting) :
    Within Silent (setState state) :=
  .update fun _ => ⟨rfl, rfl, .inr ⟨hpast, hconn⟩, [], by simp, by simp⟩

/-! ## Calls -/

variable {optHeaders : Option (List Header)} {result : Status} {rcvPacket : ByteStream}
variable {request : Request}

/-- The end of `acceptConnect`, where a response that cannot be sent takes the
connection back. -/
theorem acceptConnect_end_silent {rsp : UInt8} {headers : List Header} :
    Within Silent (do
      let status ← sendConnectAnswer rsp headers optHeaders
      Prog.only (¬ status.success) (do
        setState .lowerLayerConnected
        setAuthentication none
        setConnection fun c => { c with connectIndicated := false })
      return status) :=
  sendConnectAnswer_sends.seq <|
    .bind (.only ((setState_silent (by decide) (by decide)).seq <|
      setAuthentication_sends.seq <| setConnection_step fun _ => rfl)) fun _ => .pure

/-- The connection is accepted for its target: from here on it is past the connect
request. -/
theorem Guarded.accept (h : Guarded s) (hconn : s.connection.state = .obexConnecting)
    (hun : s.connection.unauthorized = false) :
    ∃ target, s.connection.currentTarget = some target ∧
      Guarded { s with
        connection := { s.connection with state := .connectCompleting }
        history := s.history ++ [.accepted target] } := by
  obtain ⟨target, htarget, hauth⟩ := h.connecting hconn
  refine ⟨target, htarget, fun _ => ⟨target, htarget, s.history, [], rfl, hauth hun⟩, nofun, ?_⟩
  exact h.requests.append (by simp)

/-- A connect request is accepted only while connecting. -/
theorem acceptConnect_guarded {realm : Option Realm} {accept : Bool} {rspStatus : Status}
    (hguard : Guarded s) (haccept : accept → s.connection.state = .obexConnecting)
    (h : Ends (acceptConnect cfg realm accept rspStatus optHeaders) s status s') : Guarded s' := by
  replace h := ends_bind_view.1 h
  split at h
  · obtain ⟨-, rfl⟩ := ends_pure.1 h
    exact hguard
  obtain ⟨⟨rsp, headers⟩, t, hanswer, hend⟩ := ends_bind.1 h
  refine Guarded.silent ?_ (acceptConnect_end_silent _ _ _ hend)
  replace hanswer := ends_bind_view.1 hanswer
  split at hanswer
  · next hacc =>
      have hconn := haccept hacc
      split at hanswer
      · have hsilent : Within Silent (do
            setState .lowerLayerConnected
            let challenge ← sendChallenge cfg realm
            return (obexFinal 0x41, [challenge])) :=
          (setState_silent (by decide) (by decide)).seq <|
            sendChallenge_permitted.seq .pure
        exact hguard.silent (hsilent _ _ _ hanswer)
      · next hun =>
          obtain ⟨target, htarget, hguard'⟩ := hguard.accept hconn (by simpa using hun)
          replace hanswer := ends_bind_update.1 hanswer
          obtain ⟨_, t₁, hrecord, hheaders⟩ := ends_bind.1 hanswer
          replace hrecord := ends_bind_view.1 hrecord
          rw [show (s.connection.currentTarget) = some target from htarget] at hrecord
          obtain rfl := ends_update.1 hrecord
          have hsilent : Within Silent (do
              let headers ← connectHeaders cfg
              return (obexFinal rspOk, headers)) := connectHeaders_sends.seq .pure
          exact hguard'.silent (hsilent _ _ _ hheaders)
  · have hsilent : Within Silent (do
        setState .lowerLayerConnected
        setConnection fun c => { c with connectIndicated := false }
        return (mapStatus rspStatus, ([] : List Header))) :=
      (setState_silent (by decide) (by decide)).seq <|
        .seq (setConnection_step fun _ => rfl) .pure
    exact hguard.silent (hsilent _ _ _ hanswer)

theorem acceptConnectCall_guarded {cfg : Config} {accept : Bool} {rspStatus : Status} :
    Within (Stays Guarded) (acceptConnectCall cfg accept rspStatus optHeaders) := by
  intro s status s' h hguard
  by_cases hstate : s.connection.state = .obexConnecting
  · replace h := ends_bind_view.1 h
    split at h
    · obtain ⟨-, rfl⟩ := ends_pure.1 h
      exact hguard
    split at h
    · obtain ⟨-, rfl⟩ := ends_pure.1 h
      exact hguard
    exact acceptConnect_guarded hguard (fun _ => hstate) h
  · rw [acceptConnectCall_idle hstate h]
    exact hguard

/-- A successful authentication lifts the restriction. -/
theorem Guarded.authenticate (h : Guarded s) (htarget : s.connection.currentTarget = some target)
    (hauth : .authenticated target .ok ∈ s.history) :
    Guarded { s with connection := { s.connection with unauthorized := false } } where
  past := h.past
  connecting _ := ⟨target, htarget, fun _ _ => hauth⟩
  requests := h.requests

theorem checkAuthentication_guarded {cfg : Config} :
    Within (Stays Guarded) (checkAuthentication cfg) := by
  intro s status s' h hguard
  have hregister : Within Silent (do
      let _ ← register .reIndicateConnect
      return Status.ok) := register_permitted.seq <| .pure
  replace h := ends_bind_view.1 h
  split at h
  · obtain ⟨auth, t, hauth, hrest⟩ := ends_bind.1 h
    have hanswers := authentication_answers _ _ _ hauth
    have hguard₁ := hguard.silent hanswers.silent
    obtain ⟨_, t₁, hrecord, hend⟩ := ends_bind.1 hrest
    have htargeted : Within Silent (recordTarget fun target =>
        .authenticated target (authenticate cfg.md5 auth)) := by
      refine Within.view.bind fun c => ?_
      split
      · refine Within.update fun _ => ⟨rfl, rfl, .inl rfl, _, rfl, fun ind status hmem => ?_⟩
        cases mem_singleton.1 hmem
      · exact .pure
    have hguard₂ : Guarded t₁ := hguard₁.silent (htargeted _ _ _ hrecord)
    split at hend
    · next hok =>
        -- an attempt without a target cannot happen while connecting
        replace hrecord := ends_bind_view.1 hrecord
        replace hend := ends_bind_update.1 hend
        refine Guarded.silent ?_ (hregister _ _ _ hend)
        split at hrecord
        · next target htarget =>
            obtain rfl := ends_update.1 hrecord
            refine hguard₂.authenticate htarget ?_
            have hresult : authenticate cfg.md5 auth = .ok := by simpa using hok
            simp [hresult]
        · next hnone =>
            obtain ⟨-, rfl⟩ := ends_pure.1 hrecord
            refine ⟨hguard₂.past, fun hconn => ?_, hguard₂.requests⟩
            obtain ⟨target, htarget, -⟩ := hguard₂.connecting hconn
            exact absurd (htarget.symm.trans hnone) nofun
    split at hend
    · exact acceptConnectCall_guarded _ _ _ hend hguard₂
    · obtain ⟨-, rfl⟩ := ends_pure.1 hend
      exact hguard₂
  · exact hguard.silent (hregister _ _ _ h)

theorem authenticationResponse_guarded {cfg : Config} {userId : Option (List UInt8)}
    {userIdLen : Nat} {password : List UInt8} {readOnly : Bool} :
    Within (Stays Guarded) (authenticationResponse cfg userId userIdLen password readOnly) := by
  have hreject : ∀ status : Status, Within (Stays Guarded) (do
      let _ ← acceptConnect cfg none false status none
      setState .lowerLayerConnected
      resetAuthentication
      return status) := by
    intro status
    refine .bind ?_ fun _ => silent_guarded
      ((setState_silent (by decide) (by decide)).seq <|
        resetAuthentication_sends.seq .pure)
    intro s _ s' h hguard
    exact acceptConnect_guarded hguard (fun hacc => by cases hacc) h
  exact .seq .view <|
    .ite .pure (.ite .pure
      (.seq (setCommon_sends fun _ => id) <|
        authentication_sends.seq <| setAuthentication_sends.seq <|
            (Within.branch checkAuthentication_guarded .pure).seq <|
              .ite .pure (hreject _)))

theorem authAccept_guarded {cfg : Config} {realm : Option Realm} {accept : Bool} :
    Within (Stays Guarded) (authAccept cfg realm accept) := by
  intro s status s' h hguard
  by_cases hstate : s.connection.state = .obexConnecting
  · replace h := ends_bind_view.1 h
    split at h
    · obtain ⟨-, rfl⟩ := ends_pure.1 h
      exact hguard
    split at h
    · obtain ⟨-, rfl⟩ := ends_pure.1 h
      exact hguard
    obtain ⟨_, t, haccept, hend⟩ := ends_bind.1 h
    have hguard₁ := acceptConnect_guarded hguard (fun _ => hstate) haccept
    obtain ⟨_, honly, -⟩ := ends_bind_return.1 hend
    have hsilent : ∀ status : Status, Within Silent
      (Prog.only status.success (setConnection fun c =>
        { c with authTries := c.authTries + 1 })) :=
      fun _ => .only (.update fun _ => ⟨rfl, rfl, .inl rfl, [], by simp, by simp⟩)
    exact hguard₁.silent (hsilent _ _ _ _ honly)
  · rw [authAccept_idle hstate h]
    exact hguard

/-- A call that is only for one state past the connect request. -/
theorem guarded_of_idle {m : Srv Status} (hpast : state.pastConnect) (hext : Within Extends m)
    (hidle : ∀ s a s', s.connection.state ≠ state → Ends m s a s' → s' = s) :
    Within (Stays Guarded) m := by
  intro s a s' h hguard
  by_cases hstate : s.connection.state = state
  · exact hguard.extends (hstate ▸ hpast) (hext _ _ _ h)
  · rw [hidle s a s' hstate h]
    exact hguard

theorem callFunction_guarded {cfg : Config} {c : Call} :
    Within (Stays Guarded) (callFunction cfg c) := by
  cases c with
  | bulkGetResponse buffers rspStatus =>
      exact guarded_of_idle (by decide) bulkGetResponse_permitted
        fun _ _ _ hst h => (bulkGetResponse_idle hst h).1
  | getResponse rspHeaders rspStatus =>
      exact guarded_of_idle (by decide) getResponse_permitted
        fun _ _ _ => getResponse_idle
  | putResponse rspHeaders rspStatus =>
      exact guarded_of_idle (by decide) putResponse_permitted
        fun _ _ _ => putResponse_idle
  | actionResponse rspStatus optHeaders =>
      exact guarded_of_idle (by decide) actionResponse_permitted
        fun _ _ _ => actionResponse_idle
  | confirmSetpath status optHeaders =>
      exact guarded_of_idle (by decide) confirmSetpath_permitted
        fun _ _ _ => confirmSetpath_idle
  | acceptConnect accept status optHeaders =>
      exact acceptConnectCall_guarded
  | authenticationResponse userId userIdLen password readOnly =>
      exact authenticationResponse_guarded
  | authAccept realm accept => exact authAccept_guarded
  | abortResponse rspHeaders rspStatus =>
      exact abortResponse_permitted
  | forceDisconnect => exact forceDisconnect_permitted

theorem call_guarded (cfg : Config) (c : Call) : Within (Stays Guarded) (call cfg c) :=
  Within.view.seq <| (note_idles rfl).seq <|
    callFunction_guarded.seq <| note_idles rfl

theorem calls_guarded (cfg : Config) (cs : List Call) : Within (Stays Guarded) (calls cfg cs) :=
  .perform (call_guarded cfg) cs

/-- A callback that passes no request. -/
theorem indicate_guarded (cfg : Config) {ind : Indication} (hreq : ind.isRequest = false) :
    Within (Stays Guarded) (indicate cfg ind) := by
  have hrecord : ∀ status, Within (Stays Guarded) (record (.indicated ind status)) := by
    refine fun _ => silent_guarded (.update fun _ =>
      ⟨rfl, rfl, .inl rfl, _, rfl, fun ind' status hmem => ?_⟩)
    cases mem_singleton.1 hmem
    exact hreq
  exact currentTarget_sends.seq <|
    .ite
      (Within.view.seq <|
        .seq (update_idles fun _ => ⟨rfl, rfl, rfl, rfl⟩) <|
          (hrecord _).seq <| (calls_guarded cfg _).seq .pure)
      .fault

theorem indicate_ignored_guarded (cfg : Config) {ind : Indication}
    (hreq : ind.isRequest = false) :
    Within (Stays Guarded) (do let _ ← indicate cfg ind) :=
  (indicate_guarded cfg hreq).seq .pure

/-! ## Events -/

/-- What only extends the session needs a look only before the connection is accepted. -/
theorem guarded_of_extends {α : Type} {m : Srv α} (hext : Within Extends m)
    (hbefore : ∀ s a s', s.connection.state.pastConnect = false → Guarded s →
      Ends m s a s' → Guarded s') : Within (Stays Guarded) m := by
  intro s a s' h hguard
  cases hpast : s.connection.state.pastConnect with
  | true => exact hguard.extends hpast (hext _ _ _ h)
  | false => exact hbefore s a s' hpast hguard h

/-- No operation runs before the connection is accepted. -/
theorem endOperation_before {reason : Status} (hpast : state.pastConnect = false) :
    endOperation cfg state reason = pure () := by
  cases state <;> first | rfl | cases hpast

theorem serverDisconnect_guarded {cfg : Config} {reason : Status} :
    Within (Stays Guarded) (serverDisconnect cfg reason) := by
  refine guarded_of_extends (serverDisconnect_permitted _) fun s a s' hpast hguard h => ?_
  replace h := ends_bind_view.1 h
  rw [endOperation_before hpast] at h
  have hdisconnect : Within (Stays Guarded) (do
      setConnection fun c => { c with connectIndicated := false }
      let _ ← indicate cfg .disconnectInd) :=
    .seq (setConnection_step fun _ => rfl) <| indicate_ignored_guarded cfg rfl
  have hend : Within (Stays Guarded) (do
      setAuthentication none
      let c ← connection
      Prog.only c.connectIndicated (do
        setConnection fun c => { c with connectIndicated := false }
        let _ ← indicate cfg .disconnectInd)
      freeConnection) :=
    setAuthentication_sends.seq <| Within.view.seq <|
      (Within.only hdisconnect).seq <| freeConnection_permitted
  replace h := ends_bind_pure.1 (ends_bind_update.1 (ends_bind_update.1 h))
  have hne : ConnectionState.disconnected ≠ .obexConnecting := by decide
  refine hend _ _ _ h (hguard.silent ?_)
  exact ⟨rfl, rfl, .inr ⟨rfl, hne⟩, [], (append_nil _).symm,
    fun _ _ hmem => absurd hmem not_mem_nil⟩

theorem dropLowerConnection_guarded {cfg : Config} :
    Within (Stays Guarded) (dropLowerConnection cfg) :=
  (silent_guarded (setState_silent (by decide) (by decide))).seq <|
    disconnect_step.seq <| .only serverDisconnect_guarded

theorem lowerConnectCfm_silent {recvMtu sendMtu : Nat} {l2cap : Bool} :
    Within Silent (lowerConnectCfm recvMtu sendMtu l2cap result) :=
  .ite
    (Within.view.seq <| (answers_silent setCommon_answers).seq <|
      (setState_silent (by decide) (by decide)).seq <| takeBlock_sends.seq <|
        setConnection_step fun _ => rfl)
    freeConnection_permitted

theorem abortCleanup_guarded {cfg : Config} : Within (Stays Guarded) (abortCleanup cfg) := by
  refine guarded_of_extends (abortCleanup_permitted cfg) fun s a s' hpast hguard h => ?_
  replace h := ends_bind_view.1 h
  -- every branch of the switch but the last one is for a state past the connect request
  split at h
  all_goals first
    | next hst => rw [hst] at hpast; cases hpast
    | exact (ends_pure.1 h).2 ▸ hguard

theorem abortOperation_guarded {cfg : Config} : Within (Stays Guarded) (abortOperation cfg) :=
  abortCleanup_guarded.seq answerAbort_permitted

theorem handleAbortCommand_guarded {cfg : Config} :
    Within (Stays Guarded) (handleAbortCommand cfg rcvPacket) := by
  have hclear : Within (Stays Guarded) clearAbortMbuf :=
    disown_step.seq <| setConnection_step fun _ => rfl
  refine hclear.seq <| Within.view.bind fun c => ?_
  split
  · exact .pure
  · refine .ite ?_ abortOperation_guarded
    exact parseRequest_sends.bind fun ⟨_, _⟩ => .ite
      (Within.seq (setConnection_step fun _ => rfl) <| indicate_ignored_guarded cfg rfl)
      errorResponse_sends

theorem reIndicateConnect_guarded {cfg : Config} :
    Within (Stays Guarded) (reIndicateConnect cfg) :=
  Within.view.seq <| .ite .fault
    (.seq (setConnection_step fun _ => rfl) <| indicate_ignored_guarded cfg rfl)

theorem dispatchedAbortCommand_guarded {cfg : Config} :
    Within (Stays Guarded) (dispatchedAbortCommand cfg) :=
  Within.view.seq <| Within.only
    (.seq (setConnection_step fun _ => rfl) abortOperation_guarded)

theorem dispatchTask_guarded {cfg : Config} {index : Nat} :
    Within (Stays Guarded) (dispatchTask cfg index) := by
  refine .bind .view fun s =>
    .bind (update_idles fun _ => ⟨rfl, rfl, rfl, rfl⟩) fun _ => ?_
  split
  · exact .pure
  · exact reIndicateConnect_guarded
  · exact dispatchedAbortCommand_guarded

/-- Before the connection is accepted, a write confirmation can only complete a
disconnect. -/
theorem operationSent_guarded {cfg : Config} {sent : Sent} {queueFull : Bool} :
    Within (Stays Guarded) (operationSent cfg sent queueFull result) := by
  refine guarded_of_extends (operationSent_permitted _)
    fun s a s' hpast hguard h => ?_
  replace h := ends_bind_view.1 (ends_bind_view.1 h)
  split at h
  all_goals first
    | next hst => rw [hst] at hpast; cases hpast
    | exact dropLowerConnection_guarded _ _ _ h hguard
    | exact (ends_pure.1 h).2 ▸ hguard

theorem lowerWriteCfm_guarded {cfg : Config} {queueFull : Bool} :
    Within (Stays Guarded) (lowerWriteCfm cfg queueFull result) := by
  refine takeInFlight_permitted.bind fun sent => ?_
  split
  · exact .pure
  · exact clearSlot_permitted.seq <|
      (Within.only (disconnect_step.seq .pure)).seq <|
        operationSent_guarded

/-! ## The connect request -/

/-- A session that is neither past the connect request nor in it. -/
theorem Guarded.of_requests (hpast : s.connection.state.pastConnect = false)
    (hconn : s.connection.state ≠ .obexConnecting) (h : RequestsAuthorized s.history) :
    Guarded s where
  past hp := by rw [hpast] at hp; cases hp
  connecting hc := absurd hc hconn
  requests := h

/-- What the preparation of a connect request leaves alone. -/
def Session.standing (s : Session) : ConnectionState × Option TargetInfo × List Act :=
  (s.connection.state, s.connection.currentTarget, s.history)

theorem Answers.standing (h : Answers s s') : Same Session.standing s s' := by
  rw [h.rest]
  rfl

/-- The challenge of the client is saved in the channel, and that there is one in the
connection. -/
theorem connectChallenge_same {τ : Type} {g : Session → τ}
    (hanswers : ∀ s s', Answers s s' → Same g s s')
    (hrequested : ∀ (s : Session) (b : Bool),
      Same g s { s with connection := { s.connection with authRequested := b } })
    (request : Request) : Within (Same g) (connectChallenge request) := by
  have hset : ∀ b, Within (Same g) (setConnection fun c => { c with authRequested := b }) :=
    fun b => .update fun s => hrequested s b
  unfold connectChallenge
  split
  · exact (needAuthentication_answers.mono hanswers).seq <| .ite .pure
      ((authentication_answers.mono hanswers).seq <| .bind .lift
        fun ⟨_, _, _⟩ => (setAuthentication_answers.mono hanswers).seq <|
          (setCommon_answers.mono hanswers).seq <| (hset true).seq .pure)
  · exact (hset false).seq .pure

theorem connectChallenge_standing : Within (Same Session.standing) (connectChallenge request) :=
  connectChallenge_same (fun _ _ => Answers.standing) (fun _ _ => rfl) request

/-- The part of `connectAuthentication` after the connection was marked unauthorized. -/
theorem authentication_required_answers {target : TargetInfo} :
    Within Answers (do
      let room ← needAuthentication
      if !room then return (Status.noResources, false)
      else
        let auth ← authentication
        Prog.only (target.authRequired = .useridAndPassword)
          (setAuthentication (some { auth with userIdRequired := true }))
        let c ← Srv.connection
        if c.authTries ≥ maxAuthenticationAttempts then
          resetAuthentication
          return (Status.obexAccessDenied, false)
        else connectResponse request) :=
  needAuthentication_answers.seq <| .ite .pure
    (authentication_answers.seq <|
      (Within.only setAuthentication_answers).seq <| connection_answers.seq <|
        .ite (resetAuthentication_answers.seq .pure) connectResponse_answers)

/-- A target that requires authentication leaves the connection unauthorized. -/
theorem connectAuthentication_unauthorized {result : Status × Bool}
    (h : Ends (connectAuthentication target request) s result s') :
    Same Session.standing s s' ∧
      (target.authRequired ≠ .none → s'.connection.unauthorized = true) := by
  by_cases hauth : target.authRequired ≠ .none
  · unfold connectAuthentication at h
    rw [if_pos hauth] at h
    obtain ⟨_, t, hcommon, hrest⟩ := ends_bind.1 h
    replace hrest := ends_bind_update.1 hrest
    have hanswers := authentication_required_answers _ _ _ hrest
    have hstanding := (setCommon_answers _ _ _ hcommon).standing
    refine ⟨hanswers.standing.trans hstanding, fun _ => ?_⟩
    rw [hanswers.connection_eq]
  · unfold connectAuthentication at h
    rw [if_neg hauth] at h
    obtain ⟨_, t, hcommon, hrest⟩ := ends_bind.1 h
    replace hrest := ends_bind_update.1 hrest
    obtain ⟨-, rfl⟩ := ends_pure.1 hrest
    exact ⟨(setCommon_answers _ _ _ hcommon).standing, fun hreq => absurd hreq hauth⟩

theorem indicateConnect_guarded {cfg : Config} :
    Within (Stays Guarded) (indicateConnect cfg) := by
  have htries : Within Silent (setConnection fun c => { c with authTries := c.authTries + 1 }) :=
    .update fun _ => ⟨rfl, rfl, .inl rfl, [], by simp, by simp⟩
  exact (silent_guarded htries).seq <| .seq (setConnection_step fun _ => rfl) <|
    Within.view.seq <| Within.view.seq <| indicate_ignored_guarded cfg rfl

/-- The connection enters state `OBEX_CONNECTING` for a target, unauthorized if the
target requires authentication. -/
theorem connecting_guarded {havePassword : Bool} (hreq : RequestsAuthorized s.history)
    (htarget : s.connection.currentTarget = some target)
    (hun : target.authRequired ≠ .none → s.connection.unauthorized = true)
    (h : Ends (connecting cfg havePassword) s status s') : Guarded s' := by
  have hguard : Guarded { s with connection := { s.connection with
    state := .obexConnecting } } := by
    refine ⟨nofun, fun _ => ⟨target, htarget, fun hfalse hauth => ?_⟩, hreq⟩
    exact absurd ((hun hauth).symm.trans hfalse) nofun
  replace h := ends_bind_view.1 (ends_bind_update.1 h)
  split at h
  · obtain ⟨info, t, hcurrent, h⟩ := ends_bind.1 h
    have hguard₁ := hguard.silent (currentTarget_answers _ _ _ hcurrent).silent
    split at h
    · exact (indicate_guarded cfg rfl).bind (f := fun _ => pure Status.ok)
        (fun _ => .pure) _ _ _ h hguard₁
    · exact acceptConnectCall_guarded _ _ _ h hguard₁
  · exact indicateConnect_guarded.bind (f := fun _ => pure Status.ok)
      (fun _ => .pure) _ _ _ h hguard

theorem connectHeadersParsed_guarded (hstate : s.connection.state = .lowerLayerConnected)
    (hguard : Guarded s) (h : Ends (connectHeadersParsed cfg request) s status s') :
    Guarded s' := by
  replace h := ends_bind_view.1 h
  dsimp only at h
  split at h
  · exact (ends_pure.1 h).2 ▸ hguard
  · next info _ =>
      replace h := ends_bind_update.1 h
      replace h := ends_bind_update.1 h
      obtain ⟨challenged, s₁, hchallenge, h⟩ := ends_bind.1 h
      obtain ⟨hst₁, htarget₁, hhist₁⟩ : s₁.connection.state = s.connection.state ∧
          s₁.connection.currentTarget = some info ∧ s₁.history = s.history := by
        have hsame := connectChallenge_standing _ _ _ hchallenge
        exact ⟨congrArg (·.1) hsame, congrArg (·.2.1) hsame, congrArg (·.2.2) hsame⟩
      have hreq₁ : RequestsAuthorized s₁.history := hhist₁ ▸ hguard.requests
      split at h
      · obtain ⟨-, rfl⟩ := ends_pure.1 h
        exact .of_requests (by rw [hst₁, hstate]; rfl) (by rw [hst₁, hstate]; decide) hreq₁
      obtain ⟨⟨authenticated, havePassword⟩, s₂, hauth, h⟩ := ends_bind.1 h
      obtain ⟨hsame, hun⟩ := connectAuthentication_unauthorized hauth
      have hst₂ : s₂.connection.state = s₁.connection.state := congrArg (·.1) hsame
      have htarget₂ : s₂.connection.currentTarget = s₁.connection.currentTarget :=
        congrArg (·.2.1) hsame
      have hreq₂ : RequestsAuthorized s₂.history :=
        (show s₂.history = s₁.history from congrArg (·.2.2) hsame) ▸ hreq₁
      dsimp only at h
      split at h
      · obtain ⟨-, rfl⟩ := ends_pure.1 h
        exact .of_requests (by rw [hst₂, hst₁, hstate]; rfl)
          (by rw [hst₂, hst₁, hstate]; decide) hreq₂
      · exact connecting_guarded hreq₂ (htarget₂.trans htarget₁) hun h

theorem connectCommandBody_guarded (hguard : Guarded s)
    (h : Ends (connectCommandBody cfg rcvPacket) s status s') : Guarded s' := by
  replace h := ends_bind_view.1 h
  split at h
  · exact (ends_pure.1 h).2 ▸ hguard
  next hstate =>
  obtain ⟨⟨parameters, packet⟩, s₀, hlift, hrest⟩ := ends_bind.1 h
  obtain rfl : s₀ = s := (ends_lift.1 hlift).2
  dsimp only at hrest
  split at hrest
  · exact (ends_pure.1 hrest).2 ▸ hguard
  obtain ⟨_, s₁, hcommon, hlimit⟩ := ends_bind.1 hrest
  have hanswers₁ := setCommon_answers _ _ _ hcommon
  replace hlimit := ends_bind_view.1 hlimit
  split at hlimit
  · exact (ends_pure.1 hlimit).2 ▸ hguard.silent hanswers₁.silent
  obtain ⟨⟨parsed, request⟩, s₂, hparse, hheaders⟩ := ends_bind.1 hlimit
  have hanswers : Answers s₀ s₂ :=
    trans_of _ hanswers₁ (parseRequest_answers _ _ _ hparse)
  dsimp only at hheaders
  split at hheaders
  · exact (ends_pure.1 hheaders).2 ▸ hguard.silent hanswers.silent
  · refine connectHeadersParsed_guarded ?_ (hguard.silent hanswers.silent) hheaders
    rw [hanswers.connection_eq]
    exact Classical.not_not.1 hstate

theorem connectCommand_guarded {cfg : Config} :
    Within (Stays Guarded) (connectCommand cfg rcvPacket) := by
  intro s a s' h hguard
  obtain ⟨status, t, hbody, hend⟩ := ends_bind.1 h
  have hguard₁ := connectCommandBody_guarded hguard hbody
  obtain ⟨-, hend⟩ | ⟨-, rfl⟩ := ends_only.1 hend
  · obtain ⟨_, t₁, haccept, hauth⟩ := ends_bind.1 hend
    have hguard₂ := acceptConnect_guarded hguard₁ (fun hacc => by cases hacc) haccept
    exact hguard₂.silent (setAuthentication_answers _ _ _ hauth).silent
  · exact hguard₁

/-! ## Runs -/

theorem dispatchCommand_guarded {cmdCode : UInt8} (hguard : Guarded s)
    (hget : s.connection.state.pastConnect = false → obexFinal cmdCode ≠ obexFinal cmdGet)
    (h : Ends (dispatchCommand cfg cmdCode rcvPacket) s () s') : Guarded s' := by
  unfold dispatchCommand at h
  split at h
  · exact connectCommand_guarded _ _ _ h hguard
  split at h
  · exact sendSimple_sends.bind
      (fun _ => .ite (silent_guarded (setState_silent (by decide) (by decide)))
        dropLowerConnection_guarded) _ _ _ h hguard
  cases hpast : s.connection.state.pastConnect with
  | true =>
      have hext : Within Extends (do
          if obexFinal cmdCode = obexFinal cmdPut then
            putCommand cfg rcvPacket (obexIsFinal cmdCode)
          else if obexFinal cmdCode = obexFinal cmdGet then
            getCommand cfg rcvPacket (obexIsFinal cmdCode)
          else if obexFinal cmdCode = obexFinal cmdSetPath then setPathCommand cfg rcvPacket
          else if obexFinal cmdCode = obexFinal cmdAction then actionCommand cfg rcvPacket
          else if obexFinal cmdCode = obexFinal cmdSession then sessionCommand cfg rcvPacket
          else if obexFinal cmdCode = obexFinal cmdAbort then handleAbortCommand cfg rcvPacket
          else errorResponse .obexBadRequest) :=
        .ite (putCommand_permitted _) (.ite (getCommand_permitted _)
          (.ite (setPathCommand_permitted _) (.ite (actionCommand_permitted _)
            (.ite (sessionCommand_permitted _) (.ite (handleAbortCommand_permitted _)
              errorResponse_sends)))))
      exact hguard.extends hpast (hext _ _ _ h)
  | false =>
      have hstate : ∀ st : ConnectionState, st.pastConnect → s.connection.state ≠ st := by
        intro st hst heq
        rw [← heq, hpast] at hst
        cases hst
      split at h
      · refine hguard.silent (Answers.silent (putCommand_refused ?_ h))
        rintro (hc | hc | hc)
        · exact hstate _ (by decide) hc
        · exact hstate _ (by decide) hc
        · exact hstate _ (by decide) hc
      split at h
      · next hc => exact absurd hc (hget hpast)
      have herror : ∀ status, Ends (errorResponse status) s () s' → Guarded s' :=
        fun status hend => hguard.silent (errorResponse_answers _ _ _ hend).silent
      split at h
      · exact herror _ (setPathCommand_refused (hstate _ (by decide)) (hstate _ (by decide)) h)
      split at h
      · exact herror _ (actionCommand_refused (hstate _ (by decide)) h)
      split at h
      · exact herror _ (sessionCommand_refused (hstate _ (by decide)) h)
      split at h
      · exact handleAbortCommand_guarded _ _ _ h hguard
      · exact herror _ h

/-- Only the two states of a disconnect are neither before nor past the connect request. -/
theorem ConnectionState.disconnecting_of_not_past (hpast : state.pastConnect = false)
    (hbefore : state.beforeConnect = false) :
    state = .obexDisconnecting ∨ state = .obexDisconnectCompleting := by
  revert hpast hbefore
  cases state <;> decide

theorem lowerRecvDataInd_guarded {dataBuf : List UInt8} {addr : Nat} (hguard : Guarded s)
    (hget : isGet dataBuf → s.connection.state.beforeConnect = false)
    (h : Ends (lowerRecvDataInd cfg dataBuf addr) s () s') : Guarded s' := by
  replace h := ends_bind_view.1 h
  split at h
  · exact (ends_pure.1 h).2 ▸ hguard
  next hcompleting =>
  split at h
  · exact dropLowerConnection_guarded _ _ _ h hguard
  next hdisconnecting =>
  obtain ⟨⟨cmdCode, rcvPacket⟩, s₀, hopen, hdispatch⟩ := ends_bind.1 h
  obtain ⟨hpacket, rfl⟩ := ends_lift.1 hopen
  refine dispatchCommand_guarded hguard (fun hpast hcmd => ?_) hdispatch
  have hbefore := hget (by simp [isGet, openPacket_opcode hpacket, hcmd])
  rcases ConnectionState.disconnecting_of_not_past hpast hbefore with hst | hst
  · exact hdisconnecting hst
  · exact hcompleting hst

theorem handle_guarded {event : Event} (hguard : Guarded s)
    (hget : GetAfterConnect (.event event ⟨s.connection, s.channel⟩))
    (h : Ends (handle cfg event) s () s') : Guarded s' := by
  replace h := ends_bind_view.1 h
  cases event with
  | lowerConnectCfm recvMtu sendMtu l2cap result =>
      exact silent_guarded (.only lowerConnectCfm_silent)
        _ _ _ h hguard
  | lowerDisconnectInd reason =>
      have hind : Within (Stays Guarded) (lowerDisconnectInd cfg reason) :=
        Within.view.seq serverDisconnect_guarded
      exact Within.only hind _ _ _ h hguard
  | lowerWriteCfm queueFull result =>
      exact Within.only lowerWriteCfm_guarded _ _ _ h hguard
  | lowerRecvDataInd dataBuf addr =>
      obtain ⟨-, h⟩ | ⟨-, rfl⟩ := ends_only.1 h
      · exact lowerRecvDataInd_guarded hguard hget h
      · exact hguard
  | connectTimeout =>
      exact (.only connectTimeout_permitted : Within (Stays Guarded) _) _ _ _ h hguard
  | dispatch index => exact dispatchTask_guarded _ _ _ h hguard
  | call c => exact call_guarded cfg c _ _ _ h hguard

/-- While the history holds no get request out of turn, the session is guarded. -/
theorem step_guarded (cfg : Config) (event : Event) :
    Within (Stays fun s => (∀ act ∈ s.history, GetAfterConnect act) → Guarded s)
      (step cfg event) := by
  rintro s ⟨⟩ s' h hguard hget
  have hgrows := step_grows cfg event _ _ _ h
  replace h := ends_bind_view.1 h
  replace h := ends_bind_update.1 h
  have hgrows₁ := handle_grows cfg event _ _ _ h
  have hguard₁ := hguard fun act hmem => hget act (hgrows.subset hmem)
  have hevent : GetAfterConnect (.event event ⟨s.connection, s.channel⟩) :=
    hget _ (hgrows₁.subset (mem_append_right _ mem_cons_self))
  refine handle_guarded (hguard₁.silent ?_) ?_ h
  · refine ⟨rfl, rfl, .inl rfl, [.event event ⟨s.connection, s.channel⟩], rfl, ?_⟩
    intro ind status hmem
    cases mem_singleton.1 hmem
  · exact hevent

theorem accepted_guarded (cfg : Config) (server : ObexServer) (env : Surroundings) :
    Guarded (accepted cfg server env) := by
  refine .of_requests (show ConnectionState.pastConnect .lowerLayerConnecting = false by decide)
    (show ConnectionState.lowerLayerConnecting ≠ .obexConnecting by decide) ?_
  intro before ind status after hsplit
  cases before <;> cases hsplit

/-- In every run in which no get request is received before a connect request was
accepted, the connection is open, and passes requests to the application, only after it
was authorized. -/
theorem requests_after_authorization (cfg : Config) (server : ObexServer) (env : Surroundings)
    (events : List Event) (s' : Session)
    (h : Ends (run cfg events) (accepted cfg server env) () s')
    (hget : ∀ act ∈ s'.history, GetAfterConnect act) : Gate s' :=
  (Within.perform (step_guarded cfg) events _ _ _ h
    (fun _ => accepted_guarded cfg server env) hget).gate

theorem requests_after_authorization_put :
    ∃ s', Ends (run sampleConfig connectThenPut)
        (accepted sampleConfig (sampleServer .none false false) (friendly [])) () s' ∧
      (∀ act ∈ s'.history, GetAfterConnect act) ∧ s'.connection.state = .putInProgress ∧
      Gate s' := by
  have hreach : reaches (run sampleConfig connectThenPut)
      (accepted sampleConfig (sampleServer .none false false) (friendly []))
      (fun s' => decide (∀ act ∈ s'.history, GetAfterConnect act) &&
        decide (s'.connection.state = .putInProgress)) = true := by
    decide +kernel
  obtain ⟨s', hends, hcheck⟩ := reaches_iff.1 hreach
  obtain ⟨hget, hstate⟩ := Bool.and_eq_true_iff.1 hcheck
  have hget := of_decide_eq_true hget
  exact ⟨s', hends, hget, of_decide_eq_true hstate,
    requests_after_authorization _ _ _ _ _ hends hget⟩

/-- The first connect request is answered with a challenge. Instead of an authenticated
one, a get request follows, and then a put request. -/
def getThenPut : List Event :=
  [.lowerConnectCfm 1000 1000 true .ok, .lowerRecvDataInd [0x80, 0, 7, 0x10, 0, 4, 0] 0,
    .call (.acceptConnect true .ok none), .lowerWriteCfm false .ok,
    .lowerRecvDataInd [0x83, 0, 3] 0, .lowerRecvDataInd [0x82, 0, 3] 0]

theorem get_opens_gate :
    ¬ ∀ (cfg : Config) (server : ObexServer) (env : Surroundings) (events : List Event)
      (s' : Session), Ends (run cfg events) (accepted cfg server env) () s' → Gate s' := by
  intro hall
  have hreach : reaches (run sampleConfig getThenPut)
      (accepted sampleConfig (sampleServer .password false false) (friendly []))
      (fun s' => s'.connection.state.isOpen &&
        s'.history.all fun act => match act with
          | .accepted _ => false
          | _ => true) = true := by
    decide +kernel
  obtain ⟨s', hends, hcheck⟩ := reaches_iff.1 hreach
  obtain ⟨hopen, hnone⟩ := Bool.and_eq_true_iff.1 hcheck
  obtain ⟨target, -, before, after, hhist, -⟩ := (hall _ _ _ _ _ hends).state hopen
  have haccepted := all_eq_true.1 hnone (.accepted target) (by simp [hhist])
  cases haccepted

end Obex.Server
