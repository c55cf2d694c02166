import BtPlatform.Obex.Client.Events
import BtPlatform.Obex.Srm
import BtPlatform.Program.Log

/-!
# Single response mode by agreement

Single response mode may be on only if a response to the operation said so. What the
responses said is read off the history; a response that ends a wait is where the code turns
the mode on without a look at what was agreed.
-/

namespace Obex.Client

open Support Program Linked Prog Cli List

/-! ## What was agreed -/

/-- The first header of the list with an identifier. -/
def header (headers : ParsedList) (headerId : UInt8) : Option ParsedHeader :=
  (headers.list.getD []).find? fun header => header.id == headerId

/-- The response carries a single response mode header with the value `ENABLED`. -/
def carriesSrm (headers : ParsedList) : Bool :=
  (headers.list.getD []).any fun header =>
    header.id == hdrSingleResponseMode && headerByte header == srmEnabled

/-- What is agreed on in the current operation, after one more entry. -/
def agree (agreed : Bool) : Act → Bool
  | .started => false
  | .responded _ headers _ => agreed || carriesSrm headers
  | _ => agreed

/-- Some response to the current operation carried the header. -/
def agreed (history : List Act) : Bool := history.foldl agree false

/-- The state that an entry shows. -/
def Act.before? : Act → Option Snapshot
  | .event _ before | .called _ before | .indicated _ before | .responded _ _ before =>
      some before
  | _ => none

/-- Single response mode is on only by agreement. -/
def ByAgreement (history : List Act) (act : Act) : Prop :=
  ∀ before, act.before? = some before → before.channel.srm.enabled = true → agreed history = true

/-- The response ends a wait if there is one: it carries no parameter, or it is a later
response with a parameter other than to wait. -/
def endsWait (headers : ParsedList) (common : Common) : Bool :=
  match header headers hdrSingleResponseParameters with
  | none => true
  | some param =>
      (header headers hdrSingleResponseMode).isNone && headerByte param == srmParamRsvp &&
        common.srmpValid

/-- A wait that a response ends was agreed on in the same operation. -/
def WaitIsOwn (history : List Act) : Act → Prop
  | .responded _ headers before =>
      endsWait headers before.channel.common = true →
        before.channel.common.srmpWaitReceived = true →
          agreed history = true ∨ carriesSrm headers = true
  | _ => True

theorem agreed_append_singleton (history : List Act) (act : Act) :
    agreed (history ++ [act]) = agree (agreed history) act := by
  unfold agreed
  rw [foldl_append]
  rfl

/-! ## The invariant -/

/-- Single response mode is on only by agreement, now and at every entry. -/
structure InAgreement (s : Session) : Prop where
  now : s.channel.srm.enabled = true → agreed s.history = true
  before : AtEach ByAgreement s.history

/-- The history goes on, and the agreement is kept if the waits are its own. -/
structure Keeps (s s' : Session) : Prop where
  extends' : ∃ more, s'.history = s.history ++ more
  kept : AtEach WaitIsOwn s'.history → InAgreement s → InAgreement s'

instance : IsPreorder Session Keeps where
  refl _ := ⟨⟨[], (append_nil _).symm⟩, fun _ h => h⟩
  trans s t u h₁ h₂ := by
    obtain ⟨more₁, hmore₁⟩ := h₁.extends'
    obtain ⟨more₂, hmore₂⟩ := h₂.extends'
    refine ⟨⟨more₁ ++ more₂, ?_⟩, fun hwaits h => ?_⟩
    · rw [hmore₂, hmore₁, append_assoc]
    · refine h₂.kept hwaits (h₁.kept ?_ h)
      rw [hmore₂] at hwaits
      exact hwaits.of_append

variable {state : ConnectionState} {status : Status} {cmdHeaders : Option (List Header)}
variable {final : Bool} {buffers : List Buffer} {cfg : Config} {realm : Option Realm}
variable {rcvPacket : ByteStream}

section Rules

variable {α : Type} {s s' : Session}

theorem Keeps.of_same (hhistory : s'.history = s.history) (hsrm : s'.channel.srm = s.channel.srm) :
    Keeps s s' where
  extends' := ⟨[], hhistory.trans (append_nil _).symm⟩
  kept _ h := by
    refine ⟨?_, ?_⟩
    · rw [hhistory, hsrm]
      exact h.now
    · rw [hhistory]
      exact h.before

/-- An entry is added that changes nothing of what was agreed, and shows the state. -/
theorem Keeps.of_record {act : Act} (hhistory : s'.history = s.history ++ [act])
    (hsrm : s'.channel.srm = s.channel.srm) (hagree : ∀ b, agree b act = b)
    (hbefore : ∀ before, act.before? = some before → before.channel = s.channel) :
    Keeps s s' where
  extends' := ⟨[act], hhistory⟩
  kept _ h := by
    refine ⟨?_, ?_⟩
    · rw [hhistory, hsrm, agreed_append_singleton, hagree]
      exact h.now
    · rw [hhistory]
      refine h.before.append_singleton fun before hact => ?_
      rw [hbefore before hact]
      exact h.now

theorem ends_setCommon {f : Common → Common} {u : Unit} :
    Ends (Cli.setCommon f) s u s' ↔
      s' = { s with channel := { s.channel with common := f s.channel.common } } := by
  unfold Cli.setCommon onChannel OnChannel.setCommon
  refine ends_zoom.trans ⟨?_, ?_⟩
  · rintro ⟨ch, hch, rfl⟩
    obtain rfl := ends_update.1 hch
    rfl
  · rintro rfl
    exact ⟨_, ends_update.2 rfl, rfl⟩

theorem update_keeps {f : Session → Session} (hhistory : ∀ s, (f s).history = s.history)
    (hsrm : ∀ s, (f s).channel.srm = s.channel.srm) : Within Keeps (Prog.update f : Cli Unit) :=
  .update fun s => .of_same (hhistory s) (hsrm s)

theorem onChannel_keeps {m : OnChannel α} (h : Within (Same Channel.srm) m) :
    Within Keeps (onChannel m) :=
  .zoom h fun _ _ hsame => .of_same rfl hsame

theorem setConnection_keeps {f : Connection → Connection} : Within Keeps (setConnection f) :=
  update_keeps (fun _ => rfl) fun _ => rfl

theorem setState_keeps : Within Keeps (setState state) :=
  setConnection_keeps

theorem setAbortState_keeps {abort : AbortState} : Within Keeps (setAbortState abort) :=
  setConnection_keeps

theorem setBusy_keeps {busy : Bool} : Within Keeps (setBusy busy) := setConnection_keeps

theorem setCB_keeps {f : CB → CB} : Within Keeps (setCB f) := setConnection_keeps

theorem setWord_keeps {word : Word} : Within Keeps (setWord word) := setCB_keeps

theorem setCommon_keeps {f : Common → Common} (h : ∀ common, (f common).srm = common.srm) :
    Within Keeps (Cli.setCommon f) := onChannel_keeps (OnChannel.setCommon_composes h)

theorem setAuthentication_keeps {auth : Option Authentication} :
    Within Keeps (setAuthentication auth) := setCommon_keeps fun _ => rfl

theorem connection_keeps : Within Keeps connection := Within.view

theorem common_keeps : Within Keeps common := Within.view

theorem bulkPutStatus_keeps : Within Keeps bulkPutStatus := by
  refine connection_keeps.bind fun c => ?_
  split
  · exact .pure
  · exact .fault

theorem expectWord_keeps {word : Word} : Within Keeps (expectWord word) :=
  connection_keeps.seq <| .ite .pure .fault

theorem authentication_keeps : Within Keeps authentication := by
  refine common_keeps.bind fun c => ?_
  split
  · exact .pure
  · exact .fault

theorem register_keeps : Within Keeps (register status) :=
  (onChannel_keeps OnChannel.takeBlock_composes).seq <|
    .only (update_keeps (fun _ => rfl) fun _ => rfl)

theorem record_keeps {act : Act} (hagree : ∀ b, agree b act = b) (hbefore : act.before? = none) :
    Within Keeps (record act) :=
  .update fun _ => .of_record rfl rfl hagree fun before h => by
    rw [hbefore] at h
    cases h

/-- The entry shows the state in which it is made. -/
theorem observe_keeps {act : Snapshot → Act} {k : Session → Cli α}
    (hagree : ∀ before b, agree b (act before) = b)
    (hbefore : ∀ before, (act before).before? = some before) (hk : ∀ s, Within Keeps (k s)) :
    Within Keeps (do
      let s ← Prog.view id
      record (act ⟨s.connection, s.channel⟩)
      k s) := by
  intro s a s' h
  replace h : Ends (record (act ⟨s.connection, s.channel⟩) >>= fun _ => k s) s a s' := h
  obtain ⟨_, t, hrecord, h⟩ := ends_bind.1 h
  refine trans_of Keeps ?_ (hk s t a s' h)
  obtain rfl := ends_update.1 hrecord
  refine .of_record rfl rfl (hagree _) fun before hact => ?_
  obtain rfl := Option.some.inj ((hbefore _).symm.trans hact)
  rfl

end Rules

/-! ## Sending -/

theorem setCommandTimeout_keeps : Within Keeps setCommandTimeout :=
  connection_keeps.seq <|
    .only ((onChannel_keeps OnChannel.takeBlock_composes).seq setConnection_keeps)

theorem clientSendPacket_keeps : Within Keeps clientSendPacket :=
  (onChannel_keeps OnChannel.sendPacket_composes).seq <| common_keeps.seq <|
    (Within.only setCommandTimeout_keeps).seq .pure

theorem clientSendBodySegment_keeps : Within Keeps clientSendBodySegment :=
  (onChannel_keeps OnChannel.marshalBodySegment_composes).seq <|
    .ite clientSendPacket_keeps .pure

theorem sendHeaders_keeps {pkt : ByteStream} {headers cmdHeaders : List Header} :
    Within Keeps (sendHeaders pkt headers cmdHeaders) :=
  (onChannel_keeps (OnChannel.marshalPacket_composes _ _ _)).seq <|
    .ite clientSendPacket_keeps .pure

theorem initPacket_keeps {opcode : UInt8} :
    Within Keeps (onChannel (OnChannel.initPacket opcode)) :=
  onChannel_keeps OnChannel.initPacket_composes

theorem clientSendCommand_keeps {opcode : UInt8} {optHeaders : Option (List Header)} :
    Within Keeps (clientSendCommand opcode optHeaders) :=
  initPacket_keeps.seq <| connection_keeps.seq <|
    sendHeaders_keeps.seq <| setBusy_keeps.seq .pure

theorem dropLowerLayer_keeps : Within Keeps dropLowerLayer :=
  setAbortState_keeps.seq <| setConnection_keeps.seq <|
    (onChannel_keeps OnChannel.Arranges.disconnect).seq .pure

theorem sendAbort_keeps : Within Keeps sendAbort :=
  connection_keeps.seq <| .ite .pure (.ite .pure
    (setConnection_keeps.seq <| setState_keeps.seq <|
      setConnection_keeps.seq <| clientSendCommand_keeps.seq <|
        .ite (setBusy_keeps.seq setAbortState_keeps) dropLowerLayer_keeps))

/-! ## Bulk put -/

theorem canConfirmAllBulkPuts_keeps : Within Keeps canConfirmAllBulkPuts :=
  Within.view.seq .lift

theorem sendBulk_keeps : Within Keeps sendBulk :=
  connection_keeps.seq <| .ite .fault (.ite .pure
    ((onChannel_keeps OnChannel.sendBulk_transfers).seq <| setCB_keeps.seq <|
      setBusy_keeps.seq <| common_keeps.seq <|
        (Within.only setCommandTimeout_keeps).seq .pure))

theorem tailIsFinal_keeps : Within Keeps tailIsFinal :=
  connection_keeps.seq <| .ite
    ((onChannel_keeps OnChannel.deref_composes).seq .pure) .pure

theorem appendBulkData_keeps {head tail : Option Ptr} :
    Within Keeps (appendBulkData head tail) :=
  connection_keeps.seq <| .ite
    (tailIsFinal_keeps.seq <| .ite (.seq .fault setCB_keeps)
      ((onChannel_keeps OnChannel.setNext_arranges).seq setCB_keeps))
    (.ite (.seq .fault setCB_keeps)
      (setCB_keeps.seq setCB_keeps))

theorem setFinal_srm {p : Option Ptr} : Within (Same Channel.srm) (setFinal p final) :=
  OnChannel.deref_composes.seq OnChannel.setBlocks_arranges

theorem takeBuffers_keeps : Within Keeps (takeBuffers buffers final) :=
  (onChannel_keeps OnChannel.allocBulkData_arranges).seq <|
    .ite
      ((onChannel_keeps setFinal_srm).seq <| appendBulkData_keeps.seq <|
        connection_keeps.seq <| .ite .pure sendBulk_keeps)
      .pure

theorem queueBuffers_keeps : Within Keeps (queueBuffers buffers final) :=
  connection_keeps.seq <| .ite .pure
    (tailIsFinal_keeps.seq <| .ite .pure (.ite .pure
      (takeBuffers_keeps.seq <|
        (Within.only dropLowerLayer_keeps).seq .pure)))

theorem abortBulkPut_keeps : Within Keeps (abortBulkPut status) :=
  setAbortState_keeps.seq <| setWord_keeps.seq <|
    canConfirmAllBulkPuts_keeps.seq <| .only sendAbort_keeps

theorem startBulkPut_keeps : Within Keeps (startBulkPut status) :=
  setState_keeps.seq setCB_keeps

theorem bulkPut_keeps : Within Keeps (bulkPut buffers status) :=
  Within.view.seq <| .ite .pure (.ite .pure (.ite .pure (.ite .pure
    ((Within.only startBulkPut_keeps).seq <|
      .ite (abortBulkPut_keeps.seq .pure) queueBuffers_keeps))))

/-! ## The start of an operation -/

/-- Nothing is agreed on yet, and the mode is off. -/
theorem startOperation_keeps : Within Keeps (startOperation state) := by
  intro s headers s' h
  obtain ⟨_, t₁, hrequested, h⟩ := ends_bind.1 h
  obtain ⟨_, t₂, hoff, h⟩ := ends_bind.1 h
  obtain ⟨_, t₃, hstate, h⟩ := ends_bind.1 h
  obtain ⟨_, t₄, hprogress, h⟩ := ends_bind.1 h
  obtain ⟨_, t₅, hstarted, h⟩ := ends_bind.1 h
  obtain ⟨-, rfl⟩ := ends_pure.1 (ends_bind_view.1 h)
  have hoff' : t₂.channel.srm.enabled = false ∧ t₂.history = s.history := by
    obtain rfl := ends_update.1 hrequested
    obtain rfl := ends_setCommon.1 hoff
    exact ⟨rfl, rfl⟩
  have hprogress' : t₄.channel.srm.enabled = false ∧ t₄.history = s.history := by
    obtain rfl := ends_update.1 hstate
    obtain rfl := ends_setCommon.1 hprogress
    exact hoff'
  obtain rfl := ends_update.1 hstarted
  have hhistory : t₄.history ++ [.started] = s.history ++ [.started] := by rw [hprogress'.2]
  refine ⟨⟨[.started], hhistory⟩, fun _ hs => ⟨fun hon => ?_, ?_⟩⟩
  · exact absurd (hprogress'.1.symm.trans hon) Bool.false_ne_true
  · show AtEach ByAgreement (t₄.history ++ [.started])
    rw [hhistory]
    refine hs.before.append_singleton fun before hact => ?_
    exact absurd hact (Option.some_ne_none before).symm

/-! ## The interface -/

theorem sendRequest_keeps {pkt : ByteStream} {headers cmdHeaders : List Header} :
    Within Keeps (sendRequest pkt headers cmdHeaders) :=
  sendHeaders_keeps.seq <| .ite (setBusy_keeps.seq .pure)
    (setState_keeps.seq .pure)

theorem requestPutSrm_keeps : Within Keeps requestPutSrm :=
  connection_keeps.seq <| common_keeps.seq <| .ite
    (setConnection_keeps.seq .pure) .pure

theorem sendPut_keeps {cmd : UInt8} {cmdHeaders : List Header} :
    Within Keeps (sendPut cmd cmdHeaders) :=
  initPacket_keeps.seq <| connection_keeps.seq <|
    (Within.branch startOperation_keeps .pure).seq <| requestPutSrm_keeps.seq <|
      sendRequest_keeps

theorem put_keeps : Within Keeps (put cmdHeaders status) := by
  refine Within.view.bind fun s => .ite .pure (.ite .pure (.ite .pure
    (setWord_keeps.seq <| .ite (sendAbort_keeps.seq .pure) ?_)))
  cases cmdHeaders with
  | none => exact .pure
  | some headers => exact sendPut_keeps

theorem requestGetSrm_keeps : Within Keeps (requestGetSrm final) := by
  refine connection_keeps.seq <| common_keeps.seq <| .ite
    (.seq (setCommon_keeps ?_) <| setConnection_keeps.seq .pure) .pure
  exact fun _ => rfl

theorem sendGet_keeps {cmdHeaders : List Header} : Within Keeps (sendGet final cmdHeaders) :=
  initPacket_keeps.seq <| connection_keeps.seq <|
    (Within.branch startOperation_keeps .pure).seq <|
      requestGetSrm_keeps.seq sendRequest_keeps

theorem get_keeps : Within Keeps (get cmdHeaders final) :=
  Within.view.seq <| .ite .pure (.ite .pure (.ite .pure
    (setWord_keeps.seq <| .ite (setCommandTimeout_keeps.seq .pure)
      sendGet_keeps)))

theorem abort_keeps {abortCfm : Option Nat} : Within Keeps (abort abortCfm) :=
  Within.view.seq <| .ite .pure (.ite .pure
    (.ite (setAbortState_keeps.seq <| setConnection_keeps.seq .pure)
      (sendAbort_keeps.seq <| setConnection_keeps.seq .pure)))

theorem disconnect_keeps : Within Keeps (disconnect cmdHeaders) :=
  Within.view.seq <| .ite .pure
    ((Within.branch clientSendCommand_keeps .pure).seq <|
      .ite (setBusy_keeps.seq <| setState_keeps.seq .pure)
        (dropLowerLayer_keeps.seq .pure))

theorem setPath_keeps {folder : Option (List UInt16)} {dontCreate upLevel : Bool} :
    Within Keeps (setPath folder dontCreate upLevel cmdHeaders) :=
  Within.view.seq <| .ite .pure
    (setWord_keeps.seq <| initPacket_keeps.seq <| Within.lift.seq <|
      Within.lift.seq <| setState_keeps.seq sendRequest_keeps)

theorem doAction_keeps {actionId : UInt8} {objectName : List UInt16} {actionHdrs : List Header} :
    Within Keeps (doAction actionId objectName actionHdrs) :=
  Within.view.seq <| .ite .pure
    (setWord_keeps.seq <| initPacket_keeps.seq <|
      setState_keeps.seq sendRequest_keeps)

theorem sendChallenge_keeps : Within Keeps (sendChallenge cfg realm) := by
  refine common_keeps.seq <| authentication_keeps.seq <| Within.view.seq <|
    Within.bind (update_keeps ?_ ?_) fun _ => ?_
  · exact fun _ => rfl
  · exact fun _ => rfl
  · split
    exact setAuthentication_keeps.seq .pure

theorem authHeaders_keeps : Within Keeps (authHeaders cfg realm) :=
  connection_keeps.seq <|
    (Within.branch (sendChallenge_keeps.seq .pure) .pure).seq <|
      common_keeps.seq <|
        (Within.branch (authentication_keeps.seq .pure) .pure).seq .pure

theorem sendConnectRequest_keeps : Within Keeps (sendConnectRequest cfg realm) :=
  connection_keeps.seq <| .ite .fault
    (initPacket_keeps.seq <| common_keeps.seq <| Within.lift.seq <|
      Within.lift.seq <| Within.lift.seq <| authHeaders_keeps.seq <|
        sendHeaders_keeps.seq <|
          (Within.only setBusy_keeps).seq .pure)

theorem resetAuthentication_keeps : Within Keeps resetAuthentication :=
  authentication_keeps.seq setAuthentication_keeps

theorem reissueConnect_keeps {userId : Option (List UInt8)} {userIdLen : Nat}
    {password : List UInt8} : Within Keeps (reissueConnect cfg userId userIdLen password realm) :=
  authentication_keeps.seq <| setAuthentication_keeps.seq <|
    .ite sendConnectRequest_keeps .pure

theorem authenticate_keeps {userId : Option (List UInt8)} {userIdLen : Nat}
    {password : Option (List UInt8)} :
    Within Keeps (authenticate cfg userId userIdLen password realm) := by
  refine Within.view.bind fun s => .ite .pure (.ite .pure (.ite .pure ?_))
  have hend : ∀ status : Status, Within Keeps (do
      if status.success then
        setBusy true
        return Status.ok
      else
        resetAuthentication
        register .obexClientAbortedCommand
        return status) := fun status =>
    .ite (setBusy_keeps.seq .pure)
      (resetAuthentication_keeps.seq <| register_keeps.seq .pure)
  cases password with
  | none => exact Within.pure.bind hend
  | some password => exact reissueConnect_keeps.bind hend

theorem callFunction_keeps {c : Call} : Within Keeps (callFunction cfg c) := by
  cases c with
  | bulkPut buffers status => exact bulkPut_keeps
  | put cmdHeaders status => exact put_keeps
  | get cmdHeaders final => exact get_keeps
  | authentication userId userIdLen password realm => exact authenticate_keeps
  | disconnect cmdHeaders => exact disconnect_keeps
  | abort abortCfm => exact abort_keeps
  | setPath folder dontCreate upLevel cmdHeaders => exact setPath_keeps
  | doAction actionId objectName actionHdrs => exact doAction_keeps

theorem call_keeps (cfg : Config) (c : Call) : Within Keeps (call cfg c) :=
  observe_keeps (fun _ _ => rfl) (fun _ => rfl) fun _ =>
    callFunction_keeps.seq <| record_keeps (fun _ => rfl) rfl

theorem calls_keeps (cfg : Config) (cs : List Call) : Within Keeps (calls cfg cs) :=
  .perform (call_keeps cfg) cs

theorem indicate_keeps {ind : Indication} : Within Keeps (indicate cfg ind) := by
  intro s a s' h
  replace h : Ends (record (.indicated ind ⟨s.connection, s.channel⟩) >>= fun _ =>
    calls cfg (s.replies.headD [])) { s with replies := s.replies.tail } a s' := h
  obtain ⟨_, t, hrecord, h⟩ := ends_bind.1 h
  refine trans_of Keeps ?_ (calls_keeps cfg _ t a s' h)
  obtain rfl := ends_update.1 hrecord
  refine .of_record rfl rfl (fun _ => rfl) fun before hact => ?_
  obtain rfl := Option.some.inj hact
  rfl

theorem indicateWord_keeps {word : Word} {ind : Indication} :
    Within Keeps (indicateWord cfg word ind) :=
  expectWord_keeps.seq indicate_keeps

/-! ## The headers of a response -/

section Headers

variable {headers : ParsedList} {α β : Type} {s s' : Session}

theorem findHeader_eq {headerId : UInt8} {found : Option ParsedHeader}
    (h : findHeader headers headerId = .ok found) : found = header headers headerId := by
  unfold findHeader at h
  unfold header
  cases hlist : headers.list with
  | none =>
      rw [hlist] at h
      dsimp only at h
      split at h
      · exact (Except.ok.inj h).symm
      · cases h
  | some list =>
      rw [hlist] at h
      exact (Except.ok.inj h).symm

/-- A header that is taken off the list does not hide one of another kind. -/
theorem header_deleteHeader {headerId other : UInt8} (hne : headerId ≠ other) :
    header (deleteHeader headers headerId) other = header headers other := by
  have hlist : ∀ list : List ParsedHeader,
      (list.eraseP fun header => header.id == headerId).find? (fun header => header.id == other) =
        list.find? fun header => header.id == other := by
    intro list
    induction list with
    | nil => rfl
    | cons hd list ih =>
        cases hid : hd.id == headerId with
        | true =>
            have hother : (hd.id == other) = false :=
              beq_eq_false_iff_ne.2 fun h => hne ((beq_iff_eq.1 hid).symm.trans h)
            rw [eraseP_cons, hid, find?_cons, hother]
            rfl
        | false =>
            rw [eraseP_cons, hid, find?_cons, ← ih]
            exact find?_cons
  unfold header deleteHeader
  cases headers.list with
  | none => rfl
  | some list => exact hlist list

theorem carriesSrm_of_header {hd : ParsedHeader}
    (hheader : header headers hdrSingleResponseMode = some hd)
    (hbyte : headerByte hd = srmEnabled) : carriesSrm headers = true := by
  unfold carriesSrm
  rw [any_eq_true]
  have hid := find?_some hheader
  refine ⟨hd, mem_of_find?_eq_some hheader, ?_⟩
  rw [Bool.and_eq_true]
  exact ⟨hid, beq_iff_eq.2 hbyte⟩

/-- The last entry is a response with these headers, met in the present state. -/
def Heard (headers : ParsedList) (s : Session) : Prop :=
  ∃ rspCode before, (∃ earlier, s.history = earlier ++ [.responded rspCode headers before]) ∧
    before.channel.common = s.channel.common

theorem parseResponse_keeps {cfg : Config} {rcvPacket : ByteStream} :
    Within Keeps (parseResponse cfg rcvPacket) := by
  refine (onChannel_keeps OnChannel.takeBlock_composes).bind fun room => ?_
  intro s a s' h
  obtain ⟨⟨status, headers, common, bs⟩, t, hlift, hrest⟩ := ends_bind.1 (ends_bind_view.1 h)
  obtain ⟨hparse, rfl⟩ := ends_lift.1 hlift
  obtain ⟨_, u, hstore, hend⟩ := ends_bind.1 hrest
  obtain rfl := ends_setCommon.1 hstore
  obtain ⟨-, rfl⟩ := ends_pure.1 hend
  exact .of_same rfl (parseHeaderList_srm hparse)

variable {rspCode : UInt8}

theorem parseOperation_heard {result : Status × Response}
    (h : Ends (parseOperation cfg rcvPacket rspCode status) s result s') :
    Keeps s s' ∧ Heard result.2.headers s' := by
  obtain ⟨⟨parsed, response⟩, t, hparse, h⟩ := ends_bind.1 h
  have hkeeps : Keeps s t := parseResponse_keeps s _ t hparse
  replace h := ends_bind_view.1 h
  replace h := ends_bind_update.1 h
  obtain ⟨rfl, rfl⟩ := ends_pure.1 h
  refine ⟨trans_of Keeps hkeeps ⟨⟨_, rfl⟩, fun _ ht => ⟨fun hon => ?_, ?_⟩⟩, ?_⟩
  · show agreed
      (t.history ++ [.responded rspCode response.headers ⟨t.connection, t.channel⟩]) = true
    rw [agreed_append_singleton]
    exact Bool.or_eq_true_iff.2 (.inl (ht.now hon))
  · refine ht.before.append_singleton fun before hact => ?_
    obtain rfl := Option.some.inj hact
    exact ht.now
  · exact ⟨rspCode, ⟨t.connection, t.channel⟩, ⟨t.history, rfl⟩, rfl⟩

/-- What was agreed behind the response. -/
theorem agreed_responded (earlier : List Act) (rspCode : UInt8) (headers : ParsedList)
    (before : Snapshot) : agreed (earlier ++ [.responded rspCode headers before]) =
      (agreed earlier || carriesSrm headers) :=
  agreed_append_singleton earlier _

variable {keepOther : Bool} {response : Response} {result : Bool × Response}

/-- The single response mode header turns the mode on only if it says so. -/
theorem takeSrm_effect {result : Bool × ParsedList}
    (h : Ends (takeSrm keepOther headers) s result s') :
    result.1 = (header headers hdrSingleResponseMode).isSome ∧
      header result.2 hdrSingleResponseParameters = header headers hdrSingleResponseParameters ∧
      s'.history = s.history ∧
      s'.channel.common.srmpValid = s.channel.common.srmpValid ∧
      s'.channel.common.srmpWaitReceived = s.channel.common.srmpWaitReceived ∧
      (s'.channel.srm.enabled = true →
        s.channel.srm.enabled = true ∨ carriesSrm headers = true) := by
  obtain ⟨found, hfind, hrest⟩ := ends_bind_lift.1 h
  have hheader := findHeader_eq hfind
  rw [← hheader]
  cases found with
  | none =>
      obtain ⟨rfl, rfl⟩ := ends_pure.1 hrest
      exact ⟨rfl, rfl, rfl, rfl, rfl, Or.inl⟩
  | some hd =>
      obtain ⟨_, u, hset, hend⟩ := ends_bind.1 hrest
      obtain ⟨rfl, rfl⟩ := ends_pure.1 hend
      refine ⟨rfl, ?_, ?_⟩
      · dsimp only
        split
        · exact header_deleteHeader (by decide)
        · rfl
      · rcases ends_only.1 hset with ⟨hbyte, hset⟩ | ⟨-, rfl⟩
        · obtain rfl := ends_setCommon.1 hset
          exact ⟨rfl, rfl, rfl, fun _ => .inr (carriesSrm_of_header hheader.symm hbyte)⟩
        · exact ⟨rfl, rfl, rfl, Or.inl⟩

theorem firstSrmParam_enabled {param : UInt8} {common : Common}
    (h : (firstSrmParam param common).srm.enabled = true) : common.srm.enabled = true := by
  unfold firstSrmParam at h
  split at h
  · cases h
  · exact h

theorem laterSrmParam_enabled {param : UInt8} {common : Common}
    (h : (laterSrmParam param common).srm.enabled = true) :
    common.srm.enabled = true ∨
      common.srmpValid = true ∧ param = srmParamRsvp ∧ common.srmpWaitReceived = true := by
  unfold laterSrmParam at h
  split at h
  · next hvalid =>
    split at h
    · cases h
    · split at h
      · next hends => exact .inr ⟨hvalid, hends⟩
      · exact .inl h
  · exact .inl h

/-- The single response parameter turns the mode on only where it ends a wait. -/
theorem takeSrmParam_effect {srmHdr : Bool} {result : Bool × ParsedList}
    (h : Ends (takeSrmParam srmHdr headers) s result s') :
    s'.history = s.history ∧ (s'.channel.srm.enabled = true → s.channel.srm.enabled = true ∨
      s.channel.common.srmpWaitReceived = true ∧
        ((header headers hdrSingleResponseParameters).isNone ∨
          ∃ hd, header headers hdrSingleResponseParameters = some hd ∧ srmHdr = false ∧
            headerByte hd = srmParamRsvp ∧ s.channel.common.srmpValid = true)) := by
  obtain ⟨found, hfind, hrest⟩ := ends_bind_lift.1 h
  have hheader := findHeader_eq hfind
  rw [← hheader]
  cases found with
  | none =>
      replace hrest := ends_bind_view.1 hrest
      split at hrest
      · next hwait =>
        obtain ⟨_, u, hset, hend⟩ := ends_bind.1 hrest
        obtain rfl := ends_setCommon.1 hset
        obtain ⟨-, rfl⟩ := ends_pure.1 hend
        exact ⟨rfl, fun _ => .inr ⟨hwait, .inl rfl⟩⟩
      · obtain ⟨-, rfl⟩ := ends_pure.1 hrest
        exact ⟨rfl, Or.inl⟩
  | some hd =>
      obtain ⟨_, u, hset, hend⟩ := ends_bind.1 hrest
      obtain rfl := ends_setCommon.1 hset
      obtain ⟨-, rfl⟩ := ends_pure.1 hend
      refine ⟨rfl, fun hon => ?_⟩
      cases srmHdr with
      | true => exact .inl (firstSrmParam_enabled hon)
      | false =>
          rcases laterSrmParam_enabled hon with hon | ⟨hvalid, hparam, hwait⟩
          · exact .inl hon
          · exact .inr ⟨hwait, .inr ⟨hd, rfl, rfl, hparam, hvalid⟩⟩

/-- Both headers leave the history alone. -/
theorem takeSrmHeaders_history (h : Ends (takeSrmHeaders keepOther response) s result s') :
    s'.history = s.history := by
  obtain ⟨⟨srmHdr, rest⟩, t, hsrm, hrest⟩ := ends_bind.1 h
  obtain ⟨⟨removed, rest'⟩, u, hparam, hend⟩ := ends_bind.1 hrest
  obtain ⟨-, rfl⟩ := ends_pure.1 hend
  obtain ⟨-, -, hhistory, -⟩ := takeSrm_effect hsrm
  exact (takeSrmParam_effect hparam).1.trans hhistory

/-- Both headers turn the mode on only where the mode header says so, or a wait ends. -/
theorem takeSrmHeaders_enabled (h : Ends (takeSrmHeaders keepOther response) s result s')
    (hon : s'.channel.srm.enabled = true) :
    s.channel.srm.enabled = true ∨ carriesSrm response.headers = true ∨
      endsWait response.headers s.channel.common = true ∧
        s.channel.common.srmpWaitReceived = true := by
  obtain ⟨⟨srmHdr, rest⟩, t, hsrm, hrest⟩ := ends_bind.1 h
  obtain ⟨⟨removed, rest'⟩, u, hparam, hend⟩ := ends_bind.1 hrest
  obtain ⟨-, rfl⟩ := ends_pure.1 hend
  obtain ⟨hsome, hsame, -, hvalid, hwait, hon₁⟩ := takeSrm_effect hsrm
  obtain ⟨-, hon₂⟩ := takeSrmParam_effect hparam
  rcases hon₂ hon with hold | ⟨hwaiting, hends⟩
  · rcases hon₁ hold with hold | hcarries
    · exact .inl hold
    · exact .inr (.inl hcarries)
  · rw [hwait] at hwaiting
    refine .inr (.inr ⟨?_, hwaiting⟩)
    unfold endsWait
    rw [← hsame]
    rcases hends with hnone | ⟨hd, hheader, hfirst, hrsvp, hvalid'⟩
    · rw [Option.isNone_iff_eq_none.1 hnone]
    · have hnone : (header response.headers hdrSingleResponseMode).isNone = true := by
        rw [← Option.not_isSome, ← hsome]
        exact congrArg not hfirst
      rw [hheader, ← hvalid, hvalid', hnone]
      change (true && headerByte hd == srmParamRsvp && true) = true
      rw [hrsvp]
      rfl

/-- Both headers turn the mode on only by agreement, if the waits are the operation's own. -/
theorem takeSrmHeaders_agreed {before : Snapshot} {earlier : List Act}
    (h : Ends (takeSrmHeaders keepOther response) s result s')
    (hheard : s.history = earlier ++ [.responded rspCode response.headers before])
    (hcommon : before.channel.common = s.channel.common)
    (hown : WaitIsOwn earlier (.responded rspCode response.headers before)) (hs : InAgreement s) :
    InAgreement s' := by
  have hhistory := takeSrmHeaders_history h
  have hresponded := agreed_responded earlier rspCode response.headers before
  rw [← hheard] at hresponded
  refine ⟨fun hon => ?_, ?_⟩
  · rw [hhistory]
    rcases takeSrmHeaders_enabled h hon with hold | hcarries | ⟨hends, hwaiting⟩
    · exact hs.now hold
    · rw [hresponded, hcarries, Bool.or_true]
    · rw [hresponded, Bool.or_eq_true]
      apply hown
      · rw [hcommon]
        exact hends
      · rw [hcommon]
        exact hwaiting
  · rw [hhistory]
    exact hs.before

theorem takeSrmHeaders_keeps (hheard : Heard response.headers s)
    (h : Ends (takeSrmHeaders keepOther response) s result s') : Keeps s s' := by
  obtain ⟨rspCode, before, ⟨earlier, hlast⟩, hcommon⟩ := hheard
  have hhistory := takeSrmHeaders_history h
  refine ⟨⟨[], by rw [hhistory, append_nil]⟩, fun hwaits hs => ?_⟩
  rw [hhistory, hlast] at hwaits
  exact takeSrmHeaders_agreed h hlast hcommon (atEach_append_singleton.1 hwaits).2 hs

/-- A program that keeps the agreement behind a response with these headers. -/
def KeepsAfter (headers : ParsedList) (m : Cli α) : Prop :=
  ∀ s a s', Heard headers s → Ends m s a s' → Keeps s s'

theorem KeepsAfter.of_within {m : Cli α} (h : Within Keeps m) : KeepsAfter headers m :=
  fun s a s' _ hm => h s a s' hm

theorem KeepsAfter.bind {m : Cli α} {f : α → Cli β} (hm : KeepsAfter headers m)
    (hf : ∀ a, Within Keeps (f a)) : KeepsAfter headers (m >>= f) := by
  intro s b s' hheard h
  obtain ⟨a, t, hmt, hft⟩ := ends_bind.1 h
  exact trans_of Keeps (hm s a t hheard hmt) (hf a t b s' hft)

theorem KeepsAfter.ite {c : Prop} [Decidable c] {m₁ m₂ : Cli α} (h₁ : KeepsAfter headers m₁)
    (h₂ : KeepsAfter headers m₂) : KeepsAfter headers (if c then m₁ else m₂) := by
  split
  · exact h₁
  · exact h₂

theorem KeepsAfter.view {g : Session → α} {f : α → Cli β} (hf : ∀ a, KeepsAfter headers (f a)) :
    KeepsAfter headers (Prog.view g >>= f) :=
  fun s b s' hheard h => hf (g s) s b s' hheard (ends_bind_view.1 h)

/-- The end of an operation is noted in the connection record before the headers are read. -/
theorem KeepsAfter.noted {c : Prop} [Decidable c] {m : Cli Unit} {g : Connection → Connection}
    {f : Unit → Cli β} (hm : ∀ s s', Ends m s () s' → s' = { s with connection := g s.connection })
    (hf : KeepsAfter headers (f ())) : KeepsAfter headers (Prog.only c m >>= f) := by
  intro s b s' hheard h
  obtain ⟨_, t, hmt, hft⟩ := ends_bind.1 h
  rcases ends_only.1 hmt with ⟨-, hmt⟩ | ⟨-, rfl⟩
  · obtain rfl := hm s t hmt
    have hkeeps := hf { s with connection := g s.connection } b s' hheard hft
    have hnoted : Keeps s { s with connection := g s.connection } := .of_same rfl rfl
    exact trans_of Keeps hnoted hkeeps
  · exact hf t b s' hheard hft

/-- What follows the headers of a response to a put or a get. -/
theorem parseOperation_keeps {f : Status × Response → Cli β}
    (hf : ∀ result, KeepsAfter result.2.headers (f result)) :
    Within Keeps (parseOperation cfg rcvPacket rspCode status >>= f) := by
  intro s b s' h
  obtain ⟨result, t, hparse, hft⟩ := ends_bind.1 h
  obtain ⟨hkeeps, hheard⟩ := parseOperation_heard hparse
  exact trans_of Keeps hkeeps (hf result t b s' hheard hft)

end Headers

/-! ## Confirming and ending -/

theorem confirmBuffers_keeps {cfm : List (Option BufferId × Nat)} {cfmStatus : Status} :
    Within Keeps (confirmBuffers cfg cfm cfmStatus) :=
  connection_keeps.seq <| .ite indicate_keeps .fault

theorem popBlock_keeps {p : Ptr} {next : Option Ptr} : Within Keeps (popBlock p next) :=
  setCB_keeps.seq <| (Within.only setCB_keeps).seq <|
    onChannel_keeps OnChannel.setBlocks_arranges

theorem confirmBlocks_keeps {filter : ConfirmFilter} {fuel : Nat} {list : Option Ptr}
    {cfm : List (Option BufferId × Nat)} {cfmStatus : Status} :
    Within Keeps (confirmBlocks cfg status filter fuel list cfm cfmStatus) := by
  induction fuel generalizing list cfm cfmStatus with
  | zero => exact .fault
  | succ fuel ih =>
      cases list with
      | none => exact confirmBuffers_keeps.seq .pure
      | some bulkData =>
          refine (onChannel_keeps OnChannel.deref_composes).bind fun found =>
            bulkPutStatus_keeps.bind fun stored => .ite ?_ ?_
          · exact setWord_keeps.seq <| confirmBuffers_keeps.seq .pure
          · split
            · exact confirmBuffers_keeps.seq .pure
            · exact popBlock_keeps.seq <|
                .ite (confirmBuffers_keeps.seq ih) ih

theorem confirmBulkPuts_keeps {filter : ConfirmFilter} :
    Within Keeps (confirmBulkPuts cfg status filter) :=
  Within.view.seq confirmBlocks_keeps

theorem callAbortConfirm_keeps : Within Keeps (callAbortConfirm cfg) := by
  refine connection_keeps.bind fun c => ?_
  split
  · exact .fault
  · exact .pure
  · exact indicate_keeps

theorem confirmAborted_keeps : Within Keeps (confirmAborted cfg) := by
  refine connection_keeps.bind fun c => ?_
  split
  · exact .ite (confirmBulkPuts_keeps.seq .pure)
      (bulkPutStatus_keeps.seq confirmBuffers_keeps)
  · exact indicateWord_keeps
  · exact indicateWord_keeps
  · exact .pure

theorem abortConfirm_keeps : Within Keeps (abortConfirm cfg) :=
  confirmAborted_keeps.seq <| setAbortState_keeps.seq <|
    setState_keeps.seq <| setBusy_keeps.seq callAbortConfirm_keeps

theorem confirmPendingAbort_keeps : Within Keeps (confirmPendingAbort cfg) :=
  connection_keeps.seq <| .only callAbortConfirm_keeps

theorem endOperation_keeps : Within Keeps (endOperation cfg state status) := by
  refine connection_keeps.bind fun c => ?_
  split
  · exact indicateWord_keeps.seq setConnection_keeps
  · exact indicateWord_keeps.seq setConnection_keeps
  · exact (Within.only indicateWord_keeps).seq confirmPendingAbort_keeps
  · exact confirmBulkPuts_keeps.seq confirmPendingAbort_keeps
  · exact (Within.only indicateWord_keeps).seq confirmPendingAbort_keeps
  · exact indicateWord_keeps
  · exact indicateWord_keeps
  · exact abortConfirm_keeps
  · exact .pure

theorem freeRecord_keeps : Within Keeps freeRecord :=
  .seq (update_keeps (fun _ => rfl) fun _ => rfl) <| record_keeps (fun _ => rfl) rfl

theorem freeConnection_keeps : Within Keeps (freeConnection cfg status) := by
  refine connection_keeps.seq <| setState_keeps.seq <|
    setConnection_keeps.seq <| .seq (setCommon_keeps ?_) <|
      (Within.only setAbortState_keeps).seq <| endOperation_keeps.seq <|
        setAuthentication_keeps.seq <| connection_keeps.seq <|
          (Within.only indicate_keeps).seq freeRecord_keeps
  exact fun _ => rfl

theorem fatalObexError_keeps : Within Keeps (fatalObexError cfg status) :=
  connection_keeps.seq <| .ite dropLowerLayer_keeps
    (setAbortState_keeps.seq freeConnection_keeps)

/-! ## Responses -/

theorem reportProgress_keeps {cmd : UInt8} : Within Keeps (reportProgress cfg cmd) :=
  connection_keeps.seq <| common_keeps.seq <| .only indicate_keeps

theorem reportPutProgress_keeps : Within Keeps (reportPutProgress cfg) :=
  connection_keeps.seq <| .only reportProgress_keeps

theorem setpathResponse_keeps {rspCode : UInt8} :
    Within Keeps (setpathResponse cfg rcvPacket rspCode) :=
  setState_keeps.seq <| parseResponse_keeps.seq <|
    setBusy_keeps.seq indicateWord_keeps

theorem actionResponse_keeps {rspCode : UInt8} :
    Within Keeps (actionResponse cfg rcvPacket rspCode) :=
  setState_keeps.seq <| parseResponse_keeps.seq <|
    setBusy_keeps.seq indicateWord_keeps

theorem abortBulkPutResponse_keeps : Within Keeps (abortBulkPutResponse cfg) :=
  connection_keeps.seq <| .only (canConfirmAllBulkPuts_keeps.seq <| .only
    (.ite sendAbort_keeps (confirmBulkPuts_keeps.seq <| setState_keeps.seq <|
      setAbortState_keeps.seq <| setBusy_keeps.seq <|
        callAbortConfirm_keeps)))

theorem confirmBulkPutResponse_keeps : Within Keeps (confirmBulkPutResponse cfg status) :=
  confirmBulkPuts_keeps.seq <| .ite
    (setState_keeps.seq <| setBusy_keeps.seq <| .only setWord_keeps)
    (setBusy_keeps.seq <| sendBulk_keeps.seq .pure)

theorem finishBulkPutResponse_keeps : Within Keeps (finishBulkPutResponse cfg status) :=
  setBusy_keeps.seq <| common_keeps.seq <| .ite
    ((Within.branch canConfirmAllBulkPuts_keeps .pure).seq <| .ite
      confirmBulkPutResponse_keeps
      (bulkPutStatus_keeps.seq <| (Within.only setWord_keeps).seq <|
        fatalObexError_keeps))
    ((Within.only reportPutProgress_keeps).seq confirmBulkPutResponse_keeps)

theorem bulkPutResponse_keeps {rspCode : UInt8} :
    Within Keeps (bulkPutResponse cfg rcvPacket rspCode) := by
  apply parseOperation_keeps
  rintro ⟨status, response⟩
  refine .view fun c => .ite (.of_within abortBulkPutResponse_keeps) ?_
  refine .bind (fun s a s' => takeSrmHeaders_keeps) fun _ => .ite ?_ ?_
  · exact confirmBulkPuts_keeps.seq <| setBusy_keeps.seq <|
      sendBulk_keeps.seq .pure
  · exact finishBulkPutResponse_keeps

theorem continueBody_keeps : Within Keeps (continueBody state status) :=
  connection_keeps.seq <| common_keeps.seq <| .ite
    (clientSendBodySegment_keeps.seq .pure) .pure

theorem abortPutResponse_keeps : Within Keeps (abortPutResponse cfg) :=
  connection_keeps.seq <| .only (.ite sendAbort_keeps
    (setState_keeps.seq <| setAbortState_keeps.seq <|
      setBusy_keeps.seq <| indicateWord_keeps.seq <|
        callAbortConfirm_keeps))

theorem putResponse_keeps {rspCode : UInt8} : Within Keeps (putResponse cfg rcvPacket rspCode) := by
  apply parseOperation_keeps
  rintro ⟨status, response⟩
  apply KeepsAfter.noted (g := fun c => { c with state := .obexConnected })
  · exact fun s s' h => ends_update.1 h
  · refine KeepsAfter.view fun c => .ite (.of_within abortPutResponse_keeps) ?_
    refine .bind (fun s a s' => takeSrmHeaders_keeps) fun _ =>
      continueBody_keeps.bind fun left => ?_
    cases left with
    | none => exact .pure
    | some status => exact setBusy_keeps.seq indicateWord_keeps

theorem getResponse_keeps {rspCode : UInt8} : Within Keeps (getResponse cfg rcvPacket rspCode) := by
  apply parseOperation_keeps
  rintro ⟨status, response⟩
  apply KeepsAfter.noted (g := fun c => { c with state := .obexConnected, abort := .noAbort })
  · intro s s' h
    have habort := ends_bind_update.1 h
    exact ends_update.1 habort
  · refine KeepsAfter.view fun c => .ite (.of_within sendAbort_keeps) ?_
    refine .bind (fun s a s' => takeSrmHeaders_keeps) fun _ =>
      continueBody_keeps.bind fun left => ?_
    cases left with
    | none => exact .pure
    | some status =>
        exact setBusy_keeps.seq <| indicateWord_keeps.seq <|
          reportProgress_keeps

theorem disconnectResponse_keeps {rspCode : UInt8} :
    Within Keeps (disconnectResponse cfg rspCode) :=
  .ite fatalObexError_keeps
    (setConnection_keeps.seq <| (onChannel_keeps OnChannel.Arranges.disconnect).seq <|
      .only fatalObexError_keeps)

end Obex.Client
