import BtPlatform.Obex.Server.Frame

/-!
# What the functions of the server may do

Every function of the server is followed once, for any relation on sessions that permits
its small steps. A relation that `Idles` permits what neither serves a request nor decides
about one; one that `Attends` permits serving requests as well, one that `Aborts` answering
an abort, and one that `Steps` both. What sends blocks is followed for a relation that
`Supplies`, which does not look at the channel but for the attempts to send. A relation
that `Permits` more does not look at the channel at all; one such relation says that the
current target is kept and the history only added to: it `Extends` the session. A relation
that `Follows` the connection through a connect request does not look at what admits it.
-/

namespace Obex.Server

open Support Program Linked Prog Srv List

/-! ## Relations -/

/-- `OI_OBEXAUTH_Authenticate` is evaluated. -/
def Act.authenticates : Act → Bool
  | .authenticated .. => true
  | _ => false

/-- The calls that count attempts to authenticate. -/
def Call.authenticates : Call → Bool
  | .authenticationResponse .. | .authAccept .. => true
  | _ => false

/-- The calls that send blocks or can enable single response mode. -/
def Call.supplies : Call → Bool
  | .bulkGetResponse .. | .getResponse .. | .putResponse .. => true
  | _ => false

/-- What decides about a connect request. -/
def Connection.admission (c : Connection) : ConnectionState × Option TargetInfo × Bool × UInt8 :=
  (c.state, c.currentTarget, c.unauthorized, c.authTries)

/-- What decides about a connect request, and whether blocks may be sent. -/
def Connection.standing (c : Connection) :
    (ConnectionState × Option TargetInfo × Bool × UInt8) × Bool := (c.admission, c.bulkGet.busy)

/-- What a connect request does not touch: whether blocks may be sent, and an abort. -/
def Connection.outside (c : Connection) : Bool × Bool × Bool × Option Mbuf :=
  (c.bulkGet.busy, c.abortPending, c.abortResponsePending, c.abortMbuf)

/-- What neither a connect request nor an operation touches. -/
def Connection.aside (c : Connection) :
    (ConnectionState × Option TargetInfo × Bool × UInt8) × Bool × Bool × Bool × Option Mbuf :=
  (c.admission, c.outside)

/-- An act that passes nothing to the application and authenticates nobody. -/
def Act.isPlain : Act → Bool
  | .indicated .. | .authenticated .. => false
  | _ => true

theorem Act.authenticates_of_isPlain {act : Act} (h : act.isPlain = true) :
    act.authenticates = false := by
  cases act <;> first | rfl | cases h

/-- The relation permits what neither serves a request nor decides about one. -/
class Idles (R : Session → Session → Prop) : Prop extends Sends R where
  channel {s : Session} {ch : Channel} : ch.bulkAttempts = s.channel.bulkAttempts →
    ch.srm = s.channel.srm → Monotone Channel.attemptCount s.channel ch →
      R s { s with channel := ch }
  surroundings {s s' : Session} : s'.connection = s.connection → s'.channel = s.channel →
    s'.history = s.history → s'.live = s.live → R s s'
  record {s : Session} {c : Connection} : c.aside = s.connection.aside →
    R s { s with connection := c }
  drop {s : Session} :
    R s { s with connection := { s.connection with state := .obexDisconnectCompleting } }
  note {s : Session} {act : Act} : act.isPlain = true →
    R s { s with history := s.history ++ [act] }

/-- The relation permits answering an abort as well. -/
class Aborts (R : Session → Session → Prop) : Prop extends Idles R where
  rest {s s' : Session} : s'.connection = s.connection → s'.channel = s.channel →
    s'.history = s.history → R s s'
  connection {s : Session} {c : Connection} : c.standing = s.connection.standing →
    R s { s with connection := c }
  surroundings hconn hchannel hhist _ := rest hconn hchannel hhist
  record haside := connection
    (Prod.ext (Prod.mk.inj haside).1 (Prod.mk.inj (Prod.mk.inj haside).2).1)

/-- The relation permits serving requests, without sending blocks, as well. -/
class Attends (R : Session → Session → Prop) : Prop extends Idles R where
  state {s : Session} {state : ConnectionState} : state ≠ .obexConnecting →
    R s { s with connection := { s.connection with state := state } }
  act {s : Session} {act : Act} : act.authenticates = false →
    R s { s with history := s.history ++ [act] }
  drop := state nofun
  note hplain := act (Act.authenticates_of_isPlain hplain)

/-- The relation permits what neither starts a connect request nor decides about one, nor
sends blocks. -/
class Steps (R : Session → Session → Prop) : Prop extends Attends R, Aborts R

/-- The relation permits sending blocks: of the channel, it looks only at the attempts. -/
class Supplies (R : Session → Session → Prop) : Prop extends Attends R where
  onChannel {s : Session} {ch : Channel} : Monotone Channel.attemptCount s.channel ch →
    R s { s with channel := ch }
  bulkGet {s : Session} {b : BulkGet} :
    R s { s with connection := { s.connection with bulkGet := b } }
  quiet hquiet _ := onChannel hquiet.count
  common _ := onChannel le_rfl
  channel _ _ hcount := onChannel hcount

/-- The relation permits what neither starts a connect request nor decides about one. -/
class Permits (R : Session → Session → Prop) : Prop extends IsPreorder Session R where
  rest {s s' : Session} : s'.connection = s.connection → s'.history = s.history → R s s'
  connection {s : Session} {c : Connection} : c.admission = s.connection.admission →
    R s { s with connection := c }
  state {s : Session} {state : ConnectionState} : state ≠ .obexConnecting →
    R s { s with connection := { s.connection with state := state } }
  act {s : Session} {act : Act} : act.authenticates = false →
    R s { s with history := s.history ++ [act] }

instance {R : Session → Session → Prop} [Permits R] : Steps R where
  quiet _ _ := Permits.rest rfl rfl
  common _ := Permits.rest rfl rfl
  channel _ _ _ := Permits.rest rfl rfl
  rest hconn _ hhist := Permits.rest hconn hhist
  connection hstanding := Permits.connection (Prod.mk.inj hstanding).1
  state := Permits.state
  act := Permits.act

instance {R : Session → Session → Prop} [Permits R] : Supplies R where
  onChannel _ := Permits.rest rfl rfl
  bulkGet := Permits.connection rfl

/-- The relation permits all calls, and serving requests. -/
class Indicates (cfg : Config) (R : Session → Session → Prop) : Prop extends Attends R where
  call (c : Call) : Within R (call cfg c)

/-- The relation permits the calls that authenticate as well. -/
class PermitsCalls (cfg : Config) (R : Session → Session → Prop) : Prop extends Permits R where
  authenticates {c : Call} : c.authenticates = true → Within R (call cfg c)

/-- The relation permits all calls, and the blocks that a write confirmation sends. -/
class StepsCalls (cfg : Config) (R : Session → Session → Prop) : Prop extends Steps R where
  supplies {c : Call} : c.supplies = true → Within R (call cfg c)
  authenticates {c : Call} : c.authenticates = true → Within R (call cfg c)
  sendMore (queueFull : Bool) : Within R (do
    let common ← Srv.common
    Prog.only (¬ queueFull ∧ common.srm.enabled) Server.sendMore)

/-! ## What neither serves a request nor decides about one -/

variable {f : Connection → Connection} {c : Call}

variable {realm : Option Realm} {rspHeaders : Option (List Header)} {accept : Bool}

section Idles

variable {R : Session → Session → Prop} [Idles R]

theorem onChannel_idles {α : Type} {m : OnChannel α}
    (h : ∀ {S : Channel → Channel → Prop} [OnChannel.Arranges S], Within S m) :
    Within R (onChannel m) := by
  intro s a s' hends
  obtain ⟨ch, hm, rfl⟩ := ends_onChannel.1 hends
  have hattempts : Same Channel.bulkAttempts s.channel ch := h _ _ _ hm
  have hsrm : Same Channel.srm s.channel ch := h _ _ _ hm
  exact Idles.channel hattempts hsrm (h _ _ _ hm)

theorem update_idles {f : Session → Session} (h : ∀ s, (f s).connection = s.connection ∧
    (f s).channel = s.channel ∧ (f s).history = s.history ∧ (f s).live = s.live) :
    Within R (Prog.update f : Srv Unit) :=
  .update fun s => Idles.surroundings (h s).1 (h s).2.1 (h s).2.2.1 (h s).2.2.2

theorem setConnection_idles (h : ∀ c, (f c).aside = c.aside) : Within R (setConnection f) :=
  .update fun _ => Idles.record (h _)

theorem note_idles {act : Act} (h : act.isPlain = true) : Within R (record act) :=
  .update fun _ => Idles.note h

theorem setBulkGet_idles {f : BulkGet → BulkGet} (h : ∀ b, (f b).busy = b.busy) :
    Within R (setBulkGet f) :=
  setConnection_idles fun c =>
    Prod.ext rfl (Prod.ext (h c.bulkGet) rfl)

theorem takeMbuf_step : Within R (onChannel OnChannel.takeMbuf) :=
  onChannel_sends OnChannel.takeMbuf_composes

theorem disconnect_step : Within R (onChannel OnChannel.disconnect) :=
  onChannel_idles OnChannel.Arranges.disconnect

theorem disown_step {slot : Slot} : Within R (onChannel (OnChannel.disown slot)) :=
  onChannel_sends (OnChannel.Composes.disown _)

theorem write_step {slot : Slot} {mbuf : Mbuf} :
    Within R (onChannel (OnChannel.write none slot mbuf)) :=
  onChannel_sends (OnChannel.Composes.write _ _)

theorem deref_step {p : Option Ptr} : Within R (onChannel (OnChannel.deref p)) :=
  onChannel_sends OnChannel.deref_composes

theorem register_permitted {task : Task} : Within R (register task) :=
  takeBlock_sends.seq <|
    .ite (.seq (update_idles fun _ => ⟨rfl, rfl, rfl, rfl⟩) .pure) .pure

theorem forceDisconnect_permitted : Within R forceDisconnect :=
  Within.view.seq <|
    .ite .pure (.ite .pure
      (.seq (setConnection_idles fun _ => rfl) <|
        .seq (.update fun _ => Idles.drop) disconnect_step))

theorem appendBulkData_permitted {head tail : Option Ptr} :
    Within R (appendBulkData head tail) := by
  refine Within.view.bind fun c => ?_
  split
  · exact (onChannel_idles OnChannel.setNext_arranges).seq <|
      setBulkGet_idles fun _ => rfl
  · exact Within.seq (setBulkGet_idles fun _ => rfl) <| setBulkGet_idles fun _ => rfl

theorem tailIsFinal_permitted : Within R tailIsFinal :=
  Within.view.seq <| .ite (deref_step.bind fun ⟨_, _⟩ => .pure) .pure

theorem sendChallenge_permitted {cfg : Config} : Within R (sendChallenge cfg realm) :=
  Within.view.seq <| authentication_sends.seq <| Within.view.seq <|
    .seq (update_idles fun _ => ⟨rfl, rfl, rfl, rfl⟩) <|
      setAuthentication_sends.seq .pure

theorem composeAbort_permitted {rspStatus : Status} :
    Within R (composeAbort rspHeaders rspStatus) := by
  unfold composeAbort
  dsimp only
  split
  · refine initPacket_sends.bind fun pkt s a s' h => ?_
    obtain ⟨⟨status, mbuf, common, memory⟩, t, hlift, hrest⟩ := ends_bind.1 (ends_bind_view.1 h)
    obtain ⟨hmarshal, rfl⟩ := ends_lift.1 hlift
    obtain ⟨_, hset, -⟩ := ends_bind_return.1 hrest
    obtain ⟨ch, hupdate, rfl⟩ := ends_onChannel.1 hset
    obtain rfl := ends_update.1 hupdate
    have hsrm : common.srm = t.channel.common.srm := marshalPacketMbuf_srm hmarshal
    exact Idles.channel rfl hsrm le_rfl
  · exact takeMbuf_step.seq .pure

theorem popBlock_permitted {p : Ptr} {next : Option Ptr} : Within R (popBlock p next) :=
  .seq (setBulkGet_idles fun _ => rfl) <|
    .seq (.only (setBulkGet_idles fun _ => rfl)) <|
      onChannel_idles OnChannel.setBlocks_arranges

theorem takeInFlight_permitted : Within R takeInFlight := by
  intro s sent s' h
  obtain ⟨_, t, hmove, hreturn⟩ := ends_bind.1 (ends_bind_view.1 h)
  obtain ⟨ch, hupdate, rfl⟩ := ends_onChannel.1 hmove
  obtain rfl := ends_update.1 hupdate
  obtain ⟨-, rfl⟩ := ends_pure.1 hreturn
  exact Idles.channel rfl rfl le_rfl

end Idles

/-! ### Answering an abort -/

section Aborts

variable {R : Session → Session → Prop} [Aborts R]

theorem setConnection_step (h : ∀ c, (f c).standing = c.standing) : Within R (setConnection f) :=
  .update fun _ => Aborts.connection (h _)

theorem abortResponse_permitted {rspStatus : Status} :
    Within R (abortResponse rspHeaders rspStatus) :=
  Within.view.seq <|
    .ite .pure (.seq (setConnection_step fun _ => rfl) <|
      composeAbort_permitted.bind fun ⟨_, _⟩ => disown_step.seq <|
        .seq (setConnection_step fun _ => rfl) <|
          .ite register_permitted .pure)

theorem answerAbort_permitted : Within R answerAbort := by
  refine Within.view.bind fun c => .ite .pure ?_
  split
  · exact write_step.bind fun ⟨_, _⟩ => Within.only (setConnection_step fun _ => rfl)
  · exact sendSimple_sends.seq .pure

theorem freeConnection_permitted : Within R freeConnection :=
  .seq (.update fun _ => Aborts.rest rfl rfl rfl) <| note_idles rfl

theorem connectTimeout_permitted : Within R connectTimeout :=
  Within.view.seq <| Within.only
    (.seq (setConnection_step fun _ => rfl) <|
      forceDisconnect_permitted.seq .pure)

theorem clearSlot_permitted {slot : Slot} : Within R (clearSlot slot) := by
  cases slot with
  | commonMbuf => exact setCommon_sends fun _ => id
  | abortMbuf =>
      unfold clearSlot
      exact setConnection_step fun _ => rfl
  | unnamed => exact .pure

end Aborts

/-! ## Serving requests -/

section Attends

variable {R : Session → Session → Prop} [Attends R]

theorem setState_permitted {state : ConnectionState} (h : state ≠ .obexConnecting) :
    Within R (setState state) :=
  .update fun _ => Attends.state h

theorem record_permitted {act : Act} (h : act.authenticates = false) : Within R (record act) :=
  .update fun _ => Attends.act h

theorem recordTarget_permitted {act : TargetInfo → Act}
    (h : ∀ target, (act target).authenticates = false) : Within R (recordTarget act) := by
  refine Within.view.bind fun c => ?_
  split
  · exact record_permitted (h _)
  · exact Within.pure

variable {cfg : Config} {status : Status} {optHeaders : Option (List Header)}

theorem bulkGetResponseError_permitted : Within R (bulkGetResponseError status) :=
  (setState_permitted (by decide)).seq <| Within.view.seq <|
    Within.view.seq <|
      .ite
        ((Within.only (srmOff_sends.seq <| setState_permitted (by decide))).seq <|
          errorResponse_sends.seq .pure)
        .pure

theorem responseError_permitted : Within R (responseError status) :=
  (setState_permitted (by decide)).seq errorResponse_sends

theorem actionResponse_permitted {rspStatus : Status} :
    Within R (actionResponse rspStatus optHeaders) :=
  Within.view.seq <|
    .ite .pure (.ite .pure
      (sendSimpleWithHeaders_sends.seq <|
        (setState_permitted (by decide)).seq <|
          (Within.only errorResponse_sends).seq .pure))

theorem confirmSetpath_permitted : Within R (confirmSetpath status optHeaders) :=
  Within.view.seq <|
    .ite .pure ((setState_permitted (by decide)).seq <|
      .ite sendSimpleWithHeaders_sends (errorResponse_sends.seq .pure))

theorem connectAnswer_permitted : Within R (connectAnswer cfg realm accept status) :=
  Within.view.seq <|
    .ite
      (.ite ((setState_permitted (by decide)).seq <|
          sendChallenge_permitted.seq .pure)
        ((setState_permitted (by decide)).seq <|
          (recordTarget_permitted fun _ => rfl).seq <|
          connectHeaders_sends.seq .pure))
      ((setState_permitted (by decide)).seq <|
        .seq (setConnection_idles fun _ => rfl) .pure)

theorem acceptConnect_permitted : Within R (acceptConnect cfg realm accept status optHeaders) :=
  Within.view.seq <|
    .ite .pure (connectAnswer_permitted.bind fun ⟨_, _⟩ =>
      sendConnectAnswer_sends.seq <|
        .bind (.only ((setState_permitted (by decide)).seq <|
          setAuthentication_sends.seq <|
            setConnection_idles fun _ => rfl)) fun _ => .pure)

theorem acceptConnectCall_permitted : Within R (acceptConnectCall cfg accept status optHeaders) :=
  Within.view.seq <|
    .ite .pure (.ite .pure acceptConnect_permitted)

theorem newPut_permitted {request : Request} : Within R (newPut request) :=
  (setState_permitted (by decide)).seq <| .seq (setCommon_sends fun _ => id) <|
    .ite (srmRequested_sends.seq .pure) .pure

/-- A call that neither sends blocks nor authenticates. -/
theorem callFunction_attends (cfg : Config) (hauth : c.authenticates = false)
    (hsupplies : c.supplies = false)
    (habort : ∀ rspHeaders rspStatus, Within R (abortResponse rspHeaders rspStatus)) :
    Within R (callFunction cfg c) := by
  cases c with
  | bulkGetResponse => cases hsupplies
  | getResponse => cases hsupplies
  | putResponse => cases hsupplies
  | actionResponse rspStatus optHeaders => exact actionResponse_permitted
  | confirmSetpath status optHeaders => exact confirmSetpath_permitted
  | acceptConnect accept status optHeaders =>
      exact acceptConnectCall_permitted
  | authenticationResponse => cases hauth
  | authAccept => cases hauth
  | abortResponse rspHeaders rspStatus => exact habort rspHeaders rspStatus
  | forceDisconnect => exact forceDisconnect_permitted

/-- A call is recorded before and after its function. -/
theorem call_of_function (h : Within R (callFunction cfg c)) : Within R (call cfg c) :=
  Within.view.seq <| (record_permitted rfl).seq <| h.seq <|
    record_permitted rfl

end Attends

section Steps

variable {R : Session → Session → Prop} [Steps R]

theorem lowerConnectCfm_permitted {recvMtu sendMtu : Nat} {l2cap : Bool} {result : Status} :
    Within R (lowerConnectCfm recvMtu sendMtu l2cap result) := by
  refine .ite (Within.view.bind fun c => Within.bind (setCommon_sends fun common henabled => ?_)
    fun _ => (setState_permitted (by decide)).seq <| takeBlock_sends.seq <|
      setConnection_step fun _ => rfl) freeConnection_permitted
  dsimp only at henabled
  split at henabled
  · cases henabled
  · exact henabled

theorem callFunction_permitted (cfg : Config) (hauth : c.authenticates = false)
    (hsupplies : c.supplies = false) : Within R (callFunction cfg c) :=
  callFunction_attends cfg hauth hsupplies fun _ _ => abortResponse_permitted

end Steps

/-! ## Sending blocks -/

section Supplies

variable {R : Session → Session → Prop} [Supplies R]

theorem onChannel_supplies {α : Type} {m : OnChannel α}
    (h : Within (Monotone Channel.attemptCount) m) : Within R (onChannel m) :=
  .zoom h fun _ _ => Supplies.onChannel

theorem answers_permitted {α : Type} {m : Srv α} (h : Within Answers m) : Within R m := by
  refine h.mono fun s s' hanswers => ?_
  rw [hanswers.rest]
  exact Supplies.onChannel hanswers.quiet.count

theorem setBulkGet_permitted {f : BulkGet → BulkGet} : Within R (setBulkGet f) :=
  .update fun _ => Supplies.bulkGet

theorem sendBulkGet_permitted : Within R sendBulkGet :=
  Within.view.seq <| (onChannel_supplies OnChannel.sendBulk_transfers).seq <|
    setBulkGet_permitted.seq .pure

theorem sendNewBlocks_permitted {head : Option Ptr} : Within R (sendNewBlocks head) :=
  sendBulkGet_permitted.seq <|
    .ite .pure (deref_step.bind fun ⟨_, _⟩ =>
      .ite ((onChannel_idles OnChannel.freeBulkData_arranges).seq <|
          bulkGetResponseError_permitted)
        (forceDisconnect_permitted.seq <| .ite .pure bulkGetResponseError_permitted))

variable {rspStatus : Status}

theorem queueBuffers_permitted {buffers : List Buffer} :
    Within R (queueBuffers buffers rspStatus) :=
  (onChannel_idles OnChannel.allocBulkData_arranges).bind fun ⟨_, _, _⟩ =>
    .ite bulkGetResponseError_permitted
      ((Within.only ((onChannel_idles OnChannel.setFinal_arranges).seq <|
          setState_permitted (by decide))).seq <|
        Within.view.seq <| appendBulkData_permitted.seq <|
          .ite .pure sendNewBlocks_permitted)

theorem bulkGetResponse_permitted {buffers : List Buffer} :
    Within R (bulkGetResponse buffers rspStatus) :=
  Within.view.seq <|
    .ite .pure (.ite .pure (.ite (.ite .pure .pure) (.ite .pure (.ite .pure
      (tailIsFinal_permitted.seq <|
        .ite .pure (.ite bulkGetResponseError_permitted
          (.ite .pure queueBuffers_permitted)))))))

theorem getResponse_permitted : Within R (getResponse rspHeaders rspStatus) := by
  have hsend : Within R (sendGetResponse rspHeaders rspStatus) :=
    (Within.only (setState_permitted (by decide))).seq <|
      initPacket_sends.seq <|
      (answers_permitted enableSrm_answers).seq <| Within.view.seq <|
        Within.view.seq sendHeaders_sends
  exact Within.view.seq <|
    .ite .pure (.ite .pure (.ite (responseError_permitted.seq .pure)
      (hsend.seq <| (Within.only responseError_permitted).seq .pure)))

theorem putResponse_permitted : Within R (putResponse rspHeaders rspStatus) :=
  Within.view.seq <|
    .ite .pure (.ite .pure (.ite (responseError_permitted.seq .pure)
      (.ite (responseError_permitted.seq .pure)
        ((Within.only ((setState_permitted (by decide)).seq <|
            srmOff_sends)).seq <|
          (answers_permitted sendPutResponse_answers).seq <|
            (Within.only responseError_permitted).seq .pure))))

theorem getCommandState_permitted : Within R getCommandState := by
  refine setBulkGet_permitted.seq <| Within.view.bind fun c => ?_
  split
  · exact (setState_permitted (by decide)).seq <| setBulkGet_permitted.seq <|
      Within.seq (setConnection_idles fun _ => rfl) <|
        .seq (setCommon_sends fun _ => id) <| .pure
  all_goals first
    | exact currentTarget_sends.seq <| .pure
    | exact .pure

theorem sendMore_permitted : Within R sendMore :=
  Within.view.seq <| (onChannel_supplies OnChannel.sendBulk_transfers).seq <|
    setBulkGet_permitted.seq <|
      (Within.only (Within.view.seq <| deref_step.seq .pure)).seq setBulkGet_permitted

/-- The calls that send blocks or can enable single response mode. -/
theorem supplies_permitted (cfg : Config) (h : c.supplies = true) :
    Within R (callFunction cfg c) := by
  cases c with
  | bulkGetResponse buffers rspStatus => exact bulkGetResponse_permitted
  | getResponse rspHeaders rspStatus => exact getResponse_permitted
  | putResponse rspHeaders rspStatus => exact putResponse_permitted
  | _ => cases h

end Supplies

section Permits

variable {R : Session → Session → Prop} [Permits R]

theorem setConnection_permitted (h : ∀ c, (f c).admission = c.admission) :
    Within R (setConnection f) :=
  .update fun _ => Permits.connection (h _)

end Permits

instance {cfg : Config} {R : Session → Session → Prop} [PermitsCalls cfg R] : StepsCalls cfg R where
  supplies h := call_of_function (supplies_permitted cfg h)
  authenticates := PermitsCalls.authenticates
  sendMore _ := Within.view.seq <| Within.only sendMore_permitted

/-! ## Callbacks -/

theorem call_permitted {R : Session → Session → Prop} (cfg : Config) [StepsCalls cfg R] (c : Call) :
    Within R (call cfg c) := by
  cases hauth : c.authenticates with
  | true => exact StepsCalls.authenticates hauth
  | false =>
      cases hsupplies : c.supplies with
      | true => exact StepsCalls.supplies hsupplies
      | false => exact call_of_function (callFunction_permitted cfg hauth hsupplies)

instance {cfg : Config} {R : Session → Session → Prop} [StepsCalls cfg R] : Indicates cfg R where
  call := call_permitted cfg

variable {ind : Indication} {reason : Status} {cmdCode : UInt8}

section Indicates

variable {R : Session → Session → Prop} (cfg : Config) [Indicates cfg R]

theorem calls_permitted (cs : List Call) : Within R (calls cfg cs) :=
  .perform Indicates.call cs

theorem indicate_permitted : Within R (indicate cfg ind) :=
  currentTarget_sends.seq <|
    .ite
      (Within.view.seq <|
        .seq (update_idles fun _ => ⟨rfl, rfl, rfl, rfl⟩) <|
          (record_permitted rfl).seq <| (calls_permitted cfg _).seq .pure)
      .fault

/-! ### Commands -/

/-- A callback whose status is not looked at. -/
theorem indicate_ignored_permitted : Within R (do let _ ← indicate cfg ind) :=
  (indicate_permitted cfg).seq .pure

theorem confirmBuffers_permitted {cfm : List (Option BufferId × Nat)}
    {cfmStatus : Status} : Within R (confirmBuffers cfg cfm cfmStatus) :=
  .only (indicate_ignored_permitted _)

variable {status : Status} {filter : ConfirmFilter} {rcvPacket : ByteStream}

theorem confirmBlocks_permitted {fuel : Nat} {bulkData : Option Ptr}
    {cfm : List (Option BufferId × Nat)} {cfmStatus : Status} {final : Bool} :
    Within R (confirmBlocks cfg status filter fuel bulkData cfm cfmStatus final) := by
  induction fuel generalizing bulkData cfm cfmStatus final with
  | zero => exact .fault
  | succ fuel ih =>
      cases bulkData with
      | none => exact (confirmBuffers_permitted _).seq <| .pure
      | some bulkData =>
          exact deref_step.bind fun ⟨_, _⟩ =>
            .ite ((confirmBuffers_permitted _).seq .pure)
              (popBlock_permitted.seq <|
                .ite ((indicate_permitted _).seq ih) ih)

theorem confirmBulkGets_permitted : Within R (confirmBulkGets cfg status filter) :=
  Within.view.seq <| confirmBlocks_permitted _

/-- A confirm pass whose results are not looked at. -/
theorem confirmBulkGets_ignored_permitted :
    Within R (do let _ ← confirmBulkGets cfg status filter) :=
  (confirmBulkGets_permitted cfg).seq .pure

theorem getCommandCleanup_permitted : Within R (getCommandCleanup cfg status) := by
  refine Within.view.bind fun c => ?_
  split
  all_goals first
    | exact currentTarget_sends.seq <| Within.only (indicate_ignored_permitted _)
    | exact confirmBulkGets_ignored_permitted _
    | exact .pure

theorem getCommandError_permitted : Within R (getCommandError cfg status) :=
  srmOff_sends.seq <| (getCommandCleanup_permitted _).seq <|
    (setState_permitted (by decide)).seq errorResponse_sends

theorem putCommandError_permitted : Within R (putCommandError cfg status) :=
  Within.view.seq <|
    (Within.only ((indicate_permitted _).seq <| setState_permitted (by decide))).bind
      fun _ => errorResponse_sends

theorem reportProgress_permitted {cmd : UInt8} :
    Within R (reportProgress cfg cmd) :=
  currentTarget_sends.seq <| Within.view.seq <|
    .only (indicate_ignored_permitted _)

theorem continuePut_permitted {request : Request} {final : Bool} :
    Within R (continuePut cfg request final) :=
  .seq (setConnection_idles fun _ => rfl) <|
    currentTarget_sends.seq <|
      .ite (putCommandError_permitted _)
        (takeSrmParam_sends.seq <|
          (indicate_permitted _).seq <|
            .ite (reportProgress_permitted _)
              ((setState_permitted (by decide)).seq errorResponse_sends))

theorem putCommand_permitted {final : Bool} : Within R (putCommand cfg rcvPacket final) :=
  parseRequest_sends.bind fun ⟨_, _⟩ => Within.view.seq <|
    .ite (putCommandError_permitted _)
      (.ite
        (.ite (putCommandError_permitted _)
          (newPut_permitted.seq <| continuePut_permitted _))
        (.ite (continuePut_permitted _) (putCommandError_permitted _)))

theorem setPathCommandBody_permitted : Within R (setPathCommandBody cfg rcvPacket) := by
  have hind : ∀ flags request, Within R (indicateSetPath cfg flags request) :=
    fun flags request =>
      .ite .pure ((setState_permitted (by decide)).seq <| indicate_permitted _)
  exact Within.view.seq <|
    .ite .pure (currentTarget_sends.seq <|
      .ite .pure (Within.lift.bind fun ⟨_, _⟩ =>
        .ite .pure (parseRequest_sends.bind fun ⟨_, _⟩ =>
          .ite .pure (.ite .pure (hind _ _)))))

theorem setPathCommand_permitted : Within R (setPathCommand cfg rcvPacket) :=
  (setPathCommandBody_permitted _).seq <| Within.only (Within.view.seq <|
    (Within.only (setState_permitted (by decide))).seq errorResponse_sends)

theorem actionCommandBody_permitted : Within R (actionCommandBody cfg rcvPacket) := by
  refine Within.view.seq <|
    .ite .pure (currentTarget_sends.seq <|
      .ite .pure (parseRequest_sends.bind fun ⟨_, _⟩ =>
        .ite .pure (.ite .pure ?_)))
  split
  · exact (setState_permitted (by decide)).seq <| (indicate_permitted _).seq <|
      (Within.only (setState_permitted (by decide))).seq <| .pure
  · exact .pure

theorem actionCommand_permitted : Within R (actionCommand cfg rcvPacket) :=
  (actionCommandBody_permitted _).seq <| .only errorResponse_sends

theorem sessionCommand_permitted : Within R (sessionCommand cfg rcvPacket) := by
  refine Within.view.seq <|
    .ite errorResponse_sends (parseRequest_sends.bind fun ⟨_, _⟩ =>
      .ite errorResponse_sends ?_)
  split
  · exact errorResponse_sends
  · exact Within.only errorResponse_sends

theorem endOperation_permitted {state : ConnectionState} :
    Within R (endOperation cfg state reason) := by
  unfold endOperation
  split
  all_goals first
    | exact indicate_ignored_permitted _
    | exact confirmBulkGets_ignored_permitted _
    | exact .pure

end Indicates

/-! ### Events -/

section StepsCalls

variable {R : Session → Session → Prop} (cfg : Config) [StepsCalls cfg R]

theorem abortCleanup_permitted : Within R (abortCleanup cfg) := by
  have hput : Within R (do
      setState .obexConnected
      srmOff
      let _ ← indicate cfg (.putInd none .obexClientAbortedCommand)) :=
    (setState_permitted (by decide)).seq <| srmOff_sends.seq <|
      indicate_ignored_permitted _
  have hget : Within R (do
      setState .obexConnected
      let _ ← indicate cfg (.getInd none .obexClientAbortedCommand)) :=
    (setState_permitted (by decide)).seq <| indicate_ignored_permitted _
  refine Within.view.bind fun c => ?_
  split
  · exact hput
  · exact hput
  · exact hget
  · exact hget
  all_goals first
    | exact Within.pure
    | exact .ite
        (srmOff_sends.seq <| (setState_permitted (by decide)).seq <|
          indicate_ignored_permitted _)
        ((confirmBulkGets_permitted _).bind fun ⟨_, _⟩ =>
          .ite
            (.seq (setConnection_step fun _ => rfl) <|
              srmOff_sends.seq <| setState_permitted (by decide))
            (setConnection_step fun _ => rfl))

theorem abortOperation_permitted : Within R (abortOperation cfg) :=
  (abortCleanup_permitted cfg).seq answerAbort_permitted

theorem handleAbortCommand_permitted {rcvPacket : ByteStream} :
    Within R (handleAbortCommand cfg rcvPacket) := by
  have hclear : Within R clearAbortMbuf :=
    disown_step.seq <| setConnection_step fun _ => rfl
  refine hclear.seq <| Within.view.bind fun c => ?_
  split
  · exact Within.pure
  · exact .ite
      (parseRequest_sends.bind fun ⟨_, _⟩ =>
        .ite
          (.seq (setConnection_step fun _ => rfl) <|
            indicate_ignored_permitted _)
          errorResponse_sends)
      (abortOperation_permitted cfg)

theorem dispatchedAbortCommand_permitted :
    Within R (dispatchedAbortCommand cfg) :=
  Within.view.seq <| Within.only
    (.seq (setConnection_step fun _ => rfl) <|
      abortOperation_permitted cfg)

theorem serverDisconnect_permitted : Within R (serverDisconnect cfg reason) :=
  Within.view.seq <| (setState_permitted (by decide)).seq <|
    .seq (setConnection_step fun _ => rfl) <|
      (endOperation_permitted _).seq <| setAuthentication_sends.seq <|
        Within.view.seq <|
          .seq (.only
            (.bind (setConnection_step fun _ => rfl) fun _ =>
              indicate_ignored_permitted _)) <| freeConnection_permitted

theorem dropLowerConnection_permitted : Within R (dropLowerConnection cfg) :=
  (setState_permitted (by decide)).seq <| disconnect_step.seq <|
    .only (serverDisconnect_permitted _)

theorem lowerDisconnectInd_permitted : Within R (lowerDisconnectInd cfg reason) :=
  Within.view.seq <| serverDisconnect_permitted _

theorem failBulkGet_permitted {status : Status} :
    Within R (failBulkGet cfg status) :=
  (confirmBulkGets_permitted _).bind fun ⟨_, _⟩ => .only
    (Within.view.seq <|
      .seq (.only (sendSimple_sends.seq <|
        setConnection_step fun _ => rfl)) <|
          srmOff_sends.seq <| setState_permitted (by decide))

theorem completeBlocks_permitted {continueStatus : Status} :
    Within R (completeBlocks cfg continueStatus) :=
  (confirmBulkGets_permitted _).bind fun ⟨_, _⟩ => .only
    ((indicate_permitted _).seq <| srmOff_sends.seq <|
      setState_permitted (by decide))

variable {result : Status} {queueFull : Bool}

theorem bulkGetWriteCfm_permitted {bytesConfirmed : Nat} {bulkData : Option Ptr} {status : Status} :
    Within R (bulkGetWriteCfm cfg bytesConfirmed bulkData queueFull status) :=
  Within.view.seq <| Within.seq (setCommon_sends fun _ => id) <|
    (onChannel_idles OnChannel.confirmBytes_arranges).seq <|
      .ite (failBulkGet_permitted _)
        ((Within.only (completeBlocks_permitted _)).bind fun _ =>
          @StepsCalls.sendMore cfg R _ queueFull)

theorem continueGet_permitted : Within R (continueGet cfg) :=
  currentTarget_sends.seq <| Within.view.seq <|
    .ite ((setState_permitted (by decide)).seq <|
        .only (indicate_ignored_permitted _))
      ((Within.only (indicate_ignored_permitted _)).seq <|
        reportProgress_permitted _)

theorem completeOperation_permitted : Within R (completeOperation cfg ind) :=
  (setState_permitted (by decide)).seq <| srmOff_sends.seq <|
    indicate_ignored_permitted _

theorem bulkGetSent_permitted {sent : Sent} : Within R (bulkGetSent cfg sent queueFull result) :=
  (bulkGetWriteCfm_permitted _).seq <| .only (reportProgress_permitted _)

theorem operationSent_permitted {sent : Sent} :
    Within R (operationSent cfg sent queueFull result) := by
  refine Within.view.bind fun c => Within.view.bind fun common => ?_
  split
  · exact setAuthentication_sends.seq <| (setState_permitted (by decide)).bind
      fun _ => setConnection_step fun _ => rfl
  · exact .ite .pure (completeOperation_permitted _)
  · exact completeOperation_permitted _
  · exact dropLowerConnection_permitted cfg
  · exact bulkGetSent_permitted _
  · exact bulkGetSent_permitted _
  · exact bulkGetSent_permitted _
  · exact .ite (setState_permitted (by decide)) (Within.only (continueGet_permitted cfg))
  · exact .pure

theorem lowerWriteCfm_permitted : Within R (lowerWriteCfm cfg queueFull result) := by
  refine takeInFlight_permitted.bind fun sent => ?_
  cases sent with
  | none => exact .pure
  | some sent =>
      exact clearSlot_permitted.seq <|
        (Within.only (disconnect_step.seq .pure)).seq <|
          operationSent_permitted _

theorem disconnectCommand_permitted : Within R (disconnectCommand cfg) :=
  sendSimple_sends.seq <|
    .ite (setState_permitted (by decide)) (dropLowerConnection_permitted cfg)

theorem reIndicateConnect_permitted : Within R (reIndicateConnect cfg) :=
  Within.view.seq <|
    .ite .fault (.seq (setConnection_step fun _ => rfl) <|
      indicate_ignored_permitted _)

theorem dispatchTask_permitted {index : Nat} :
    Within R (dispatchTask cfg index) := by
  refine Within.view.bind fun s =>
    .bind (update_idles fun _ => ⟨rfl, rfl, rfl, rfl⟩) fun _ => ?_
  split
  · exact Within.pure
  · exact reIndicateConnect_permitted cfg
  · exact dispatchedAbortCommand_permitted cfg

/-- A command, but for a connect request and a get request. -/
theorem dispatchCommand_step {rcvPacket : ByteStream}
    (hconnect : obexFinal cmdCode = obexFinal cmdConnect →
      Within R (connectCommand cfg rcvPacket)) (hget : obexFinal cmdCode = obexFinal cmdGet →
      Within R (getCommand cfg rcvPacket (obexIsFinal cmdCode))) :
    Within R (dispatchCommand cfg cmdCode rcvPacket) := by
  unfold dispatchCommand
  split
  · next h => exact hconnect h
  · refine .ite (disconnectCommand_permitted cfg) (.ite (putCommand_permitted _) ?_)
    split
    · next h => exact hget h
    · exact .ite (setPathCommand_permitted _) (.ite (actionCommand_permitted _)
        (.ite (sessionCommand_permitted _) (.ite (handleAbortCommand_permitted _)
          errorResponse_sends)))

/-- Every event but the reception of a packet. -/
theorem handle_permitted {event : Event}
    (h : ∀ dataBuf addr, event ≠ .lowerRecvDataInd dataBuf addr) :
    Within R (handle cfg event) := by
  refine .bind .view fun s => ?_
  cases event with
  | lowerConnectCfm recvMtu sendMtu l2cap result =>
      exact .only lowerConnectCfm_permitted
  | lowerDisconnectInd reason => exact .only (lowerDisconnectInd_permitted _)
  | lowerWriteCfm queueFull result => exact .only (lowerWriteCfm_permitted _)
  | lowerRecvDataInd dataBuf addr => exact absurd rfl (h dataBuf addr)
  | connectTimeout => exact .only connectTimeout_permitted
  | dispatch index => exact dispatchTask_permitted _
  | call c => exact call_permitted cfg c

end StepsCalls

/-! ### Get requests -/

section SuppliesCalls

variable {R : Session → Session → Prop} (cfg : Config) [Supplies R] [Indicates cfg R]

variable {final : Bool}

theorem serveGet_permitted {request : Request} : Within R (serveGet cfg request final) := by
  refine Within.view.bind fun c => ?_
  split
  · split
    · exact (confirmBulkGets_permitted _).seq <| Within.view.seq <|
        .ite sendBulkGet_permitted .pure
    · exact (indicate_permitted _).seq <| Within.view.seq <|
        .ite sendBulkGet_permitted .pure
  · exact indicate_permitted _

theorem serveHeaders_permitted {newRequest : Bool} {request : Request} :
    Within R (serveHeaders cfg newRequest final request) :=
  takeGetSrm_sends.seq <| Within.view.seq <|
    Within.view.seq <|
      .ite (.ite .pure (.seq (setCommon_sends fun _ => id) <| serveGet_permitted _))
        (.ite serverSendBodySegment_sends (serveGet_permitted _))

theorem getCommandBody_permitted {rcvPacket : ByteStream} :
    Within R (getCommandBody cfg rcvPacket final) := by
  refine getCommandState_permitted.bind fun entry => ?_
  cases entry with
  | error status => exact .pure
  | ok newRequest =>
      exact Within.view.seq <| Within.view.seq <|
        .ite .pure (.seq (setConnection_idles fun _ => rfl) <|
          parseRequest_sends.bind fun ⟨_, _⟩ =>
            .ite .pure (serveHeaders_permitted _))

theorem getCommand_permitted {rcvPacket : ByteStream} : Within R (getCommand cfg rcvPacket final) :=
  (getCommandBody_permitted _).seq <| .only (getCommandError_permitted _)

end SuppliesCalls

theorem dispatchCommand_permitted {R : Session → Session → Prop} (cfg : Config) [PermitsCalls cfg R]
    (hcmd : obexFinal cmdCode ≠ obexFinal cmdConnect) (rcvPacket : ByteStream) :
    Within R (dispatchCommand cfg cmdCode rcvPacket) :=
  dispatchCommand_step cfg (fun h => absurd h hcmd) fun _ => getCommand_permitted _

/-! ## An authentication -/

/-- The relation permits what an authentication changes as well. -/
class Credits (R : Session → Session → Prop) : Prop extends Attends R where
  credit {s : Session} {c : Connection} : c.state = s.connection.state →
    c.currentTarget = s.connection.currentTarget →
    c.outside = s.connection.outside → R s { s with connection := c }
  authenticated {s : Session} {act : Act} : R s { s with history := s.history ++ [act] }

section Credits

variable {R : Session → Session → Prop} [Credits R]

theorem recordTarget_credits {act : TargetInfo → Act} : Within R (recordTarget act) := by
  refine Within.view.bind fun c => ?_
  split
  · exact Within.update fun _ => Credits.authenticated
  · exact .pure

variable {cfg : Config}

theorem checkAuthentication_credits : Within R (checkAuthentication cfg) :=
  Within.view.seq <|
    .ite
      (authentication_sends.seq <| recordTarget_credits.seq <|
        .ite
          (.seq (.update fun _ => Credits.credit rfl rfl rfl) <|
            register_permitted.seq .pure)
          (.ite acceptConnectCall_permitted .pure))
      (register_permitted.seq .pure)

theorem authenticationResponse_credits {userId : Option (List UInt8)} {userIdLen : Nat}
    {password : List UInt8} {readOnly : Bool} :
    Within R (authenticationResponse cfg userId userIdLen password readOnly) :=
  Within.view.seq <|
    .ite .pure (.ite .pure (.seq (setCommon_sends fun _ => id) <|
      authentication_sends.seq <| setAuthentication_sends.seq <|
        (Within.branch checkAuthentication_credits .pure).seq <|
          .ite .pure (acceptConnect_permitted.seq <|
            (setState_permitted (by decide)).seq <|
              resetAuthentication_sends.seq .pure)))

theorem authAccept_credits : Within R (authAccept cfg realm accept) :=
  Within.view.seq <|
    .ite .pure (.ite .pure (acceptConnect_permitted.seq <|
      .seq (.only (.update fun _ => Credits.credit rfl rfl rfl)) <|
        .pure))

theorem authenticates_credits (cfg : Config) (h : c.authenticates = true) :
    Within R (callFunction cfg c) := by
  cases c with
  | authenticationResponse userId userIdLen password readOnly =>
      exact authenticationResponse_credits
  | authAccept realm accept => exact authAccept_credits
  | _ => cases h

theorem callFunction_credits [Supplies R] (cfg : Config)
    (habort : ∀ rspHeaders rspStatus, Within R (abortResponse rspHeaders rspStatus)) (c : Call) :
    Within R (callFunction cfg c) := by
  cases hauth : c.authenticates with
  | true => exact authenticates_credits cfg hauth
  | false =>
      cases hsupplies : c.supplies with
      | true => exact supplies_permitted cfg hsupplies
      | false => exact callFunction_attends cfg hauth hsupplies habort

end Credits

/-! ## Extending the session -/

/-- The current target stays, the history grows, and the connection does not start to
connect. -/
structure Extends (s s' : Session) : Prop where
  target : s'.connection.currentTarget = s.connection.currentTarget
  history : s.history <+: s'.history
  connecting : s'.connection.state = .obexConnecting → s.connection.state = .obexConnecting

instance : Permits Extends where
  refl _ := ⟨rfl, prefix_rfl, id⟩
  trans _ _ _ h₁ h₂ :=
    ⟨h₂.target.trans h₁.target, h₁.history.trans h₂.history, h₁.connecting ∘ h₂.connecting⟩
  rest hconn hhist := ⟨by rw [hconn], by rw [hhist], by rw [hconn]; exact id⟩
  connection hadm := by
    obtain ⟨hstate, hrest⟩ := Prod.mk.inj hadm
    exact ⟨(Prod.mk.inj hrest).1, prefix_rfl, hstate.symm.trans⟩
  state hne := ⟨rfl, prefix_rfl, fun hst => absurd hst hne⟩
  act _ := ⟨rfl, prefix_append _ _, id⟩

instance : Credits Extends where
  credit hstate htarget _ := ⟨htarget, prefix_rfl, hstate.symm.trans⟩
  authenticated := ⟨rfl, prefix_append _ _, id⟩

instance (cfg : Config) : PermitsCalls cfg Extends where
  authenticates h := call_of_function (authenticates_credits cfg h)

theorem callFunction_extends {cfg : Config} {c : Call} : Within Extends (callFunction cfg c) :=
  callFunction_credits cfg (fun _ _ => abortResponse_permitted) c

/-! ## A connect request -/

/-- The relation permits what a connect request changes as well: all of the connection
record, but for whether blocks may be sent and what belongs to an abort. -/
class Follows (R : Session → Session → Prop) : Prop extends Sends R where
  follow {s : Session} {c : Connection} : c.outside = s.connection.outside →
    R s { s with connection := c }

section Follows

variable {R : Session → Session → Prop} [Follows R]

theorem setConnection_follows (h : ∀ c, (f c).outside = c.outside) : Within R (setConnection f) :=
  .update fun _ => Follows.follow (h _)

variable {request : Request} {rcvPacket : ByteStream}

theorem connectChallenge_follows : Within R (connectChallenge request) := by
  unfold connectChallenge
  split
  · exact needAuthentication_sends.seq <| .ite .pure
      (authentication_sends.seq <| .bind .lift fun ⟨_, _, _⟩ =>
        setAuthentication_sends.seq <|
          .seq (setCommon_sends fun _ => id) <|
            .seq (setConnection_follows fun _ => rfl) .pure)
  · exact .seq (setConnection_follows fun _ => rfl) .pure

theorem connectAuthentication_follows {target : TargetInfo} :
    Within R (connectAuthentication target request) :=
  .ite
    (.seq (setCommon_sends fun _ => id) <|
      .seq (setConnection_follows fun _ => rfl) <|
        needAuthentication_sends.seq <| .ite .pure
          (authentication_sends.seq <|
            (Within.only setAuthentication_sends).seq <| Within.view.seq <|
              .ite (resetAuthentication_sends.seq .pure)
                connectResponse_sends))
    (.seq (setCommon_sends fun _ => id) <|
      .seq (setConnection_follows fun _ => rfl) .pure)

section Indicates

variable (cfg : Config) [Indicates cfg R]

theorem indicateConnect_follows : Within R (indicateConnect cfg) :=
  .seq (setConnection_follows fun _ => rfl) <|
    .seq (setConnection_follows fun _ => rfl) <|
      Within.view.seq <| Within.view.seq <| indicate_ignored_permitted _

theorem connecting_follows (havePassword : Bool) : Within R (connecting cfg havePassword) :=
  Within.seq (setConnection_follows fun _ => rfl) <| Within.view.seq <|
    .ite
      (currentTarget_sends.seq <| .ite
        ((indicate_permitted _).seq .pure)
        acceptConnectCall_permitted)
      ((indicateConnect_follows cfg).seq .pure)

theorem connectHeadersParsed_follows : Within R (connectHeadersParsed cfg request) := by
  refine .bind .view fun c => ?_
  dsimp only
  split
  · exact .pure
  · exact .seq (setConnection_follows fun _ => rfl) <|
      .seq (setConnection_follows fun _ => rfl) <|
        connectChallenge_follows.seq <| .ite .pure
          (connectAuthentication_follows.bind fun ⟨_, _⟩ =>
            .ite .pure (connecting_follows cfg _))

theorem connectCommandBody_follows : Within R (connectCommandBody cfg rcvPacket) := by
  refine Within.view.seq <| .ite .pure (Within.bind Within.lift fun ⟨parameters, _⟩ => ?_)
  cases parameters with
  | error status => exact .pure
  | ok maxSendPktLen =>
      exact Within.seq (setCommon_sends fun _ => id) <| Within.view.seq <|
        .ite .pure (parseRequest_sends.bind fun ⟨_, _⟩ =>
          .ite .pure (connectHeadersParsed_follows _))

theorem connectCommand_follows : Within R (connectCommand cfg rcvPacket) :=
  (connectCommandBody_follows _).seq <| .only
    (acceptConnect_permitted.seq setAuthentication_sends)

end Indicates

/-- The opcode of a packet is its first byte. -/
theorem openPacket_opcode {dataBuf : List UInt8} {addr : Nat}
    (h : openPacket dataBuf addr = .ok (cmdCode, rcvPacket)) : dataBuf.head? = some cmdCode := by
  cases dataBuf with
  | nil => cases h
  | cons b tl =>
      have hopen : openPacket (b :: tl) addr = do
          let rcvPacket ← ((ByteStream.open' (b :: tl) addr .read).advance 1).skip 2
          return (b, rcvPacket) := by
        have hget : (ByteStream.open' (b :: tl) addr .read).getUINT8 =
            .ok (b, (ByteStream.open' (b :: tl) addr .read).advance 1) := by
          simp [ByteStream.getUINT8, ByteStream.open', ByteStream.peek, pure, Except.pure]
        rw [openPacket, hget, ok_bind]
      rw [hopen] at h
      cases hskip : ((ByteStream.open' (b :: tl) addr .read).advance 1).skip 2 with
      | error fault => rw [hskip] at h; cases h
      | ok packet =>
          rw [hskip] at h
          cases h
          rfl

/-- Every event, if the get request that a packet holds is followed too. -/
theorem handle_follows (cfg : Config) [StepsCalls cfg R] {event : Event}
    (hget : ∀ dataBuf addr cmdCode rcvPacket, event = .lowerRecvDataInd dataBuf addr →
      openPacket dataBuf addr = .ok (cmdCode, rcvPacket) → obexFinal cmdCode = obexFinal cmdGet →
      Within R (getCommand cfg rcvPacket (obexIsFinal cmdCode))) :
    Within R (handle cfg event) := by
  by_cases hpacket : ∃ dataBuf addr, event = .lowerRecvDataInd dataBuf addr
  · obtain ⟨dataBuf, addr, rfl⟩ := hpacket
    refine Within.seq Within.view <| .only (Within.view.seq <|
      .ite .pure (.ite (dropLowerConnection_permitted cfg) ?_))
    intro s u s' h
    obtain ⟨⟨cmdCode, rcvPacket⟩, t, hlift, hdispatch⟩ := ends_bind.1 h
    obtain ⟨hopen, rfl⟩ := ends_lift.1 hlift
    exact dispatchCommand_step cfg (fun _ => connectCommand_follows cfg)
      (hget dataBuf addr cmdCode rcvPacket rfl hopen) _ _ _ hdispatch
  · exact handle_permitted cfg fun dataBuf addr heq => hpacket ⟨dataBuf, addr, heq⟩

end Follows

/-! ## The history

Every event, the connect request included, only adds to the history.
-/

/-- The history grows. -/
def Grows (s s' : Session) : Prop := s.history <+: s'.history

instance : Permits Grows where
  refl _ := prefix_rfl
  trans _ _ _ h₁ h₂ := List.IsPrefix.trans h₁ h₂
  rest _ hhist := by rw [Grows, hhist]
  connection _ := prefix_rfl
  state _ := prefix_rfl
  act _ := prefix_append _ _

instance (cfg : Config) : PermitsCalls cfg Grows where
  authenticates _ := (call_permitted cfg _).mono fun _ _ => Extends.history

instance : Follows Grows where
  follow _ := prefix_rfl

theorem handle_grows (cfg : Config) (event : Event) : Within Grows (handle cfg event) :=
  handle_follows cfg fun _ _ _ _ _ _ _ => getCommand_permitted _

theorem step_grows (cfg : Config) (event : Event) : Within Grows (step cfg event) :=
  .seq .view <| (record_permitted rfl).seq <| handle_grows cfg event

end Obex.Server
