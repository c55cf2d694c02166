import BtPlatform.Obex.Client.Agreement

/-!
# Single response mode over a run

Every event keeps the agreement, and so does every run in which no response ends a wait
that an earlier operation has left behind.
-/

namespace Obex.Client

open Support Program Linked Prog Cli List

/-! ## The response to a connect request -/

variable {cfg : Config} {response : Response} {rcvPacket : ByteStream} {rspCode : UInt8}
variable {status result : Status}

theorem challengeReceived_keeps : Within Keeps (challengeReceived cfg response) := by
  refine Within.seq (setCommon_keeps ?_) <| Within.lift.bind fun found =>
    common_keeps.bind fun common => ?_
  · exact fun _ => rfl
  · split
    · exact .pure
    · exact .pure
    · refine Within.lift.bind fun ⟨_, auth, readOnly⟩ => Within.seq (setCommon_keeps ?_) <|
        connection_keeps.seq <|
          (Within.only (setBusy_keeps.seq indicate_keeps)).seq .pure
      exact fun _ => rfl

theorem authenticateServer_keeps : Within Keeps (authenticateServer cfg response) := by
  refine Within.lift.bind fun found => ?_
  cases found with
  | none => exact .pure
  | some header =>
      exact authentication_keeps.seq <| Within.lift.seq <|
        setAuthentication_keeps.seq <|
          .ite .pure (resetAuthentication_keeps.seq .pure)

theorem connectionReceived_keeps : Within Keeps (connectionReceived cfg response) :=
  Within.lift.seq <| (Within.only setConnection_keeps).seq <|
    connection_keeps.seq <|
      (Within.branch authenticateServer_keeps .pure).seq <| .ite
        (setState_keeps.seq <| setBusy_keeps.seq <|
          common_keeps.seq <| indicateWord_keeps.seq .pure)
        .pure

theorem connectHeaders_keeps {notAuthorized : Bool} {maxSendPktLen : Nat} :
    Within Keeps (connectHeaders cfg notAuthorized maxSendPktLen rcvPacket) := by
  refine .seq (setCommon_keeps ?_) <| common_keeps.seq <| .ite .pure
    (parseResponse_keeps.seq <| .ite .pure
      (.ite challengeReceived_keeps connectionReceived_keeps))
  exact fun _ => rfl

theorem connectResponseBody_keeps : Within Keeps (connectResponseBody cfg rcvPacket rspCode) := by
  refine .ite .pure (Within.lift.bind fun ⟨parameters, bs⟩ => ?_)
  cases parameters with
  | error status => exact .pure
  | ok maxSendPktLen => exact connectHeaders_keeps

theorem connectResponse_keeps : Within Keeps (connectResponse cfg rcvPacket rspCode) :=
  connectResponseBody_keeps.seq <| .only fatalObexError_keeps

/-! ## Write confirmations -/

theorem confirmBytes_srm {fuel bytesConfirmed : Nat} {list : Option Ptr} :
    Within (Same Channel.srm) (confirmBytes fuel bytesConfirmed list) := by
  induction fuel generalizing bytesConfirmed list with
  | zero => exact .fault
  | succ fuel ih =>
      exact .ite .pure (OnChannel.deref_composes.seq <|
        OnChannel.setBlocks_arranges.seq <| .ite .pure ih)

theorem failBulkPut_keeps : Within Keeps (failBulkPut cfg status) :=
  canConfirmAllBulkPuts_keeps.seq <| .only (connection_keeps.seq <|
    .ite sendAbort_keeps fatalObexError_keeps)

theorem sendMore_keeps : Within Keeps sendMore :=
  setBusy_keeps.seq <| sendBulk_keeps.seq <| .ite .pure
    (connection_keeps.seq <| (onChannel_keeps OnChannel.deref_composes).seq <|
      .ite (setWord_keeps.seq .pure) .pure)

theorem bulkPutWriteCfm_keeps {bytesConfirmed : Nat} {bulkData : Option Ptr} {queueFull : Bool} :
    Within Keeps (bulkPutWriteCfm cfg bytesConfirmed bulkData queueFull status) := by
  refine Within.view.bind fun s => Within.seq (setCommon_keeps ?_) <|
    (onChannel_keeps confirmBytes_srm).seq <| bulkPutStatus_keeps.seq <|
      setWord_keeps.seq <| .ite (failBulkPut_keeps.seq .pure)
        (.ite .pure (confirmBulkPuts_keeps.seq <| .ite .pure sendMore_keeps))
  exact fun _ => rfl

theorem packetSent_keeps : Within Keeps (packetSent cfg result) :=
  common_keeps.seq <|
    .ite (.only reportPutProgress_keeps) fatalObexError_keeps

theorem takeInFlight_keeps : Within Keeps takeInFlight := by
  refine Within.view.seq <| Within.bind (onChannel_keeps (Within.update ?_))
    fun _ => .pure
  exact fun _ => rfl

theorem lowerWriteCfm_keeps {queueFull : Bool} :
    Within Keeps (lowerWriteCfm cfg queueFull result) := by
  refine takeInFlight_keeps.bind fun sent => ?_
  cases sent with
  | none => exact .pure
  | some sent =>
      refine .seq (setCommon_keeps ?_) <| connection_keeps.seq <|
        (Within.branch bulkPutWriteCfm_keeps .pure).seq <|
          packetSent_keeps
      exact fun _ => rfl

/-! ## Received packets -/

theorem dispatchResponse_keeps {dataLen : Nat} :
    Within Keeps (dispatchResponse cfg rspCode dataLen rcvPacket) := by
  refine connection_keeps.bind fun c => ?_
  split
  · exact connectResponse_keeps
  · exact disconnectResponse_keeps
  · exact bulkPutResponse_keeps
  · exact .ite sendAbort_keeps putResponse_keeps
  · exact .ite sendAbort_keeps getResponse_keeps
  · exact setpathResponse_keeps
  · exact actionResponse_keeps
  · exact .ite abortConfirm_keeps setCommandTimeout_keeps
  · exact fatalObexError_keeps

theorem lowerRecvDataInd_keeps {dataBuf : List UInt8} {addr : Nat} :
    Within Keeps (lowerRecvDataInd cfg dataBuf addr) :=
  setConnection_keeps.seq <| connection_keeps.seq <| .ite .pure
    (Within.lift.seq dispatchResponse_keeps)

/-! ## The transition function -/

theorem lowerLayerUp_keeps {recvMtu sendMtu : Nat} :
    Within Keeps (lowerLayerUp cfg recvMtu sendMtu) := by
  refine .seq (setCommon_keeps ?_) <| setState_keeps.seq <|
    connection_keeps.seq <| .ite sendConnectRequest_keeps
      (setBusy_keeps.seq <| authentication_keeps.seq <|
        indicate_keeps.seq .pure)
  exact fun _ => rfl

theorem lowerConnectCfm_keeps {recvMtu sendMtu : Nat} :
    Within Keeps (lowerConnectCfm cfg recvMtu sendMtu result) :=
  (Within.branch lowerLayerUp_keeps .pure).seq <| .only fatalObexError_keeps

theorem lowerDisconnectInd_keeps {reason : Status} : Within Keeps (lowerDisconnectInd cfg reason) :=
  connection_keeps.seq freeConnection_keeps

theorem responseTimeout_keeps : Within Keeps (responseTimeout cfg) :=
  Within.view.seq <| setConnection_keeps.seq <|
    .ite fatalObexError_keeps .fault

theorem commandError_keeps : Within Keeps (commandError cfg status) :=
  Within.view.seq <| .ite fatalObexError_keeps .fault

theorem dispatchTask_keeps {index : Nat} : Within Keeps (dispatchTask cfg index) := by
  refine Within.view.bind fun s => Within.bind (update_keeps ?_ ?_) fun _ => ?_
  · exact fun _ => rfl
  · exact fun _ => rfl
  · split
    · exact .pure
    · exact commandError_keeps

theorem handle_keeps {event : Event} : Within Keeps (handle cfg event) := by
  refine Within.view.bind fun s => ?_
  cases event with
  | lowerConnectCfm recvMtu sendMtu result => exact .only lowerConnectCfm_keeps
  | lowerDisconnectInd reason => exact .only lowerDisconnectInd_keeps
  | lowerWriteCfm queueFull result => exact .only lowerWriteCfm_keeps
  | lowerRecvDataInd dataBuf addr => exact .only lowerRecvDataInd_keeps
  | responseTimeout => exact .only responseTimeout_keeps
  | dispatch index => exact dispatchTask_keeps
  | call c => exact call_keeps _ _

/-- One event keeps the agreement. -/
theorem step_keeps (cfg : Config) (event : Event) : Within Keeps (step cfg event) :=
  observe_keeps (fun _ _ => rfl) (fun _ => rfl) fun _ => handle_keeps

/-- A run keeps the agreement. -/
theorem run_keeps {cfg : Config} {events : List Event} : Within Keeps (run cfg events) :=
  .perform (step_keeps cfg) events

theorem connecting_inAgreement (cfg : Config) (request : ConnectRequest) (env : Surroundings) :
    InAgreement (.connecting cfg request env) where
  now hon := absurd hon Bool.false_ne_true
  before := .nil

/-- If every wait that a response ends was agreed on in the same operation, single response
mode is on only where a response to the operation said so, at every point of the run. -/
theorem srm_by_agreement {cfg : Config} {request : ConnectRequest} {env : Surroundings}
    {events : List Event} {s : Session} (h : Reaches cfg request env events s)
    (hwaits : AtEach WaitIsOwn s.history) : InAgreement s :=
  (run_keeps _ _ _ h).kept hwaits (connecting_inAgreement cfg request env)

/-! ## A wait of two puts -/

instance (history : List Act) (act : Act) : Decidable (WaitIsOwn history act) :=
  match act with
  | .responded _ headers before =>
      inferInstanceAs (Decidable (endsWait headers before.channel.common = true →
        before.channel.common.srmpWaitReceived = true →
          agreed history = true ∨ carriesSrm headers = true))
  | .event _ _ | .called _ _ | .answered _ _ | .indicated _ _ | .started | .freed =>
      .isTrue trivial

/-- A configuration. Its hash is constant; without authentication nothing depends on it. -/
def sampleConfig : Config where
  order := .littleEndian
  md5 := ⟨fun _ => replicate authDigestLen 0, length_zeroDigest⟩
  privateKey := []
  maxPktLen := 1000

/-- A request for a connection with single response mode. -/
def srmRequest : ConnectRequest := ⟨false, false, false, .none, [], true⟩

/-- Nothing fails below the connection. -/
def plentiful : Surroundings := ⟨.plenty, [], [], [], []⟩

/-- The connection is established. Then a put is sent, and the server turns single response
mode on but asks to wait. The first response is `rspCode`, the second without a header. -/
def putTwice (status : Status) (rspCode : UInt8) : List Event :=
  [.lowerConnectCfm 1000 1000 .ok, .lowerWriteCfm false .ok,
    .lowerRecvDataInd [0xA0, 0, 7, 0x10, 0, 4, 0] 0,
    .call (.put (some []) status), .lowerWriteCfm false .ok,
    .lowerRecvDataInd [rspCode, 0, 7, 0x97, 1, 0x98, 1] 0,
    .call (.put (some []) .ok), .lowerWriteCfm false .ok, .lowerRecvDataInd [0xA0, 0, 3] 0]

/-- The two packets belong to one put, whose second response ends the wait of the first. -/
theorem srm_by_agreement_waiting :
    ∃ s, Reaches sampleConfig srmRequest plentiful (putTwice .obexContinue 0x90) s ∧
      AtEach WaitIsOwn s.history ∧ s.channel.srm.enabled = true ∧ InAgreement s := by
  have hreach : reaches (run sampleConfig (putTwice .obexContinue 0x90))
      (.connecting sampleConfig srmRequest plentiful)
      (fun s => decide (AtEach WaitIsOwn s.history) && s.channel.srm.enabled) = true := by
    decide +kernel
  obtain ⟨s, hends, hcheck⟩ := reaches_iff.1 hreach
  obtain ⟨hwaits, hon⟩ := Bool.and_eq_true_iff.1 hcheck
  exact ⟨s, hends, of_decide_eq_true hwaits, hon,
    srm_by_agreement hends (of_decide_eq_true hwaits)⟩

/-- Both packets are puts of their own. The second inherits the wait of the first, and its
response turns the mode on though it carries no header at all. -/
theorem wait_outlives_put :
    ¬ ∀ (cfg : Config) (request : ConnectRequest) (env : Surroundings) (events : List Event)
      (s : Session), Reaches cfg request env events s → InAgreement s := by
  intro hall
  have hreach : reaches (run sampleConfig (putTwice .ok 0xA0))
      (.connecting sampleConfig srmRequest plentiful)
      (fun s => s.channel.srm.enabled && !agreed s.history) = true := by
    decide +kernel
  obtain ⟨s, hends, hcheck⟩ := reaches_iff.1 hreach
  obtain ⟨hon, hnot⟩ := Bool.and_eq_true_iff.1 hcheck
  have hagreed := (hall _ _ _ _ _ hends).now hon
  rw [hagreed] at hnot
  cases hnot

end Obex.Client
