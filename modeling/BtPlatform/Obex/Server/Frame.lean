import BtPlatform.Obex.Server.Events
import BtPlatform.Obex.Srm

/-!
# What the functions of the server leave alone

Most functions of the server touch a small part of the session. A function that only
sends a response changes nothing but the channel, and there neither the blocks nor
the packets of a bulk transfer: it `Answers`. What such a function may do is said once, for
any relation on sessions that permits its small steps: for a relation that `Sends`.
-/

namespace Obex

open Support Program Linked Prog List

/-! ## The channel -/

/-- An attempt to send a packet of a bulk transfer. -/
def Attempt.isBulk : Attempt → Bool
  | .noMbuf bulk => bulk
  | .wrote bulk _ _ => bulk

namespace Channel

/-- The packets of a bulk transfer in flight, each with its first block. -/
def bulkInFlight (ch : Channel) : List (Ptr × Mbuf) :=
  ch.lower.inFlight.filterMap fun sent => sent.context.map fun p => (p, sent.mbuf)

/-- The attempts to send a packet of a bulk transfer. -/
def bulkAttempts (ch : Channel) : List Attempt := ch.lower.attempts.filter Attempt.isBulk

/-- What belongs to a bulk transfer is unchanged, and no attempt to send is taken back. -/
structure Quiet (ch ch' : Channel) : Prop where
  blocks : ch'.blocks = ch.blocks
  bulkInFlight : ch'.bulkInFlight = ch.bulkInFlight
  bulkAttempts : ch'.bulkAttempts = ch.bulkAttempts
  count : Monotone attemptCount ch ch'

instance : IsPreorder Channel Quiet where
  refl _ := ⟨rfl, rfl, rfl, le_rfl⟩
  trans _ _ _ h₁ h₂ :=
    ⟨h₂.blocks.trans h₁.blocks, h₂.bulkInFlight.trans h₁.bulkInFlight,
      h₂.bulkAttempts.trans h₁.bulkAttempts, Nat.le_trans h₁.count h₂.count⟩

theorem Quiet.refl (ch : Channel) : Quiet ch ch := refl_of Quiet ch

theorem bulkAttempts_append {ch ch' : Channel} {attempt : Attempt} (hbulk : attempt.isBulk = false)
    (h : ch'.lower.attempts = ch.lower.attempts ++ [attempt]) :
    ch'.bulkAttempts = ch.bulkAttempts := by
  rw [bulkAttempts, h, filter_append, filter_singleton, hbulk, cond_false,
    append_nil, bulkAttempts]

/-- A write that is not part of a bulk transfer. -/
theorem write_quiet (ch : Channel) (slot : Slot) (mbuf : Mbuf) :
    Quiet ch (ch.write none slot mbuf).2.2 := by
  unfold write
  dsimp only
  split
  · refine ⟨rfl, ?_, bulkAttempts_append rfl rfl, Nat.le_of_lt (attempts_lt_append _ _)⟩
    simp [bulkInFlight]
  · exact ⟨rfl, rfl, bulkAttempts_append rfl rfl, Nat.le_of_lt (attempts_lt_append _ _)⟩

end Channel

namespace OnChannel

open Channel

instance : Composes Quiet where
  store _ := ⟨rfl, rfl, rfl, le_rfl⟩
  noMbuf := .update fun _ =>
    ⟨rfl, rfl, bulkAttempts_append rfl rfl, Nat.le_of_lt (attempts_lt_append _ _)⟩
  disown slot := by
    refine .update fun ch => ⟨rfl, ?_, rfl, le_rfl⟩
    simp only [bulkInFlight, filterMap_map]
    congr 1
    funext sent
    simp only [Function.comp]
    split <;> rfl
  write slot mbuf := write_within fun ch => Channel.write_quiet ch slot mbuf

instance : Arranges (Same bulkAttempts) where
  store _ := rfl
  noMbuf := (Composes.noMbuf : Within Quiet _).mono fun _ _ hquiet => hquiet.bulkAttempts
  disown _ := .update fun _ => rfl
  write _ _ := (Composes.write _ _ : Within Quiet _).mono fun _ _ hquiet => hquiet.bulkAttempts
  blocks := rfl
  disconnect := Within.view.seq <| Within.seq (Within.update fun _ => rfl) .pure

theorem setFinal_arranges {S : Channel → Channel → Prop} [Arranges S] {p : Option Ptr} :
    Within S (Server.setFinal p) :=
  deref_composes.bind fun ⟨_, _⟩ => setBlocks_arranges

theorem confirmBytes_arranges {S : Channel → Channel → Prop} [Arranges S]
    {fuel bytesConfirmed : Nat} {list : Option Ptr} :
    Within S (Server.confirmBytes fuel bytesConfirmed list) := by
  induction fuel generalizing bytesConfirmed list with
  | zero => exact .fault
  | succ fuel ih =>
      exact .ite .pure (deref_composes.bind fun ⟨_, _⟩ => setBlocks_arranges.seq <|
        .ite .pure ih)

end OnChannel

end Obex

namespace Obex.Server

open Support Program Linked Prog Srv

variable {s s' : Session} {f : Common → Common} {cfg : Config}

theorem ends_onChannel {α : Type} {m : OnChannel α} {a : α} :
    Ends (onChannel m) s a s' ↔
      ∃ ch, Ends m s.channel a ch ∧ s' = { s with channel := ch } := ends_zoom

theorem ends_setCommon {u : Unit} :
    Ends (Srv.setCommon f) s u s' ↔
      s' = { s with channel := { s.channel with common := f s.channel.common } } := by
  constructor
  · intro h
    obtain ⟨ch, hupdate, rfl⟩ := ends_onChannel.1 h
    obtain rfl := ends_update.1 hupdate
    rfl
  · rintro rfl
    exact ends_onChannel.2 ⟨_, ends_update.2 rfl, rfl⟩

theorem ends_currentTarget {target : TargetInfo} :
    Ends currentTarget s target s' ↔ s.connection.currentTarget = some target ∧ s' = s := by
  unfold currentTarget
  rw [Srv.connection, ends_bind_view]
  split
  · next info htarget =>
      rw [ends_pure, htarget, Option.some.injEq, eq_comm]
  · next hnone =>
      rw [hnone]
      exact ⟨fun h => absurd h ends_fault, nofun⟩

/-! ## Sending a response -/

/-- The relation permits what sending a response changes: nothing that belongs to a bulk
transfer, and single response mode is not enabled. -/
class Sends (R : Session → Session → Prop) : Prop extends IsPreorder Session R where
  quiet {s : Session} {ch : Channel} : Channel.Quiet s.channel ch → ch.srm = s.channel.srm →
    R s { s with channel := ch }
  common {s : Session} {common : Common} :
    (common.srm.enabled = true → s.channel.common.srm.enabled = true) →
      R s { s with channel := { s.channel with common := common } }

section Sends

variable {R : Session → Session → Prop} [Sends R]

theorem onChannel_sends {α : Type} {m : OnChannel α}
    (h : ∀ {S : Channel → Channel → Prop} [OnChannel.Composes S], Within S m) :
    Within R (onChannel m) := by
  intro s a s' hends
  obtain ⟨ch, hm, rfl⟩ := ends_onChannel.1 hends
  have hsrm : Same Channel.srm s.channel ch := h _ _ _ hm
  exact Sends.quiet (h _ _ _ hm) hsrm

theorem setCommon_sends (h : ∀ common, (f common).srm.enabled = true → common.srm.enabled = true) :
    Within R (Srv.setCommon f) := by
  intro s a s' hset
  obtain rfl := ends_setCommon.1 hset
  exact Sends.common (h _)

theorem srmOff_sends : Within R srmOff :=
  setCommon_sends fun _ henabled => absurd henabled Bool.false_ne_true

theorem setAuthentication_sends {auth : Option Authentication} :
    Within R (setAuthentication auth) := setCommon_sends fun _ => id

theorem authentication_sends : Within R authentication := by
  refine Within.view.bind fun c => ?_
  split
  · exact Within.pure
  · exact .fault

theorem currentTarget_sends : Within R currentTarget := by
  refine Within.view.bind fun c => ?_
  split
  · exact Within.pure
  · exact .fault

variable {opcode : UInt8} {request : Request}

theorem sendSimple_sends : Within R (onChannel (OnChannel.sendSimple opcode)) :=
  onChannel_sends OnChannel.sendSimple_composes

theorem initPacket_sends : Within R (onChannel (OnChannel.initPacket opcode)) :=
  onChannel_sends OnChannel.initPacket_composes

theorem marshalPacket_sends (pkt : ByteStream) (hdrs hdrList : List Header) :
    Within R (onChannel (OnChannel.marshalPacket pkt hdrs hdrList)) :=
  onChannel_sends (OnChannel.marshalPacket_composes _ _ _)

theorem sendPacket_sends : Within R (onChannel OnChannel.sendPacket) :=
  onChannel_sends OnChannel.sendPacket_composes

theorem takeBlock_sends : Within R (onChannel OnChannel.takeBlock) :=
  onChannel_sends OnChannel.takeBlock_composes

theorem sendSimpleWithHeaders_sends {headers : Option (List Header)} :
    Within R (sendSimpleWithHeaders opcode headers) := by
  unfold sendSimpleWithHeaders
  split
  · exact sendSimple_sends
  · exact sendSimple_sends
  · exact initPacket_sends.seq <| (marshalPacket_sends _ _ _).seq <|
      .ite sendPacket_sends .pure

theorem errorResponse_sends {status : Status} : Within R (errorResponse status) :=
  srmOff_sends.seq <| sendSimple_sends.seq .pure

theorem serverSendBodySegment_sends : Within R serverSendBodySegment :=
  (onChannel_sends OnChannel.marshalBodySegment_composes).seq <| .ite sendPacket_sends .pure

theorem parseRequest_sends {rcvPacket : ByteStream} : Within R (parseRequest cfg rcvPacket) := by
  refine takeBlock_sends.bind fun room s a s' h => ?_
  obtain ⟨⟨status, headers, common, bs⟩, t, hlift, hrest⟩ := ends_bind.1 (ends_bind_view.1 h)
  obtain ⟨hparse, rfl⟩ := ends_lift.1 hlift
  obtain ⟨_, hset, -⟩ := ends_bind_return.1 hrest
  obtain rfl := ends_setCommon.1 hset
  have hsrm : common.srm = t.channel.common.srm := parseHeaderList_srm hparse
  exact Sends.common fun henabled => hsrm ▸ henabled

theorem sendHeaders_sends {pkt : ByteStream} {hdrs : List Header}
    {rspHeaders : Option (List Header)} : Within R (sendHeaders pkt hdrs rspHeaders) :=
  (marshalPacket_sends _ _ _).seq <| .ite sendPacket_sends .pure

theorem responseRequired_sends : Within R responseRequired :=
  Within.view.seq <| Within.view.seq <|
    .ite .pure (.ite (.seq (setCommon_sends fun _ => id) .pure)
      (.ite (.seq (setCommon_sends fun _ => id) .pure) .pure))

theorem sendConnectAnswer_sends {rsp : UInt8} {headers : List Header}
    {optHeaders : Option (List Header)} :
    Within R (sendConnectAnswer rsp headers optHeaders) :=
  initPacket_sends.seq <| Within.view.seq <|
    Within.lift.seq <| Within.lift.seq <| Within.lift.seq <|
      sendHeaders_sends

theorem connectHeaders_sends : Within R (connectHeaders cfg) :=
  Within.view.seq <| Within.view.seq <|
    (Within.branch (currentTarget_sends.seq .pure) .pure).seq <|
      (Within.branch (authentication_sends.seq .pure) .pure).seq .pure

theorem resetAuthentication_sends : Within R resetAuthentication :=
  authentication_sends.seq setAuthentication_sends

theorem srmRequested_sends : Within R srmRequested := by
  refine setCommon_sends fun common henabled => ?_
  split at henabled
  · exact henabled
  · exact henabled

theorem takeSrmParam_sends : Within R (takeSrmParam request) := by
  unfold takeSrmParam
  split
  · exact .seq (setCommon_sends fun _ => id) <| .pure
  · exact .seq (setCommon_sends fun _ => id) .pure

theorem takeGetSrm_sends : Within R (takeGetSrm request) :=
  .ite (srmRequested_sends.seq takeSrmParam_sends) takeSrmParam_sends

theorem needAuthentication_sends : Within R needAuthentication :=
  Within.view.seq <|
    .ite .pure (takeBlock_sends.seq <|
      (Within.only setAuthentication_sends).seq .pure)

theorem connectResponse_sends : Within R (connectResponse request) := by
  unfold connectResponse
  split
  · exact authentication_sends.seq <| .bind .lift fun ⟨_, _⟩ =>
      setAuthentication_sends.seq <|
        .ite (resetAuthentication_sends.seq .pure) .pure
  · exact .pure

end Sends

/-- Only the channel is changed, and nothing that belongs to a bulk transfer. -/
structure Answers (s s' : Session) : Prop where
  rest : s' = { s with channel := s'.channel }
  quiet : Channel.Quiet s.channel s'.channel

instance : Sends Answers where
  refl _ := ⟨rfl, .refl _⟩
  trans s₁ s₂ s₃ h₁ h₂ := by
    refine ⟨?_, trans_of _ h₁.quiet h₂.quiet⟩
    rw [h₂.rest, h₁.rest]
  quiet hquiet _ := ⟨rfl, hquiet⟩
  common _ := ⟨rfl, rfl, rfl, rfl, le_rfl⟩

theorem connection_answers : Within Answers Srv.connection := Within.view

theorem setCommon_answers : Within Answers (Srv.setCommon f) := by
  intro s _ s' h
  obtain rfl := ends_setCommon.1 h
  exact ⟨rfl, rfl, rfl, rfl, le_rfl⟩

theorem setAuthentication_answers {auth : Option Authentication} :
    Within Answers (setAuthentication auth) := setAuthentication_sends

theorem authentication_answers : Within Answers authentication := authentication_sends

theorem currentTarget_answers : Within Answers currentTarget := currentTarget_sends

theorem errorResponse_answers {status : Status} : Within Answers (errorResponse status) :=
  errorResponse_sends

theorem parseRequest_answers {rcvPacket : ByteStream} :
    Within Answers (parseRequest cfg rcvPacket) := parseRequest_sends

theorem enableSrm_answers : Within Answers enableSrm :=
  Within.view.seq <| .ite (setCommon_answers.seq .pure) .pure

theorem sendPutResponse_answers {rspHeaders : Option (List Header)} {rspStatus : Status} :
    Within Answers (sendPutResponse rspHeaders rspStatus) :=
  responseRequired_sends.seq <|
    .ite
      ((Within.branch enableSrm_answers .pure).seq <|
        .ite (initPacket_sends.seq sendHeaders_sends) sendSimple_sends)
      .pure

theorem sendConnectAnswer_answers {rsp : UInt8} {headers : List Header}
    {optHeaders : Option (List Header)} :
    Within Answers (sendConnectAnswer rsp headers optHeaders) :=
  sendConnectAnswer_sends

theorem connectHeaders_answers : Within Answers (connectHeaders cfg) :=
  connectHeaders_sends

theorem resetAuthentication_answers : Within Answers resetAuthentication :=
  resetAuthentication_sends

theorem takeGetSrm_answers {request : Request} : Within Answers (takeGetSrm request) :=
  takeGetSrm_sends

theorem needAuthentication_answers : Within Answers needAuthentication := needAuthentication_sends

theorem connectResponse_answers {request : Request} :
    Within Answers (connectResponse request) := connectResponse_sends

end Obex.Server
