import BtPlatform.Obex.Server.Reject

/-!
# Responses and requests to respond

What a packet brings about is counted: the attempts to send a packet, and the
indications that the application has to answer with a call. Nothing takes a count
back, so that a command that advances it is one that was responded to, or one that
the application was asked to respond to.
-/

namespace Obex.Server

open Support Program Linked Prog Srv List

/-! ## Requests to the application -/

/-- An indication that the application has to answer with a call. -/
def Indication.awaitsCall : Indication → Bool
  | .connectInd .. | .authInd | .setPathInd .. | .actionInd .. | .abortInd _ => true
  | .putInd headers _ => headers.isSome
  | .getInd headers status => headers.isSome || status == .obexContinue
  | .bulkGetInd _ status => status == .obexContinue
  | .disconnectInd | .progressInd .. => false

/-- An act that asks the application for a call. -/
def Act.asks : Act → Bool
  | .indicated ind _ => ind.awaitsCall
  | _ => false

/-- How often the application was asked for a call. -/
def askCount (s : Session) : Nat := s.history.countP Act.asks

/-- How often a packet was to be sent or the application was asked for a call. -/
def answerCount (s : Session) : Nat := s.channel.attemptCount + askCount s

/-- Nothing is taken back, and neither a pending abort nor the record is touched. -/
structure Pends (s s' : Session) : Prop where
  count : Monotone answerCount s s'
  abortPending : s'.connection.abortPending = s.connection.abortPending
  live : s'.live = s.live

instance : IsPreorder Session Pends where
  refl _ := ⟨le_rfl, rfl, rfl⟩
  trans _ _ _ h₁ h₂ :=
    ⟨Nat.le_trans h₁.count h₂.count, h₂.abortPending.trans h₁.abortPending,
      h₂.live.trans h₁.live⟩

/-- What a connection holds of an abort: whether the application is to answer it, and the
packet to answer it with. -/
def Connection.abortAnswer (c : Connection) : Bool × Option Mbuf :=
  (c.abortResponsePending, c.abortMbuf)

/-- Unless the application is to answer an abort, the answer is not touched either. -/
structure Continues (s s' : Session) : Prop extends Pends s s' where
  answer : s.connection.abortResponsePending = false →
    s'.connection.abortAnswer = s.connection.abortAnswer

instance : IsPreorder Session Continues where
  refl s := ⟨refl_of Pends s, fun _ => rfl⟩
  trans _ _ _ h₁ h₂ := by
    refine ⟨trans_of Pends h₁.toPends h₂.toPends, fun hnone => ?_⟩
    have hfirst := h₁.answer hnone
    exact (h₂.answer ((congrArg Prod.fst hfirst).trans hnone)).trans hfirst

theorem continues_pends {α : Type} {m : Srv α} (h : Within Continues m) : Within Pends m :=
  h.mono fun _ _ hcontinues => hcontinues.toPends

theorem continues_counts {α : Type} {m : Srv α} (h : Within Continues m) :
    Within (Monotone answerCount) m := h.mono fun _ _ hcontinues => hcontinues.count

/-! ### The parts of a session -/

/-- An attempt to send a packet. -/
theorem onChannel_answered {α : Type} {m : OnChannel α}
    (h : Within (Advances Channel.attemptCount) m) :
    Within (Advances answerCount) (onChannel m) :=
  .zoom h fun _ _ hlt => Nat.add_lt_add_right hlt _

theorem askCount_append (history acts : List Act) :
    history.countP Act.asks ≤ (history ++ acts).countP Act.asks := by
  rw [countP_append]
  exact Nat.le_add_right _ _

/-- A change of the connection record that does not touch an abort. -/
theorem Continues.connection {s : Session} {c : Connection}
    (h : c.outside = s.connection.outside) : Continues s { s with connection := c } := by
  obtain ⟨hpending, habort⟩ := Prod.mk.inj (Prod.mk.inj h).2
  exact ⟨⟨le_rfl, hpending, rfl⟩, fun _ => habort⟩

instance : Supplies Continues where
  onChannel hcount := ⟨⟨Nat.add_le_add_right hcount _, rfl, rfl⟩, fun _ => rfl⟩
  bulkGet := ⟨⟨le_rfl, rfl, rfl⟩, fun _ => rfl⟩
  surroundings hconn hchannel hhist hlive :=
    ⟨⟨Nat.le_of_eq (by rw [answerCount, answerCount, askCount, askCount, hchannel, hhist]),
      by rw [hconn], hlive⟩, fun _ => by rw [hconn]⟩
  record haside := .connection (Prod.mk.inj haside).2
  state _ := ⟨⟨le_rfl, rfl, rfl⟩, fun _ => rfl⟩
  act _ := ⟨⟨Nat.add_le_add_left (askCount_append _ _) _, rfl, rfl⟩, fun _ => rfl⟩

instance : Credits Continues where
  credit _ _ := .connection
  authenticated := ⟨⟨Nat.add_le_add_left (askCount_append _ _) _, rfl, rfl⟩, fun _ => rfl⟩

instance : Follows Continues where
  follow := .connection

theorem setState_continues {state : ConnectionState} : Within Continues (setState state) :=
  .update fun _ => ⟨⟨le_rfl, rfl, rfl⟩, fun _ => rfl⟩

/-! ### Responses -/

theorem errorResponse_answered {status : Status} :
    Within (Advances answerCount) (errorResponse status) :=
  .bind_advances (continues_counts srmOff_sends) fun _ =>
    .advances_bind (onChannel_answered OnChannel.sendSimple_attempts) fun _ => .pure

/-- A packet is sent if it could be composed; otherwise that was the attempt. -/
theorem sendComposed_answered {m : OnChannel Status}
    (hm : ∀ {ch status ch'}, Ends m ch status ch' → ¬ status.success →
      ch.attemptCount < ch'.attemptCount)
    (hcount : Within (Monotone Channel.attemptCount) m) :
    Within (Advances answerCount) (do
      let status ← onChannel m
      if status.success then onChannel OnChannel.sendPacket else pure status) := by
  intro s status s' h
  obtain ⟨composed, t, hcompose, hsend⟩ := ends_bind.1 h
  have hle := (onChannel_supplies hcount : Within Continues _) _ _ _ hcompose |>.count
  split at hsend
  · exact Nat.lt_of_le_of_lt hle
      (onChannel_answered OnChannel.sendPacket_attempts _ _ _ hsend)
  · next hfail =>
      obtain ⟨-, rfl⟩ := ends_pure.1 hsend
      obtain ⟨ch, hends, rfl⟩ := ends_onChannel.1 hcompose
      exact Nat.add_lt_add_right (hm hends hfail) _

theorem sendHeaders_answered {pkt : ByteStream} {hdrs : List Header}
    {rspHeaders : Option (List Header)} :
    Within (Advances answerCount) (sendHeaders pkt hdrs rspHeaders) :=
  sendComposed_answered OnChannel.composed_attempts (OnChannel.marshalPacket_composes _ _ _)

theorem serverSendBodySegment_answered :
    Within (Advances answerCount) serverSendBodySegment :=
  sendComposed_answered OnChannel.composed_attempts OnChannel.marshalBodySegment_composes

theorem sendConnectAnswer_answered {rsp : UInt8} {headers : List Header}
    {optHeaders : Option (List Header)} :
    Within (Advances answerCount) (sendConnectAnswer rsp headers optHeaders) :=
  .bind_advances (continues_counts initPacket_sends) fun _ =>
    .bind_advances .view fun _ => .bind_advances .lift fun _ =>
      .bind_advances .lift fun _ => .bind_advances .lift fun _ =>
        sendHeaders_answered

/-! ### The interface -/

theorem abortResponse_pends {rspHeaders : Option (List Header)} {rspStatus : Status} :
    Within Pends (abortResponse rspHeaders rspStatus) :=
  Within.view.seq <|
    .ite .pure (.seq (.update fun _ => ⟨le_rfl, rfl, rfl⟩) <|
      (continues_pends composeAbort_permitted).bind fun ⟨_, _⟩ =>
        (continues_pends disown_step).seq <|
          .seq (.update fun _ => ⟨le_rfl, rfl, rfl⟩) <|
            .ite (continues_pends register_permitted) .pure)

/-- Without a question there is no answer. -/
theorem abortResponse_continues (rspHeaders : Option (List Header)) (rspStatus : Status) :
    Within Continues (abortResponse rspHeaders rspStatus) := by
  intro s status s' h
  refine ⟨abortResponse_pends _ _ _ h, fun hnone => ?_⟩
  replace h := ends_bind_view.1 h
  rw [id, hnone, Bool.not_false, Bool.or_true, if_pos rfl] at h
  obtain ⟨-, rfl⟩ := ends_pure.1 h
  rfl

instance (cfg : Config) : Indicates cfg Continues where
  call c := call_of_function (callFunction_credits cfg abortResponse_continues c)

/-- An indication that the application has to answer. -/
theorem indicate_answered (cfg : Config) {ind : Indication} (hawaits : ind.awaitsCall = true) :
    Within (Advances answerCount) (indicate cfg ind) := by
  have hrecord : ∀ status, Within (Advances answerCount) (record (.indicated ind status)) := by
    intro status
    refine .update fun s => Nat.add_lt_add_left ?_ _
    show s.history.countP Act.asks < (s.history ++ [Act.indicated ind status]).countP Act.asks
    rw [countP_append, countP_singleton]
    simp [Act.asks, hawaits]
  exact .bind_advances (continues_counts currentTarget_sends) fun _ =>
    .ite
      (.bind_advances .view fun _ =>
        .bind_advances (.update fun _ => le_rfl) fun _ =>
          .advances_bind (hrecord _) fun _ =>
            (continues_counts (calls_permitted cfg _)).seq .pure)
      .fault

end Obex.Server
