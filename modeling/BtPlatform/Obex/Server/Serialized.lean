import BtPlatform.Obex.Server.Attended
import BtPlatform.Obex.Server.Stripped

/-!
# One packet for each get request

Without single response mode every packet of a bulk get answers a get request: `SendBulk`
sets `busy` when it has sent one, and `GetCommand` clears it. `OI_OBEXSRV_BulkGetResponse`
only queues its blocks while `busy` is set. `GetCommand` asks the application for blocks
first and then sends what is queued, whether or not the callback has set `busy` meanwhile.
So a second packet is sent exactly there: if a callback sends the first packet of a
block and the block is longer than the packet.
-/

namespace Obex

open Support Program Linked Prog List

/-! ## The packets of a bulk transfer -/

/-- The lower layer took the packet. -/
def Attempt.isTaken : Attempt → Bool
  | .noMbuf _ => false
  | .wrote _ _ status => status.success

/-- The number of packets of bulk transfers that the lower layer took. -/
def Channel.bulkPackets (ch : Channel) : Nat := ch.bulkAttempts.countP Attempt.isTaken

namespace OnChannel

variable {ch ch' : Channel}

theorem bulkPackets_of_same (h : Same Channel.bulkAttempts ch ch') :
    ch'.bulkPackets = ch.bulkPackets := by
  rw [Channel.bulkPackets, h, Channel.bulkPackets]

/-- A write adds a packet only if the lower layer takes it. -/
theorem write_packets {context : Option Ptr} {slot : Slot} {mbuf : Mbuf} {status : Status}
    {queueFull : Option Bool} (h : Ends (write context slot mbuf) ch (status, queueFull) ch') :
    (queueFull = none ∧ ch'.bulkPackets = ch.bulkPackets) ∨
      (status.success = true ∧ queueFull.isSome ∧ ch'.bulkPackets ≤ ch.bulkPackets + 1) := by
  simp only [write, ends_bind, ends_view, ends_update, ends_pure, Prod.mk.injEq] at h
  obtain ⟨_, _, ⟨rfl, rfl⟩, _, _, rfl, ⟨rfl, rfl⟩, rfl⟩ := h
  unfold Channel.write
  dsimp only
  split
  · next hsuccess =>
      refine .inr ⟨hsuccess, rfl, ?_⟩
      unfold Channel.bulkPackets Channel.bulkAttempts
      dsimp only
      rw [filter_append, countP_append]
      exact Nat.add_le_add_left (countP_le_length.trans (length_filter_le _ _)) _
  · next hfails =>
      refine .inl ⟨rfl, ?_⟩
      unfold Channel.bulkPackets Channel.bulkAttempts
      dsimp only
      rw [filter_append, countP_append, Nat.add_eq_left, countP_eq_zero]
      intro attempt hmem
      obtain rfl := mem_singleton.1 (mem_of_mem_filter hmem)
      exact hfails

/-- One packet of `OI_OBEXCOMMON_SendBulk` is written, or `busy` is left as it is. -/
theorem sendPiece_packets {current : Option Ptr} {busy : Bool} {g g' : Gathered} {sent : BulkSend}
    (h : Ends (sendPiece current busy g) ch (sent, g') ch') :
    (sent.status.success = true ∧ ch'.bulkPackets ≤ ch.bulkPackets + 1) ∨
      (sent.busy = busy ∧ ch'.bulkPackets = ch.bulkPackets) := by
  unfold sendPiece at h
  have h₁ := ends_bind_view.1 h
  dsimp only [id_eq] at h₁
  obtain ⟨gathered, -, h₂⟩ := ends_bind_lift.1 h₁
  obtain ⟨room, t₂, htake, h₃⟩ := ends_bind.1 h₂
  replace htake : Same Channel.bulkAttempts ch t₂ := takeMbuf_composes _ _ _ htake
  split at h₃
  · obtain ⟨⟨bulkData, mbuf⟩, t₃, hfill, h₄⟩ := ends_bind.1 h₃
    replace hfill : Same Channel.bulkAttempts t₂ t₃ := fillPacket_arranges _ _ _ hfill
    have hsame := bulkPackets_of_same
      (trans_of (Same Channel.bulkAttempts) htake hfill)
    obtain ⟨⟨status, queueFull⟩, t₄, hwrite, h₅⟩ := ends_bind.1 h₄
    rcases write_packets hwrite with ⟨rfl, hpackets⟩ | ⟨hsuccess, hqueue, hpackets⟩
    · obtain ⟨heq, rfl⟩ := ends_pure.1 h₅
      obtain ⟨rfl, -⟩ := Prod.mk.inj heq
      exact .inr ⟨rfl, hpackets.trans hsame⟩
    · cases queueFull with
      | none => cases hqueue
      | some queueFull =>
          obtain ⟨heq, rfl⟩ := ends_pure.1 h₅
          obtain ⟨rfl, -⟩ := Prod.mk.inj heq
          exact .inl ⟨hsuccess, hsame ▸ hpackets⟩
  · obtain ⟨_, t₃, hnone, h₄⟩ := ends_bind.1 h₃
    obtain ⟨heq, rfl⟩ := ends_pure.1 h₄
    obtain ⟨rfl, -⟩ := Prod.mk.inj heq
    refine .inr ⟨rfl, ?_⟩
    obtain rfl := ends_update.1 hnone
    rw [← bulkPackets_of_same htake]
    unfold Channel.bulkPackets Channel.bulkAttempts
    dsimp only
    rw [filter_append, countP_append]
    rfl

/-- Without single response mode `OI_OBEXCOMMON_SendBulk` writes at most one packet, and is
busy afterwards if it does. -/
theorem sendBulk_packets {current : Option Ptr} {busy : Bool} {sent : BulkSend}
    (h : Ends (sendBulk current busy) ch sent ch') (hsrm : ch.common.srm.enabled = false) :
    (sent.busy = true ∧ ch'.bulkPackets ≤ ch.bulkPackets + 1) ∨
      (sent.busy = busy ∧ ch'.bulkPackets = ch.bulkPackets) := by
  unfold sendBulk at h
  replace h := ends_bind_view.1 h
  split at h
  · obtain ⟨rfl, rfl⟩ := ends_pure.1 h
    exact .inr ⟨rfl, rfl⟩
  · obtain ⟨⟨piece, g⟩, t, hpiece, h⟩ := ends_bind.1 h
    have hkept : Same Channel.srm ch t := sendPiece_transfers _ _ _ hpiece
    have hpackets := sendPiece_packets hpiece
    replace h := ends_bind_view.1 h
    rw [show t.common.srm = ch.common.srm from hkept, hsrm] at h
    split at h
    · next hfails =>
        obtain ⟨rfl, rfl⟩ := ends_pure.1 h
        rcases hpackets with ⟨hsuccess, -⟩ | hnone
        · rw [hsuccess] at hfails
          cases hfails
        · exact .inr hnone
    · obtain ⟨rfl, rfl⟩ := ends_pure.1 h
      rcases hpackets with ⟨-, hone⟩ | ⟨-, hnone⟩
      · exact .inl ⟨rfl, hone⟩
      · exact .inl ⟨rfl, hnone ▸ Nat.le_succ _⟩

end OnChannel

end Obex

namespace Obex.Server

open Support Program Linked Prog Srv List

/-! ## What may still be written -/

/-- The call can enable single response mode, and finds it requested. -/
def Act.enablesSrm : Act → Bool
  | .called (.getResponse ..) before | .called (.putResponse ..) before =>
      before.channel.common.srm.requested
  | _ => false

/-- The packets written, and one more unless the connection is busy. -/
def Session.packetBound (s : Session) : Nat :=
  s.channel.bulkPackets + if s.connection.bulkGet.busy then 0 else 1

/-- The history grows, and if single response mode is off and no call enables it, then it
stays off and no more packets may be written than before. -/
def Serial (s s' : Session) : Prop :=
  ∃ acts, s'.history = s.history ++ acts ∧
    (s.channel.common.srm.enabled = false → (∀ act ∈ acts, act.enablesSrm = false) →
      s'.channel.common.srm.enabled = false ∧ s'.packetBound ≤ s.packetBound)

instance : IsPreorder Session Serial where
  refl _ := ⟨[], (append_nil _).symm, fun hsrm _ => ⟨hsrm, le_rfl⟩⟩
  trans := by
    rintro s₁ s₂ s₃ ⟨acts₁, hhist₁, h₁⟩ ⟨acts₂, hhist₂, h₂⟩
    refine ⟨acts₁ ++ acts₂, by rw [hhist₂, hhist₁, append_assoc], fun hsrm hacts => ?_⟩
    obtain ⟨hsrm, hle₁⟩ := h₁ hsrm fun act hact => hacts act (mem_append_left _ hact)
    obtain ⟨hsrm, hle₂⟩ := h₂ hsrm fun act hact => hacts act (mem_append_right _ hact)
    exact ⟨hsrm, Nat.le_trans hle₂ hle₁⟩

/-- Nothing that matters is changed. -/
theorem Serial.of_same {s s' : Session} (hhist : s'.history = s.history)
    (hsrm : s'.channel.common.srm.enabled = true → s.channel.common.srm.enabled = true)
    (hattempts : s'.channel.bulkAttempts = s.channel.bulkAttempts)
    (hbusy : s'.connection.bulkGet.busy = s.connection.bulkGet.busy) : Serial s s' := by
  refine ⟨[], by rw [hhist, append_nil], fun hoff _ => ⟨?_, ?_⟩⟩
  · apply Bool.eq_false_iff.2
    intro hon
    rw [hsrm hon] at hoff
    cases hoff
  · rw [Session.packetBound, Session.packetBound, OnChannel.bulkPackets_of_same hattempts, hbusy]

instance : Sends Serial where
  quiet hquiet hsrm := .of_same rfl (fun hon => (congrArg Srm.enabled hsrm) ▸ hon)
    hquiet.bulkAttempts rfl
  common hsrm := .of_same rfl hsrm rfl rfl

instance : Steps Serial where
  channel hattempts hsrm _ := .of_same rfl (fun hon => (congrArg Srm.enabled hsrm) ▸ hon)
    hattempts rfl
  rest hconn hchannel hhist := .of_same hhist (by rw [hchannel]; exact id) (by rw [hchannel])
    (by rw [hconn])
  connection hstanding := .of_same rfl id rfl (Prod.mk.inj hstanding).2
  state _ := .of_same rfl id rfl rfl
  act _ := ⟨_, rfl, fun hsrm _ => ⟨hsrm, le_rfl⟩⟩

instance : Credits Serial where
  credit _ _ houtside := .of_same rfl id rfl (Prod.mk.inj houtside).1
  authenticated := ⟨_, rfl, fun hsrm _ => ⟨hsrm, le_rfl⟩⟩

instance : Follows Serial where
  follow houtside := .of_same rfl id rfl (Prod.mk.inj houtside).1

/-! ## The calls that supply data -/

variable {status rspStatus : Status} {u : Unit} {rspHeaders : Option (List Header)}

theorem ends_setBulkGet {f : BulkGet → BulkGet} {s s' : Session} :
    Ends (setBulkGet f) s u s' ↔
      s' = { s with connection := { s.connection with bulkGet := f s.connection.bulkGet } } :=
  ends_update

/-- Where the connection is not busy, a packet may be sent. -/
theorem sendBulkGet_serial {s s' : Session} (h : Ends sendBulkGet s status s')
    (hbusy : s.connection.bulkGet.busy = false) : Serial s s' := by
  unfold sendBulkGet at h
  have h₁ := ends_bind_view.1 h
  obtain ⟨sent, t₁, hsend, h₂⟩ := ends_bind.1 h₁
  obtain ⟨ch, hbulk, rfl⟩ := ends_onChannel.1 hsend
  obtain ⟨_, t₂, hset, hpure⟩ := ends_bind.1 h₂
  obtain rfl := ends_setBulkGet.1 hset
  obtain ⟨-, rfl⟩ := ends_pure.1 hpure
  have hkept : Same Channel.srm s.channel ch := OnChannel.sendBulk_transfers _ _ _ hbulk
  refine ⟨[], (append_nil _).symm, fun hsrm _ => ⟨(congrArg Srm.enabled hkept).trans hsrm, ?_⟩⟩
  have hpackets := OnChannel.sendBulk_packets hbulk hsrm
  unfold Session.packetBound
  rw [hbusy] at hpackets ⊢
  dsimp only
  rcases hpackets with ⟨hsent, hle⟩ | ⟨hsent, heq⟩
  · rw [hsent]
    exact hle
  · rw [hsent, heq]

theorem appendBulkData_busy {head tail : Option Ptr} :
    Within (Same fun s : Session => s.connection.bulkGet.busy) (appendBulkData head tail) := by
  refine Within.view.bind fun c => ?_
  split
  · exact Within.seq (Within.zoom (S := fun _ _ => True) (fun _ _ _ _ => trivial)
      fun _ _ _ => rfl) <| .update fun _ => rfl
  · exact .seq (.update fun _ => rfl) <| .update fun _ => rfl

/-- A bulk get response sends a packet only where the connection is not busy. -/
theorem bulkGetResponse_serial {buffers : List Buffer} {rspStatus : Status} :
    Within Serial (bulkGetResponse buffers rspStatus) := by
  have hnew {head : Option Ptr} {s s' : Session} {status : Status}
      (h : Ends (sendNewBlocks head) s status s') (hbusy : s.connection.bulkGet.busy = false) :
      Serial s s' := by
    obtain ⟨status, t, hsend, hrest⟩ := ends_bind.1 h
    refine trans_of Serial (sendBulkGet_serial hsend hbusy) ?_
    refine Within.ite .pure (deref_step.bind fun ⟨_, _⟩ =>
      .ite
        ((onChannel_idles OnChannel.freeBulkData_arranges).seq <|
          bulkGetResponseError_permitted)
        (forceDisconnect_permitted.seq <| .ite .pure bulkGetResponseError_permitted))
      _ _ _ hrest
  have hqueue : Within Serial (queueBuffers buffers rspStatus) := by
    refine (onChannel_idles OnChannel.allocBulkData_arranges).bind fun ⟨_, head, tail⟩ =>
      .ite bulkGetResponseError_permitted
        ((Within.only ((onChannel_idles OnChannel.setFinal_arranges).seq <|
          setState_permitted (by decide))).bind fun _ => ?_)
    intro s status s' h
    have h₁ := ends_bind_view.1 h
    obtain ⟨_, t₁, happend, h₂⟩ := ends_bind.1 h₁
    refine trans_of Serial (appendBulkData_permitted _ _ _ happend) ?_
    split at h₂
    · obtain ⟨-, rfl⟩ := ends_pure.1 h₂
      exact Std.Refl.refl _
    · next hidle =>
        exact hnew h₂ (Eq.trans (appendBulkData_busy _ _ _ happend)
          (Bool.or_eq_false_iff.1 (Bool.eq_false_iff.2 hidle)).2)
  exact Within.view.seq <|
    .ite .pure (.ite .pure (.ite (.ite .pure .pure) (.ite .pure (.ite .pure
      (tailIsFinal_permitted.seq <|
        .ite .pure (.ite bulkGetResponseError_permitted (.ite .pure hqueue)))))))

/-- Nothing is enabled that is not requested. -/
theorem enableSrm_serial {s s' : Session} {headers : List Header}
    (h : Ends enableSrm s headers s') (hrequested : s.channel.common.srm.requested = false) :
    Serial s s' := by
  unfold enableSrm at h
  have h₁ := ends_bind_view.1 h
  rw [hrequested] at h₁
  obtain ⟨-, rfl⟩ := ends_pure.1 h₁
  exact Std.Refl.refl _

/-- Single response mode is as much requested as before. -/
def SameRequest : Session → Session → Prop := Same fun s => s.channel.common.srm.requested

instance : IsPreorder Session SameRequest := inferInstanceAs (IsPreorder Session (Same _))

theorem sendGetResponse_serial {s s' : Session}
    (h : Ends (sendGetResponse rspHeaders rspStatus) s status s')
    (hrequested : s.channel.common.srm.requested = false) : Serial s s' := by
  obtain ⟨_, t, hstate, h₁⟩ := ends_bind.1 h
  obtain ⟨pkt, t₁, hinit, h₂⟩ := ends_bind.1 h₁
  obtain ⟨headers, t₂, henable, h₃⟩ := ends_bind.1 h₂
  have hkeeps : Within SameRequest (Prog.only (rspStatus ≠ .obexContinue)
      (setState .getCompleting)) := Within.only (Within.update fun _ => rfl)
  have hbefore : SameRequest s t₁ := by
    obtain ⟨ch, hpacket, rfl⟩ := ends_onChannel.1 hinit
    have hsrm : Same Channel.srm t.channel ch := OnChannel.initPacket_composes _ _ _ hpacket
    exact (congrArg Srm.requested hsrm).trans (hkeeps _ _ _ hstate)
  have hserial : Within Serial (Prog.only (rspStatus ≠ .obexContinue) (setState .getCompleting)) :=
    Within.only (setState_permitted (by decide))
  have hrest : Serial t₂ s' := by
    refine (Within.view.seq <| Within.view.bind fun _ => ?_ : Within Serial _) _ _ _ h₃
    exact sendHeaders_sends
  calc Serial s t := hserial _ _ _ hstate
    Serial _ t₁ := initPacket_sends _ _ _ hinit
    Serial _ t₂ := enableSrm_serial henable (Eq.trans hbefore hrequested)
    Serial _ s' := hrest

theorem sendPutResponse_serial {s s' : Session}
    (h : Ends (sendPutResponse rspHeaders rspStatus) s status s')
    (hrequested : s.channel.common.srm.requested = false) : Serial s s' := by
  obtain ⟨required, t, hrequired, h₁⟩ := ends_bind.1 h
  have hset : Within SameRequest (Srv.setCommon fun common =>
      { common with srmParam := srmParamNone }) := by
    intro s u s' h
    obtain rfl := ends_setCommon.1 h
    rfl
  have hkeeps : Within SameRequest responseRequired :=
    Within.view.seq <| Within.view.seq <|
      .ite .pure (.ite (hset.seq .pure) (.ite (hset.seq .pure) .pure))
  refine trans_of Serial (responseRequired_sends _ _ _ hrequired) ?_
  split at h₁
  · obtain ⟨headers, t₁, henable, h₂⟩ := ends_bind.1 h₁
    have henables : Serial t t₁ := by
      rcases ends_branch.1 henable with ⟨-, henable⟩ | ⟨-, hpure⟩
      · exact enableSrm_serial henable (Eq.trans (hkeeps _ _ _ hrequired) hrequested)
      · obtain ⟨-, rfl⟩ := ends_pure.1 hpure
        exact Std.Refl.refl _
    refine trans_of Serial henables ?_
    refine Within.ite ?_ sendSimple_sends _ _ _ h₂
    exact initPacket_sends.seq sendHeaders_sends
  · obtain ⟨-, rfl⟩ := ends_pure.1 h₁
    exact Std.Refl.refl _

/-- A get response enables single response mode only where it is requested. -/
theorem getResponse_serial {s s' : Session}
    (h : Ends (getResponse rspHeaders rspStatus) s status s')
    (hrequested : s.channel.common.srm.requested = false) : Serial s s' := by
  unfold getResponse at h
  replace h := ends_bind_view.1 h
  split at h
  · exact Within.pure _ _ _ h
  · split at h
    · exact Within.pure _ _ _ h
    · split at h
      · exact Within.bind responseError_permitted (fun _ => Within.pure) _ _ _ h
      · obtain ⟨status, t, hsend, hrest⟩ := ends_bind.1 h
        refine trans_of Serial (sendGetResponse_serial hsend hrequested) ?_
        exact Within.bind (Within.only responseError_permitted) (fun _ => Within.pure)
          _ _ _ hrest

theorem putResponse_serial {s s' : Session}
    (h : Ends (putResponse rspHeaders rspStatus) s status s')
    (hrequested : s.channel.common.srm.requested = false) : Serial s s' := by
  unfold putResponse at h
  replace h := ends_bind_view.1 h
  split at h
  · exact Within.pure _ _ _ h
  · split at h
    · exact Within.pure _ _ _ h
    · split at h
      · exact Within.bind responseError_permitted (fun _ => Within.pure) _ _ _ h
      · split at h
        · exact Within.bind responseError_permitted (fun _ => Within.pure) _ _ _ h
        · obtain ⟨_, t, hcomplete, hsends⟩ := ends_bind.1 h
          obtain ⟨status, t₁, hsend, hrest⟩ := ends_bind.1 hsends
          have hoff : Within SameRequest srmOff := by
            intro s u s' h
            obtain rfl := ends_setCommon.1 h
            rfl
          have hkeeps : Within SameRequest (Prog.only (rspStatus ≠ .obexContinue) (do
              setState .putCompleting
              srmOff)) :=
            .only (.seq (.update fun _ => rfl) hoff)
          have hserial : Within Serial (Prog.only (rspStatus ≠ .obexContinue) (do
              setState .putCompleting
              srmOff)) :=
            .only ((setState_permitted (by decide)).seq srmOff_sends)
          have hlast : Serial t₁ s' := Within.bind (Within.only responseError_permitted)
            (fun _ => .pure) _ _ _ hrest
          calc Serial s t := hserial _ _ _ hcomplete
            Serial _ t₁ := sendPutResponse_serial hsend
              (Eq.trans (hkeeps _ _ _ hcomplete) hrequested)
            Serial _ s' := hlast

/-- A call that finds single response mode requested is recorded. -/
theorem call_serial {cfg : Config} {c : Call}
    (h : ∀ s status s', Ends (callFunction cfg c) s status s' →
      Act.enablesSrm (.called c ⟨s.connection, s.channel⟩) = false → Serial s s') :
    Within Serial (call cfg c) := by
  intro s u s' hcall
  obtain ⟨_, t, hrecord, h₁⟩ := ends_bind.1 (show Ends (do
    record (.called c ⟨s.connection, s.channel⟩)
    let status ← callFunction cfg c
    record (.answered c status)) s u s' from hcall)
  obtain rfl := ends_update.1 hrecord
  obtain ⟨status, t₁, hfunction, hanswer⟩ := ends_bind.1 h₁
  cases henables : Act.enablesSrm (.called c ⟨s.connection, s.channel⟩) with
  | false =>
      have hcalled : Serial s { s with
          history := s.history ++ [.called c ⟨s.connection, s.channel⟩] } :=
        Attends.act rfl
      have hanswered : Within Serial (record (.answered c status)) := record_permitted rfl
      calc Serial s _ := hcalled
        Serial _ t₁ := h _ _ _ hfunction henables
        Serial _ s' := hanswered _ _ _ hanswer
  | true =>
      -- nothing is said about what such a call does
      have hgrows := (callFunction_extends _ _ _ hfunction).history
      have hanswered : Within Grows (record (.answered c status)) := record_permitted rfl
      obtain ⟨acts, hacts⟩ := hgrows.trans (hanswered _ _ _ hanswer)
      refine ⟨.called c ⟨s.connection, s.channel⟩ :: acts, ?_, fun _ hnone => ?_⟩
      · rw [← hacts, append_assoc]
        rfl
      · rw [hnone _ mem_cons_self] at henables
        cases henables

instance (cfg : Config) : StepsCalls cfg Serial where
  supplies {c} hsupplies := by
    apply call_serial
    intro s status s' h henables
    cases c with
    | bulkGetResponse buffers rspStatus => exact bulkGetResponse_serial _ _ _ h
    | getResponse rspHeaders rspStatus => exact getResponse_serial h henables
    | putResponse rspHeaders rspStatus => exact putResponse_serial h henables
    | _ => cases hsupplies
  authenticates hauth := call_of_function (authenticates_credits cfg hauth)
  sendMore queueFull := by
    intro s u s' h
    replace h := ends_bind_view.1 h
    cases hsrm : s.channel.common.srm.enabled with
    | false =>
        rw [hsrm] at h
        obtain ⟨hmore, -⟩ | ⟨-, rfl⟩ := ends_only.1 h
        · cases hmore.2
        · exact Std.Refl.refl _
    | true =>
        have hgrows : Within Grows (Prog.only (¬ queueFull ∧ s.channel.common.srm.enabled)
          sendMore) := .only sendMore_permitted
        obtain ⟨acts, hacts⟩ := hgrows _ _ _ h
        refine ⟨acts, hacts.symm, fun hoff _ => ?_⟩
        rw [hsrm] at hoff
        cases hoff

/-! ## A get request -/

/-- `GetCommand` from the callback to its call of `OI_OBEXCOMMON_SendBulk`: whether it makes
the call. -/
def askForBlocks (cfg : Config) : Srv Bool := do
  let c ← connection
  if c.state = .bulkGetInProgress ∨ c.state = .bulkGetCompleting then
    if c.bulkGet.head.isSome then
      let _ ← confirmBulkGets cfg .obexContinue .completed
    else
      let _ ← indicate cfg (.bulkGetInd [] .obexContinue)
    let c ← connection
    return c.bulkGet.current.isSome
  else return false

/-- `GetCommand` up to its call of `OI_OBEXCOMMON_SendBulk`: whether it makes the call. -/
def comesToSend (cfg : Config) (rcvPacket : ByteStream) (final : Bool) : Srv Bool := do
  match ← receiveGet cfg rcvPacket final with
  | .error _ => return false
  | .ok (newRequest, request) =>
      match ← takeGet cfg newRequest request with
      | .served _ => askForBlocks cfg
      | _ => return false

theorem setBulkGet_idle {f : BulkGet → BulkGet} (hf : ∀ b, (f b).busy = false) {s s' : Session}
    (h : Ends (setBulkGet f) s u s') (hbusy : s.connection.bulkGet.busy = false) :
    Serial s s' ∧ s'.connection.bulkGet.busy = false := by
  obtain rfl := ends_setBulkGet.1 h
  exact ⟨Follows.follow (Prod.ext ((hf _).trans hbusy.symm) rfl), hf _⟩

theorem getCommandState_serial {s s' : Session} {entry : Except Status Bool}
    (h : Ends getCommandState s entry s') (hbusy : s.connection.bulkGet.busy = false) :
    Serial s s' := by
  unfold getCommandState at h
  obtain ⟨_, t, hset, h₁⟩ := ends_bind.1 h
  obtain ⟨hserial, hbusy⟩ := setBulkGet_idle (fun _ => rfl) hset hbusy
  refine trans_of Serial hserial ?_
  replace h₁ := ends_bind_view.1 h₁
  have hnew : Within Serial (setState .getInProgress) := setState_permitted (by decide)
  have hlookup (f : TargetInfo → Except Status Bool) : Within Serial (do
      let target ← currentTarget
      return f target) := currentTarget_sends.seq .pure
  split at h₁
  · obtain ⟨_, t₁, hstate, h₂⟩ := ends_bind.1 h₁
    refine trans_of Serial (hnew _ _ _ hstate) ?_
    obtain rfl := ends_update.1 hstate
    obtain ⟨_, t₂, hset₂, h₃⟩ := ends_bind.1 h₂
    refine trans_of Serial (setBulkGet_idle (fun _ => rfl) hset₂ hbusy).1 ?_
    refine (?_ : Within Serial _) _ _ _ h₃
    exact .seq (setConnection_step fun _ => rfl) <|
      .seq (setCommon_sends fun _ => id) <| .pure
  · exact hlookup _ _ _ _ h₁
  · exact hlookup _ _ _ _ h₁
  · exact hlookup _ _ _ _ h₁
  · exact hlookup _ _ _ _ h₁
  · exact Within.pure _ _ _ h₁
  · exact Within.pure _ _ _ h₁

theorem receiveGet_serial {cfg : Config} {rcvPacket : ByteStream} {final : Bool}
    {entry : Except Status (Bool × Request)} {s s' : Session}
    (h : Ends (receiveGet cfg rcvPacket final) s entry s')
    (hbusy : s.connection.bulkGet.busy = false) : Serial s s' := by
  unfold receiveGet at h
  obtain ⟨state, t, hstate, h₁⟩ := ends_bind.1 h
  refine trans_of Serial (getCommandState_serial hstate hbusy) ?_
  cases state with
  | error status => exact Within.pure _ _ _ h₁
  | ok newRequest =>
      refine (?_ : Within Serial _) _ _ _ h₁
      exact Within.view.seq <| Within.view.seq <|
        .ite .pure (.seq (setConnection_step fun _ => rfl) <|
          parseRequest_sends.bind fun ⟨_, _⟩ => .ite .pure .pure)

theorem takeGet_serial {cfg : Config} {newRequest : Bool} {request : Request} :
    Within Serial (takeGet cfg newRequest request) :=
  takeGetSrm_sends.seq <| Within.view.seq <| Within.view.seq <|
    .ite (.ite .pure (.seq (setCommon_sends fun _ => id) .pure))
      (.ite .pure .pure)

theorem askForBlocks_serial {cfg : Config} : Within Serial (askForBlocks cfg) :=
  Within.view.seq <|
    .ite
      (.ite ((confirmBulkGets_permitted _).seq <| Within.view.seq .pure)
        ((indicate_permitted _).seq <| Within.view.seq .pure))
      .pure

/-- A get request is served by a callback, and after it with what is queued. -/
theorem ends_serveGet {cfg : Config} {request : Request} {final : Bool} {s s' : Session}
    (h : Ends (serveGet cfg request final) s status s') :
    (∃ t, Ends (askForBlocks cfg) s true t ∧ Ends sendBulkGet t status s') ∨
      Ends (askForBlocks cfg) s false s' ∨ ∃ ind, Ends (indicate cfg ind) s status s' := by
  have hask {t : Session} (hask : Ends (askForBlocks cfg) s t.connection.bulkGet.current.isSome t)
      (hsend : Ends (if t.connection.bulkGet.current.isSome then sendBulkGet else pure .ok)
        t status s') :
      (∃ t, Ends (askForBlocks cfg) s true t ∧ Ends sendBulkGet t status s') ∨
        Ends (askForBlocks cfg) s false s' ∨ ∃ ind, Ends (indicate cfg ind) s status s' := by
    cases hsome : t.connection.bulkGet.current.isSome with
    | true =>
        rw [hsome] at hask hsend
        exact .inl ⟨t, hask, hsend⟩
    | false =>
        rw [hsome] at hask hsend
        obtain ⟨-, rfl⟩ := ends_pure.1 hsend
        exact .inr (.inl hask)
  unfold serveGet at h
  replace h := ends_bind_view.1 h
  split at h
  · next hstate =>
      split at h
      · next hhead =>
          obtain ⟨all, t, hconfirm, h₁⟩ := ends_bind.1 h
          refine hask (ends_bind_view.2 ?_) (ends_bind_view.1 h₁)
          rw [if_pos hstate, if_pos hhead]
          exact ends_bind.2 ⟨_, _, hconfirm, rfl⟩
      · next hhead =>
          obtain ⟨answer, t, hind, h₁⟩ := ends_bind.1 h
          refine hask (ends_bind_view.2 ?_) (ends_bind_view.1 h₁)
          rw [if_pos hstate, if_neg hhead]
          exact ends_bind.2 ⟨_, _, hind, rfl⟩
  · exact .inr (.inr ⟨_, h⟩)

section Get

variable {cfg : Config} {rcvPacket : ByteStream} {final : Bool} {s s' : Session}

theorem getCommandBody_serial (h : Ends (getCommandBody cfg rcvPacket final) s status s')
    (hbusy : s.connection.bulkGet.busy = false)
    (hsend : ∀ t, Ends (comesToSend cfg rcvPacket final) s true t →
      t.connection.bulkGet.busy = false) : Serial s s' := by
  rw [getCommandBody_eq] at h
  obtain ⟨entry, t, hreceive, h₁⟩ := ends_bind.1 h
  refine trans_of Serial (receiveGet_serial hreceive hbusy) ?_
  cases entry with
  | error status => exact Within.pure _ _ _ h₁
  | ok received =>
      obtain ⟨newRequest, request⟩ := received
      obtain ⟨stage, t₁, htake, h₂⟩ := ends_bind.1 h₁
      refine trans_of Serial (takeGet_serial _ _ _ htake) ?_
      cases stage with
      | refused status => exact Within.pure _ _ _ h₂
      | segment request => exact serverSendBodySegment_sends _ _ _ h₂
      | served request =>
          rcases ends_serveGet h₂ with ⟨t₂, hask, hbulk⟩ | hask | ⟨ind, hind⟩
          · have hcomes : Ends (comesToSend cfg rcvPacket final) s true t₂ :=
              ends_bind.2 ⟨_, _, hreceive, ends_bind.2 ⟨_, _, htake, hask⟩⟩
            exact trans_of Serial (askForBlocks_serial _ _ _ hask)
              (sendBulkGet_serial hbulk (hsend t₂ hcomes))
          · exact askForBlocks_serial _ _ _ hask
          · exact indicate_permitted _ _ _ _ hind

/-- The session when `GetCommand` has noted that it is not busy any more. -/
def Session.idle (s : Session) : Session :=
  { s with connection := { s.connection with
      bulkGet := { s.connection.bulkGet with busy := false } } }

theorem getCommand_serial (h : Ends (getCommand cfg rcvPacket final) s u s')
    (hsend : ∀ t, Ends (comesToSend cfg rcvPacket final) s true t →
      t.connection.bulkGet.busy = false) : Serial s.idle s' := by
  have hidle : Ends (getCommand cfg rcvPacket final) s.idle u s' := h
  obtain ⟨status, t, hbody, h₁⟩ := ends_bind.1 hidle
  refine trans_of Serial (getCommandBody_serial hbody rfl hsend) ?_
  have herror : Within Serial (Prog.only (¬ status.success) (getCommandError cfg status)) :=
    .only (getCommandError_permitted _)
  exact herror _ _ _ h₁

/-- The handling of a packet up to the call of `OI_OBEXCOMMON_SendBulk` in `GetCommand`. -/
def packetComesToSend (cfg : Config) (dataBuf : List UInt8) (addr : Nat) : Srv Bool := do
  let (cmdCode, rcvPacket) ← Prog.lift (openPacket dataBuf addr)
  comesToSend cfg rcvPacket (obexIsFinal cmdCode)

theorem handle_serial {dataBuf : List UInt8} {addr : Nat}
    (h : Ends (handle cfg (.lowerRecvDataInd dataBuf addr)) s u s')
    (hsend : ∀ t, Ends (packetComesToSend cfg dataBuf addr) s true t →
      t.connection.bulkGet.busy = false) : Serial s s' ∨ Serial s.idle s' := by
  by_cases hget : ∃ cmdCode rcvPacket, openPacket dataBuf addr = .ok (cmdCode, rcvPacket) ∧
      obexFinal cmdCode = obexFinal cmdGet
  · obtain ⟨cmdCode, rcvPacket, hopen, hcmd⟩ := hget
    replace h := ends_bind_view.1 h
    obtain ⟨-, h₁⟩ | ⟨-, rfl⟩ := ends_only.1 h
    · replace h₁ := ends_bind_view.1 h₁
      split at h₁
      · exact .inl (Within.pure _ _ _ h₁)
      · split at h₁
        · exact .inl (dropLowerConnection_permitted cfg _ _ _ h₁)
        · rw [hopen] at h₁
          obtain ⟨_, heq, h₂⟩ := ends_bind_lift.1 h₁
          cases heq
          have hdispatch : dispatchCommand cfg cmdCode rcvPacket =
              getCommand cfg rcvPacket (obexIsFinal cmdCode) := by
            unfold dispatchCommand
            rw [hcmd, if_neg (by decide), if_neg (by decide), if_neg (by decide), if_pos rfl]
          dsimp only at h₂
          rw [hdispatch] at h₂
          refine .inr (getCommand_serial h₂ fun t hcomes => hsend t ?_)
          rw [packetComesToSend, hopen]
          exact ends_bind.2 ⟨_, _, ends_lift.2 ⟨rfl, rfl⟩, hcomes⟩
    · exact .inl (Std.Refl.refl _)
  · refine .inl (handle_follows cfg ?_ _ _ _ h)
    rintro _ _ cmdCode rcvPacket ⟨rfl, rfl⟩ hopen hcmd
    exact absurd ⟨cmdCode, rcvPacket, hopen, hcmd⟩ hget

end Get

/-! ## Runs -/

/-- A get request arrives. -/
def Event.isGet : Event → Bool
  | .lowerRecvDataInd (cmdCode :: _) _ => obexFinal cmdCode == obexFinal cmdGet
  | _ => false

theorem run_serial {cfg : Config} {events : List Event}
    (h : ∀ event ∈ events, event.isGet = false) : Within Serial (run cfg events) := by
  induction events with
  | nil => exact .pure
  | cons event events ih =>
      have hstep : Within Serial (step cfg event) := by
        refine .seq .view <| (record_permitted rfl).seq <|
          handle_follows cfg ?_
        rintro dataBuf addr cmdCode rcvPacket rfl hopen hcmd
        have hopcode := openPacket_opcode hopen
        have hnot := h _ mem_cons_self
        cases dataBuf with
        | nil => cases hopcode
        | cons b tl =>
            obtain rfl := Option.some.inj hopcode
            rw [Event.isGet, hcmd] at hnot
            cases hnot
      exact hstep.seq <| ih fun event hmem => h event (mem_cons_of_mem _ hmem)

/-- The session with an event recorded. -/
def Session.noted (s : Session) (event : Event) : Session :=
  { s with history := s.history ++ [.event event ⟨s.connection, s.channel⟩] }

/-- What a run may write. -/
theorem Serial.packets {s s' : Session} (h : Serial s s')
    (hsrm : s.channel.common.srm.enabled = false)
    (hoff : ∀ act ∈ s'.history.drop s.history.length, act.enablesSrm = false) :
    s'.channel.bulkPackets ≤ s.channel.bulkPackets + 1 := by
  obtain ⟨acts, hacts, hbound⟩ := h
  rw [hacts, drop_left] at hoff
  have hle := (hbound hsrm hoff).2
  unfold Session.packetBound at hle
  split at hle <;> split at hle <;> omega

/-- In every run without single response mode, a get request is answered with at most one
packet before the next get request, where its callback does not leave the connection busy with
data queued: where `GetCommand` does not come to `SendBulk` with a busy connection. -/
theorem one_packet_per_get (cfg : Config) (dataBuf : List UInt8) (addr : Nat)
    (events : List Event) (s s' : Session)
    (hrun : Ends (run cfg (.lowerRecvDataInd dataBuf addr :: events)) s () s')
    (hget : ∀ event ∈ events, event.isGet = false)
    (hsrm : s.channel.common.srm.enabled = false)
    (hoff : ∀ act ∈ s'.history.drop s.history.length, act.enablesSrm = false)
    (hsend : ∀ t, Ends (packetComesToSend cfg dataBuf addr)
      (s.noted (.lowerRecvDataInd dataBuf addr)) true t → t.connection.bulkGet.busy = false) :
    s'.channel.bulkPackets ≤ s.channel.bulkPackets + 1 := by
  obtain ⟨_, t, hstep, hrest⟩ := ends_bind.1 hrun
  have hrest : Serial t s' := run_serial hget _ _ _ hrest
  have hhandle : Ends (handle cfg (.lowerRecvDataInd dataBuf addr))
      (s.noted (.lowerRecvDataInd dataBuf addr)) () t := hstep
  have hnoted : ∀ act ∈ s'.history.drop (s.noted (.lowerRecvDataInd dataBuf addr)).history.length,
      act.enablesSrm = false := by
    intro act hact
    rw [Session.noted, length_append, ← drop_drop] at hact
    exact hoff act (mem_of_mem_drop hact)
  rcases handle_serial hhandle hsend with hserial | hserial
  · exact (trans_of Serial hserial hrest).packets hsrm hnoted
  · exact (trans_of Serial hserial hrest).packets hsrm hnoted

/-- A bulk get in progress; the application answers the next callback with a block. -/
def bulkSession (contents : List UInt8) : Session :=
  let s := accepted sampleConfig bulkServer
    (friendly [⟨[.bulkGetResponse [(1, contents)] .obexContinue], .ok⟩])
  { s with
    connection := { s.connection with
      state := .bulkGetInProgress
      currentTarget := some bulkServer.targetInfo } }

theorem one_packet_per_get_short : ∃ s' : Session,
    Ends (run sampleConfig [.lowerRecvDataInd [0x83, 0, 3] 0]) (bulkSession [1, 2, 3]) () s' ∧
      s'.channel.bulkPackets ≤ (bulkSession [1, 2, 3]).channel.bulkPackets + 1 := by
  have hrun : ∃ s', Ends (run sampleConfig [.lowerRecvDataInd [0x83, 0, 3] 0])
      (bulkSession [1, 2, 3]) () s' ∧
        (s'.history.drop 0).all (fun act => !act.enablesSrm) = true :=
    reaches_iff.1 (by decide +kernel)
  obtain ⟨s', hrun, hacts⟩ := hrun
  have hask : ∃ t, Ends (do
      let sends ← packetComesToSend sampleConfig [0x83, 0, 3] 0
      Prog.only sends (Prog.fault .fuel))
        ((bulkSession [1, 2, 3]).noted (.lowerRecvDataInd [0x83, 0, 3] 0)) () t ∧ true = true :=
    reaches_iff.1 (by decide +kernel)
  obtain ⟨t, hask, -⟩ := hask
  obtain ⟨sends, t₁, hask, honly⟩ := ends_bind.1 hask
  refine ⟨s', hrun, one_packet_per_get sampleConfig [0x83, 0, 3] 0 [] (bulkSession [1, 2, 3]) s'
    hrun nofun rfl ?_ ?_⟩
  · intro act hact
    exact Bool.not_eq_true' _ ▸ all_eq_true.1 hacts act hact
  · intro t' hcomes
    obtain ⟨-, hfault⟩ | ⟨hnot, -⟩ := ends_only.1 honly
    · exact absurd hfault ends_fault
    · exact absurd (hcomes.unique hask).1.symm hnot

/-- A bulk get is started; the next get request asks for the first block. -/
def connectThenGet : List Event :=
  [.lowerConnectCfm 300 300 true .ok, .lowerRecvDataInd [0x80, 0, 7, 0x10, 0, 4, 0] 0,
    .call (.acceptConnect true .ok none), .lowerWriteCfm false .ok,
    .lowerRecvDataInd [0x83, 0, 7, 0x42, 0, 4, 0x61] 0, .call (.getResponse none .obexContinue),
    .lowerWriteCfm false .ok]

/-- A block longer than a packet, supplied in the callback, is answered with two packets. -/
theorem two_packets_for_one_get :
    ¬ ∀ (cfg : Config) (server : ObexServer) (env : Surroundings) (before events : List Event)
      (dataBuf : List UInt8) (addr : Nat) (s s' : Session),
      Ends (run cfg before) (accepted cfg server env) () s →
      Event.isGet (.lowerRecvDataInd dataBuf addr) = true →
      (∀ event ∈ events, event.isGet = false) →
      Ends (run cfg (.lowerRecvDataInd dataBuf addr :: events)) s () s' →
      s.channel.common.srm.enabled = false →
      (∀ act ∈ s'.history.drop s.history.length, act.enablesSrm = false) →
      s'.channel.bulkPackets ≤ s.channel.bulkPackets + 1 := by
  intro hall
  have hreach : reaches (run sampleConfig connectThenGet)
      (accepted sampleConfig bulkServer (friendly [⟨[], .ok⟩, ⟨[], .ok⟩,
        ⟨[.bulkGetResponse [(1, List.replicate 600 0)] .obexContinue], .ok⟩]))
      (fun s => !s.channel.common.srm.enabled &&
        reaches (run sampleConfig [.lowerRecvDataInd [0x83, 0, 3] 0]) s fun s' =>
          (s'.history.drop s.history.length).all (fun act => !act.enablesSrm) &&
            decide (s.channel.bulkPackets + 1 < s'.channel.bulkPackets)) = true := by
    decide +kernel
  obtain ⟨s, hbefore, hcheck⟩ := reaches_iff.1 hreach
  obtain ⟨hsrm, hcheck⟩ := Bool.and_eq_true_iff.1 hcheck
  obtain ⟨s', hrun, hcheck⟩ := reaches_iff.1 hcheck
  obtain ⟨hoff, hmore⟩ := Bool.and_eq_true_iff.1 hcheck
  have hle := hall _ _ _ _ [] [0x83, 0, 3] 0 s s' hbefore (by decide) nofun hrun
    (Bool.not_eq_true' _ ▸ hsrm)
    (fun act hact => Bool.not_eq_true' _ ▸ all_eq_true.1 hoff act hact)
  exact absurd (of_decide_eq_true hmore) (Nat.not_lt.2 hle)

end Obex.Server
