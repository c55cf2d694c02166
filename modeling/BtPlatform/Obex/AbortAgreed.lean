import BtPlatform.Obex.Bulk.Payload
import BtPlatform.Obex.Client.Aborting
import BtPlatform.Obex.Packet
import BtPlatform.Obex.Server.Attended

/-!
# The end of an abort

The server answers an abort in one of three ways: at the end of `AbortOperation`, when
the last block in flight has been confirmed, or with the packet that the application
has had `OI_OBEXSRV_AbortResponse` prepare. The client takes the answer for what it is
exactly if it is the plain success response. The application's status becomes the
response code as it is, unlike those of the other responses, so `OI_OK` does not make
a success response; and an answer with headers is longer than the client expects.
-/

namespace Obex

open Support Format Program Linked Prog Bulk List

namespace Server

open Srv

/-! ## What is kept of an answer -/

/-- Unless the application is to answer an abort, the answer is not touched. -/
def KeepsAnswer (s s' : Session) : Prop :=
  s.connection.abortResponsePending = false →
    s'.connection.abortAnswer = s.connection.abortAnswer

instance : IsPreorder Session KeepsAnswer where
  refl _ _ := rfl
  trans _ _ _ h₁ h₂ hnone := (h₂ ((congrArg Prod.fst (h₁ hnone)).trans hnone)).trans (h₁ hnone)

theorem continues_keepsAnswer {α : Type} {m : Srv α} (h : Within Continues m) :
    Within KeepsAnswer m := h.mono fun _ _ hcontinues => hcontinues.answer

theorem abortCleanup_keepsAnswer {cfg : Config} : Within KeepsAnswer (abortCleanup cfg) := by
  refine Within.view.bind fun c => ?_
  split
  · exact continues_keepsAnswer (setState_continues.seq <| srmOff_sends.bind
      fun _ => indicate_ignored_permitted _)
  · exact continues_keepsAnswer (setState_continues.seq <| srmOff_sends.bind
      fun _ => indicate_ignored_permitted _)
  · exact continues_keepsAnswer (setState_continues.seq <|
      indicate_ignored_permitted _)
  · exact continues_keepsAnswer (setState_continues.seq <|
      indicate_ignored_permitted _)
  all_goals first
    | exact Within.pure
    | exact .ite
        (continues_keepsAnswer (srmOff_sends.seq <| setState_continues.bind
          fun _ => indicate_ignored_permitted _))
        ((continues_keepsAnswer (confirmBulkGets_permitted _)).bind fun ⟨_, _⟩ => .ite
          (Within.seq (Within.update fun _ _ => rfl) <|
            continues_keepsAnswer (srmOff_sends.seq setState_continues))
          (Within.update fun _ _ => rfl))

/-! ## The answer -/

/-- One packet was passed to the lower layer. -/
def Wrote (s s' : Session) (packet : List UInt8) : Prop :=
  ∃ bulk status, s'.channel.lower.attempts =
    s.channel.lower.attempts ++ [.wrote bulk packet status]

/-- The packet of `OI_OBEXCOMMON_SendOk`. -/
def okPacket : List UInt8 := [obexFinal rspOk, 0, 3]

theorem bytes_wrap (bytes : List UInt8) : (Mbuf.wrap bytes).bytes = bytes := by
  simp [Mbuf.wrap, Mbuf.bytes]

variable {s s' : Session} {packet : List UInt8} {headers : List Header}

/-- What a simple response writes, if it writes at all. -/
theorem sendSimple_wrote {opcode : UInt8} {status : Status}
    (h : Ends (onChannel (OnChannel.sendSimple opcode)) s status s') (hwrote : Wrote s s' packet) :
    packet = [opcode, 0, 3] := by
  obtain ⟨ch, hends, rfl⟩ := ends_onChannel.1 h
  obtain ⟨bulk, written, hattempts⟩ := hwrote
  rw [(sendSimple_ends hends).2] at hattempts
  have hlast := singleton_inj.1 (append_cancel_left hattempts)
  split at hlast
  · injection hlast with _ hpacket
    exact hpacket.symm
  · cases hlast

/-- The answer is the packet prepared for it, or else the plain one. -/
theorem answerAbort_wrote {t : Session} (hpending : t.connection.abortPending = false)
    (h : Ends answerAbort t () s') (hwrote : Wrote t s' packet) :
    packet = (t.connection.abortMbuf.map Mbuf.bytes).getD okPacket := by
  replace h := ends_bind_view.1 h
  rw [if_neg (by simp [hpending])] at h
  split at h
  · next mbuf hmbuf =>
      obtain ⟨⟨result, queueFull⟩, t₁, hwrite, hclear⟩ := ends_bind.1 h
      obtain ⟨ch, hends, rfl⟩ := ends_onChannel.1 hwrite
      have hchannel : s'.channel = ch := by
        obtain ⟨-, hset⟩ | ⟨-, rfl⟩ := ends_only.1 hclear
        · obtain rfl := ends_update.1 hset
          rfl
        · rfl
      obtain ⟨bulk, written, hattempts⟩ := hwrote
      rw [hchannel, (write_ends hends).2] at hattempts
      have hlast := singleton_inj.1 (append_cancel_left hattempts)
      injection hlast with _ hpacket
      rw [hmbuf]
      exact hpacket.symm
  · next hnone =>
      obtain ⟨status, hsend, -⟩ := ends_bind_return.1 h
      rw [hnone]
      exact sendSimple_wrote hsend hwrote

/-! ## What the application prepares -/

/-- The response code of a prepared answer. -/
def abortOpcode (rspStatus : Status) : UInt8 := obexFinal (UInt8.ofNat rspStatus.code)

theorem abortResponse_prepares {rspHeaders : Option (List Header)} {rspStatus : Status}
    (h : Ends (abortResponse rspHeaders rspStatus) s .ok s') :
    s'.connection.abortResponsePending = false ∧
      ∃ t t', Ends (composeAbort rspHeaders rspStatus) t (.ok, s'.connection.abortMbuf) t' ∧
        t.channel = s.channel := by
  replace h := ends_bind_view.1 h
  split at h
  · obtain ⟨hstatus, -⟩ := ends_pure.1 h
    cases hstatus
  · replace h := ends_bind_update.1 h
    obtain ⟨⟨status, mbuf⟩, t, hcompose, hrest⟩ := ends_bind.1 h
    have hanswer := continues_keepsAnswer composeAbort_permitted _ _ _ hcompose rfl
    have hpending : t.connection.abortResponsePending = false := congrArg Prod.fst hanswer
    obtain ⟨_, t₁, hdisown, hrest⟩ := ends_bind.1 hrest
    obtain ⟨ch, -, rfl⟩ := ends_onChannel.1 hdisown
    replace hrest := ends_bind_update.1 hrest
    dsimp only at hrest
    split at hrest
    · next hok =>
        obtain rfl : status = .ok := by simpa using hok
        have hregister := continues_keepsAnswer register_permitted _ _ _ hrest hpending
        have hmbuf : s'.connection.abortMbuf = mbuf := congrArg Prod.snd hregister
        refine ⟨(congrArg Prod.fst hregister).trans hpending,
          { s with connection := { s.connection with abortResponsePending := false } }, t, ?_, rfl⟩
        rw [hmbuf]
        exact hcompose
    · next hfail =>
        obtain ⟨rfl, -⟩ := ends_pure.1 hrest
        exact absurd rfl hfail

theorem composeAbort_none {rspStatus status : Status} {mbuf : Option Mbuf}
    (h : Ends (composeAbort none rspStatus) s (status, mbuf) s') :
    mbuf = if s.channel.hasRoom 0 then some (Mbuf.wrap [abortOpcode rspStatus, 0, 3])
      else none := by
  obtain ⟨room, t, htake, hpure⟩ := ends_bind.1 h
  obtain ⟨ch, hends, rfl⟩ := ends_onChannel.1 htake
  obtain ⟨rfl, -⟩ := hends.unique (OnChannel.takeMbuf_ends s.channel)
  obtain ⟨hresult, -⟩ := ends_pure.1 hpure
  exact (Prod.mk.inj hresult).2

theorem initPacket_ends {opcode : UInt8} {pkt : ByteStream} {ch ch' : Channel}
    (h : Ends (OnChannel.initPacket opcode) ch pkt ch') : Composed pkt ∧ pkt.pos = 3 ∧
      ch' = { ch with common :=
        { ch.common with currentOpcode := opcode, bodySegment := none } } := by
  obtain ⟨pkt₁, hinit, hcomposed, hpos⟩ := initPacket_composed ch.common opcode
  replace h := ends_bind_view.1 h
  obtain ⟨⟨common, pkt₂⟩, ch₁, hlift, h⟩ := ends_bind.1 h
  obtain ⟨hmade, rfl⟩ := ends_lift.1 hlift
  obtain ⟨rfl, rfl⟩ := Prod.mk.inj (Except.ok.inj (hinit.symm.trans hmade))
  replace h := ends_bind_update.1 h
  obtain ⟨rfl, rfl⟩ := ends_pure.1 h
  exact ⟨hcomposed, hpos, rfl⟩

theorem composeAbort_some {rspStatus : Status} {mbuf : Option Mbuf}
    (hmax : s.channel.common.maxSendPktLen < 65536)
    (hfits : 3 + wireLengths headers ≤ s.channel.common.maxSendPktLen)
    (h : Ends (composeAbort (some headers) rspStatus) s (.ok, mbuf) s') :
    ∃ packet, mbuf = some packet ∧
      Carries 3 (abortOpcode rspStatus) (packetOrder headers) packet := by
  obtain ⟨pkt, t, hpkt, hrest⟩ := ends_bind.1 h
  obtain ⟨ch, hends, rfl⟩ := ends_onChannel.1 hpkt
  obtain ⟨hcomposed, hpos, rfl⟩ := initPacket_ends hends
  replace hrest := ends_bind_view.1 hrest
  obtain ⟨⟨status, mbuf₁, common, memory⟩, t₁, hlift, hrest⟩ := ends_bind.1 hrest
  obtain ⟨hmarshal, rfl⟩ := ends_lift.1 hlift
  obtain ⟨_, t₂, -, hrest⟩ := ends_bind.1 hrest
  obtain ⟨hresult, -⟩ := ends_pure.1 hrest
  obtain ⟨rfl, rfl⟩ := Prod.mk.inj hresult
  have hlen : pkt.pos + wireLengths ([] ++ headers) ≤ s.channel.common.maxSendPktLen := by
    rw [hpos]
    exact hfits
  obtain ⟨_, _, _, _, hrun, hok, -⟩ := @marshalPacketMbuf_fits [] headers pkt
    { s.channel.common with currentOpcode := abortOpcode rspStatus, bodySegment := none }
    hcomposed rfl hmax hlen s.channel.memory
  have hsame := Prod.mk.inj (Except.ok.inj (hrun.symm.trans hmarshal))
  obtain ⟨rfl, hsame⟩ := hsame
  obtain ⟨rfl, -⟩ := Prod.mk.inj hsame
  obtain ⟨packet, rfl, hcarries, -⟩ := hok rfl
  rw [hpos] at hcarries
  exact ⟨packet, rfl, hcarries⟩

/-! ## The ways to answer an abort -/

/-- How the server answers an abort. -/
inductive AbortWay
  /-- `AbortOperation` as the abort arrives -/
  | atOnce
  /-- when the last block of a bulk get is confirmed -/
  | afterBlocks
  /-- `AbortOperation` after a call of `OI_OBEXSRV_AbortResponse` -/
  | byApplication (rspHeaders : Option (List Header)) (rspStatus : Status)

/-- After the cleanup of `AbortOperation` nothing is pending, and a packet is sent. -/
def OperationAnswers (cfg : Config) (s : Session) (packet : List UInt8) : Prop :=
  ∃ t s', Ends (abortCleanup cfg) s () t ∧ t.connection.abortPending = false ∧
    Ends answerAbort t () s' ∧ Wrote t s' packet

namespace AbortWay

/-- An abort is answered with the packet. -/
def Answers (cfg : Config) (s : Session) (packet : List UInt8) : AbortWay → Prop
  | atOnce => s.connection.abortResponsePending = false ∧
      ∃ t, Ends clearAbortMbuf s () t ∧ OperationAnswers cfg t packet
  | afterBlocks => ∃ final status t s',
      Ends (confirmBulkGets cfg .obexClientAbortedCommand .all) s (true, final) t ∧
        Ends (onChannel OnChannel.sendOk) t status s' ∧ Wrote t s' packet
  | byApplication rspHeaders rspStatus => ∃ t t',
      Ends (abortResponse rspHeaders rspStatus) s .ok t ∧
        t'.connection.abortAnswer = t.connection.abortAnswer ∧ OperationAnswers cfg t' packet

/-- The headers fit into a packet. -/
def Fits (s : Session) : AbortWay → Prop
  | byApplication (some headers) _ => s.channel.common.maxSendPktLen < 65536 ∧
      3 + wireLengths headers ≤ s.channel.common.maxSendPktLen
  | _ => True

/-- The answer is the plain success response: the status that the application gives is
its code, and there are no headers. An answer that finds no room for itself is made up
for by the plain one. -/
def Plain (s : Session) : AbortWay → Prop
  | byApplication none rspStatus =>
      s.channel.hasRoom 0 = true → abortOpcode rspStatus = obexFinal rspOk
  | byApplication (some headers) rspStatus =>
      abortOpcode rspStatus = obexFinal rspOk ∧ headers = []
  | _ => True

end AbortWay

theorem operationAnswers_packet {cfg : Config} (h : OperationAnswers cfg s packet)
    (hnone : s.connection.abortResponsePending = false) :
    packet = (s.connection.abortMbuf.map Mbuf.bytes).getD okPacket := by
  obtain ⟨t, s', hcleanup, hpending, hanswer, hwrote⟩ := h
  have hkept := abortCleanup_keepsAnswer _ _ _ hcleanup hnone
  have hmbuf : t.connection.abortMbuf = s.connection.abortMbuf := congrArg Prod.snd hkept
  rw [← hmbuf]
  exact answerAbort_wrote hpending hanswer hwrote

theorem clearAbortMbuf_none {t : Session} (h : Ends clearAbortMbuf s () t) :
    t.connection = { s.connection with abortMbuf := none } := by
  obtain ⟨_, t₁, hdisown, hset⟩ := ends_bind.1 h
  obtain ⟨ch, -, rfl⟩ := ends_onChannel.1 hdisown
  obtain rfl := ends_update.1 hset
  rfl

/-! ### The packet of an answer -/

theorem encodeHeaders_eq_nil : encodeHeaders (packetOrder headers) = [] ↔ headers = [] := by
  constructor
  · intro hnil
    by_contra hsome
    obtain ⟨header, rest, rfl⟩ := exists_cons_of_ne_nil hsome
    have hlen := encodeHeaders_length (packetOrder (header :: rest))
    rw [hnil, wireLengths_packetOrder, wireLengths_cons] at hlen
    have hpos := wireLength_pos header
    have hzero : ([] : List UInt8).length = 0 := rfl
    omega
  · rintro rfl
    rfl

/-- A packet whose header is three bytes long. -/
theorem carries_bytes {opcode : UInt8} {mbuf : Mbuf} (h : Carries 3 opcode headers mbuf) :
    ∃ hi lo, mbuf.bytes = opcode :: hi :: lo :: encodeHeaders headers := by
  obtain ⟨hi, lo, hhi, hlo, -⟩ := h.lengthField
  refine ⟨hi, lo, ?_⟩
  have hopcode := h.opcode_eq
  rw [← h.headers_eq]
  match mbuf.bytes, hopcode, hhi, hlo with
  | a :: b :: c :: rest, hopcode, hhi, hlo =>
      obtain rfl := Option.some.inj hopcode
      obtain rfl := Option.some.inj hhi
      obtain rfl := Option.some.inj hlo
      rfl

/-- The packet of an answer: a code, two bytes of length, and the rest. -/
theorem answers_packet {cfg : Config} {way : AbortWay} (hfits : way.Fits s)
    (h : way.Answers cfg s packet) :
    ∃ rspCode hi lo body, packet = rspCode :: hi :: lo :: body ∧ packet.length < 65536 ∧
      ((rspCode = obexFinal rspOk ∧ body = []) ↔ way.Plain s) := by
  have hok : packet = okPacket → ∀ {p : Prop}, p → ∃ rspCode hi lo body,
      packet = rspCode :: hi :: lo :: body ∧ packet.length < 65536 ∧
        ((rspCode = obexFinal rspOk ∧ body = []) ↔ p) := by
    rintro rfl p hp
    exact ⟨_, 0, 3, [], rfl, by decide, by simp [hp]⟩
  cases way with
  | atOnce =>
      obtain ⟨hnone, t, hclear, hoperation⟩ := h
      have hconnection := clearAbortMbuf_none hclear
      have hpacket := operationAnswers_packet hoperation (by rw [hconnection]; exact hnone)
      rw [hconnection] at hpacket
      exact hok hpacket trivial
  | afterBlocks =>
      obtain ⟨final, status, t, s', -, hsend, hwrote⟩ := h
      exact hok (sendSimple_wrote hsend hwrote) trivial
  | byApplication rspHeaders rspStatus =>
      obtain ⟨t, t', hresponse, hheld, hoperation⟩ := h
      obtain ⟨hnone, u, u', hcompose, hchannel⟩ := abortResponse_prepares hresponse
      have hmbuf : t'.connection.abortMbuf = t.connection.abortMbuf := congrArg Prod.snd hheld
      have hpacket := operationAnswers_packet hoperation ((congrArg Prod.fst hheld).trans hnone)
      rw [hmbuf] at hpacket
      cases rspHeaders with
      | none =>
          have hprepared := composeAbort_none hcompose
          rw [hchannel] at hprepared
          by_cases hroom : s.channel.hasRoom 0 = true
          · rw [if_pos hroom] at hprepared
            rw [hprepared, Option.map_some, Option.getD_some, bytes_wrap] at hpacket
            refine ⟨_, 0, 3, [], hpacket, ?_, ?_⟩
            · rw [hpacket]
              exact (by decide : 3 < 65536)
            · simp [AbortWay.Plain, hroom]
          · rw [if_neg hroom] at hprepared
            rw [hprepared] at hpacket
            exact hok hpacket fun hasRoom => absurd hasRoom hroom
      | some headers =>
          obtain ⟨hmax, hlen⟩ := hfits
          rw [← hchannel] at hmax hlen
          obtain ⟨mbuf, hprepared, hcarries⟩ := composeAbort_some hmax hlen hcompose
          rw [hprepared, Option.map_some, Option.getD_some] at hpacket
          obtain ⟨hi, lo, hbytes⟩ := carries_bytes hcarries
          refine ⟨_, hi, lo, _, hpacket.trans hbytes, ?_, ?_⟩
          · rw [hpacket, hcarries.length, wireLengths_packetOrder]
            omega
          · rw [encodeHeaders_eq_nil]
            rfl

/-! ## Packets in flight -/

/-- The packets that carry a part of a body. -/
inductive BodyPacket : List UInt8 → Prop
  /-- of a bulk transfer -/
  | bulk {opcode : UInt8} {closing : Bool} {body : List UInt8}
      (hlen : (packetOf opcode closing body).length < 65536) :
      BodyPacket (packetOf opcode closing body)
  /-- of `OI_OBEXCOMMON_MarshalPacketMbuf` -/
  | marshalled {p : Nat} {opcode : UInt8} {headers : List Header} {mbuf : Mbuf}
      (hcarries : Carries p opcode headers mbuf) (hp : 3 ≤ p)
      (hbody : ∃ header ∈ headers, header.id = hdrBody ∨ header.id = hdrEndOfBody)
      (hlen : mbuf.bytes.length < 65536) : BodyPacket mbuf.bytes

theorem bodyPacket_length (h : BodyPacket packet) : 3 < packet.length ∧ packet.length < 65536 := by
  cases h with
  | bulk hlen =>
      refine ⟨?_, hlen⟩
      rw [length_packetOf]
      unfold bulkHdrSize
      omega
  | marshalled hcarries hp hbody hlen =>
      refine ⟨?_, hlen⟩
      obtain ⟨header, hmem, -⟩ := hbody
      have hle := wireLength_le_of_mem hmem
      have hpos := wireLength_pos header
      rw [hcarries.length]
      omega

/-- The client discards a packet that carries a part of a body. -/
theorem bodyPacket_discarded (cfg : Client.Config) (h : BodyPacket packet) :
    Client.Discarded cfg packet := by
  obtain ⟨hlong, hlen⟩ := bodyPacket_length h
  match packet, hlong, hlen with
  | rspCode :: hi :: lo :: b :: body, _, hlen =>
      exact Client.discarded_of_other hlen fun hplain => absurd hplain.2 (cons_ne_nil _ _)

end Server

/-! ## The agreement -/

/-- However the server answers an abort, and whichever packets of the body are still in
flight: the client discards those, and takes the answer for the end of the abort exactly
if the answer is plain. -/
theorem abort_agreed_iff (cfg : Server.Config) (ccfg : Client.Config) (way : Server.AbortWay)
    (s : Server.Session) (packet : List UInt8) (bodies : List (List UInt8))
    (hfits : way.Fits s) (hanswers : way.Answers cfg s packet)
    (hbodies : ∀ body ∈ bodies, Server.BodyPacket body) :
    Client.Settles ccfg bodies packet ↔ way.Plain s := by
  obtain ⟨rspCode, hi, lo, body, rfl, hlen, hplain⟩ := Server.answers_packet hfits hanswers
  rw [← hplain]
  exact Client.settles_iff
    (fun b hmem => Server.bodyPacket_discarded ccfg (hbodies b hmem)) hlen

namespace Server

/-- A test of what `OperationAnswers` says. -/
def operationAnswers (cfg : Config) (s : Session) (packet : List UInt8) : Bool :=
  Prog.reaches (abortCleanup cfg) s fun t => !t.connection.abortPending &&
    Prog.reaches answerAbort t fun s' =>
      decide (s'.channel.lower.attempts = t.channel.lower.attempts ++ [.wrote false packet .ok])

theorem operationAnswers_sound {cfg : Config} {s : Session} {packet : List UInt8}
    (h : operationAnswers cfg s packet = true) : OperationAnswers cfg s packet := by
  obtain ⟨t, hcleanup, h⟩ := reaches_iff.1 h
  obtain ⟨hpending, hanswer⟩ := Bool.and_eq_true_iff.1 h
  obtain ⟨s', hends, hattempts⟩ := reaches_iff.1 hanswer
  exact ⟨t, s', hcleanup, by simpa using hpending, hends, false, .ok, of_decide_eq_true hattempts⟩

end Server

/-- An abort of a put is answered at once, while a packet is in flight. -/
theorem abort_agreed_put :
    ∃ s, Ends (Server.run Server.sampleConfig Server.connectThenPut)
        (Server.accepted Server.sampleConfig (Server.sampleServer .none false false)
          (Server.friendly [])) () s ∧
      (Client.Settles Client.sampleConfig [packetOf 0x90 false [1]] [0xA0, 0, 3] ↔
        Server.AbortWay.atOnce.Plain s) := by
  have hreach : reaches (Server.run Server.sampleConfig Server.connectThenPut)
      (Server.accepted Server.sampleConfig (Server.sampleServer .none false false)
        (Server.friendly []))
      (fun s => !s.connection.abortResponsePending && reaches Server.clearAbortMbuf s fun t =>
        Server.operationAnswers Server.sampleConfig t [0xA0, 0, 3]) = true := by
    decide +kernel
  obtain ⟨s, hends, hcheck⟩ := reaches_iff.1 hreach
  obtain ⟨hnone, hclear⟩ := Bool.and_eq_true_iff.1 hcheck
  obtain ⟨t, hclear, hanswers⟩ := reaches_iff.1 hclear
  refine ⟨s, hends, abort_agreed_iff Server.sampleConfig Client.sampleConfig .atOnce s _ _ trivial
    ⟨by simpa using hnone, t, hclear, Server.operationAnswers_sound hanswers⟩ ?_⟩
  intro body hmem
  obtain rfl := mem_singleton.1 hmem
  exact .bulk (by decide)

/-- `OI_OK` as the status of an abort response makes a packet that is not a success
response, so the client waits on. -/
theorem abortResponse_ok_not_agreed :
    ∃ s, Ends (Server.run Server.sampleConfig
        (Server.connectThenPut ++ [.lowerRecvDataInd [0xFF, 0, 3] 0]))
        (Server.accepted Server.sampleConfig (Server.sampleServer .none true false)
          (Server.friendly [])) () s ∧
      (Server.AbortWay.byApplication none .ok).Answers Server.sampleConfig s [0x80, 0, 3] ∧
      ¬ Client.Settles Client.sampleConfig [] [0x80, 0, 3] := by
  have hreach : reaches (Server.run Server.sampleConfig
      (Server.connectThenPut ++ [.lowerRecvDataInd [0xFF, 0, 3] 0]))
      (Server.accepted Server.sampleConfig (Server.sampleServer .none true false)
        (Server.friendly []))
      (fun s => reaches
        (Server.abortResponse none .ok >>= fun status =>
          if status = .ok then pure () else fault .fuel) s fun t =>
        Server.operationAnswers Server.sampleConfig
          { t with connection := { t.connection with abortPending := false } } [0x80, 0, 3]) =
        true := by
    decide +kernel
  obtain ⟨s, hends, hcheck⟩ := reaches_iff.1 hreach
  obtain ⟨t, hresponse, hanswers⟩ := reaches_iff.1 hcheck
  obtain ⟨status, u, hresponse, hok⟩ := ends_bind.1 hresponse
  refine ⟨s, hends, ⟨u, _, ?_, ?_, Server.operationAnswers_sound hanswers⟩, ?_⟩
  · split at hok
    · next hstatus =>
        obtain rfl := hstatus
        exact hresponse
    · exact absurd hok ends_fault
  · split at hok
    · obtain ⟨-, rfl⟩ := ends_pure.1 hok
      rfl
    · exact absurd hok ends_fault
  · rw [Client.settles_iff (fun _ hmem => absurd hmem (not_mem_nil)) (by decide)]
    decide

end Obex
