import BtPlatform.Obex.ParseExact
import BtPlatform.Obex.Server.Refuse

/-!
# Commands rejected because of the state

`rejected_iff` tells exactly which commands, received in a state in which they are not
legal, get an error response and leave the session as it was. A connect request and a
get request never do: the error paths of both set the state. The other commands do,
each with at most one state as an exception.
-/

namespace Obex.Server

open Support Format Program Linked Prog Srv List

/-! ## The property -/

/-- The commands that are legal only in some states. -/
def isCommand (cmdCode : UInt8) : Bool :=
  [cmdConnect, cmdPut, cmdGet, cmdSetPath, cmdAction, cmdSession].any fun cmd =>
    obexFinal cmdCode == obexFinal cmd

/-- A get request is legal when no operation or a get is running, but with single
response mode not after the final request of the get. -/
def getIsLegal (s : Session) : Bool :=
  s.connection.state = .obexConnected ||
    (s.connection.state.servesGet &&
      !(s.connection.final && s.channel.common.srm.enabled))

/-- Whether a command is legal in the state that it meets. -/
def isLegal (s : Session) (cmdCode : UInt8) : Bool :=
  if obexFinal cmdCode = obexFinal cmdConnect then s.connection.state = .lowerLayerConnected
  else if obexFinal cmdCode = obexFinal cmdPut then
    s.connection.state = .obexConnected || s.connection.state = .putInProgress
  else if obexFinal cmdCode = obexFinal cmdGet then getIsLegal s
  else s.connection.state = .obexConnected

/-- An error response is written, no callback is made, and the session is as before but
for the flag `SRM_ENABLED`. -/
structure Rejected (s s' : Session) : Prop where
  response : ∃ code status, 0xC0 ≤ code ∧
    s'.channel.lower.attempts = s.channel.lower.attempts ++ [.wrote false [code, 0, 3] status]
  connection : s'.connection = s.connection
  authentication : s'.channel.common.authentication = s.channel.common.authentication
  srm : s'.channel.common.srm = s.channel.common.srm ∨
    s'.channel.common.srm = { s.channel.common.srm with enabled := false }
  blocks : s'.channel.blocks = s.channel.blocks
  history : s'.history = s.history

/-- When a command that is not legal is rejected without a trace: the connection is not
about to be dropped, there is room for the response, and the handler has a reject path
that tests the state before it changes it. -/
def rejectsCleanly (s : Session) (cmdCode : UInt8) : Prop :=
  s.connection.state ≠ .obexDisconnecting ∧ s.connection.state ≠ .obexDisconnectCompleting ∧
    s.channel.memory.takeMbuf.1 = true ∧
    (obexFinal cmdCode = obexFinal cmdAction ∨ obexFinal cmdCode = obexFinal cmdSession ∨
      (obexFinal cmdCode = obexFinal cmdSetPath ∧ s.connection.state ≠ .settingPath) ∨
      (obexFinal cmdCode = obexFinal cmdPut ∧ s.connection.state ≠ .putCompleting))

/-! ## The error response -/

theorem write_total (context : Option Ptr) (slot : Slot) (mbuf : Mbuf) :
    Total (OnChannel.write context slot mbuf) :=
  .bind .view fun ⟨_, _, _⟩ => .bind .update fun _ => .pure

theorem sendSimple_total {opcode : UInt8} : Total (OnChannel.sendSimple opcode) :=
  .bind (.bind .view fun ⟨_, _⟩ => .bind .update fun _ => .pure) fun _ =>
    .ite (.bind (write_total none .unnamed _) fun ⟨_, _⟩ => .pure)
      (.bind .update fun _ => .pure)

theorem setCommon_total {f : Common → Common} : Total (Srv.setCommon f) := by
  unfold Srv.setCommon onChannel
  exact .zoom .update

theorem errorResponse_total (status : Status) : Total (errorResponse status) :=
  setCommon_total.bind fun _ => .bind (.zoom sendSimple_total) fun _ => .pure

variable {ch ch' : Channel} {order : CpuByteOrder} {bs : ByteStream} {t : Session} {final : Bool}

theorem write_ends {slot : Slot} {mbuf : Mbuf} {result : Status × Option Bool}
    (h : Ends (OnChannel.write none slot mbuf) ch result ch') :
    ch'.common = ch.common ∧
      ch'.lower.attempts = ch.lower.attempts ++ [.wrote false mbuf.bytes result.1] := by
  simp only [OnChannel.write, ends_bind, ends_view, ends_update, ends_pure] at h
  obtain ⟨_, _, ⟨rfl, rfl⟩, _, _, rfl, rfl, rfl⟩ := h
  unfold Channel.write
  dsimp only
  split
  · exact ⟨rfl, rfl⟩
  · exact ⟨rfl, rfl⟩

/-- A simple packet is written if there is room for it. -/
theorem sendSimple_ends {opcode : UInt8} {status : Status}
    (h : Ends (OnChannel.sendSimple opcode) ch status ch') :
    ch'.common = ch.common ∧
      ch'.lower.attempts = ch.lower.attempts ++
        [if ch.memory.takeMbuf.1 then .wrote false [opcode, 0, 3] status else .noMbuf false] := by
  obtain ⟨room, ch₁, hroom, h⟩ := ends_bind.1 h
  simp only [OnChannel.takeMbuf, ends_bind, ends_view, ends_update, ends_pure] at hroom
  obtain ⟨_, _, ⟨rfl, rfl⟩, _, _, rfl, rfl, rfl⟩ := hroom
  split at h
  · next hroom =>
      obtain ⟨⟨written, _⟩, ch₂, hwrite, h⟩ := ends_bind.1 h
      obtain ⟨rfl, rfl⟩ := ends_pure.1 h
      obtain ⟨hcommon, hattempts⟩ := write_ends hwrite
      rw [if_pos hroom]
      exact ⟨hcommon, hattempts⟩
  · next hroom =>
      replace h := ends_bind_update.1 h
      obtain ⟨-, rfl⟩ := ends_pure.1 h
      rw [if_neg hroom]
      exact ⟨rfl, rfl⟩

theorem errorResponse_ends {status : Status} {s s' : Session}
    (h : Ends (errorResponse status) s () s') :
    s'.channel.common = { s.channel.common with
        srm := { s.channel.common.srm with enabled := false } } ∧
      (s.channel.memory.takeMbuf.1 = true → ∃ written, s'.channel.lower.attempts =
        s.channel.lower.attempts ++ [.wrote false [mapStatus status, 0, 3] written]) ∧
      (s.channel.memory.takeMbuf.1 = false →
        s'.channel.lower.attempts = s.channel.lower.attempts ++ [.noMbuf false]) := by
  obtain ⟨_, t, hoff, h⟩ := ends_bind.1 h
  obtain rfl := ends_setCommon.1 hoff
  obtain ⟨written, hsend, -⟩ := ends_bind_return.1 h
  obtain ⟨ch, hsimple, rfl⟩ := ends_onChannel.1 hsend
  obtain ⟨hcommon, hattempts⟩ := sendSimple_ends hsimple
  refine ⟨hcommon, fun hroom => ⟨written, ?_⟩, fun hroom => ?_⟩
  · rw [if_pos hroom] at hattempts
    exact hattempts
  · rw [if_neg (by rw [hroom]; decide)] at hattempts
    exact hattempts

/-- An error response rejects the command. -/
theorem Rejected.of_errorResponse {status : Status} {s s' : Session}
    (hcode : 0xC0 ≤ mapStatus status) (hroom : s.channel.memory.takeMbuf.1 = true)
    (h : Ends (errorResponse status) s () s') : Rejected s s' := by
  have hanswers := errorResponse_answers _ _ _ h
  obtain ⟨hcommon, hwritten, -⟩ := errorResponse_ends h
  obtain ⟨written, hattempts⟩ := hwritten hroom
  exact {
    response := ⟨_, written, hcode, hattempts⟩
    connection := hanswers.connection_eq
    authentication := by rw [hcommon]
    srm := .inr (by rw [hcommon])
    blocks := hanswers.quiet.blocks
    history := by rw [hanswers.rest] }

/-! ## The headers of a rejected put request -/

/-- Parsing counts the bytes of a body and otherwise leaves the common part alone. -/
theorem parseHeader_common {common common' : Common} {bs' : ByteStream} {header : ParsedHeader}
    (h : parseHeader order common bs = .ok (header, common', bs')) :
    common' = { common with progressBytes := common'.progressBytes } := by
  obtain ⟨⟨id, bs₁⟩, -, h⟩ := bind_eq_ok.1 h
  dsimp only at h
  split at h
  · obtain ⟨⟨len, bs₂⟩, -, h⟩ := bind_eq_ok.1 h
    dsimp only at h
    split at h
    · cases h
    split at h
    · obtain ⟨bs₃, -, h⟩ := bind_eq_ok.1 h
      cases h
      rfl
    · cases h
      rfl
  · obtain ⟨⟨len, bs₂⟩, -, h⟩ := bind_eq_ok.1 h
    obtain ⟨bs₃, -, h⟩ := bind_eq_ok.1 h
    cases h
    split
    · rfl
    · rfl
  · obtain ⟨⟨val, bs₂⟩, -, h⟩ := bind_eq_ok.1 h
    cases h
    rfl
  · obtain ⟨⟨val, bs₂⟩, -, h⟩ := bind_eq_ok.1 h
    cases h
    rfl

theorem parseHeaders_common {count : Nat} :
    ∀ {common common' : Common} {bs bs' : ByteStream} {headers : List ParsedHeader},
      parseHeaders order count common bs = .ok (headers, common', bs') →
      common' = { common with progressBytes := common'.progressBytes } := by
  induction count with
  | zero =>
      intro common common' bs bs' headers h
      cases h
      rfl
  | succ count ih =>
      intro common common' bs bs' headers h
      obtain ⟨⟨header, common₁, bs₁⟩, hone, h⟩ := bind_eq_ok.1 h
      obtain ⟨⟨headers₂, common₂, bs₂⟩, hrest, h⟩ := bind_eq_ok.1 h
      cases h
      rw [ih hrest, parseHeader_common hone]

/-- What `parseHeaderList` returns besides the headers. -/
theorem parseHeaderList_common {memory : Bool} {common common' : Common} {bs' : ByteStream}
    {status : Status} {list : ParsedList}
    (h : parseHeaderList order memory common bs = .ok (status, list, common', bs')) :
    common' = { common with progressBytes := common'.progressBytes } ∧
      (status.success → status = .ok) ∧ (¬ status.success → 0xC0 ≤ mapStatus status) := by
  obtain ⟨⟨scanned, bs₁⟩, -, h⟩ := bind_eq_ok.1 h
  cases scanned with
  | none =>
      cases h
      exact ⟨rfl, nofun, fun _ => by decide⟩
  | some count =>
      obtain ⟨bs₂, -, h⟩ := bind_eq_ok.1 h
      split at h
      · split at h
        · obtain ⟨⟨headers, common₂, bs₃⟩, hparse, h⟩ := bind_eq_ok.1 h
          cases h
          exact ⟨parseHeaders_common hparse, fun _ => rfl, fun hne => absurd rfl hne⟩
        · cases h
          exact ⟨rfl, nofun, fun _ => by decide⟩
      · cases h
        exact ⟨rfl, fun _ => rfl, fun hne => absurd rfl hne⟩

/-- The parser ends on every packet. -/
theorem parseHeaderList_total {memory : Bool} {common : Common} (h : bs.Readable) :
    ∃ result, parseHeaderList order memory common bs = .ok result := by
  by_cases hbad : ∀ hs, bs.rest ≠ headerCodec.encodeAll hs
  · obtain ⟨bs', hparse⟩ := parseHeaderList_malformed order memory common h hbad
    exact ⟨_, hparse⟩
  · obtain ⟨hs, hr⟩ := Classical.not_forall.1 hbad
    replace hr := Classical.not_not.1 hr
    by_cases hmem : memory = true ∨ hs.length % 256 = 0
    · obtain ⟨list, common', bs', hparse, -⟩ :=
        parseHeaderList_encodeAll order memory common h hr hmem
      exact ⟨_, hparse⟩
    · obtain ⟨hfalse, hcount⟩ := not_or.1 hmem
      obtain ⟨list, bs', hparse⟩ := parseHeaderList_noMemory order common h hr hcount
      rw [eq_false_of_ne_true hfalse]
      exact ⟨_, hparse⟩

theorem takeBlock_ends {room : Bool} (h : Ends OnChannel.takeBlock ch room ch') :
    ch' = { ch with memory := { ch.memory with blocks := ch'.memory.blocks } } := by
  simp only [OnChannel.takeBlock, ends_bind, ends_view, ends_update, ends_pure] at h
  obtain ⟨_, _, ⟨rfl, rfl⟩, _, _, rfl, -, rfl⟩ := h
  unfold Memory.takeBlock
  split
  · rfl
  · rfl

/-- The session after a packet was parsed: only the progress and the memory for the
header list have changed. -/
structure Parsed (s t : Session) : Prop where
  rest : t = { s with channel := t.channel }
  common : t.channel.common =
    { s.channel.common with progressBytes := t.channel.common.progressBytes }
  memory : t.channel.memory.mbufs = s.channel.memory.mbufs
  lower : t.channel.lower = s.channel.lower
  blocks : t.channel.blocks = s.channel.blocks

theorem parseRequest_ends {cfg : Config} {rcvPacket : ByteStream} {status : Status}
    {request : Request} {s : Session}
    (h : Ends (parseRequest cfg rcvPacket) s (status, request) t) :
    Parsed s t ∧ (¬ status.success → 0xC0 ≤ mapStatus status) := by
  obtain ⟨room, s₁, hroom, h⟩ := ends_bind.1 h
  obtain ⟨ch, hblock, rfl⟩ := ends_onChannel.1 hroom
  have hmemory := takeBlock_ends hblock
  replace h := ends_bind_view.1 h
  obtain ⟨⟨parsed, headers, common, bs⟩, s₂, hlift, h⟩ := ends_bind.1 h
  obtain ⟨hparse, rfl⟩ := ends_lift.1 hlift
  obtain ⟨_, s₃, hset, h⟩ := ends_bind.1 h
  obtain rfl := ends_setCommon.1 hset
  obtain ⟨heq, rfl⟩ := ends_pure.1 h
  obtain ⟨rfl, -⟩ := Prod.mk.inj heq
  obtain ⟨hcommon, -, hcode⟩ := parseHeaderList_common hparse
  rw [hmemory] at hcommon
  refine ⟨⟨rfl, hcommon, ?_, ?_, ?_⟩, hcode⟩
  · show ch.memory.mbufs = s.channel.memory.mbufs
    rw [hmemory]
  · show ch.lower = s.channel.lower
    rw [hmemory]
  · show ch.blocks = s.channel.blocks
    rw [hmemory]

theorem parseRequest_total (cfg : Config) {rcvPacket : ByteStream} (h : rcvPacket.Readable) :
    Total (parseRequest cfg rcvPacket) :=
  .bind (.zoom (.bind .view fun ⟨_, _⟩ => .bind .update fun _ => .pure)) fun _ =>
    .bind .view fun _ => .bind (.lift (parseHeaderList_total h)) fun ⟨_, _, _, _⟩ =>
      setCommon_total.bind fun _ => .pure

theorem Rejected.of_parsed {s s' : Session} (hparsed : Parsed s t) (h : Rejected t s') :
    Rejected s s' where
  response := by rw [← hparsed.lower]; exact h.response
  connection := by rw [h.connection, hparsed.rest]
  authentication := by rw [h.authentication, hparsed.common]
  srm := by
    have hsrm : t.channel.common.srm = s.channel.common.srm := by rw [hparsed.common]
    rw [← hsrm]
    exact h.srm
  blocks := h.blocks.trans hparsed.blocks
  history := by rw [h.history, hparsed.rest]

theorem takeMbuf_congr {m m' : Memory} (h : m'.mbufs = m.mbufs) :
    m'.takeMbuf.1 = m.takeMbuf.1 := by
  unfold Memory.takeMbuf
  rw [h]
  split
  · rfl
  · rfl

/-! ## The clean rejections -/

section Clean

variable {cfg : Config} {rcvPacket : ByteStream} {s : Session}

theorem errorResponse_rejects (status : Status) (hcode : 0xC0 ≤ mapStatus status)
    (hroom : s.channel.memory.takeMbuf.1 = true) :
    ∃ s', Ends (errorResponse status) s () s' ∧ Rejected s s' := by
  obtain ⟨_, s', h⟩ := errorResponse_total status s
  exact ⟨s', h, .of_errorResponse hcode hroom h⟩

theorem putCommand_rejects (hread : rcvPacket.Readable) (hroom : s.channel.memory.takeMbuf.1 = true)
    (hstate : ¬ (s.connection.state = .obexConnected ∨ s.connection.state = .putInProgress ∨
      s.connection.state = .putCompleting)) :
    ∃ s', Ends (putCommand cfg rcvPacket final) s () s' ∧ Rejected s s' := by
  obtain ⟨⟨status, request⟩, t, hparse⟩ := parseRequest_total cfg hread s
  obtain ⟨hparsed, hcode⟩ := parseRequest_ends hparse
  have hconnection : t.connection = s.connection := by rw [hparsed.rest]
  have hroom' : t.channel.memory.takeMbuf.1 = true :=
    (takeMbuf_congr hparsed.memory).trans hroom
  have herror : ∀ st, 0xC0 ≤ mapStatus st →
      ∃ s', Ends (putCommandError cfg st) t () s' ∧ Rejected s s' := by
    intro st hst
    obtain ⟨s', hends, hrejected⟩ := errorResponse_rejects st hst hroom'
    refine ⟨s', ends_bind_view.2 (ends_bind.2 ⟨(), t, ends_only.2 (.inr ⟨?_, rfl⟩), hends⟩),
      hrejected.of_parsed hparsed⟩
    rw [hconnection]
    exact hstate
  rw [← hconnection] at hstate
  by_cases hok : status.success
  · obtain ⟨s', hends, hrejected⟩ := herror .obexOperationInProgress (by decide)
    refine ⟨s', ends_bind.2 ⟨_, t, hparse, ends_bind_view.2 ?_⟩, hrejected⟩
    dsimp only
    rw [if_neg (by simp [hok]), if_neg (fun hc => hstate (.inl hc)),
      if_neg (fun hc => hstate (.inr (.inl hc)))]
    exact hends
  · obtain ⟨s', hends, hrejected⟩ := herror status (hcode hok)
    refine ⟨s', ends_bind.2 ⟨_, t, hparse, ends_bind_view.2 ?_⟩, hrejected⟩
    dsimp only
    rw [if_pos (by simp [hok])]
    exact hends

theorem setPathCommand_rejects (hroom : s.channel.memory.takeMbuf.1 = true)
    (hstate : s.connection.state ≠ .obexConnected) (hset : s.connection.state ≠ .settingPath) :
    ∃ s', Ends (setPathCommand cfg rcvPacket) s () s' ∧ Rejected s s' := by
  obtain ⟨s', hends, hrejected⟩ :=
    errorResponse_rejects .obexOperationInProgress (by decide) hroom
  refine ⟨s', ends_bind.2 ⟨.obexOperationInProgress, s, ends_bind_view.2 ?_,
    ends_only.2 (.inl ⟨by decide, ends_bind_view.2 (ends_bind.2 ⟨(), s,
      ends_only.2 (.inr ⟨hset, rfl⟩), hends⟩)⟩)⟩, hrejected⟩
  rw [if_pos hstate]
  exact ends_pure.2 ⟨rfl, rfl⟩

theorem actionCommand_rejects (hroom : s.channel.memory.takeMbuf.1 = true)
    (hstate : s.connection.state ≠ .obexConnected) :
    ∃ s', Ends (actionCommand cfg rcvPacket) s () s' ∧ Rejected s s' := by
  obtain ⟨s', hends, hrejected⟩ :=
    errorResponse_rejects .obexOperationInProgress (by decide) hroom
  refine ⟨s', ends_bind.2 ⟨.obexOperationInProgress, s, ends_bind_view.2 ?_,
    ends_only.2 (.inl ⟨by decide, hends⟩)⟩, hrejected⟩
  rw [if_pos hstate]
  exact ends_pure.2 ⟨rfl, rfl⟩

theorem sessionCommand_rejects (hroom : s.channel.memory.takeMbuf.1 = true)
    (hstate : s.connection.state ≠ .obexConnected) :
    ∃ s', Ends (sessionCommand cfg rcvPacket) s () s' ∧ Rejected s s' := by
  obtain ⟨s', hends, hrejected⟩ :=
    errorResponse_rejects .obexOperationInProgress (by decide) hroom
  refine ⟨s', ends_bind_view.2 ?_, hrejected⟩
  rw [if_pos hstate]
  exact hends

end Clean

/-! ## The other rejections -/

section Trace

variable {cfg : Config} {rcvPacket : ByteStream} {s s' : Session}

theorem answers_state {α : Type} {m : Srv α} (h : Within Answers m) :
    Within (Same fun s => s.connection.state) m :=
  h.mono fun _ _ hanswers => congrArg Connection.state hanswers.connection_eq

variable {status : Status}

/-- Without room for it, there is no error response. -/
theorem errorResponse_silent (hroom : ¬ s.channel.memory.takeMbuf.1 = true)
    (h : Ends (errorResponse status) s () s') : ¬ Rejected s s' := by
  intro hrejected
  obtain ⟨code, written, -, hattempts⟩ := hrejected.response
  obtain ⟨-, -, hnone⟩ := errorResponse_ends h
  rw [hnone (eq_false_of_ne_true hroom)] at hattempts
  cases append_cancel_left hattempts

/-- The refusal of a connection takes the state back. -/
theorem acceptConnect_false_state {realm : Option Realm} {rspStatus : Status}
    {optHeaders : Option (List Header)} (hlive : s.live)
    (h : Ends (acceptConnect cfg realm false rspStatus optHeaders) s status s') :
    s'.connection.state = .lowerLayerConnected := by
  replace h := ends_bind_state.1 h
  rw [if_neg (by simp [hlive])] at h
  obtain ⟨⟨rsp, headers⟩, t, hanswer, h⟩ := ends_bind.1 h
  have hstate : t.connection.state = .lowerLayerConnected := by
    replace hanswer := ends_bind_view.1 hanswer
    rw [if_neg nofun] at hanswer
    replace hanswer := ends_bind_update.1 hanswer
    replace hanswer := ends_bind_update.1 hanswer
    obtain ⟨-, rfl⟩ := ends_pure.1 hanswer
    rfl
  obtain ⟨sent, t₁, hsend, h⟩ := ends_bind.1 h
  have hstate₁ := (answers_state sendConnectAnswer_answers _ _ _ hsend).trans hstate
  obtain ⟨_, honly, -⟩ := ends_bind_return.1 h
  obtain ⟨-, honly⟩ | ⟨-, rfl⟩ := ends_only.1 honly
  · replace honly := ends_bind_update.1 honly
    obtain ⟨_, t₃, hauth, hset⟩ := ends_bind.1 honly
    obtain rfl := ends_update.1 hset
    exact answers_state setAuthentication_answers _ _ _ hauth
  · exact hstate₁

/-- A connect request on a live session sets it back to `LOWER_LAYER_CONNECTED`. -/
theorem connectCommand_state (hlive : s.live)
    (hstate : s.connection.state ≠ .lowerLayerConnected)
    (h : Ends (connectCommand cfg rcvPacket) s () s') :
    s'.connection.state = .lowerLayerConnected := by
  obtain ⟨_, t, haccept, hauth⟩ := ends_bind.1 (connectCommand_refused hstate h)
  exact (answers_state setAuthentication_answers _ _ _ hauth).trans
    (acceptConnect_false_state hlive haccept)

/-- The error path of a get request sets the state. -/
theorem getCommandError_state (h : Ends (getCommandError cfg status) s () s') :
    s'.connection.state = .obexConnected := by
  obtain ⟨_, t, -, h⟩ := ends_bind.1 h
  obtain ⟨_, t₁, -, h⟩ := ends_bind.1 h
  replace h := ends_bind_update.1 h
  exact answers_state errorResponse_answers _ _ _ h

/-- The session in which `GetCommand` meets the switch over the state. -/
def notBusy (s : Session) : Session :=
  { s with connection := { s.connection with
      bulkGet := { s.connection.bulkGet with busy := false } } }

/-- Unless a get starts, the switch over the state only decides about the request. -/
theorem getCommandState_ends {entry : Except Status Bool}
    (hstate : s.connection.state ≠ .obexConnected) (h : Ends getCommandState s entry t) :
    t = notBusy s ∧ ∀ st, entry = .error st → ¬ st.success := by
  have hserved : ∀ cb : TargetInfo → Bool,
      Ends (do
        let target ← currentTarget
        return if cb target then .ok false else .error .obexServiceUnavailable)
        (notBusy s) entry t → t = notBusy s ∧ ∀ st, entry = .error st → ¬ st.success := by
    intro cb hserve
    obtain ⟨target, t₁, htarget, hreturn⟩ := ends_bind.1 hserve
    obtain ⟨-, rfl⟩ := ends_currentTarget.1 htarget
    obtain ⟨rfl, rfl⟩ := ends_pure.1 hreturn
    refine ⟨rfl, fun st heq => ?_⟩
    split at heq
    · cases heq
    · cases heq
      decide
  have hrefused : ∀ status : Status, ¬ status.success →
      Ends (pure (.error status) : Srv (Except Status Bool)) (notBusy s) entry t →
      t = notBusy s ∧ ∀ st, entry = .error st → ¬ st.success := by
    intro status hne hpure
    obtain ⟨rfl, rfl⟩ := ends_pure.1 hpure
    refine ⟨rfl, fun st heq => ?_⟩
    cases heq
    exact hne
  replace h := ends_bind_update.1 h
  replace h := ends_bind_view.1 h
  split at h
  · next hst => exact absurd hst hstate
  · exact hserved (fun target => target.cbList.getInd) h
  · exact hserved (fun target => target.cbList.getInd) h
  · exact hserved (fun target => target.cbList.bulkGetInd) h
  · exact hserved (fun target => target.cbList.bulkGetInd) h
  · exact hrefused _ (by decide) h
  · exact hrefused _ (by decide) h

/-- A get request out of turn leaves through the error path. -/
theorem getCommandBody_illegal (hillegal : getIsLegal s = false)
    (h : Ends (getCommandBody cfg rcvPacket final) s status s') : ¬ status.success := by
  have hstate : s.connection.state ≠ .obexConnected := by
    intro hst
    rw [getIsLegal, hst] at hillegal
    cases hillegal
  obtain ⟨entry, t, hentry, h⟩ := ends_bind.1 h
  obtain ⟨rfl, herror⟩ := getCommandState_ends hstate hentry
  cases entry with
  | error st =>
      obtain ⟨rfl, -⟩ := ends_pure.1 h
      exact herror _ rfl
  | ok newRequest =>
      -- accepted by the switch, so single response mode is what makes it illegal
      have hserves : s.connection.state.servesGet := by
        by_contra hne
        replace hentry := ends_bind_update.1 hentry
        replace hentry := ends_bind_view.1 hentry
        dsimp only at hentry
        split at hentry
        all_goals first
          | next hst => exact hne (by rw [hst]; rfl)
          | exact absurd (ends_pure.1 hentry).1 nofun
      have hfinal : s.connection.final && s.channel.common.srm.enabled := by
        simpa [getIsLegal, hstate, hserves] using hillegal
      replace h := ends_bind_view.1 h
      replace h := ends_bind_view.1 h
      split at h
      · obtain ⟨rfl, -⟩ := ends_pure.1 h
        decide
      · next hne => exact absurd hfinal hne

/-- A get request out of turn sets the state to `OBEX_CONNECTED`. -/
theorem getCommand_state (hillegal : getIsLegal s = false)
    (h : Ends (getCommand cfg rcvPacket final) s () s') : s'.connection.state = .obexConnected := by
  obtain ⟨status, t, hbody, hend⟩ := ends_bind.1 h
  obtain ⟨-, hend⟩ | ⟨hok, -⟩ := ends_only.1 hend
  · exact getCommandError_state hend
  · exact absurd (Classical.not_not.1 hok) (getCommandBody_illegal hillegal hbody)

/-- A path request while a path is being set ends the operation. -/
theorem setPathCommand_state (hset : s.connection.state = .settingPath)
    (h : Ends (setPathCommand cfg rcvPacket) s () s') :
    s'.connection.state = .obexConnected := by
  obtain ⟨status, t, hbody, hend⟩ := ends_bind.1 h
  replace hbody := ends_bind_view.1 hbody
  rw [if_pos (by rw [hset]; decide)] at hbody
  obtain ⟨rfl, rfl⟩ := ends_pure.1 hbody
  obtain ⟨-, hend⟩ | ⟨hok, -⟩ := ends_only.1 hend
  · obtain ⟨_, t₁, honly, herror⟩ := ends_bind.1 (ends_bind_view.1 hend)
    obtain ⟨-, hupdate⟩ | ⟨hne, -⟩ := ends_only.1 honly
    · obtain rfl := ends_update.1 hupdate
      exact answers_state errorResponse_answers _ _ _ herror
    · exact absurd hset hne
  · exact absurd (by decide) hok

/-- A put request while the last response of a put is on its way ends the operation. -/
theorem putCommand_state (hput : s.connection.state = .putCompleting)
    (h : Ends (putCommand cfg rcvPacket final) s () s') : s'.connection.state = .obexConnected := by
  obtain ⟨⟨status, request⟩, t, hparse, h⟩ := ends_bind.1 h
  have hstate : t.connection.state = .putCompleting :=
    (answers_state parseRequest_answers _ _ _ hparse).trans hput
  have herror : ∀ st, Ends (putCommandError cfg st) t () s' →
      s'.connection.state = .obexConnected := by
    intro st hend
    obtain ⟨_, t₁, honly, herror⟩ := ends_bind.1 (ends_bind_view.1 hend)
    obtain ⟨-, hind⟩ | ⟨hne, -⟩ := ends_only.1 honly
    · obtain ⟨_, t₂, -, hupdate⟩ := ends_bind.1 hind
      obtain rfl := ends_update.1 hupdate
      exact answers_state errorResponse_answers _ _ _ herror
    · exact absurd (.inr (.inr hstate)) hne
  replace h := ends_bind_view.1 h
  dsimp only at h
  rw [hstate] at h
  split at h
  · exact herror _ h
  rw [if_neg (by decide), if_neg (by decide)] at h
  exact herror _ h

/-- A connection that is being dropped does not go back to `OBEX_DISCONNECTING`. -/
theorem dropLowerConnection_state (h : Ends (dropLowerConnection cfg) s () s') :
    s'.connection.state ≠ .obexDisconnecting := by
  replace h := ends_bind_update.1 h
  obtain ⟨status, t, hdisconnect, h⟩ := ends_bind.1 h
  obtain ⟨ch, -, rfl⟩ := ends_onChannel.1 hdisconnect
  obtain ⟨-, hend⟩ | ⟨-, rfl⟩ := ends_only.1 h
  · replace hend := ends_bind_view.1 hend
    replace hend := ends_bind_update.1 hend
    have hindicate : Within Settles (do
        setConnection fun c => { c with connectIndicated := false }
        let _ ← indicate cfg .disconnectInd) :=
      Within.bind (setConnection_step fun _ => rfl) fun _ =>
        indicate_settles.bind fun _ => .pure
    have hrest : Within Settles (do
        setConnection fun c => { c with connectTimeout := false }
        setAuthentication none
        let c ← Srv.connection
        Prog.only c.connectIndicated (do
          setConnection fun c => { c with connectIndicated := false }
          let _ ← indicate cfg .disconnectInd)
        freeConnection) :=
      Within.bind (setConnection_step fun _ => rfl) fun _ =>
        setAuthentication_sends.bind fun _ =>
          Within.view.bind fun _ => (Within.only hindicate).bind fun _ => freeConnection_permitted
    obtain ⟨-, hstate⟩ := hrest _ _ _ hend rfl
    rcases hstate with hstate | hstate
    · rw [hstate]
      exact nofun
    · rw [hstate]
      exact nofun
  · exact nofun

end Trace

/-! ## The exact condition -/

section Exact

variable {cfg : Config} {addr : Nat} {cmdCode hi lo : UInt8} {body : List UInt8} {s s' : Session}

/-- The packet, read up to the end of its length field. -/
def received (cmdCode hi lo : UInt8) (body : List UInt8) (addr : Nat) : ByteStream :=
  (ByteStream.open' (cmdCode :: hi :: lo :: body) addr .read).advance 3

theorem received_readable (hlen : (cmdCode :: hi :: lo :: body).length < 65536) :
    (received cmdCode hi lo body addr).Readable :=
  (ByteStream.readable_open' _ addr hlen).advance (by simp)

theorem openPacket_eq (hlen : (cmdCode :: hi :: lo :: body).length < 65536) :
    openPacket (cmdCode :: hi :: lo :: body) addr =
      .ok (cmdCode, received cmdCode hi lo body addr) := by
  have hread := ByteStream.readable_open' (cmdCode :: hi :: lo :: body) addr hlen
  have hread₁ := hread.advance (n := 1) (by simp)
  rw [openPacket, ByteStream.getUINT8_cons hread (ByteStream.rest_open' _ _ _), ok_bind]
  dsimp only
  rw [ByteStream.skip_of_le hread₁ (by simp), ok_bind, ByteStream.advance_advance]
  rfl

/-- Unless the connection is being dropped, a packet goes to the handler of its command. -/
theorem lowerRecvDataInd_dispatches (hlen : (cmdCode :: hi :: lo :: body).length < 65536)
    (hcompleting : s.connection.state ≠ .obexDisconnectCompleting)
    (hdisconnecting : s.connection.state ≠ .obexDisconnecting) :
    Ends (lowerRecvDataInd cfg (cmdCode :: hi :: lo :: body) addr) s () s' ↔
      Ends (dispatchCommand cfg cmdCode (received cmdCode hi lo body addr)) s () s' := by
  have hopen : Ends (Prog.lift (openPacket (cmdCode :: hi :: lo :: body) addr)) s
      (cmdCode, received cmdCode hi lo body addr) s :=
    ends_lift.2 ⟨openPacket_eq hlen, rfl⟩
  unfold lowerRecvDataInd
  rw [Srv.connection, ends_bind_view, if_neg hcompleting, if_neg hdisconnecting, ends_bind]
  constructor
  · rintro ⟨_, _, h, hdispatch⟩
    obtain ⟨rfl, rfl⟩ := hopen.unique h
    exact hdispatch
  · intro h
    exact ⟨_, s, hopen, h⟩

/-- The six commands whose legality depends on the state. -/
theorem isCommand_cases (h : isCommand cmdCode) :
    obexFinal cmdCode = obexFinal cmdConnect ∨ obexFinal cmdCode = obexFinal cmdPut ∨
      obexFinal cmdCode = obexFinal cmdGet ∨ obexFinal cmdCode = obexFinal cmdSetPath ∨
      obexFinal cmdCode = obexFinal cmdAction ∨ obexFinal cmdCode = obexFinal cmdSession := by
  simpa [isCommand] using h

/-- Where the state has changed, the command was not rejected without a trace. -/
theorem not_rejected_of_state (h : s'.connection.state ≠ s.connection.state) :
    ¬ Rejected s s' :=
  fun hrejected => h (congrArg Connection.state hrejected.connection)

variable {rcvPacket : ByteStream}

theorem connectCommand_never_clean (hlive : s.live)
    (hstate : s.connection.state ≠ .lowerLayerConnected) :
    ¬ ∃ s', Ends (connectCommand cfg rcvPacket) s () s' ∧ Rejected s s' := by
  rintro ⟨s', hends, hrejected⟩
  refine not_rejected_of_state ?_ hrejected
  rw [connectCommand_state hlive hstate hends]
  exact hstate.symm

theorem getCommand_never_clean (hillegal : getIsLegal s = false) :
    ¬ ∃ s', Ends (getCommand cfg rcvPacket final) s () s' ∧ Rejected s s' := by
  rintro ⟨s', hends, hrejected⟩
  refine not_rejected_of_state ?_ hrejected
  rw [getCommand_state hillegal hends]
  intro hstate
  rw [getIsLegal, ← hstate] at hillegal
  cases hillegal

theorem putCommand_clean_iff (hread : rcvPacket.Readable)
    (hconnected : s.connection.state ≠ .obexConnected)
    (hput : s.connection.state ≠ .putInProgress) :
    (∃ s', Ends (putCommand cfg rcvPacket final) s () s' ∧ Rejected s s') ↔
      s.channel.memory.takeMbuf.1 = true ∧ s.connection.state ≠ .putCompleting := by
  have hstate (hcompleting : s.connection.state ≠ .putCompleting) :
      ¬ (s.connection.state = .obexConnected ∨ s.connection.state = .putInProgress ∨
        s.connection.state = .putCompleting) := by
    rintro (h | h | h)
    · exact hconnected h
    · exact hput h
    · exact hcompleting h
  constructor
  · rintro ⟨s', hends, hrejected⟩
    have hcompleting : s.connection.state ≠ .putCompleting := by
      intro hst
      refine not_rejected_of_state ?_ hrejected
      rw [putCommand_state hst hends]
      exact hconnected.symm
    refine ⟨?_, hcompleting⟩
    by_contra hroom
    obtain ⟨⟨status, request⟩, t, hparse, hrest⟩ := ends_bind.1 hends
    obtain ⟨hparsed, -⟩ := parseRequest_ends hparse
    have hconnection : t.connection = s.connection := by rw [hparsed.rest]
    have hroom' : ¬ t.channel.memory.takeMbuf.1 = true := by
      rw [takeMbuf_congr hparsed.memory]
      exact hroom
    have hlegal := hstate hcompleting
    rw [← hconnection] at hlegal
    have herror : ∀ st, Ends (putCommandError cfg st) t () s' → False := by
      intro st hend
      obtain ⟨code, written, hcode, hattempts⟩ := hrejected.response
      obtain ⟨-, -, hnone⟩ := errorResponse_ends (putCommandError_refused hlegal hend)
      rw [hnone (eq_false_of_ne_true hroom'), hparsed.lower] at hattempts
      cases append_cancel_left hattempts
    replace hrest := ends_bind_view.1 hrest
    dsimp only at hrest
    split at hrest
    · exact herror _ hrest
    · rw [if_neg (fun hc => hlegal (.inl hc)), if_neg (fun hc => hlegal (.inr (.inl hc)))] at hrest
      exact herror _ hrest
  · rintro ⟨hroom, hcompleting⟩
    exact putCommand_rejects hread hroom (hstate hcompleting)

theorem setPathCommand_clean_iff (hconnected : s.connection.state ≠ .obexConnected) :
    (∃ s', Ends (setPathCommand cfg rcvPacket) s () s' ∧ Rejected s s') ↔
      s.channel.memory.takeMbuf.1 = true ∧ s.connection.state ≠ .settingPath := by
  constructor
  · rintro ⟨s', hends, hrejected⟩
    have hset : s.connection.state ≠ .settingPath := by
      intro hst
      refine not_rejected_of_state ?_ hrejected
      rw [setPathCommand_state hst hends]
      exact hconnected.symm
    refine ⟨?_, hset⟩
    by_contra hroom
    exact errorResponse_silent hroom (setPathCommand_refused hconnected hset hends) hrejected
  · rintro ⟨hroom, hset⟩
    exact setPathCommand_rejects hroom hconnected hset

theorem actionCommand_clean_iff (hconnected : s.connection.state ≠ .obexConnected) :
    (∃ s', Ends (actionCommand cfg rcvPacket) s () s' ∧ Rejected s s') ↔
      s.channel.memory.takeMbuf.1 = true := by
  constructor
  · rintro ⟨s', hends, hrejected⟩
    by_contra hroom
    exact errorResponse_silent hroom (actionCommand_refused hconnected hends) hrejected
  · intro hroom
    exact actionCommand_rejects hroom hconnected

theorem sessionCommand_clean_iff (hconnected : s.connection.state ≠ .obexConnected) :
    (∃ s', Ends (sessionCommand cfg rcvPacket) s () s' ∧ Rejected s s') ↔
      s.channel.memory.takeMbuf.1 = true := by
  constructor
  · rintro ⟨s', hends, hrejected⟩
    by_contra hroom
    exact errorResponse_silent hroom (sessionCommand_refused hconnected hends) hrejected
  · intro hroom
    exact sessionCommand_rejects hroom hconnected

/-- For a command that reaches its handler, the conditions on the connection hold. -/
theorem rejectsCleanly_iff (hcompleting : s.connection.state ≠ .obexDisconnectCompleting)
    (hdisconnecting : s.connection.state ≠ .obexDisconnecting) :
    rejectsCleanly s cmdCode ↔ s.channel.memory.takeMbuf.1 = true ∧
      (obexFinal cmdCode = obexFinal cmdAction ∨ obexFinal cmdCode = obexFinal cmdSession ∨
      (obexFinal cmdCode = obexFinal cmdSetPath ∧ s.connection.state ≠ .settingPath) ∨
      (obexFinal cmdCode = obexFinal cmdPut ∧ s.connection.state ≠ .putCompleting)) :=
  ⟨fun h => h.2.2, fun h => ⟨hdisconnecting, hcompleting, h⟩⟩

/-- A command that is not legal in the state it meets is answered with an error response
and leaves the session as it was if and only if it is rejected cleanly. -/
theorem rejected_iff (cfg : Config) (s : Session) (cmdCode hi lo : UInt8) (body : List UInt8)
    (addr : Nat) (hlive : s.live) (hlen : (cmdCode :: hi :: lo :: body).length < 65536)
    (hcommand : isCommand cmdCode) (hillegal : isLegal s cmdCode = false) :
    (∃ s', Ends (lowerRecvDataInd cfg (cmdCode :: hi :: lo :: body) addr) s () s' ∧
      Rejected s s') ↔ rejectsCleanly s cmdCode := by
  by_cases hcompleting : s.connection.state = .obexDisconnectCompleting
  · -- nothing happens at all
    refine ⟨?_, fun hclean => absurd hcompleting hclean.2.1⟩
    rintro ⟨s', hends, hrejected⟩
    replace hends := ends_bind_view.1 hends
    rw [if_pos hcompleting] at hends
    obtain ⟨-, rfl⟩ := ends_pure.1 hends
    obtain ⟨code, status, -, hattempts⟩ := hrejected.response
    exact absurd (self_eq_append_right.1 hattempts) (cons_ne_nil _ _)
  by_cases hdisconnecting : s.connection.state = .obexDisconnecting
  · refine ⟨?_, fun hclean => absurd hdisconnecting hclean.1⟩
    rintro ⟨s', hends, hrejected⟩
    replace hends := ends_bind_view.1 hends
    rw [if_neg hcompleting, if_pos hdisconnecting] at hends
    refine absurd hrejected (not_rejected_of_state ?_)
    rw [hdisconnecting]
    exact dropLowerConnection_state hends
  rw [rejectsCleanly_iff hcompleting hdisconnecting]
  simp only [lowerRecvDataInd_dispatches hlen hcompleting hdisconnecting]
  have hread : (received cmdCode hi lo body addr).Readable := received_readable hlen
  unfold isLegal at hillegal
  unfold dispatchCommand
  rcases isCommand_cases hcommand with hcmd | hcmd | hcmd | hcmd | hcmd | hcmd
  · rw [hcmd, if_pos rfl] at hillegal
    rw [hcmd, if_pos rfl]
    refine iff_of_false (connectCommand_never_clean hlive (of_decide_eq_false hillegal)) ?_
    rintro ⟨-, h | h | ⟨h, -⟩ | ⟨h, -⟩⟩
    all_goals exact absurd h (by decide)
  · rw [hcmd, if_neg (by decide), if_pos rfl, Bool.or_eq_false_iff] at hillegal
    rw [hcmd, if_neg (by decide), if_neg (by decide), if_pos rfl,
      putCommand_clean_iff hread (of_decide_eq_false hillegal.1) (of_decide_eq_false hillegal.2)]
    refine and_congr_right fun _ => ⟨fun h => .inr (.inr (.inr ⟨rfl, h⟩)), ?_⟩
    rintro (h | h | ⟨h, -⟩ | ⟨-, h⟩)
    · exact absurd h (by decide)
    · exact absurd h (by decide)
    · exact absurd h (by decide)
    · exact h
  · rw [hcmd, if_neg (by decide), if_neg (by decide), if_pos rfl] at hillegal
    rw [hcmd, if_neg (by decide), if_neg (by decide), if_neg (by decide), if_pos rfl]
    refine iff_of_false (getCommand_never_clean hillegal) ?_
    rintro ⟨-, h | h | ⟨h, -⟩ | ⟨h, -⟩⟩
    all_goals exact absurd h (by decide)
  · rw [hcmd, if_neg (by decide), if_neg (by decide), if_neg (by decide)] at hillegal
    rw [hcmd, if_neg (by decide), if_neg (by decide), if_neg (by decide), if_neg (by decide),
      if_pos rfl, setPathCommand_clean_iff (of_decide_eq_false hillegal)]
    refine and_congr_right fun _ => ⟨fun h => .inr (.inr (.inl ⟨rfl, h⟩)), ?_⟩
    rintro (h | h | ⟨-, h⟩ | ⟨h, -⟩)
    · exact absurd h (by decide)
    · exact absurd h (by decide)
    · exact h
    · exact absurd h (by decide)
  · rw [hcmd, if_neg (by decide), if_neg (by decide), if_neg (by decide)] at hillegal
    rw [hcmd, if_neg (by decide), if_neg (by decide), if_neg (by decide), if_neg (by decide),
      if_neg (by decide), if_pos rfl, actionCommand_clean_iff (of_decide_eq_false hillegal)]
    exact (and_iff_left (.inl rfl)).symm
  · rw [hcmd, if_neg (by decide), if_neg (by decide), if_neg (by decide)] at hillegal
    rw [hcmd, if_neg (by decide), if_neg (by decide), if_neg (by decide), if_neg (by decide),
      if_neg (by decide), if_neg (by decide), if_pos rfl,
      sessionCommand_clean_iff (of_decide_eq_false hillegal)]
    exact (and_iff_left (.inr (.inl rfl))).symm

end Exact

/-- An action request during a put. -/
theorem rejected_iff_action :
    ∃ s, Ends (run sampleConfig connectThenPut)
        (accepted sampleConfig (sampleServer .none false false) (friendly [])) () s ∧
      ((∃ s', Ends (lowerRecvDataInd sampleConfig [0x86, 0, 3] 0) s () s' ∧ Rejected s s') ↔
        rejectsCleanly s 0x86) ∧ rejectsCleanly s 0x86 := by
  have hreach : reaches (run sampleConfig connectThenPut)
      (accepted sampleConfig (sampleServer .none false false) (friendly []))
      (fun s => s.live && decide (s.connection.state = .putInProgress) &&
        s.channel.memory.takeMbuf.1 && !isLegal s 0x86) = true := by
    decide +kernel
  obtain ⟨s, hends, hcheck⟩ := reaches_iff.1 hreach
  obtain ⟨hcheck, hillegal⟩ := Bool.and_eq_true_iff.1 hcheck
  obtain ⟨hcheck, hroom⟩ := Bool.and_eq_true_iff.1 hcheck
  obtain ⟨hlive, hstate⟩ := Bool.and_eq_true_iff.1 hcheck
  replace hstate := of_decide_eq_true hstate
  refine ⟨s, hends, rejected_iff sampleConfig s 0x86 0 3 [] 0 hlive (by decide) (by decide)
    (by simpa using hillegal), ?_, ?_, hroom, .inl (by decide)⟩
  · rw [hstate]
    decide
  · rw [hstate]
    decide

/-- A connect request during a put resets the session, and the put is never reported as
ended. -/
theorem connect_resets_session :
    ¬ ∀ (cfg : Config) (server : ObexServer) (env : Surroundings) (events : List Event)
      (s : Session) (cmdCode hi lo : UInt8) (body : List UInt8) (addr : Nat),
      Ends (run cfg events) (accepted cfg server env) () s → s.live →
      (cmdCode :: hi :: lo :: body).length < 65536 → isCommand cmdCode →
      isLegal s cmdCode = false →
      ∃ s', Ends (lowerRecvDataInd cfg (cmdCode :: hi :: lo :: body) addr) s () s' ∧
        Rejected s s' := by
  intro hall
  have hreach : reaches (run sampleConfig connectThenPut)
      (accepted sampleConfig (sampleServer .none false false) (friendly []))
      (fun s => s.live && decide (s.connection.state = .putInProgress) &&
        !isLegal s 0x80) = true := by
    decide +kernel
  obtain ⟨s, hends, hcheck⟩ := reaches_iff.1 hreach
  obtain ⟨hcheck, hillegal⟩ := Bool.and_eq_true_iff.1 hcheck
  obtain ⟨hlive, hstate⟩ := Bool.and_eq_true_iff.1 hcheck
  replace hstate := of_decide_eq_true hstate
  obtain ⟨s', hrecv, hrejected⟩ := hall _ _ _ _ s 0x80 0 7 [0x10, 0, 4, 0] 0 hends hlive
    (by decide) (by decide) (by simpa using hillegal)
  have hconnect : Ends (connectCommand sampleConfig (received 0x80 0 7 [0x10, 0, 4, 0] 0)) s ()
      s' := (lowerRecvDataInd_dispatches (by decide) (by rw [hstate]; decide)
    (by rw [hstate]; decide)).1 hrecv
  exact connectCommand_never_clean hlive (by rw [hstate]; decide) ⟨s', hconnect, hrejected⟩

end Obex.Server
