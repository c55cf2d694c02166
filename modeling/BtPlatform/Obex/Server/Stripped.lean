import BtPlatform.Obex.Server.Steps

/-!
# What becomes of the single response mode headers

`PutCommand` and `GetCommand` are cut in three: a packet is received and parsed, its
headers are looked at, and what is left of the list goes to the application. The middle part
is where the two differ in the headers they take away.
-/

namespace List

/-- Where at most one element has a property, erasing it leaves those without. -/
theorem eraseP_eq_filter {α : Type} {p : α → Bool} {xs : List α} (h : xs.countP p ≤ 1) :
    xs.eraseP p = xs.filter fun x => !p x := by
  induction xs with
  | nil => rfl
  | cons x xs ih =>
      by_cases hx : p x = true
      · have hnone : ∀ y ∈ xs, ¬ p y = true := by
          rw [countP_cons_of_pos hx] at h
          exact countP_eq_zero.1 (by omega)
        rw [eraseP_cons_of_pos hx, filter_cons_of_neg (by simp [hx]), filter_eq_self.2]
        intro y hy
        simp [hnone y hy]
      · rw [countP_cons_of_neg hx] at h
        rw [eraseP_cons_of_neg hx, filter_cons_of_pos (by simp [hx]), ih h]

/-- Where at most one element has a property, it is the one that is found. -/
theorem find?_eq_some_of_countP_le_one {α : Type} {p : α → Bool} {xs : List α}
    (h : xs.countP p ≤ 1) {x : α} (hmem : x ∈ xs) (hx : p x = true) : xs.find? p = some x := by
  induction xs with
  | nil => cases hmem
  | cons y ys ih =>
      by_cases hy : p y = true
      · rw [find?_cons_of_pos hy]
        rcases mem_cons.1 hmem with rfl | hmem
        · rfl
        · rw [countP_cons_of_pos hy] at h
          exact absurd hx (countP_eq_zero.1 (by omega) x hmem)
      · rw [find?_cons_of_neg hy]
        rw [countP_cons_of_neg hy] at h
        rcases mem_cons.1 hmem with rfl | hmem
        · exact absurd hx hy
        · exact ih h hmem

end List

namespace Obex.Server

open Support Program Prog Linked Srv List

/-! ## The parts of the two functions -/

/-- What comes after the headers of a request were looked at. -/
inductive Stage
  /-- the request is refused -/
  | refused (status : Status)
  /-- the next part of a body header is sent -/
  | segment (request : Request)
  /-- the rest goes to the application -/
  | served (request : Request)
  deriving DecidableEq, Repr

/-- The end of `PutCommand` before the callback. -/
def takePutParam (final : Bool) (request : Request) : Srv Stage := do
  setConnection fun c => { c with final := final }
  let target ← currentTarget
  if !target.cbList.putInd then return .refused .obexServiceUnavailable
  else
    let request ← takeSrmParam request
    return .served request

/-- `PutCommand` from the parsed headers to the callback. -/
def takePut (cfg : Config) (final : Bool) (request : Request) : Srv Stage := do
  let c ← connection
  if c.state = .obexConnected then
    let status := verifyConnectionId cfg c request
    if !status.success then return .refused status
    else
      let request ← newPut request
      takePutParam final request
  else if c.state = .putInProgress then takePutParam final request
  else return .refused .obexOperationInProgress

/-- `PutCommand` from the callback on. -/
def finishPut (cfg : Config) (final : Bool) : Stage → Srv Unit
  | .refused status => putCommandError cfg status
  | .segment request | .served request => indicatePut cfg request final

theorem continuePut_eq (cfg : Config) (request : Request) (final : Bool) :
    continuePut cfg request final = takePutParam final request >>= finishPut cfg final := by
  unfold continuePut takePutParam
  rw [bind_bind]
  congr 1
  funext _
  rw [bind_bind]
  congr 1
  funext target
  rw [ite_then]
  split
  · rfl
  · rw [bind_bind]
    rfl

theorem putCommand_eq (cfg : Config) (rcvPacket : ByteStream) (final : Bool) :
    putCommand cfg rcvPacket final = (do
      let (status, request) ← parseRequest cfg rcvPacket
      if !status.success then putCommandError cfg status
      else takePut cfg final request >>= finishPut cfg final) := by
  unfold putCommand takePut
  congr 1
  funext ⟨status, request⟩
  dsimp only
  by_cases hparsed : (!status.success) = true
  · rw [if_pos hparsed]
    funext s
    simp only [if_pos hparsed]
    rfl
  · rw [if_neg hparsed, bind_bind]
    simp only [if_neg hparsed]
    congr 1
    funext c
    rw [ite_then, ite_then, ite_then, bind_bind, continuePut_eq]
    simp only [continuePut_eq]
    rfl

/-- `GetCommand` up to the parsed headers. -/
def receiveGet (cfg : Config) (rcvPacket : ByteStream) (final : Bool) :
    Srv (Except Status (Bool × Request)) := do
  let entry ← getCommandState
  match entry with
  | .error status => return .error status
  | .ok newRequest => do
      let c ← connection
      let common ← common
      if c.final && common.srm.enabled then return .error .obexOperationInProgress
      else
        setConnection fun c => { c with final := final }
        let (status, request) ← parseRequest cfg rcvPacket
        if !status.success then return .error status
        else return .ok (newRequest, request)

/-- `GetCommand` from the parsed headers to the callback. -/
def takeGet (cfg : Config) (newRequest : Bool) (request : Request) : Srv Stage := do
  let request ← takeGetSrm request
  let c ← connection
  let common ← common
  if newRequest then
    let status := checkNewGet cfg c request
    if !status.success then return .refused status
    else
      setCommon fun common => { common with bodySegment := none }
      return .served request
  else if (common.bodySegment.map fun h => isABodyHeader h.id) = some true then
    return .segment request
  else return .served request

/-- `GetCommand` from the callback on. -/
def finishGet (cfg : Config) (final : Bool) : Stage → Srv Status
  | .refused status => return status
  | .segment _ => serverSendBodySegment
  | .served request => serveGet cfg request final

theorem serveHeaders_eq (cfg : Config) (newRequest final : Bool) (request : Request) :
    serveHeaders cfg newRequest final request =
      takeGet cfg newRequest request >>= finishGet cfg final := by
  unfold serveHeaders takeGet
  rw [bind_bind]
  congr 1
  funext request
  rw [bind_bind]
  congr 1
  funext c
  rw [bind_bind]
  congr 1
  funext common
  rw [ite_then, ite_then, ite_then, bind_bind]
  rfl

theorem getCommandBody_eq (cfg : Config) (rcvPacket : ByteStream) (final : Bool) :
    getCommandBody cfg rcvPacket final = (do
      match ← receiveGet cfg rcvPacket final with
      | .error status => return status
      | .ok (newRequest, request) =>
          takeGet cfg newRequest request >>= finishGet cfg final) := by
  unfold getCommandBody receiveGet
  rw [bind_bind]
  congr 1
  funext entry
  cases entry with
  | error status => rfl
  | ok newRequest =>
      dsimp only
      rw [bind_bind]
      congr 1
      funext c
      rw [bind_bind]
      congr 1
      funext common
      rw [ite_then]
      split
      · rfl
      · rw [bind_bind]
        congr 1
        funext _
        rw [bind_bind]
        congr 1
        funext ⟨status, request⟩
        dsimp only
        rw [ite_then, serveHeaders_eq]
        rfl

/-! ## The list that is left -/

/-- The two commands. -/
inductive PutOrGet
  | put
  | get
  deriving DecidableEq, Repr

/-- The handler up to the parsed headers; the flag tells that this is a new request. -/
def PutOrGet.receive (cfg : Config) (rcvPacket : ByteStream) (final : Bool) :
    PutOrGet → Srv (Except Status (Bool × Request))
  | .put => do
      let (status, request) ← parseRequest cfg rcvPacket
      let c ← connection
      if !status.success then return .error status
      else return .ok (c.state = .obexConnected, request)
  | .get => receiveGet cfg rcvPacket final

/-- The handler from the parsed headers to the callback. -/
def PutOrGet.take (cfg : Config) (newRequest final : Bool) (request : Request) :
    PutOrGet → Srv Stage
  | .put => takePut cfg final request
  | .get => takeGet cfg newRequest request

/-- A header that the application gets to see: no request of single response mode, and no
single response parameters. -/
def passes (header : ParsedHeader) : Bool :=
  !(header.id == hdrSingleResponseMode && ParsedHeader.byte header == srmEnabled) &&
    !(header.id == hdrSingleResponseParameters)

/-- Neither of the two headers is there twice. -/
structure Request.Single (request : Request) : Prop where
  mode : request.headers.countP (fun header => header.id == hdrSingleResponseMode) ≤ 1
  parameters : request.headers.countP (fun header => header.id == hdrSingleResponseParameters) ≤ 1

/-- The value of the parameters header. -/
def Request.srmParam (request : Request) : Nat :=
  match request.find hdrSingleResponseParameters with
  | some header => (ParsedHeader.byte header).toNat
  | none => srmParamNone

/-- What is left of a received list goes on, and what was taken away was looked at. -/
structure Honoured (received : Request) (before : Common) (request : Request) (after : Common) :
    Prop where
  headers : request.headers = received.headers.filter passes
  srmParam : after.srmParam = received.srmParam
  requested : after.srm.requested =
    (before.srm.requested || (requestsSrm received && before.srm.supported))

/-- The list that goes on at a stage is what is left of the received one. -/
def Stage.Honours (received : Request) (before : Common) : Stage → Common → Prop
  | .refused _, _ => True
  | .segment request, after | .served request, after => Honoured received before request after

section Taking

variable {received request : Request} {s s' : Session}

theorem find_delete_of_ne {a b : UInt8} (h : a ≠ b) :
    (request.delete a).find b = request.find b := by
  unfold Request.find Request.delete
  dsimp only
  induction request.headers with
  | nil => rfl
  | cons header headers ih =>
      by_cases ha : header.id = a
      · rw [eraseP_cons_of_pos (by simp [ha]), find?_cons_of_neg (by simp [ha, h])]
      · rw [eraseP_cons_of_neg (by simp [ha])]
        by_cases hb : header.id = b
        · rw [find?_cons_of_pos (by simp [hb]), find?_cons_of_pos (by simp [hb])]
        · rw [find?_cons_of_neg (by simp [hb]), find?_cons_of_neg (by simp [hb]), ih]

theorem delete_of_find_none {a : UInt8} (h : request.find a = none) :
    request.delete a = request := by
  unfold Request.delete
  rw [eraseP_of_forall_not]
  exact find?_eq_none.1 h

/-- `common` with a single response parameter. -/
def withSrmParam (srmParam : Nat) (common : Common) : Common := { common with srmParam := srmParam }

theorem takeSrmParam_eq (request : Request) : takeSrmParam request = (do
    setCommon (withSrmParam request.srmParam)
    return request.delete hdrSingleResponseParameters) := by
  unfold takeSrmParam Request.srmParam
  cases hfind : request.find hdrSingleResponseParameters with
  | some header => rfl
  | none =>
      rw [delete_of_find_none hfind]
      rfl

/-- A header that requests single response mode. -/
def asksSrm (header : ParsedHeader) : Bool :=
  header.id == hdrSingleResponseMode && ParsedHeader.byte header == srmEnabled

theorem passes_eq (header : ParsedHeader) :
    passes header = (!asksSrm header && !(header.id == hdrSingleResponseParameters)) := rfl

theorem requestsSrm_iff (hsingle : received.Single) :
    requestsSrm received = true ↔ ∃ header ∈ received.headers, asksSrm header = true := by
  unfold requestsSrm asksSrm
  constructor
  · intro h
    split at h
    · next header hfind =>
        have hid : (header.id == hdrSingleResponseMode) = true := by
          have hfound := find?_some hfind
          exact hfound
        exact ⟨header, mem_of_find?_eq_some hfind, by rw [hid, h]; rfl⟩
    · cases h
  · rintro ⟨header, hmem, hasks⟩
    obtain ⟨hid, hbyte⟩ := Bool.and_eq_true_iff.1 hasks
    have hfind : received.find hdrSingleResponseMode = some header :=
      find?_eq_some_of_countP_le_one hsingle.mode hmem hid
    rw [hfind]
    exact hbyte

/-- Where no header requests single response mode, only the parameters are taken away. -/
theorem headers_of_not_requests (hsingle : received.Single)
    (hrequests : requestsSrm received = false) :
    (received.delete hdrSingleResponseParameters).headers = received.headers.filter passes := by
  unfold Request.delete
  dsimp only
  rw [List.eraseP_eq_filter hsingle.parameters]
  apply filter_congr
  intro header hmem
  have hasks : asksSrm header = false := by
    apply Bool.eq_false_iff.2
    intro hasks
    rw [(requestsSrm_iff hsingle).2 ⟨header, hmem, hasks⟩] at hrequests
    cases hrequests
  rw [passes_eq, hasks]
  rfl

/-- Where one does, both are taken away. -/
theorem headers_of_requests (hsingle : received.Single)
    (hrequests : requestsSrm received = true) :
    ((received.delete hdrSingleResponseMode).delete hdrSingleResponseParameters).headers =
      received.headers.filter passes := by
  unfold Request.delete
  dsimp only
  rw [List.eraseP_eq_filter hsingle.mode, List.eraseP_eq_filter, filter_filter]
  · apply filter_congr
    intro header hmem
    have hasks : (header.id == hdrSingleResponseMode) = asksSrm header := by
      cases hid : header.id == hdrSingleResponseMode with
      | false => rw [asksSrm, hid]; rfl
      | true =>
          have hfind : received.find hdrSingleResponseMode = some header :=
            find?_eq_some_of_countP_le_one hsingle.mode hmem hid
          rw [requestsSrm, hfind] at hrequests
          rw [asksSrm, hid]
          exact hrequests.symm
    rw [passes_eq, hasks, Bool.and_comm]
  · rw [countP_filter]
    refine Nat.le_trans (countP_mono_left ?_) hsingle.parameters
    intro header _ h
    exact (Bool.and_eq_true_iff.1 h).1

/-- Every list that goes on still has a request of single response mode. -/
def Stage.Asks : Stage → Prop
  | .refused _ => False
  | .segment request | .served request => ∃ header ∈ request.headers, asksSrm header = true

variable {stage : Stage}

theorem Stage.Asks.not_honours (h : stage.Asks) {received : Request} {before after : Common} :
    ¬ stage.Honours received before after := by
  have hleft : ∀ request : Request, (∃ header ∈ request.headers, asksSrm header = true) →
      ¬ Honoured received before request after := by
    rintro request ⟨header, hmem, hasks⟩ hhonoured
    rw [hhonoured.headers] at hmem
    have hpasses := (mem_filter.1 hmem).2
    rw [passes_eq, hasks] at hpasses
    cases hpasses
  cases stage with
  | refused status => exact absurd h not_false
  | segment request => exact hleft request h
  | served request => exact hleft request h

theorem asks_delete (h : ∃ header ∈ request.headers, asksSrm header = true) :
    ∃ header ∈ (request.delete hdrSingleResponseParameters).headers, asksSrm header = true := by
  obtain ⟨header, hmem, hasks⟩ := h
  have hid := (Bool.and_eq_true_iff.1 hasks).1
  refine ⟨header, ?_, hasks⟩
  unfold Request.delete
  rw [mem_eraseP_of_neg]
  · exact hmem
  · rw [beq_iff_eq.1 hid]
    decide

theorem ends_takeSrmParam {r : Request} (h : Ends (takeSrmParam request) s r s') :
    r = request.delete hdrSingleResponseParameters ∧
      s'.channel.common = withSrmParam request.srmParam s.channel.common := by
  rw [takeSrmParam_eq] at h
  obtain ⟨_, t, hset, hpure⟩ := ends_bind.1 h
  obtain rfl := ends_setCommon.1 hset
  obtain ⟨rfl, rfl⟩ := ends_pure.1 hpure
  exact ⟨rfl, rfl⟩

/-- `common` after a request of single response mode. -/
def withRequested (common : Common) : Common :=
  if common.srm.supported then { common with srm := { common.srm with requested := true } }
  else common

theorem ends_takeGetSrm (hsingle : received.Single) {r : Request}
    (h : Ends (takeGetSrm received) s r s') :
    Honoured received s.channel.common r s'.channel.common := by
  unfold takeGetSrm at h
  split at h
  · next hrequests =>
      obtain ⟨_, t, hset, h⟩ := ends_bind.1 h
      obtain ⟨rfl, hcommon⟩ := ends_takeSrmParam h
      unfold srmRequested at hset
      obtain rfl := ends_setCommon.1 hset
      rw [hcommon]
      refine ⟨headers_of_requests hsingle hrequests, ?_, ?_⟩
      · unfold withSrmParam Request.srmParam
        rw [find_delete_of_ne (by decide)]
      · rw [hrequests]
        change (withRequested s.channel.common).srm.requested = _
        unfold withRequested
        cases hsupported : s.channel.common.srm.supported with
        | false => simp
        | true => simp
  · next hrequests =>
      obtain ⟨rfl, hcommon⟩ := ends_takeSrmParam h
      rw [hcommon]
      have hnot := Bool.eq_false_iff.2 hrequests
      refine ⟨headers_of_not_requests hsingle hnot, rfl, ?_⟩
      rw [hnot, Bool.false_and, Bool.or_false]
      rfl

/-- A get request honours the headers in every stage. -/
theorem takeGet_honours {cfg : Config} (hsingle : received.Single) {newRequest : Bool}
    (h : Ends (takeGet cfg newRequest received) s stage s') :
    stage.Honours received s.channel.common s'.channel.common := by
  unfold takeGet at h
  obtain ⟨request, t, htake, h⟩ := ends_bind.1 h
  have hhonoured := ends_takeGetSrm hsingle htake
  replace h := ends_bind_view.1 h
  replace h := ends_bind_view.1 h
  split at h
  · dsimp only at h
    split at h
    · obtain ⟨rfl, rfl⟩ := ends_pure.1 h
      trivial
    · obtain ⟨_, t₃, hset, h⟩ := ends_bind.1 h
      obtain rfl := ends_setCommon.1 hset
      obtain ⟨rfl, rfl⟩ := ends_pure.1 h
      exact ⟨hhonoured.headers, hhonoured.srmParam, hhonoured.requested⟩
  · split at h
    · obtain ⟨rfl, rfl⟩ := ends_pure.1 h
      exact hhonoured
    · obtain ⟨rfl, rfl⟩ := ends_pure.1 h
      exact hhonoured

theorem ends_takePutParam {final : Bool} (h : Ends (takePutParam final request) s stage s') :
    (∃ status, stage = .refused status) ∨
      (stage = .served (request.delete hdrSingleResponseParameters) ∧
        s'.channel.common = withSrmParam request.srmParam s.channel.common) := by
  unfold takePutParam at h
  replace h := ends_bind_update.1 h
  obtain ⟨target, t₁, htarget, h⟩ := ends_bind.1 h
  obtain ⟨-, rfl⟩ := ends_currentTarget.1 htarget
  split at h
  · obtain ⟨rfl, -⟩ := ends_pure.1 h
    exact .inl ⟨_, rfl⟩
  · obtain ⟨r, t₂, htake, h⟩ := ends_bind.1 h
    obtain ⟨rfl, hcommon⟩ := ends_takeSrmParam htake
    obtain ⟨rfl, rfl⟩ := ends_pure.1 h
    exact .inr ⟨rfl, hcommon⟩

/-- What `newPut` hands on. -/
theorem ends_newPut (h : Ends (newPut received) s request s') :
    (requestsSrm received = true ∧ request = received.delete hdrSingleResponseParameters) ∨
      (requestsSrm received = false ∧ request = received ∧
        s'.channel.common.srm = s.channel.common.srm) := by
  unfold newPut at h
  replace h := ends_bind_update.1 h
  obtain ⟨_, t, hset, h⟩ := ends_bind.1 h
  obtain rfl := ends_setCommon.1 hset
  split at h
  · next hrequests =>
      obtain ⟨_, t, -, h⟩ := ends_bind.1 h
      obtain ⟨rfl, -⟩ := ends_pure.1 h
      exact .inl ⟨hrequests, rfl⟩
  · next hrequests =>
      obtain ⟨rfl, rfl⟩ := ends_pure.1 h
      exact .inr ⟨Bool.eq_false_iff.2 hrequests, rfl, rfl⟩

/-- A put request honours the headers where none requests single response mode. -/
theorem takePut_honours_iff {cfg : Config} (hsingle : received.Single) {final : Bool}
    (h : Ends (takePut cfg final received) s stage s')
    (hserved : ∀ status, stage ≠ .refused status) :
    stage.Honours received s.channel.common s'.channel.common ↔ requestsSrm received = false := by
  have hasks : requestsSrm received = true → stage.Asks →
      (stage.Honours received s.channel.common s'.channel.common ↔ requestsSrm received = false) :=
    fun hrequests hasks => ⟨fun hhonours => absurd hhonours hasks.not_honours,
      fun hnot => by rw [hrequests] at hnot; cases hnot⟩
  have hnot : requestsSrm received = false →
      stage = .served (received.delete hdrSingleResponseParameters) →
        s'.channel.common.srmParam = received.srmParam →
          s'.channel.common.srm = s.channel.common.srm →
            (stage.Honours received s.channel.common s'.channel.common ↔
              requestsSrm received = false) := by
    intro hrequests hstage hparam hsrm
    refine ⟨fun _ => hrequests, fun _ => ?_⟩
    rw [hstage]
    refine ⟨headers_of_not_requests hsingle hrequests, hparam, ?_⟩
    rw [hrequests, Bool.false_and, Bool.or_false, hsrm]
  unfold takePut at h
  replace h := ends_bind_view.1 h
  split at h
  · dsimp only at h
    split at h
    · obtain ⟨rfl, -⟩ := ends_pure.1 h
      exact absurd rfl (hserved _)
    · obtain ⟨request, t, hnew, h⟩ := ends_bind.1 h
      rcases ends_takePutParam h with ⟨status, hstage⟩ | ⟨hstage, hcommon⟩
      · exact absurd hstage (hserved status)
      · rcases ends_newPut hnew with ⟨hrequests, rfl⟩ | ⟨hrequests, rfl, hsrm⟩
        · apply hasks hrequests
          rw [hstage]
          exact asks_delete (asks_delete ((requestsSrm_iff hsingle).1 hrequests))
        · exact hnot hrequests hstage (by rw [hcommon]; rfl) (by rw [hcommon]; exact hsrm)
  · split at h
    · rcases ends_takePutParam h with ⟨status, hstage⟩ | ⟨hstage, hcommon⟩
      · exact absurd hstage (hserved status)
      · rcases Bool.eq_false_or_eq_true (requestsSrm received) with hrequests | hrequests
        · apply hasks hrequests
          rw [hstage]
          exact asks_delete ((requestsSrm_iff hsingle).1 hrequests)
        · exact hnot hrequests hstage (by rw [hcommon]; rfl) (by rw [hcommon]; rfl)
    · obtain ⟨rfl, -⟩ := ends_pure.1 h
      exact absurd rfl (hserved _)

end Taking

/-- Every get request, and every put request without a request of single response mode, goes
on without the two headers, and the parameters are remembered. -/
theorem srm_headers_honoured_iff (cfg : Config) (cmd : PutOrGet) (rcvPacket : ByteStream)
    (final newRequest : Bool) (received : Request) (s s₁ s₂ : Session) (stage : Stage)
    (hreceive : Ends (cmd.receive cfg rcvPacket final) s (.ok (newRequest, received)) s₁)
    (hsingle : received.Single)
    (htake : Ends (cmd.take cfg newRequest final received) s₁ stage s₂)
    (hserved : ∀ status, stage ≠ .refused status) :
    stage.Honours received s₁.channel.common s₂.channel.common ↔
      (cmd = .put → requestsSrm received = false) := by
  cases cmd with
  | put =>
      have hiff := takePut_honours_iff hsingle htake hserved
      exact ⟨fun h _ => hiff.1 h, fun h => hiff.2 (h rfl)⟩
  | get => exact ⟨fun _ => nofun, fun _ => takeGet_honours hsingle htake⟩

/-- A connected session of the sample server. -/
def connectedSession : Session :=
  let s := accepted sampleConfig (sampleServer .none false false) (friendly [])
  { s with
    connection := { s.connection with
      state := .obexConnected
      currentTarget := some (sampleServer .none false false).targetInfo } }

/-- The headers of a packet: a request of single response mode with parameters, and a name. -/
def srmPacket : ByteStream := .open' [0x97, 1, 0x98, 2, 1, 0, 3] 0 .read

/-- The list that is parsed of them. -/
def srmReceived : Request :=
  ⟨[⟨0x97, .uInt8 1⟩, ⟨0x98, .uInt8 2⟩, ⟨1, .unicode 0 none⟩], [0x97, 1, 0x98, 2, 1, 0, 3]⟩

theorem srm_headers_honoured_get : ∃ s₁ stage s₂,
    Stage.Honours srmReceived (Session.channel s₁).common stage (Session.channel s₂).common ∧
      stage = .served ⟨[⟨1, .unicode 0 none⟩], srmReceived.packet⟩ :=
  ⟨_, _, _,
    (srm_headers_honoured_iff sampleConfig .get srmPacket true true srmReceived connectedSession
      _ _ _ rfl ⟨by decide, by decide⟩ rfl nofun).2 nofun, rfl⟩

/-- A put request hands the request of single response mode on, and forgets the parameters. -/
theorem put_keeps_srm_header : ∃ s₁ stage s₂,
    Ends (PutOrGet.put.receive sampleConfig srmPacket true) connectedSession
        (.ok (true, srmReceived)) s₁ ∧
      Ends (PutOrGet.put.take sampleConfig true true srmReceived) s₁ stage s₂ ∧
        srmReceived.Single ∧
          stage = .served ⟨[⟨0x97, .uInt8 1⟩, ⟨1, .unicode 0 none⟩], srmReceived.packet⟩ ∧
            (Session.channel s₂).common.srmParam = srmParamNone ∧
              ¬ Stage.Honours srmReceived (Session.channel s₁).common stage
                (Session.channel s₂).common :=
  ⟨_, _, _, rfl, rfl, ⟨by decide, by decide⟩, rfl, rfl, fun h => absurd h.headers (by decide)⟩

end Obex.Server
