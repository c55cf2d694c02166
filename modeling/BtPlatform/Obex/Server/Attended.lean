import BtPlatform.Obex.Server.Respond

/-!
# No command is swallowed

A command is attended to when a response packet is attempted or the application is
asked for a call that responds. Every handler does so, with the exceptions that
`Unattended` lists; an abort that has to wait for blocks in flight is left pending.
-/

namespace Obex.Server

open Support Program Linked Prog Srv List

/-! ## The property -/

/-- An attempt is made to send a packet. -/
def responded (s s' : Session) : Bool := s.channel.attemptCount < s'.channel.attemptCount

/-- The application is asked for a call. -/
def asked (s s' : Session) : Bool := askCount s < askCount s'

/-- With single response mode a put that is not final needs no response. -/
def needsNoResponse (s : Session) (cmdCode : UInt8) : Bool :=
  s.channel.common.srm.enabled && obexFinal cmdCode == obexFinal cmdPut && !obexIsFinal cmdCode

/-- A bulk get with blocks that are not confirmed yet. -/
def Connection.hasBlocks (c : Connection) : Bool :=
  (c.state == .bulkGetInProgress || c.state == .bulkGetCompleting || c.state == .bulkGetFailed) &&
    c.bulkGet.head.isSome

/-- The abort has to wait for the blocks in flight. -/
def abortDeferred (s s' : Session) (cmdCode : UInt8) : Bool :=
  obexFinal cmdCode == obexFinal cmdAbort && s.connection.hasBlocks && s'.connection.abortPending

/-- What becomes of a command. -/
def attended (s s' : Session) (cmdCode : UInt8) : Bool :=
  responded s s' || asked s s' || needsNoResponse s cmdCode

/-- A get request in a bulk get that has nothing left to send, and whose first block is
not confirmed yet. -/
def awaitsConfirm (c : Connection) (blocks : Heap BulkData) : Prop :=
  (c.state = .bulkGetInProgress ∨ c.state = .bulkGetCompleting) ∧ c.bulkGet.current = none ∧
    ∃ p node, c.bulkGet.head = some p ∧ blocks.read p = some node ∧
      confirmStops .completed node.val = true

/-- A session command whose opcode is none of the five. -/
def unknownSession (cfg : Config) (s : Session) (rcvPacket : ByteStream) : Prop :=
  ∃ status request t header, Ends (parseRequest cfg rcvPacket) s (status, request) t ∧
    status.success ∧ request.find hdrSessionParams = some header ∧
      (sessionStatus ((request.sequence header).1.take (request.sequence header).2)).success

/-- An abort before there is a target, or while an earlier one is pending for good. -/
def lostAbort (c : Connection) : Prop :=
  c.currentTarget = none ∨
    ((c.currentTarget.map fun target => target.cbList.abortInd) = some false ∧
      c.abortPending = true ∧ c.hasBlocks = false)

/-- The commands that a handler leaves without a response. -/
def Unattended (cfg : Config) (s : Session) (cmdCode : UInt8) (rcvPacket : ByteStream) : Prop :=
  (obexFinal cmdCode = obexFinal cmdGet ∧ awaitsConfirm s.connection s.channel.blocks) ∨
    (obexFinal cmdCode = obexFinal cmdSession ∧ unknownSession cfg s rcvPacket) ∨
    (obexFinal cmdCode = obexFinal cmdAbort ∧ lostAbort s.connection)

theorem attended_of_answerCount {s s' : Session} {cmdCode : UInt8}
    (h : answerCount s < answerCount s') : attended s s' cmdCode = true := by
  have hcases : s.channel.attemptCount < s'.channel.attemptCount ∨ askCount s < askCount s' := by
    by_contra hnone
    obtain ⟨hattempts, hasks⟩ := not_or.1 hnone
    exact Nat.not_lt_of_le
      (Nat.add_le_add (Nat.le_of_not_lt hattempts) (Nat.le_of_not_lt hasks)) h
  unfold attended responded asked
  rcases hcases with h | h
  · simp [h]
  · simp [h]

/-! ## Handlers that end with a status -/

/-- Where the program succeeds, the command has been attended to. -/
def Serves (m : Srv Status) : Prop :=
  ∀ s status s', Ends m s status s' → status.success → answerCount s < answerCount s'

namespace Serves

variable {α : Type} {m : Srv α}

theorem of_answered {m : Srv Status} (h : Within (Advances answerCount) m) : Serves m :=
  fun s status s' hends _ => h s status s' hends

theorem pure {status : Status} (h : ¬ status.success) : Serves (Pure.pure status) := by
  intro s st s' hends hok
  obtain ⟨rfl, -⟩ := ends_pure.1 hends
  exact absurd hok h

theorem bind {f : α → Srv Status} (hm : Within Continues m) (hf : ∀ a, Serves (f a)) :
    Serves (m >>= f) := by
  intro s status s' hends hok
  obtain ⟨a, t, h₁, h₂⟩ := ends_bind.1 hends
  exact Nat.lt_of_le_of_lt (hm s a t h₁).count (hf a t status s' h₂ hok)

theorem ite {c : Prop} [Decidable c] {m₁ m₂ : Srv Status} (h₁ : Serves m₁) (h₂ : Serves m₂) :
    Serves (if c then m₁ else m₂) := by
  split
  · exact h₁
  · exact h₂

/-- A failed check ends the handler with its status. -/
theorem check {status : Status} {m : Srv Status} (h : Serves m) :
    Serves (if !status.success then Pure.pure status else m) := by
  split
  · next hfail => exact pure (by simpa using hfail)
  · exact h

/-- The error path answers where the handler has not. -/
theorem orError {m : Srv Status} {onError : Status → Srv Unit} (hm : Serves m)
    (hcount : Within Continues m) (he : ∀ status, Within (Advances answerCount) (onError status)) :
    Within (Advances answerCount) (do
      let status ← m
      Prog.only (¬ status.success) (onError status)) := by
  intro s u s' hends
  obtain ⟨status, t, h₁, h₂⟩ := ends_bind.1 hends
  obtain ⟨-, herror⟩ | ⟨hok, rfl⟩ := ends_only.1 h₂
  · exact Nat.lt_of_le_of_lt (hcount s status t h₁).count (he status t u s' herror)
  · exact hm s status _ h₁ (Classical.not_not.1 hok)

end Serves

variable {cfg : Config} {s s' : Session} {rcvPacket : ByteStream} {status : Status}

/-! ## PUT -/

theorem putCommandError_answered {cfg : Config} {status : Status} :
    Within (Advances answerCount) (putCommandError cfg status) :=
  .bind_advances .view fun _ =>
    .bind_advances
      (continues_counts (.only ((indicate_permitted _).seq <|
        setState_continues)))
      fun _ => errorResponse_answered

variable {request : Request} {final : Bool} {t : Session}

theorem continuePut_answered {cfg : Config} :
    Within (Advances answerCount) (continuePut cfg request final) := by
  have hindicate : ∀ request, Within (Advances answerCount) (indicatePut cfg request final) :=
    fun request => .advances_bind (indicate_answered cfg rfl) fun _ =>
      .ite (continues_counts (reportProgress_permitted _))
        (continues_counts (setState_continues.seq errorResponse_sends))
  exact .bind_advances (.update fun _ => le_rfl) fun _ =>
    .bind_advances (continues_counts currentTarget_sends) fun _ =>
      .ite putCommandError_answered
        (.bind_advances (continues_counts takeSrmParam_sends)
          hindicate)

theorem putCommand_answered {cfg : Config} {rcvPacket : ByteStream} :
    Within (Advances answerCount) (putCommand cfg rcvPacket final) := by
  exact .bind_advances (continues_counts parseRequest_sends)
    fun ⟨_, _⟩ => .bind_advances .view fun _ =>
      .ite putCommandError_answered
        (.ite
          (.ite putCommandError_answered
            (.bind_advances (continues_counts newPut_permitted)
              fun _ => continuePut_answered))
          (.ite continuePut_answered putCommandError_answered))

/-! ## SETPATH, ACTION and SESSION -/

theorem setPathCommand_answered {cfg : Config} {rcvPacket : ByteStream} :
    Within (Advances answerCount) (setPathCommand cfg rcvPacket) := by
  have hindicate : ∀ flags request, Serves (indicateSetPath cfg flags request) :=
    fun flags request => .ite (.pure (by decide))
      (.bind setState_continues fun _ => .of_answered (indicate_answered cfg rfl))
  have hserves : Serves (setPathCommandBody cfg rcvPacket) :=
    .bind .view fun _ => .ite (.pure (by decide))
      (.bind currentTarget_sends fun _ => .ite (.pure (by decide))
        (.bind .lift fun ⟨_, _⟩ => .ite (.pure (by decide))
          (.bind parseRequest_sends fun ⟨_, _⟩ => .check (.check (hindicate _ _)))))
  exact Serves.orError hserves (setPathCommandBody_permitted _) fun status =>
    .bind_advances .view fun _ =>
      .bind_advances (continues_counts (.only setState_continues))
        fun _ => errorResponse_answered

theorem actionCommand_answered {cfg : Config} {rcvPacket : ByteStream} :
    Within (Advances answerCount) (actionCommand cfg rcvPacket) := by
  have hserves : Serves (actionCommandBody cfg rcvPacket) := by
    refine .bind .view fun _ => .ite (.pure (by decide))
      (.bind currentTarget_sends fun _ => .ite (.pure (by decide))
        (.bind parseRequest_sends fun ⟨_, _⟩ => .check (.check ?_)))
    split
    · exact .bind setState_continues fun _ => .of_answered
        (.advances_bind (indicate_answered cfg rfl) fun _ =>
          continues_counts ((Within.only setState_continues).seq .pure))
    · exact .pure (by decide)
  exact Serves.orError hserves (actionCommandBody_permitted _) fun _ => errorResponse_answered

theorem sessionCommand_answered (hknown : ¬ unknownSession cfg s rcvPacket)
    (h : Ends (sessionCommand cfg rcvPacket) s () s') : answerCount s < answerCount s' := by
  replace h := ends_bind_view.1 h
  split at h
  · exact errorResponse_answered _ _ _ h
  · obtain ⟨⟨parsed, request⟩, t, hparse, hanswer⟩ := ends_bind.1 h
    have hle := continues_counts parseRequest_sends _ _ _ hparse
    dsimp only at hanswer
    split at hanswer
    · exact Nat.lt_of_le_of_lt hle (errorResponse_answered _ _ _ hanswer)
    · next hparsed =>
        split at hanswer
        · exact Nat.lt_of_le_of_lt hle (errorResponse_answered _ _ _ hanswer)
        · next header hfind =>
            obtain ⟨-, herror⟩ | ⟨hok, -⟩ := ends_only.1 hanswer
            · exact Nat.lt_of_le_of_lt hle (errorResponse_answered _ _ _ herror)
            · refine absurd ⟨parsed, request, t, header, hparse, ?_, hfind, ?_⟩ hknown
              · simpa using hparsed
              · exact Classical.not_not.1 hok

/-! ## GET -/

/-- Blocks that are reported with status `OI_OBEX_CONTINUE` ask for more. -/
theorem confirmBuffers_answered (cfg : Config) {cfm : List (Option BufferId × Nat)}
    (h : cfm ≠ []) : Within (Advances answerCount) (confirmBuffers cfg cfm .obexContinue) := by
  rw [confirmBuffers, Prog.only, if_pos (length_pos_iff.2 h)]
  exact .advances_bind (indicate_answered cfg rfl) fun _ => .pure

/-- A pass that has a block to report asks for more. The induction is on the fuel;
the block is in `cfm` or has been reported with sixteen of them. -/
theorem confirmBlocks_answered (cfg : Config) (fuel : Nat) (bulkData : Option Ptr)
    {cfm : List (Option BufferId × Nat)} (final : Bool) (h : cfm ≠ []) :
    Within (Advances answerCount)
      (confirmBlocks cfg .obexContinue .completed fuel bulkData cfm .obexContinue final) := by
  induction fuel generalizing bulkData cfm final with
  | zero => exact .fault
  | succ fuel ih =>
      cases bulkData with
      | none => exact .advances_bind (confirmBuffers_answered cfg h) fun _ => .pure
      | some bulkData =>
          refine .bind_advances
            (continues_counts deref_step)
            fun ⟨p, node⟩ => .ite
              (.advances_bind (confirmBuffers_answered cfg h) fun _ => .pure)
              (.bind_advances (continues_counts popBlock_permitted)
                fun _ => ?_)
          rw [ite_self]
          exact .ite
            (.advances_bind (indicate_answered cfg rfl) fun _ =>
              continues_counts (confirmBlocks_permitted _))
            (ih _ _ (append_ne_nil_of_right_ne_nil _ (cons_ne_nil _ _)))

theorem ends_deref {p : Ptr} {r : Ptr × Node BulkData}
    (h : Ends (onChannel (OnChannel.deref (some p))) s r s') :
    r.1 = p ∧ s.channel.blocks.read p = some r.2 ∧ s' = s := by
  obtain ⟨ch, hderef, rfl⟩ := ends_onChannel.1 h
  replace hderef := ends_bind_view.1 hderef
  obtain ⟨hread, rfl⟩ := ends_lift.1 hderef
  rw [derefBlock] at hread
  split at hread
  · cases hread
  · next node hnode =>
      obtain rfl := Except.ok.inj hread
      exact ⟨rfl, hnode, rfl⟩

/-- A pass over the blocks either asks for more or finds the first block not confirmed
and does nothing. -/
theorem confirmBulkGets_first {p : Ptr} {r : Bool × Bool}
    (hhead : s.connection.bulkGet.head = some p)
    (h : Ends (confirmBulkGets cfg .obexContinue .completed) s r s') :
    answerCount s < answerCount s' ∨
      (s' = s ∧ ∃ node, s.channel.blocks.read p = some node ∧
        confirmStops .completed node.val = true) := by
  replace h := ends_bind_view.1 h
  simp only [id, hhead, if_pos] at h
  generalize confirmBound s = fuel at h
  cases fuel with
  | zero => exact absurd h ends_fault
  | succ fuel =>
      obtain ⟨⟨q, node⟩, t, hderef, hrest⟩ := ends_bind.1 h
      obtain ⟨hq, hread, rfl⟩ := ends_deref hderef
      dsimp only at hrest hread
      split at hrest
      · next hstops =>
          obtain ⟨_, hconfirm, -⟩ := ends_bind_return.1 hrest
          obtain ⟨hsome, -⟩ | ⟨-, rfl⟩ := ends_only.1 hconfirm
          · exact absurd hsome (Nat.lt_irrefl 0)
          · exact .inr ⟨rfl, node, hread, hstops⟩
      · obtain ⟨_, t', hpop, hmore⟩ := ends_bind.1 hrest
        refine .inl (Nat.lt_of_le_of_lt (continues_counts popBlock_permitted _ _ _ hpop) ?_)
        rw [ite_self] at hmore
        split at hmore
        · next hmax => exact absurd hmax (by simp [maxConfirm])
        · exact confirmBlocks_answered cfg fuel _ _ (cons_ne_nil _ _) _ _ _ hmore

theorem sendBulkGet_answered (hcurrent : s.connection.bulkGet.current.isSome)
    (h : Ends sendBulkGet s status s') : answerCount s < answerCount s' := by
  replace h := ends_bind_view.1 h
  obtain ⟨sent, t, hsend, hset⟩ := ends_bind.1 h
  have hlt := onChannel_answered (OnChannel.sendBulk_attempts _ hcurrent) _ _ _ hsend
  have hle := (setBulkGet_permitted.seq <| .pure : Within Continues (do
    setBulkGet fun b => { b with current := sent.current, busy := sent.busy }
    return sent.status)) _ _ _ hset
  exact Nat.lt_of_lt_of_le hlt hle.count

theorem serveGet_answered (hwait : ¬ awaitsConfirm s.connection s.channel.blocks)
    (h : Ends (serveGet cfg request final) s status s') : answerCount s < answerCount s' := by
  have hsend : ∀ {t : Session} {st : Status}, Ends (do
      let c ← Srv.connection
      if c.bulkGet.current.isSome then sendBulkGet else return .ok) t st s' →
      answerCount t ≤ answerCount s' := by
    intro t st hends
    exact (Within.view.seq <| .ite sendBulkGet_permitted .pure :
      Within Continues _) _ _ _ hends |>.count
  replace h := ends_bind_view.1 h
  split at h
  · next hstate =>
      cases hhead : s.connection.bulkGet.head with
      | none =>
          rw [hhead] at h
          obtain ⟨_, t, hindicate, hrest⟩ := ends_bind.1 h
          exact Nat.lt_of_lt_of_le (indicate_answered cfg rfl _ _ _ hindicate) (hsend hrest)
      | some p =>
          rw [hhead] at h
          obtain ⟨_, t, hconfirm, hrest⟩ := ends_bind.1 h
          rcases confirmBulkGets_first hhead hconfirm with hlt | ⟨rfl, node, hread, hstops⟩
          · exact Nat.lt_of_lt_of_le hlt (hsend hrest)
          · replace hrest := ends_bind_view.1 hrest
            split at hrest
            · next hcurrent => exact sendBulkGet_answered hcurrent hrest
            · next hcurrent =>
                exact absurd ⟨hstate, Option.not_isSome_iff_eq_none.1 hcurrent, p, node, hhead,
                  hread, hstops⟩ hwait
  · exact indicate_answered cfg rfl _ _ _ h

theorem Answers.awaitsConfirm_iff {s : Session} (h : Answers s t) :
    awaitsConfirm t.connection t.channel.blocks ↔
      awaitsConfirm s.connection s.channel.blocks := by
  rw [h.connection_eq, h.quiet.blocks]

theorem serveHeaders_answered {newRequest : Bool}
    (hwait : ¬ awaitsConfirm s.connection s.channel.blocks)
    (h : Ends (serveHeaders cfg newRequest final request) s status s') (hok : status.success) :
    answerCount s < answerCount s' := by
  obtain ⟨request', t, htake, hserve⟩ := ends_bind.1 h
  have hanswers := takeGetSrm_answers _ _ _ htake
  have hwait' : ¬ awaitsConfirm t.connection t.channel.blocks :=
    mt hanswers.awaitsConfirm_iff.1 hwait
  refine Nat.lt_of_le_of_lt (continues_counts takeGetSrm_sends _ _ _ htake) ?_
  replace hserve := ends_bind_view.1 hserve
  replace hserve := ends_bind_view.1 hserve
  split at hserve
  · dsimp only at hserve
    split at hserve
    · next hcheck =>
        obtain ⟨rfl, -⟩ := ends_pure.1 hserve
        exact absurd hok (by simpa using hcheck)
    · obtain ⟨_, t', hset, hget⟩ := ends_bind.1 hserve
      have hsame := setCommon_answers _ _ _ hset
      exact Nat.lt_of_le_of_lt (continues_counts (answers_permitted setCommon_answers) _ _ _ hset)
        (serveGet_answered (mt hsame.awaitsConfirm_iff.1 hwait') hget)
  · split at hserve
    · exact serverSendBodySegment_answered _ _ _ hserve
    · exact serveGet_answered hwait' hserve

/-- The switch over the state leaves the blocks alone, or a get starts. -/
theorem getCommandState_awaits {entry : Except Status Bool}
    (hwait : ¬ awaitsConfirm s.connection s.channel.blocks) (h : Ends getCommandState s entry t) :
    ¬ awaitsConfirm t.connection t.channel.blocks ∧
      ∀ st, entry = .error st → ¬ st.success := by
  by_cases hstate : s.connection.state = .obexConnected
  · replace h := ends_bind_update.1 h
    replace h := ends_bind_view.1 h
    dsimp only at h
    rw [hstate] at h
    replace h := ends_bind_update.1 h
    replace h := ends_bind_update.1 h
    replace h := ends_bind_update.1 h
    obtain ⟨_, t', hset, hreturn⟩ := ends_bind.1 h
    obtain rfl := ends_setCommon.1 hset
    obtain ⟨rfl, rfl⟩ := ends_pure.1 hreturn
    refine ⟨?_, fun st heq => by cases heq⟩
    rintro ⟨hbulk | hbulk, -⟩
    · cases hbulk
    · cases hbulk
  · obtain ⟨rfl, herror⟩ := getCommandState_ends hstate h
    exact ⟨hwait, herror⟩

theorem getCommandBody_answered (hwait : ¬ awaitsConfirm s.connection s.channel.blocks)
    (h : Ends (getCommandBody cfg rcvPacket final) s status s') (hok : status.success) :
    answerCount s < answerCount s' := by
  obtain ⟨entry, t, hentry, hbody⟩ := ends_bind.1 h
  obtain ⟨hwait', herror⟩ := getCommandState_awaits hwait hentry
  refine Nat.lt_of_le_of_lt (continues_counts getCommandState_permitted _ _ _ hentry) ?_
  cases entry with
  | error st =>
      obtain ⟨rfl, -⟩ := ends_pure.1 hbody
      exact absurd hok (herror _ rfl)
  | ok newRequest =>
      replace hbody := ends_bind_view.1 hbody
      replace hbody := ends_bind_view.1 hbody
      split at hbody
      · obtain ⟨rfl, -⟩ := ends_pure.1 hbody
        exact absurd hok (by decide)
      · replace hbody := ends_bind_update.1 hbody
        obtain ⟨⟨parsed, request⟩, t', hparse, hserve⟩ := ends_bind.1 hbody
        have hanswers := parseRequest_answers _ _ _ hparse
        have hle := continues_counts parseRequest_sends _ _ _ hparse
        dsimp only at hserve
        split at hserve
        · next hparsed =>
            obtain ⟨rfl, -⟩ := ends_pure.1 hserve
            exact absurd hok (by simpa using hparsed)
        · exact Nat.lt_of_le_of_lt hle
            (serveHeaders_answered (mt hanswers.awaitsConfirm_iff.1 hwait') hserve hok)

theorem getCommand_answered (hwait : ¬ awaitsConfirm s.connection s.channel.blocks)
    (h : Ends (getCommand cfg rcvPacket final) s () s') : answerCount s < answerCount s' := by
  have hcleanup : ∀ status, Within Continues (getCommandCleanup cfg status) := by
    intro status
    refine Within.view.bind fun c => ?_
    split
    all_goals first
      | exact currentTarget_sends.seq <|
          Within.only (indicate_ignored_permitted _)
      | exact (confirmBulkGets_permitted _).seq .pure
      | exact .pure
  have herror : ∀ status, Within (Advances answerCount) (getCommandError cfg status) :=
    fun status => .bind_advances (continues_counts srmOff_sends)
      fun _ => .bind_advances (continues_counts (hcleanup status))
        fun _ => .bind_advances (continues_counts setState_continues)
          fun _ => errorResponse_answered
  obtain ⟨status, t, hbody, hend⟩ := ends_bind.1 h
  obtain ⟨-, hend⟩ | ⟨hok, rfl⟩ := ends_only.1 hend
  · exact Nat.lt_of_le_of_lt (continues_counts (getCommandBody_permitted _) _ _ _ hbody)
      (herror status _ _ _ hend)
  · exact getCommandBody_answered hwait hbody (Classical.not_not.1 hok)

/-! ## CONNECT and DISCONNECT -/

theorem acceptConnect_answered {realm : Option Realm} {accept : Bool} {rspStatus : Status}
    {optHeaders : Option (List Header)} (hlive : s.live)
    (h : Ends (acceptConnect cfg realm accept rspStatus optHeaders) s status s') :
    answerCount s < answerCount s' := by
  replace h := ends_bind_state.1 h
  rw [if_neg (by simp [hlive])] at h
  obtain ⟨⟨rsp, headers⟩, t, hanswer, hrest⟩ := ends_bind.1 h
  refine Nat.lt_of_le_of_lt (continues_counts connectAnswer_permitted _ _ _ hanswer) ?_
  have htail : ∀ st : Status, Within Continues (do
      Prog.only (¬ st.success) (do
        setState .lowerLayerConnected
        setAuthentication none
        setConnection fun c => { c with connectIndicated := false })
      return st) := by
    intro st
    refine .bind (.only ?_) fun _ => .pure
    exact setState_continues.seq <| setAuthentication_sends.seq <|
      setConnection_follows fun _ => rfl
  exact Within.advances_bind sendConnectAnswer_answered
    (fun st => continues_counts (htail st)) _ _ _ hrest

/-- The call succeeds only if it has answered. -/
theorem acceptConnectCall_serves (cfg : Config) (accept : Bool) (rspStatus : Status)
    (optHeaders : Option (List Header)) :
    Serves (acceptConnectCall cfg accept rspStatus optHeaders) := by
  intro s status s' h hok
  replace h := ends_bind_state.1 h
  split at h
  · obtain ⟨rfl, -⟩ := ends_pure.1 h
    exact absurd hok (by decide)
  · next hready =>
      have hlive : s.live := by
        by_contra hdead
        simp [hdead] at hready
      split at h
      · obtain ⟨rfl, -⟩ := ends_pure.1 h
        exact absurd hok (by decide)
      · exact acceptConnect_answered hlive h

theorem connecting_serves (cfg : Config) (havePassword : Bool) :
    Serves (connecting cfg havePassword) := by
  have hindicate : Within (Advances answerCount) (indicateConnect cfg) :=
    .bind_advances (.update fun _ => le_rfl) fun _ =>
      .bind_advances (.update fun _ => le_rfl) fun _ =>
        .bind_advances .view fun _ => .bind_advances .view fun _ =>
          .advances_bind (indicate_answered cfg rfl) fun _ => .pure
  exact .bind setState_continues fun _ => .bind .view fun _ =>
    .ite
      (.bind currentTarget_sends fun _ => .ite
        (.of_answered (.advances_bind (indicate_answered cfg rfl) fun _ => .pure))
        (acceptConnectCall_serves cfg _ _ _))
      (.of_answered (.advances_bind hindicate fun _ => .pure))

theorem connectHeadersParsed_serves (cfg : Config) (request : Request) :
    Serves (connectHeadersParsed cfg request) := by
  refine .bind .view fun c => ?_
  dsimp only
  split
  · exact .pure (by decide)
  · exact .bind (setConnection_follows fun _ => rfl) fun _ =>
      .bind (setConnection_follows fun _ => rfl) fun _ =>
        .bind connectChallenge_follows fun _ => .check
          (.bind connectAuthentication_follows fun ⟨_, _⟩ =>
            .check (connecting_serves cfg _))

/-- The parameters of a connect request are refused with an error status. -/
theorem connectParameters_refused {bs bs' : ByteStream} {st : Status}
    (h : connectParameters bs = .ok (.error st, bs')) : ¬ st.success := by
  obtain ⟨⟨version, bs₁⟩, -, hflags⟩ := bind_eq_ok.1 h
  dsimp only at hflags
  split at hflags
  · cases hflags
    decide
  · obtain ⟨⟨flags, bs₂⟩, -, hlen⟩ := bind_eq_ok.1 hflags
    dsimp only at hlen
    split at hlen
    · cases hlen
      decide
    · obtain ⟨⟨len, bs₃⟩, -, hend⟩ := bind_eq_ok.1 hlen
      dsimp only at hend
      split at hend
      · cases hend
        decide
      · cases hend

theorem connectCommandBody_serves (cfg : Config) (rcvPacket : ByteStream) :
    Serves (connectCommandBody cfg rcvPacket) := by
  refine .bind .view fun _ => .ite (.pure (by decide)) ?_
  intro s status s' h hok
  obtain ⟨⟨parameters, bs⟩, t, hlift, hrest⟩ := ends_bind.1 h
  obtain ⟨hparameters, rfl⟩ := ends_lift.1 hlift
  cases parameters with
  | error st =>
      obtain ⟨rfl, -⟩ := ends_pure.1 hrest
      exact absurd hok (connectParameters_refused hparameters)
  | ok maxSendPktLen =>
      have hserves : Serves (do
          Srv.setCommon fun common =>
            { common with maxSendPktLen := min maxSendPktLen common.maxSendPktLen }
          let common ← common
          if common.maxSendPktLen < minPacketSize then return .obexValueNotAcceptable
          else
            let parsed ← parseRequest cfg bs
            if !parsed.1.success then return parsed.1
            else connectHeadersParsed cfg parsed.2) :=
        .bind (answers_permitted setCommon_answers) fun _ => .bind .view fun _ =>
          .ite (.pure (by decide)) (.bind parseRequest_sends fun _ =>
            .check (connectHeadersParsed_serves cfg _))
      exact hserves _ _ _ hrest hok

theorem connectCommand_answered (hlive : s.live)
    (h : Ends (connectCommand cfg rcvPacket) s () s') : answerCount s < answerCount s' := by
  obtain ⟨status, t, hbody, hend⟩ := ends_bind.1 h
  obtain ⟨-, hrefuse⟩ | ⟨hok, rfl⟩ := ends_only.1 hend
  · have hcontinues : Continues s t := connectCommandBody_follows _ _ _ _ hbody
    obtain ⟨_, t', haccept, hset⟩ := ends_bind.1 hrefuse
    have hlt := acceptConnect_answered (hcontinues.live.trans hlive) haccept
    exact Nat.lt_of_le_of_lt hcontinues.count
      (Nat.lt_of_lt_of_le hlt (continues_counts setAuthentication_sends _ _ _ hset))
  · exact connectCommandBody_serves cfg _ _ _ _ hbody (Classical.not_not.1 hok)

theorem serverDisconnect_counts {cfg : Config} {reason : Status} :
    Within (Monotone answerCount) (serverDisconnect cfg reason) := by
  have hend : ∀ state, Within Continues (endOperation cfg state reason) := by
    intro state
    unfold endOperation
    split
    all_goals first
      | exact indicate_ignored_permitted _
      | exact (confirmBulkGets_permitted _).seq .pure
      | exact .pure
  exact .bind .view fun _ =>
    .bind (continues_counts setState_continues) fun _ =>
      .bind (.update fun _ => le_rfl) fun _ =>
        .bind (continues_counts (hend _)) fun _ =>
          .bind (continues_counts setAuthentication_sends) fun _ =>
            .bind .view fun c =>
              .bind
                (continues_counts (.only
                  (.bind (setConnection_follows fun _ => rfl) fun _ =>
                  indicate_ignored_permitted _)))
                fun _ => .bind (.update fun _ => le_rfl) fun _ =>
                  continues_counts (note_idles rfl)

theorem disconnectCommand_answered {cfg : Config} :
    Within (Advances answerCount) (disconnectCommand cfg) :=
  .advances_bind (onChannel_answered OnChannel.sendSimple_attempts) fun _ =>
    .ite (continues_counts setState_continues)
      (.bind (continues_counts setState_continues) fun _ =>
        .bind
          (continues_counts disconnect_step)
          fun _ => .only serverDisconnect_counts)

/-! ## ABORT -/

theorem answerAbort_answered (hpending : s.connection.abortPending = false)
    (h : Ends answerAbort s () s') : answerCount s < answerCount s' := by
  replace h := ends_bind_view.1 h
  rw [if_neg (by simp [hpending])] at h
  split at h
  · next mbuf hmbuf =>
      obtain ⟨⟨written, queueFull⟩, t, hwrite, hclear⟩ := ends_bind.1 h
      have hlt := onChannel_answered OnChannel.write_attempts _ _ _ hwrite
      have hpends : Within Pends (Prog.only (¬ written.success)
          (setConnection fun c => { c with abortMbuf := none })) :=
        .only (.update fun _ => ⟨le_rfl, rfl, rfl⟩)
      exact Nat.lt_of_lt_of_le hlt (hpends _ _ _ hclear).count
  · exact Within.advances_bind (onChannel_answered OnChannel.sendSimple_attempts)
      (fun _ => .pure) _ _ _ h

/-- A pending abort is not answered yet. -/
theorem answerAbort_pending (hpending : s.connection.abortPending = true)
    (h : Ends answerAbort s () s') : s' = s := by
  replace h := ends_bind_view.1 h
  rw [if_pos hpending] at h
  exact (ends_pure.1 h).2

/-- The cleanup leaves no pending abort, unless blocks are in flight. -/
theorem abortCleanup_pending
    (hpending : s.connection.abortPending = false ∨ s.connection.hasBlocks = true)
    (h : Ends (abortCleanup cfg) s () t) :
    answerCount s ≤ answerCount t ∧
      (t.connection.abortPending = false ∨ s.connection.hasBlocks = true) := by
  have hkeeps : ∀ {m : Srv Unit}, Within Continues m → Ends m s () t →
      answerCount s ≤ answerCount t ∧
        (t.connection.abortPending = false ∨ s.connection.hasBlocks = true) := by
    intro m hm hends
    have hcontinues := hm _ _ _ hends
    rw [hcontinues.abortPending]
    exact ⟨hcontinues.count, hpending⟩
  have hput : Within Continues (do
      setState .obexConnected
      srmOff
      let _ ← indicate cfg (.putInd none .obexClientAbortedCommand)) :=
    setState_continues.seq <| srmOff_sends.seq <|
      indicate_ignored_permitted _
  have hget : Within Continues (do
      setState .obexConnected
      let _ ← indicate cfg (.getInd none .obexClientAbortedCommand)) :=
    setState_continues.seq <| indicate_ignored_permitted _
  have hempty : Within Continues (do
      srmOff
      setState .obexConnected
      let _ ← indicate cfg (.bulkGetInd [] .obexClientAbortedCommand)) :=
    srmOff_sends.seq <| setState_continues.seq <|
      indicate_ignored_permitted _
  have hconfirm : Within (Monotone answerCount) (do
      let confirmed ← confirmBulkGets cfg .obexClientAbortedCommand .all
      if confirmed.1 then
        setConnection fun c => { c with abortPending := false }
        srmOff
        setState .obexConnected
      else
        setConnection fun c => { c with abortPending := true }) :=
    .bind (continues_counts (confirmBulkGets_permitted _))
      fun _ => .ite
        (.bind (.update fun _ => le_rfl) fun _ =>
          continues_counts (srmOff_sends.seq setState_continues))
        (.update fun _ => le_rfl)
  replace h := ends_bind_view.1 h
  split at h
  · exact hkeeps hput h
  · exact hkeeps hput h
  · exact hkeeps hget h
  · exact hkeeps hget h
  all_goals first
    | exact hkeeps .pure h
    | next hstate =>
        split at h
        · exact hkeeps hempty h
        · next hhead =>
            refine ⟨hconfirm _ _ _ h, .inr ?_⟩
            rw [Connection.hasBlocks, hstate]
            simpa [Option.isNone_iff_eq_none, Option.isSome_iff_ne_none] using hhead

theorem abortOperation_answered
    (hpending : s.connection.abortPending = false ∨ s.connection.hasBlocks = true)
    (h : Ends (abortOperation cfg) s () s') :
    answerCount s < answerCount s' ∨
      (s.connection.hasBlocks = true ∧ s'.connection.abortPending = true) := by
  obtain ⟨_, t, hcleanup, hanswer⟩ := ends_bind.1 h
  obtain ⟨hle, hcases⟩ := abortCleanup_pending hpending hcleanup
  cases hpend : t.connection.abortPending with
  | false => exact .inl (Nat.lt_of_le_of_lt hle (answerAbort_answered hpend hanswer))
  | true =>
      obtain rfl := answerAbort_pending hpend hanswer
      refine .inr ⟨?_, hpend⟩
      rcases hcases with hfalse | hblocks
      · rw [hpend] at hfalse
        cases hfalse
      · exact hblocks

theorem handleAbortCommand_answered (hlost : ¬ lostAbort s.connection)
    (h : Ends (handleAbortCommand cfg rcvPacket) s () s') :
    answerCount s < answerCount s' ∨
      (s.connection.hasBlocks = true ∧ s'.connection.abortPending = true) := by
  obtain ⟨_, t, hclear, hhandle⟩ := ends_bind.1 h
  obtain ⟨_, t₁, hdisown, hset⟩ := ends_bind.1 hclear
  obtain ⟨ch, hends, rfl⟩ := ends_onChannel.1 hdisown
  obtain rfl := ends_update.1 hset
  have hle : Monotone Channel.attemptCount s.channel ch :=
    OnChannel.Composes.disown _ _ _ _ hends
  replace hhandle := ends_bind_view.1 hhandle
  dsimp only at hhandle
  split at hhandle
  · next hnone => exact absurd (.inl hnone) hlost
  · next target htarget =>
      split at hhandle
      · -- the application is asked, or the header list is refused
        have hanswered : Within (Advances answerCount) (do
            let parsed ← parseRequest cfg rcvPacket
            if parsed.1.success then
              setConnection fun c => { c with abortPending := true, abortResponsePending := true }
              let _ ← indicate cfg (.abortInd parsed.2)
            else errorResponse parsed.1) :=
          .bind_advances (continues_counts parseRequest_sends) fun _ =>
            .ite
              (.bind_advances (.update fun _ => le_rfl) fun _ =>
                .advances_bind (indicate_answered cfg rfl) fun _ => .pure)
              errorResponse_answered
        exact .inl (Nat.lt_of_le_of_lt (Nat.add_le_add_right hle _)
          (hanswered _ _ _ hhandle))
      · next hnoInd =>
          have hpending : s.connection.abortPending = false ∨ s.connection.hasBlocks = true := by
            by_contra hnot
            obtain ⟨hpend, hblocks⟩ := not_or.1 hnot
            refine hlost (.inr ⟨?_, by simpa using hpend, by simpa using hblocks⟩)
            rw [htarget, Option.map_some, Bool.eq_false_iff.2 hnoInd]
          rcases abortOperation_answered (s := { s with
              connection := { s.connection with abortMbuf := none }, channel := ch })
            hpending hhandle with hlt | hdeferred
          · exact .inl (Nat.lt_of_le_of_lt (Nat.add_le_add_right hle _) hlt)
          · exact .inr hdeferred

/-! ## Every command -/

/-- A command that is not one of the exceptions is attended to, or it is an abort that
waits for the blocks in flight. -/
theorem command_attended (cfg : Config) (s s' : Session) (cmdCode hi lo : UInt8)
    (body : List UInt8) (addr : Nat) (hlen : (cmdCode :: hi :: lo :: body).length < 65536)
    (hlive : s.live = true) (hcompleting : s.connection.state ≠ .obexDisconnectCompleting)
    (hdisconnecting : s.connection.state ≠ .obexDisconnecting)
    (hexception : ¬ Unattended cfg s cmdCode (received cmdCode hi lo body addr))
    (h : Ends (lowerRecvDataInd cfg (cmdCode :: hi :: lo :: body) addr) s () s') :
    attended s s' cmdCode = true ∨ abortDeferred s s' cmdCode = true := by
  have hdispatch := (lowerRecvDataInd_dispatches hlen hcompleting hdisconnecting).1 h
  unfold dispatchCommand at hdispatch
  split at hdispatch
  · exact .inl (attended_of_answerCount (connectCommand_answered hlive hdispatch))
  split at hdispatch
  · exact .inl (attended_of_answerCount (disconnectCommand_answered _ _ _ hdispatch))
  split at hdispatch
  · exact .inl (attended_of_answerCount (putCommand_answered _ _ _ hdispatch))
  split at hdispatch
  · next hget =>
      have hwait : ¬ awaitsConfirm s.connection s.channel.blocks :=
        fun hawaits => hexception (.inl ⟨hget, hawaits⟩)
      exact .inl (attended_of_answerCount (getCommand_answered hwait hdispatch))
  split at hdispatch
  · exact .inl (attended_of_answerCount (setPathCommand_answered _ _ _ hdispatch))
  split at hdispatch
  · exact .inl (attended_of_answerCount (actionCommand_answered _ _ _ hdispatch))
  split at hdispatch
  · next hsession =>
      have hknown : ¬ unknownSession cfg s (received cmdCode hi lo body addr) :=
        fun hunknown => hexception (.inr (.inl ⟨hsession, hunknown⟩))
      exact .inl (attended_of_answerCount (sessionCommand_answered hknown hdispatch))
  split at hdispatch
  · next habort =>
      have hlost : ¬ lostAbort s.connection :=
        fun hlost => hexception (.inr (.inr ⟨habort, hlost⟩))
      rcases handleAbortCommand_answered hlost hdispatch with hlt | ⟨hblocks, hpending⟩
      · exact .inl (attended_of_answerCount hlt)
      · refine .inr ?_
        rw [abortDeferred, habort, hblocks, hpending]
        rfl
  · exact .inl (attended_of_answerCount (errorResponse_answered _ _ _ hdispatch))

/-- A put request is attended to. -/
theorem command_attended_put :
    ∃ s s', Ends (run sampleConfig (connectThenPut.take 4))
        (accepted sampleConfig (sampleServer .none false false) (friendly [])) () s ∧
      Ends (lowerRecvDataInd sampleConfig [0x82, 0, 3] 0) s () s' ∧
      (attended s s' 0x82 = true ∨ abortDeferred s s' 0x82 = true) := by
  have hreach : reaches (run sampleConfig (connectThenPut.take 4))
      (accepted sampleConfig (sampleServer .none false false) (friendly []))
      (fun s => s.live && decide (s.connection.state = .obexConnected) &&
        reaches (lowerRecvDataInd sampleConfig [0x82, 0, 3] 0) s fun _ => true) = true := by
    decide +kernel
  obtain ⟨s, hends, hcheck⟩ := reaches_iff.1 hreach
  obtain ⟨hcheck, hrecv⟩ := Bool.and_eq_true_iff.1 hcheck
  obtain ⟨hlive, hstate⟩ := Bool.and_eq_true_iff.1 hcheck
  replace hstate := of_decide_eq_true hstate
  obtain ⟨s', hrecv, -⟩ := reaches_iff.1 hrecv
  refine ⟨s, s', hends, hrecv, command_attended sampleConfig s s' 0x82 0 3 [] 0 (by decide) hlive
    ?_ ?_ ?_ hrecv⟩
  · rw [hstate]
    decide
  · rw [hstate]
    decide
  · rintro (⟨hcmd, -⟩ | ⟨hcmd, -⟩ | ⟨hcmd, -⟩)
    · exact absurd hcmd (by decide)
    · exact absurd hcmd (by decide)
    · exact absurd hcmd (by decide)

/-- A server that answers get requests with the blocks of a bulk get. -/
def bulkServer : ObexServer where
  targetInfo :=
    { target := []
      cbList := ⟨true, true, true, true, true, true, true, true, true, false⟩
      authRequired := .none }
  secondary := []
  srm := ⟨true, false, false⟩

/-- A bulk get is started and its first block is sent. -/
def connectThenBulkGet : List Event :=
  [.lowerConnectCfm 1000 1000 true .ok, .lowerRecvDataInd [0x80, 0, 7, 0x10, 0, 4, 0] 0,
    .call (.acceptConnect true .ok none), .lowerWriteCfm false .ok,
    .lowerRecvDataInd [0x83, 0, 7, 0x42, 0, 4, 0x61] 0, .call (.getResponse none .obexContinue),
    .lowerWriteCfm false .ok, .lowerRecvDataInd [0x83, 0, 3] 0,
    .call (.bulkGetResponse [(1, [1, 2, 3])] .obexContinue)]

/-- An abort that meets a block in flight is neither answered nor indicated. -/
theorem abort_waits_for_block :
    ¬ ∀ (cfg : Config) (server : ObexServer) (env : Surroundings) (events : List Event)
      (s s' : Session) (cmdCode hi lo : UInt8) (body : List UInt8) (addr : Nat),
      Ends (run cfg events) (accepted cfg server env) () s → s.live →
      s.connection.state ≠ .obexDisconnectCompleting → s.connection.state ≠ .obexDisconnecting →
      (cmdCode :: hi :: lo :: body).length < 65536 →
      Ends (lowerRecvDataInd cfg (cmdCode :: hi :: lo :: body) addr) s () s' →
      attended s s' cmdCode = true := by
  intro hall
  have hreach : reaches (run sampleConfig connectThenBulkGet)
      (accepted sampleConfig bulkServer (friendly []))
      (fun s => s.live && decide (s.connection.state = .bulkGetInProgress) &&
        reaches (lowerRecvDataInd sampleConfig [0xFF, 0, 3] 0) s
          fun s' => !attended s s' 0xFF) = true := by
    decide +kernel
  obtain ⟨s, hends, hcheck⟩ := reaches_iff.1 hreach
  obtain ⟨hcheck, hrecv⟩ := Bool.and_eq_true_iff.1 hcheck
  obtain ⟨hlive, hstate⟩ := Bool.and_eq_true_iff.1 hcheck
  replace hstate := of_decide_eq_true hstate
  obtain ⟨s', hrecv, hnot⟩ := reaches_iff.1 hrecv
  have hattended := hall _ _ _ _ s s' 0xFF 0 3 [] 0 hends hlive (by rw [hstate]; decide)
    (by rw [hstate]; decide) (by decide) hrecv
  rw [hattended] at hnot
  cases hnot

end Obex.Server
