import BtPlatform.Obex.Server.Gate

/-!
# How often an authentication may fail

The server counts the attempts to authenticate a connection and refuses to go on after
`MAX_AUTHENTICATION_ATTEMPTS`. The count is right as long as every attempt is in it: an
attempt is counted when its connect request is indicated, so an authentication in
reply to the indication that asks for a password first is not, and a count that has
reached its largest value starts again from zero.
-/

namespace Obex.Server

open Support Program Linked Prog Srv List

/-! ## The property -/

/-- An authentication that failed. -/
def Act.failed : Act → Bool
  | .authenticated _ status => !status.success
  | _ => false

/-- How many authentications failed. -/
def Session.failures (s : Session) : Nat := s.history.countP Act.failed

/-- The packet is a connect request. -/
def isConnect (dataBuf : List UInt8) : Bool :=
  (dataBuf.head?.map fun cmdCode => obexFinal cmdCode == obexFinal cmdConnect) = some true

/-- The attempt is in the count: the count can be advanced, and was advanced before a
password is checked. -/
def Counted : Act → Prop
  | .event (.lowerRecvDataInd dataBuf _) before =>
      isConnect dataBuf → before.connection.state = .lowerLayerConnected →
        before.connection.authTries ≠ 255
  | .called (.authAccept ..) before =>
      before.connection.state = .obexConnecting → before.connection.authTries ≠ 255
  | .called (.authenticationResponse ..) before =>
      before.connection.state = .obexConnecting → before.connection.unauthorized →
        before.connection.authTries ≠ 0
  | _ => True

instance : DecidablePred Counted := fun act => by
  unfold Counted
  split <;> infer_instance

/-! ## The invariant -/

/-- The failures so far are bounded, and each of them was counted. -/
structure Limited (s : Session) : Prop where
  few : s.failures ≤ maxAuthenticationAttempts.toNat
  counted : s.failures ≤ s.connection.authTries.toNat

/-- Moreover, an attempt that is under way was counted in advance. -/
structure Bounded (s : Session) : Prop extends Limited s where
  connecting : s.connection.state = .obexConnecting → s.connection.unauthorized →
    s.connection.authTries ≠ 0 → s.failures < s.connection.authTries.toNat ∧
      s.connection.authTries.toNat ≤ maxAuthenticationAttempts.toNat

variable {s s' : Session} {cfg : Config} {realm : Option Realm} {accept : Bool} {status : Status}
variable {u : Unit}

theorem Limited.bounded (h : Limited s) (hstate : s.connection.state ≠ .obexConnecting) :
    Bounded s where
  toLimited := h
  connecting hconn := absurd hconn hstate

theorem Limited.of_eq (h : Limited s) (hfailures : s'.failures = s.failures)
    (htries : s'.connection.authTries = s.connection.authTries) : Limited s' where
  few := hfailures ▸ h.few
  counted := by
    rw [hfailures, htries]
    exact h.counted

/-- A count below its largest value is advanced by one. -/
theorem toNat_add_one {tries : UInt8} (h : tries ≠ 255) : (tries + 1).toNat = tries.toNat + 1 := by
  have hne : tries.toNat ≠ 255 := fun heq => h (UInt8.toNat_inj.1 heq)
  have hlt := tries.toNat_lt
  rw [UInt8.toNat_add]
  simp only [UInt8.toNat_one, Nat.reducePow]
  omega

/-! ### What leaves it alone -/

/-- No authentication is evaluated, the count stays, and the connection does not start to
connect. -/
structure Steady (s s' : Session) : Prop where
  failures : s'.failures = s.failures
  authTries : s'.connection.authTries = s.connection.authTries
  connecting : s'.connection.state = .obexConnecting →
    s.connection.state = .obexConnecting ∧
      s'.connection.unauthorized = s.connection.unauthorized

instance : Permits Steady where
  refl _ := ⟨rfl, rfl, fun hconn => ⟨hconn, rfl⟩⟩
  trans _ _ _ h₁ h₂ := by
    refine ⟨h₂.failures.trans h₁.failures, h₂.authTries.trans h₁.authTries, fun hconn => ?_⟩
    obtain ⟨hconn₂, hun₂⟩ := h₂.connecting hconn
    obtain ⟨hconn₁, hun₁⟩ := h₁.connecting hconn₂
    exact ⟨hconn₁, hun₂.trans hun₁⟩
  rest hconn hhist := by
    refine ⟨by rw [Session.failures, hhist, Session.failures], by rw [hconn], fun h => ?_⟩
    rw [hconn] at h ⊢
    exact ⟨h, rfl⟩
  connection hadm := by
    obtain ⟨hstate, hrest⟩ := Prod.mk.inj hadm
    obtain ⟨-, hrest⟩ := Prod.mk.inj hrest
    obtain ⟨hun, htries⟩ := Prod.mk.inj hrest
    exact ⟨rfl, htries, fun h => ⟨hstate.symm.trans h, hun⟩⟩
  state hne := ⟨rfl, rfl, fun h => absurd h hne⟩
  act {s act} hact := by
    refine ⟨?_, rfl, fun h => ⟨h, rfl⟩⟩
    have hfailed : act.failed = false := by
      cases act with
      | authenticated => cases hact
      | _ => rfl
    simp [Session.failures, countP_append, hfailed]

theorem Answers.steady (h : Answers s s') : Steady s s' := by
  rw [h.rest]
  exact Permits.rest rfl rfl

theorem Limited.steady (h : Limited s) (hs : Steady s s') : Limited s' :=
  h.of_eq hs.failures hs.authTries

theorem Bounded.steady (h : Bounded s) (hs : Steady s s') : Bounded s' where
  toLimited := h.toLimited.steady hs
  connecting hconn hun := by
    obtain ⟨hconn', hun'⟩ := hs.connecting hconn
    rw [hs.failures, hs.authTries]
    exact h.connecting hconn' (hun' ▸ hun)

/-- The invariant of the runs in which every attempt is counted. -/
def Sound (s : Session) : Prop := (∀ act ∈ s.history, Counted act) → Bounded s

theorem Sound.steady (h : Sound s) (hs : Steady s s') (hgrows : Grows s s') : Sound s' :=
  fun hcounted => (h fun act hmem => hcounted act (hgrows.subset hmem)).steady hs

instance : Permits (Stays Sound) where
  rest hconn hhist h :=
    h.steady (Permits.rest hconn hhist) (Permits.rest (R := Grows) hconn hhist)
  connection hadm h :=
    h.steady (Permits.connection hadm) (Permits.connection (R := Grows) hadm)
  state hne h := h.steady (Permits.state hne) (Permits.state (R := Grows) hne)
  act hact h := h.steady (Permits.act hact) (Permits.act (R := Grows) hact)

/-! ## Calls -/

/-- After its answer to a connect request the server is not connecting. -/
theorem connectAnswer_not_connecting {answer : UInt8 × List Header}
    (h : Ends (connectAnswer cfg realm accept status) s answer s') :
    s'.connection.state ≠ .obexConnecting := by
  -- each branch sets a state first, and after that the server does not start to connect
  have hrest : ∀ {m : Srv (UInt8 × List Header)} (state : ConnectionState),
      state ≠ .obexConnecting → Within Steady m →
        Ends (do setState state; m) s answer s' → s'.connection.state ≠ .obexConnecting :=
    fun _ hne hm hends hconn => hne ((hm _ _ _ (ends_bind_update.1 hends)).connecting hconn).1
  replace h := ends_bind_view.1 h
  split at h
  · split at h
    · exact hrest .lowerLayerConnected (by decide)
        (sendChallenge_permitted.seq .pure) h
    · exact hrest .connectCompleting (by decide)
        ((recordTarget_permitted fun _ => rfl).seq <|
        (answers_permitted connectHeaders_answers).seq .pure) h
  · refine hrest .lowerLayerConnected (by decide) ?_ h
    exact Within.seq (setConnection_permitted fun _ => rfl) .pure

theorem acceptConnect_not_connecting {rspStatus : Status} {optHeaders : Option (List Header)}
    (hlive : s.live = true)
    (h : Ends (acceptConnect cfg realm accept rspStatus optHeaders) s status s') :
    s'.connection.state ≠ .obexConnecting := by
  replace h := ends_bind_view.1 h
  rw [if_neg (by simp [hlive])] at h
  obtain ⟨⟨rsp, headers⟩, t, hanswer, hend⟩ := ends_bind.1 h
  have hsteady : Within Steady (do
      let status ← sendConnectAnswer rsp headers optHeaders
      Prog.only (¬ status.success) (do
        setState .lowerLayerConnected
        setAuthentication none
        setConnection fun c => { c with connectIndicated := false })
      return status) :=
    (answers_permitted sendConnectAnswer_answers).seq <|
      Within.bind (Within.only ((setState_permitted (by decide)).seq <|
        setAuthentication_sends.seq <|
          setConnection_permitted fun _ => rfl)) fun _ => .pure
  intro hconn
  exact connectAnswer_not_connecting hanswer ((hsteady _ _ _ hend).connecting hconn).1

/-- A connect request that is answered leaves state `OBEX_CONNECTING`. -/
theorem acceptConnect_bounded {rspStatus : Status} {optHeaders : Option (List Header)}
    (hlive : s.live = true) (hlimited : Limited s)
    (h : Ends (acceptConnect cfg realm accept rspStatus optHeaders) s status s') : Bounded s' :=
  (hlimited.steady (acceptConnect_permitted _ _ _ h)).bounded
    (acceptConnect_not_connecting hlive h)

theorem acceptConnectCall_bounded (hlive : s.live = true)
    (hstate : s.connection.state = .obexConnecting) (hlimited : Limited s)
    (h : Ends (acceptConnectCall cfg true .ok none) s status s') : Bounded s' := by
  replace h := ends_bind_view.1 h
  rw [if_neg (by simp [hlive, hstate]), if_neg (by decide)] at h
  exact acceptConnect_bounded hlive hlimited h

theorem authAccept_bounded (hbounded : Bounded s)
    (htries : s.connection.state = .obexConnecting → s.connection.authTries ≠ 255)
    (h : Ends (authAccept cfg realm accept) s status s') : Bounded s' := by
  replace h := ends_bind_view.1 h
  split at h
  · exact (ends_pure.1 h).2 ▸ hbounded
  next hready =>
  split at h
  · exact (ends_pure.1 h).2 ▸ hbounded
  simp only [Bool.or_eq_true, Bool.not_eq_true', decide_eq_true_eq, not_or, Bool.not_eq_false,
    ne_eq, Classical.not_not] at hready
  obtain ⟨result, t, haccept, hend⟩ := ends_bind.1 h
  have hbounded₁ := acceptConnect_bounded hready.1 hbounded.toLimited haccept
  have hstate : t.connection.state ≠ .obexConnecting :=
    acceptConnect_not_connecting hready.1 haccept
  have hsteady : Steady s t := acceptConnect_permitted _ _ _ haccept
  obtain ⟨_, honly, -⟩ := ends_bind_return.1 hend
  obtain ⟨-, hcount⟩ | ⟨-, rfl⟩ := ends_only.1 honly
  · obtain rfl := ends_update.1 hcount
    have hne : t.connection.authTries ≠ 255 := hsteady.authTries ▸ htries hready.2
    refine Limited.bounded ⟨hbounded₁.few, ?_⟩ hstate
    show t.failures ≤ (t.connection.authTries + 1).toNat
    rw [toNat_add_one hne]
    exact Nat.le_succ_of_le hbounded₁.counted
  · exact hbounded₁

/-- An evaluation adds at most one failure. -/
theorem recordTarget_authenticated {result : Status}
    (h : Ends (recordTarget fun target => .authenticated target result) s u s') :
    s'.connection = s.connection ∧ s'.live = s.live ∧ s'.failures ≤ s.failures + 1 := by
  replace h := ends_bind_view.1 h
  split at h
  · obtain rfl := ends_update.1 h
    refine ⟨rfl, rfl, ?_⟩
    simp only [Session.failures, countP_append, countP_singleton]
    split <;> omega
  · obtain ⟨-, rfl⟩ := ends_pure.1 h
    exact ⟨rfl, rfl, Nat.le_succ _⟩

/-- The password is checked for an attempt that was counted. -/
theorem checkAuthentication_limited (hlive : s.live = true)
    (hstate : s.connection.state = .obexConnecting) (hbounded : Bounded s)
    (htries : s.connection.unauthorized → s.connection.authTries ≠ 0)
    (h : Ends (checkAuthentication cfg) s status s') :
    Limited s' ∧ (status.success → Bounded s') := by
  have hregister : Within Steady (do
      let _ ← register .reIndicateConnect
      return Status.ok) := register_permitted.seq <| .pure
  replace h := ends_bind_view.1 h
  split at h
  · next hun =>
      obtain ⟨auth, t, hauth, hrest⟩ := ends_bind.1 h
      have hanswers := authentication_answers _ _ _ hauth
      obtain ⟨_, t₁, hrecord, hend⟩ := ends_bind.1 hrest
      obtain ⟨hconn₁, hlive₁, hfailures⟩ := recordTarget_authenticated hrecord
      have hconn : t₁.connection = s.connection := hconn₁.trans hanswers.connection_eq
      have hlive' : t₁.live = true := by
        rw [hlive₁, hanswers.rest]
        exact hlive
      have hsame : t.failures = s.failures := by rw [hanswers.rest]; rfl
      -- the count has room for one more failure
      obtain ⟨hroom, hmax⟩ := hbounded.connecting hstate hun (htries hun)
      have hlimited : Limited t₁ := by
        refine ⟨by omega, ?_⟩
        rw [hconn]
        omega
      split at hend
      · replace hend := ends_bind_update.1 hend
        have hbounded' : Bounded { t₁ with
            connection := { t₁.connection with unauthorized := false } } :=
          ⟨hlimited.of_eq rfl rfl, nofun⟩
        have hafter := hbounded'.steady (hregister _ _ _ hend)
        exact ⟨hafter.toLimited, fun _ => hafter⟩
      split at hend
      · have hafter := acceptConnectCall_bounded hlive' (by rw [hconn]; exact hstate) hlimited hend
        exact ⟨hafter.toLimited, fun _ => hafter⟩
      · obtain ⟨rfl, rfl⟩ := ends_pure.1 hend
        exact ⟨hlimited, nofun⟩
  · have hafter := hbounded.steady (hregister _ _ _ h)
    exact ⟨hafter.toLimited, fun _ => hafter⟩

theorem authenticationResponse_bounded {userId : Option (List UInt8)} {userIdLen : Nat}
    {password : List UInt8} {readOnly : Bool} (hbounded : Bounded s)
    (htries : s.connection.state = .obexConnecting → s.connection.unauthorized →
      s.connection.authTries ≠ 0)
    (h : Ends (authenticationResponse cfg userId userIdLen password readOnly) s status s') :
    Bounded s' := by
  replace h := ends_bind_view.1 h
  split at h
  · exact (ends_pure.1 h).2 ▸ hbounded
  next hready =>
  split at h
  · exact (ends_pure.1 h).2 ▸ hbounded
  simp only [Bool.or_eq_true, Bool.not_eq_true', decide_eq_true_eq, not_or, Bool.not_eq_false,
    ne_eq, Classical.not_not] at hready
  obtain ⟨_, s₁, hcommon, h⟩ := ends_bind.1 h
  obtain ⟨auth, s₂, hauth, h⟩ := ends_bind.1 h
  obtain ⟨_, s₃, hsave, h⟩ := ends_bind.1 h
  have hanswers : Answers s s₃ :=
    trans_of _ (trans_of _ (setCommon_answers _ _ _ hcommon)
      (authentication_answers _ _ _ hauth)) (setAuthentication_answers _ _ _ hsave)
  have hlive₃ : s₃.live = true := by
    rw [hanswers.rest]
    exact hready.1
  have hbounded₃ := hbounded.steady hanswers.steady
  obtain ⟨checked, s₄, hcheck, hend⟩ := ends_bind.1 h
  have hlimited : Limited s₄ ∧ (checked.success → Bounded s₄) := by
    obtain ⟨-, hcheck⟩ | ⟨-, hcheck⟩ := ends_branch.1 hcheck
    · refine checkAuthentication_limited hlive₃ ?_ hbounded₃ ?_ hcheck
      · rw [hanswers.connection_eq]
        exact hready.2
      · rw [hanswers.connection_eq]
        exact htries hready.2
    · obtain ⟨-, rfl⟩ := ends_pure.1 hcheck
      exact ⟨hbounded₃.toLimited, fun _ => hbounded₃⟩
  split at hend
  · next hok =>
      obtain ⟨-, rfl⟩ := ends_pure.1 hend
      exact hlimited.2 hok
  · -- the request is rejected
    have hreject : Within Steady (acceptConnect cfg none false checked none) :=
      acceptConnect_permitted
    have hreset : Within Steady (do
        resetAuthentication
        return checked) := (answers_permitted resetAuthentication_answers).seq .pure
    obtain ⟨_, s₅, haccept, hend⟩ := ends_bind.1 hend
    replace hend := ends_bind_update.1 hend
    have hlimited₅ := hlimited.1.steady (hreject _ _ _ haccept)
    have hdropped : Bounded { s₅ with
        connection := { s₅.connection with state := .lowerLayerConnected } } :=
      ⟨hlimited₅.of_eq rfl rfl, nofun⟩
    exact hdropped.steady (hreset _ _ _ hend)

/-- A call that authenticates, with the snapshot of the state that it meets. -/
theorem call_sound {c : Call} (h : ∀ {s s' : Session} {status : Status}, Bounded s →
      Counted (.called c ⟨s.connection, s.channel⟩) → Ends (callFunction cfg c) s status s' →
        Bounded s') : Within (Stays Sound) (call cfg c) := by
  intro s u s' hcall hsound hcounted
  have hgrows : Grows s s' := call_permitted cfg c _ _ _ hcall
  have hbounded := hsound fun act hmem => hcounted act (hgrows.subset hmem)
  unfold call at hcall
  replace hcall := ends_bind_view.1 hcall
  replace hcall := ends_bind_update.1 hcall
  obtain ⟨status, t, hfunction, hanswered⟩ := ends_bind.1 hcall
  obtain rfl := ends_update.1 hanswered
  have hcalled : Counted (.called c ⟨s.connection, s.channel⟩) := by
    refine hcounted _ (mem_append_left _ ?_)
    exact (callFunction_extends _ _ _ hfunction).history.subset
      (mem_append_right _ mem_cons_self)
  have hrecorded : Steady s { s with
      history := s.history ++ [.called c ⟨s.connection, s.channel⟩] } := Permits.act rfl
  exact (h (hbounded.steady hrecorded) hcalled hfunction).steady (Permits.act rfl)

instance (cfg : Config) : PermitsCalls cfg (Stays Sound) where
  authenticates {c} hc := by
    cases c with
    | authenticationResponse =>
        exact call_sound fun hbounded hcounted h =>
          authenticationResponse_bounded hbounded hcounted h
    | authAccept =>
        exact call_sound fun hbounded hcounted h => authAccept_bounded hbounded hcounted h
    | _ => cases hc

/-! ## The connect request -/

/-- What the preparation of an attempt leaves alone. -/
def Session.attempt (s : Session) : Bool × ConnectionState × UInt8 × List Act :=
  (s.live, s.connection.state, s.connection.authTries, s.history)

theorem Answers.attempt (h : Answers s s') : Same Session.attempt s s' := by
  rw [h.rest]
  rfl

variable {request : Request}

theorem connectChallenge_attempt : Within (Same Session.attempt) (connectChallenge request) :=
  connectChallenge_same (fun _ _ => Answers.attempt) (fun _ _ => rfl) request

theorem Limited.attempt (h : Limited s) (hs : Same Session.attempt s s') : Limited s' := by
  obtain ⟨-, hrest⟩ := Prod.mk.inj hs
  obtain ⟨-, hrest⟩ := Prod.mk.inj hrest
  obtain ⟨htries, hhist⟩ := Prod.mk.inj hrest
  exact h.of_eq (congrArg (List.countP Act.failed) hhist) htries

/-- A target that requires authentication is refused once the attempts are used up. -/
theorem connectAuthentication_attempts {target : TargetInfo} {result : Status × Bool}
    (h : Ends (connectAuthentication target request) s result s') :
    Same Session.attempt s s' ∧ (result.1.success → s'.connection.unauthorized →
      s'.connection.authTries < maxAuthenticationAttempts) := by
  by_cases hauth : target.authRequired ≠ .none
  · unfold connectAuthentication at h
    rw [if_pos hauth] at h
    obtain ⟨_, t, hcommon, hrest⟩ := ends_bind.1 h
    replace hrest := ends_bind_update.1 hrest
    have hanswers := authentication_required_answers _ _ _ hrest
    refine ⟨hanswers.attempt.trans (setCommon_answers _ _ _ hcommon).attempt, ?_⟩
    intro hok _
    obtain ⟨room, t₁, hroom, hrest⟩ := ends_bind.1 hrest
    have hanswers₁ := needAuthentication_answers _ _ _ hroom
    split at hrest
    · obtain ⟨rfl, -⟩ := ends_pure.1 hrest
      cases hok
    obtain ⟨auth, t₂, hcurrent, hrest⟩ := ends_bind.1 hrest
    obtain ⟨_, t₃, hset, hrest⟩ := ends_bind.1 hrest
    replace hrest := ends_bind_view.1 hrest
    split at hrest
    · obtain ⟨_, t₄, -, hpure⟩ := ends_bind.1 hrest
      obtain ⟨rfl, -⟩ := ends_pure.1 hpure
      cases hok
    · next htries =>
        have hlast := connectResponse_answers _ _ _ hrest
        rw [hlast.connection_eq]
        exact UInt8.not_le.1 htries
  · unfold connectAuthentication at h
    rw [if_neg hauth] at h
    obtain ⟨_, t, hcommon, hrest⟩ := ends_bind.1 h
    replace hrest := ends_bind_update.1 hrest
    obtain ⟨-, rfl⟩ := ends_pure.1 hrest
    refine ⟨(setCommon_answers _ _ _ hcommon).attempt, ?_⟩
    intro _ hunauthorized
    cases hunauthorized

/-- The attempt is counted when the connect request is indicated. -/
theorem indicateConnect_sound (hlimited : Limited s) (htries : s.connection.authTries ≠ 255)
    (hun : s.connection.unauthorized → s.connection.authTries < maxAuthenticationAttempts)
    (h : Ends (indicateConnect cfg) s u s') : Sound s' := by
  have hcounted : Bounded { s with
      connection := { s.connection with authTries := s.connection.authTries + 1 } } := by
    have hcount := toNat_add_one htries
    refine ⟨⟨hlimited.few, ?_⟩, fun _ hunauthorized _ => ?_⟩
    · show s.failures ≤ (s.connection.authTries + 1).toNat
      rw [hcount]
      exact Nat.le_succ_of_le hlimited.counted
    · show s.failures < (s.connection.authTries + 1).toNat ∧
        (s.connection.authTries + 1).toNat ≤ maxAuthenticationAttempts.toNat
      rw [hcount]
      exact ⟨Nat.lt_succ_of_le hlimited.counted, UInt8.lt_iff_toNat_lt.1 (hun hunauthorized)⟩
  replace h := ends_bind_update.1 h
  refine (?_ : Within (Stays Sound) _) _ _ _ h fun _ => hcounted
  exact Within.seq (setConnection_permitted fun _ => rfl) <| Within.view.seq <|
    Within.view.seq <| indicate_ignored_permitted _

theorem connecting_sound {havePassword : Bool} (hlive : s.live = true) (hlimited : Limited s)
    (htries : s.connection.authTries ≠ 255)
    (hun : s.connection.unauthorized → s.connection.authTries < maxAuthenticationAttempts)
    (h : Ends (connecting cfg havePassword) s status s') : Sound s' := by
  have hlimited₁ : Limited { s with connection := { s.connection with
      state := .obexConnecting } } := hlimited.of_eq rfl rfl
  replace h := ends_bind_view.1 (ends_bind_update.1 h)
  split at h
  · obtain ⟨target, t, hcurrent, h⟩ := ends_bind.1 h
    obtain ⟨-, rfl⟩ := ends_currentTarget.1 hcurrent
    split at h
    · next hzero =>
        -- the application is asked for a password before the attempt is counted
        have hfirst : Bounded { s with connection := { s.connection with
            state := .obexConnecting } } :=
          ⟨hlimited₁, fun _ _ hne => absurd (by simpa using And.left (by simpa using hzero)) hne⟩
        have hask : Within (Stays Sound) (do
            let _ ← indicate cfg .authInd
            return Status.ok) := (indicate_permitted _).seq .pure
        exact hask _ _ _ h fun _ => hfirst
    · refine fun _ => acceptConnectCall_bounded ?_ rfl hlimited₁ h
      exact hlive
  · obtain ⟨_, hindicate, -⟩ := ends_bind_return.1 h
    exact indicateConnect_sound hlimited₁ htries hun hindicate

theorem connectHeadersParsed_sound (hlive : s.live = true)
    (hstate : s.connection.state = .lowerLayerConnected) (hlimited : Limited s)
    (htries : s.connection.authTries ≠ 255)
    (h : Ends (connectHeadersParsed cfg request) s status s') : Sound s' := by
  replace h := ends_bind_view.1 h
  dsimp only at h
  -- up to the callback the server prepares the attempt
  have hidle : ∀ t, Same Session.attempt s t → Sound t := by
    intro t hsame _
    have hst : t.connection.state = s.connection.state := congrArg (·.2.1) hsame
    exact (hlimited.attempt hsame).bounded (by rw [hst, hstate]; decide)
  split at h
  · obtain ⟨-, rfl⟩ := ends_pure.1 h
    exact hidle _ rfl
  · next info _ =>
      replace h := ends_bind_update.1 h
      replace h := ends_bind_update.1 h
      obtain ⟨challenged, s₁, hchallenge, h⟩ := ends_bind.1 h
      have hsame₁ : Same Session.attempt s s₁ := by
        have hchallenged := connectChallenge_attempt _ _ _ hchallenge
        exact hchallenged
      split at h
      · obtain ⟨-, rfl⟩ := ends_pure.1 h
        exact hidle _ hsame₁
      obtain ⟨⟨authenticated, havePassword⟩, s₂, hauth, h⟩ := ends_bind.1 h
      obtain ⟨hsame₂, hun⟩ := connectAuthentication_attempts hauth
      have hsame : Same Session.attempt s s₂ := hsame₂.trans hsame₁
      dsimp only at h
      split at h
      · obtain ⟨-, rfl⟩ := ends_pure.1 h
        exact hidle _ hsame
      · next hok =>
          have hlive₂ : s₂.live = s.live := congrArg (·.1) hsame
          have htries₂ : s₂.connection.authTries = s.connection.authTries :=
            congrArg (·.2.2.1) hsame
          exact connecting_sound (hlive₂.trans hlive) (hlimited.attempt hsame)
            (htries₂ ▸ htries) (hun (by simpa using hok)) h

theorem connectCommandBody_sound {rcvPacket : ByteStream} (hlive : s.live = true)
    (hbounded : Bounded s)
    (htries : s.connection.state = .lowerLayerConnected → s.connection.authTries ≠ 255)
    (h : Ends (connectCommandBody cfg rcvPacket) s status s') : Sound s' := by
  replace h := ends_bind_view.1 h
  split at h
  · obtain ⟨-, rfl⟩ := ends_pure.1 h
    exact fun _ => hbounded
  next hstate =>
  obtain ⟨⟨parameters, packet⟩, s₀, hlift, hrest⟩ := ends_bind.1 h
  obtain rfl : s₀ = s := (ends_lift.1 hlift).2
  dsimp only at hrest
  split at hrest
  · obtain ⟨-, rfl⟩ := ends_pure.1 hrest
    exact fun _ => hbounded
  obtain ⟨_, s₁, hcommon, hlimit⟩ := ends_bind.1 hrest
  have hanswers₁ := setCommon_answers _ _ _ hcommon
  replace hlimit := ends_bind_view.1 hlimit
  split at hlimit
  · obtain ⟨-, rfl⟩ := ends_pure.1 hlimit
    exact fun _ => hbounded.steady hanswers₁.steady
  obtain ⟨⟨parsed, request⟩, s₂, hparse, hheaders⟩ := ends_bind.1 hlimit
  have hanswers : Answers s₀ s₂ :=
    trans_of _ hanswers₁ (parseRequest_answers _ _ _ hparse)
  dsimp only at hheaders
  split at hheaders
  · obtain ⟨-, rfl⟩ := ends_pure.1 hheaders
    exact fun _ => hbounded.steady hanswers.steady
  · have hconnected : s₀.connection.state = .lowerLayerConnected := Classical.not_not.1 hstate
    refine connectHeadersParsed_sound ?_ ?_ (hbounded.toLimited.steady hanswers.steady) ?_ hheaders
    · rw [hanswers.rest]
      exact hlive
    · rw [hanswers.connection_eq]
      exact hconnected
    · rw [hanswers.connection_eq]
      exact htries hconnected

theorem connectCommand_sound {rcvPacket : ByteStream} (hlive : s.live = true) (hbounded : Bounded s)
    (htries : s.connection.state = .lowerLayerConnected → s.connection.authTries ≠ 255)
    (h : Ends (connectCommand cfg rcvPacket) s u s') : Sound s' := by
  obtain ⟨status, t, hbody, hend⟩ := ends_bind.1 h
  have hreject : Within (Stays Sound) (do
      let _ ← acceptConnect cfg none false status none
      setAuthentication none) :=
    acceptConnect_permitted.seq <|
      setAuthentication_sends
  exact Within.only hreject _ _ _ hend (connectCommandBody_sound hlive hbounded htries hbody)

/-! ## Runs -/

theorem lowerRecvDataInd_sound {dataBuf : List UInt8} {addr : Nat} (hlive : s.live = true)
    (hbounded : Bounded s) (htries : isConnect dataBuf → s.connection.state = .lowerLayerConnected →
      s.connection.authTries ≠ 255) (h : Ends (lowerRecvDataInd cfg dataBuf addr) s u s') :
    Sound s' := by
  replace h := ends_bind_view.1 h
  split at h
  · obtain ⟨-, rfl⟩ := ends_pure.1 h
    exact fun _ => hbounded
  split at h
  · have hdrop : Within (Stays Sound) (dropLowerConnection cfg) := dropLowerConnection_permitted cfg
    exact hdrop _ _ _ h fun _ => hbounded
  obtain ⟨⟨cmdCode, rcvPacket⟩, s₀, hopen, hdispatch⟩ := ends_bind.1 h
  obtain ⟨hpacket, rfl⟩ := ends_lift.1 hopen
  by_cases hcmd : obexFinal cmdCode = obexFinal cmdConnect
  · have hconnect : isConnect dataBuf := by simp [isConnect, openPacket_opcode hpacket, hcmd]
    replace hdispatch : Ends (dispatchCommand cfg cmdCode rcvPacket) s₀ u s' := hdispatch
    unfold dispatchCommand at hdispatch
    rw [if_pos hcmd] at hdispatch
    exact connectCommand_sound hlive hbounded (htries hconnect) hdispatch
  · have hother : Within (Stays Sound) (dispatchCommand cfg cmdCode rcvPacket) :=
      dispatchCommand_permitted cfg hcmd rcvPacket
    exact hother _ _ _ hdispatch fun _ => hbounded

theorem handle_sound {event : Event} (hbounded : Bounded s)
    (hcounted : Counted (.event event ⟨s.connection, s.channel⟩))
    (h : Ends (handle cfg event) s u s') : Sound s' := by
  cases event with
  | lowerRecvDataInd dataBuf addr =>
      replace h := ends_bind_view.1 h
      obtain ⟨hlive, h⟩ | ⟨-, rfl⟩ := ends_only.1 h
      · exact lowerRecvDataInd_sound hlive hbounded hcounted h
      · exact fun _ => hbounded
  | _ => exact handle_permitted (R := Stays Sound) cfg (by simp) _ _ _ h fun _ => hbounded

theorem step_sound (cfg : Config) (event : Event) : Within (Stays Sound) (step cfg event) := by
  intro s u s' h hsound hcounted
  have hgrows := step_grows cfg event _ _ _ h
  have hbounded := hsound fun act hmem => hcounted act (hgrows.subset hmem)
  replace h := ends_bind_view.1 h
  replace h := ends_bind_update.1 h
  have hgrows₁ := handle_grows cfg event _ _ _ h
  have hevent : Counted (.event event ⟨s.connection, s.channel⟩) :=
    hcounted _ (hgrows₁.subset (mem_append_right _ mem_cons_self))
  exact handle_sound (hbounded.steady (Permits.act rfl)) hevent h hcounted

theorem accepted_bounded (cfg : Config) (server : ObexServer) (env : Surroundings) :
    Bounded (accepted cfg server env) :=
  ⟨⟨Nat.zero_le _, le_rfl⟩, nofun⟩

/-- A connect request with a response that does not fit the challenge. -/
def wrongResponse : Event :=
  .lowerRecvDataInd ([0x80, 0, 28, 0x10, 0, 4, 0, 0x4E, 0, 21, 0, 16] ++ List.replicate 16 1) 0

/-- What the application does with it. -/
def checkResponse : Reply := ⟨[.authenticationResponse none 0 [0x31] false], .ok⟩

/-- A connect request for the target `[1]`. -/
def openRequest : Event := .lowerRecvDataInd [0x80, 0, 11, 0x10, 0, 4, 0, 0x46, 0, 4, 1] 0

/-- A server whose primary target requires a password and whose target `[1]` does not. -/
def partlyOpen : ObexServer :=
  { sampleServer .password false false with
    secondary := [{ (sampleServer .none false false).targetInfo with target := [1] }] }

/-- Three attempts fail. Then the other target is requested while the application does not
answer; every second request is indicated, and the count starts again. -/
def untilForgotten : List Event :=
  .lowerConnectCfm 1000 1000 true .ok ::
    (List.replicate 3 wrongResponse ++ List.replicate 506 openRequest ++ [wrongResponse])

/-- The replies in this run. -/
def repliesUntilForgotten : List Reply :=
  List.replicate 3 checkResponse ++ List.replicate 253 ⟨[], .ok⟩ ++ [checkResponse]

end Obex.Server
