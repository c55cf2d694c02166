import BtPlatform.Obex.Server.Steps

/-!
# Calls and commands out of turn

A call of the interface in a state that it is not for changes nothing. A command in a
state in which it is not legal is answered with an error response and otherwise
changes nothing, with two exceptions: a connect request on a live session and a get
request. What these do is stated by `connectCommand_refused` and
`getCommand_refused`.
-/

namespace Obex.Server

open Support Program Linked Prog Srv

variable {cfg : Config} {s s' : Session} {status : Status}

/-! ## Calls -/

variable {rspStatus : Status} {optHeaders : Option (List Header)} {rcvPacket : ByteStream}

theorem bulkGetResponse_idle {buffers : List Buffer}
    (hstate : s.connection.state ≠ .bulkGetInProgress)
    (h : Ends (bulkGetResponse buffers rspStatus) s status s') :
    s' = s ∧ (status = .ok → buffers = []) := by
  replace h := ends_bind_state.1 h
  split at h
  · obtain ⟨rfl, rfl⟩ := ends_pure.1 h
    exact ⟨rfl, nofun⟩
  split at h
  · obtain ⟨rfl, rfl⟩ := ends_pure.1 h
    exact ⟨rfl, nofun⟩
  split at h
  · split at h
    · obtain ⟨rfl, rfl⟩ := ends_pure.1 h
      exact ⟨rfl, nofun⟩
    · next hlen =>
        obtain ⟨rfl, rfl⟩ := ends_pure.1 h
        exact ⟨rfl, fun _ => List.length_eq_zero_iff.1 (Nat.le_zero.1 (Nat.le_of_not_lt hlen))⟩
  · obtain ⟨rfl, rfl⟩ := ends_pure.1 h
    exact ⟨rfl, nofun⟩

theorem getResponse_idle {rspHeaders : Option (List Header)}
    (hstate : s.connection.state ≠ .getInProgress)
    (h : Ends (getResponse rspHeaders rspStatus) s status s') : s' = s := by
  replace h := ends_bind_state.1 h
  split at h
  · exact (ends_pure.1 h).2
  · exact (ends_pure.1 h).2

theorem putResponse_idle {rspHeaders : Option (List Header)}
    (hstate : s.connection.state ≠ .putInProgress)
    (h : Ends (putResponse rspHeaders rspStatus) s status s') : s' = s := by
  replace h := ends_bind_state.1 h
  split at h
  · exact (ends_pure.1 h).2
  · exact (ends_pure.1 h).2

theorem actionResponse_idle (hstate : s.connection.state ≠ .doAction)
    (h : Ends (actionResponse rspStatus optHeaders) s status s') : s' = s := by
  replace h := ends_bind_state.1 h
  split at h
  · exact (ends_pure.1 h).2
  · exact (ends_pure.1 h).2

theorem confirmSetpath_idle (hstate : s.connection.state ≠ .settingPath)
    (h : Ends (confirmSetpath rspStatus optHeaders) s status s') : s' = s := by
  replace h := ends_bind_state.1 h
  rw [if_pos (by simp [hstate])] at h
  exact (ends_pure.1 h).2

theorem acceptConnectCall_idle {accept : Bool} (hstate : s.connection.state ≠ .obexConnecting)
    (h : Ends (acceptConnectCall cfg accept rspStatus optHeaders) s status s') : s' = s := by
  replace h := ends_bind_state.1 h
  rw [if_pos (by simp [hstate])] at h
  exact (ends_pure.1 h).2

theorem authenticationResponse_idle {userId : Option (List UInt8)} {userIdLen : Nat}
    {password : List UInt8} {readOnly : Bool} (hstate : s.connection.state ≠ .obexConnecting)
    (h : Ends (authenticationResponse cfg userId userIdLen password readOnly) s status s') :
    s' = s := by
  replace h := ends_bind_state.1 h
  rw [if_pos (by simp [hstate])] at h
  exact (ends_pure.1 h).2

theorem authAccept_idle {realm : Option Realm} {accept : Bool}
    (hstate : s.connection.state ≠ .obexConnecting)
    (h : Ends (authAccept cfg realm accept) s status s') : s' = s := by
  replace h := ends_bind_state.1 h
  rw [if_pos (by simp [hstate])] at h
  exact (ends_pure.1 h).2

/-- The states in which the application is to answer a request. -/
def ConnectionState.awaitsCall : ConnectionState → Bool
  | .obexConnecting | .getInProgress | .bulkGetInProgress | .putInProgress | .settingPath
  | .doAction => true
  | _ => false

/-- In a state without a request to answer, the state stays, unless the lower
connection is dropped. -/
def Settles (s s' : Session) : Prop :=
  s.connection.state.awaitsCall = false →
    s'.connection.state.awaitsCall = false ∧
      (s'.connection.state = s.connection.state ∨
        s'.connection.state = .obexDisconnectCompleting)

instance : IsPreorder Session Settles where
  refl _ h := ⟨h, .inl rfl⟩
  trans s₁ s₂ s₃ h₁₂ h₂₃ h := by
    obtain ⟨hawaits₂, hstate₂⟩ := h₁₂ h
    obtain ⟨hawaits₃, hstate₃⟩ := h₂₃ hawaits₂
    refine ⟨hawaits₃, ?_⟩
    rcases hstate₃ with hstate₃ | hstate₃
    · rw [hstate₃]
      exact hstate₂
    · exact .inr hstate₃

theorem Settles.of_state_eq (h : s'.connection.state = s.connection.state) : Settles s s' :=
  fun hawaits => ⟨by rw [h]; exact hawaits, .inl h⟩

instance : Aborts Settles where
  quiet _ _ := .of_state_eq rfl
  common _ := .of_state_eq rfl
  channel _ _ _ := .of_state_eq rfl
  rest hconn _ _ := .of_state_eq (by rw [hconn])
  connection hstanding := .of_state_eq (Prod.mk.inj (Prod.mk.inj hstanding).1).1
  drop _ := ⟨rfl, .inr rfl⟩
  note _ := .of_state_eq rfl

/-- A call that is only for states in which a request awaits an answer. -/
theorem settles_of_idle {m : Srv Status} {state : ConnectionState} (hawaits : state.awaitsCall)
    (hidle : ∀ s a s', s.connection.state ≠ state → Ends m s a s' → s' = s) :
    Within Settles m := by
  intro s a s' h hstate
  have hne : s.connection.state ≠ state := by
    intro heq
    rw [heq, hawaits] at hstate
    cases hstate
  rw [hidle s a s' hne h]
  exact ⟨hstate, .inl rfl⟩

theorem callFunction_settles {cfg : Config} {c : Call} : Within Settles (callFunction cfg c) := by
  cases c with
  | bulkGetResponse buffers rspStatus =>
      exact settles_of_idle rfl
        fun _ _ _ hst h => (bulkGetResponse_idle hst h).1
  | getResponse rspHeaders rspStatus =>
      exact settles_of_idle rfl fun _ _ _ => getResponse_idle
  | putResponse rspHeaders rspStatus =>
      exact settles_of_idle rfl fun _ _ _ => putResponse_idle
  | actionResponse rspStatus optHeaders =>
      exact settles_of_idle rfl fun _ _ _ => actionResponse_idle
  | confirmSetpath status optHeaders =>
      exact settles_of_idle rfl fun _ _ _ => confirmSetpath_idle
  | acceptConnect accept status optHeaders =>
      exact settles_of_idle rfl fun _ _ _ => acceptConnectCall_idle
  | authenticationResponse userId userIdLen password readOnly =>
      exact settles_of_idle rfl
        fun _ _ _ => authenticationResponse_idle
  | authAccept realm accept =>
      exact settles_of_idle rfl fun _ _ _ => authAccept_idle
  | abortResponse rspHeaders rspStatus => exact abortResponse_permitted
  | forceDisconnect => exact forceDisconnect_permitted

theorem record_settles {act : Act} : Within Settles (record act) :=
  Within.update fun _ => .of_state_eq rfl

theorem calls_settles (cfg : Config) (cs : List Call) : Within Settles (calls cfg cs) :=
  Within.perform (fun _ => Within.seq Within.view <| record_settles.seq <|
    callFunction_settles.seq record_settles) cs

theorem indicate_settles {cfg : Config} {ind : Indication} : Within Settles (indicate cfg ind) :=
  currentTarget_sends.seq <|
    .ite
      (Within.view.seq <|
        Within.seq (Within.update fun _ => .of_state_eq rfl) <|
          record_settles.seq <| (calls_settles cfg _).seq .pure)
      .fault

/-! ## Commands -/

/-- A part of a run that only answers leaves the connection record alone. -/
theorem Answers.connection_eq (h : Answers s s') : s'.connection = s.connection := by
  rw [h.rest]

theorem putCommandError_refused
    (hstate : ¬ (s.connection.state = .obexConnected ∨ s.connection.state = .putInProgress ∨
      s.connection.state = .putCompleting))
    (h : Ends (putCommandError cfg status) s () s') : Ends (errorResponse status) s () s' := by
  replace h := ends_bind_view.1 h
  obtain ⟨_, _, honly, hend⟩ := ends_bind.1 h
  obtain ⟨hc, -⟩ | ⟨-, rfl⟩ := ends_only.1 honly
  · exact absurd hc hstate
  · exact hend

/-- A put request out of turn; in state `PUT_COMPLETING` the operation is ended. -/
theorem putCommand_refused {final : Bool}
    (hstate : ¬ (s.connection.state = .obexConnected ∨ s.connection.state = .putInProgress ∨
      s.connection.state = .putCompleting)) (h : Ends (putCommand cfg rcvPacket final) s () s') :
    Answers s s' := by
  obtain ⟨⟨rsp, request⟩, t, hparse, h⟩ := ends_bind.1 h
  have hanswers := parseRequest_answers _ _ _ hparse
  rw [← hanswers.connection_eq] at hstate
  replace h := ends_bind_view.1 h
  have hend : ∀ status, Ends (putCommandError cfg status) t () s' → Answers s s' :=
    fun status hend => trans_of _ hanswers
      (errorResponse_answers _ _ _ (putCommandError_refused hstate hend))
  dsimp only at h
  split at h
  · exact hend _ h
  · rw [if_neg (fun hc => hstate (.inl hc)), if_neg (fun hc => hstate (.inr (.inl hc)))] at h
    exact hend _ h

theorem setPathCommand_refused (hstate : s.connection.state ≠ .obexConnected)
    (hset : s.connection.state ≠ .settingPath) (h : Ends (setPathCommand cfg rcvPacket) s () s') :
    Ends (errorResponse .obexOperationInProgress) s () s' := by
  obtain ⟨_, _, hbody, hend⟩ := ends_bind.1 h
  replace hbody := ends_bind_view.1 hbody
  rw [if_pos hstate] at hbody
  obtain ⟨rfl, rfl⟩ := ends_pure.1 hbody
  obtain ⟨-, hend⟩ | ⟨hok, -⟩ := ends_only.1 hend
  · obtain ⟨_, _, honly, herror⟩ := ends_bind.1 (ends_bind_view.1 hend)
    obtain ⟨hc, -⟩ | ⟨-, rfl⟩ := ends_only.1 honly
    · exact absurd hc hset
    · exact herror
  · exact absurd (by decide) hok

theorem actionCommand_refused (hstate : s.connection.state ≠ .obexConnected)
    (h : Ends (actionCommand cfg rcvPacket) s () s') :
    Ends (errorResponse .obexOperationInProgress) s () s' := by
  obtain ⟨_, _, hbody, hend⟩ := ends_bind.1 h
  replace hbody := ends_bind_view.1 hbody
  rw [if_pos hstate] at hbody
  obtain ⟨rfl, rfl⟩ := ends_pure.1 hbody
  obtain ⟨-, hend⟩ | ⟨hok, -⟩ := ends_only.1 hend
  · exact hend
  · exact absurd (by decide) hok

theorem sessionCommand_refused (hstate : s.connection.state ≠ .obexConnected)
    (h : Ends (sessionCommand cfg rcvPacket) s () s') :
    Ends (errorResponse .obexOperationInProgress) s () s' := by
  replace h := ends_bind_view.1 h
  rw [if_pos hstate] at h
  exact h

/-- A connect request on a live session: the connection is refused, and the refusal
resets the state of the session. -/
theorem connectCommand_refused (hstate : s.connection.state ≠ .lowerLayerConnected)
    (h : Ends (connectCommand cfg rcvPacket) s () s') :
    Ends (do
      let _ ← acceptConnect cfg none false .obexServiceUnavailable none
      setAuthentication none) s () s' := by
  obtain ⟨_, _, hbody, hend⟩ := ends_bind.1 h
  replace hbody := ends_bind_view.1 hbody
  rw [if_pos hstate] at hbody
  obtain ⟨rfl, rfl⟩ := ends_pure.1 hbody
  obtain ⟨-, hend⟩ | ⟨hok, -⟩ := ends_only.1 hend
  · exact hend
  · exact absurd (by decide) hok

/-- The states in which a get request is served. -/
def ConnectionState.servesGet : ConnectionState → Bool
  | .obexConnected | .getInProgress | .getCompleting | .bulkGetInProgress
  | .bulkGetCompleting => true
  | _ => false

end Obex.Server
