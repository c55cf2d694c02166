import BtPlatform.Obex.Client.Agreed
import BtPlatform.Obex.Server.Events
import BtPlatform.Program.Deferred

/-!
# Deferred functions

Client and server register functions with the dispatcher. `ConnectTimeout` and
`dispatchedAbortCommand` hold the handle of a connection and look it up; `ReIndicateConnect`,
`CommandError` and `ResponseTimeout` hold the address of its record. Of these only the last is
cancelled when the record is freed, and nothing is registered any more for a record that is
gone. So a function meets a freed record exactly if it waits when the record is freed.
-/

variable {event : Event}

namespace Obex.Server

open Support Program Prog Srv List

/-! ## The server -/

/-- A function that holds the address of the connection record is registered. -/
def Session.waiting (s : Session) : Bool := s.tasks.contains .reIndicateConnect

/-- The event runs such a function. -/
def Session.touches (s : Session) : Event → Bool
  | .dispatch index => s.tasks[index]? == some .reIndicateConnect
  | _ => false

section Dead

variable {cfg : Config} {s s' : Session}

theorem touches_waiting (h : s.touches event = true) : s.waiting = true := by
  cases event with
  | dispatch index =>
      have hget : s.tasks[index]? = some .reIndicateConnect := beq_iff_eq.1 h
      exact contains_iff_mem.2 (mem_of_getElem? hget)
  | _ => cases h

theorem waiting_touches (h : s.waiting = true) : ∃ event, s.touches event = true := by
  obtain ⟨index, hget⟩ := getElem?_of_mem (contains_iff_mem.1 h)
  exact ⟨.dispatch index, beq_iff_eq.2 hget⟩

/-- A function that checks first returns at once. -/
theorem guarded_dead {c : Session → Bool} {status : Status} {f : Session → Srv Status}
    (h : c s = true) :
    (do let s ← Prog.view id; if c s then return status else f s : Srv Status) s =
      .ok (status, s) := by
  change (if c s then pure status else f s : Srv Status) s = .ok (status, s)
  rw [if_pos h]
  rfl

/-- No function of the interface does anything for a record that is gone. -/
theorem callFunction_dead (c : Call) (hdead : s.live = false) :
    ∃ status, callFunction cfg c s = .ok (status, s) := by
  have hlive : (!s.live) = true := by rw [hdead]; rfl
  have hor (b : Bool) : (!s.live || b) = true := by rw [hlive]; rfl
  cases c with
  | bulkGetResponse buffers rspStatus => exact ⟨_, guarded_dead hlive⟩
  | getResponse rspHeaders rspStatus => exact ⟨_, guarded_dead hlive⟩
  | putResponse rspHeaders rspStatus => exact ⟨_, guarded_dead hlive⟩
  | actionResponse rspStatus optHeaders => exact ⟨_, guarded_dead hlive⟩
  | confirmSetpath status optHeaders => exact ⟨_, guarded_dead (hor _)⟩
  | acceptConnect accept status optHeaders => exact ⟨_, guarded_dead (hor _)⟩
  | authenticationResponse userId userIdLen password readOnly =>
      exact ⟨_, guarded_dead (hor _)⟩
  | authAccept realm accept => exact ⟨_, guarded_dead (hor _)⟩
  | abortResponse rspHeaders rspStatus => exact ⟨_, guarded_dead (hor _)⟩
  | forceDisconnect => exact ⟨_, guarded_dead hlive⟩

theorem call_dead {c : Call} (h : Ends (call cfg c) s () s') (hdead : s.live = false) :
    s'.live = false ∧ s'.tasks = s.tasks := by
  replace h := ends_bind_view.1 h
  obtain ⟨_, t, hcalled, hfunction⟩ := ends_bind.1 h
  have ht := ends_update.1 hcalled
  obtain ⟨status, t', hfunction, hanswered⟩ := ends_bind.1 hfunction
  have hdead' : t.live = false := by
    rw [ht]
    exact hdead
  obtain ⟨status', hreturns⟩ : ∃ status, callFunction cfg c t = .ok (status, t) :=
    callFunction_dead c hdead'
  obtain ⟨-, rfl⟩ := Ends.unique hfunction hreturns
  obtain rfl := ends_update.1 hanswered
  exact ⟨hdead', by rw [ht]⟩

/-- Neither does a function that looks the handle up. -/
theorem looked_up_dead {m : Session → Srv Unit} (hdead : s.live = false) :
    (do let s ← Prog.view id; Prog.only s.live (m s) : Srv Unit) s = .ok ((), s) := by
  change (Prog.only (s.live = true) (m s) : Srv Unit) s = .ok ((), s)
  rw [Prog.only, if_neg (by rw [hdead]; exact Bool.false_ne_true)]
  rfl

/-- A record that is gone stays so, and nothing more is registered for it. -/
theorem step_dead (h : Ends (step cfg event) s () s') (hdead : s.live = false) :
    s'.live = false ∧ ∀ task ∈ s'.tasks, task ∈ s.tasks := by
  have hnone {c : Prop} [Decidable c] {m : Srv Unit} {t : Session} (hc : ¬ c)
      (ht : Ends (Prog.only c m) t () s') : s' = t := by
    obtain ⟨hholds, -⟩ | ⟨-, heq⟩ := ends_only.1 ht
    · exact absurd hholds hc
    · exact heq
  have hnotLive : ¬ s.live = true := by
    rw [hdead]
    exact Bool.false_ne_true
  replace h := ends_bind_view.1 h
  have hhandle := ends_bind_update.1 h
  replace hhandle := ends_bind_view.1 hhandle
  cases event with
  | lowerConnectCfm recvMtu sendMtu l2cap result =>
      obtain rfl := hnone (fun hlive => hnotLive hlive.1) hhandle
      exact ⟨hdead, fun _ => id⟩
  | lowerDisconnectInd reason =>
      obtain rfl := hnone hnotLive hhandle
      exact ⟨hdead, fun _ => id⟩
  | lowerWriteCfm queueFull result =>
      obtain rfl := hnone hnotLive hhandle
      exact ⟨hdead, fun _ => id⟩
  | lowerRecvDataInd dataBuf addr =>
      obtain rfl := hnone hnotLive hhandle
      exact ⟨hdead, fun _ => id⟩
  | connectTimeout =>
      obtain ⟨-, hfires⟩ | ⟨-, rfl⟩ := ends_only.1 hhandle
      · obtain ⟨-, rfl⟩ := Ends.unique hfires (looked_up_dead hdead)
        exact ⟨hdead, fun _ => id⟩
      · exact ⟨hdead, fun _ => id⟩
  | dispatch index =>
      obtain ⟨_, t, herase, hrun⟩ := ends_bind.1 (ends_bind_view.1 hhandle)
      obtain rfl := ends_update.1 herase
      have hsub : ∀ task ∈ s.tasks.eraseIdx index, task ∈ s.tasks :=
        fun _ hmem => mem_of_mem_eraseIdx hmem
      split at hrun
      · obtain ⟨-, rfl⟩ := ends_pure.1 hrun
        exact ⟨hdead, hsub⟩
      · replace hrun := ends_bind_view.1 hrun
        rw [id_eq, if_pos (by rw [hdead]; rfl)] at hrun
        exact absurd hrun ends_fault
      · obtain ⟨-, rfl⟩ := Ends.unique hrun (looked_up_dead hdead)
        exact ⟨hdead, hsub⟩
  | call c =>
      obtain ⟨hdead', htasks⟩ := call_dead hhandle hdead
      exact ⟨hdead', fun _ hmem => htasks ▸ hmem⟩

theorem step_inert (cfg : Config) : Inert (step cfg) Session.live Session.waiting := by
  intro event t t' h hdead
  obtain ⟨hdead', htasks⟩ := step_dead h hdead
  exact ⟨hdead', fun hwaiting =>
    contains_iff_mem.2 (htasks _ (contains_iff_mem.1 hwaiting))⟩

end Dead

end Obex.Server

namespace Obex.Client

open Support Program Prog Cli List

/-! ## The client -/

/-- A function that holds the address of the connection record is registered. -/
def Session.waiting (s : Session) : Bool := !s.tasks.isEmpty || s.connection.timeoutCB

/-- The event runs such a function. -/
def Session.touches (s : Session) : Event → Bool
  | .dispatch index => s.tasks[index]?.isSome
  | .responseTimeout => s.connection.timeoutCB
  | _ => false

section Dead

variable {cfg : Config} {s s' : Session}

theorem touches_waiting (h : s.touches event = true) : s.waiting = true := by
  cases event with
  | dispatch index =>
      obtain ⟨status, hget⟩ := Option.isSome_iff_exists.1 h
      have hmem := mem_of_getElem? hget
      rw [Session.waiting, Bool.or_eq_true, Bool.not_eq_true', isEmpty_eq_false_iff]
      exact .inl (ne_nil_of_mem hmem)
  | responseTimeout =>
      rw [Session.waiting, Bool.or_eq_true]
      exact .inr h
  | _ => cases h

theorem waiting_touches (h : s.waiting = true) : ∃ event, s.touches event = true := by
  rw [Session.waiting, Bool.or_eq_true, Bool.not_eq_true', isEmpty_eq_false_iff] at h
  rcases h with htasks | htimer
  · obtain ⟨status, hmem⟩ := exists_mem_of_ne_nil _ htasks
    obtain ⟨index, hget⟩ := getElem?_of_mem hmem
    exact ⟨.dispatch index, Option.isSome_iff_exists.2 ⟨status, hget⟩⟩
  · exact ⟨.responseTimeout, htimer⟩

/-- On a record that is gone the function stops at its first access. -/
theorem touches_dead (h : s.touches event = true) (hdead : s.live = false) :
    step cfg event s = .error .useAfterFree := by
  have hnotLive : ¬ s.live = true := by
    rw [hdead]
    exact Bool.false_ne_true
  cases event with
  | dispatch index =>
      obtain ⟨status, hget⟩ := Option.isSome_iff_exists.1 h
      have hdispatch (t : Session) (htasks : t.tasks = s.tasks) (hlive : t.live = false) :
          dispatchTask cfg index t = .error .useAfterFree := by
        unfold dispatchTask
        simp only [bind, andThen, view, update, id_eq, htasks, hget]
        change (if t.live then _ else Prog.fault .useAfterFree : Cli Unit) _ = _
        rw [if_neg (by rw [hlive]; exact Bool.false_ne_true)]
        rfl
      exact hdispatch _ rfl hdead
  | responseTimeout =>
      have htimer : s.connection.timeoutCB = true := h
      change (Prog.only (s.connection.timeoutCB = true) (responseTimeout cfg) : Cli Unit)
        { s with history := s.history ++ [.event .responseTimeout ⟨s.connection, s.channel⟩] } = _
      rw [Prog.only, if_pos htimer]
      change (if s.live then _ else Prog.fault .useAfterFree : Cli Unit) _ = _
      rw [if_neg hnotLive]
      rfl
  | _ => cases h

/-- A function that checks first returns at once. -/
theorem guarded_dead {c : Session → Bool} {status : Status} {f : Session → Cli Status}
    (h : c s = true) :
    (do let s ← Prog.view id; if c s then return status else f s : Cli Status) s =
      .ok (status, s) := by
  change (if c s then pure status else f s : Cli Status) s = .ok (status, s)
  rw [if_pos h]
  rfl

/-- No function of the interface does anything for a record that is gone. -/
theorem callFunction_dead (c : Call) (hdead : s.live = false) :
    ∃ status, callFunction cfg c s = .ok (status, s) := by
  have hnot : (!s.isConnected) = true := by rw [Session.isConnected, hdead]; rfl
  have hcheck : s.checkIdle = .obexNotConnected := by rw [Session.checkIdle, if_pos hnot]
  have hidle {f : Session → Cli Status} :
      (do let s ← Prog.view id; if !s.checkIdle.success then return s.checkIdle else f s :
        Cli Status) s = .ok (.obexNotConnected, s) := by
    change (if !s.checkIdle.success then pure s.checkIdle else f s : Cli Status) s = _
    rw [hcheck]
    rfl
  cases c with
  | bulkPut buffers status => exact ⟨_, guarded_dead hnot⟩
  | put cmdHeaders status => exact ⟨_, guarded_dead hnot⟩
  | get cmdHeaders final => exact ⟨_, guarded_dead hnot⟩
  | authentication userId userIdLen password realm =>
      exact ⟨_, guarded_dead (c := fun s => !s.live) (by rw [hdead]; rfl)⟩
  | disconnect cmdHeaders => exact ⟨_, guarded_dead hnot⟩
  | abort abortCfm => exact ⟨_, guarded_dead hnot⟩
  | setPath folder dontCreate upLevel cmdHeaders => exact ⟨_, hidle⟩
  | doAction actionId objectName actionHdrs => exact ⟨_, hidle⟩

theorem call_dead {c : Call} (h : Ends (call cfg c) s () s') (hdead : s.live = false) :
    s'.live = false ∧ s'.tasks = s.tasks ∧ s'.connection = s.connection := by
  replace h := ends_bind_view.1 h
  obtain ⟨_, t, hcalled, hfunction⟩ := ends_bind.1 h
  have ht := ends_update.1 hcalled
  obtain ⟨status, t', hfunction, hanswered⟩ := ends_bind.1 hfunction
  have hdead' : t.live = false := by
    rw [ht]
    exact hdead
  obtain ⟨status', hreturns⟩ : ∃ status, callFunction cfg c t = .ok (status, t) :=
    callFunction_dead c hdead'
  obtain ⟨-, rfl⟩ := Ends.unique hfunction hreturns
  obtain rfl := ends_update.1 hanswered
  exact ⟨hdead', by rw [ht], by rw [ht]⟩

/-- A record that is gone stays so, and nothing more is registered for it. -/
theorem step_inert (cfg : Config) : Inert (step cfg) Session.live Session.waiting := by
  intro event s s' h hdead
  have hnotLive : ¬ s.live = true := by
    rw [hdead]
    exact Bool.false_ne_true
  cases htouches : s.touches event with
  | true =>
      have hfault : step cfg event s = .error .useAfterFree := touches_dead htouches hdead
      rw [Ends, hfault] at h
      cases h
  | false =>
      replace h := ends_bind_view.1 h
      have hhandle := ends_bind_update.1 h
      replace hhandle := ends_bind_view.1 hhandle
      have hnone {c : Prop} [Decidable c] {m : Cli Unit} {t : Session} (hc : ¬ c)
          (ht : Ends (Prog.only c m) t () s') : s' = t := by
        obtain ⟨hholds, -⟩ | ⟨-, heq⟩ := ends_only.1 ht
        · exact absurd hholds hc
        · exact heq
      cases event with
      | lowerConnectCfm recvMtu sendMtu result =>
          obtain rfl := hnone (fun hlive => hnotLive hlive.1) hhandle
          exact ⟨hdead, id⟩
      | lowerDisconnectInd reason =>
          obtain rfl := hnone hnotLive hhandle
          exact ⟨hdead, id⟩
      | lowerWriteCfm queueFull result =>
          obtain rfl := hnone hnotLive hhandle
          exact ⟨hdead, id⟩
      | lowerRecvDataInd dataBuf addr =>
          obtain rfl := hnone hnotLive hhandle
          exact ⟨hdead, id⟩
      | responseTimeout =>
          obtain rfl := hnone (Bool.eq_false_iff.1 htouches) hhandle
          exact ⟨hdead, id⟩
      | dispatch index =>
          have hget : s.tasks[index]? = none := Option.isSome_eq_false_iff.1 htouches |>
            Option.isNone_iff_eq_none.1
          replace hhandle := ends_bind_view.1 hhandle
          have hrun := ends_bind_update.1 hhandle
          dsimp only [id_eq] at hrun
          rw [hget] at hrun
          obtain ⟨-, rfl⟩ := ends_pure.1 hrun
          have hsame : s.tasks.eraseIdx index = s.tasks :=
            eraseIdx_of_length_le (getElem?_eq_none_iff.1 hget)
          refine ⟨hdead, fun hwaiting => ?_⟩
          rw [Session.waiting, hsame] at hwaiting
          exact hwaiting
      | call c =>
          obtain ⟨hdead', htasks, hconn⟩ := call_dead hhandle hdead
          exact ⟨hdead', by rw [Session.waiting, Session.waiting, htasks, hconn]; exact id⟩

end Dead

end Obex.Client

namespace Obex

open Support Program Prog

/-! ## Runs -/

/-- In every run of the server and in every run of the client, whichever function the dispatcher
runs finds the connection record there, exactly if no function that holds its address is
registered whenever the record is freed. -/
theorem deferred_meets_live_iff (serverCfg : Server.Config) (server : Server.ObexServer)
    (serverEnv : Server.Surroundings) (serverEvents : List Server.Event)
    (clientCfg : Client.Config) (request : Client.ConnectRequest)
    (clientEnv : Client.Surroundings) (clientEvents : List Client.Event) :
    ((∀ t, Passes (Server.step serverCfg) serverEvents
          (Server.accepted serverCfg server serverEnv) t →
        ∀ event, t.touches event = true → t.live = true) ↔
      GoesAlone (Server.step serverCfg) Server.Session.live Server.Session.waiting serverEvents
        (Server.accepted serverCfg server serverEnv)) ∧
    ((∀ t, Passes (Client.step clientCfg) clientEvents
          (.connecting clientCfg request clientEnv) t →
        ∀ event, t.touches event = true → t.live = true) ↔
      GoesAlone (Client.step clientCfg) Client.Session.live Client.Session.waiting clientEvents
        (.connecting clientCfg request clientEnv)) := by
  constructor
  · rw [← neverLate_iff (Server.step_inert serverCfg) rfl]
    constructor
    · intro h t hpasses hwaiting
      obtain ⟨event, htouches⟩ := Server.waiting_touches hwaiting
      exact h t hpasses event htouches
    · intro h t hpasses event htouches
      exact h t hpasses (Server.touches_waiting htouches)
  · rw [← neverLate_iff (Client.step_inert clientCfg) rfl]
    constructor
    · intro h t hpasses hwaiting
      obtain ⟨event, htouches⟩ := Client.waiting_touches hwaiting
      exact h t hpasses event htouches
    · intro h t hpasses event htouches
      exact h t hpasses (Client.touches_waiting htouches)

/-- A connect request with a challenge is answered by the application, and before the dispatcher
runs the lower layer disconnects. -/
def disconnectAfterAuthentication : List Server.Event :=
  [.lowerConnectCfm 1000 1000 true .ok,
    .lowerRecvDataInd ([0x80, 0, 28, 0x10, 0, 4, 0, 0x4D, 0, 21, 0, 16] ++ List.replicate 16 1) 0,
    .call (.authenticationResponse none 0 [0x31] false), .lowerDisconnectInd .ok]

/-- The application gives up when it is asked for a password, and the lower layer disconnects. -/
def disconnectAfterRefusal : List Client.Event :=
  [.lowerConnectCfm 1000 1000 .ok, .call (.authentication none 0 none none),
    .lowerDisconnectInd .ok]

/-- On both sides a function that is registered when the lower layer disconnects meets the freed
record. -/
theorem deferred_meets_freed :
    (¬ ∀ (cfg : Server.Config) (server : Server.ObexServer) (env : Server.Surroundings)
      (events : List Server.Event) (t : Server.Session) (event : Server.Event),
      Ends (Server.run cfg events) (Server.accepted cfg server env) () t →
      t.touches event = true → t.live = true) ∧
    ¬ ∀ (cfg : Client.Config) (request : Client.ConnectRequest) (env : Client.Surroundings)
      (events : List Client.Event) (t : Client.Session) (event : Client.Event),
      Ends (Client.run cfg events) (.connecting cfg request env) () t →
      t.touches event = true → t.live = true := by
  constructor
  · intro hall
    have hreach : reaches (Server.run Server.sampleConfig disconnectAfterAuthentication)
        (Server.accepted Server.sampleConfig (Server.sampleServer .none false false)
          (Server.friendly []))
        (fun t => t.touches (.dispatch 0) && !t.live) = true := by
      decide +kernel
    obtain ⟨t, hends, hcheck⟩ := reaches_iff.1 hreach
    obtain ⟨htouches, hdead⟩ := Bool.and_eq_true_iff.1 hcheck
    rw [hall _ _ _ _ t _ hends htouches] at hdead
    cases hdead
  · intro hall
    have hreach : reaches (Client.run Client.sampleConfig disconnectAfterRefusal)
        (.connecting Client.sampleConfig ⟨true, false, false, .password, [], false⟩
          Client.plentiful)
        (fun t => t.touches (.dispatch 0) && !t.live) = true := by
      decide +kernel
    obtain ⟨t, hends, hcheck⟩ := reaches_iff.1 hreach
    obtain ⟨htouches, hdead⟩ := Bool.and_eq_true_iff.1 hcheck
    rw [hall _ _ _ _ t _ hends htouches] at hdead
    cases hdead

end Obex
