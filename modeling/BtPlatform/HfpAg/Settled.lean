import BtPlatform.HfpAg.Deferred

/-!
# Runs of the gateway

Under the condition at most one request waits, and only while the gateway is pending; every
thread that is not joined is known by its id.
-/

namespace HfpAg

open List

/-- What a request may have led to. -/
def Request.Served (r : Request) : Prop :=
  r.disconnects = [] ∨
    ∃ d, r.disconnects = [d] ∧ d.device = r.device ∧ d.scoDown = true ∧ d.nextSession = false

variable {r : Request}

theorem Request.Served.length_le (h : r.Served) : r.disconnects.length ≤ 1 := by
  obtain h | ⟨d, h, -⟩ := h
  · rw [h]
    exact Nat.zero_le 1
  · rw [h]
    exact Nat.le_refl 1

theorem Request.Served.own (h : r.Served) {d : Disconnect} (hd : d ∈ r.disconnects) :
    d.device = r.device ∧ d.scoDown = true ∧ d.nextSession = false := by
  obtain h | ⟨d', h, hown⟩ := h
  · rw [h] at hd
    cases hd
  · rw [h] at hd
    obtain rfl := mem_singleton.1 hd
    exact hown

/-- To note what an event reports leads to nothing. -/
theorem Request.Served.note (h : r.Served) (event : BtEvent) (state : HfpAgState) :
    (r.note event state).Served := h

/-- The threads that are joined are not left to join. -/
theorem unjoined_joined {tids unjoined : List Nat} :
    (tids.map Act.joined).foldl nextUnjoined unjoined = unjoined.filter (· ∉ tids) := by
  induction tids generalizing unjoined with
  | nil => exact (filter_eq_self.2 fun _ _ => decide_eq_true not_mem_nil).symm
  | cons tid tids ih =>
      rw [map_cons, foldl_cons, ih]
      show (unjoined.filter (· ≠ tid)).filter (· ∉ tids) = _
      rw [filter_filter]
      refine filter_congr fun t _ => ?_
      rw [← Bool.decide_and]
      refine decide_eq_decide.2 ?_
      rw [mem_cons, not_or, and_comm]

theorem modify_append_length {α : Type} {before : List α} {a : α} {f : α → α} :
    (before ++ [a]).modify before.length f = before ++ [f a] := by
  induction before with
  | nil => rfl
  | cons b before ih => exact congrArg (b :: ·) ih

/-- With nothing memorized the gateway is connected again. -/
theorem Gateway.servePending_nil {g : Gateway} (env : Env) (joined : List Act)
    (h : g.memorized_evt = []) :
    g.servePending env joined = some ({ g with mAgState := .connected }, joined) := by
  simp only [Gateway.servePending, h, getLast?_nil]

/-- The only request is served, if the stack is there, and forgotten if it succeeds. -/
theorem Gateway.servePending_singleton {g : Gateway} (env : Env) (joined : List Act)
    {memorized : BtEvent} (h : g.memorized_evt = [memorized])
    (hid : memorized.event_id = .apiDisconnectReq) :
    g.servePending env joined =
      if g.sBtHfpAgInterface then
        some (if env.disconnect then { g with memorized_evt := [] } else g,
          joined ++ [.disconnect memorized.bd_addr env.disconnect])
      else none := by
  simp only [Gateway.servePending, h, getLast?_singleton, hid, if_true,
    dropLast_singleton]

namespace Session

/-- The one request that waits. -/
def Waiting (s : Session) : Prop :=
  ∃ before r event, s.requests = before ++ [r] ∧ s.tickets = [before.length] ∧
    s.gateway.memorized_evt = [event] ∧ event.event_id = .apiDisconnectReq ∧
    event.bd_addr = r.device ∧ r.disconnects = [] ∧ r.nextSession = false

/-- Where everything stands between the events. -/
structure Sound (s : Session) : Prop where
  served : ∀ r ∈ s.requests, r.Served
  waiting : s.gateway.memorized_evt = [] ∧ s.tickets = [] ∨ s.Waiting
  empty : s.gateway.mAgState ≠ .pending → s.gateway.memorized_evt = []
  known : ∀ tid ∈ s.unjoined, s.gateway.record_tid = some tid
  joined : s.gateway.mAgState ≠ .audioOn → s.gateway.mAgState ≠ .pending → s.unjoined = []

variable {s : Session} {env : Env} {event : BtEvent} {g : Gateway} {acts : List Act}

theorem Sound.kept (h : Sound s) : Kept s where
  once r hr := (h.served r hr).length_le
  own r hr _ hd := (h.served r hr).own hd
  empty := h.empty
  joined := h.joined

theorem Sound.new (bluetooth_interface : Bool) : Sound (new bluetooth_interface) where
  served _ h := nomatch h
  waiting := .inl ⟨rfl, rfl⟩
  empty _ := rfl
  known _ h := nomatch h
  joined _ _ := rfl

theorem Sound.tickets (h : Sound s) (hempty : s.gateway.memorized_evt = []) :
    s.tickets = [] := by
  obtain ⟨-, htickets⟩ | ⟨before, r, event, -, -, hmemorized, -⟩ := h.waiting
  · exact htickets
  · rw [hempty] at hmemorized
    cases hmemorized

/-! ## What an event does to the ledger -/

theorem deferred_eq_none (h : event.event_id ≠ .audioStateDisconnectedCb) :
    deferred event acts = none := if_neg h

/-- An event that serves no request and accepts none. -/
theorem Sound.noted (h : Sound s) (hdeferred : deferred event acts = none)
    (haccepts : accepts event s.gateway.mAgState = false)
    (hmemorized : g.memorized_evt = s.gateway.memorized_evt)
    (hconnects : connects event s.gateway.mAgState = true → s.gateway.memorized_evt = [])
    (hempty : g.mAgState ≠ .pending → s.gateway.memorized_evt = [])
    (hknown : ∀ tid ∈ acts.foldl nextUnjoined s.unjoined, g.record_tid = some tid)
    (hjoined : g.mAgState ≠ .audioOn → g.mAgState ≠ .pending →
      acts.foldl nextUnjoined s.unjoined = []) :
    Sound (s.record event g acts) := by
  have hrequests : (s.record event g acts).requests =
      s.requests.map (Request.note event s.gateway.mAgState) := by
    simp only [record, nextRequests, hdeferred, haccepts, Bool.false_eq_true, if_false]
  have htickets : (s.record event g acts).tickets = s.tickets := by
    simp only [record, nextTickets, hdeferred, haccepts, Bool.false_and, Bool.false_eq_true,
      if_false]
  refine {
    served := ?_
    waiting := ?_
    empty := fun hstate => hmemorized.trans (hempty hstate)
    known := hknown
    joined := hjoined }
  · rw [hrequests]
    intro noted hnoted
    obtain ⟨r, hr, rfl⟩ := mem_map.1 hnoted
    exact (h.served r hr).note event _
  · obtain hnone | ⟨before, r, memorized, hbefore, hticket, hevent, hid, haddr, hdone, hnext⟩ :=
      h.waiting
    · exact .inl ⟨hmemorized.trans hnone.1, htickets.trans hnone.2⟩
    · have hnot : connects event s.gateway.mAgState = false := by
        refine eq_false_of_ne_true fun hcontra => ?_
        rw [hconnects hcontra] at hevent
        cases hevent
      refine .inr ⟨before.map (Request.note event s.gateway.mAgState),
        r.note event s.gateway.mAgState, memorized, ?_, ?_, hmemorized.trans hevent, hid, haddr,
        hdone, ?_⟩
      · rw [hrequests, hbefore, map_append]
        rfl
      · rw [htickets, hticket, length_map]
      · show (r.nextSession || connects event s.gateway.mAgState) = false
        rw [hnext, hnot]
        rfl

/-- An event that leaves the threads alone as well. -/
theorem Sound.quiet (h : Sound s) (hevent : event.event_id ≠ .audioStateDisconnectedCb)
    (haccepts : accepts event s.gateway.mAgState = false)
    (hmemorized : g.memorized_evt = s.gateway.memorized_evt)
    (htid : g.record_tid = s.gateway.record_tid)
    (hacts : acts.foldl nextUnjoined s.unjoined = s.unjoined)
    (hconnects : connects event s.gateway.mAgState = true → s.gateway.memorized_evt = [])
    (hempty : g.mAgState ≠ .pending → s.gateway.memorized_evt = [])
    (hjoined : g.mAgState ≠ .audioOn → g.mAgState ≠ .pending → s.unjoined = []) :
    Sound (s.record event g acts) := by
  refine h.noted (deferred_eq_none hevent) haccepts hmemorized hconnects hempty ?_ ?_
  · rw [hacts, htid]
    exact h.known
  · rw [hacts]
    exact hjoined

/-- The threads are joined by the ids that are kept. -/
theorem Sound.joinThreads (h : Sound s) :
    s.gateway.joinThreads.2.foldl nextUnjoined s.unjoined = [] := by
  refine unjoined_joined.trans (filter_eq_nil_iff.2 fun tid htid => ?_)
  have hmem : tid ∈ s.gateway.record_tid.toList ++ s.gateway.playback_tid.toList :=
    mem_append_left _ (Option.mem_toList.2 (h.known tid htid))
  exact fun hnot => of_decide_eq_true hnot hmem

/-! ## Starting and stopping -/

theorem Sound.profileApiStart (h : Sound s) (hevent : event.event_id = .profileApiStart)
    (hcareful : s.Careful env event) :
    Sound (s.record event (s.gateway.handleEnableAg env) []) := by
  have hnot : event.event_id ≠ .audioStateDisconnectedCb := by
    rw [hevent]
    nofun
  have haccepts : accepts event s.gateway.mAgState = false := by
    rw [accepts, hevent]
    rfl
  have hconnects : connects event s.gateway.mAgState = true → s.gateway.memorized_evt = [] := by
    rw [connects, hevent]
    nofun
  have hsettled : s.gateway.bluetooth_interface = true → env.interface = true →
      env.vendor = true → s.Settled := by
    rw [Careful, hevent] at hcareful
    exact hcareful
  unfold Gateway.handleEnableAg
  split
  · rename_i hbluetooth
    split
    · rename_i hinterface
      split
      · rename_i hvendor
        obtain ⟨hmemorized, hunjoined⟩ := hsettled hbluetooth hinterface hvendor
        exact h.quiet hnot haccepts rfl rfl rfl hconnects (fun _ => hmemorized)
          fun _ _ => hunjoined
      · exact h.quiet hnot haccepts rfl rfl rfl hconnects h.empty h.joined
    · exact h.quiet hnot haccepts rfl rfl rfl hconnects h.empty h.joined
  · exact h.quiet hnot haccepts rfl rfl rfl hconnects h.empty h.joined

theorem Sound.profileApiStop (h : Sound s) (hevent : event.event_id = .profileApiStop)
    (hcareful : s.Careful env event) :
    Sound (s.record event s.gateway.handleDisableAg.1 s.gateway.handleDisableAg.2) := by
  have hempty : s.gateway.memorized_evt = [] := by
    rw [Careful, hevent] at hcareful
    exact hcareful
  have hjoined : s.gateway.handleDisableAg.2.foldl nextUnjoined s.unjoined = [] := h.joinThreads
  refine h.noted (deferred_eq_none ?_) ?_ rfl (fun _ => hempty) (fun _ => hempty) ?_
    fun _ _ => hjoined
  · rw [hevent]
    nofun
  · rw [accepts, hevent]
    rfl
  · rw [hjoined]
    nofun

/-! ## The five states -/

/-- Audio is no matter of a gateway without a connection. -/
theorem Sound.stateDisconnectedHandler (h : Sound s) (hstate : s.gateway.mAgState = .disconnected) :
    Sound (s.record event (s.gateway.stateDisconnectedHandler event).1
      (s.gateway.stateDisconnectedHandler event).2) := by
  have haccepts : accepts event s.gateway.mAgState = false := by
    rw [accepts, hstate]
    exact Bool.and_false _
  have hempty : s.gateway.memorized_evt = [] := h.empty (by rw [hstate]; nofun)
  have hunjoined : s.unjoined = [] := h.joined (by rw [hstate]; nofun) (by rw [hstate]; nofun)
  unfold Gateway.stateDisconnectedHandler
  split
  · rename_i hevent
    refine h.quiet (by rw [hevent]; nofun) haccepts rfl rfl ?_ (fun _ => hempty)
      (fun _ => hempty) fun _ _ => hunjoined
    split
    · rfl
    · rfl
  · rename_i hevent
    exact h.quiet (by rw [hevent]; nofun) haccepts rfl rfl rfl (fun _ => hempty)
      (fun _ => hempty) fun _ _ => hunjoined
  · rename_i hevent
    exact h.quiet (by rw [hevent]; nofun) haccepts rfl rfl rfl (fun _ => hempty)
      (fun _ => hempty) fun _ _ => hunjoined
  · refine h.noted ?_ haccepts rfl (fun _ => hempty) (fun _ => hempty) h.known
      fun _ _ => hunjoined
    exact ite_self _

/-- Of the threads of audio none is lost. -/
theorem known_of_started
    (hlost : ∀ tid, env.playback = .started tid → env.record = .failed (some tid)) :
    ∀ tid ∈ (env.playback.acts ++ env.record.acts).foldl nextUnjoined [],
      env.record.tid = some tid := by
  intro tid htid
  cases hplayback : env.playback with
  | started playback =>
      rw [hlost playback hplayback, hplayback] at htid
      rw [hlost playback hplayback]
      obtain rfl := mem_singleton.1 htid
      rfl
  | failed left =>
      rw [hplayback] at htid
      cases hrecord : env.record with
      | started record =>
          rw [hrecord] at htid
          obtain rfl := mem_singleton.1 htid
          rfl
      | failed left =>
          rw [hrecord] at htid
          cases htid

/-- Audio comes up with its threads. -/
theorem Sound.audioUp (h : Sound s) (hstate : s.gateway.mAgState = .connected)
    (hevent : event.event_id = .audioStateConnectedCb) (hcareful : s.Careful env event) :
    Sound (s.record event ({ s.gateway with mAgState := .audioOn }.startThreads env).1
      ({ s.gateway with mAgState := .audioOn }.startThreads env).2) := by
  have hempty : s.gateway.memorized_evt = [] := h.empty (by rw [hstate]; nofun)
  have hunjoined : s.unjoined = [] := h.joined (by rw [hstate]; nofun) (by rw [hstate]; nofun)
  have hnot : event.event_id ≠ .audioStateDisconnectedCb := by
    rw [hevent]
    nofun
  have haccepts : accepts event s.gateway.mAgState = false := by
    rw [accepts, hevent]
    rfl
  rw [Careful, hevent] at hcareful
  unfold Gateway.startThreads
  split
  · rename_i hopened
    refine h.noted (deferred_eq_none hnot) haccepts rfl (fun _ => hempty) (fun _ => hempty) ?_
      fun hcontra => absurd rfl hcontra
    rw [hunjoined]
    exact known_of_started (hcareful hstate hopened)
  · exact h.quiet hnot haccepts rfl rfl rfl (fun _ => hempty) (fun _ => hempty)
      fun _ _ => hunjoined

theorem Sound.stateConnectedHandler (h : Sound s) (hstate : s.gateway.mAgState = .connected)
    (hcareful : s.Careful env event) :
    Sound (s.record event (s.gateway.stateConnectedHandler env event).1
      (s.gateway.stateConnectedHandler env event).2) := by
  have haccepts : accepts event s.gateway.mAgState = false := by
    rw [accepts, hstate]
    exact Bool.and_false _
  have hempty : s.gateway.memorized_evt = [] := h.empty (by rw [hstate]; nofun)
  have hunjoined : s.unjoined = [] := h.joined (by rw [hstate]; nofun) (by rw [hstate]; nofun)
  unfold Gateway.stateConnectedHandler
  split
  · rename_i hevent
    have hnot : event.event_id ≠ .audioStateDisconnectedCb := by
      rw [hevent]
      nofun
    unfold Gateway.disconnectConnected
    split
    · exact h.quiet hnot haccepts rfl rfl rfl (fun _ => hempty) (fun _ => hempty)
        fun _ _ => hunjoined
    · refine h.quiet hnot haccepts rfl rfl ?_ (fun _ => hempty) (fun _ => hempty)
        fun _ _ => hunjoined
      split
      · rfl
      · rfl
  · rename_i hevent
    exact h.quiet (by rw [hevent]; nofun) haccepts rfl rfl rfl (fun _ => hempty)
      (fun _ => hempty) fun _ _ => hunjoined
  · rename_i hevent
    exact h.audioUp hstate hevent hcareful
  · refine h.noted ?_ haccepts rfl (fun _ => hempty) (fun _ => hempty) h.known
      fun _ _ => hunjoined
    exact ite_self _

/-- To join threads serves no request. -/
theorem deferred_joined (tids : List Nat) (after : List Act) :
    deferred event (tids.map .joined ++ after) = deferred event after := by
  unfold deferred
  split
  · rw [findSome?_append]
    have hnone : (tids.map Act.joined).findSome? Act.disconnected = none := by
      refine findSome?_eq_none_iff.2 fun act hact => ?_
      obtain ⟨tid, -, rfl⟩ := mem_map.1 hact
      rfl
    rw [hnone]
    rfl
  · rfl

/-- A request is accepted. -/
theorem Sound.accepted (h : Sound s) (hstate : s.gateway.mAgState = .audioOn)
    (hevent : event.event_id = .apiDisconnectReq) :
    Sound (s.record event (s.gateway.stateAudioOnHandler event).1
      (s.gateway.stateAudioOnHandler event).2) := by
  have haccepts : accepts event s.gateway.mAgState = true := by
    rw [accepts, hevent, hstate]
    rfl
  have hempty : s.gateway.memorized_evt = [] := h.empty (by rw [hstate]; nofun)
  have htickets := h.tickets hempty
  have hdeferred : ∀ acts, deferred event acts = none := fun _ =>
    deferred_eq_none (by rw [hevent]; nofun)
  have hrequests : ∀ g acts, (s.record event g acts).requests =
      s.requests.map (Request.note event s.gateway.mAgState) ++ [.new event.bd_addr] := by
    intro g acts
    simp only [record, nextRequests, hdeferred, haccepts, if_true]
  have hserved : ∀ g acts, ∀ r ∈ (s.record event g acts).requests, r.Served := by
    intro g acts r hr
    rw [hrequests] at hr
    obtain hr | hr := mem_append.1 hr
    · obtain ⟨noted, hnoted, rfl⟩ := mem_map.1 hr
      exact (h.served noted hnoted).note event _
    · obtain rfl := mem_singleton.1 hr
      exact .inl rfl
  by_cases hinterface : s.gateway.sBtHfpAgInterface = true
  · have hhandler : s.gateway.stateAudioOnHandler event =
        ({ s.gateway with
            memorized_evt := s.gateway.memorized_evt ++ [event]
            mAgState := .pending }, [.disconnectAudio event.bd_addr]) := by
      rw [Gateway.stateAudioOnHandler, hevent]
      exact if_pos hinterface
    rw [hhandler]
    refine {
      served := hserved _ _
      waiting := .inr ⟨_, .new event.bd_addr, event, hrequests _ _, ?_, ?_, hevent, rfl, rfl, rfl⟩
      empty := fun hcontra => absurd rfl hcontra
      known := h.known
      joined := fun _ hcontra => absurd rfl hcontra }
    · simp only [record, nextTickets, hdeferred, haccepts, hinterface, Bool.and_self, if_true,
        htickets, nil_append, length_map]
    · show s.gateway.memorized_evt ++ [event] = [event]
      rw [hempty]
      rfl
  · have hhandler : s.gateway.stateAudioOnHandler event =
        ({ s.gateway with mAgState := .pending }, []) := by
      rw [Gateway.stateAudioOnHandler, hevent]
      exact if_neg hinterface
    rw [hhandler]
    refine {
      served := hserved _ _
      waiting := .inl ⟨hempty, ?_⟩
      empty := fun hcontra => absurd rfl hcontra
      known := h.known
      joined := fun _ hcontra => absurd rfl hcontra }
    simp only [record, nextTickets, hdeferred, haccepts, hinterface, Bool.and_false,
      Bool.false_eq_true, if_false, htickets]

theorem Sound.stateAudioOnHandler (h : Sound s) (hstate : s.gateway.mAgState = .audioOn) :
    Sound (s.record event (s.gateway.stateAudioOnHandler event).1
      (s.gateway.stateAudioOnHandler event).2) := by
  have hempty : s.gateway.memorized_evt = [] := h.empty (by rw [hstate]; nofun)
  by_cases hrequest : event.event_id = .apiDisconnectReq
  · exact h.accepted hstate hrequest
  · have haccepts : accepts event s.gateway.mAgState = false := by
      rw [accepts, decide_eq_false hrequest]
      rfl
    unfold Gateway.stateAudioOnHandler
    split
    · rename_i hevent
      exact absurd hevent hrequest
    · rename_i hevent
      refine h.quiet (by rw [hevent]; nofun) haccepts rfl rfl ?_ (fun _ => hempty)
        (fun _ => hempty) h.joined
      split
      · rfl
      · rfl
    · have hjoined : s.gateway.joinThreads.2.foldl nextUnjoined s.unjoined = [] := h.joinThreads
      refine h.noted ?_ haccepts rfl (fun _ => hempty) (fun _ => hempty) ?_ fun _ _ => hjoined
      · refine (congrArg (deferred event) (append_nil _).symm).trans ?_
        exact (deferred_joined _ []).trans (ite_self _)
      · intro tid htid
        have htid' : tid ∈ s.gateway.joinThreads.2.foldl nextUnjoined s.unjoined := htid
        rw [hjoined] at htid'
        cases htid'
    · refine h.noted ?_ haccepts rfl (fun _ => hempty) (fun _ => hempty) h.known h.joined
      exact ite_self _

/-- The request that waited is served, after the end of audio and in its own session. -/
theorem Sound.issued (h : Sound s) (hevent : event.event_id = .audioStateDisconnectedCb)
    {before : List Request} (hrequests : s.requests = before ++ [r])
    (htickets : s.tickets = [before.length]) (hdone : r.disconnects = [])
    (hnext : r.nextSession = false) (hdeferred : deferred event acts = some r.device)
    (hmemorized : g.memorized_evt = []) (hunjoined : acts.foldl nextUnjoined s.unjoined = []) :
    Sound (s.record event g acts) := by
  have hrecord : (s.record event g acts).requests =
      before.map (Request.note event s.gateway.mAgState) ++
        [(r.note event s.gateway.mAgState).issue r.device] := by
    simp only [record, nextRequests, hdeferred, htickets, getLast?_singleton, hrequests,
      map_append, map_cons, map_nil]
    rw [← length_map (Request.note event s.gateway.mAgState)]
    exact modify_append_length
  refine {
    served := ?_
    waiting := .inl ⟨hmemorized, ?_⟩
    empty := fun _ => hmemorized
    known := ?_
    joined := fun _ _ => hunjoined }
  · rw [hrecord]
    intro r' hr'
    obtain hr' | hr' := mem_append.1 hr'
    · obtain ⟨noted, hnoted, rfl⟩ := mem_map.1 hr'
      refine (h.served noted ?_).note event _
      rw [hrequests]
      exact mem_append_left _ hnoted
    · obtain rfl := mem_singleton.1 hr'
      refine .inr ⟨⟨r.device, r.scoDown || event.event_id = .audioStateDisconnectedCb,
        r.nextSession || connects event s.gateway.mAgState⟩, ?_, rfl, ?_, ?_⟩
      · show r.disconnects ++ [_] = _
        rw [hdone]
        rfl
      · show (r.scoDown || decide (event.event_id = .audioStateDisconnectedCb)) = true
        rw [decide_eq_true hevent, Bool.or_true]
      · show (r.nextSession || connects event s.gateway.mAgState) = false
        rw [hnext, connects, hevent]
        rfl
  · simp only [record, nextTickets, hdeferred, htickets, dropLast_singleton]
  · show ∀ tid ∈ acts.foldl nextUnjoined s.unjoined, _
    rw [hunjoined]
    nofun

/-- Audio ends while the gateway is pending. -/
theorem Sound.servePending (h : Sound s) (hstate : s.gateway.mAgState = .pending)
    (hevent : event.event_id = .audioStateDisconnectedCb)
    (hserve : s.gateway.joinThreads.1.servePending env s.gateway.joinThreads.2 =
      some (g, acts)) : Sound (s.record event g acts) := by
  have haccepts : accepts event s.gateway.mAgState = false := by
    rw [accepts, hevent]
    rfl
  have hconnects : connects event s.gateway.mAgState = true → s.gateway.memorized_evt = [] := by
    rw [connects, hevent]
    nofun
  have hjoined := h.joinThreads
  obtain ⟨hempty, -⟩ | ⟨before, r, memorized, hbefore, htickets, hmemorized, hid, haddr, hdone,
    hnext⟩ := h.waiting
  · rw [Gateway.servePending_nil (g := s.gateway.joinThreads.1) env _ hempty] at hserve
    obtain ⟨rfl, rfl⟩ := Prod.mk.inj (Option.some.inj hserve)
    refine h.noted ?_ haccepts rfl hconnects (fun _ => hempty) ?_ fun _ _ => hjoined
    · refine (congrArg (deferred event) (append_nil _).symm).trans ?_
      exact (deferred_joined _ []).trans (ite_self _)
    · rw [hjoined]
      nofun
  · rw [Gateway.servePending_singleton (g := s.gateway.joinThreads.1) env _ hmemorized hid]
      at hserve
    have hfold : ∀ ok, (s.gateway.joinThreads.2 ++ [Act.disconnect memorized.bd_addr ok]).foldl
        nextUnjoined s.unjoined = [] := by
      intro ok
      rw [foldl_append, hjoined]
      rfl
    split at hserve
    · obtain ⟨rfl, rfl⟩ := Prod.mk.inj (Option.some.inj hserve)
      cases hdisconnect : env.disconnect with
      | false =>
          refine h.noted ?_ haccepts rfl hconnects (fun hcontra => absurd hstate hcontra) ?_
            fun _ _ => hfold false
          · exact (deferred_joined _ _).trans (ite_self _)
          · rw [hfold false]
            nofun
      | true =>
          refine h.issued hevent hbefore htickets hdone hnext ?_ ?_ (hfold true)
          · refine (deferred_joined _ _).trans ((if_pos hevent).trans ?_)
            exact congrArg some haddr
          · rfl
    · cases hserve

theorem Sound.statePendingHandler (h : Sound s) (hstate : s.gateway.mAgState = .pending)
    (hcareful : s.Careful env event)
    (hhandler : s.gateway.statePendingHandler env event = some (g, acts)) :
    Sound (s.record event g acts) := by
  have haccepts : accepts event s.gateway.mAgState = false := by
    rw [accepts, hstate]
    exact Bool.and_false _
  unfold Gateway.statePendingHandler at hhandler
  split at hhandler
  · rename_i hevent
    obtain ⟨rfl, rfl⟩ := Prod.mk.inj (Option.some.inj hhandler)
    rw [Careful, hevent] at hcareful
    obtain ⟨hempty, hunjoined⟩ := hcareful hstate
    exact h.quiet (by rw [hevent]; nofun) haccepts rfl rfl rfl (fun _ => hempty)
      (fun _ => hempty) fun _ _ => hunjoined
  · rename_i hevent
    obtain ⟨rfl, rfl⟩ := Prod.mk.inj (Option.some.inj hhandler)
    rw [Careful, hevent] at hcareful
    obtain ⟨hempty, hunjoined⟩ := hcareful hstate
    exact h.quiet (by rw [hevent]; nofun) haccepts rfl rfl rfl (fun _ => hempty)
      (fun _ => hempty) fun _ _ => hunjoined
  · rename_i hevent
    exact h.servePending hstate hevent hhandler
  · rename_i hconnected _ _
    obtain ⟨rfl, rfl⟩ := Prod.mk.inj (Option.some.inj hhandler)
    refine h.noted (ite_self _) haccepts rfl ?_ h.empty h.known h.joined
    intro hconnects
    rw [connects, decide_eq_false hconnected] at hconnects
    cases hconnects

/-! ## Runs -/

theorem Sound.processEvent (h : Sound s) (hcareful : s.Careful env event)
    (hprocess : s.gateway.processEvent env event = some (g, acts)) :
    Sound (s.record event g acts) := by
  cases hstate : s.gateway.mAgState with
  | notStarted =>
      rw [Gateway.processEvent, hstate] at hprocess
      obtain ⟨rfl, rfl⟩ := Prod.mk.inj (Option.some.inj hprocess)
      have hempty : s.gateway.memorized_evt = [] := h.empty (by rw [hstate]; nofun)
      refine h.noted (ite_self _) ?_ rfl (fun _ => hempty) h.empty h.known h.joined
      rw [accepts, hstate]
      exact Bool.and_false _
  | disconnected =>
      rw [Gateway.processEvent, hstate] at hprocess
      obtain ⟨rfl, rfl⟩ := Prod.mk.inj (Option.some.inj hprocess)
      exact h.stateDisconnectedHandler hstate
  | pending =>
      rw [Gateway.processEvent, hstate] at hprocess
      exact h.statePendingHandler hstate hcareful hprocess
  | connected =>
      rw [Gateway.processEvent, hstate] at hprocess
      obtain ⟨rfl, rfl⟩ := Prod.mk.inj (Option.some.inj hprocess)
      exact h.stateConnectedHandler hstate hcareful
  | audioOn =>
      rw [Gateway.processEvent, hstate] at hprocess
      obtain ⟨rfl, rfl⟩ := Prod.mk.inj (Option.some.inj hprocess)
      exact h.stateAudioOnHandler hstate

theorem Sound.take (h : Sound s) (hcareful : s.Careful env event) {s' : Session}
    (htake : s.take env event = some s') : Sound s' := by
  obtain ⟨⟨g, acts⟩, hhandler, rfl⟩ := Option.map_eq_some_iff.1 htake
  unfold Gateway.msgHandler at hhandler
  split at hhandler
  · rename_i hevent
    obtain ⟨rfl, rfl⟩ := Prod.mk.inj (Option.some.inj hhandler)
    exact h.profileApiStart hevent hcareful
  · rename_i hevent
    obtain ⟨rfl, rfl⟩ := Prod.mk.inj (Option.some.inj hhandler)
    exact h.profileApiStop hevent hcareful
  · exact h.processEvent hcareful hhandler

theorem Reaches.sound {bluetooth_interface : Bool} (h : Reaches bluetooth_interface s) :
    Sound s := by
  induction h with
  | new => exact Sound.new bluetooth_interface
  | take _ _ _ hcareful htake ih => exact ih.take hcareful htake

end Session

end HfpAg
