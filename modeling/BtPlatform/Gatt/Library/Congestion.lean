import BtPlatform.Program.Log

/-!
# Congestion

Completions of writes and notifications wait in a queue of the application while it is
congested. One flag and one queue serve all its connections, whose number does not change
here. What happens while the application is in a callback is left open: the service may be
called again from there, and goes on with the interrupted work afterwards.
-/

namespace Gatt.Congestion

open Program List

def GATT_SUCCESS : Int := 0
def GATT_CONNECTION_CONGESTED : Int := 0x8f

/-- A device address, which is no empty text. -/
abbrev Address : Type := { address : String // address ≠ "" }

/-- `CallbackInfo`. A notification has no handle. -/
structure CallbackInfo where
  address : Address
  status : Int
  handle : Option Int
  deriving DecidableEq

/-- A callback with the connection it is about, and the number of the completion it is for. -/
structure Entry where
  connId : Int
  serial : Nat
  info : CallbackInfo
  deriving DecidableEq

/-- A completion: how many there were before it, what the stack reported, and whether it had to
wait. -/
structure Arrival where
  connId : Int
  serial : Nat
  address : Address
  status : Int
  handle : Option Int
  waits : Bool
  deriving DecidableEq

/-- The callback a completion should lead to. One that waited is no longer congested when it is
reported. -/
def Arrival.entry (a : Arrival) : Entry where
  connId := a.connId
  serial := a.serial
  info :=
    { address := a.address
      status := if a.waits ∧ a.status = GATT_CONNECTION_CONGESTED then GATT_SUCCESS else a.status
      handle := a.handle }

/-- What the stack reports: the end of a write with a handle or of a notification, or that a
connection is congested or no longer so. -/
inductive Event
  | completed (connId status : Int) (handle : Option Int)
  | congestion (connId : Int) (congested : Bool)
  deriving DecidableEq

/-- What the service still has to do: an event, or the rest of a loop over the queue. -/
inductive Task
  | event (event : Event)
  | drain
  deriving DecidableEq

/-- The application with its flag and queue, and what the service has to do. Beside them: the
completions and callbacks so far, a callback with whether its connection was reported
congested at the time, and the last report on every connection. -/
structure State where
  isCongested : Bool
  mCongestionQueue : List Entry
  tasks : List Task
  arrived : List Arrival
  delivered : List (Entry × Bool)
  congested : Int → Bool

def State.start : State := ⟨false, [], [], [], [], fun _ => false⟩

namespace State

/-- The address of a connection of the application: `addressByConnId` and `getByConnId`. -/
abbrev Connections : Type := Int → Option Address

/-- The callback, in which `during` happens. -/
def callback (s : State) (e : Entry) (during : List Event) : State :=
  { s with
    delivered := s.delivered ++ [(e, s.congested e.connId)]
    tasks := during.map .event ++ s.tasks }

def queueCallback (s : State) (e : Entry) : State :=
  { s with mCongestionQueue := s.mCongestionQueue ++ [e] }

/-- The body of `onWriteCharacteristic` and `onNotificationSent`. -/
def completed (connections : Connections) (s : State) (connId status : Int) (handle : Option Int)
    (during : List Event) : State :=
  match connections connId with
  | none => s
  | some address =>
      let serial := s.arrived.length
      let arrival : Arrival := ⟨connId, serial, address, status, handle, s.isCongested⟩
      let s := { s with arrived := s.arrived ++ [arrival] }
      if !s.isCongested then
        s.callback ⟨connId, serial, ⟨address, status, handle⟩⟩ during
      else
        let status := if status = GATT_CONNECTION_CONGESTED then GATT_SUCCESS else status
        s.queueCallback ⟨connId, serial, ⟨address, status, handle⟩⟩

def onWriteCharacteristic (connections : Connections) (s : State) (connId status handle : Int)
    (during : List Event) : State := s.completed connections connId status (some handle) during

def onNotificationSent (connections : Connections) (s : State) (connId status : Int)
    (during : List Event) : State := s.completed connections connId status none during

/-- `onClientCongestion` and `onServerCongestion` up to their loop. -/
def onCongestion (connections : Connections) (s : State) (connId : Int) (congested : Bool) :
    State :=
  match connections connId with
  | none => s
  | some _ =>
      { s with
        isCongested := congested
        congested := fun c => if c = connId then congested else s.congested c
        tasks := .drain :: s.tasks }

/-- One turn of the loop over the queue, with `popQueuedCallback`. -/
def drain (s : State) (during : List Event) : State :=
  if s.isCongested then s
  else
    match s.mCongestionQueue with
    | [] => s
    | e :: queue =>
        { s with mCongestionQueue := queue, tasks := .drain :: s.tasks }.callback e during

/-- The next piece of work, or new events if there is none. -/
def step (connections : Connections) (s : State) (during : List Event) : State :=
  match s.tasks with
  | [] => { s with tasks := during.map .event }
  | .event (.completed connId status (some handle)) :: tasks =>
      { s with tasks := tasks }.onWriteCharacteristic connections connId status handle during
  | .event (.completed connId status none) :: tasks =>
      { s with tasks := tasks }.onNotificationSent connections connId status during
  | .event (.congestion connId congested) :: tasks =>
      { s with tasks := tasks }.onCongestion connections connId congested
  | .drain :: tasks => { s with tasks := tasks }.drain during

/-- A run: the events of one step after the other. -/
def run (connections : Connections) (inputs : List (List Event)) : State :=
  inputs.foldl (step connections) .start

/-! ## What is expected -/

/-- Every completion has its one callback or waits for it, in the order of arrival on each
connection. -/
def InOrder (s : State) : Prop :=
  ∀ connId, (s.delivered.map Prod.fst ++ s.mCongestionQueue).filter (fun e => e.connId = connId) =
    (s.arrived.map Arrival.entry).filter fun e => e.connId = connId

/-- No callback was made for a connection reported congested. -/
def Held (s : State) : Prop := ∀ d ∈ s.delivered, d.2 = false

/-- Moreover nothing waits once nothing is left to do and no connection is reported
congested. -/
structure Exact (s : State) : Prop where
  inOrder : s.InOrder
  held : s.Held
  settled : s.tasks = [] → (∀ connId, s.congested connId = false) → s.mCongestionQueue = []

/-- While the flag is off, no completion arrives on a connection that is reported congested
or has another one in the queue, and none is taken out of the queue for a connection that is
reported congested. -/
def Careful (connections : Connections) (s : State) : Prop :=
  s.isCongested = false →
    match s.tasks with
    | .event (.completed connId _ _) :: _ => (connections connId).isSome →
        s.congested connId = false ∧ ∀ e ∈ s.mCongestionQueue, e.connId ≠ connId
    | .drain :: _ => ∀ e ∈ s.mCongestionQueue.head?, s.congested e.connId = false
    | _ => True

/-! ## What holds in every run -/

variable {connections : Connections} {s : State} {connId status : Int} {handle : Option Int}
  {during : List Event}

theorem completed_none (h : connections connId = none) :
    s.completed connections connId status handle during = s := by
  simp only [completed, h]

/-- The completion as it is noted. -/
abbrev arrival (s : State) (connId : Int) (address : Address) (status : Int)
    (handle : Option Int) : Arrival :=
  ⟨connId, s.arrived.length, address, status, handle, s.isCongested⟩

variable {address : Address}

theorem entry_arrival_free (hflag : s.isCongested = false) :
    (s.arrival connId address status handle).entry =
      ⟨connId, s.arrived.length, ⟨address, status, handle⟩⟩ := by
  simp [Arrival.entry, hflag]

theorem entry_arrival_waits (hflag : s.isCongested = true) :
    (s.arrival connId address status handle).entry =
      ⟨connId, s.arrived.length,
        ⟨address, if status = GATT_CONNECTION_CONGESTED then GATT_SUCCESS else status,
          handle⟩⟩ := by
  simp [Arrival.entry, hflag]

/-- With the flag off a completion is reported at once. -/
theorem completed_free (h : connections connId = some address) (hflag : s.isCongested = false) :
    s.completed connections connId status handle during =
      { s with
        arrived := s.arrived ++ [s.arrival connId address status handle]
        delivered := s.delivered ++
          [((s.arrival connId address status handle).entry, s.congested connId)]
        tasks := during.map .event ++ s.tasks } := by
  rw [entry_arrival_free hflag]
  simp [completed, h, hflag, callback]

/-- With the flag on it goes into the queue. -/
theorem completed_waits (h : connections connId = some address) (hflag : s.isCongested = true) :
    s.completed connections connId status handle during =
      { s with
        arrived := s.arrived ++ [s.arrival connId address status handle]
        mCongestionQueue :=
          s.mCongestionQueue ++ [(s.arrival connId address status handle).entry] } := by
  rw [entry_arrival_waits hflag]
  simp [completed, h, hflag, queueCallback]

/-- Callbacks can wait only while the flag is on or the loop over the queue goes on, the flag
is on only after a report that was not taken back, and the numbers tell a new completion from
the earlier ones. -/
structure Sound (s : State) : Prop where
  drains : s.isCongested = false → s.mCongestionQueue ≠ [] → .drain ∈ s.tasks
  flagged : s.isCongested = true → ∃ connId, s.congested connId = true
  numbered : ∀ a ∈ s.arrived, a.serial < s.arrived.length

theorem sound_start : Sound .start where
  drains := fun _ h => absurd rfl h
  flagged := fun h => by cases h
  numbered := fun a ha => by cases ha

theorem Sound.settled (h : Sound s) (hdone : s.tasks = [])
    (hfree : ∀ connId, s.congested connId = false) : s.mCongestionQueue = [] := by
  by_contra hqueue
  cases hflag : s.isCongested with
  | false =>
      have hdrain := h.drains hflag hqueue
      rw [hdone] at hdrain
      cases hdrain
  | true =>
      obtain ⟨connId, hon⟩ := h.flagged hflag
      rw [hfree connId] at hon
      cases hon

theorem numbered_append (h : ∀ a ∈ s.arrived, a.serial < s.arrived.length) {a : Arrival}
    (ha : a.serial = s.arrived.length) :
    ∀ b ∈ s.arrived ++ [a], b.serial < (s.arrived ++ [a]).length := by
  intro b hb
  rw [length_append, length_singleton]
  rcases mem_append.1 hb with hb | hb
  · exact Nat.lt_succ_of_lt (h b hb)
  · obtain rfl := mem_singleton.1 hb
    omega

theorem sound_completed (h : Sound s) :
    Sound (s.completed connections connId status handle during) := by
  cases haddress : connections connId with
  | none =>
      rw [completed_none haddress]
      exact h
  | some address =>
      cases hflag : s.isCongested with
      | false =>
          rw [completed_free haddress hflag]
          refine ⟨fun _ hqueue => ?_, fun hon => h.flagged hon, numbered_append h.numbered rfl⟩
          exact mem_append_right _ (h.drains hflag hqueue)
      | true =>
          rw [completed_waits haddress hflag]
          refine ⟨fun hoff => ?_, fun _ => h.flagged hflag, numbered_append h.numbered rfl⟩
          exact absurd (hflag.symm.trans hoff) (by decide)

theorem sound_onCongestion {congested : Bool} (h : Sound s) :
    Sound (s.onCongestion connections connId congested) := by
  unfold onCongestion
  split
  · exact h
  · refine ⟨fun _ _ => mem_cons_self, fun hon => ⟨connId, ?_⟩, h.numbered⟩
    exact (if_pos rfl).trans hon

/-- Before the loop goes on nothing is known about the queue. -/
theorem sound_drain (hflagged : s.isCongested = true → ∃ connId, s.congested connId = true)
    (hnumbered : ∀ a ∈ s.arrived, a.serial < s.arrived.length) : Sound (s.drain during) := by
  unfold drain
  split
  · rename_i hon
    exact ⟨fun hoff => absurd (hon.symm.trans hoff) (by decide), hflagged, hnumbered⟩
  · split
    · rename_i hqueue
      exact ⟨fun _ h => absurd hqueue h, hflagged, hnumbered⟩
    · exact ⟨fun _ _ => mem_append_right _ mem_cons_self, hflagged, hnumbered⟩

/-- The state without its next task, when that is an event. -/
theorem Sound.of_event (h : Sound s) {event : Event} {tasks : List Task}
    (htasks : s.tasks = .event event :: tasks) : Sound { s with tasks := tasks } where
  drains := fun hoff hqueue => by
    have hdrain := h.drains hoff hqueue
    rw [htasks] at hdrain
    exact (mem_cons.1 hdrain).resolve_left (by rintro ⟨⟩)
  flagged := h.flagged
  numbered := h.numbered

theorem sound_step (h : Sound s) : Sound (step connections s during) := by
  unfold step
  split
  · rename_i htasks
    refine ⟨fun hoff hqueue => ?_, h.flagged, h.numbered⟩
    have hdrain := h.drains hoff hqueue
    rw [htasks] at hdrain
    cases hdrain
  · rename_i htasks
    exact sound_completed (h.of_event htasks)
  · rename_i htasks
    exact sound_completed (h.of_event htasks)
  · rename_i htasks
    exact sound_onCongestion (h.of_event htasks)
  · exact sound_drain h.flagged h.numbered

theorem sound_run (inputs : List (List Event)) : Sound (run connections inputs) := by
  induction inputs using reverseRecOn with
  | nil => exact sound_start
  | append_singleton inputs during ih =>
      unfold run
      rw [foldl_append]
      exact sound_step ih

/-! ## When a step keeps what is expected -/

/-- A callback made ahead of the queue keeps the order exactly if none of its connection is in
the queue. -/
theorem forall_filter_ahead {D Q A : List Entry} {e : Entry} (hnew : e ∉ Q)
    (h : ∀ connId, (D ++ Q).filter (fun e => e.connId = connId) =
      A.filter fun e => e.connId = connId) :
    (∀ connId, (D ++ [e] ++ Q).filter (fun e => e.connId = connId) =
      (A ++ [e]).filter fun e => e.connId = connId) ↔ ∀ q ∈ Q, q.connId ≠ e.connId := by
  have hcancel : ∀ connId, ((D ++ [e] ++ Q).filter (fun e => e.connId = connId) =
      (A ++ [e]).filter fun e => e.connId = connId) ↔
      ([e] ++ Q).filter (fun e => e.connId = connId) =
        (Q ++ [e]).filter fun e => e.connId = connId := by
    intro connId
    rw [filter_append A, ← h connId, ← filter_append, append_assoc,
      append_assoc, filter_append D, filter_append D]
    exact append_right_inj _
  constructor
  · intro hall q hq hsame
    have hswap := (hcancel e.connId).1 (hall e.connId)
    have hself : [e].filter (fun q => q.connId = e.connId) = [e] :=
      filter_cons_of_pos (decide_eq_true rfl)
    rw [filter_append, filter_append, hself] at hswap
    have hmem : q ∈ Q.filter fun q => q.connId = e.connId :=
      mem_filter.2 ⟨hq, decide_eq_true hsame⟩
    cases hfirst : Q.filter fun q => q.connId = e.connId with
    | nil =>
        rw [hfirst] at hmem
        cases hmem
    | cons first rest =>
        rw [hfirst] at hswap
        obtain ⟨rfl, -⟩ := cons.inj hswap
        have hin : e ∈ Q.filter fun q => q.connId = e.connId := by
          rw [hfirst]
          exact mem_cons_self
        exact hnew (mem_filter.1 hin).1
  · intro hother connId
    apply (hcancel connId).2
    rw [filter_append, filter_append]
    by_cases hsame : e.connId = connId
    · have hnone : Q.filter (fun q => q.connId = connId) = [] := by
        apply filter_eq_nil_iff.2
        intro q hq hc
        exact hother q hq ((of_decide_eq_true hc).trans hsame.symm)
      rw [hnone]
      exact append_nil _
    · have hnone : [e].filter (fun q => q.connId = connId) = [] :=
        filter_cons_of_neg fun hc => hsame (of_decide_eq_true hc)
      rw [hnone]
      exact (append_nil _).symm

/-- What waits in the queue arrived before. -/
theorem arrival_notMem (h : Sound s) (horder : s.InOrder) :
    (s.arrival connId address status handle).entry ∉ s.mCongestionQueue := by
  intro hmem
  have hin : (s.arrival connId address status handle).entry ∈
      (s.arrived.map Arrival.entry).filter fun e => e.connId = connId := by
    rw [← horder connId]
    exact mem_filter.2 ⟨mem_append_right _ hmem, decide_eq_true rfl⟩
  obtain ⟨a, ha, heq⟩ := mem_map.1 (mem_filter.1 hin).1
  have hlt := h.numbered a ha
  have hserial : a.serial = s.arrived.length := congrArg Entry.serial heq
  omega

theorem held_append {d : Entry × Bool} (h : s.Held) :
    (∀ d' ∈ s.delivered ++ [d], d'.2 = false) ↔ d.2 = false := by
  constructor
  · intro hall
    exact hall d (mem_append_right _ (mem_singleton_self d))
  · intro hd d' hd'
    rcases mem_append.1 hd' with hd' | hd'
    · exact h d' hd'
    · obtain rfl := mem_singleton.1 hd'
      exact hd

/-- The order and the holding back after a completion. -/
theorem kept_completed (h : Sound s) (horder : s.InOrder) (hheld : s.Held) :
    (InOrder (s.completed connections connId status handle during) ∧
      Held (s.completed connections connId status handle during)) ↔
      (s.isCongested = false → (connections connId).isSome →
        s.congested connId = false ∧ ∀ e ∈ s.mCongestionQueue, e.connId ≠ connId) := by
  cases haddress : connections connId with
  | none =>
      rw [completed_none haddress]
      exact iff_of_true ⟨horder, hheld⟩ fun _ h => by cases h
  | some address =>
      cases hflag : s.isCongested with
      | false =>
          rw [completed_free haddress hflag]
          have hahead := forall_filter_ahead
            (e := (s.arrival connId address status handle).entry)
            (arrival_notMem h horder) horder
          have hnext := held_append
            (d := ((s.arrival connId address status handle).entry, s.congested connId)) hheld
          constructor
          · rintro ⟨horder', hheld'⟩ _ _
            refine ⟨hnext.1 hheld', hahead.1 ?_⟩
            intro c
            have hc := horder' c
            rw [map_append, map_append] at hc
            exact hc
          · intro hcareful
            obtain ⟨hfree, hother⟩ := hcareful rfl rfl
            refine ⟨?_, hnext.2 hfree⟩
            intro c
            rw [map_append, map_append]
            exact hahead.2 hother c
      | true =>
          rw [completed_waits haddress hflag]
          refine iff_of_true ⟨?_, hheld⟩ fun hoff => by cases hoff
          intro c
          rw [← append_assoc, filter_append, horder c, map_append,
            filter_append]
          rfl

/-- The order and the holding back after one turn of the loop. -/
theorem kept_drain (horder : s.InOrder) (hheld : s.Held) :
    (InOrder (s.drain during) ∧ Held (s.drain during)) ↔
      (s.isCongested = false → ∀ e ∈ s.mCongestionQueue.head?, s.congested e.connId = false) := by
  unfold drain
  split
  · rename_i hon
    exact iff_of_true ⟨horder, hheld⟩ fun hoff => absurd (hon.symm.trans hoff) (by decide)
  · rename_i hoff
    split
    · rename_i hqueue
      rw [hqueue]
      exact iff_of_true ⟨horder, hheld⟩ fun _ e he => by cases he
    · rename_i e queue hqueue
      rw [hqueue]
      have hnext := held_append (d := (e, s.congested e.connId)) hheld
      constructor
      · rintro ⟨_, hheld'⟩ _ e' he'
        obtain rfl := Option.some.inj he'
        exact hnext.1 hheld'
      · intro hcareful
        refine ⟨fun c => ?_, hnext.2 (hcareful (Bool.not_eq_true _ ▸ hoff) e rfl)⟩
        have hc := horder c
        rw [hqueue, append_cons] at hc
        exact (congrArg (fun l => (l ++ queue).filter _) map_append).trans hc

/-- What is expected is the order and the holding back: the rest holds in every run. -/
theorem Sound.exact_iff (h : Sound s) : Exact s ↔ s.InOrder ∧ s.Held :=
  ⟨fun hexact => ⟨hexact.inOrder, hexact.held⟩, fun ⟨horder, hheld⟩ => ⟨horder, hheld, h.settled⟩⟩

theorem kept_onCongestion {congested : Bool} (horder : s.InOrder) (hheld : s.Held) :
    InOrder (s.onCongestion connections connId congested) ∧
      Held (s.onCongestion connections connId congested) := by
  unfold onCongestion
  split
  · exact ⟨horder, hheld⟩
  · exact ⟨horder, hheld⟩

/-- A step keeps what is expected exactly if it is careful. -/
theorem exact_step (h : Sound s) (hexact : Exact s) :
    Exact (step connections s during) ↔ Careful connections s := by
  obtain ⟨horder, hheld, _⟩ := hexact
  rw [(sound_step h).exact_iff]
  unfold step Careful
  split
  · rename_i htasks
    rw [htasks]
    exact iff_of_true ⟨horder, hheld⟩ fun _ => trivial
  · rename_i htasks
    rw [htasks]
    exact kept_completed (h.of_event htasks) horder hheld
  · rename_i htasks
    rw [htasks]
    exact kept_completed (h.of_event htasks) horder hheld
  · rename_i tasks htasks
    rw [htasks]
    exact iff_of_true (kept_onCongestion (s := { s with tasks := tasks }) horder hheld)
      fun _ => trivial
  · rename_i tasks htasks
    rw [htasks]
    exact kept_drain (s := { s with tasks := tasks }) horder hheld

/-- In every run completions are neither lost nor overtaken nor reported too early, as long as
every step is careful, and only then. -/
theorem congestion_exact_iff (connections : Connections) (inputs : List (List Event)) :
    (∀ before, before <+: inputs → Exact (run connections before)) ↔
      AtEach (fun before _ => Careful connections (run connections before)) inputs := by
  apply forall_prefix_iff_atEach (E := Exact) (C := fun s _ => Careful connections s)
  · exact ⟨fun _ => rfl, fun d hd => (by cases hd), fun _ _ => rfl⟩
  · intro before during hexact
    exact exact_step (sound_run before) hexact

/-- Two connections: a completion of the first waits because the first is congested, and is
reported when the second one no longer is. -/
theorem other_connection_releases :
    ∃ (connections : Connections) (inputs : List (List Event)),
      ¬ Exact (run connections inputs) := by
  refine ⟨fun connId => if connId = 1 ∨ connId = 2 then some ⟨"00:11:22:33:44:55", by decide⟩
    else none, [[.congestion 1 true, .completed 1 0 (some 7), .congestion 2 false],
    [], [], [], [], []], ?_⟩
  intro hexact
  have hheld := hexact.held (⟨1, 0, ⟨"00:11:22:33:44:55", by decide⟩, 0, some 7⟩, true)
    mem_cons_self
  cases hheld

end State

end Gatt.Congestion
