import BtPlatform.Pbap.Audit

/-!
# A request on its way

As long as everything goes smoothly, the client waits for exactly one thing on behalf of
the request outstanding: the response to a SETPATH or to a GET, the confirmation of an
open or of a write, or the deferred close. Each function of the client that one of
these sets off leaves it waiting for one again.
-/

namespace Pbap

open Support Program Prog Repository Phonebook List

/-! ## What the client waits for -/

/-- The surroundings: there is memory, and the application never refuses an open or a
write. -/
structure Kind (s : Session) : Prop where
  memory : ∀ room ∈ s.memory.blocks, room = true
  answers : ∀ answer ∈ s.answers, answer.status.success = true

/-- The request `t` is being served. -/
structure Busy (s : Session) (a : Audit) (t : Ticket) : Prop where
  audit : audit s.history = some a
  kind : Kind s
  attached : s.attached = true
  connected : s.client.disconnected = false
  ticket : s.client.req.cb = some t
  state : s.client.state = .pullingPhonebookSize ∨ s.client.state.pullsFile = true
  file : a.file = if s.client.fileOpen then some s.client.fh else none

/-- No close is registered, and no confirmation is pending. -/
structure Free (s : Session) (a : Audit) (t : Ticket) : Prop extends Busy s a t where
  unwritten : a.unwritten = []
  tasks : s.tasks = []
  pending : s.client.fileOpCfmPending = false
  opening : a.opening = false
  unconfirmed : a.unconfirmed = none

/-- A response is going to come. -/
def ObexOp.awaits : ObexOp → Bool
  | .settingPath _ | .aborting _ => true
  | .getting busy srm flow _ => busy || (srm && flow)
  | _ => false

/-- An open is pending. -/
structure Opening (s : Session) (a : Audit) (t : Ticket) : Prop extends Busy s a t where
  unwritten : a.unwritten = []
  obex : s.obex = .idle
  tasks : s.tasks = []
  pending : s.client.fileOpCfmPending = true
  pulls : s.client.state.pullsFile = true
  closed : s.client.fileOpen = false
  unconfirmed : a.unconfirmed = none

/-- A write is pending. -/
structure Writing (s : Session) (a : Audit) (t : Ticket) : Prop extends Busy s a t where
  unwritten : a.unwritten = []
  obex : ∃ srm flow, s.obex = .getting false srm flow none
  quiet : s.obex.awaits = false
  tasks : s.tasks = []
  pending : s.client.fileOpCfmPending = true
  pulls : s.client.state.pullsFile = true
  opened : s.client.fileOpen = true
  opening : a.opening = false
  more : s.client.final = false

/-- What the client waits for. -/
inductive Waits (s : Session) (a : Audit) (t : Ticket) : Prop
  | settingPath (h : Free s a t) (obex : ∃ request, s.obex = .settingPath request)
      (done : s.client.setPathDone = some .pbapSetPathDone) (closed : s.client.fileOpen = false)
  | opening (h : Opening s a t) (opening : a.opening = true)
  | getting (h : Free s a t) (obex : ∃ busy srm flow, s.obex = .getting busy srm flow none)
      (awaits : s.obex.awaits = true)
      (opened : s.client.state.pullsFile = true → s.client.fileOpen = true)
  | writing (h : Writing s a t) (unconfirmed : a.unconfirmed.isSome = true)
  | closing (h : Busy s a t) (info : CloseInfo) (tasks : s.tasks = [info])
      (owner : info.owner = some t) (obex : s.obex = .idle)
      (pending : s.client.fileOpCfmPending = false) (opening : a.opening = false)
      (unwritten : a.unwritten = []) (unconfirmed : a.unconfirmed = none)

/-- The client waits on behalf of the request, and `outstanding` is as before. -/
def Goes (s : Session) (t : Ticket) (outstanding : Option Ticket) : Prop :=
  ∃ a, a.outstanding = outstanding ∧ Waits s a t

/-! ## Changes that do not matter -/

/-- Nothing that matters to the request has changed. -/
structure Plain (s s' : Session) : Prop where
  audit : Pbap.audit s'.history = Pbap.audit s.history
  memory : s'.memory = s.memory
  answers : s'.answers = s.answers
  attached : s'.attached = s.attached
  obex : s'.obex = s.obex
  tasks : s'.tasks = s.tasks
  disconnected : s'.client.disconnected = s.client.disconnected
  ticket : s'.client.req.cb = s.client.req.cb
  state : s'.client.state = s.client.state
  fileOpen : s'.client.fileOpen = s.client.fileOpen
  handle : s'.client.fh = s.client.fh
  pending : s'.client.fileOpCfmPending = s.client.fileOpCfmPending
  done : s'.client.setPathDone = s.client.setPathDone

section Plain

variable {s s' : Session} {a : Audit} {t : Ticket}

theorem Busy.plain (h : Busy s a t) (hp : Plain s s') : Busy s' a t where
  audit := hp.audit.trans h.audit
  kind := ⟨hp.memory ▸ h.kind.memory, hp.answers ▸ h.kind.answers⟩
  attached := hp.attached.trans h.attached
  connected := hp.disconnected.trans h.connected
  ticket := hp.ticket.trans h.ticket
  state := by
    rw [hp.state]
    exact h.state
  file := by
    rw [hp.fileOpen, hp.handle]
    exact h.file

theorem Free.plain (h : Free s a t) (hp : Plain s s') : Free s' a t := { h with
  toBusy := h.toBusy.plain hp
  tasks := hp.tasks.trans h.tasks
  pending := hp.pending.trans h.pending }

/-- What matters of the client record. -/
def Client.vital (c : Client) :=
  (c.disconnected, c.req.cb, c.state, c.fileOpen, c.fh, c.fileOpCfmPending, c.setPathDone)

/-- A change of the client record that does not matter. -/
theorem setClient_plain {f : Client → Client} {u : Unit} (h : Ends (Cli.setClient f) s u s')
    (hvital : ∀ c, (f c).vital = c.vital) : Plain s s' := by
  obtain rfl := ends_update.1 h
  have hsame := hvital s.client
  simp only [Client.vital, Prod.mk.injEq] at hsame
  obtain ⟨hdisconnected, hticket, hstate, hfileOpen, hhandle, hpending, hdone⟩ := hsame
  exact ⟨rfl, rfl, rfl, rfl, rfl, rfl, hdisconnected, hticket, hstate, hfileOpen, hhandle,
    hpending, hdone⟩

/-- An act that does not matter. -/
theorem record_plain {act : Act} {u : Unit} (h : Ends (Cli.record act) s u s')
    (hact : ∀ a : Audit, a.step act = some a) : Plain s s' := by
  obtain rfl := ends_update.1 h
  refine ⟨?_, rfl, rfl, rfl, rfl, rfl, rfl, rfl, rfl, rfl, rfl, rfl, rfl⟩
  refine (audit_append ..).trans ?_
  cases audit s.history with
  | none => rfl
  | some a => exact hact a

theorem Plain.trans {s'' : Session} (h : Plain s s') (h' : Plain s' s'') : Plain s s'' where
  audit := h'.audit.trans h.audit
  memory := h'.memory.trans h.memory
  answers := h'.answers.trans h.answers
  attached := h'.attached.trans h.attached
  obex := h'.obex.trans h.obex
  tasks := h'.tasks.trans h.tasks
  disconnected := h'.disconnected.trans h.disconnected
  ticket := h'.ticket.trans h.ticket
  state := h'.state.trans h.state
  fileOpen := h'.fileOpen.trans h.fileOpen
  handle := h'.handle.trans h.handle
  pending := h'.pending.trans h.pending
  done := h'.done.trans h.done

/-- The client is found. -/
theorem pbapClient_found {c : Option Client} (h : Ends Cli.pbapClient s c s')
    (hs : s.attached = true) : c = some s.client ∧ s' = s := by
  unfold Cli.pbapClient at h
  replace h := ends_bind_state.1 h
  rw [if_neg (show ¬ s.attached = false by simp [hs])] at h
  split at h
  · exact absurd h ends_fault
  · exact ends_pure.1 h

end Plain

/-! ## The functions of the client -/

section Functions

variable {s s' : Session} {a : Audit} {t : Ticket}

theorem takeBlock_kind {room : Bool} (h : Ends Cli.takeBlock s room s') (hs : Kind s) :
    room = true ∧ ∃ memory, s' = { s with memory := memory } ∧ Kind s' := by
  unfold Cli.takeBlock at h
  replace h := ends_bind_view.1 h
  have hret := ends_bind_update.1 h
  obtain ⟨rfl, rfl⟩ := ends_pure.1 hret
  obtain ⟨hmemory, hanswers⟩ := hs
  dsimp only [id, Memory.takeBlock]
  split
  · exact ⟨rfl, _, rfl, ⟨hmemory, hanswers⟩⟩
  · next room rest hblocks =>
      rw [hblocks] at hmemory
      exact ⟨hmemory room mem_cons_self, _, rfl,
        ⟨fun b hb => hmemory b (mem_cons_of_mem _ hb), hanswers⟩⟩

variable {u : Unit} {status : Status}

/-- The deferred close is registered. -/
theorem fileClose_waits (h : Ends (Cli.fileClose status) s u s') (hs : Free s a t)
    (hobex : s.obex = .idle) : Waits s' a t := by
  obtain ⟨room, t', htake, h⟩ := ends_bind.1 h
  obtain ⟨rfl, memory, rfl, hkind⟩ := takeBlock_kind htake hs.kind
  obtain ⟨-, h⟩ | ⟨hroom, -⟩ := ends_only.1 h
  · obtain rfl := ends_update.1 h
    refine .closing ?_ ⟨s.nextHandle, status, s.client.req.cb⟩ ?_ hs.ticket hobex hs.pending
      hs.opening hs.unwritten hs.unconfirmed
    · exact ⟨hs.audit, ⟨hkind.memory, hkind.answers⟩, hs.attached, hs.connected, hs.ticket,
        hs.state, hs.file⟩
    · exact (congrArg (· ++ _) hs.tasks).trans (nil_append _)
  · exact absurd rfl hroom

theorem isConnected_of_state {c : Client}
    (h : c.state = .pullingPhonebookSize ∨ c.state.pullsFile = true) :
      c.state.isConnected = true := by
  obtain h | h := h
  · rw [h]
    rfl
  · cases hstate : c.state <;> rw [hstate] at h <;> first | rfl | cases h

/-- A request that fails is closed. -/
theorem pbapDataCB_error (h : Ends (Cli.pbapDataCB none status) s u s') (hs : Free s a t)
    (hobex : s.obex = .idle) : Waits s' a t := by
  obtain ⟨c, t', hclient, hrest⟩ := ends_bind.1 h
  obtain ⟨rfl, rfl⟩ := pbapClient_found hclient hs.attached
  obtain ⟨-, hrun⟩ | ⟨hnot, -⟩ := ends_only.1 hrest
  · obtain ⟨goesOn, t₁, hbranch, hend⟩ := ends_bind.1 hrun
    obtain ⟨-, hdata⟩ | ⟨hneither, hpure⟩ := ends_branch.1 hbranch
    · exact absurd hdata ends_fault
    · obtain ⟨rfl, rfl⟩ := ends_pure.1 hpure
      obtain ⟨-, hclose⟩ | ⟨hnot, -⟩ := ends_only.1 hend
      · exact fileClose_waits hclose hs hobex
      · exact absurd ⟨rfl, fun hcontinue => hneither (.inr hcontinue)⟩ hnot
  · exact absurd (isConnected_of_state hs.state) hnot

/-- From rest a GET is sent or refused. -/
theorem obexGet_idle (hobex : s.obex = .idle) (h : Ends Cli.obexGet s status s') :
    ∃ outcomes obex, s' = { s with outcomes := outcomes, obex := obex } ∧
      (status.success = true ∧ obex = .getting true false true none ∨
        status.success = false ∧ obex = .idle) := by
  unfold Cli.obexGet at h
  replace h := ends_bind_state.1 h
  rw [hobex] at h
  obtain ⟨outcome, t, htake, hrest⟩ := ends_bind.1 h
  obtain ⟨outcomes, rfl⟩ := takeOutcome_ends htake
  obtain ⟨u, t', hset, hret⟩ := ends_bind.1 hrest
  obtain ⟨rfl, rfl⟩ := ends_pure.1 hret
  obtain ⟨hsuccess, hset⟩ | ⟨hfail, rfl⟩ := ends_only.1 hset
  · obtain rfl := ends_update.1 hset
    exact ⟨outcomes, _, rfl, .inl ⟨hsuccess, rfl⟩⟩
  · exact ⟨outcomes, .idle, by rw [← hobex], .inr ⟨Bool.eq_false_iff.2 hfail, rfl⟩⟩

/-- A change of what the OBEX client does. -/
theorem Free.obex (hs : Free s a t) (outcomes : List Status) (obex : ObexOp) :
    Free { s with outcomes := outcomes, obex := obex } a t :=
  ⟨⟨hs.audit, ⟨hs.kind.memory, hs.kind.answers⟩, hs.attached, hs.connected, hs.ticket, hs.state,
    hs.file⟩, hs.unwritten, hs.tasks, hs.pending, hs.opening, hs.unconfirmed⟩

/-- The GET of a request is sent or refused. -/
theorem sendGet_ends (h : Ends Cli.sendGet s status s') (hs : Free s a t) (hobex : s.obex = .idle)
    (hfile : s.client.state.pullsFile = true → s.client.fileOpen = true) :
    (status.success = true ∧ Waits s' a t) ∨
      (status.success = false ∧ Free s' a t ∧ s'.obex = .idle) := by
  obtain ⟨u₁, t₁, hreset, h₁⟩ := ends_bind.1 h
  have hplain₁ := setClient_plain hreset fun _ => rfl
  obtain ⟨u₂, t₂, hfinal, h₂⟩ := ends_bind.1 h₁
  have hplain₂ := hplain₁.trans (setClient_plain hfinal fun _ => rfl)
  replace h₂ := ends_bind_view.1 h₂
  obtain ⟨status₃, t₃, hget, h₃⟩ := ends_bind.1 h₂
  obtain ⟨u₄, t₄, hrecord, hret⟩ := ends_bind.1 h₃
  obtain ⟨rfl, rfl⟩ := ends_pure.1 hret
  have hfree := hs.plain hplain₂
  obtain ⟨outcomes, obex, rfl, ⟨hsent, rfl⟩ | ⟨hrefused, rfl⟩⟩ :=
    obexGet_idle (hplain₂.obex.trans hobex) hget
  · obtain ⟨-, hrecord⟩ | ⟨hnot, -⟩ := ends_only.1 hrecord
    · have hplain := record_plain hrecord fun _ => rfl
      refine .inl ⟨hsent, .getting ((hfree.obex outcomes _).plain hplain)
        ⟨true, false, true, hplain.obex⟩ ?_ ?_⟩
      · rw [hplain.obex]
        rfl
      · rw [hplain.state, hplain.fileOpen, hplain₂.state, hplain₂.fileOpen]
        exact hfile
    · exact absurd hsent hnot
  · obtain ⟨hsuccess, -⟩ | ⟨-, rfl⟩ := ends_only.1 hrecord
    · rw [hrefused] at hsuccess
      cases hsuccess
    · exact .inr ⟨hrefused, hfree.obex outcomes _, rfl⟩

theorem finishReq_fail (hstatus : status.success = false) (h : Ends (Cli.finishReq status) s u s') :
    Ends (Cli.pbapDataCB none status) s u s' := by
  obtain ⟨status', t', hbranch, hrest⟩ := ends_bind.1 h
  obtain ⟨hsuccess, -⟩ | ⟨-, hpure⟩ := ends_branch.1 hbranch
  · rw [hstatus] at hsuccess
    cases hsuccess
  · obtain ⟨rfl, rfl⟩ := ends_pure.1 hpure
    obtain ⟨-, hdata⟩ | ⟨hnot, -⟩ := ends_only.1 hrest
    · exact hdata
    · exact absurd hstatus hnot

/-- The GET is sent, or the request fails. -/
theorem finishReq_waits (h : Ends (Cli.finishReq status) s u s') (hs : Free s a t)
    (hobex : s.obex = .idle) (hfile : s.client.state.pullsFile = true → s.client.fileOpen = true) :
    Waits s' a t := by
  obtain ⟨status', t', hbranch, hrest⟩ := ends_bind.1 h
  have hcases : (status'.success = true ∧ Waits t' a t) ∨
      (status'.success = false ∧ Free t' a t ∧ t'.obex = .idle) := by
    obtain ⟨-, hsend⟩ | ⟨hfail, hpure⟩ := ends_branch.1 hbranch
    · exact sendGet_ends hsend hs hobex hfile
    · obtain ⟨rfl, rfl⟩ := ends_pure.1 hpure
      exact .inr ⟨Bool.eq_false_iff.2 hfail, hs, hobex⟩
  obtain ⟨hsuccess, hwaits⟩ | ⟨hfail, hfree, hidle⟩ := hcases
  · obtain ⟨hfail, -⟩ | ⟨-, rfl⟩ := ends_only.1 hrest
    · rw [hsuccess] at hfail
      cases hfail
    · exact hwaits
  · obtain ⟨-, hdata⟩ | ⟨hnot, -⟩ := ends_only.1 hrest
    · exact pbapDataCB_error hdata hfree hidle
    · exact absurd hfail hnot

/-- The file is open, or the request fails. -/
theorem pbapOpenCfm_goes {handle : Nat} {openStatus : Status}
    (h : Ends (Cli.pbapOpenCfm handle openStatus) s u s') (hs : Opening s a t)
    (hopening : a.opening = false) : Goes s' t a.outstanding := by
  obtain ⟨c, t', hclient, hrest⟩ := ends_bind.1 h
  obtain ⟨rfl, rfl⟩ := pbapClient_found hclient hs.attached
  obtain ⟨-, hrun⟩ | ⟨hnot, -⟩ := ends_only.1 hrest
  · replace hrun := ends_bind_update.1 hrun
    have hfree : Free { t' with client := { t'.client with fileOpCfmPending := false } } a t :=
      ⟨⟨hs.audit, ⟨hs.kind.memory, hs.kind.answers⟩, hs.attached, hs.connected, hs.ticket, hs.state,
        hs.file⟩, hs.unwritten, hs.tasks, rfl, hopening, hs.unconfirmed⟩
    rw [if_neg (show ¬ t'.client.disconnected = true by simp [hs.connected])] at hrun
    split at hrun
    · replace hrun := ends_bind_update.1 hrun
      obtain ⟨u₃, t₃, hrecord, hfinish⟩ := ends_bind.1 hrun
      replace hrecord := ends_bind_view.1 hrecord
      obtain rfl := ends_update.1 hrecord
      refine ⟨{ a with file := some handle }, rfl, finishReq_waits hfinish ?_ hs.obex fun _ => rfl⟩
      refine ⟨⟨?_, ⟨hs.kind.memory, hs.kind.answers⟩, hs.attached, hs.connected, hs.ticket,
        hs.state, rfl⟩,
        hs.unwritten, hs.tasks, rfl, hopening, hs.unconfirmed⟩
      have hnone : a.file = none := by rw [hs.file, hs.closed]; rfl
      refine audit_extend hs.audit ?_
      exact if_pos hnone
    · exact ⟨a, rfl, fileClose_waits hrun hfree hs.obex⟩
  · exact absurd ⟨hs.pulls, hs.pending⟩ hnot

theorem openCfm_goes {handle : Nat} {openStatus : Status}
    (h : Ends (Cli.openCfm handle openStatus) s u s') (hs : Opening s a t) :
    Goes s' t a.outstanding := by
  have hcfm := ends_bind_update.1 h
  refine pbapOpenCfm_goes (a := { a with opening := false }) hcfm ?_ rfl
  refine ⟨⟨?_, ⟨hs.kind.memory, hs.kind.answers⟩, hs.attached, hs.connected, hs.ticket, hs.state,
    hs.file⟩, hs.unwritten, hs.obex, hs.tasks, hs.pending, hs.pulls, hs.closed, hs.unconfirmed⟩
  exact audit_extend hs.audit rfl

theorem takeAnswer_kind {answer : FileAnswer} (h : Ends Cli.takeAnswer s answer s') (hs : Kind s) :
    answer.status.success = true ∧ ∃ answers, s' = { s with answers := answers } ∧ Kind s' := by
  unfold Cli.takeAnswer at h
  replace h := ends_bind_state.1 h
  split at h
  · obtain ⟨rfl, rfl⟩ := ends_pure.1 h
    exact ⟨rfl, s'.answers, rfl, hs⟩
  · next answer rest hanswers =>
      have hret := ends_bind_update.1 h
      obtain ⟨rfl, rfl⟩ := ends_pure.1 hret
      have hall := hs.answers
      rw [hanswers] at hall
      exact ⟨hall _ mem_cons_self, rest, rfl, hs.memory,
        fun b hb => hall b (mem_cons_of_mem _ hb)⟩

/-- The file is being opened. -/
theorem pbapOpen_goes (h : Ends (Cli.pbapOpen status) s u s') (hs : Free s a t)
    (hobex : s.obex = .idle) (hclosed : s.client.fileOpen = false)
    (hpulls : s.client.state.pullsFile = true) : Goes s' t a.outstanding := by
  unfold Cli.pbapOpen at h
  split at h
  · have h₁ := ends_bind_update.1 h
    replace h₁ := ends_bind_view.1 h₁
    have h₂ := ends_bind_update.1 h₁
    obtain ⟨answer, t₃, htake, h₃⟩ := ends_bind.1 h₂
    obtain ⟨hanswer, answers, ht₃, hkind⟩ := takeAnswer_kind htake ⟨hs.kind.memory, hs.kind.answers⟩
    obtain ⟨u₄, t₄, hconfirm, hrest⟩ := ends_bind.1 h₃
    obtain ⟨hfail, -⟩ | ⟨-, rfl⟩ := ends_only.1 hrest
    · rw [hanswer] at hfail
      cases hfail
    have hopening : Opening t₃ { a with opening := true } t := by
      rw [ht₃] at hkind ⊢
      refine ⟨⟨?_, hkind, hs.attached, hs.connected, hs.ticket, hs.state, hs.file⟩, hs.unwritten,
        hobex, hs.tasks, rfl, hpulls, hclosed, hs.unconfirmed⟩
      exact audit_extend hs.audit rfl
    cases hcfm : answer.confirm with
    | none =>
        rw [hcfm] at hconfirm
        obtain ⟨-, rfl⟩ := ends_pure.1 hconfirm
        exact ⟨{ a with opening := true }, rfl, .opening hopening rfl⟩
    | some confirm =>
        rw [hcfm] at hconfirm
        exact openCfm_goes (a := { a with opening := true }) hconfirm hopening
  · exact ⟨a, rfl, fileClose_waits h hs hobex⟩

/-- Building a name does not matter. -/
theorem buildName_plain {entry : Option UInt32}
    {build : PathState → GetReq → Except Fault (List UInt16)}
    (h : Ends (Cli.buildName entry build) s u s') : Plain s s' := by
  replace h := ends_bind_view.1 h
  obtain ⟨name, -, h₁⟩ := ends_bind_lift.1 h
  obtain ⟨u₂, t₂, hset, hrecord⟩ := ends_bind.1 h₁
  exact (setClient_plain hset fun _ => rfl).trans (record_plain hrecord fun _ => rfl)

/-- A request with its file still to be opened. -/
structure Fresh (s : Session) (a : Audit) (t : Ticket) : Prop extends Free s a t where
  obex : s.obex = .idle
  closed : s.client.fileOpen = false

theorem Fresh.plain (hs : Fresh s a t) (hp : Plain s s') : Fresh s' a t :=
  ⟨hs.toFree.plain hp, hp.obex.trans hs.obex, hp.fileOpen.trans hs.closed⟩

/-- In the right folder the file is opened or the GET sent. -/
theorem pbapSetPathDone_goes (h : Ends (Cli.pbapSetPathDone status) s u s') (hs : Fresh s a t) :
    Goes s' t a.outstanding := by
  have hnoFile (t' : Session) (ht : Plain s t') (hsize : s.client.state.pullsFile = false) :
      t'.client.state.pullsFile = true → t'.client.fileOpen = true := by
    intro hpulls
    rw [ht.state, hsize] at hpulls
    cases hpulls
  unfold Cli.pbapSetPathDone at h
  split at h
  · replace h := ends_bind_view.1 h
    split at h
    · next hstate =>
        obtain ⟨u₁, t₁, hname, hopen⟩ := ends_bind.1 h
        have hplain := buildName_plain hname
        have hfresh := hs.plain hplain
        refine pbapOpen_goes hopen hfresh.toFree hfresh.obex hfresh.closed ?_
        rw [hplain.state, hstate]
        rfl
    · next hstate =>
        obtain ⟨u₁, t₁, hname, hopen⟩ := ends_bind.1 h
        have hplain := buildName_plain hname
        have hfresh := hs.plain hplain
        refine pbapOpen_goes hopen hfresh.toFree hfresh.obex hfresh.closed ?_
        rw [hplain.state, hstate]
        rfl
    · next hstate =>
        obtain ⟨u₁, t₁, hname, hfinish⟩ := ends_bind.1 h
        have hplain : Plain s t₁ := by
          obtain ⟨-, hname⟩ | ⟨-, hname⟩ := ends_branch.1 hname
          · exact buildName_plain hname
          · exact buildName_plain hname
        have hfresh := hs.plain hplain
        exact ⟨a, rfl, finishReq_waits hfinish hfresh.toFree hfresh.obex
          (hnoFile t₁ hplain (by rw [hstate]; rfl))⟩
    · next hstate =>
        obtain ⟨u₁, t₁, hname, hopen⟩ := ends_bind.1 h
        have hplain := buildName_plain hname
        have hfresh := hs.plain hplain
        refine pbapOpen_goes hopen hfresh.toFree hfresh.obex hfresh.closed ?_
        rw [hplain.state, hstate]
        rfl
    · exact ⟨a, rfl, pbapDataCB_error (finishReq_fail rfl h) hs.toFree hs.obex⟩
  · next hfail =>
      exact ⟨a, rfl, pbapDataCB_error (finishReq_fail (Bool.eq_false_iff.2 hfail) h) hs.toFree
        hs.obex⟩

/-- A way that has come to its end. -/
theorem callSetPathDone_goes (h : Ends (Cli.callSetPathDone status) s u s') (hs : Fresh s a t)
    (hdone : s.client.setPathDone = some .pbapSetPathDone) : Goes s' t a.outstanding := by
  replace h := ends_bind_view.1 h
  obtain ⟨u₁, t₁, hrecord, hrest⟩ := ends_bind.1 h
  have hplain := record_plain hrecord fun _ => rfl
  rw [hdone] at hrest
  exact pbapSetPathDone_goes hrest (hs.plain hplain)

/-- The next SETPATH is sent, or the way has come to its end. -/
theorem setPath_goes (h : Ends Cli.setPath s u s') (hs : Fresh s a t)
    (hdone : s.client.setPathDone = some .pbapSetPathDone) : Goes s' t a.outstanding := by
  replace h := ends_bind_view.1 h
  obtain ⟨request, -, hrest⟩ := ends_bind_lift.1 h
  split at hrest
  · obtain ⟨status, t₂, hsend, hend⟩ := ends_bind.1 hrest
    obtain ⟨outcomes, ⟨rfl, rfl⟩ | ⟨hrefused, rfl⟩⟩ := obexSetPath_ends hsend
    · obtain ⟨hfalse, -⟩ | ⟨-, rfl⟩ := ends_only.1 hend
      · cases hfalse
      · refine ⟨a, rfl, .settingPath ?_ ⟨_, rfl⟩ hdone hs.closed⟩
        refine ⟨⟨?_, ⟨hs.kind.memory, hs.kind.answers⟩, hs.attached, hs.connected, hs.ticket,
          hs.state, hs.file⟩, hs.unwritten, hs.tasks, hs.pending, hs.opening, hs.unconfirmed⟩
        exact audit_extend hs.audit rfl
    · obtain ⟨-, hend⟩ | ⟨hsuccess, -⟩ := ends_only.1 hend
      · refine callSetPathDone_goes hend ⟨?_, hs.obex, hs.closed⟩ hdone
        exact ⟨⟨hs.audit, ⟨hs.kind.memory, hs.kind.answers⟩, hs.attached, hs.connected, hs.ticket,
          hs.state, hs.file⟩, hs.unwritten, hs.tasks, hs.pending, hs.opening, hs.unconfirmed⟩
      · exact absurd hrefused hsuccess
  · exact callSetPathDone_goes hrest hs hdone

/-- The response to a SETPATH of any status. -/
theorem setPathResponse_goes {request : SetPathRequest}
    (h : Ends (Cli.setPathResponse status) s u s') (hs : Free s a t)
    (hobex : s.obex = .settingPath request) (hdone : s.client.setPathDone = some .pbapSetPathDone)
    (hclosed : s.client.fileOpen = false) : Goes s' t a.outstanding := by
  replace h := ends_bind_state.1 h
  rw [hobex] at h
  have hcfm := ends_bind_update.1 h
  rw [setPathCfm_eq] at hcfm
  obtain ⟨c, t₂, hclient, hrest⟩ := ends_bind.1 hcfm
  obtain ⟨rfl, rfl⟩ := pbapClient_found hclient hs.attached
  have hfresh : Fresh { s with obex := .idle } a t := ⟨hs.obex s.outcomes .idle, rfl, hclosed⟩
  dsimp only at hrest
  split at hrest
  · obtain ⟨u₃, t₃, hset, hend⟩ := ends_bind.1 hrest
    have hplain := setClient_plain hset fun _ => rfl
    split at hend
    · exact setPath_goes hend (hfresh.plain hplain) (hplain.done.trans hdone)
    · exact callSetPathDone_goes hend (hfresh.plain hplain) (hplain.done.trans hdone)
  · exact callSetPathDone_goes hrest hfresh hdone

end Functions

end Pbap
