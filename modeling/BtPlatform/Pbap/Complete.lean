import BtPlatform.Pbap.Live

/-!
# Requests complete exactly once

The second half of a request: the responses to its GET, the confirmations of its writes
and the deferred close, which completes it. As long as everything goes smoothly a
request is completed exactly once, after all its bodies were written and confirmed and
its file was closed, and the deferred close concerns no other request.
-/

namespace Pbap

open Support Program Prog Repository Phonebook List

section Responses

variable {s s' : Session} {a : Audit} {t : Ticket}

variable {status : Status} {u : Unit} {headers : List RspHeader} {body : Option (List UInt8)}

/-- After a part of the answer the next one is asked for, or the asking fails. -/
theorem obexGet_more (h : Ends Cli.obexGet s status s')
    (hobex : ∃ srm flow, s.obex = .getting false srm flow none) :
    ∃ outcomes obex, s' = { s with outcomes := outcomes, obex := obex } ∧
      ((status.success = true ∧ obex.awaits = true ∧
          ∃ busy srm flow, obex = .getting busy srm flow none) ∨
        status.success = false ∧ obex = .idle) := by
  obtain ⟨srm, flow, hobex⟩ := hobex
  unfold Cli.obexGet at h
  replace h := ends_bind_state.1 h
  rw [hobex] at h
  cases srm with
  | true =>
      have hret := ends_bind_update.1 h
      obtain ⟨rfl, rfl⟩ := ends_pure.1 hret
      exact ⟨s.outcomes, _, rfl, .inl ⟨rfl, rfl, _, _, _, rfl⟩⟩
  | false =>
      obtain ⟨outcome, t', htake, hrest⟩ := ends_bind.1 h
      obtain ⟨outcomes, rfl⟩ := takeOutcome_ends htake
      have hret := ends_bind_update.1 hrest
      obtain ⟨rfl, rfl⟩ := ends_pure.1 hret
      refine ⟨outcomes, _, rfl, ?_⟩
      cases hsuccess : status.success with
      | true => exact .inl ⟨rfl, rfl, _, _, _, rfl⟩
      | false => exact .inr ⟨rfl, rfl⟩

/-- Nothing is left to be written of what has been received. -/
structure Written (s : Session) (a : Audit) (t : Ticket) : Prop extends Busy s a t where
  unwritten : a.unwritten = []
  tasks : s.tasks = []
  pending : s.client.fileOpCfmPending = true
  pulls : s.client.state.pullsFile = true
  opening : a.opening = false
  unconfirmed : a.unconfirmed = none
  obex : (s.client.final = true ∧ s.obex = .idle) ∨
    (s.client.final = false ∧ s.client.fileOpen = true ∧
      ∃ srm flow, s.obex = .getting false srm flow none)

/-- The request is closed, or the next part is asked for. -/
theorem pbapWriteCfm_waits (h : Ends (Cli.pbapWriteCfm status) s u s') (hs : Written s a t)
    (hstatus : status.success = true) : Waits s' a t := by
  obtain ⟨c, t', hclient, hrest⟩ := ends_bind.1 h
  obtain ⟨rfl, rfl⟩ := pbapClient_found hclient hs.attached
  obtain ⟨-, hrun⟩ | ⟨hnot, -⟩ := ends_only.1 hrest
  · replace hrun := ends_bind_update.1 hrun
    have hfree : Free { t' with client := { t'.client with fileOpCfmPending := false } } a t :=
      ⟨⟨hs.audit, ⟨hs.kind.memory, hs.kind.answers⟩, hs.attached, hs.connected, hs.ticket, hs.state,
        hs.file⟩, hs.unwritten, hs.tasks, rfl, hs.opening, hs.unconfirmed⟩
    rw [if_neg (show ¬ t'.client.disconnected = true by simp [hs.connected])] at hrun
    obtain ⟨hfinal, hidle⟩ | ⟨hmore, hopen, hobex⟩ := hs.obex
    · rw [if_pos hfinal] at hrun
      exact fileClose_waits hrun hfree hidle
    · rw [if_neg (show ¬ t'.client.final = true by simp [hmore]), if_pos hstatus] at hrun
      obtain ⟨outcome, t₂, hget, hend⟩ := ends_bind.1 hrun
      obtain ⟨outcomes, obex, rfl, ⟨hsent, hawaits, hgetting⟩ | ⟨hrefused, rfl⟩⟩ :=
        obexGet_more hget hobex
      · obtain ⟨hfail, -⟩ | ⟨-, rfl⟩ := ends_only.1 hend
        · rw [hsent] at hfail
          cases hfail
        · exact .getting (hfree.obex outcomes obex) hgetting hawaits fun _ => hopen
      · obtain ⟨-, hclose⟩ | ⟨hsuccess, -⟩ := ends_only.1 hend
        · exact fileClose_waits hclose (hfree.obex outcomes .idle) rfl
        · exact absurd hrefused hsuccess
  · exact absurd ⟨hs.pulls, hs.pending⟩ hnot

/-- The application confirms the write that is pending. -/
theorem writeCfm_goes (h : Ends (Cli.writeCfm status) s u s') (hs : Writing s a t)
    (hgood : Good s'.history) : Goes s' t a.outstanding := by
  obtain ⟨u₁, t₁, hrecord, hcfm⟩ := ends_bind.1 h
  replace hrecord := ends_bind_view.1 hrecord
  have hgrows := Cli.grows_of_still Cli.pbapWriteCfm_still _ _ _ hcfm
  obtain rfl := ends_update.1 hrecord
  have hstatus : status.success = true := (hgood.earlier hgrows).append.2.1
  refine ⟨{ a with unconfirmed := none }, rfl, pbapWriteCfm_waits hcfm ?_ hstatus⟩
  refine ⟨⟨?_, ⟨hs.kind.memory, hs.kind.answers⟩, hs.attached, hs.connected, hs.ticket, hs.state,
    hs.file⟩, hs.unwritten, hs.tasks, hs.pending, hs.pulls, hs.opening, rfl,
    .inr ⟨hs.more, hs.opened, hs.obex⟩⟩
  refine audit_extend hs.audit ?_
  exact if_pos hstatus

theorem extractAppParams_plain {data : List UInt8} (h : Ends (Cli.extractAppParams data) s u s') :
    Plain s s' := by
  replace h := ends_bind_view.1 h
  obtain ⟨results, -, hset⟩ := ends_bind_lift.1 h
  exact setClient_plain hset fun _ => rfl

theorem Plain.refl (s : Session) : Plain s s :=
  ⟨rfl, rfl, rfl, rfl, rfl, rfl, rfl, rfl, rfl, rfl, rfl, rfl, rfl⟩

theorem readHeaders_ends {result : Option (List UInt8)}
    (h : Ends (Cli.readHeaders headers body) s result s') :
    result = lastBody headers body ∧ Plain s s' := by
  induction headers generalizing s body with
  | nil =>
      obtain ⟨rfl, rfl⟩ := ends_pure.1 h
      exact ⟨rfl, Plain.refl s'⟩
  | cons header rest ih =>
      cases header with
      | body data => exact ih h
      | applicationParams data =>
          obtain ⟨u, t₁, hextract, hrest⟩ := ends_bind.1 h
          obtain ⟨hresult, hplain⟩ := ih hrest
          exact ⟨hresult, (extractAppParams_plain hextract).trans hplain⟩
      | other => exact ih h

/-- Where no body is received, none is found. -/
theorem lastBody_of_bodies (hnone : bodies headers = []) (hbody : body = none ∨ body = some []) :
    lastBody headers body = none ∨ lastBody headers body = some [] := by
  induction headers generalizing body with
  | nil => exact hbody
  | cons header rest ih =>
      cases header with
      | body data =>
          cases data with
          | nil => exact ih hnone (.inr rfl)
          | cons first more => cases hnone
      | applicationParams data => exact ih hnone hbody
      | other => exact ih hnone hbody

/-- A part of the answer without a body, or its end. -/
theorem writeBody_nothing {goesOn : Bool} (h : Ends (Cli.writeBody body) s goesOn s')
    (hbody : body = none ∨ body = some []) (hs : Free s a t)
    (hpulls : s.client.state.pullsFile = true) (hobex : (s.client.final = true ∧ s.obex = .idle) ∨
      (s.client.final = false ∧ s.client.fileOpen = true ∧
        ∃ srm flow, s.obex = .getting false srm flow none)) : goesOn = false ∧ Waits s' a t := by
  obtain ⟨u₁, t₁, hset, hrest⟩ := ends_bind.1 h
  have hrun : Ends (do
      Cli.pbapWriteCfm .ok
      return false) t₁ goesOn s' := by
    obtain rfl | rfl := hbody
    · exact hrest
    · exact hrest
  obtain rfl := ends_update.1 hset
  obtain ⟨u₂, t₂, hcfm, hret⟩ := ends_bind.1 hrun
  obtain ⟨rfl, rfl⟩ := ends_pure.1 hret
  refine ⟨rfl, pbapWriteCfm_waits hcfm ?_ rfl⟩
  exact ⟨⟨hs.audit, ⟨hs.kind.memory, hs.kind.answers⟩, hs.attached, hs.connected, hs.ticket,
    hs.state, hs.file⟩, hs.unwritten, hs.tasks, rfl, hpulls, hs.opening, hs.unconfirmed, hobex⟩

/-- A body is received and still to be written. -/
structure Received (s : Session) (a : Audit) (t : Ticket) (data : List UInt8) : Prop
    extends Busy s a t where
  unwritten : a.unwritten = [data]
  tasks : s.tasks = []
  pulls : s.client.state.pullsFile = true
  opened : s.client.fileOpen = true
  opening : a.opening = false
  unconfirmed : a.unconfirmed = none
  more : s.client.final = false
  obex : ∃ srm flow, s.obex = .getting false srm flow none
  quiet : s.obex.awaits = false

/-- A part of the answer with a body. -/
theorem writeBody_data {first : UInt8} {rest : List UInt8} {goesOn : Bool}
    (h : Ends (Cli.writeBody (some (first :: rest))) s goesOn s')
    (hs : Received s a t (first :: rest)) (hgood : Good s'.history) :
    goesOn = true ∧ Goes s' t a.outstanding := by
  have h₁ := ends_bind_update.1 h
  replace h₁ := ends_bind_view.1 h₁
  obtain ⟨u₂, t₂, hrecord, h₂⟩ := ends_bind.1 h₁
  replace hrecord := ends_bind_view.1 hrecord
  obtain rfl := ends_update.1 hrecord
  obtain ⟨answer, t₃, htake, h₃⟩ := ends_bind.1 h₂
  obtain ⟨hanswer, answers, ht₃, hkind⟩ := takeAnswer_kind htake ⟨hs.kind.memory, hs.kind.answers⟩
  obtain ⟨u₄, t₄, hconfirm, h₄⟩ := ends_bind.1 h₃
  obtain ⟨u₅, t₅, honly, hret⟩ := ends_bind.1 h₄
  obtain ⟨rfl, rfl⟩ := ends_pure.1 hret
  obtain ⟨hfail, -⟩ | ⟨-, rfl⟩ := ends_only.1 honly
  · rw [hanswer] at hfail
    cases hfail
  have hwriting : Writing t₃ { a with unwritten := [], unconfirmed := some (first :: rest) } t := by
    rw [ht₃] at hkind ⊢
    refine ⟨⟨?_, hkind, hs.attached, hs.connected, hs.ticket, hs.state, hs.file⟩, rfl, hs.obex,
      hs.quiet, hs.tasks, rfl, hs.pulls, hs.opened, hs.opening, hs.more⟩
    refine (audit_append ..).trans ?_
    rw [hs.audit]
    have hfile : a.file = some s.client.fh := by rw [hs.file, hs.opened]; rfl
    refine (if_pos ⟨hfile, ?_, hs.unconfirmed⟩).trans ?_
    · rw [hs.unwritten]
      rfl
    · rw [hs.unwritten]
      rfl
  refine ⟨rfl, ?_⟩
  cases hcfm : answer.confirm with
  | none =>
      rw [hcfm] at hconfirm
      obtain ⟨-, rfl⟩ := ends_pure.1 hconfirm
      exact ⟨{ a with unwritten := [], unconfirmed := some (first :: rest) }, rfl,
        .writing hwriting rfl⟩
  | some confirm =>
      rw [hcfm] at hconfirm
      exact writeCfm_goes (a := { a with unwritten := [], unconfirmed := some (first :: rest) })
        hconfirm hwriting hgood

/-- What the client has of a response: nothing to write, or one body. -/
theorem lastBody_cases (h : writtenBodies headers = bodies headers) :
    ((lastBody headers none = none ∨ lastBody headers none = some []) ∧ bodies headers = []) ∨
      ∃ first rest, lastBody headers none = some (first :: rest) ∧
        bodies headers = [first :: rest] := by
  unfold writtenBodies at h
  split at h
  · next hnone => exact .inl ⟨.inl hnone, h.symm⟩
  · next hnone => exact .inl ⟨.inr hnone, h.symm⟩
  · next data hne hsome =>
      cases data with
      | nil => exact absurd rfl hne
      | cons first rest => exact .inr ⟨first, rest, hsome, h.symm⟩

theorem pbapDataCB_ends {rspHeaders : Option (List RspHeader)} {rcvStatus : Status}
    (h : Ends (Cli.pbapDataCB rspHeaders rcvStatus) s u s') (hs : Busy s a t) :
    ∃ goesOn t', Ends (branch (rcvStatus = .ok ∨ rcvStatus = .obexContinue)
        (Cli.dataReceived rspHeaders rcvStatus) (pure true)) s goesOn t' ∧
      Ends (only (goesOn = true ∧ rcvStatus ≠ .obexContinue) (Cli.fileClose rcvStatus))
        t' u s' := by
  obtain ⟨c, t', hclient, hrest⟩ := ends_bind.1 h
  obtain ⟨rfl, rfl⟩ := pbapClient_found hclient hs.attached
  obtain ⟨-, hrun⟩ | ⟨hnot, -⟩ := ends_only.1 hrest
  · exact ends_bind.1 hrun
  · exact absurd (isConnected_of_state hs.state) hnot

/-- The answer is an error. -/
theorem pbapDataCB_failed {rspHeaders : Option (List RspHeader)} {rcvStatus : Status}
    (h : Ends (Cli.pbapDataCB rspHeaders rcvStatus) s u s')
    (hstatus : ¬ (rcvStatus = .ok ∨ rcvStatus = .obexContinue)) (hs : Free s a t)
    (hobex : s.obex = .idle) : Waits s' a t := by
  obtain ⟨goesOn, t', hbranch, hclose⟩ := pbapDataCB_ends h hs.toBusy
  obtain ⟨hwrong, -⟩ | ⟨-, hpure⟩ := ends_branch.1 hbranch
  · exact absurd hwrong hstatus
  · obtain ⟨rfl, rfl⟩ := ends_pure.1 hpure
    obtain ⟨-, hclose⟩ | ⟨hnot, -⟩ := ends_only.1 hclose
    · exact fileClose_waits hclose hs hobex
    · exact absurd ⟨rfl, fun hcontinue => hstatus (.inr hcontinue)⟩ hnot

/-- The end of the answer. -/
theorem pbapDataCB_final (h : Ends (Cli.pbapDataCB (some headers) .ok) s u s') (hs : Free s a t)
    (hobex : s.obex = .idle) (hnone : bodies headers = []) : Waits s' a t := by
  obtain ⟨goesOn, t', hbranch, hclose⟩ := pbapDataCB_ends h hs.toBusy
  obtain ⟨-, hdata⟩ | ⟨hnot, -⟩ := ends_branch.1 hbranch
  · obtain ⟨body, t₁, hread, h₁⟩ := ends_bind.1 hdata
    obtain ⟨rfl, hplain₁⟩ := readHeaders_ends hread
    obtain ⟨u₂, t₂, hset, h₂⟩ := ends_bind.1 h₁
    have hplain₂ := hplain₁.trans (setClient_plain hset fun _ => rfl)
    have hfinal : t₂.client.final = true := by
      obtain rfl := ends_update.1 hset
      rfl
    replace h₂ := ends_bind_view.1 h₂
    have hfree := hs.plain hplain₂
    have hidle := hplain₂.obex.trans hobex
    split at h₂
    · obtain ⟨u₃, t₃, honly, hret⟩ := ends_bind.1 h₂
      obtain ⟨rfl, rfl⟩ := ends_pure.1 hret
      obtain ⟨hwrong, -⟩ | ⟨-, rfl⟩ := ends_only.1 honly
      · exact absurd rfl hwrong
      · obtain ⟨-, hclose⟩ | ⟨hnot, -⟩ := ends_only.1 hclose
        · exact fileClose_waits hclose hfree hidle
        · exact absurd (by decide) hnot
    · next hnotSize =>
        have hpulls : t₂.client.state.pullsFile = true := hfree.state.resolve_left hnotSize
        obtain ⟨rfl, hwaits⟩ := writeBody_nothing h₂ (lastBody_of_bodies hnone (.inl rfl)) hfree
          hpulls (.inl ⟨hfinal, hidle⟩)
        obtain ⟨⟨hfalse, -⟩, -⟩ | ⟨-, rfl⟩ := ends_only.1 hclose
        · cases hfalse
        · exact hwaits
  · exact absurd (.inl rfl) hnot

/-- A part of the answer to a request for a file. -/
theorem pbapDataCB_part (h : Ends (Cli.pbapDataCB (some headers) .obexContinue) s u s')
    (hs : Busy s a t) (hall : writtenBodies headers = bodies headers)
    (hunwritten : a.unwritten = bodies headers) (htasks : s.tasks = [])
    (hpending : s.client.fileOpCfmPending = false) (hopening : a.opening = false)
    (hunconfirmed : a.unconfirmed = none) (hpulls : s.client.state.pullsFile = true)
    (hopened : s.client.fileOpen = true) (hobex : ∃ srm flow, s.obex = .getting false srm flow none)
    (hquiet : s.obex.awaits = false) (hgood : Good s'.history) : Goes s' t a.outstanding := by
  obtain ⟨goesOn, t', hbranch, hclose⟩ := pbapDataCB_ends h hs
  obtain ⟨⟨-, hwrong⟩, -⟩ | ⟨-, rfl⟩ := ends_only.1 hclose
  · exact absurd rfl hwrong
  obtain ⟨-, hdata⟩ | ⟨hnot, -⟩ := ends_branch.1 hbranch
  · obtain ⟨body, t₁, hread, h₁⟩ := ends_bind.1 hdata
    obtain ⟨rfl, hplain₁⟩ := readHeaders_ends hread
    obtain ⟨u₂, t₂, hset, h₂⟩ := ends_bind.1 h₁
    have hplain := hplain₁.trans (setClient_plain hset fun _ => rfl)
    have hmore : t₂.client.final = false := by
      obtain rfl := ends_update.1 hset
      rfl
    replace h₂ := ends_bind_view.1 h₂
    have hbusy := hs.plain hplain
    have hpulls₂ : t₂.client.state.pullsFile = true := by rw [hplain.state, hpulls]
    have hopened₂ := hplain.fileOpen.trans hopened
    have hobex₂ : ∃ srm flow, t₂.obex = .getting false srm flow none := by
      rw [hplain.obex]
      exact hobex
    rw [if_neg (show ¬ t₂.client.state = .pullingPhonebookSize by
      intro hsize
      rw [hsize] at hpulls₂
      cases hpulls₂)] at h₂
    obtain ⟨hnone, hbodies⟩ | ⟨first, rest, hsome, hbodies⟩ := lastBody_cases hall
    · rw [hbodies] at hunwritten
      have hfree : Free t₂ a t := ⟨hbusy, hunwritten, hplain.tasks.trans htasks,
        hplain.pending.trans hpending, hopening, hunconfirmed⟩
      obtain ⟨-, hwaits⟩ := writeBody_nothing h₂ hnone hfree hpulls₂
        (.inr ⟨hmore, hopened₂, hobex₂⟩)
      exact ⟨a, rfl, hwaits⟩
    · rw [hbodies] at hunwritten
      rw [hsome] at h₂
      have hreceived : Received t₂ a t (first :: rest) := ⟨hbusy, hunwritten,
        hplain.tasks.trans htasks, hpulls₂, hopened₂, hopening, hunconfirmed, hmore, hobex₂, by
          rw [hplain.obex]
          exact hquiet⟩
      exact (writeBody_data h₂ hreceived hgood).2
  · exact absurd (.inr rfl) hnot

/-- The response to a GET. -/
theorem getResponse_goes {srm : Bool} (h : Ends (Cli.getResponse headers status srm) s u s')
    (hs : Free s a t) (hobex : ∃ busy srm flow, s.obex = .getting busy srm flow none)
    (hawaits : s.obex.awaits = true)
    (hopened : s.client.state.pullsFile = true → s.client.fileOpen = true)
    (hgood : Good s'.history) :
    Goes s' t a.outstanding := by
  obtain ⟨busy, oldSrm, flow, hobex⟩ := hobex
  rw [hobex] at hawaits
  unfold Cli.getResponse at h
  replace h := ends_bind_state.1 h
  rw [hobex] at h
  obtain ⟨-, hrun⟩ | ⟨hnot, -⟩ := ends_only.1 h
  · have h₁ := ends_bind_update.1 hrun
    obtain ⟨u₂, t₂, hrecord, hdata⟩ := ends_bind.1 h₁
    have hgrows := Cli.grows_of_still Cli.pbapDataCB_still _ _ _ hdata
    obtain rfl := ends_update.1 hrecord
    have hsmooth := (hgood.earlier hgrows).append.2.1
    by_cases hok : status = .ok
    · subst hok
      have hnone : bodies headers = [] := by simpa [Act.smooth] using hsmooth
      refine ⟨a, rfl, pbapDataCB_final hdata ?_ rfl hnone⟩
      refine ⟨⟨?_, ⟨hs.kind.memory, hs.kind.answers⟩, hs.attached, hs.connected, hs.ticket,
        hs.state, hs.file⟩, hs.unwritten, hs.tasks, hs.pending, hs.opening, hs.unconfirmed⟩
      refine audit_extend hs.audit ?_
      refine (Audit.step_received a (s.client.state == .pullingPhonebookSize) headers
        (.inl rfl)).trans ?_
      rw [hnone, append_nil]
    · by_cases hcontinue : status = .obexContinue
      · subst hcontinue
        have hparts : s.client.state ≠ .pullingPhonebookSize ∧
            writtenBodies headers = bodies headers := by simpa [Act.smooth] using hsmooth
        have hpulls := hs.state.resolve_left hparts.1
        refine pbapDataCB_part (a := { a with unwritten := bodies headers }) hdata ?_ hparts.2 rfl
          hs.tasks hs.pending hs.opening hs.unconfirmed hpulls (hopened hpulls)
          ⟨srm, !srm, rfl⟩ (by cases srm <;> rfl) hgood
        refine ⟨?_, ⟨hs.kind.memory, hs.kind.answers⟩, hs.attached, hs.connected, hs.ticket,
          hs.state, hs.file⟩
        refine audit_extend hs.audit ?_
        refine (Audit.step_received a (s.client.state == .pullingPhonebookSize) headers
          (.inr rfl)).trans ?_
        rw [hs.unwritten, nil_append]
      · have hneither : ¬ (status = .ok ∨ status = .obexContinue) := not_or.2 ⟨hok, hcontinue⟩
        refine ⟨a, rfl, pbapDataCB_failed hdata hneither ?_ (if_neg hcontinue)⟩
        refine ⟨⟨?_, ⟨hs.kind.memory, hs.kind.answers⟩, hs.attached, hs.connected, hs.ticket,
          hs.state, hs.file⟩, hs.unwritten, hs.tasks, hs.pending, hs.opening, hs.unconfirmed⟩
        refine audit_extend hs.audit ?_
        exact Audit.step_received_error a (s.client.state == .pullingPhonebookSize) headers hneither
  · simp [ObexOp.awaits] at hawaits
    exact absurd hawaits hnot

end Responses

/-! ## Between requests -/

/-- No request is outstanding. -/
structure Idle (s : Session) : Prop where
  audit : audit s.history = some .clear
  kind : Kind s
  attached : s.attached = true
  connected : s.client.disconnected = false
  state : s.client.state = .connected
  obex : s.obex = .idle
  tasks : s.tasks = []
  pending : s.client.fileOpCfmPending = false
  closed : s.client.fileOpen = false

/-- The invariant: no request is outstanding, or the client waits on behalf of the one that
is. -/
def Live (s : Session) : Prop :=
  Idle s ∨ ∃ t, Goes s t (some t)

section Requests

variable {s s' : Session} {a : Audit} {t : Ticket}

/-- The way to the folder begins. -/
theorem setPhonebookDir_goes {repo : Repository} {pb : Phonebook} {u : Unit}
    (h : Ends (Cli.setPhonebookDir repo pb .pbapSetPathDone) s u s') (hs : Fresh s a t) :
    Goes s' t a.outstanding := by
  obtain ⟨u₁, t₁, hset, h₁⟩ := ends_bind.1 h
  replace h₁ := ends_bind_view.1 h₁
  obtain ⟨u₂, t₂, hrecord, hpath⟩ := ends_bind.1 h₁
  have hplain := record_plain hrecord fun _ => rfl
  obtain rfl := ends_update.1 hset
  refine setPath_goes hpath (Fresh.plain ?_ hplain) hplain.done
  exact ⟨⟨⟨hs.audit, ⟨hs.kind.memory, hs.kind.answers⟩, hs.attached, hs.connected, hs.ticket,
    hs.state, hs.file⟩, hs.unwritten, hs.tasks, hs.pending, hs.opening, hs.unconfirmed⟩, hs.obex,
    hs.closed⟩

variable {status : Status}

theorem buildAppParams_kind {params : AppParams} (h : Ends (Cli.buildAppParams params) s status s')
    (hs : Kind s) :
    status = .ok ∧ ∃ memory appParam, s' = { s with
      memory := memory, client := { s.client with
        req := { s.client.req with appParam := appParam } } } ∧
      Kind s' := by
  obtain ⟨room, t', htake, hrest⟩ := ends_bind.1 h
  obtain ⟨rfl, memory, rfl, hkind⟩ := takeBlock_kind htake hs
  have hret := ends_bind_update.1 hrest
  obtain ⟨rfl, rfl⟩ := ends_pure.1 hret
  exact ⟨rfl, memory, _, rfl, hkind.memory, hkind.answers⟩

/-- A pull is refused, or the client waits on its behalf. -/
theorem pull_goes {ticket : Ticket} {repository : Repository} {phonebook : Phonebook}
    {prepare : GetReq → GetReq} {params : AppParams} {state : ClientState} {go : Cli Unit}
    (h : Ends (Cli.pull ticket repository phonebook prepare params state go) s status s')
    (hs : Idle s) (hprepare : ∀ req, (prepare req).cb = req.cb)
    (hstate : state = .pullingPhonebookSize ∨ state.pullsFile = true)
    (hgo : ∀ {t t'}, Ends go t () t' → Fresh t .clear ticket → Goes t' ticket none) :
    (status.success = true ∧ Goes s' ticket none) ∨ (status.success = false ∧ s' = s) := by
  unfold Cli.pull at h
  split at h
  · obtain ⟨rfl, rfl⟩ := ends_pure.1 h
    exact .inr ⟨rfl, rfl⟩
  · obtain ⟨c, t, hclient, h₁⟩ := ends_bind.1 h
    obtain ⟨rfl, rfl⟩ := pbapClient_found hclient hs.attached
    dsimp only at h₁
    rw [if_neg (show ¬ t.client.state.isConnected = false by
      simp [hs.state, ClientState.isConnected])]
      at h₁
    have h₂ := ends_bind_update.1 h₁
    obtain ⟨status', t₃, hparams, h₃⟩ := ends_bind.1 h₂
    obtain ⟨rfl, memory, appParam, rfl, hkind⟩ := buildAppParams_kind hparams
      ⟨hs.kind.memory, hs.kind.answers⟩
    rw [if_pos (show Status.ok.success = true from rfl)] at h₃
    have h₄ := ends_bind_update.1 h₃
    obtain ⟨u₅, t₅, hend, hret⟩ := ends_bind.1 h₄
    obtain ⟨rfl, rfl⟩ := ends_pure.1 hret
    refine .inl ⟨rfl, hgo hend ?_⟩
    refine ⟨⟨⟨hs.audit, ⟨hkind.memory, hkind.answers⟩, hs.attached, hs.connected, ?_, hstate, ?_⟩,
      rfl, hs.tasks, hs.pending, rfl, rfl⟩, hs.obex, hs.closed⟩
    · exact hprepare _
    · exact (if_neg (by simp [hs.closed])).symm

theorem dispatchCall_goes {call : Call} (h : Ends (Cli.dispatchCall t call) s status s')
    (hs : Idle s) (hpull : call.isPull = true) :
    (status.success = true ∧ Goes s' t none) ∨ (status.success = false ∧ s' = s) := by
  cases call with
  | getPhonebookSize repository phonebook =>
      refine pull_goes h hs (fun _ => rfl) (.inl rfl) ?_
      intro t₁ t' hgo hfresh
      replace hgo := ends_bind_view.1 hgo
      split at hgo
      · obtain ⟨u, t₂, hset, hdir⟩ := ends_bind.1 hgo
        exact setPhonebookDir_goes hdir (hfresh.plain (setClient_plain hset fun _ => rfl))
      · obtain ⟨u, t₂, hset, hdir⟩ := ends_bind.1 hgo
        exact setPhonebookDir_goes hdir (hfresh.plain (setClient_plain hset fun _ => rfl))
  | pullPhonebook =>
      simp only [Cli.dispatchCall, Cli.pullPhonebook] at h
      exact pull_goes h hs (fun _ => rfl) (.inr rfl) fun hgo hfresh =>
        setPhonebookDir_goes hgo hfresh
  | pullvCardListing =>
      simp only [Cli.dispatchCall, Cli.pullvCardListing] at h
      exact pull_goes h hs (fun _ => rfl) (.inr rfl) fun hgo hfresh =>
        setPhonebookDir_goes hgo hfresh
  | pullvCardEntry =>
      simp only [Cli.dispatchCall, Cli.pullvCardEntry] at h
      exact pull_goes h hs (fun _ => rfl) (.inr rfl) fun hgo hfresh =>
        setPhonebookDir_goes hgo hfresh
  | setPath => cases hpull
  | abort => cases hpull

/-- The account of the request changes only in whether it is outstanding. -/
theorem Free.outstanding (hs : Free s a t) {history : List Act} {outstanding : Option Ticket}
    (h : Pbap.audit history = some { a with outstanding := outstanding }) :
    Free { s with history := history } { a with outstanding := outstanding } t :=
  ⟨⟨h, ⟨hs.kind.memory, hs.kind.answers⟩, hs.attached, hs.connected, hs.ticket, hs.state, hs.file⟩,
    hs.unwritten, hs.tasks, hs.pending, hs.opening, hs.unconfirmed⟩

theorem Waits.outstanding (hs : Waits s a t) {history : List Act} {outstanding : Option Ticket}
    (h : Pbap.audit history = some { a with outstanding := outstanding }) :
    Waits { s with history := history } { a with outstanding := outstanding } t := by
  cases hs with
  | settingPath hs hobex hdone hclosed => exact .settingPath (hs.outstanding h) hobex hdone hclosed
  | opening hs hopening =>
      refine .opening ⟨⟨h, ⟨hs.kind.memory, hs.kind.answers⟩, hs.attached, hs.connected, hs.ticket,
        hs.state, hs.file⟩, hs.unwritten, hs.obex, hs.tasks, hs.pending, hs.pulls, hs.closed,
        hs.unconfirmed⟩ hopening
  | getting hs hobex hawaits hopened => exact .getting (hs.outstanding h) hobex hawaits hopened
  | writing hs hunconfirmed =>
      refine .writing ⟨⟨h, ⟨hs.kind.memory, hs.kind.answers⟩, hs.attached, hs.connected, hs.ticket,
        hs.state, hs.file⟩, hs.unwritten, hs.obex, hs.quiet, hs.tasks, hs.pending, hs.pulls,
        hs.opened, hs.opening, hs.more⟩ hunconfirmed
  | closing hs info htasks howner hobex hpending hopening hunwritten hunconfirmed =>
      exact .closing ⟨h, ⟨hs.kind.memory, hs.kind.answers⟩, hs.attached, hs.connected, hs.ticket,
        hs.state, hs.file⟩ info htasks howner hobex hpending hopening hunwritten hunconfirmed

theorem Waits.busy (hs : Waits s a t) : Busy s a t := by
  cases hs with
  | settingPath hs | getting hs => exact hs.toBusy
  | opening hs => exact hs.toBusy
  | writing hs => exact hs.toBusy
  | closing hs => exact hs

theorem Live.connected (hs : Live s) : s.client.disconnected = false := by
  obtain hidle | ⟨t, a, -, hwaits⟩ := hs
  · exact hidle.connected
  · exact hwaits.busy.connected

/-- What the next act is expected to be. -/
theorem Live.orderly {act : Act} (hs : Live s) (hgood : Good (s.history ++ [act])) :
    (Idle s ∧ act.orderly .clear = true) ∨
      ∃ t a, a.outstanding = some t ∧ Waits s a t ∧ act.orderly a = true := by
  obtain hidle | ⟨t, a, hout, hwaits⟩ := hs
  · exact .inl ⟨hidle, hgood.append.2.2 _ hidle.audit⟩
  · exact .inr ⟨t, a, hout, hwaits, hgood.append.2.2 a hwaits.busy.audit⟩

/-- The history grows, and if it stays good the invariant is kept. -/
structure Lives (s s' : Session) : Prop where
  grows : Grows s s'
  live : Good s'.history → Live s → Live s'

instance : IsPreorder Session Lives where
  refl _ := ⟨Std.Refl.refl _, fun _ hs => hs⟩
  trans _ _ _ h₁ h₂ :=
    ⟨trans_of _ h₁.grows h₂.grows, fun hgood hs =>
      h₂.live hgood (h₁.live (hgood.earlier h₂.grows) hs)⟩

theorem makeCall_lives {call : Call} : Within Lives (Cli.makeCall call) := by
  intro s u s' h
  refine ⟨Cli.makeCall_grows s u s' h, fun hgood hs => ?_⟩
  replace h := ends_bind_view.1 h
  have h₁ := ends_bind_update.1 h
  obtain ⟨u₂, t₂, hcalled, h₂⟩ := ends_bind.1 h₁
  obtain ⟨status, t₃, hcall, hanswered⟩ := ends_bind.1 h₂
  have hgood₂ := (hgood.earlier (Cli.record_grows _ _ _ hanswered)).earlier
    (Cli.dispatchCall_grows _ _ _ hcall)
  obtain rfl := ends_update.1 hcalled
  dsimp only at hgood₂
  obtain ⟨hidle, horderly⟩ | ⟨t, a, hout, -, horderly⟩ := hs.orderly hgood₂
  · obtain ⟨hpull, -⟩ := Bool.and_eq_true_iff.1 horderly
    have hidle₂ : Idle { s with
        nextTicket := s.nextTicket + 1,
        history := s.history ++ [.called s.nextTicket call s.obex] } := by
      refine ⟨?_, ⟨hidle.kind.memory, hidle.kind.answers⟩, hidle.attached, hidle.connected,
        hidle.state, hidle.obex, hidle.tasks, hidle.pending, hidle.closed⟩
      exact audit_extend hidle.audit rfl
    obtain ⟨hsuccess, a, hout, hwaits⟩ | ⟨hfail, rfl⟩ := dispatchCall_goes hcall hidle₂ hpull
    · -- the call is accepted: from now on the request is outstanding
      obtain rfl := ends_update.1 hanswered
      refine .inr ⟨s.nextTicket, { a with outstanding := some s.nextTicket }, rfl,
        hwaits.outstanding ?_⟩
      refine audit_extend hwaits.busy.audit ?_
      refine (if_neg (by simp [hsuccess])).trans ?_
      exact if_pos hout
    · obtain rfl := ends_update.1 hanswered
      refine .inl ⟨?_, ⟨hidle.kind.memory, hidle.kind.answers⟩, hidle.attached, hidle.connected,
        hidle.state, hidle.obex, hidle.tasks, hidle.pending, hidle.closed⟩
      refine audit_extend hidle₂.audit ?_
      exact if_pos hfail
  · rw [Act.orderly, hout] at horderly
    simp at horderly

theorem makeCalls_lives {calls : List Call} : Within Lives (Cli.makeCalls calls) := by
  induction calls with
  | nil => exact .pure
  | cons call rest ih => exact .seq makeCall_lives ih

end Requests

/-! ## The deferred close -/

namespace Cli

theorem complete_grows {status : Status} : Within Grows (complete status) := by
  refine .bind .view fun s => ?_
  split
  · exact .fault
  · refine .bind record_grows fun _ => ?_
    exact .seq (update_grows fun _ => rfl) makeCalls_grows

theorem fileCloseCB_grows {info : CloseInfo} : Within Grows (fileCloseCB info) := by
  refine .bind .view fun s => .ite .fault ?_
  refine .seq record_grows <| .bind setClient_grows fun _ => ?_
  refine .bind (.only ?_) fun _ => ?_
  · exact .seq (.bind client_grows fun _ => record_grows) <| setClient_grows
  · refine .seq (.only complete_grows) <|
      .bind client_grows fun _ => ?_
    refine .only (.bind (update_grows fun _ => rfl) fun _ => ?_)
    exact .seq record_grows record_grows

theorem runTask_grows {index : Nat} : Within Grows (runTask index) := by
  refine .bind .view fun s => ?_
  split
  · exact .pure
  · exact .seq (update_grows fun _ => rfl) fileCloseCB_grows

end Cli

section Closing

variable {s s' : Session} {a : Audit} {t : Ticket}

/-- A request whose file is closed. -/
structure Closed (s : Session) (a : Audit) (t : Ticket) : Prop where
  audit : audit s.history = some a
  kind : Kind s
  attached : s.attached = true
  connected : s.client.disconnected = false
  ticket : s.client.req.cb = some t
  state : s.client.state = .connected
  outstanding : a.outstanding = some t
  file : a.file = none
  unwritten : a.unwritten = []
  unconfirmed : a.unconfirmed = none
  obex : s.obex = .idle
  tasks : s.tasks = []
  pending : s.client.fileOpCfmPending = false
  closed : s.client.fileOpen = false

/-- The request is completed, and the application makes its next calls. -/
theorem complete_live {status : Status} {u : Unit} (h : Ends (Cli.complete status) s u s')
    (hs : Closed s a t) (hgood : Good s'.history) : Live s' := by
  replace h := ends_bind_state.1 h
  rw [hs.ticket] at h
  have h₁ := ends_bind_update.1 h
  have hcalls := ends_bind_update.1 h₁
  refine (makeCalls_lives _ _ _ hcalls).live hgood (.inl ?_)
  refine ⟨?_, ⟨hs.kind.memory, hs.kind.answers⟩, hs.attached, hs.connected, hs.state, hs.obex,
    hs.tasks, hs.pending, hs.closed⟩
  refine audit_extend hs.audit ?_
  exact if_pos ⟨hs.outstanding, hs.file, fun _ => ⟨hs.unwritten, hs.unconfirmed⟩⟩

/-- The deferred close of the request outstanding. -/
theorem fileCloseCB_live {info : CloseInfo} {u : Unit} (h : Ends (Cli.fileCloseCB info) s u s')
    (hs : Busy s a t) (hout : a.outstanding = some t) (howner : info.owner = some t)
    (htasks : s.tasks = []) (hobex : s.obex = .idle) (hpending : s.client.fileOpCfmPending = false)
    (hunwritten : a.unwritten = []) (hunconfirmed : a.unconfirmed = none)
    (hgood : Good s'.history) : Live s' := by
  replace h := ends_bind_state.1 h
  split at h
  · exact absurd h ends_fault
  · have h₁ := ends_bind_update.1 h
    obtain ⟨u₂, t₂, hset, h₂⟩ := ends_bind.1 h₁
    obtain ⟨u₃, t₃, hfile, h₃⟩ := ends_bind.1 h₂
    obtain ⟨u₄, t₄, hcomplete, h₄⟩ := ends_bind.1 h₃
    replace h₄ := ends_bind_view.1 h₄
    have hclosed : ∃ a', Closed t₃ a' t := by
      have hstart : Pbap.audit (s.history ++ [.cleanup info s.client.req.cb]) = some a :=
        audit_extend hs.audit (if_pos (howner.trans hs.ticket.symm))
      obtain rfl := ends_update.1 hset
      obtain ⟨hopen, hfile⟩ | ⟨hnot, rfl⟩ := ends_only.1 hfile
      · obtain ⟨u₅, t₅, hown, hset⟩ := ends_bind.1 hfile
        replace hown := ends_bind_view.1 hown
        obtain rfl := ends_update.1 hown
        obtain rfl := ends_update.1 hset
        refine ⟨{ a with file := none }, ?_, ⟨hs.kind.memory, hs.kind.answers⟩, hs.attached,
          hs.connected, hs.ticket, if_neg (by simp [hs.connected]), hout, rfl, hunwritten,
          hunconfirmed, hobex, htasks, hpending, rfl⟩
        refine audit_extend hstart (if_pos ?_)
        rw [hs.file, hopen]
        rfl
      · have hfalse : s.client.fileOpen = false := Bool.eq_false_iff.2 hnot
        refine ⟨a, hstart, ⟨hs.kind.memory, hs.kind.answers⟩, hs.attached, hs.connected, hs.ticket,
          if_neg (by simp [hs.connected]), hout, ?_, hunwritten, hunconfirmed, hobex, htasks,
          hpending, hfalse⟩
        rw [hs.file, hfalse]
        rfl
    obtain ⟨a', hclosed⟩ := hclosed
    obtain ⟨-, hcomplete⟩ | ⟨hnot, -⟩ := ends_only.1 hcomplete
    · obtain ⟨hdisconnected, hlast⟩ | ⟨-, rfl⟩ := ends_only.1 h₄
      · have hrest := ends_bind_update.1 hlast
        obtain ⟨u₆, t₆, hrecord, hind⟩ := ends_bind.1 hrest
        have hfreed := Cli.record_grows _ _ _ hrecord
        have hgrows : Grows t₄ s' := List.IsPrefix.trans hfreed (Cli.record_grows _ _ _ hind)
        have hlive := complete_live hcomplete hclosed (hgood.earlier hgrows)
        rw [hlive.connected] at hdisconnected
        cases hdisconnected
      · exact complete_live hcomplete hclosed hgood
    · exact absurd hs.state hnot

end Closing

/-! ## Runs -/

/-- An event of a connection that lasts. -/
def Cli.Event.lasting : Cli.Event → Bool
  | .freeConnection _ => false
  | _ => true

section Runs

variable {s s' : Session} {a : Audit} {t : Ticket}

theorem runTask_lives {index : Nat} : Within Lives (Cli.runTask index) := by
  intro s u s' h
  refine ⟨Cli.runTask_grows s u s' h, fun hgood hs => ?_⟩
  replace h := ends_bind_state.1 h
  split at h
  · obtain ⟨-, rfl⟩ := ends_pure.1 h
    exact hs
  · next info htask =>
      have hclose := ends_bind_update.1 h
      have hnone (htasks : s.tasks = []) : False := by
        rw [htasks] at htask
        cases htask
      obtain hidle | ⟨t, a, hout, hwaits⟩ := hs
      · exact absurd hidle.tasks hnone
      · cases hwaits with
        | settingPath hs | getting hs => exact absurd hs.tasks hnone
        | opening hs => exact absurd hs.tasks hnone
        | writing hs => exact absurd hs.tasks hnone
        | closing hs first htasks howner hobex hpending hopening hunwritten hunconfirmed =>
            rw [htasks] at htask
            obtain ⟨rfl, rfl⟩ : index = 0 ∧ info = first := by
              cases index with
              | zero =>
                  cases htask
                  exact ⟨rfl, rfl⟩
              | succ index => cases htask
            refine fileCloseCB_live hclose ⟨hs.audit, ⟨hs.kind.memory, hs.kind.answers⟩,
              hs.attached, hs.connected, hs.ticket, hs.state, hs.file⟩ hout howner ?_ hobex hpending
              hunwritten hunconfirmed hgood
            exact congrArg (List.eraseIdx · 0) htasks

variable {status : Status}

/-- What a response to a SETPATH does. -/
theorem setPathResponse_lives : Within Lives (Cli.setPathResponse status) := by
  intro s u s' h
  refine ⟨World.setPathResponse_grows s u s' h, fun hgood hs => ?_⟩
  have hother (hobex : ∀ request, s.obex ≠ .settingPath request) : s' = s := by
    replace h := ends_bind_state.1 h
    split at h
    · next hsetting => exact absurd hsetting (hobex _)
    · exact (ends_pure.1 h).2
  obtain hidle | ⟨t, a, hout, hwaits⟩ := hs
  · rw [hother (by simp [hidle.obex])]
    exact .inl hidle
  · have hsame (hobex : ∀ request, s.obex ≠ .settingPath request) : Live s' := by
      rw [hother hobex]
      exact .inr ⟨t, a, hout, hwaits⟩
    cases hwaits with
    | settingPath hs hobex hdone hclosed =>
        obtain ⟨request, hobex⟩ := hobex
        exact .inr ⟨t, hout ▸ setPathResponse_goes h hs hobex hdone hclosed⟩
    | opening hs => exact hsame (by simp [hs.obex])
    | getting hs hobex =>
        obtain ⟨busy, srm, flow, hobex⟩ := hobex
        exact hsame (by simp [hobex])
    | writing hs =>
        obtain ⟨srm, flow, hobex⟩ := hs.obex
        exact hsame (by simp [hobex])
    | closing hs info htasks howner hobex => exact hsame (by simp [hobex])

theorem getResponse_lives {headers : List RspHeader} {srm : Bool} :
    Within Lives (Cli.getResponse headers status srm) := by
  intro s u s' h
  refine ⟨Cli.grows_of_still Cli.getResponse_still s u s' h, fun hgood hs => ?_⟩
  have hother (hobex : s.obex.awaits = false) (habort : ∀ busy srm flow cfm,
      s.obex ≠ .getting busy srm flow (some cfm)) : s' = s := by
    replace h := ends_bind_state.1 h
    split at h
    · next hgetting => exact absurd hgetting (habort _ _ _ _)
    · next hgetting =>
        rw [hgetting] at hobex
        obtain ⟨hawaits, -⟩ | ⟨-, rfl⟩ := ends_only.1 h
        · simp [ObexOp.awaits] at hobex
          simp [hobex.1] at hawaits
          exact absurd hawaits.2 (by simp [hobex.2 hawaits.1])
        · rfl
    · exact (ends_pure.1 h).2
  obtain hidle | ⟨t, a, hout, hwaits⟩ := hs
  · rw [hother (by rw [hidle.obex]; rfl) (by simp [hidle.obex])]
    exact .inl hidle
  · have hsame (hobex : s.obex.awaits = false) (habort : ∀ busy srm flow cfm,
        s.obex ≠ .getting busy srm flow (some cfm)) : Live s' := by
      rw [hother hobex habort]
      exact .inr ⟨t, a, hout, hwaits⟩
    cases hwaits with
    | settingPath hs hobex hdone hclosed =>
        obtain ⟨request, hobex⟩ := hobex
        replace h := ends_bind_state.1 h
        rw [hobex] at h
        rw [(ends_pure.1 h).2]
        exact .inr ⟨t, a, hout, .settingPath hs ⟨request, hobex⟩ hdone hclosed⟩
    | opening hs => exact hsame (by rw [hs.obex]; rfl) (by simp [hs.obex])
    | getting hs hobex hawaits hopened =>
        exact .inr ⟨t, hout ▸ getResponse_goes h hs hobex hawaits hopened hgood⟩
    | writing hs =>
        obtain ⟨srm, flow, hobex⟩ := hs.obex
        exact hsame hs.quiet (by simp [hobex])
    | closing hs info htasks howner hobex => exact hsame (by rw [hobex]; rfl) (by simp [hobex])

/-- No abort is in progress. -/
theorem abortResponse_lives : Within Lives Cli.abortResponse := by
  intro s u s' h
  refine ⟨Cli.grows_of_still Cli.abortResponse_still s u s' h, fun hgood hs => ?_⟩
  have hsame : s' = s := by
    replace h := ends_bind_state.1 h
    split at h
    · next hobex =>
        obtain hidle | ⟨t, a, hout, hwaits⟩ := hs
        · rw [hidle.obex] at hobex
          cases hobex
        · cases hwaits with
          | settingPath hs hsetting =>
              obtain ⟨request, hsetting⟩ := hsetting
              rw [hsetting] at hobex
              cases hobex
          | opening hs =>
              rw [hs.obex] at hobex
              cases hobex
          | getting hs hgetting =>
              obtain ⟨busy, srm, flow, hgetting⟩ := hgetting
              rw [hgetting] at hobex
              cases hobex
          | writing hs =>
              obtain ⟨srm, flow, hgetting⟩ := hs.obex
              rw [hgetting] at hobex
              cases hobex
          | closing hs info htasks howner hidle =>
              rw [hidle] at hobex
              cases hobex
    · exact (ends_pure.1 h).2
  rw [hsame]
  exact hs

theorem openCfm_lives {handle : Nat} : Within Lives (Cli.openCfm handle status) := by
  intro s u s' h
  refine ⟨Cli.grows_of_still Cli.openCfm_still s u s' h, fun hgood hs => ?_⟩
  obtain ⟨u₁, t₁, hrecord, hcfm⟩ := ends_bind.1 h
  have hgrows := Cli.grows_of_still Cli.pbapOpenCfm_still _ _ _ hcfm
  obtain rfl := ends_update.1 hrecord
  obtain ⟨-, horderly⟩ | ⟨t, a, hout, hwaits, horderly⟩ := hs.orderly (hgood.earlier hgrows)
  · cases horderly
  · have hopening : a.opening = true := horderly
    cases hwaits with
    | settingPath hs | getting hs =>
        rw [hs.opening] at hopening
        cases hopening
    | opening hs => exact .inr ⟨t, hout ▸ openCfm_goes h hs⟩
    | writing hs =>
        rw [hs.opening] at hopening
        cases hopening
    | closing hs info htasks howner hobex hpending hnone =>
        rw [hnone] at hopening
        cases hopening

theorem writeCfm_lives : Within Lives (Cli.writeCfm status) := by
  intro s u s' h
  refine ⟨Cli.grows_of_still Cli.writeCfm_still s u s' h, fun hgood hs => ?_⟩
  obtain ⟨u₁, t₁, hrecord, hcfm⟩ := ends_bind.1 h
  replace hrecord := ends_bind_view.1 hrecord
  have hgrows := Cli.grows_of_still Cli.pbapWriteCfm_still _ _ _ hcfm
  obtain rfl := ends_update.1 hrecord
  obtain ⟨-, horderly⟩ | ⟨t, a, hout, hwaits, horderly⟩ := hs.orderly (hgood.earlier hgrows)
  · cases horderly
  · have hunconfirmed : a.unconfirmed.isSome = true := horderly
    have hnone (h : a.unconfirmed = none) : False := by
      rw [h] at hunconfirmed
      cases hunconfirmed
    cases hwaits with
    | settingPath hs | getting hs => exact absurd hs.unconfirmed hnone
    | opening hs => exact absurd hs.unconfirmed hnone
    | writing hs => exact .inr ⟨t, hout ▸ writeCfm_goes h hs hgood⟩
    | closing hs info htasks howner hobex hpending hopening hunwritten h => exact absurd h hnone

/-- One event keeps the invariant. -/
theorem step_lives {event : Cli.Event} (hevent : event.lasting = true) :
    Within Lives (Cli.step event) := by
  cases event with
  | call call => exact makeCall_lives
  | setPathRsp status => exact setPathResponse_lives
  | getRsp headers status srm => exact getResponse_lives
  | abortRsp => exact abortResponse_lives
  | openCfm handle status => exact openCfm_lives
  | writeCfm status => exact writeCfm_lives
  | dispatch index => exact runTask_lives
  | freeConnection status => cases hevent

/-- A run keeps the invariant. -/
theorem perform_lives {events : List Cli.Event}
    (hevents : ∀ event ∈ events, event.lasting = true) :
    Within Lives (perform Cli.step events) := by
  induction events with
  | nil => exact .pure
  | cons event events ih =>
      refine .bind (step_lives (hevents event mem_cons_self)) fun _ => ?_
      exact ih fun e he => hevents e (mem_cons_of_mem _ he)

/-- Nothing is going to happen by itself. -/
def Session.quiet (s : Session) : Prop :=
  s.obex.awaits = false ∧ s.client.fileOpCfmPending = false ∧ s.tasks = []

/-- The requests so far are in order. -/
structure Completes (s : Session) : Prop where
  /-- each act fits the account of the request it belongs to -/
  account : ∃ a, audit s.history = some a
  /-- the requests accepted are completed once each, in order, but for the last of them -/
  once : ∃ waiting, accepted s.history = completions s.history ++ Option.toList waiting
  /-- when nothing is going to happen, all are completed -/
  all : s.quiet → accepted s.history = completions s.history

theorem Live.completes (hs : Live s) : Completes s := by
  obtain hidle | ⟨t, a, hout, hwaits⟩ := hs
  · have haccepted := accepted_of_audit hidle.audit
    refine ⟨⟨_, hidle.audit⟩, ⟨none, haccepted⟩, fun _ => ?_⟩
    rw [haccepted]
    exact append_nil _
  · refine ⟨⟨a, hwaits.busy.audit⟩, ⟨_, accepted_of_audit hwaits.busy.audit⟩, ?_⟩
    rintro ⟨hawaits, hpending, htasks⟩
    exfalso
    cases hwaits with
    | settingPath hs hobex =>
        obtain ⟨request, hobex⟩ := hobex
        rw [hobex] at hawaits
        cases hawaits
    | opening hs =>
        rw [hs.pending] at hpending
        cases hpending
    | getting hs hobex hwaiting =>
        rw [hwaiting] at hawaits
        cases hawaits
    | writing hs =>
        rw [hs.pending] at hpending
        cases hpending
    | closing hs info hone =>
        rw [hone] at htasks
        cases htasks

end Runs

/-- A client between requests, in kind surroundings. -/
theorem start_live {memory : Memory} {outcomes : List Status} {answers : List FileAnswer}
    {replies : List (List Call)} (hmemory : ∀ room ∈ memory.blocks, room = true)
    (hanswers : ∀ answer ∈ answers, answer.status.success = true) :
    Live (.start memory outcomes answers replies) :=
  .inl ⟨rfl, ⟨hmemory, hanswers⟩, rfl, rfl, rfl, rfl, rfl, rfl, rfl⟩

/-- In every run in which the application makes one request at a time, and everything goes
smoothly, each request is completed exactly once, after what was received for it has been
written, and its file is closed once. -/
theorem requests_complete (memory : Memory) (outcomes : List Status) (answers : List FileAnswer)
    (replies : List (List Call)) (events : List Cli.Event) {s : Session}
    (hmemory : ∀ room ∈ memory.blocks, room = true)
    (hanswers : ∀ answer ∈ answers, answer.status.success = true)
    (hevents : ∀ event ∈ events, event.lasting = true)
    (h : Ends (perform Cli.step events) (.start memory outcomes answers replies) () s)
    (horderly : Orderly s.history) (hsmooth : ∀ act ∈ s.history, act.smooth = true) :
    Completes s :=
  ((perform_lives hevents _ _ _ h).live ⟨horderly, hsmooth⟩
    (start_live hmemory hanswers)).completes

/-- A phonebook in two parts, confirmed later; inside its completion the size is asked for. -/
def pullThenSize : List Cli.Event :=
  [.call (.pullPhonebook localRepository mainPhonebook none 0 10 0), .openCfm 1 .ok,
    .getRsp [.body [1, 2]] .obexContinue false, .writeCfm .ok, .getRsp [.body []] .ok false,
    .dispatch 0, .getRsp [.applicationParams [8, 2, 0, 5]] .ok false, .dispatch 0]

theorem requests_complete_pullThenSize :
    ∃ s, Ends (perform Cli.step pullThenSize)
        (.start .plenty [] [] [[.getPhonebookSize localRepository mainPhonebook]]) () s ∧
      completions s.history = [0, 1] ∧ Completes s := by
  have hreach : reaches (perform Cli.step pullThenSize)
      (.start .plenty [] [] [[.getPhonebookSize localRepository mainPhonebook]])
      (fun s => decide (completions s.history = [0, 1]) &&
        (orderlyFrom .clear s.history && s.history.all Act.smooth)) = true := by
    decide +kernel
  obtain ⟨s, hends, hcheck⟩ := reaches_iff.1 hreach
  obtain ⟨hcompletions, hgood⟩ := Bool.and_eq_true_iff.1 hcheck
  obtain ⟨horderly, hsmooth⟩ := Bool.and_eq_true_iff.1 hgood
  exact ⟨s, hends, of_decide_eq_true hcompletions,
    requests_complete _ _ _ _ _ (by simp [Memory.plenty]) (by simp) (by decide) hends horderly
      (all_eq_true.1 hsmooth)⟩

/-- The last response has a body. The client registers a close for the response and one for
the confirmation; the second completes the request made when the first has run. -/
def bodyInLastResponse : List Cli.Event :=
  [.call (.pullPhonebook localRepository mainPhonebook none 0 10 0), .openCfm 1 .ok,
    .getRsp [.body [1, 2]] .ok false, .writeCfm .ok, .dispatch 0, .dispatch 0]

theorem later_request_completed :
    ¬ ∀ (memory : Memory) (outcomes : List Status) (answers : List FileAnswer)
      (replies : List (List Call)) (events : List Cli.Event) (s : Session),
      (∀ event ∈ events, event.lasting = true) →
      Ends (perform Cli.step events) (.start memory outcomes answers replies) () s →
      Orderly s.history → Completes s := by
  intro hall
  have hreach : reaches (perform Cli.step bodyInLastResponse)
      (.start .plenty [] [] [[.pullPhonebook localRepository incomingCallsHistory none 0 10 0]])
      (fun s => orderlyFrom .clear s.history && decide (audit s.history = none)) = true := by
    decide +kernel
  obtain ⟨s, hends, hcheck⟩ := reaches_iff.1 hreach
  obtain ⟨horderly, hnone⟩ := Bool.and_eq_true_iff.1 hcheck
  obtain ⟨a, ha⟩ := (hall _ _ _ _ _ s (by decide) hends horderly).account
  rw [of_decide_eq_true hnone] at ha
  cases ha

end Pbap
