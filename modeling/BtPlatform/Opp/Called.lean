import BtPlatform.Opp.Client

/-!
# The names that the client hands out

While a push is under way the object has the name of a file of the application. At all
other times it has a name that the server has sent, and that name is no path.
-/

namespace Opp

open Obex Support List

/-- The name that a call hands to the object store for writing, or to the application for
an object that arrives. -/
def ClientAct.handed : ClientAct → Option (List UInt16)
  | .openWrite name _ _ => name
  | .pullStarted fileName _ => fileName
  | _ => none

/-- A push is under way. -/
def Client.Pushes (c : Client) : Prop := c.state = .pushPending ∨ c.state = .pushing

/-- The name of the object is no path, unless it is the application's. -/
def Client.Kept (c : Client) : Prop := c.Pushes ∨ c.curObj.NameBase

theorem Client.Kept.base {c : Client} (h : c.Kept) (hpush : ¬ c.Pushes) : c.curObj.NameBase :=
  h.resolve_left hpush

variable {str : List UInt16}

/-- What follows the last separator of a base name is a base name. -/
theorem rtakeWhile_base (h : Base str) :
    str.rtakeWhile (fun c => decide (¬ IsSeparator c)) = remainder str := by
  unfold List.rtakeWhile
  by_cases hinside : telecom <+: str
  · have hrest := remainder_inside hinside
    obtain ⟨rest, rfl⟩ := hinside
    rw [drop_left] at hrest
    have hplain := h.plain
    rw [hrest] at hplain ⊢
    rw [reverse_append, takeWhile_append_of_pos]
    · have hslash : telecom.reverse.takeWhile (fun c => decide (¬ IsSeparator c)) = [] := by
        decide
      rw [hslash, append_nil, reverse_reverse]
    · intro c hc
      exact decide_eq_true (hplain c (mem_reverse.1 hc))
  · have hplain := h.plain
    rw [remainder_outside hinside] at hplain ⊢
    have hall : str.reverse.takeWhile (fun c => decide (¬ IsSeparator c)) = str.reverse := by
      rw [takeWhile_eq_self_iff]
      intro c hc
      exact decide_eq_true (hplain c (mem_reverse.1 hc))
    rw [hall, reverse_reverse]

theorem remainder_remainder (h : Base str) : remainder (remainder str) = remainder str := by
  apply remainder_outside
  intro hinside
  have hmem : slash ∈ remainder str := hinside.subset (by decide)
  exact h.plain slash hmem (.inr (.inl rfl))

theorem base_remainder (h : Base str) : Base (remainder str) where
  plain := by
    rw [remainder_remainder h]
    exact h.plain
  notDot := by
    rw [remainder_remainder h]
    exact h.notDot
  notDots := by
    rw [remainder_remainder h]
    exact h.notDots

/-- Without its path a base name is a base name. -/
theorem stripPath_base {name : Option (List UInt16)} (h : ∀ str ∈ name, Base str) (room : Bool) :
    ∀ str ∈ Calling.stripPath name room, Base str := by
  intro str hmem
  cases name with
  | none => cases hmem
  | some given =>
      have hbase := h given rfl
      cases hmem
      dsimp only
      rw [rtakeWhile_base hbase]
      split
      · exact hbase
      · exact base_remainder hbase

namespace Calling

/-- No name from outside is a path: neither the one in the object nor one that has been
handed out. -/
structure Safe (s : Calling) : Prop where
  kept : ∀ c ∈ s.client, c.Kept
  handed : ∀ act ∈ s.acts, ∀ name ∈ act.handed, Base name

theorem start_safe : Safe start where
  kept := by
    intro c hc
    cases hc
  handed := by
    intro act hact
    cases hact

variable {s : Calling} {env : Surroundings} {c : Client}

theorem client_of_lookup (h : s.lookup = some c) : s.client = some c := by
  unfold lookup at h
  split at h
  · exact h
  · cases h

theorem Safe.lookup (hs : s.Safe) (h : s.lookup = some c) : c.Kept :=
  hs.kept c (client_of_lookup h)

theorem Safe.set (hs : s.Safe) {c : Client} (hc : c.Kept) : (s.set c).Safe where
  kept := by
    intro c' hc'
    cases hc'
    exact hc
  handed := hs.handed

theorem Safe.emit (hs : s.Safe) {act : ClientAct} (hact : ∀ name ∈ act.handed, Base name) :
    (s.emit act).Safe where
  kept := hs.kept
  handed := by
    intro act' hmem
    obtain hmem | hmem := mem_append.1 hmem
    · exact hs.handed act' hmem
    · rw [mem_singleton.1 hmem]
      exact hact

/-- A call that hands over no name. -/
theorem Safe.emit_other (hs : s.Safe) (act : ClientAct) (hact : act.handed = none) :
    (s.emit act).Safe :=
  hs.emit fun name hname => by
    rw [hact] at hname
    cases hname

theorem Safe.dispatcher (hs : s.Safe) (dispatcher : Dispatcher ClientTask) :
    Safe { s with dispatcher := dispatcher } :=
  ⟨hs.kept, hs.handed⟩

/-- Write to the record, and leave a function with the dispatcher. -/
theorem Safe.opened (hs : s.Safe) {c : Client} (hc : c.Kept)
    (dispatcher : Dispatcher ClientTask) :
    Safe { s with client := some c, dispatcher := dispatcher } :=
  ⟨(hs.set hc).kept, hs.handed⟩

theorem Safe.freed (hs : s.Safe) : Safe { s with client := none, id := false } where
  kept := by
    intro c hc
    cases hc
  handed := hs.handed

theorem Safe.invalid (hs : s.Safe) : Safe { s with id := false } := ⟨hs.kept, hs.handed⟩

theorem Safe.closeObject (hs : s.Safe) {c : Client} (hc : c.Kept) (status : Status) :
    (s.closeObject env c status).Safe := by
  unfold Calling.closeObject
  split
  · exact hs.set hc
  · apply hs.opened
    exact hc

theorem completion_handed {status : Status} {act : ClientAct} (h : act ∈ completion c status) :
    act.handed = none := by
  unfold completion at h
  split at h
  · obtain rfl | rfl : act = _ ∨ act = _ := by simpa using h
    · rfl
    · rfl
  · cases mem_singleton.1 h
    rfl
  · obtain rfl | rfl : act = _ ∨ act = _ := by simpa using h
    · rfl
    · rfl
  · cases mem_singleton.1 h
    rfl
  · cases h

theorem closed_kept (c : Client) : (closed c).Kept := .inr GenericObject.nameBase_zero

theorem Safe.closeObjectCB (hs : s.Safe) : s.closeObjectCB.Safe := by
  unfold Calling.closeObjectCB
  split
  · exact hs
  · next c hc =>
      constructor
      · intro c' hc'
        dsimp only at hc'
        split at hc'
        · cases hc'
        · cases hc'
          exact closed_kept c
      · have hnone : ∀ {act : ClientAct}, act.handed = none → ∀ name ∈ act.handed, Base name := by
          intro act hact name hname
          rw [hact] at hname
          cases hname
        intro act hmem
        rw [mem_append, mem_append, mem_append] at hmem
        obtain ((hold | hcompletion) | hcancel) | hdisconnect := hmem
        · exact hs.handed act hold
        · exact hnone (completion_handed hcompletion)
        · split at hcancel
          · cases mem_singleton.1 hcancel
            exact hnone rfl
          · cases hcancel
        · split at hdisconnect
          · cases mem_singleton.1 hdisconnect
            exact hnone rfl
          · cases hdisconnect

theorem Safe.callPendingClose (hs : s.Safe) : s.callPendingClose.Safe := by
  unfold Calling.callPendingClose
  split
  · exact hs
  · split
    · exact (hs.dispatcher _).closeObjectCB
    · exact hs

/-! ## Connecting, disconnecting and cancelling -/

theorem Safe.connect (hs : s.Safe) : (s.connect env).2.Safe := by
  unfold Calling.connect
  split
  · exact hs
  · split
    · exact ⟨(hs.set (.inr GenericObject.nameBase_zero)).kept, hs.handed⟩
    · exact hs

theorem Safe.clientConnectCfm (hs : s.Safe) {status : Status}
    (h : status = .ok → ∀ c ∈ s.lookup, c.curObj.NameBase) :
    (s.clientConnectCfm status).Safe := by
  unfold Calling.clientConnectCfm
  split
  · exact hs
  · next c hc =>
      split
      · next hstatus =>
          apply Safe.emit_other
          · apply Safe.set hs
            exact .inr (h (by simpa using hstatus) c hc)
          · rfl
      · exact (hs.emit_other _ rfl).freed

theorem Safe.clientDisconnectInd (hs : s.Safe) : (s.clientDisconnectInd env).Safe := by
  unfold Calling.clientDisconnectInd
  split
  · exact hs.invalid
  · next c hc =>
      have hkept := hs.lookup hc
      apply Safe.invalid
      split
      · apply Safe.callPendingClose
        exact hs.set hkept
      · split
        · exact hs.set hkept
        · apply Safe.callPendingClose
          apply hs.closeObject
          exact hkept

theorem Safe.pullAbortCfm (hs : s.Safe) : (s.pullAbortCfm env).Safe := by
  unfold Calling.pullAbortCfm
  split
  · exact hs
  · next c hc => exact hs.closeObject (hs.lookup hc) _

theorem Safe.abortCfm (hs : s.Safe) : (s.abortCfm env).Safe := by
  unfold Calling.abortCfm
  split
  · exact hs
  · next c hc =>
      have hkept := hs.lookup hc
      split
      · exact hs
      · apply Safe.callPendingClose
        apply hs.closeObject
        exact hkept

theorem Safe.cancel (hs : s.Safe) : (s.cancel env).2.Safe := by
  unfold Calling.cancel
  split
  · exact hs
  · next c hc =>
      have hkept := hs.lookup hc
      split
      · exact hs
      · split
        · exact hs
        · dsimp only
          split
          · apply Safe.set
            · exact hs.emit_other _ rfl
            · exact hkept
          · apply Safe.closeObject
            · exact hs.emit_other _ rfl
            · exact hkept

theorem Safe.enableNameOverride (hs : s.Safe) (enabled : Bool) :
    (s.enableNameOverride enabled).2.Safe := by
  unfold Calling.enableNameOverride
  split
  · exact hs
  · next c hc =>
      have hkept := hs.lookup hc
      split
      · apply hs.set
        exact hkept
      · exact hs

/-! ## A push -/

theorem Safe.pushReadCfm (hs : s.Safe) (data : List UInt8) (status : Status) :
    (s.pushReadCfm env data status).Safe := by
  unfold Calling.pushReadCfm
  split
  · exact hs
  · next c hc =>
      have hkept := hs.lookup hc
      split
      · exact hs
      · dsimp only
        split
        · apply hs.closeObject
          exact hkept
        · have hsent : ∀ act : ClientAct, act.handed = none →
              ((s.set { c with ofsCfmPending := false }).emit act).Safe := by
            intro act hact
            apply Safe.emit_other
            · apply hs.set
              exact hkept
            · exact hact
          have hcall : (if status = endOfFile then ClientAct.bulkPut (some data) .ok
              else if status.success then .bulkPut (some data) .obexContinue
              else .bulkPut none status).handed = none := by
            split
            · rfl
            · split
              · rfl
              · rfl
          split
          · exact hsent _ hcall
          · apply Safe.closeObject
            · exact hsent _ hcall
            · exact hkept

theorem Safe.putConfirmed (hs : s.Safe) {terminate : Surroundings → Status → ClientAct × Status}
    (hterminate : ∀ status, (terminate env status).1.handed = none) (status : Status) :
    (putConfirmed terminate s env status).Safe := by
  unfold Calling.putConfirmed
  split
  · exact hs
  · next c hc =>
      have hkept := hs.lookup hc
      split
      · split
        · apply Safe.closeObject
          · exact hs.emit_other _ (hterminate _)
          · exact hkept
        · have hread : ((s.set { c with ofsCfmPending := true }).emit (.read c.handle)).Safe := by
            apply Safe.emit_other
            · apply hs.set
              exact hkept
            · rfl
          dsimp only
          split
          · exact hread.pushReadCfm _ _
          · split
            · exact hread
            · apply Safe.closeObject
              · exact hread.emit_other _ (hterminate _)
              · exact hkept
      · split
        · apply hs.closeObject
          exact hkept
        · exact hs

theorem Safe.clientBulkPutCfm (hs : s.Safe) (status : Status) :
    (clientBulkPutCfm s env status).Safe :=
  hs.putConfirmed (fun _ => rfl) status

theorem Safe.clientPutCfm (hs : s.Safe) (status : Status) : (clientPutCfm s env status).Safe :=
  hs.putConfirmed (fun _ => rfl) status

theorem Safe.deferredPushOpenCfm (hs : s.Safe) (confirm : OpenConfirm) :
    (s.deferredPushOpenCfm env confirm).Safe := by
  unfold Calling.deferredPushOpenCfm
  split
  · exact hs
  · next c hc =>
      have hkept := hs.lookup hc
      have hpushing : ∀ c' : Client, c'.state = .pushing → c'.Kept := fun c' h => .inl (.inr h)
      dsimp only
      split
      · apply hs.closeObject
        split
        · exact hpushing _ rfl
        · exact hkept
      · split
        · split
          · apply Safe.emit_other
            · apply hs.set
              exact hpushing _ rfl
            · rfl
          · apply Safe.closeObject
            · apply Safe.emit_other
              · apply hs.set
                exact hpushing _ rfl
              · rfl
            · exact hpushing _ rfl
        · apply hs.closeObject
          exact hkept

theorem Safe.pushOpenCfm (hs : s.Safe) (confirm : OpenConfirm) :
    (s.pushOpenCfm env confirm).Safe := by
  unfold Calling.pushOpenCfm
  split
  · exact hs
  · next c hc =>
      have hkept := hs.lookup hc
      split
      · exact hs
      · split
        · apply Safe.emit_other
          · apply hs.set
            exact hkept
          · rfl
        · exact hs.deferredPushOpenCfm confirm

theorem stripPath_kept (h : c.Kept) (room : Bool) :
    Client.Kept { c with curObj := { c.curObj with name := stripPath c.curObj.name room } } := by
  obtain hpush | hbase := h
  · exact .inl hpush
  · exact .inr (stripPath_base hbase room)

theorem Safe.pushOpenCfmWithoutOverride (hs : s.Safe) (confirm : OpenConfirm) :
    (s.pushOpenCfmWithoutOverride env confirm).Safe := by
  unfold Calling.pushOpenCfmWithoutOverride
  split
  · exact hs
  · next c hc =>
      apply Safe.deferredPushOpenCfm
      apply Safe.set
      · exact hs.emit_other _ rfl
      · exact stripPath_kept (hs.lookup hc) _

variable {name : Option (List UInt16)}

theorem Safe.push (hs : s.Safe) {type : Option (List UInt8)}
    (h : ¬ env.ofs.success → ∀ c ∈ s.lookup, isIdle c →
      ∀ str ∈ (duplicate name env.memory).1, Base str) : (s.push env name type).2.Safe := by
  unfold Calling.push
  split
  · exact hs
  · next c hc =>
      split
      · exact hs
      · split
        · exact hs
        · next hidle =>
            have hidle : isIdle c := by simpa using hidle
            dsimp only
            split
            · apply Safe.emit_other
              · apply hs.set
                exact .inl (.inl rfl)
              · rfl
            · next hofs =>
                apply Safe.set
                · apply Safe.emit_other
                  · apply hs.set
                    exact .inl (.inl rfl)
                  · rfl
                · exact .inr (h hofs c hc hidle)

/-! ## A pull -/

theorem Safe.pullWriteCfm (hs : s.Safe) (status : Status) :
    (s.pullWriteCfm env status).Safe := by
  unfold Calling.pullWriteCfm
  split
  · exact hs
  · next c hc =>
      have hkept := hs.lookup hc
      split
      · exact hs
      · dsimp only
        have hsent : ∀ act : ClientAct, act.handed = none →
            ((s.set { c with ofsCfmPending := false }).emit act).Safe := by
          intro act hact
          apply Safe.emit_other
          · apply hs.set
            exact hkept
          · exact hact
        have hcall : (if status.success then ClientAct.get [] else .abort).handed = none := by
          split
          · rfl
          · rfl
        split
        · apply hs.closeObject
          exact hkept
        · split
          · apply hs.closeObject
            exact hkept
          · split
            · exact hsent _ hcall
            · apply Safe.closeObject
              · exact hsent _ hcall
              · exact hkept

theorem Safe.writeBody (hs : s.Safe) {c : Client} (hc : c.Kept) : (s.writeBody env c).Safe := by
  unfold Calling.writeBody
  dsimp only
  split
  · apply Safe.emit_other
    · apply hs.set
      exact hc
    · rfl
  · apply Safe.closeObject
    · exact hs.emit_other _ rfl
    · exact hc

theorem Safe.firstBodyHeader (hs : s.Safe) : (s.firstBodyHeader env).Safe := by
  unfold Calling.firstBodyHeader
  split
  · exact hs
  · next c hc => exact hs.writeBody (hs.lookup hc)

theorem Safe.pullOpenCfm (hs : s.Safe) (handle : Option Handle) (status : Status) :
    (s.pullOpenCfm env handle status).Safe := by
  unfold Calling.pullOpenCfm
  split
  · exact hs
  · next c hc =>
      split
      · exact hs
      · next hready =>
          have hpending : c.state = .pullPending := by
            by_contra hother
            exact hready (.inl hother)
          have hbase : c.curObj.NameBase := by
            apply (hs.lookup hc).base
            rintro (hpush | hpush)
            · cases hpending.symm.trans hpush
            · cases hpending.symm.trans hpush
          have hany : ∀ c' : Client, c'.curObj = c.curObj → c'.Kept := by
            intro c' hobj
            right
            rwa [hobj]
          dsimp only
          split
          · apply hs.closeObject
            split
            · exact hany _ rfl
            · exact hany _ rfl
          · split
            · apply hs.opened
              exact hany _ rfl
            · split
              · apply hs.closeObject
                exact hany _ rfl
              · split
                · apply Safe.emit_other
                  · apply hs.set
                    exact hany _ rfl
                  · rfl
                · apply Safe.closeObject
                  · apply Safe.emit_other
                    · apply hs.set
                      exact hany _ rfl
                    · rfl
                  · exact hany _ rfl

theorem Safe.pull (hs : s.Safe) : (s.pull env).2.Safe := by
  unfold Calling.pull
  split
  · exact hs
  · next c hc =>
      split
      · exact hs
      · split
        · exact hs
        · next hidle =>
            have hconnected : c.state = .connected := by
              have : isIdle c := by simpa using hidle
              unfold isIdle at this
              exact of_decide_eq_true (Bool.and_eq_true_iff.1 this).1
            have hbase : c.curObj.NameBase := by
              apply (hs.lookup hc).base
              rintro (hpush | hpush)
              · cases hconnected.symm.trans hpush
              · cases hconnected.symm.trans hpush
            dsimp only
            split
            · apply Safe.set
              · exact hs.emit_other _ rfl
              · exact .inr hbase
            · apply Safe.set
              · exact hs.emit_other _ rfl
              · exact .inr hbase

theorem closeObject_curObj {c : Client} {status : Status} {c' : Client}
    (h : (s.closeObject env c status).client = some c') : c'.curObj = c.curObj := by
  unfold closeObject at h
  split at h
  · cases h
    rfl
  · cases h
    rfl

/-- The name of the object stays. -/
theorem deferredPushOpenCfm_name (hc : s.client = some c) {confirm : OpenConfirm} {c' : Client}
    (h : (s.deferredPushOpenCfm env confirm).client = some c') :
    c'.curObj.name = c.curObj.name := by
  unfold deferredPushOpenCfm at h
  split at h
  · rw [hc] at h
    cases h
    rfl
  · next found hfound =>
      have hsame : found = c := Option.some.inj ((client_of_lookup hfound).symm.trans hc)
      subst hsame
      dsimp only at h
      split at h
      · rw [closeObject_curObj h]
        split
        · rfl
        · rfl
      · split at h
        · split at h
          · cases h
            rfl
          · rw [closeObject_curObj h]
        · rw [closeObject_curObj h]

theorem pushPending_kept {c : Client} (h : c.state = .pushPending) : c.Kept := .inl (.inl h)

theorem base_of_pullPending (hc : c.Kept) (h : c.state = .pullPending) : c.curObj.NameBase := by
  apply hc.base
  rintro (hpush | hpush)
  · cases h.symm.trans hpush
  · cases h.symm.trans hpush

theorem Safe.nameOverride (hs : s.Safe) (hc : c.Kept)
    (h : c.state = .pullPending → ∀ str ∈ name, Base str) : (s.nameOverride env c name).2.Safe := by
  unfold Calling.nameOverride
  split
  · next hpending =>
      have hbase := base_of_pullPending hc hpending
      apply Safe.emit
      · apply hs.set
        exact .inr hbase
      · intro str hmem
        cases name with
        | none => exact hbase str hmem
        | some given => exact h hpending str hmem
  · next hpending =>
      apply Safe.deferredPushOpenCfm
      apply hs.set
      exact pushPending_kept hpending
  · exact hs.set hc

theorem nameOverride_base (hc : c.curObj.NameBase) {c' : Client}
    (h : (s.nameOverride env c none).2.client = some c') : c'.curObj.NameBase := by
  unfold nameOverride at h
  split at h
  · cases h
    exact hc
  · dsimp only at h
    intro str hmem
    rw [deferredPushOpenCfm_name rfl h] at hmem
    exact stripPath_base hc _ str hmem
  · cases h
    exact hc

/-- A pull starts with a name that is no path. -/
theorem Safe.getRcvStart (hs : s.Safe) (hc : c.curObj.NameBase) (status : Status) :
    (s.getRcvStart env c status).2.Safe ∧
      ∀ c' ∈ (s.getRcvStart env c status).2.client, c'.curObj.NameBase := by
  have hstarted : ∀ (t : Calling) (status : Status), t.Safe →
      (∀ c' ∈ t.client, c'.curObj.NameBase) →
      (startPull t status).2.Safe ∧ ∀ c' ∈ (startPull t status).2.client, c'.curObj.NameBase := by
    intro t status ht hbase
    unfold startPull
    split
    · exact ⟨ht, hbase⟩
    · next c' hc' =>
        split
        · exact ⟨ht, hbase⟩
        · refine ⟨?_, ?_⟩
          · apply Safe.emit
            · apply ht.set
              exact .inr (hbase c' hc')
            · exact hbase c' hc'
          · intro c'' hc''
            cases hc''
            exact hbase c' hc'
  unfold Calling.getRcvStart
  dsimp only
  split
  · apply hstarted
    · apply hs.set
      exact .inr hc
    · intro c' hc'
      cases hc'
      exact hc
  · apply hstarted
    · apply hs.nameOverride
      · exact .inr hc
      · exact nofun
    · intro c' hc'
      exact @nameOverride_base s env { c with ofsCfmPending := true } hc c' hc'

/-- The status of a response that is not an error. -/
def Received (rcvStatus : Status) : Prop := rcvStatus = .ok ∨ rcvStatus = .obexContinue

theorem received_iff {rcvStatus : Status} :
    (rcvStatus.success = true ∨ rcvStatus = .obexContinue) ↔ Received rcvStatus := by
  unfold Received
  rw [Status.success, beq_iff_eq]

theorem Safe.closeFailed {r : Status × Calling} (hr : r.2.Safe)
    (hclient : ∀ c' ∈ r.2.client, c'.curObj.NameBase) :
    Safe (match r.2.client with
      | none => r.2
      | some c => if r.1.success then r.2 else r.2.closeObject env c r.1) := by
  split
  · exact hr
  · next c' hc' =>
      split
      · exact hr
      · apply hr.closeObject
        exact .inr (hclient c' hc')

theorem Safe.getRcv (hs : s.Safe) {headers : List Header} {rcvStatus : Status}
    (h : ∀ c ∈ s.lookup, Received rcvStatus →
      c.curObj.NameBase ∧ Parsing.Careful ⟨c.curObj, env.memory⟩ headers) :
    ∃ s', s.getRcv env headers rcvStatus = .ok s' ∧ s'.Safe := by
  unfold Calling.getRcv
  split
  · exact ⟨s, rfl, hs⟩
  · next c hc =>
      by_cases hreceived : Received rcvStatus
      · obtain ⟨hbase, hcareful⟩ := h c hc hreceived
        obtain ⟨⟨status, parsed⟩, hparsed, hbase'⟩ := Parsing.parseHeaders_careful hcareful hbase
        rw [if_pos (received_iff.2 hreceived), hparsed, ok_bind]
        dsimp only
        refine ⟨_, rfl, ?_⟩
        apply Safe.closeFailed
        · split
          · exact (hs.getRcvStart hbase' _).1
          · apply Safe.emit_other
            · apply hs.set
              exact .inr hbase'
            · rfl
        · split
          · exact (@Safe.getRcvStart s env _ hs hbase' _).2
          · intro c' hc'
            cases hc'
            exact hbase'
      · rw [if_neg fun hother => hreceived (received_iff.1 hother)]
        exact ⟨_, rfl, hs.closeObject (hs.lookup hc) _⟩

theorem Safe.getRcvData (hs : s.Safe) {headers : List Header} {rcvStatus : Status}
    (h : ∀ c ∈ s.lookup, Received rcvStatus →
      Parsing.Careful ⟨c.curObj, env.memory⟩ headers) :
    ∃ s', s.getRcvData env headers rcvStatus = .ok s' ∧ s'.Safe := by
  unfold Calling.getRcvData
  split
  · exact ⟨s, rfl, hs⟩
  · next c hc =>
      by_cases hreceived : Received rcvStatus
      · have hcareful := h c hc hreceived
        obtain ⟨⟨status, parsed⟩, hparsed⟩ := Parsing.parseHeaders_ends hcareful
        have hkept : ∀ c' : Client, c'.state = c.state → c'.curObj = parsed.obj → c'.Kept := by
          intro c' hstate hobj
          obtain hpush | hbase := hs.lookup hc
          · left
            unfold Client.Pushes
            rwa [hstate]
          · obtain ⟨r, hr, hbase'⟩ := Parsing.parseHeaders_careful hcareful hbase
            have hsame : r = (status, parsed) := Except.ok.inj (hr.symm.trans hparsed)
            subst hsame
            right
            rwa [hobj]
        rw [if_pos (received_iff.2 hreceived), hparsed, ok_bind]
        dsimp only
        refine ⟨_, rfl, ?_⟩
        split
        · apply hs.writeBody
          exact hkept _ rfl rfl
        · apply hs.closeObject
          exact hkept _ rfl rfl
      · rw [if_neg fun hother => hreceived (received_iff.1 hother)]
        exact ⟨_, rfl, hs.closeObject (hs.lookup hc) _⟩

theorem Safe.clientNameOverride (hs : s.Safe)
    (h : ∀ c ∈ s.lookup, c.nameOverridePending = true → c.state = .pullPending →
      ∀ str ∈ name, Base str) : (s.clientNameOverride env name).2.Safe := by
  unfold Calling.clientNameOverride
  split
  · exact hs
  · next c hc =>
      have hkept := hs.lookup hc
      split
      · exact hs
      · split
        · next hpending =>
            apply hs.nameOverride
            · exact hkept
            · exact h c hc hpending
        · exact hs

theorem Safe.dispatch (hs : s.Safe) (handle : Nat) : (s.dispatch env handle).Safe := by
  unfold Calling.dispatch
  dsimp only
  split
  · exact hs
  · exact (hs.dispatcher _).closeObjectCB
  · exact (hs.dispatcher _).firstBodyHeader

/-! ## Steps and runs -/

/-- An event that the client deals with safely: the names of the headers that are read do
not belong to `telecom/` as a whole, and the application's own paths stay out of a pull. It
names no path when it overrides the name of an object that arrives, a push that the object
store refuses at once leaves no path behind, and neither a response to a GET nor the
confirmation of the connection arrives while a path is pushed. -/
def Careful (s : Calling) (env : Surroundings) : ClientEvent → Prop
  | .getRcv rspHeaders rcvStatus =>
      ∀ c ∈ s.lookup, Received rcvStatus →
        (c.Pushes → c.curObj.NameBase) ∧ Parsing.Careful ⟨c.curObj, env.memory⟩ rspHeaders
  | .getRcvData rspHeaders rcvStatus =>
      ∀ c ∈ s.lookup, Received rcvStatus → Parsing.Careful ⟨c.curObj, env.memory⟩ rspHeaders
  | .nameOverride name =>
      ∀ c ∈ s.lookup, c.nameOverridePending = true → c.state = .pullPending →
        ∀ str ∈ name, Base str
  | .push name _ =>
      ¬ env.ofs.success → ∀ c ∈ s.lookup, isIdle c →
        ∀ str ∈ (duplicate name env.memory).1, Base str
  | .clientConnectCfm status =>
      status = .ok → ∀ c ∈ s.lookup, c.Pushes → c.curObj.NameBase
  | _ => True

/-- A pull reads nothing behind a name, and no name becomes a path. -/
structure SafeStep (s : Calling) (env : Surroundings) (event : ClientEvent) : Prop where
  inside : ∃ s', s.step env event = .ok s'
  safe : ∀ s', s.step env event = .ok s' → s'.Safe

theorem safeStep_of_ok {event : ClientEvent} {s' : Calling} (h : s.step env event = .ok s')
    (hs' : s'.Safe) : SafeStep s env event := by
  refine ⟨⟨s', h⟩, fun s'' hs'' => ?_⟩
  rw [h] at hs''
  cases hs''
  exact hs'

/-- A careful step from a safe state is safe. -/
theorem safeStep_of_careful (hs : s.Safe) {event : ClientEvent} (h : s.Careful env event) :
    SafeStep s env event := by
  have hbase : ∀ c ∈ s.lookup, (c.Pushes → c.curObj.NameBase) → c.curObj.NameBase := by
    intro c hc hpush
    exact (hs.lookup hc).elim hpush fun h => h
  cases event with
  | connect => exact safeStep_of_ok rfl hs.connect
  | clientConnectCfm status =>
      exact safeStep_of_ok rfl
        (hs.clientConnectCfm fun hok c hc => hbase c hc (h hok c hc))
  | clientDisconnectInd => exact safeStep_of_ok rfl hs.clientDisconnectInd
  | push name type => exact safeStep_of_ok rfl (hs.push h)
  | pushOpenCfm confirm => exact safeStep_of_ok rfl (hs.pushOpenCfm confirm)
  | pushOpenCfmWithoutOverride confirm =>
      exact safeStep_of_ok rfl (hs.pushOpenCfmWithoutOverride confirm)
  | pushReadCfm data status => exact safeStep_of_ok rfl (hs.pushReadCfm data status)
  | clientPutCfm status => exact safeStep_of_ok rfl (hs.clientPutCfm status)
  | clientBulkPutCfm status => exact safeStep_of_ok rfl (hs.clientBulkPutCfm status)
  | pull => exact safeStep_of_ok rfl hs.pull
  | getRcv rspHeaders rcvStatus =>
      obtain ⟨s', hs', hsafe⟩ := hs.getRcv fun c hc hreceived =>
        ⟨hbase c hc (h c hc hreceived).1, (h c hc hreceived).2⟩
      exact safeStep_of_ok hs' hsafe
  | getRcvData rspHeaders rcvStatus =>
      obtain ⟨s', hs', hsafe⟩ := hs.getRcvData h
      exact safeStep_of_ok hs' hsafe
  | pullOpenCfm handle status => exact safeStep_of_ok rfl (hs.pullOpenCfm handle status)
  | pullWriteCfm status => exact safeStep_of_ok rfl (hs.pullWriteCfm status)
  | pullAbortCfm => exact safeStep_of_ok rfl hs.pullAbortCfm
  | nameOverride name => exact safeStep_of_ok rfl (hs.clientNameOverride h)
  | enableNameOverride enabled => exact safeStep_of_ok rfl (hs.enableNameOverride enabled)
  | cancel => exact safeStep_of_ok rfl hs.cancel
  | abortCfm => exact safeStep_of_ok rfl hs.abortCfm
  | dispatch handle => exact safeStep_of_ok rfl (hs.dispatch handle)

/-- The runs of a client whose steps are careful. -/
inductive Reaches : Calling → Prop
  | start : Reaches start
  | step {s s' : Calling} (run : Reaches s) (env : Surroundings) (event : ClientEvent)
      (careful : s.Careful env event) (next : s.step env event = .ok s') : Reaches s'

theorem Reaches.safe (h : Reaches s) : s.Safe := by
  induction h with
  | start => exact start_safe
  | step run env event careful next ih => exact (safeStep_of_careful ih careful).safe _ next

end Calling

end Opp
