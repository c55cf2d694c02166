import BtPlatform.Pbap.Client

/-!
# What the functions of the client leave alone

Apart from `SetPath` and the calls that lead to it, no function of the client moves its
position, starts or ends a SETPATH, or takes away what a SETPATH in progress needs
later: the session stays `Still` as far as folders are concerned.
-/

namespace Pbap

open Support Program Prog Repository Phonebook List

/-- What the history records about folders, names and calls. -/
def Act.isPath : Act → Bool
  | .called .. | .setPathStarted .. | .setPathSent .. | .setPathDone .. | .named .. => true
  | _ => false

/-- The request fits the destination, so that the name built there is the right one. -/
def Client.Fits (c : Client) (store : Store) (book : Book) : Prop :=
  match c.state with
  | .pullingPhonebook => c.pathState.target = .root ∧ c.req.type = .phonebook
  | .pullingPhonebookSize =>
      (c.pathState.target = .root ∧ c.req.type = .phonebook) ∨
        (c.pathState.target = .phonebook store book ∧ c.req.type = .vCardListing)
  | .pullingVCardListing =>
      c.pathState.target = .phonebook store book ∧ c.req.type = .vCardListing
  | .pullingVCard =>
      c.pathState.target = .phonebook store book ∧ c.req.type = .vCard ∧
        c.req.appParam.bind AppParams.maxListCount = none
  | _ => False

section Fits

variable {c : Client} {store : Store} {book : Book}

theorem Client.fits_phonebook (hstate : c.state = .pullingPhonebook)
    (htarget : c.pathState.target = .root) (htype : c.req.type = .phonebook) :
    c.Fits store book := by
  rw [Client.Fits, hstate]
  exact ⟨htarget, htype⟩

theorem Client.fits_size (hstate : c.state = .pullingPhonebookSize)
    (h : (c.pathState.target = .root ∧ c.req.type = .phonebook) ∨
      (c.pathState.target = .phonebook store book ∧ c.req.type = .vCardListing)) :
    c.Fits store book := by
  rw [Client.Fits, hstate]
  exact h

theorem Client.fits_listing (hstate : c.state = .pullingVCardListing)
    (htarget : c.pathState.target = .phonebook store book) (htype : c.req.type = .vCardListing) :
    c.Fits store book := by
  rw [Client.Fits, hstate]
  exact ⟨htarget, htype⟩

theorem Client.fits_vCard (hstate : c.state = .pullingVCard)
    (htarget : c.pathState.target = .phonebook store book) (htype : c.req.type = .vCard)
    (hcount : c.req.appParam.bind AppParams.maxListCount = none) : c.Fits store book := by
  rw [Client.Fits, hstate]
  exact ⟨htarget, htype, hcount⟩

end Fits

/-- A client on the way to a folder: if it is going to build a name there, the request
fits the destination. -/
def Client.Ready (c : Client) : Prop :=
  c.setPathDone = some .pbapSetPathDone → c.state = .pullingPhonebookSize ∨
    c.state.pullsFile = true →
    ∃ (store : Store) (book : Book),
      c.req.repo = store.repository ∧ c.req.pb = book.1 ∧ c.Fits store book

theorem Client.Ready.confirm {c : Client} (h : c.Ready) (cfm : SetPathCfm) :
    Client.Ready { c with pathState := c.pathState.confirm cfm } := by
  unfold Client.Ready Client.Fits at h ⊢
  rw [PathState.confirm_target]
  exact h

/-- Nothing about folders has changed. -/
structure Still (s s' : Session) : Prop where
  pathState : s'.client.pathState = s.client.pathState
  settingPath : ∀ request, s'.obex = .settingPath request ↔ s.obex = .settingPath request
  ready : ∀ request, s.obex = .settingPath request → s.client.Ready → s'.client.Ready
  history : ∃ acts, s'.history = s.history ++ acts ∧ ∀ act ∈ acts, act.isPath = false

instance : IsPreorder Session Still where
  refl _ := ⟨rfl, fun _ => .rfl, fun _ _ h => h, [], by simp, by simp⟩
  trans _ _ _ h₁ h₂ := by
    obtain ⟨acts₁, hacts₁, hnone₁⟩ := h₁.history
    obtain ⟨acts₂, hacts₂, hnone₂⟩ := h₂.history
    refine ⟨h₂.pathState.trans h₁.pathState, fun r => (h₂.settingPath r).trans (h₁.settingPath r),
      fun r hr hready => h₂.ready r ((h₁.settingPath r).2 hr) (h₁.ready r hr hready),
      acts₁ ++ acts₂, by rw [hacts₂, hacts₁, append_assoc], ?_⟩
    intro act hact
    exact (mem_append.1 hact).elim (hnone₁ act) (hnone₂ act)

theorem Still.noSettingPath {s s' : Session} (h : Still s s')
    (hs : ∀ request, s.obex ≠ .settingPath request) : ∀ request, s'.obex ≠ .settingPath request :=
  fun request hr => hs request ((h.settingPath request).1 hr)

namespace Cli

/-! ## Parts of the session -/

variable {cfm : AbortCfm} {status : Status}

section Parts

variable {α : Type} {s s' : Session} {a : α}

/-- A change of the client that keeps its position and what a request needs. -/
theorem setClient_still {f : Client → Client} (hpath : ∀ c, (f c).pathState = c.pathState)
    (hready : ∀ c : Client, c.Ready → (f c).Ready) : Within Still (setClient f) :=
  .update fun s => ⟨hpath s.client, fun _ => .rfl, fun _ _ => hready s.client, [], by simp,
    by simp⟩

/-- The same, where the request is the same too. -/
theorem setClient_still_same {f : Client → Client} (h : ∀ c, (f c).pathState = c.pathState ∧
    (f c).state = c.state ∧ (f c).setPathDone = c.setPathDone ∧ (f c).req = c.req) :
    Within Still (setClient f) := by
  refine setClient_still (fun c => (h c).1) fun c hready => ?_
  obtain ⟨hpath, hstate, hdone, hreq⟩ := h c
  unfold Client.Ready Client.Fits at hready ⊢
  rw [hpath, hstate, hdone, hreq]
  exact hready

theorem client_still : Within Still client := Within.view

theorem view_still {f : Session → α} : Within Still (Prog.view f : Cli α) := Within.view

theorem record_still {act : Act} (h : act.isPath = false) : Within Still (record act) :=
  .update fun _ => ⟨rfl, fun _ => .rfl, fun _ _ hready => hready,
    [act], rfl, by simpa using h⟩

theorem recordOwn_still {act : Option Ticket → Act} (h : ∀ ticket, (act ticket).isPath = false) :
    Within Still (recordOwn act) := client_still.seq <| record_still (h _)

/-- A change of the surroundings. -/
theorem update_still {f : Session → Session} (hf : ∀ s, (f s).client = s.client ∧
    (f s).obex = s.obex ∧ (f s).history = s.history) : Within Still (Prog.update f : Cli Unit) :=
  .update fun s => by
    obtain ⟨hclient, hobex, hhistory⟩ := hf s
    exact ⟨by rw [hclient], fun _ => by rw [hobex], fun _ _ h => by rwa [hclient], [], by
      rw [hhistory, append_nil], by simp⟩

theorem pbapClient_still : Within Still pbapClient :=
  view_still.seq <| .ite .pure (.ite .fault .pure)

theorem takeBlock_still : Within Still takeBlock :=
  .seq view_still <|
    .seq (update_still fun _ => ⟨rfl, rfl, rfl⟩) .pure

theorem takeAnswer_still : Within Still takeAnswer := by
  refine .bind view_still fun s => ?_
  split
  · exact .pure
  · exact .seq (update_still fun _ => ⟨rfl, rfl, rfl⟩) .pure

theorem takeOutcome_still : Within Still takeOutcome := by
  refine .bind view_still fun s => ?_
  split
  · exact .pure
  · exact .seq (update_still fun _ => ⟨rfl, rfl, rfl⟩) .pure

/-- Another operation than a SETPATH replaces another operation than a SETPATH. -/
theorem setObex_still (h : ∀ request, s.obex ≠ .settingPath request) {obex : ObexOp}
    (hobex : ∀ request, obex ≠ .settingPath request) (hend : Ends (setObex obex) s () s') :
    Still s s' := by
  obtain rfl := ends_update.1 hend
  exact ⟨rfl, fun r => ⟨fun heq => absurd heq (hobex r), fun heq => absurd heq (h r)⟩,
    fun r hr => absurd hr (h r), [], by simp, by simp⟩

theorem obexGet_still : Within Still obexGet := by
  intro s status s' h
  unfold obexGet at h
  replace h := ends_bind_state.1 h
  split at h
  · next hobex =>
      have hs : ∀ request, s.obex ≠ .settingPath request := by simp [hobex]
      obtain ⟨outcome, t, htake, hrest⟩ := ends_bind.1 h
      have htake := takeOutcome_still s outcome t htake
      obtain ⟨u, hset, -⟩ := ends_bind_return.1 hrest
      obtain ⟨-, hset⟩ | ⟨-, rfl⟩ := ends_only.1 hset
      · exact trans_of _ htake (setObex_still (htake.noSettingPath hs) (by simp) hset)
      · exact htake
  · next hobex =>
      obtain ⟨u, hset, -⟩ := ends_bind_return.1 h
      exact setObex_still (by simp [hobex]) (by simp) hset
  · next hobex =>
      have hs : ∀ request, s.obex ≠ .settingPath request := by simp [hobex]
      obtain ⟨outcome, t, htake, hrest⟩ := ends_bind.1 h
      have htake := takeOutcome_still s outcome t htake
      obtain ⟨u, hset, -⟩ := ends_bind_return.1 hrest
      refine trans_of _ htake (setObex_still (htake.noSettingPath hs) ?_ hset)
      intro request
      split <;> simp
  · exact Within.pure s status s' h
  · exact Within.pure s status s' h

theorem obexAbort_still : Within Still (obexAbort cfm) := by
  intro s status s' h
  unfold obexAbort at h
  replace h := ends_bind_state.1 h
  split at h
  · next hobex =>
      obtain ⟨u, hset, -⟩ := ends_bind_return.1 h
      exact setObex_still (by simp [hobex]) (by simp) hset
  · next hobex =>
      obtain ⟨u, hset, -⟩ := ends_bind_return.1 h
      exact setObex_still (by simp [hobex]) (by simp) hset
  · exact Within.pure s status s' h
  · exact Within.pure s status s' h

end Parts

/-! ## The functions of the client -/

theorem fileClose_still : Within Still (fileClose status) :=
  .seq takeBlock_still <|
    .only (.update fun s => ⟨rfl, fun _ => .rfl, fun _ _ h => h, [], by simp, by simp⟩)

theorem setReq_still_results (results : GetReq → UInt16 × UInt8) :
    Within Still (setReq fun req =>
      { req with phonebookSize := (results req).1, newMissedCalls := (results req).2 }) :=
  setClient_still (fun _ => rfl) fun _ hready => hready

theorem pullAbortCfm_still : Within Still pullAbortCfm := by
  refine .bind pbapClient_still fun c => ?_
  cases c with
  | none => exact .pure
  | some c => exact fileClose_still

theorem pbapWriteCfm_still : Within Still (pbapWriteCfm status) := by
  refine .bind pbapClient_still fun c => ?_
  cases c with
  | none => exact .pure
  | some c =>
      refine .only ?_
      refine .bind (setClient_still_same fun _ => ⟨rfl, rfl, rfl, rfl⟩) fun _ => ?_
      refine .ite fileClose_still (.ite fileClose_still (.ite ?_ ?_))
      · exact .seq obexGet_still <| .only fileClose_still
      · exact .seq obexAbort_still <| .only fileClose_still

theorem extractAppParams_still {data : List UInt8} : Within Still (extractAppParams data) :=
  .seq client_still <| .bind .lift fun results =>
    setReq_still_results fun _ => results

theorem readHeaders_still {headers : List RspHeader} {body : Option (List UInt8)} :
    Within Still (readHeaders headers body) := by
  induction headers generalizing body with
  | nil => exact .pure
  | cons header rest ih =>
      cases header with
      | body data => exact ih
      | applicationParams data => exact .seq extractAppParams_still <| ih
      | other => exact ih

theorem writeCfm_still : Within Still (writeCfm status) :=
  .seq (recordOwn_still fun _ => rfl) pbapWriteCfm_still

theorem confirmWrite_still {confirm : Option (Nat × Status)} :
    Within Still (confirmWrite confirm) := by
  cases confirm with
  | none => exact .pure
  | some answer => exact writeCfm_still

/-- An abort whose outcome does not matter. -/
theorem abortIf_still {c : Prop} [Decidable c] :
    Within Still (Prog.only c do let _ ← obexAbort cfm) :=
  .only (.seq obexAbort_still .pure)

theorem writeBody_still {body : Option (List UInt8)} : Within Still (writeBody body) := by
  refine .bind (setClient_still_same fun _ => ⟨rfl, rfl, rfl, rfl⟩) fun _ => ?_
  split
  · exact .seq pbapWriteCfm_still <| .pure
  · exact .seq pbapWriteCfm_still <| .pure
  · refine .bind client_still fun c => ?_
    refine .bind (recordOwn_still fun _ => rfl) fun _ => ?_
    refine .bind takeAnswer_still fun answer => ?_
    exact .seq confirmWrite_still <| .seq abortIf_still .pure

theorem dataReceived_still {rspHeaders : Option (List RspHeader)} {rcvStatus : Status} :
    Within Still (dataReceived rspHeaders rcvStatus) := by
  cases rspHeaders with
  | none => exact .fault
  | some headers =>
      refine .bind readHeaders_still fun body => ?_
      refine .seq (setClient_still_same fun _ => ⟨rfl, rfl, rfl, rfl⟩) <|
        .bind client_still fun c => ?_
      exact .ite (.seq abortIf_still .pure) writeBody_still

theorem pbapDataCB_still {rspHeaders : Option (List RspHeader)} {rcvStatus : Status} :
    Within Still (pbapDataCB rspHeaders rcvStatus) := by
  refine .bind pbapClient_still fun c => ?_
  cases c with
  | none => exact .pure
  | some c =>
      exact .only (.seq (.branch dataReceived_still .pure) <|
        .only fileClose_still)

theorem sendGet_still : Within Still sendGet := by
  refine .bind (setReq_still_results fun _ => (0, 0)) fun _ => ?_
  refine .bind (setClient_still_same fun _ => ⟨rfl, rfl, rfl, rfl⟩) fun _ => ?_
  refine .bind client_still fun c => .bind obexGet_still fun _ => ?_
  exact .seq (.only (record_still rfl)) .pure

theorem finishReq_still : Within Still (finishReq status) :=
  .seq (.branch sendGet_still .pure) <| .only pbapDataCB_still

theorem pbapOpenCfm_still {handle : Nat} {openStatus : Status} :
    Within Still (pbapOpenCfm handle openStatus) := by
  refine .bind pbapClient_still fun c => ?_
  cases c with
  | none => exact .pure
  | some c =>
      refine .only ?_
      refine .bind (setClient_still_same fun _ => ⟨rfl, rfl, rfl, rfl⟩) fun _ => ?_
      refine .ite fileClose_still (.ite ?_ fileClose_still)
      refine .bind (setClient_still_same fun _ => ⟨rfl, rfl, rfl, rfl⟩) fun _ => ?_
      exact .seq (recordOwn_still fun _ => rfl) finishReq_still

/-- Back in the connected state no name is going to be built. -/
theorem setState_connected_still : Within Still (setState .connected) :=
  setClient_still (fun _ => rfl) fun _ _ _ hpulls => by
    obtain h | h := hpulls <;> cases h

theorem openCfm_still {handle : Nat} {openStatus : Status} :
    Within Still (openCfm handle openStatus) :=
  .seq (record_still rfl) pbapOpenCfm_still

theorem confirmOpen_still {confirm : Option (Nat × Status)} :
    Within Still (confirmOpen confirm) := by
  cases confirm with
  | none => exact .pure
  | some answer => exact openCfm_still

theorem pbapOpen_still : Within Still (pbapOpen status) := by
  refine .ite ?_ fileClose_still
  refine .bind (setClient_still_same fun _ => ⟨rfl, rfl, rfl, rfl⟩) fun _ => ?_
  refine .bind client_still fun c => .bind (record_still rfl) fun _ => ?_
  refine .bind takeAnswer_still fun answer => ?_
  exact .seq confirmOpen_still <| .only setState_connected_still

theorem pbapSetExplicitPathDone_still : Within Still (pbapSetExplicitPathDone status) := by
  refine .bind client_still fun c => ?_
  split
  · exact record_still rfl
  · exact .pure

theorem abortCfm_still : Within Still abortCfm := by
  refine .bind pbapClient_still fun c => ?_
  cases c with
  | none => exact .pure
  | some c =>
      exact .only (.seq (.only (record_still rfl)) <|
        .only setState_connected_still)

theorem callAbortCfm_still : Within Still (callAbortCfm cfm) := by
  cases cfm with
  | pullAbortCfm => exact pullAbortCfm_still
  | abortCfm => exact abortCfm_still
  | defaultAbortCfm => exact .pure
  | null => exact .fault

theorem getResponse_still {headers : List RspHeader} {srm : Bool} :
    Within Still (getResponse headers status srm) := by
  intro s u s' h
  unfold getResponse at h
  replace h := ends_bind_state.1 h
  split at h
  · next hobex => exact setObex_still (by simp [hobex]) (by simp) h
  · next hobex =>
      obtain ⟨-, h⟩ | ⟨-, rfl⟩ := ends_only.1 h
      · obtain ⟨u, t, hset, hrest⟩ := ends_bind.1 h
        refine trans_of _ (setObex_still (by simp [hobex]) ?_ hset)
          (Within.bind (record_still rfl) (fun _ => pbapDataCB_still) t () s' hrest)
        intro request
        split <;> simp
      · exact Std.Refl.refl _
  · exact Within.pure s u s' h

theorem abortResponse_still : Within Still abortResponse := by
  intro s u s' h
  unfold abortResponse at h
  replace h := ends_bind_state.1 h
  split at h
  · next hobex =>
      have hs : ∀ request, s.obex ≠ .settingPath request := by simp [hobex]
      obtain ⟨u, t, hdata, hrest⟩ := ends_bind.1 h
      have hdata := pbapDataCB_still s u t hdata
      obtain ⟨u', t', hset, hcall⟩ := ends_bind.1 hrest
      refine trans_of _ hdata (trans_of _
        (setObex_still (hdata.noSettingPath hs) (by simp) hset) ?_)
      exact callAbortCfm_still t' () s' hcall
  · exact Within.pure s u s' h

end Cli

end Pbap
