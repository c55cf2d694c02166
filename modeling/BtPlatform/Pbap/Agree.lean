import BtPlatform.Obex.Client.Response
import BtPlatform.Obex.Server.State
import BtPlatform.Pbap.Way

/-!
# Client and server agree on the folder

Client and server run against each other: the OBEX layers between them deliver each
SETPATH to the server and exactly one response to the client, in order. Whenever no
SETPATH is in progress the two are in the same folder; every way to a folder takes at
most four SETPATHs and ends with one report; and every name that the client builds
means to the server the object requested. This takes for granted that no request is
made while a SETPATH is in progress: the interface accepts such a request, and its
destination replaces the one that the SETPATH was sent for.
-/

namespace Pbap

open Support Program Prog Repository Phonebook List

/-! ## Requests that are made alone -/

/-- No request is made while a SETPATH is in progress. -/
def Act.alone : Act → Bool
  | .called _ (.abort _) _ => true
  | .called _ _ (.settingPath _) => false
  | _ => true

/-- All requests of the history are made alone. -/
def Alone (history : List Act) : Prop := ∀ act ∈ history, act.alone = true

instance (history : List Act) : Decidable (Alone history) :=
  inferInstanceAs (Decidable (∀ act ∈ history, act.alone = true))

/-- The history only grows. -/
def Grows (s s' : Session) : Prop := s.history <+: s'.history

instance : IsPreorder Session Grows where
  refl _ := prefix_rfl
  trans _ _ _ := List.IsPrefix.trans

theorem Alone.of_grows {s s' : Session} (h : Alone s'.history) (hgrows : Grows s s') :
    Alone s.history := fun act hact => h act (hgrows.subset hact)

theorem Still.grows {s s' : Session} (h : Still s s') : Grows s s' := by
  obtain ⟨acts, hacts, -⟩ := h.history
  exact ⟨acts, hacts.symm⟩

variable {params : AppParams} {call : Call}

namespace Cli

theorem record_grows {act : Act} : Within Grows (record act) :=
  .update fun s => prefix_append s.history [act]

theorem update_grows {f : Session → Session} (h : ∀ s, (f s).history = s.history) :
    Within Grows (Prog.update f : Cli Unit) := by
  apply Within.update
  intro s
  rw [Grows, h s]

theorem setClient_grows {f : Client → Client} : Within Grows (setClient f) :=
  update_grows fun _ => rfl

theorem client_grows : Within Grows client := Within.view

/-- What leaves the folders alone lets the history grow. -/
theorem grows_of_still {α : Type} {m : Cli α} (h : Within Still m) : Within Grows m :=
  h.mono fun _ _ => Still.grows

theorem buildName_grows {entry : Option UInt32}
    {build : PathState → GetReq → Except Fault (List UInt16)} :
    Within Grows (buildName entry build) :=
  .seq client_grows <| .seq .lift <|
    .seq setClient_grows record_grows

theorem pbapSetPathDone_grows {status : Status} : Within Grows (pbapSetPathDone status) := by
  refine .ite (.bind client_grows fun c => ?_) (grows_of_still finishReq_still)
  split
  · exact .seq buildName_grows <| grows_of_still pbapOpen_still
  · exact .seq buildName_grows <| grows_of_still pbapOpen_still
  · exact .seq (.branch buildName_grows buildName_grows) <|
      grows_of_still finishReq_still
  · exact .seq buildName_grows <| grows_of_still pbapOpen_still
  · exact grows_of_still finishReq_still

theorem callSetPathDone_grows {status : Status} : Within Grows (callSetPathDone status) := by
  refine .bind client_grows fun c => .bind record_grows fun _ => ?_
  split
  · exact pbapSetPathDone_grows
  · exact grows_of_still pbapSetExplicitPathDone_still
  · exact .fault

theorem obexSetPath_grows {request : SetPathRequest} : Within Grows (obexSetPath request) := by
  intro s status s' h
  obtain ⟨outcomes, ⟨-, rfl⟩ | ⟨-, rfl⟩⟩ := obexSetPath_ends h
  · exact prefix_append _ _
  · exact prefix_rfl

theorem setPath_grows : Within Grows setPath := by
  refine .bind client_grows fun c => .bind .lift fun request => ?_
  split
  · exact .seq obexSetPath_grows <| .only callSetPathDone_grows
  · exact callSetPathDone_grows

theorem setPhonebookDir_grows {repo : Repository} {pb : Phonebook} {done : SetPathDone} :
    Within Grows (setPhonebookDir repo pb done) :=
  .seq setClient_grows <| .seq client_grows <|
    .seq record_grows setPath_grows

theorem buildAppParams_grows : Within Grows (buildAppParams params) :=
  .seq (grows_of_still takeBlock_still) <|
    .ite (.seq setClient_grows .pure)
      (.seq setClient_grows .pure)

theorem pull_grows (ticket : Ticket) (repository : Repository) (phonebook : Phonebook)
    (prepare : GetReq → GetReq) (params : AppParams) (state : ClientState) {go : Cli Unit}
    (hgo : Within Grows go) :
    Within Grows (pull ticket repository phonebook prepare params state go) := by
  refine .ite .pure (.bind (grows_of_still pbapClient_still) fun c => ?_)
  split
  · exact .pure
  · refine .ite .pure (.bind setClient_grows fun _ => ?_)
    refine .bind buildAppParams_grows fun status => .ite ?_ .pure
    exact .seq setClient_grows <| .seq hgo .pure

theorem apiAbort_grows {abortCfm : Bool} : Within Grows (apiAbort abortCfm) := by
  refine .bind (grows_of_still pbapClient_still) fun c => ?_
  split
  · exact .pure
  · refine .ite .pure (.bind setClient_grows fun _ => ?_)
    refine .bind (grows_of_still obexAbort_still) fun _ => ?_
    exact .seq (.only setClient_grows) .pure

theorem apiSetPath_grows {ticket : Ticket} {repository : Repository} {phonebook : Phonebook} :
    Within Grows (apiSetPath ticket repository phonebook) := by
  refine .bind (grows_of_still pbapClient_still) fun c => ?_
  split
  · exact .pure
  · exact .ite .pure (.seq setClient_grows <|
      .seq setPhonebookDir_grows .pure)

theorem dispatchCall_grows {ticket : Ticket} : Within Grows (dispatchCall ticket call) := by
  cases call with
  | getPhonebookSize repository phonebook =>
      refine pull_grows _ _ _ _ _ _ (.bind client_grows fun c => .ite ?_ ?_)
      · exact .seq setClient_grows <| setPhonebookDir_grows
      · exact .seq setClient_grows <| setPhonebookDir_grows
  | pullPhonebook =>
      simp only [dispatchCall, pullPhonebook]
      exact pull_grows _ _ _ _ _ _ setPhonebookDir_grows
  | pullvCardListing =>
      simp only [dispatchCall, pullvCardListing]
      exact pull_grows _ _ _ _ _ _ setPhonebookDir_grows
  | pullvCardEntry =>
      simp only [dispatchCall, pullvCardEntry]
      exact pull_grows _ _ _ _ _ _ setPhonebookDir_grows
  | setPath repository phonebook => exact apiSetPath_grows
  | abort cfm => exact apiAbort_grows

theorem makeCall_grows : Within Grows (makeCall call) := by
  refine .bind .view fun s => .bind (update_grows fun _ => rfl) fun _ => ?_
  refine .seq record_grows <| .bind dispatchCall_grows fun status => ?_
  exact record_grows

theorem makeCalls_grows {calls : List Call} : Within Grows (makeCalls calls) := by
  induction calls with
  | nil => exact .pure
  | cons call rest ih => exact .seq makeCall_grows ih

end Cli

/-! ## The interface -/

section Interface

variable {server : Server} {base : List Act} {s s' : Session}

variable {status : Status} {ticket : Ticket} {repository : Repository} {phonebook : Phonebook}

theorem buildAppParams_ends (h : Ends (Cli.buildAppParams params) s status s') :
    ∃ memory appParam, s' = { s with
        memory := memory, client := { s.client with
          req := { s.client.req with appParam := appParam } } } ∧
      (status.success = true → appParam = some { params with searchAttribute :=
        if params.searchValue.isSome then params.searchAttribute else none }) := by
  unfold Cli.buildAppParams Cli.takeBlock at h
  obtain ⟨room, t, htake, h⟩ := ends_bind.1 h
  replace htake := ends_bind_view.1 htake
  have hret := ends_bind_update.1 htake
  obtain ⟨-, rfl⟩ := ends_pure.1 hret
  split at h
  · have hret := ends_bind_update.1 h
    obtain ⟨rfl, rfl⟩ := ends_pure.1 hret
    exact ⟨_, _, rfl, fun _ => rfl⟩
  · have hret := ends_bind_update.1 h
    obtain ⟨rfl, rfl⟩ := ends_pure.1 hret
    exact ⟨_, _, rfl, nofun⟩

/-- A pull that is accepted goes on with a request of its own, from the same position. -/
theorem pull_agreed {prepare : GetReq → GetReq} {state : ClientState} {go : Cli Unit}
    (hs : Agreed server base s) (hfree : ∀ request, s.obex ≠ .settingPath request)
    (hgo : ∀ (store : Store) (book : Book) {t t' : Session}, Ends go t () t' →
      repository = store.repository → phonebook = book.1 → t.client.state = state →
      t.client.req = { prepare { s.client.req with
        cb := some ticket, repo := repository, pb := phonebook } with
        appParam := some { params with
          searchAttribute := if params.searchValue.isSome then
            params.searchAttribute else none } } →
      Agreed server base t → (∀ request, t.obex ≠ .settingPath request) → Agreed server base t')
    (h : Ends (Cli.pull ticket repository phonebook prepare params state go) s status s') :
    Agreed server base s' := by
  unfold Cli.pull at h
  split at h
  · obtain ⟨-, rfl⟩ := ends_pure.1 h
    exact hs
  · next hvalid =>
      rw [not_or] at hvalid
      obtain ⟨c, t, hclient, hrest⟩ := ends_bind.1 h
      obtain ⟨-, rfl⟩ := pbapClient_ends hclient
      split at hrest
      · obtain ⟨-, rfl⟩ := ends_pure.1 hrest
        exact hs
      · split at hrest
        · obtain ⟨-, rfl⟩ := ends_pure.1 hrest
          exact hs
        · replace hrest := ends_bind_update.1 hrest
          obtain ⟨status', t₂, hparams, hrest⟩ := ends_bind.1 hrest
          obtain ⟨memory, appParam, rfl, happ⟩ := buildAppParams_ends hparams
          split at hrest
          · next hsuccess =>
              replace hrest := ends_bind_update.1 hrest
              obtain ⟨u'', hend, -⟩ := ends_bind_return.1 hrest
              obtain ⟨store, hstore⟩ := Store.of_repository hvalid.1
              refine hgo store ⟨phonebook, hvalid.2⟩ hend hstore rfl rfl ?_ ?_ hfree
              · rw [happ hsuccess]
              · exact hs.still ⟨rfl, fun _ => .rfl, fun r hr => absurd hr (hfree r), [], by simp,
                  by simp⟩
          · obtain ⟨-, rfl⟩ := ends_pure.1 hrest
            exact hs.still ⟨rfl, fun _ => .rfl, fun r hr => absurd hr (hfree r), [], by simp,
              by simp⟩

theorem getPhonebookSize_agreed (hs : Agreed server base s)
    (hfree : ∀ request, s.obex ≠ .settingPath request)
    (h : Ends (Cli.getPhonebookSize ticket repository phonebook) s status s') :
    Agreed server base s' := by
  refine pull_agreed hs hfree ?_ h
  intro store book t t' hgo hstore hbook hstate hreq ht htfree
  replace hgo := ends_bind_view.1 hgo
  split at hgo
  · -- from elsewhere: back to the root, and a name relative to it
    obtain ⟨u, t₁, hset, hdir⟩ := ends_bind.1 hgo
    have hsame := setClient_still_free htfree rfl hset
    obtain rfl := ends_update.1 hset
    refine setPhonebookDir_agreed (ht.still hsame) htfree ?_ hdir
    intro _ _
    exact ⟨store, book, (congrArg GetReq.repo hreq).trans hstore,
      (congrArg GetReq.pb hreq).trans hbook, Client.fits_size hstate (.inl ⟨rfl, rfl⟩)⟩
  · -- from the folder of a phonebook: the listing of the one requested
    obtain ⟨u, t₁, hset, hdir⟩ := ends_bind.1 hgo
    have hsame := setClient_still_free htfree rfl hset
    obtain rfl := ends_update.1 hset
    refine setPhonebookDir_agreed (ht.still hsame) htfree ?_ hdir
    intro _ _
    refine ⟨store, book, (congrArg GetReq.repo hreq).trans hstore,
      (congrArg GetReq.pb hreq).trans hbook, Client.fits_size hstate (.inr ⟨?_, rfl⟩)⟩
    rw [hstore, hbook]
    exact PathState.target_phonebook _ store book

theorem pullPhonebook_agreed {filter : Option UInt64} {format : UInt8}
    {maxListCount listStartOffset : UInt16} (hs : Agreed server base s)
    (hfree : ∀ request, s.obex ≠ .settingPath request)
    (h : Ends (Cli.pullPhonebook ticket repository phonebook filter format maxListCount
      listStartOffset) s status s') : Agreed server base s' := by
  refine pull_agreed hs hfree ?_ h
  intro store book t t' hgo hstore hbook hstate hreq ht htfree
  refine setPhonebookDir_agreed ht htfree ?_ hgo
  intro _ _
  exact ⟨store, book, (congrArg GetReq.repo hreq).trans hstore,
    (congrArg GetReq.pb hreq).trans hbook,
    Client.fits_phonebook hstate rfl (congrArg GetReq.type hreq)⟩

theorem pullvCardListing_agreed {order searchAttribute : UInt8} {searchValue : Option (List UInt8)}
    {maxListCount listStartOffset : UInt16} (hs : Agreed server base s)
    (hfree : ∀ request, s.obex ≠ .settingPath request)
    (h : Ends (Cli.pullvCardListing ticket repository phonebook order searchAttribute searchValue
      maxListCount listStartOffset) s status s') : Agreed server base s' := by
  refine pull_agreed hs hfree ?_ h
  intro store book t t' hgo hstore hbook hstate hreq ht htfree
  refine setPhonebookDir_agreed ht htfree ?_ hgo
  intro _ _
  refine ⟨store, book, (congrArg GetReq.repo hreq).trans hstore,
    (congrArg GetReq.pb hreq).trans hbook,
    Client.fits_listing hstate ?_ (congrArg GetReq.type hreq)⟩
  rw [hstore, hbook]
  exact PathState.target_phonebook _ store book

theorem pullvCardEntry_agreed {entry : UInt32} {filter : Option UInt64} {format : UInt8}
    (hs : Agreed server base s) (hfree : ∀ request, s.obex ≠ .settingPath request)
    (h : Ends (Cli.pullvCardEntry ticket repository phonebook entry filter format) s status s') :
    Agreed server base s' := by
  refine pull_agreed hs hfree ?_ h
  intro store book t t' hgo hstore hbook hstate hreq ht htfree
  refine setPhonebookDir_agreed ht htfree ?_ hgo
  intro _ _
  refine ⟨store, book, (congrArg GetReq.repo hreq).trans hstore,
    (congrArg GetReq.pb hreq).trans hbook,
    Client.fits_vCard hstate ?_ (congrArg GetReq.type hreq)
      (congrArg (fun req => req.appParam.bind AppParams.maxListCount) hreq)⟩
  rw [hstore, hbook]
  exact PathState.target_phonebook _ store book

/-- A folder set explicitly: no name is built there. -/
theorem apiSetPath_agreed (hs : Agreed server base s)
    (hfree : ∀ request, s.obex ≠ .settingPath request)
    (h : Ends (Cli.apiSetPath ticket repository phonebook) s status s') :
    Agreed server base s' := by
  obtain ⟨c, t, hclient, hrest⟩ := ends_bind.1 h
  obtain ⟨-, rfl⟩ := pbapClient_ends hclient
  split at hrest
  · obtain ⟨-, rfl⟩ := ends_pure.1 hrest
    exact hs
  · split at hrest
    · obtain ⟨-, rfl⟩ := ends_pure.1 hrest
      exact hs
    · obtain ⟨u, t₁, hset, hrest⟩ := ends_bind.1 hrest
      have hsame := setClient_still_free hfree rfl hset
      obtain ⟨u', hdir, -⟩ := ends_bind_return.1 hrest
      refine setPhonebookDir_agreed (hs.still hsame) (hsame.noSettingPath hfree) ?_ hdir
      intro hdone
      cases hdone

/-- While a SETPATH is in progress an abort is refused. -/
theorem obexAbort_success {cfm : AbortCfm} (h : Ends (Cli.obexAbort cfm) s status s')
    (hstatus : status.success = true) : ∀ request, s.obex ≠ .settingPath request := by
  intro request hobex
  unfold Cli.obexAbort at h
  replace h := ends_bind_state.1 h
  rw [hobex] at h
  obtain ⟨rfl, -⟩ := ends_pure.1 h
  cases hstatus

theorem apiAbort_agreed {abortCfm : Bool} (hs : Agreed server base s)
    (h : Ends (Cli.apiAbort abortCfm) s status s') : Agreed server base s' := by
  obtain ⟨c, t, hclient, hrest⟩ := ends_bind.1 h
  obtain ⟨-, rfl⟩ := pbapClient_ends hclient
  split at hrest
  · obtain ⟨-, rfl⟩ := ends_pure.1 hrest
    exact hs
  · split at hrest
    · obtain ⟨-, rfl⟩ := ends_pure.1 hrest
      exact hs
    · obtain ⟨u, t₁, hset, hrest⟩ := ends_bind.1 hrest
      have hset := Cli.setClient_still_same (f := fun c => { c with abortCfm := abortCfm })
        (fun _ => ⟨rfl, rfl, rfl, rfl⟩) _ u t₁ hset
      obtain ⟨outcome, t₂, habort, hrest⟩ := ends_bind.1 hrest
      have hstill := Cli.obexAbort_still t₁ outcome t₂ habort
      obtain ⟨u', hstate, -⟩ := ends_bind_return.1 hrest
      have hagreed := (hs.still hset).still hstill
      obtain ⟨hsuccess, hstate⟩ | ⟨-, rfl⟩ := ends_only.1 hstate
      · have hfree := hstill.noSettingPath (obexAbort_success habort hsuccess)
        exact hagreed.still (setClient_still_free hfree rfl hstate)
      · exact hagreed

/-- A call that is made alone, or an abort. -/
theorem dispatchCall_agreed (hs : Agreed server base s)
    (halone : (Act.called ticket call s.obex).alone = true)
    (h : Ends (Cli.dispatchCall ticket call) s status s') : Agreed server base s' := by
  have hfree (hcall : ∀ cfm, call ≠ .abort cfm) : ∀ request, s.obex ≠ .settingPath request := by
    intro request hobex
    rw [hobex] at halone
    cases call with
    | abort cfm => exact hcall cfm rfl
    | _ => cases halone
  cases call with
  | getPhonebookSize => exact getPhonebookSize_agreed hs (hfree nofun) h
  | pullPhonebook => exact pullPhonebook_agreed hs (hfree nofun) h
  | pullvCardListing => exact pullvCardListing_agreed hs (hfree nofun) h
  | pullvCardEntry => exact pullvCardEntry_agreed hs (hfree nofun) h
  | setPath => exact apiSetPath_agreed hs (hfree nofun) h
  | abort => exact apiAbort_agreed hs h

end Interface

/-! ## Callbacks -/

/-- The history grows, and if all its requests were made alone the sides still agree. -/
structure Keeps (server : Server) (base : List Act) (s s' : Session) : Prop where
  grows : Grows s s'
  agreed : Alone s'.history → Agreed server base s → Agreed server base s'

section Callbacks

variable {server : Server} {base : List Act}

instance : IsPreorder Session (Keeps server base) where
  refl _ := ⟨Std.Refl.refl _, fun _ hs => hs⟩
  trans _ _ _ h₁ h₂ :=
    ⟨trans_of _ h₁.grows h₂.grows, fun halone hs =>
      h₂.agreed halone (h₁.agreed (halone.of_grows h₂.grows) hs)⟩

theorem Still.keeps {s s' : Session} (h : Still s s') : Keeps server base s s' :=
  ⟨h.grows, fun _ hs => hs.still h⟩

/-- What leaves the folders alone. -/
theorem keeps_of_still {α : Type} {m : Cli α} (h : Within Still m) :
    Within (Keeps server base) m := h.mono fun _ _ => Still.keeps

/-- What is recorded about a call says nothing about folders. -/
theorem record_keeps {act : Act} (hchase : ∀ way, chaseStep way act = some way)
    (hresolves : Resolves server act) : Within (Keeps server base) (Cli.record act) := by
  refine .update fun s => ⟨prefix_append _ _, fun _ hs => ⟨?_, ?_⟩⟩
  · have hsame : chase (s.history ++ [act]) = chase s.history := by
      rw [chase_append]
      cases chase s.history with
      | none => rfl
      | some way => exact hchase way
    obtain hsettled | hway := hs.1
    · refine .inl ⟨hsettled.noSettingPath, ?_, hsame.trans hsettled.chase⟩
      obtain ⟨here, hhere⟩ := hsettled.together
      exact ⟨here, hhere.of_client rfl⟩
    · obtain ⟨request, here, there, sent, hhop⟩ := hway.hop
      exact .inr ⟨⟨request, here, there, sent, hhop.obex, hhop.together.of_client rfl, hhop.next,
        hhop.leads, hhop.arrives, hsame.trans hhop.chase, hhop.near⟩, hway.ready⟩
  · refine hs.2.append rfl fun a ha => ?_
    obtain rfl := mem_singleton.1 ha
    exact hresolves

theorem makeCall_keeps : Within (Keeps server base) (Cli.makeCall call) := by
  intro s u s' h
  refine ⟨Cli.makeCall_grows s u s' h, fun halone hs => ?_⟩
  replace h := ends_bind_view.1 h
  replace h := ends_bind_update.1 h
  have hsame : Still s { s with nextTicket := s.nextTicket + 1 } :=
    ⟨rfl, fun _ => .rfl, fun _ _ hready => hready, [], by simp, by simp⟩
  obtain ⟨u₂, t₂, hcalled, h⟩ := ends_bind.1 h
  obtain ⟨status, t₃, hcall, hanswered⟩ := ends_bind.1 h
  have halone₃ := halone.of_grows (Cli.record_grows _ _ _ hanswered)
  have halone₂ := halone₃.of_grows (Cli.dispatchCall_grows _ _ _ hcall)
  have hcalled' := (record_keeps (fun _ => rfl) (by trivial) _ _ _ hcalled).agreed halone₂
    (hs.still hsame)
  refine (record_keeps (fun _ => rfl) (by trivial) _ _ _ hanswered).agreed halone
    (dispatchCall_agreed hcalled' ?_ hcall)
  obtain rfl := ends_update.1 hcalled
  exact halone₂ _ (mem_append_right _ (mem_singleton.2 rfl))

theorem makeCalls_keeps {calls : List Call} : Within (Keeps server base) (Cli.makeCalls calls) := by
  induction calls with
  | nil => exact .pure
  | cons call rest ih => exact .seq makeCall_keeps ih

/-- The completion callback, with the calls made inside it. -/
theorem complete_keeps {status : Status} : Within (Keeps server base) (Cli.complete status) := by
  refine .bind .view fun s => ?_
  split
  · exact .fault
  · refine .bind (record_keeps (fun _ => rfl) trivial) fun _ => ?_
    refine .seq (keeps_of_still ?_) makeCalls_keeps
    exact Cli.update_still fun _ => ⟨rfl, rfl, rfl⟩

theorem fileCloseCB_keeps {info : CloseInfo} :
    Within (Keeps server base) (Cli.fileCloseCB info) := by
  refine .bind .view fun s => .ite .fault ?_
  refine .bind (record_keeps (fun _ => rfl) trivial) fun _ => ?_
  refine .bind (keeps_of_still (Cli.setClient_still (fun _ => rfl) ?_)) fun _ => ?_
  · -- the request is over: no name is going to be built
    intro c _ _ hpulls
    dsimp only at hpulls
    split at hpulls <;> obtain hpulls | hpulls := hpulls <;> cases hpulls
  · refine .bind (.only ?_) fun _ => ?_
    · refine .bind (keeps_of_still (Cli.recordOwn_still fun _ => rfl)) fun _ => ?_
      exact keeps_of_still (Cli.setClient_still_same fun _ => ⟨rfl, rfl, rfl, rfl⟩)
    · refine .bind (.only complete_keeps) fun _ => ?_
      refine .bind .view fun c => .only ?_
      refine .bind (keeps_of_still (Cli.update_still fun _ => ⟨rfl, rfl, rfl⟩)) fun _ => ?_
      exact .seq (record_keeps (fun _ => rfl) trivial) <|
        record_keeps (fun _ => rfl) trivial

theorem runTask_keeps {index : Nat} : Within (Keeps server base) (Cli.runTask index) := by
  refine .bind .view fun s => ?_
  split
  · exact .pure
  · refine .seq (keeps_of_still ?_) fileCloseCB_keeps
    exact Cli.update_still fun _ => ⟨rfl, rfl, rfl⟩

end Callbacks

/-! ## The two sides together -/

/-- The client's session and the server; the log pairs what the history records with the
server it met. -/
structure World where
  session : Session
  server : Server
  log : List (Act × Server)
  deriving DecidableEq, Repr

/-- An event: one at the client other than a response to SETPATH, or the server's turn
to answer the SETPATH in progress. -/
inductive WorldEvent
  | client (event : Cli.Event)
  | serve (room : Bool)
  deriving DecidableEq, Repr

namespace World

/-- Run the client. -/
def onSession (m : Cli Unit) : Prog World Fault Unit := do
  let w ← Prog.view id
  Prog.zoom session (fun s w => { w with session := s }) m
  Prog.update fun w' =>
    { w' with log := w'.log ++ (w'.session.history.drop w.session.history.length).map fun act =>
        (act, w'.server) }

/-- `SetPathCommand` hands the request to `ServerSetPathInd`, whose status comes back to
`SetpathResponse` as a response code. -/
def serve (room : Bool) (request : SetPathRequest) : Prog World Fault Unit := do
  let w ← Prog.view id
  let (status, server) ← Prog.lift
    (w.server.serverSetPathInd room request.folder request.upLevel false)
  Prog.update fun w => { w with server := server }
  onSession (Cli.setPathResponse (Obex.Client.setpathStatus (Obex.Server.mapStatus status)))

/-- One event. -/
def step : WorldEvent → Prog World Fault Unit
  | .client (.setPathRsp _) | .client (.freeConnection _) => pure ()
  | .client event => onSession (Cli.step event)
  | .serve room => do
      let w ← Prog.view id
      match w.session.obex with
      | .settingPath request => serve room request
      | _ => pure ()

/-- A connection that has just been accepted, with both sides in the root. -/
def start (memory : Memory) (outcomes : List Status) (answers : List FileAnswer)
    (replies : List (List Call)) : World where
  session := .start memory outcomes answers replies
  server := ⟨localRepository, mainPhonebook, false, false, 0⟩
  log := []

/-- Client and server agree. -/
structure Agrees (w : World) : Prop where
  /-- while no SETPATH is in progress, both are in the same folder -/
  folder : (∀ request, w.session.obex ≠ .settingPath request) →
    ∃ here, w.session.client.pathState.At here ∧ w.server.At here
  /-- every way takes at most four SETPATHs and ends with one report, in its destination if
  that is a success; none goes on while no SETPATH is in progress -/
  ways : ∃ way, chase w.session.history = some way ∧
    ((∀ request, w.session.obex ≠ .settingPath request) → way = none)
  /-- with memory the server follows the SETPATH in progress -/
  followed : ∀ request, w.session.obex = .settingPath request → ∃ server,
    w.server.serverSetPathInd true request.folder request.upLevel false = .ok (.ok, server)
  /-- every name meant the object requested when it was built -/
  names : ∀ entry ∈ w.log, Resolves entry.2 entry.1

/-! ## Runs of the two sides -/

/-- The two sides are in step, and all names so far meant the right objects. -/
structure Sound (w : World) : Prop where
  part : Settled w.server w.session ∨ UnderWay w.server w.session
  names : ∀ entry ∈ w.log, Resolves entry.2 entry.1

/-- The history grows, and if all its requests were made alone the two sides stay in
step. -/
structure InStep (w w' : World) : Prop where
  grows : Grows w.session w'.session
  sound : Alone w'.session.history → Sound w → Sound w'

instance : IsPreorder World InStep where
  refl _ := ⟨Std.Refl.refl _, fun _ hw => hw⟩
  trans _ _ _ h₁ h₂ :=
    ⟨trans_of _ h₁.grows h₂.grows, fun halone hw =>
      h₂.sound halone (h₁.sound (halone.of_grows h₂.grows) hw)⟩

variable {w w' : World}

theorem onSession_ends {m : Cli Unit} (h : Ends (onSession m) w () w') :
    ∃ s, Ends m w.session () s ∧ w' = { w with
      session := s,
      log := w.log ++ (s.history.drop w.session.history.length).map fun act =>
        (act, w.server) } := by
  replace h := ends_bind_view.1 h
  obtain ⟨u, t, hzoom, hlog⟩ := ends_bind.1 h
  obtain ⟨s, hend, rfl⟩ := ends_zoom.1 hzoom
  obtain rfl := ends_update.1 hlog
  exact ⟨s, hend, rfl⟩

/-- The names built in one turn of the client are the new part of the log. -/
theorem sound_onSession {s : Session} (hw : ∀ entry ∈ w.log, Resolves entry.2 entry.1)
    (hs : Agreed w.server w.session.history s) : Sound { w with
      session := s,
      log := w.log ++ (s.history.drop w.session.history.length).map fun act =>
        (act, w.server) } := by
  refine ⟨hs.1, fun entry hentry => ?_⟩
  obtain hold | hnew := mem_append.1 hentry
  · exact hw entry hold
  · obtain ⟨acts, hacts, hresolves⟩ := hs.2
    rw [hacts, drop_left] at hnew
    obtain ⟨act, hact, rfl⟩ := mem_map.1 hnew
    exact hresolves act hact

theorem Sound.agreed (hw : Sound w) : Agreed w.server w.session.history w.session :=
  ⟨hw.part, [], by simp, by simp⟩

/-- The client alone. -/
theorem onSession_inStep {m : Cli Unit}
    (hm : Within (Keeps w.server w.session.history) m) (h : Ends (onSession m) w () w') :
    InStep w w' := by
  obtain ⟨s, hend, rfl⟩ := onSession_ends h
  have hkeeps := hm w.session () s hend
  exact ⟨hkeeps.grows, fun halone hw => sound_onSession hw.names (hkeeps.agreed halone hw.agreed)⟩

theorem setPathResponse_grows {status : Status} : Within Grows (Cli.setPathResponse status) := by
  refine .bind .view fun s => ?_
  split
  · refine .bind (Cli.update_grows fun _ => rfl) fun _ => ?_
    rw [setPathCfm_eq]
    refine .bind (Cli.grows_of_still Cli.pbapClient_still) fun c => ?_
    split
    · exact .fault
    · refine .ite (.bind Cli.setClient_grows fun _ => ?_)
        Cli.callSetPathDone_grows
      exact .ite Cli.setPath_grows Cli.callSetPathDone_grows
  · exact .pure

/-- The server's turn. -/
theorem serve_inStep {room : Bool} {request : SetPathRequest}
    (hobex : w.session.obex = .settingPath request) (h : Ends (serve room request) w () w') :
    InStep w w' := by
  replace h := ends_bind_view.1 h
  obtain ⟨⟨status, server⟩, t, hlift, hrest⟩ := ends_bind.1 h
  obtain ⟨hserver, rfl⟩ := ends_lift.1 hlift
  replace hrest := ends_bind_update.1 hrest
  obtain ⟨s, hend, rfl⟩ := onSession_ends hrest
  refine ⟨setPathResponse_grows _ _ _ hend, fun _ hw => ?_⟩
  have hway : UnderWay t.server t.session := hw.part.elim
    (fun hsettled => absurd hobex (hsettled.noSettingPath request)) id
  obtain ⟨request', here, there, sent, hhop⟩ := hway.hop
  obtain rfl : request = request' := by
    have heq := hobex.symm.trans hhop.obex
    cases heq
    rfl
  obtain ⟨rfl, hthere⟩ := Server.serverSetPathInd_at hhop.together.server hhop.leads hserver
  exact sound_onSession (w := { t with server := server }) hw.names
    (setPathResponse_agreed hhop hway.ready hthere ⟨[], by simp, by simp⟩ hend)

theorem step_inStep {event : WorldEvent} : Within InStep (step event) := by
  intro w u w' h
  cases event with
  | client event =>
      cases event with
      | call call => exact onSession_inStep makeCall_keeps h
      | setPathRsp status => exact Within.pure w u w' h
      | getRsp headers status srm =>
          exact onSession_inStep (keeps_of_still Cli.getResponse_still) h
      | abortRsp => exact onSession_inStep (keeps_of_still Cli.abortResponse_still) h
      | openCfm handle status =>
          exact onSession_inStep (keeps_of_still Cli.openCfm_still) h
      | writeCfm status => exact onSession_inStep (keeps_of_still Cli.writeCfm_still) h
      | dispatch index => exact onSession_inStep runTask_keeps h
      | freeConnection status => exact Within.pure w u w' h
  | serve room =>
      replace h := ends_bind_state.1 h
      split at h
      · next hobex => exact serve_inStep hobex h
      · exact Within.pure w u w' h

theorem Sound.agrees (hw : Sound w) : Agrees w where
  folder := fun hfree => by
    obtain ⟨here, hhere⟩ := (hw.agreed.settled hfree).together
    exact ⟨here, hhere.client, hhere.server⟩
  ways := by
    obtain hsettled | hway := hw.part
    · exact ⟨none, hsettled.chase, fun _ => rfl⟩
    · obtain ⟨request, here, there, sent, hhop⟩ := hway.hop
      exact ⟨_, hhop.chase, fun hfree => absurd hhop.obex (hfree request)⟩
  followed := by
    intro request hobex
    obtain hsettled | hway := hw.part
    · exact absurd hobex (hsettled.noSettingPath request)
    · obtain ⟨request', here, there, sent, hhop⟩ := hway.hop
      have heq := hobex.symm.trans hhop.obex
      cases heq
      obtain ⟨server, hserver, -⟩ :=
        Server.serverSetPathInd_leads hhop.together.server hhop.leads
      exact ⟨server, hserver⟩
  names := hw.names

theorem start_sound (memory : Memory) (outcomes : List Status) (answers : List FileAnswer)
    (replies : List (List Call)) : Sound (start memory outcomes answers replies) where
  part := .inl ⟨(fun request hobex => by cases hobex),
    ⟨.root, ⟨rfl, rfl, rfl⟩, rfl, rfl, rfl, rfl⟩, rfl⟩
  names := by simp [start]

/-- In every run in which no request is made while a SETPATH is in progress, client and
server agree. -/
theorem folders_agree (memory : Memory) (outcomes : List Status) (answers : List FileAnswer)
    (replies : List (List Call)) (events : List WorldEvent) {w : World}
    (h : Ends (perform step events) (start memory outcomes answers replies) () w)
    (halone : Alone w.session.history) : Agrees w :=
  ((Within.perform (fun _ => step_inStep) _ _ _ _ h).sound halone
    (start_sound memory outcomes answers replies)).agrees

/-- The folder of a phonebook on the card is three SETPATHs away. -/
def askForEntry : List WorldEvent :=
  [.client (.call (.pullvCardEntry sim1Repository missedCallsHistory 0x1f none 0)), .serve true,
    .serve true, .serve true]

theorem folders_agree_askForEntry :
    ∃ w, Ends (perform step askForEntry) (start .plenty [] [] []) () w ∧
      Alone w.session.history ∧ w.session.obex = .idle ∧ Agrees w := by
  have hreach : reaches (perform step askForEntry) (start .plenty [] [] [])
      (fun w => decide (Alone w.session.history) && decide (w.session.obex = .idle)) = true := by
    decide +kernel
  obtain ⟨w, hends, hcheck⟩ := reaches_iff.1 hreach
  obtain ⟨halone, hidle⟩ := Bool.and_eq_true_iff.1 hcheck
  have halone := of_decide_eq_true halone
  exact ⟨w, hends, halone, of_decide_eq_true hidle, folders_agree _ _ _ _ _ hends halone⟩

/-- The folder of a call history is set while the last SETPATH to the main phonebook is
in progress: that request fails, and then `ToPbDirCfm` takes its destination for the
folder reached. -/
def setPathTwice : List WorldEvent :=
  [.client (.call (.setPath localRepository mainPhonebook)), .serve true,
    .client (.call (.setPath localRepository incomingCallsHistory)), .serve true]

theorem folders_differ :
    ¬ ∀ (memory : Memory) (outcomes : List Status) (answers : List FileAnswer)
      (replies : List (List Call)) (events : List WorldEvent) (w : World),
      Ends (perform step events) (start memory outcomes answers replies) () w → Agrees w := by
  intro hall
  have hreach : reaches (perform step setPathTwice) (start .plenty [] [] [])
      (fun w => decide (w.session.obex = .idle) &&
        decide (w.session.client.pathState.currPb = incomingCallsHistory ∧
          w.server.phonebook = mainPhonebook)) = true := by
    decide +kernel
  obtain ⟨w, hends, hcheck⟩ := reaches_iff.1 hreach
  obtain ⟨hidle, hdiffer⟩ := Bool.and_eq_true_iff.1 hcheck
  have hidle := of_decide_eq_true hidle
  obtain ⟨hcurr, hserver⟩ := of_decide_eq_true hdiffer
  obtain ⟨here, hclient, hhere⟩ := (hall _ _ _ _ _ _ hends).folder (by simp [hidle])
  -- the client is in the folder of a phonebook, and it is not the server's
  cases here with
  | phonebook store book =>
      have hsame := hclient.2.2.symm.trans hcurr
      rw [← hhere.2.2.2.2, hserver] at hsame
      cases hsame
  | _ =>
      have hnone := hclient.2.2
      rw [hcurr] at hnone
      cases hnone

end World

end Pbap
