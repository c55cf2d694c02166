import BtPlatform.Pbap.Frame
import BtPlatform.Pbap.Names

/-!
# The way to a folder

`chase` reads the ways to folders off the history: each begins with a destination,
takes at most four SETPATHs and ends with one report. `Agreed` is what holds between
the client and a server in step with it: no way is going on and the two are in the same
folder, or a SETPATH is in progress that leads to the next folder of the way; and the
names built so far mean the right objects. The functions around `SetPath` keep it.
-/

namespace Pbap

open Support Program Prog Repository Phonebook List

/-! ## The way to a folder in the history -/

/-- One act of the history, seen from a way that is or is not going on, with the number
of its SETPATHs; a way that starts inside another, takes more than four SETPATHs or
succeeds elsewhere has no next state. -/
def chaseStep (way : Option (Target × Nat)) : Act → Option (Option (Target × Nat))
  | .setPathStarted target => if way = none then some (some (target, 0)) else none
  | .setPathSent _ => do
      let (target, sent) ← way
      if sent < 4 then some (some (target, sent + 1)) else none
  | .setPathDone status path => do
      let (target, _) ← way
      if status.success = true ∧ ¬ path.At target.folder then none else some none
  | _ => some way

/-- The way going on at the end of the history, if all ways in it are in order. -/
def chase (history : List Act) : Option (Option (Target × Nat)) := history.foldlM chaseStep none

theorem chase_append (history : List Act) (act : Act) :
    chase (history ++ [act]) = (chase history).bind fun way => chaseStep way act := by
  unfold chase
  rw [foldlM_append]
  cases history.foldlM chaseStep none with
  | none => rfl
  | some way => simp

theorem chaseStep_of_isPath {act : Act} (h : act.isPath = false) (way : Option (Target × Nat)) :
    chaseStep way act = some way := by
  cases act <;> first | rfl | cases h

theorem chase_append_of_isPath (history : List Act) {acts : List Act}
    (h : ∀ act ∈ acts, act.isPath = false) : chase (history ++ acts) = chase history := by
  induction acts generalizing history with
  | nil => rw [append_nil]
  | cons act acts ih =>
      rw [← singleton_append, ← append_assoc,
        ih _ fun a ha => h a (mem_cons_of_mem act ha), chase_append]
      cases chase history with
      | none => rfl
      | some way => exact chaseStep_of_isPath (h act mem_cons_self) way

/-! ## What holds in every state -/

/-- The name that the client has built means to the server the object requested. -/
def Resolves (server : Server) : Act → Prop
  | .named type maxListCount object name =>
      server.getObject true type maxListCount name = .ok (.ok, object)
  | _ => True

/-- Nothing is said about the position but that both sides have the same. -/
structure Together (server : Server) (s : Session) (here : Folder) : Prop where
  client : s.client.pathState.At here
  server : server.At here

/-- No SETPATH is in progress, and no way is going on. -/
structure Settled (server : Server) (s : Session) : Prop where
  noSettingPath : ∀ request, s.obex ≠ .settingPath request
  together : ∃ here, Together server s here
  chase : chase s.history = some none

/-- A SETPATH is in progress that leads from one folder of the way to the next. -/
structure Hop (server : Server) (s : Session) (request : SetPathRequest) (here there : Folder)
    (sent : Nat) : Prop where
  obex : s.obex = .settingPath request
  together : Together server s here
  next : s.client.pathState.target.next here = some there
  leads : Leads here there request
  arrives : (s.client.pathState.confirm request.cfm).At there
  chase : chase s.history = some (some (s.client.pathState.target, sent))
  near : sent + s.client.pathState.target.distance there ≤ 4

/-- A SETPATH is in progress on the way to a folder. -/
structure UnderWay (server : Server) (s : Session) : Prop where
  hop : ∃ request here there sent, Hop server s request here there sent
  ready : s.client.Ready

/-- No SETPATH is in progress, but a way is going on. -/
structure Going (server : Server) (s : Session) (here : Folder) (sent : Nat) : Prop where
  noSettingPath : ∀ request, s.obex ≠ .settingPath request
  together : Together server s here
  chase : chase s.history = some (some (s.client.pathState.target, sent))
  near : sent + s.client.pathState.target.distance here ≤ 4
  ready : s.client.Ready

/-- The names built since the history was `base` mean the right objects. -/
def NamesSince (server : Server) (base : List Act) (s : Session) : Prop :=
  ∃ acts, s.history = base ++ acts ∧ ∀ act ∈ acts, Resolves server act

/-- The invariant. -/
def Agreed (server : Server) (base : List Act) (s : Session) : Prop :=
  (Settled server s ∨ UnderWay server s) ∧ NamesSince server base s

section Still

variable {server : Server} {base : List Act} {s s' : Session}

theorem Still.chase_eq (h : Still s s') : Pbap.chase s'.history = Pbap.chase s.history := by
  obtain ⟨acts, hacts, hnone⟩ := h.history
  rw [hacts, chase_append_of_isPath _ hnone]

theorem Together.still {here : Folder} (hs : Together server s here) (h : Still s s') :
    Together server s' here := ⟨by rw [h.pathState]; exact hs.client, hs.server⟩

theorem Settled.still (hs : Settled server s) (h : Still s s') : Settled server s' := by
  obtain ⟨here, hhere⟩ := hs.together
  exact ⟨h.noSettingPath hs.noSettingPath, ⟨here, hhere.still h⟩, by rw [h.chase_eq, hs.chase]⟩

theorem Hop.still {request : SetPathRequest} {here there : Folder} {sent : Nat}
    (hs : Hop server s request here there sent) (h : Still s s') :
    Hop server s' request here there sent where
  obex := (h.settingPath request).2 hs.obex
  together := hs.together.still h
  next := by rw [h.pathState, hs.next]
  leads := hs.leads
  arrives := by
    rw [h.pathState]
    exact hs.arrives
  chase := by rw [h.chase_eq, h.pathState, hs.chase]
  near := by
    rw [h.pathState]
    exact hs.near

theorem UnderWay.still (hs : UnderWay server s) (h : Still s s') : UnderWay server s' := by
  obtain ⟨request, here, there, sent, hhop⟩ := hs.hop
  exact ⟨⟨request, here, there, sent, hhop.still h⟩, h.ready request hhop.obex hs.ready⟩

theorem NamesSince.append (hs : NamesSince server base s) {acts : List Act}
    (hhistory : s'.history = s.history ++ acts) (hacts : ∀ act ∈ acts, Resolves server act) :
    NamesSince server base s' := by
  obtain ⟨old, hold, hresolves⟩ := hs
  refine ⟨old ++ acts, by rw [hhistory, hold, append_assoc], ?_⟩
  intro act hact
  exact (mem_append.1 hact).elim (hresolves act) (hacts act)

theorem NamesSince.still (hs : NamesSince server base s) (h : Still s s') :
    NamesSince server base s' := by
  obtain ⟨acts, hacts, hnone⟩ := h.history
  refine hs.append hacts fun act hact => ?_
  have hnot := hnone act hact
  cases act <;> trivial

theorem Agreed.still (hs : Agreed server base s) (h : Still s s') : Agreed server base s' :=
  ⟨hs.1.imp (·.still h) (·.still h), hs.2.still h⟩

end Still

/-! ## At the end of a way -/

section Arrival

variable {server : Server} {base : List Act} {s s' : Session} {here : Folder}

/-- A change of the client that keeps its position, while no SETPATH is in progress. -/
theorem setClient_still_free {f : Client → Client} (hs : ∀ request, s.obex ≠ .settingPath request)
    (hpath : (f s.client).pathState = s.client.pathState) {u : Unit}
    (h : Ends (Cli.setClient f) s u s') : Still s s' := by
  obtain rfl := ends_update.1 h
  exact ⟨hpath, fun _ => .rfl, fun r hr => absurd hr (hs r), [], by simp, by simp⟩

theorem Agreed.settled (hs : Agreed server base s)
    (hfree : ∀ request, s.obex ≠ .settingPath request) : Settled server s :=
  hs.1.elim id fun hway => by
    obtain ⟨request, here, there, sent, hhop⟩ := hway.hop
    exact absurd hhop.obex (hfree request)

theorem Together.of_client {t : Session} (hs : Together server s here) (h : t.client = s.client) :
    Together server t here := ⟨h ▸ hs.client, hs.server⟩

/-- Building a name that means the right object. -/
theorem buildName_agreed {entry : Option UInt32}
    {build : PathState → GetReq → Except Fault (List UInt16)} (hs : Agreed server base s)
    (hfree : ∀ request, s.obex ≠ .settingPath request)
    (hname : ∃ name, build s.client.pathState s.client.req = .ok name ∧
      server.getObject true s.client.req.type (s.client.req.appParam.bind AppParams.maxListCount)
        name = .ok (.ok, ⟨s.client.req.repo, s.client.req.pb, entry⟩))
    (h : Ends (Cli.buildName entry build) s () s') : Agreed server base s' := by
  obtain ⟨name, hbuild, hresolves⟩ := hname
  unfold Cli.buildName Cli.client at h
  replace h := ends_bind_view.1 h
  rw [hbuild] at h
  obtain ⟨name', hname, h⟩ := ends_bind_lift.1 h
  cases hname
  obtain ⟨u, t', hset, hrecord⟩ := ends_bind.1 h
  have hstill := setClient_still_free hfree rfl hset
  obtain rfl := ends_update.1 hrecord
  have hsettled := (hs.still hstill).settled (hstill.noSettingPath hfree)
  have hnames := (hs.still hstill).2
  refine ⟨.inl ⟨hsettled.noSettingPath, ?_, ?_⟩, hnames.append rfl ?_⟩
  · obtain ⟨here, hhere⟩ := hsettled.together
    exact ⟨here, hhere.of_client rfl⟩
  · exact (chase_append ..).trans (by rw [hsettled.chase]; rfl)
  · intro act hact
    obtain rfl := mem_singleton.1 hact
    exact hresolves

variable {request : SetPathRequest} {sent : Nat} {status : Status}

/-- In the right folder the right names are built. -/
theorem pbapSetPathDone_agreed (hs : Agreed server base s)
    (hfree : ∀ request, s.obex ≠ .settingPath request) (hhere : Together server s here)
    (hready : s.client.Ready) (hdone : s.client.setPathDone = some .pbapSetPathDone)
    (hthere : status.success = true → here = s.client.pathState.target.folder)
    (h : Ends (Cli.pbapSetPathDone status) s () s') : Agreed server base s' := by
  unfold Cli.pbapSetPathDone at h
  split at h
  · next hstatus =>
      have hthere := hthere hstatus
      have hready := hready hdone
      unfold Cli.client at h
      replace h := ends_bind_view.1 h
      split at h
      · next hstate =>
          obtain ⟨store, book, hrepo, hpb, hfits⟩ := hready (.inr (by rw [hstate]; rfl))
          rw [Client.Fits, hstate] at hfits
          obtain ⟨htarget, htype⟩ := hfits
          rw [htarget] at hthere
          subst hthere
          obtain ⟨u, t, hbuild, hopen⟩ := ends_bind.1 h
          refine (buildName_agreed hs hfree ?_ hbuild).still (Cli.pbapOpen_still _ _ _ hopen)
          rw [htype, hrepo, hpb]
          exact phonebookName_resolves hhere.client hhere.server _
      · next hstate =>
          obtain ⟨store, book, hrepo, hpb, hfits⟩ := hready (.inr (by rw [hstate]; rfl))
          rw [Client.Fits, hstate] at hfits
          obtain ⟨htarget, htype, hcount⟩ := hfits
          rw [htarget] at hthere
          subst hthere
          obtain ⟨u, t, hbuild, hopen⟩ := ends_bind.1 h
          refine (buildName_agreed hs hfree ?_ hbuild).still (Cli.pbapOpen_still _ _ _ hopen)
          rw [htype, hrepo, hpb, hcount]
          exact entryName_resolves hhere.client hhere.server _
      · next hstate =>
          obtain ⟨store, book, hrepo, hpb, hfits⟩ := hready (.inl hstate)
          rw [Client.Fits, hstate] at hfits
          obtain ⟨u, t, hbranch, hfinish⟩ := ends_bind.1 h
          refine Agreed.still ?_ (Cli.finishReq_still _ _ _ hfinish)
          obtain ⟨htarget, htype⟩ | ⟨htarget, htype⟩ := hfits
          · rw [htarget] at hthere
            subst hthere
            obtain ⟨-, hbuild⟩ | ⟨hpbSet, -⟩ := ends_branch.1 hbranch
            · refine buildName_agreed hs hfree ?_ hbuild
              rw [htype, hrepo, hpb]
              exact phonebookName_resolves hhere.client hhere.server _
            · exact absurd hhere.client.2.2 hpbSet
          · rw [htarget] at hthere
            subst hthere
            obtain ⟨hinvalid, -⟩ | ⟨-, hbuild⟩ := ends_branch.1 hbranch
            · exact absurd (hhere.client.2.2.symm.trans hinvalid) book.2
            · refine buildName_agreed hs hfree ?_ hbuild
              rw [htype, hrepo, hpb]
              exact listingName_resolves hhere.client hhere.server _
      · next hstate =>
          obtain ⟨store, book, hrepo, hpb, hfits⟩ := hready (.inr (by rw [hstate]; rfl))
          rw [Client.Fits, hstate] at hfits
          obtain ⟨htarget, htype⟩ := hfits
          rw [htarget] at hthere
          subst hthere
          obtain ⟨u, t, hbuild, hopen⟩ := ends_bind.1 h
          refine (buildName_agreed hs hfree ?_ hbuild).still (Cli.pbapOpen_still _ _ _ hopen)
          rw [htype, hrepo, hpb]
          exact listingName_resolves hhere.client hhere.server _
      · exact hs.still (Cli.finishReq_still _ _ _ h)
  · exact hs.still (Cli.finishReq_still _ _ _ h)

/-- The report at the end of a way, which is a success only at the destination. -/
theorem callSetPathDone_agreed (hs : Going server s here sent) (hnames : NamesSince server base s)
    (hthere : status.success = true → here = s.client.pathState.target.folder)
    (h : Ends (Cli.callSetPathDone status) s () s') : Agreed server base s' := by
  unfold Cli.callSetPathDone Cli.client at h
  replace h := ends_bind_view.1 h
  obtain ⟨u, t, hrecord, h⟩ := ends_bind.1 h
  have hrecord := ends_update.1 hrecord
  have hclient : t.client = s.client := by rw [hrecord]
  have hfree : ∀ request, t.obex ≠ .settingPath request := by
    rw [hrecord]
    exact hs.noSettingPath
  have hchase : chase t.history = some none := by
    rw [hrecord]
    refine (chase_append ..).trans ?_
    rw [hs.chase]
    refine if_neg fun hwrong => hwrong.2 ?_
    exact hthere hwrong.1 ▸ hs.together.client
  have hagreed : Agreed server base t := by
    have hhistory : t.history = s.history ++ [.setPathDone status s.client.pathState] := by
      rw [hrecord]
    refine ⟨.inl ⟨hfree, ⟨here, hs.together.of_client hclient⟩, hchase⟩,
      hnames.append hhistory ?_⟩
    intro act hact
    obtain rfl := mem_singleton.1 hact
    trivial
  rw [← hclient] at h hthere
  split at h
  · next hdone =>
      exact pbapSetPathDone_agreed hagreed hfree (hs.together.of_client hclient)
        (hclient ▸ hs.ready) hdone hthere h
  · exact hagreed.still (Cli.pbapSetExplicitPathDone_still _ _ _ h)
  · exact absurd h ends_fault

/-! ## On the way -/

theorem takeOutcome_ends (h : Ends Cli.takeOutcome s status s') :
    ∃ outcomes, s' = { s with outcomes := outcomes } := by
  unfold Cli.takeOutcome at h
  replace h := ends_bind_state.1 h
  split at h
  · obtain ⟨-, rfl⟩ := ends_pure.1 h
    exact ⟨s'.outcomes, rfl⟩
  · next outcome rest _ =>
      have hret := ends_bind_update.1 h
      obtain ⟨-, rfl⟩ := ends_pure.1 hret
      exact ⟨rest, rfl⟩

/-- A SETPATH is sent or refused. -/
theorem obexSetPath_ends (h : Ends (Cli.obexSetPath request) s status s') :
    ∃ outcomes,
      (status = .ok ∧ s' = { s with outcomes := outcomes, obex := .settingPath request,
                                    history := s.history ++ [.setPathSent request] }) ∨
      (status.success = false ∧ s' = { s with outcomes := outcomes }) := by
  unfold Cli.obexSetPath at h
  replace h := ends_bind_state.1 h
  split at h
  · obtain ⟨outcome, t, htake, h⟩ := ends_bind.1 h
    obtain ⟨outcomes, rfl⟩ := takeOutcome_ends htake
    split at h
    · replace h := ends_bind_update.1 h
      replace h := ends_bind_update.1 h
      obtain ⟨rfl, rfl⟩ := ends_pure.1 h
      exact ⟨outcomes, .inl ⟨rfl, rfl⟩⟩
    · next hrefused =>
        obtain ⟨rfl, rfl⟩ := ends_pure.1 h
        exact ⟨outcomes, .inr ⟨Bool.eq_false_iff.2 hrefused, rfl⟩⟩
  · obtain ⟨rfl, rfl⟩ := ends_pure.1 h
    exact ⟨s'.outcomes, .inr ⟨rfl, rfl⟩⟩
  · obtain ⟨rfl, rfl⟩ := ends_pure.1 h
    exact ⟨s'.outcomes, .inr ⟨rfl, rfl⟩⟩

/-- `SetPath` reports the arrival or sends the next SETPATH. -/
theorem setPath_agreed (hs : Going server s here sent) (hnames : NamesSince server base s)
    (h : Ends Cli.setPath s () s') : Agreed server base s' := by
  unfold Cli.setPath Cli.client at h
  replace h := ends_bind_view.1 h
  obtain ⟨hnext, hpath⟩ | ⟨there, request, hnext, hpath, hleads, hconfirm⟩ :=
    PathState.setPath_proceeds hs.together.client
  · rw [hpath] at h
    obtain ⟨request, hrequest, h⟩ := ends_bind_lift.1 h
    cases hrequest
    exact callSetPathDone_agreed hs hnames (fun _ => Target.next_eq_none.1 hnext) h
  · rw [hpath] at h
    obtain ⟨request', hrequest, h⟩ := ends_bind_lift.1 h
    cases hrequest
    obtain ⟨status, t', hsend, h⟩ := ends_bind.1 h
    obtain ⟨outcomes, ⟨rfl, rfl⟩ | ⟨hrefused, rfl⟩⟩ := obexSetPath_ends hsend
    · obtain ⟨hfalse, -⟩ | ⟨-, rfl⟩ := ends_only.1 h
      · cases hfalse
      · have hcloser := Target.distance_next hnext
        have hnear := hs.near
        refine ⟨.inr ⟨⟨request, here, there, sent + 1, rfl, hs.together.of_client rfl, hnext,
          hleads, hconfirm, ?_, ?_⟩, hs.ready⟩, hnames.append rfl ?_⟩
        · refine (chase_append ..).trans ?_
          rw [hs.chase]
          exact if_pos (by omega)
        · dsimp only
          omega
        · intro act hact
          obtain rfl := mem_singleton.1 hact
          trivial
    · obtain ⟨-, h⟩ | ⟨hsuccess, -⟩ := ends_only.1 h
      · have hgoing : Going server { s with outcomes := outcomes } here sent :=
          ⟨hs.noSettingPath, hs.together.of_client rfl, hs.chase, hs.near, hs.ready⟩
        refine callSetPathDone_agreed hgoing hnames ?_ h
        intro hsuccess
        rw [hrefused] at hsuccess
        cases hsuccess
      · exact absurd hrefused hsuccess

theorem pbapClient_ends {c : Option Client} (h : Ends Cli.pbapClient s c s') :
    (c = none ∨ c = some s.client) ∧ s' = s := by
  unfold Cli.pbapClient at h
  replace h := ends_bind_state.1 h
  split at h
  · obtain ⟨rfl, rfl⟩ := ends_pure.1 h
    exact ⟨.inl rfl, rfl⟩
  · split at h
    · exact absurd h ends_fault
    · obtain ⟨rfl, rfl⟩ := ends_pure.1 h
      exact ⟨.inr rfl, rfl⟩

/-- Whether `SetPath` is called again after the confirmation. -/
def goesOn : SetPathCfm → PathState → Bool
  | .toRootDirCfm => fun p => p.destRepo != invalidRepository
  | .toSim1DirCfm | .toTelecomDirCfm => fun _ => true
  | .toPbDirCfm => fun _ => false

theorem setPathCfm_eq (cfm : SetPathCfm) : Cli.setPathCfm cfm = Cli.dirCfm cfm (goesOn cfm) := by
  cases cfm <;> rfl

/-- Where the way does not go on, the SETPATH has led to the destination. -/
theorem Hop.arrived {there : Folder} (hs : Hop server s request here there sent)
    (hstop : goesOn request.cfm s.client.pathState = false) :
    there = s.client.pathState.target.folder := by
  have hnext := hs.next
  cases hs.leads with
  | toRoot =>
      have hrepo : s.client.pathState.destRepo = invalidRepository := by
        simpa [goesOn] using hstop
      rw [PathState.target, hrepo]
      rfl
  | toBook store book => exact Target.next_eq_phonebook hnext
  | _ => cases hstop

/-- The response to a SETPATH that the server has followed. -/
theorem setPathResponse_agreed {there : Folder} {server' : Server}
    (hs : Hop server s request here there sent) (hready : s.client.Ready)
    (hthere : server'.At there) (hnames : NamesSince server' base s)
    (h : Ends (Cli.setPathResponse .ok) s () s') : Agreed server' base s' := by
  unfold Cli.setPathResponse at h
  replace h := ends_bind_state.1 h
  rw [hs.obex] at h
  replace h := ends_bind_update.1 h
  rw [setPathCfm_eq] at h
  obtain ⟨c, t', hclient, h⟩ := ends_bind.1 h
  obtain ⟨hc, rfl⟩ := pbapClient_ends hclient
  obtain rfl | rfl := hc
  · exact absurd h ends_fault
  · dsimp only at h
    rw [if_pos (show Status.ok.success = true from rfl)] at h
    replace h := ends_bind_update.1 h
    have hgoing : Going server' { s with
        obex := .idle,
        client := { s.client with pathState := s.client.pathState.confirm request.cfm } }
        there sent := by
      refine ⟨nofun, ⟨hs.arrives, hthere⟩, ?_, ?_, ?_⟩
      · dsimp only
        rw [PathState.confirm_target, hs.chase]
      · dsimp only
        rw [PathState.confirm_target]
        exact hs.near
      · exact hready.confirm request.cfm
    split at h
    · exact setPath_agreed hgoing hnames h
    · next hstop =>
        refine callSetPathDone_agreed hgoing hnames (fun _ => ?_) h
        dsimp only
        rw [PathState.confirm_target]
        exact hs.arrived (Bool.eq_false_iff.2 hstop)

/-- A way begins in the folder where the two sides are. -/
theorem setPhonebookDir_agreed {repo : Repository} {pb : Phonebook} {done : SetPathDone}
    (hs : Agreed server base s) (hfree : ∀ request, s.obex ≠ .settingPath request)
    (hready : Client.Ready { s.client with
      pathState := { s.client.pathState with destRepo := repo, destPb := pb },
      setPathDone := some done })
    (h : Ends (Cli.setPhonebookDir repo pb done) s () s') : Agreed server base s' := by
  have hsettled := hs.settled hfree
  obtain ⟨here, hhere⟩ := hsettled.together
  replace h := ends_bind_update.1 h
  replace h := ends_bind_view.1 h
  replace h := ends_bind_update.1 h
  refine @setPath_agreed server base _ s' here 0 ?_ ?_ h
  · refine ⟨hfree, ⟨hhere.client.dest repo pb, hhere.server⟩, ?_, ?_, hready⟩
    · refine (chase_append ..).trans ?_
      rw [hsettled.chase]
      rfl
    · rw [Nat.zero_add]
      exact Target.distance_le _ _
  · refine hs.2.append rfl fun act hact => ?_
    obtain rfl := mem_singleton.1 hact
    trivial

end Arrival

end Pbap
