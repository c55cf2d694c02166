import BtPlatform.Obex.Client.Agreed

/-!
# A client that has sent an abort

In state `OBEX_ABORTING` the client tells the response to its abort from packets that
are still on their way by the response code and the length alone. A success response
of three bytes ends the abort; any other packet only starts the timeout again.
-/

namespace Obex.Client

open Support Program Linked Prog Cli List

/-- The client waits for the response to an abort. -/
structure Aborting (s : Session) : Prop where
  state : s.connection.state = .obexAborting
  lower : s.connection.disconnectingLowerLayer = false

/-- A packet is discarded: the timeout is started again. -/
def discardPacket : Cli Unit := do
  setConnection fun c => { c with timeoutCB := false }
  setCommandTimeout

/-- The timeout is stopped, then the abort is confirmed. -/
def endAbort (cfg : Config) : Cli Unit := do
  setConnection fun c => { c with timeoutCB := false }
  abortConfirm cfg

/-- The packet ends the abort, whenever it arrives. -/
def Understood (cfg : Config) (packet : List UInt8) : Prop :=
  ∀ addr s, Aborting s → lowerRecvDataInd cfg packet addr s = endAbort cfg s

/-- The packet is discarded, whenever it arrives. -/
def Discarded (cfg : Config) (packet : List UInt8) : Prop :=
  ∀ addr s, Aborting s → lowerRecvDataInd cfg packet addr s = discardPacket s

/-- A client that waits, and nobody to tell. -/
def waiting : Session :=
  { Session.connecting sampleConfig srmRequest plentiful with
    connection :=
      { Connection.new srmRequest with
        state := .obexAborting, abort := .abortSent, abortConfirm := some .default } }

theorem waiting_aborting : Aborting waiting := ⟨rfl, rfl⟩

theorem endAbort_waiting (cfg : Config) :
    ∃ s, Ends (endAbort cfg) waiting () s ∧ s.connection.state = .obexConnected :=
  ⟨_, rfl, rfl⟩

section Packet

variable {cfg : Config} {rspCode hi lo : UInt8} {body : List UInt8} {s : Session} (addr : Nat)

theorem openPacket_eq (hlen : (rspCode :: hi :: lo :: body).length < 65536) :
    ∃ rcvPacket, openPacket (rspCode :: hi :: lo :: body) addr = .ok (rspCode, rcvPacket) := by
  have hread := ByteStream.readable_open' (rspCode :: hi :: lo :: body) addr hlen
  have hread₁ := hread.advance (n := 1) (by simp)
  rw [openPacket, ByteStream.getUINT8_cons hread (ByteStream.rest_open' _ _ _), ok_bind]
  dsimp only
  rw [ByteStream.skip_of_le hread₁ (by simp), ok_bind]
  exact ⟨_, rfl⟩

theorem dispatchResponse_aborting (hstate : s.connection.state = .obexAborting) (dataLen : Nat)
    (rcvPacket : ByteStream) :
    dispatchResponse cfg rspCode dataLen rcvPacket s =
      (if isAbortResponse rspCode dataLen then abortConfirm cfg else setCommandTimeout) s := by
  simp only [dispatchResponse, connection, bind, andThen, view, hstate]

/-- What the client does with a packet while it waits. -/
theorem lowerRecvDataInd_aborting (h : Aborting s)
    (hlen : (rspCode :: hi :: lo :: body).length < 65536) :
    lowerRecvDataInd cfg (rspCode :: hi :: lo :: body) addr s =
      if isAbortResponse rspCode (rspCode :: hi :: lo :: body).length then endAbort cfg s
      else discardPacket s := by
  obtain ⟨rcvPacket, hopen⟩ := openPacket_eq addr hlen
  have hreceive : ∀ t : Session, t.connection.disconnectingLowerLayer = false →
      t.connection.state = .obexAborting →
      (do
        let c ← connection
        if c.disconnectingLowerLayer then pure ()
        else
          let opened ← Prog.lift (openPacket (rspCode :: hi :: lo :: body) addr)
          dispatchResponse cfg opened.1 (rspCode :: hi :: lo :: body).length opened.2 :
          Cli Unit) t =
        (if isAbortResponse rspCode (rspCode :: hi :: lo :: body).length then abortConfirm cfg
          else setCommandTimeout) t := by
    intro t hlower hstate
    simp only [connection, bind, andThen, view, hlower, Bool.false_eq_true, if_false, hopen, lift,
      dispatchResponse_aborting hstate]
  have hwhole := hreceive { s with connection := { s.connection with timeoutCB := false } }
    h.lower h.state
  split
  · next hresponse =>
      rw [if_pos hresponse] at hwhole
      exact hwhole
  · next hother =>
      rw [if_neg hother] at hwhole
      exact hwhole

theorem isAbortResponse_iff :
    isAbortResponse rspCode (rspCode :: hi :: lo :: body).length = true ↔
      rspCode = obexFinal rspOk ∧ body = [] := by
  have hlen : (rspCode :: hi :: lo :: body).length ≤ abortRspLen ↔ body = [] := by
    rw [← length_eq_zero_iff, length_cons, length_cons, length_cons, abortRspLen]
    omega
  rw [isAbortResponse, Bool.and_eq_true, decide_eq_true_iff, decide_eq_true_iff, hlen]

/-- A success response of three bytes ends the abort. -/
theorem understood_of_plain (hlen : (rspCode :: hi :: lo :: body).length < 65536)
    (hplain : rspCode = obexFinal rspOk ∧ body = []) :
    Understood cfg (rspCode :: hi :: lo :: body) := by
  intro addr s h
  rw [lowerRecvDataInd_aborting addr h hlen, if_pos (isAbortResponse_iff.2 hplain)]

/-- Any other packet is discarded. -/
theorem discarded_of_other (hlen : (rspCode :: hi :: lo :: body).length < 65536)
    (hother : ¬ (rspCode = obexFinal rspOk ∧ body = [])) :
    Discarded cfg (rspCode :: hi :: lo :: body) := by
  intro addr s h
  rw [lowerRecvDataInd_aborting addr h hlen, if_neg fun hresponse =>
    hother (isAbortResponse_iff.1 hresponse)]

end Packet

/-! ## All arrivals -/

theorem discardPacket_aborting {s s' : Session} (h : Ends discardPacket s () s')
    (haborting : Aborting s) : Aborting s' := by
  replace h := ends_bind_view.1 (ends_bind_update.1 h)
  obtain ⟨-, h⟩ | ⟨-, rfl⟩ := ends_only.1 h
  · obtain ⟨room, t, htake, hset⟩ := ends_bind.1 h
    obtain ⟨ch, -, rfl⟩ := ends_zoom.1 htake
    obtain rfl := ends_update.1 hset
    exact ⟨haborting.state, haborting.lower⟩
  · exact ⟨haborting.state, haborting.lower⟩

/-- Packets arrive one after the other, each in a buffer at an address. -/
def receiveAll (cfg : Config) (arrivals : List (List UInt8 × Nat)) : Cli Unit :=
  Prog.perform (fun arrival => lowerRecvDataInd cfg arrival.1 arrival.2) arrivals

/-- Whatever is discarded before it, the answer ends the abort. -/
theorem receiveAll_settles {cfg : Config} {arrivals : List (List UInt8 × Nat)}
    {packet : List UInt8} (hdiscarded : ∀ arrival ∈ arrivals, Discarded cfg arrival.1)
    (hunderstood : Understood cfg packet) (addr : Nat) {s s' : Session} (h : Aborting s) :
    Ends (receiveAll cfg (arrivals ++ [(packet, addr)])) s () s' ↔
      ∃ t, Ends (Prog.perform (fun _ => discardPacket) arrivals) s () t ∧ Aborting t ∧
        Ends (endAbort cfg) t () s' := by
  induction arrivals generalizing s with
  | nil =>
      simp only [receiveAll, Prog.perform, nil_append, ends_bind, ends_pure]
      constructor
      · rintro ⟨_, _, hreceive, -, rfl⟩
        refine ⟨s, ⟨trivial, rfl⟩, h, ?_⟩
        rw [Ends, ← hunderstood addr s h]
        exact hreceive
      · rintro ⟨_, ⟨-, rfl⟩, -, hend⟩
        refine ⟨(), s', ?_, trivial, rfl⟩
        rw [Ends, hunderstood addr _ h]
        exact hend
  | cons arrival arrivals ih =>
      have hfirst := hdiscarded arrival mem_cons_self
      have hrest : ∀ {u}, Aborting u → _ := fun hu =>
        ih (fun a ha => hdiscarded a (mem_cons_of_mem arrival ha)) hu
      simp only [receiveAll, Prog.perform, cons_append, ends_bind]
      constructor
      · rintro ⟨_, u, hreceive, hreceives⟩
        rw [Ends, hfirst arrival.2 s h] at hreceive
        obtain ⟨t, hdiscards, hends⟩ := (hrest (discardPacket_aborting hreceive h)).1 hreceives
        exact ⟨t, ⟨(), u, hreceive, hdiscards⟩, hends⟩
      · rintro ⟨t, ⟨_, u, hdiscard, hdiscards⟩, hends⟩
        refine ⟨(), u, ?_, (hrest (discardPacket_aborting hdiscard h)).2 ⟨t, hdiscards, hends⟩⟩
        rw [Ends, hfirst arrival.2 s h]
        exact hdiscard

/-- Whichever of the bodies arrive before it, they are discarded, and then the packet
ends the abort. -/
def Settles (cfg : Config) (bodies : List (List UInt8)) (packet : List UInt8) : Prop :=
  ∀ (arrivals : List (List UInt8 × Nat)) (addr : Nat) (s s' : Session),
    (∀ arrival ∈ arrivals, arrival.1 ∈ bodies) → Aborting s →
      (Ends (receiveAll cfg (arrivals ++ [(packet, addr)])) s () s' ↔
        ∃ t, Ends (Prog.perform (fun _ => discardPacket) arrivals) s () t ∧ Aborting t ∧
          Ends (endAbort cfg) t () s')

/-- Only a success response of three bytes ends the abort. -/
theorem settles_iff {cfg : Config} {bodies : List (List UInt8)} {rspCode hi lo : UInt8}
    {body : List UInt8} (hdiscarded : ∀ b ∈ bodies, Discarded cfg b)
    (hlen : (rspCode :: hi :: lo :: body).length < 65536) :
    Settles cfg bodies (rspCode :: hi :: lo :: body) ↔
      rspCode = obexFinal rspOk ∧ body = [] := by
  constructor
  · intro hsettles
    by_contra hother
    obtain ⟨s', hend, hstate⟩ := endAbort_waiting cfg
    have hreceives := (hsettles [] 0 waiting s' (fun _ hmem => by cases hmem) waiting_aborting).2
      ⟨waiting, rfl, waiting_aborting, hend⟩
    obtain ⟨_, hreceive, -⟩ := ends_bind_return.1 hreceives
    have hdiscard : Discarded cfg (rspCode :: hi :: lo :: body) := discarded_of_other hlen hother
    have hends : Ends discardPacket waiting () s' :=
      (hdiscard 0 waiting waiting_aborting).symm.trans hreceive
    have haborting := (discardPacket_aborting hends waiting_aborting).state
    rw [hstate] at haborting
    cases haborting
  · intro hplain arrivals addr s s' hmem h
    exact receiveAll_settles (fun arrival ha => hdiscarded _ (hmem arrival ha))
      (understood_of_plain hlen hplain) addr h

end Obex.Client
