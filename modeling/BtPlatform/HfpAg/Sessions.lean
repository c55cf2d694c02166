import BtPlatform.HfpAg.Settled

/-!
# Requests belong to one session

As long as every event meets its condition a deferred disconnect stays in its session, and no
media thread outlives audio. A link that is lost between the request and the end of audio
takes the request along.
-/

namespace HfpAg

namespace Session

variable {s : Session}

/-- Everything that is promised holds as long as every event meets its condition. -/
theorem deferred_kept {bluetooth_interface : Bool} (h : Reaches bluetooth_interface s) :
    Kept s := h.sound.kept

/-- Every call succeeds, but for the thread of the recording. -/
def oneThread : Env where
  interface := true
  vendor := true
  disconnect := true
  opened := true
  playback := .started 1
  record := .failed (some 1)

/-- The events are taken one after the other. -/
def takeAll (s : Session) : List (Env × BtEvent) → Option Session
  | [] => some s
  | (env, event) :: events => (s.take env event).bind (takeAll · events)

/-- A session whose end was asked for while audio was on. -/
def deferredEnd : List (Env × BtEvent) :=
  [(oneThread, ⟨.profileApiStart, 0⟩), (oneThread, ⟨.connectedCb, 5⟩),
    (oneThread, ⟨.audioStateConnectedCb, 5⟩), (oneThread, ⟨.apiDisconnectReq, 5⟩),
    (oneThread, ⟨.audioStateDisconnectedCb, 5⟩), (oneThread, ⟨.disconnectedCb, 5⟩)]

theorem deferred_kept_deferredEnd :
    ∃ s, (new true).takeAll deferredEnd = some s ∧ Kept s ∧
      s.requests = [⟨5, true, false, [⟨5, true, false⟩]⟩] := by
  have hstart := (Reaches.new : Reaches true _).take oneThread
    ⟨.profileApiStart, 0⟩ (fun _ _ _ => ⟨rfl, rfl⟩) rfl
  have hconnected := hstart.take oneThread ⟨.connectedCb, 5⟩ nofun rfl
  have haudio := hconnected.take oneThread ⟨.audioStateConnectedCb, 5⟩
    (by rintro _ _ tid ⟨⟩; rfl) rfl
  have hrequest := haudio.take oneThread ⟨.apiDisconnectReq, 5⟩ trivial rfl
  have hdown := hrequest.take oneThread ⟨.audioStateDisconnectedCb, 5⟩
    trivial rfl
  have hend := hdown.take oneThread ⟨.disconnectedCb, 5⟩
    (fun _ => ⟨rfl, rfl⟩) rfl
  exact ⟨_, rfl, deferred_kept hend, rfl⟩

/-- The link is lost after the request: the gateway is disconnected, and the request is
still memorized. -/
theorem deferred_not_kept : ¬ ∀ bluetooth_interface s, Runs bluetooth_interface s → Kept s := by
  intro hall
  have hstart := (Runs.new : Runs true _).take oneThread
    ⟨.profileApiStart, 0⟩ rfl
  have hconnected := hstart.take oneThread ⟨.connectedCb, 5⟩ rfl
  have haudio := hconnected.take oneThread ⟨.audioStateConnectedCb, 5⟩ rfl
  have hrequest := haudio.take oneThread ⟨.apiDisconnectReq, 5⟩ rfl
  have hlost := hrequest.take oneThread ⟨.disconnectedCb, 5⟩ rfl
  have hempty := (hall _ _ hlost).empty nofun
  cases hempty

end Session

end HfpAg
