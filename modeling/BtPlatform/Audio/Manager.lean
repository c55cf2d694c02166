import Mathlib.Data.Fin.VecNotation
import Mathlib.Data.Fintype.Basic
import Mathlib.Tactic.FinCases

/-!
# The audio manager

Profiles that want to play audio request control, permanently or for a call, and release
it. `BT_Audio_Manager` keeps the profiles that have been granted control in a stack and
tells them with status messages who may play.
-/

namespace Audio

open List

/-- `ProfileIdType`. -/
inductive ProfileId
  | a2dpSink
  | hfpClient
  | btAm
  | pan
  | gatt
  | sdpClient
  | pbapClient
  | opp
  | hfpAg
  | a2dpSource
  | avrcp
  | hid
  /-- `PROFILE_ID_MAX`, no profile -/
  | max
  deriving DecidableEq, Repr

/-- `ControlRequestType`. -/
inductive ControlRequestType
  | permanent
  | transient
  /-- `REQUEST_TYPE_DEFAULT`, no request -/
  | default
  deriving DecidableEq, Repr

/-- `ControlStatusType`. -/
inductive ControlStatus
  | loss
  | lossTransient
  | gainTransient
  | gain
  | regained
  deriving DecidableEq, Repr

/-- The threads that take status messages. -/
inductive ThreadId
  | a2dpSinkStream
  | a2dpSinkSplit
  | hfpClient
  | hfpAg
  deriving DecidableEq, Repr

/-- `MAX_PROFILE_ENTRIES`. -/
abbrev maxProfileEntries : Nat := 2

/-- `ControlStackEntry`. -/
structure ControlStackEntry where
  profileId : ProfileId
  controlStatus : ControlRequestType
  deriving DecidableEq, Repr

/-- An entry that is not used. -/
def ControlStackEntry.empty : ControlStackEntry := ⟨.max, .default⟩

/-- `audio_control_stack`. -/
abbrev ControlStack : Type := Fin maxProfileEntries → ControlStackEntry

/-- An event of a profile. -/
inductive ControlEvent
  /-- `BT_AM_REQUEST_CONTROL` -/
  | request (profileId : { p : ProfileId // p ≠ .max })
      (requestType : { t : ControlRequestType // t ≠ .default })
  /-- `BT_AM_RELEASE_CONTROL` -/
  | release (profileId : { p : ProfileId // p ≠ .max })
  deriving DecidableEq, Repr

/-- What is recorded of a run. -/
inductive Act
  | posted (thread : ThreadId) (status : ControlStatus) (profileId : ProfileId)
  | released (profileId : ProfileId)
  deriving DecidableEq, Repr

/-- The audio manager, and what it has done. -/
structure AudioManager where
  isA2dpSinkSplitEnabled : Bool
  audioControlStack : ControlStack
  history : List Act

/-- `BT_Audio_Manager::BT_Audio_Manager`. -/
def AudioManager.new (split : Bool) : AudioManager := ⟨split, fun _ => .empty, []⟩

namespace ControlStack

/-- `BT_Audio_Manager::GetTopIndex`; there is none in an empty stack. -/
def getTopIndex (stack : ControlStack) : Option (Fin maxProfileEntries) :=
  (finRange maxProfileEntries).reverse.find? fun i => (stack i).profileId ≠ .max

def getIndex (stack : ControlStack) (profileId : ProfileId) : Option (Fin maxProfileEntries) :=
  (finRange maxProfileEntries).reverse.find? fun i => (stack i).profileId = profileId

def addNewNode (stack : ControlStack) (profile : ProfileId) (ctrlStatus : ControlRequestType) :
    ControlStack :=
  let index := stack.getTopIndex.elim 0 fun top => top.val + 1
  fun i => if i.val = index then ⟨profile, ctrlStatus⟩ else stack i

/-- `BT_Audio_Manager::RemoveNode`: every entry from the index on takes the next one. -/
def removeNode (stack : ControlStack) (index : Fin maxProfileEntries) : ControlStack := fun i =>
  if i < index then stack i
  else if h : i.val + 1 < maxProfileEntries then stack ⟨i.val + 1, h⟩
  else .empty

end ControlStack

/-- `BT_Audio_Manager::GetThreadId`; for other profiles `THREAD_ID_MAX`, to which
`PostMessage` posts nothing. -/
def getThreadId : ProfileId → Option ThreadId
  | .hfpClient => some .hfpClient
  | .hfpAg => some .hfpAg
  | _ => none

/-- Where `SendControlStatusMessage` posts the messages for a profile; `sinkStream` says
whether there is a `pA2dpSinkStream`. -/
def destination (split sinkStream : Bool) (profileId : ProfileId) : Option ThreadId :=
  if profileId ≠ .a2dpSink then getThreadId profileId
  else if split then some .a2dpSinkSplit
  else if sinkStream then some .a2dpSinkStream
  else none

namespace AudioManager

def sendControlStatusMessage (m : AudioManager) (sinkStream : Bool) (ctrlStatus : ControlStatus)
    (profileId : ProfileId) : AudioManager :=
  match destination m.isA2dpSinkSplitEnabled sinkStream profileId with
  | some thread => { m with history := m.history ++ [.posted thread ctrlStatus profileId] }
  | none => m

/-- The status with which control is granted. -/
def grant : ControlRequestType → Option ControlStatus
  | .permanent => some .gain
  | .transient => some .gainTransient
  | .default => none

/-- Tell a profile that a request of the type is granted. -/
def sendGrant (m : AudioManager) (sinkStream : Bool) (type : ControlRequestType)
    (profileId : ProfileId) : AudioManager :=
  match grant type with
  | some status => m.sendControlStatusMessage sinkStream status profileId
  | none => m

/-- The case `BT_AM_REQUEST_CONTROL` of `BT_Audio_Manager::ProcessEvent`. -/
def requestControl (m : AudioManager) (sinkStream : Bool) (profileId : ProfileId)
    (requestType : ControlRequestType) : AudioManager :=
  match m.audioControlStack.getTopIndex with
  | none =>
      { m with audioControlStack := m.audioControlStack.addNewNode profileId requestType }.sendGrant
        sinkStream requestType profileId
  | some top =>
      let entry := m.audioControlStack top
      if entry.profileId = profileId then m.sendGrant sinkStream entry.controlStatus profileId
      else
        match entry.controlStatus with
        | .transient => m.sendControlStatusMessage sinkStream .lossTransient profileId
        | .permanent =>
            match requestType with
            | .transient =>
                if h : top.val + 1 < maxProfileEntries then
                  let m := m.sendControlStatusMessage sinkStream .lossTransient entry.profileId
                  let m := { m with
                    audioControlStack := m.audioControlStack.addNewNode profileId requestType }
                  m.sendControlStatusMessage sinkStream .gainTransient
                    (m.audioControlStack ⟨top.val + 1, h⟩).profileId
                else m.sendControlStatusMessage sinkStream .loss profileId
            | .permanent =>
                let m := m.sendControlStatusMessage sinkStream .loss entry.profileId
                let m := { m with
                  audioControlStack :=
                    (m.audioControlStack.removeNode top).addNewNode profileId requestType }
                m.sendControlStatusMessage sinkStream .gain (m.audioControlStack top).profileId
            | .default => m
        | .default => m

/-- The case `BT_AM_RELEASE_CONTROL` of `BT_Audio_Manager::ProcessEvent`. -/
def releaseControl (m : AudioManager) (sinkStream : Bool) (profileId : ProfileId) : AudioManager :=
  match m.audioControlStack.getIndex profileId with
  | none => m
  | some profileIndex =>
      let top := m.audioControlStack.getTopIndex
      let m :=
        if top = some profileIndex ∧
            (m.audioControlStack profileIndex).controlStatus = .transient ∧
              profileIndex.val ≠ 0 then
          m.sendControlStatusMessage sinkStream .regained
            (m.audioControlStack ⟨profileIndex.val - 1, by omega⟩).profileId
        else m
      { m with audioControlStack := m.audioControlStack.removeNode profileIndex }

def processEvent (m : AudioManager) (sinkStream : Bool) : ControlEvent → AudioManager
  | .request profileId requestType => m.requestControl sinkStream profileId requestType
  | .release profileId =>
      { m with history := m.history ++ [Act.released profileId] }.releaseControl
        sinkStream profileId

/-- The events one after the other, each with whether the stream of the sink exists. -/
def run (m : AudioManager) (inputs : List (ControlEvent × Bool)) : AudioManager :=
  inputs.foldl (fun m input => m.processEvent input.2 input.1) m

end AudioManager

/-! ## What the stack holds -/

/-- The stacks between two events: a permanent holder may wait below a transient one. -/
inductive ControlStack.Sound : ControlStack → Prop
  | empty : Sound ![.empty, .empty]
  | one {p : ProfileId} {t : ControlRequestType} (hp : p ≠ .max) (ht : t ≠ .default) :
      Sound ![⟨p, t⟩, .empty]
  | two {p q : ProfileId} (hp : p ≠ .max) (hq : q ≠ .max) (hne : p ≠ q) :
      Sound ![⟨p, .permanent⟩, ⟨q, .transient⟩]

namespace ControlStack

variable {p q : ProfileId} {t u : ControlRequestType}

theorem Sound.eq {stack : ControlStack} (h : Sound stack) : stack = ![.empty, .empty] ∨
    (∃ p t, p ≠ .max ∧ t ≠ .default ∧ stack = ![⟨p, t⟩, .empty]) ∨
      ∃ p q, p ≠ .max ∧ q ≠ .max ∧ p ≠ q ∧ stack = ![⟨p, .permanent⟩, ⟨q, .transient⟩] := by
  cases h with
  | empty => exact .inl rfl
  | one hp ht => exact .inr (.inl ⟨_, _, hp, ht, rfl⟩)
  | two hp hq hne => exact .inr (.inr ⟨_, _, hp, hq, hne, rfl⟩)

theorem finRange_reverse : (finRange maxProfileEntries).reverse = [1, 0] := by decide

@[simp] theorem getTopIndex_empty : getTopIndex ![.empty, .empty] = none := by decide

@[simp] theorem getTopIndex_one (hp : p ≠ .max) : getTopIndex ![⟨p, t⟩, .empty] = some 0 := by
  rw [getTopIndex, finRange_reverse]
  simp [ControlStackEntry.empty, hp]

@[simp] theorem getTopIndex_two (hq : q ≠ .max) : getTopIndex ![⟨p, t⟩, ⟨q, u⟩] = some 1 := by
  rw [getTopIndex, finRange_reverse]
  simp [hq]

@[simp] theorem addNewNode_empty : addNewNode ![.empty, .empty] p t = ![⟨p, t⟩, .empty] := by
  funext i
  rw [addNewNode, getTopIndex_empty]
  fin_cases i <;> rfl

@[simp] theorem addNewNode_one (hp : p ≠ .max) :
    addNewNode ![⟨p, t⟩, .empty] q u = ![⟨p, t⟩, ⟨q, u⟩] := by
  funext i
  rw [addNewNode, getTopIndex_one hp]
  fin_cases i <;> rfl

@[simp] theorem removeNode_zero {a b : ControlStackEntry} :
    removeNode ![a, b] 0 = ![b, .empty] := by
  funext i
  fin_cases i <;> rfl

@[simp] theorem removeNode_one {a b : ControlStackEntry} :
    removeNode ![a, b] 1 = ![a, .empty] := by
  funext i
  fin_cases i <;> rfl

theorem getIndex_eq {stack : ControlStack} {r : ProfileId} : stack.getIndex r =
    if (stack 1).profileId = r then some 1
    else if (stack 0).profileId = r then some 0 else none := by
  rw [getIndex, finRange_reverse]
  by_cases h1 : (stack 1).profileId = r
  · simp [h1]
  · by_cases h0 : (stack 0).profileId = r <;> simp [h1, h0]

end ControlStack

/-! ## What an event does -/

/-- What `SendControlStatusMessage` posts. -/
def posts (split sinkStream : Bool) (status : ControlStatus) (profileId : ProfileId) : List Act :=
  match destination split sinkStream profileId with
  | some thread => [.posted thread status profileId]
  | none => []

theorem AudioManager.send_eq (m : AudioManager) (sinkStream : Bool) (status : ControlStatus)
    (profileId : ProfileId) : m.sendControlStatusMessage sinkStream status profileId =
      { m with
        history := m.history ++ posts m.isA2dpSinkSplitEnabled sinkStream status profileId } := by
  unfold AudioManager.sendControlStatusMessage posts
  cases destination m.isA2dpSinkSplitEnabled sinkStream profileId with
  | some thread => rfl
  | none => simp

section Handles

variable (split sinkStream : Bool)

/-- All that an event can do to a sound stack, with what is recorded. -/
inductive Handles : ControlEvent → ControlStack → ControlStack → List Act → Prop
  | fresh {p t status} (hgrant : AudioManager.grant t.val = some status) :
      Handles (.request p t) ![.empty, .empty] ![⟨p, t⟩, .empty] (posts split sinkStream status p)
  | again {p t u status} (hgrant : AudioManager.grant u = some status) :
      Handles (.request p t) ![⟨p, u⟩, .empty] ![⟨p, u⟩, .empty] (posts split sinkStream status p)
  | denied {p t q} (hne : q ≠ p.val) :
      Handles (.request p t) ![⟨q, .transient⟩, .empty] ![⟨q, .transient⟩, .empty]
        (posts split sinkStream .lossTransient p)
  | interrupt {p t q} (ht : t.val = .transient) (hne : q ≠ p.val) (hq : q ≠ .max) :
      Handles (.request p t) ![⟨q, .permanent⟩, .empty] ![⟨q, .permanent⟩, ⟨p, .transient⟩]
        (posts split sinkStream .lossTransient q ++ posts split sinkStream .gainTransient p)
  | replace {p t q} (ht : t.val = .permanent) (hne : q ≠ p.val) :
      Handles (.request p t) ![⟨q, .permanent⟩, .empty] ![⟨p, .permanent⟩, .empty]
        (posts split sinkStream .loss q ++ posts split sinkStream .gain p)
  | againTransient {p t q} (hne : q ≠ p.val) (hq : q ≠ .max) :
      Handles (.request p t) ![⟨q, .permanent⟩, ⟨p, .transient⟩]
        ![⟨q, .permanent⟩, ⟨p, .transient⟩] (posts split sinkStream .gainTransient p)
  | deniedTransient {p t q r} (hne : r ≠ p.val) (hq : q ≠ .max) (hr : r ≠ .max) (hqr : q ≠ r) :
      Handles (.request p t) ![⟨q, .permanent⟩, ⟨r, .transient⟩]
        ![⟨q, .permanent⟩, ⟨r, .transient⟩] (posts split sinkStream .lossTransient p)
  | unmatched {p stack} (hsound : ControlStack.Sound stack)
    (hp : ∀ i, (stack i).profileId ≠ p.val) :
      Handles (.release p) stack stack [.released p]
  | leave {p t} : Handles (.release p) ![⟨p, t⟩, .empty] ![.empty, .empty] [.released p]
  | leaveBelow {p q} (hne : q ≠ p.val) (hq : q ≠ .max) :
      Handles (.release p) ![⟨p, .permanent⟩, ⟨q, .transient⟩] ![⟨q, .transient⟩, .empty]
        [.released p]
  | handBack {p q} (hne : q ≠ p.val) (hq : q ≠ .max) :
      Handles (.release p) ![⟨q, .permanent⟩, ⟨p, .transient⟩] ![⟨q, .permanent⟩, .empty]
        (Act.released p :: posts split sinkStream .regained q)

end Handles

theorem AudioManager.grant_eq {t : ControlRequestType} (h : t ≠ .default) :
    ∃ status, grant t = some status := by
  cases t with
  | permanent => exact ⟨_, rfl⟩
  | transient => exact ⟨_, rfl⟩
  | default => exact absurd rfl h

namespace AudioManager

variable {m : AudioManager} {sinkStream : Bool}

theorem sendGrant_eq {t : ControlRequestType} {status : ControlStatus} (h : grant t = some status)
    (profileId : ProfileId) : m.sendGrant sinkStream t profileId =
      { m with
        history := m.history ++ posts m.isA2dpSinkSplitEnabled sinkStream status profileId } := by
  rw [sendGrant, h]
  exact m.send_eq sinkStream status profileId

/-- An event does one of the things that `Handles` lists. -/
theorem processEvent_handles (h : m.audioControlStack.Sound) (event : ControlEvent) :
    ∃ stack acts, Handles m.isA2dpSinkSplitEnabled sinkStream event m.audioControlStack stack acts ∧
      m.processEvent sinkStream event =
        { m with audioControlStack := stack, history := m.history ++ acts } := by
  obtain ⟨split, stack, history⟩ := m
  cases event with
  | request p t =>
      simp only [processEvent, requestControl]
      obtain rfl | ⟨q, u, hq, hu, rfl⟩ | ⟨q, r, hq, hr, hqr, rfl⟩ := ControlStack.Sound.eq h
      · obtain ⟨status, hgrant⟩ := grant_eq t.2
        refine ⟨_, _, .fresh hgrant, ?_⟩
        rw [ControlStack.getTopIndex_empty]
        dsimp only
        rw [ControlStack.addNewNode_empty, sendGrant_eq hgrant]
      · rw [ControlStack.getTopIndex_one hq]
        dsimp only [Matrix.cons_val_zero]
        by_cases hqp : q = p.val
        · subst hqp
          obtain ⟨status, hgrant⟩ := grant_eq hu
          refine ⟨_, _, .again hgrant, ?_⟩
          exact (if_pos rfl).trans (sendGrant_eq hgrant _)
        · cases u with
          | transient => exact ⟨_, _, .denied hqp, (if_neg hqp).trans (send_eq _ _ _ _)⟩
          | permanent =>
              obtain ⟨t, ht⟩ := t
              cases t with
              | transient =>
                  refine ⟨_, _, .interrupt rfl hqp hq, (if_neg hqp).trans ?_⟩
                  simp [send_eq, ControlStack.addNewNode_one hq]
              | permanent =>
                  refine ⟨_, _, .replace rfl hqp, (if_neg hqp).trans ?_⟩
                  simp [send_eq]
              | default => exact absurd rfl ht
          | default => exact absurd rfl hu
      · rw [ControlStack.getTopIndex_two hr]
        dsimp only [Matrix.cons_val_one, Matrix.cons_val_zero]
        by_cases hrp : r = p.val
        · subst hrp
          refine ⟨_, _, .againTransient hqr hq, ?_⟩
          exact (if_pos rfl).trans (sendGrant_eq rfl _)
        · exact ⟨_, _, .deniedTransient hrp hq hr hqr, (if_neg hrp).trans (send_eq _ _ _ _)⟩
  | release p =>
      simp only [processEvent, releaseControl, ControlStack.getIndex_eq]
      obtain rfl | ⟨q, u, hq, hu, rfl⟩ | ⟨q, r, hq, hr, hqr, rfl⟩ := ControlStack.Sound.eq h
      · refine ⟨_, _, .unmatched h ?_, ?_⟩
        · intro i
          fin_cases i <;> exact p.2.symm
        · have hp : ProfileId.max ≠ p.val := p.2.symm
          simp [ControlStackEntry.empty, hp]
      · have hempty : ControlStackEntry.empty.profileId ≠ p.val := p.2.symm
        by_cases hqp : q = p.val
        · subst hqp
          refine ⟨_, _, .leave, ?_⟩
          simp [hempty]
        · refine ⟨_, _, .unmatched h ?_, ?_⟩
          · intro i
            fin_cases i
            · exact hqp
            · exact hempty
          · simp [hempty, hqp]
      · by_cases hrp : r = p.val
        · subst hrp
          refine ⟨_, _, .handBack hqr hq, ?_⟩
          simp [hr, send_eq]
        · by_cases hqp : q = p.val
          · subst hqp
            refine ⟨_, _, .leaveBelow hrp hr, ?_⟩
            simp [hrp, hr]
          · refine ⟨_, _, .unmatched h ?_, ?_⟩
            · intro i
              fin_cases i
              · exact hqp
              · exact hrp
            · simp [hrp, hqp]

end AudioManager

end Audio
