import BtPlatform.Pbap.Agree

/-!
# The life of a request in the history

`Audit` is the account that a history gives of the request outstanding: its file, and
the bodies received for it on their way to the application. An act that completes a
request twice, too early or for another one, or that closes what is not open, has no
next account. `Orderly` is what the application owes the client: one request at a
time, and a confirmation for each open and write only. `Act.smooth` says of an act
that it does not lead to a second deferred close.
-/

namespace Pbap

open Support Program Prog Repository Phonebook List

/-! ## Bodies -/

/-- The bodies in the headers of a response, apart from empty ones. -/
def bodies (headers : List RspHeader) : List (List UInt8) :=
  headers.filterMap fun
    | .body [] => none
    | .body data => some data
    | _ => none

/-- The body that `PbapDataCB` finds: the last one. -/
def lastBody : List RspHeader → Option (List UInt8) → Option (List UInt8)
  | [], body => body
  | .body data :: rest, _ => lastBody rest (some data)
  | _ :: rest, body => lastBody rest body

/-- The body that `PbapDataCB` writes. -/
def writtenBodies (headers : List RspHeader) : List (List UInt8) :=
  match lastBody headers none with
  | none | some [] => []
  | some data => [data]

/-! ## The account -/

/-- The request outstanding, with the state of its file and its bodies. -/
structure Audit where
  outstanding : Option Ticket
  opening : Bool
  file : Option Nat
  unwritten : List (List UInt8)
  unconfirmed : Option (List UInt8)
  deriving DecidableEq, Repr

namespace Audit

/-- Nothing is outstanding. -/
def clear : Audit := ⟨none, false, none, [], none⟩

/-- The account after an act. -/
def step (a : Audit) : Act → Option Audit
  | .answered ticket status =>
      if status.success = false then some a
      else if a.outstanding = none then some { a with outstanding := some ticket } else none
  | .opening .. => some { a with opening := true }
  | .openConfirmed .. => some { a with opening := false }
  | .opened _ handle => if a.file = none then some { a with file := some handle } else none
  | .received _ headers status =>
      if status = .ok ∨ status = .obexContinue then
        some { a with unwritten := a.unwritten ++ bodies headers }
      else some a
  | .writing _ handle data =>
      if a.file = some handle ∧ a.unwritten.head? = some data ∧ a.unconfirmed = none then
        some { a with unwritten := a.unwritten.tail, unconfirmed := some data }
      else none
  | .written _ status => if status.success then some { a with unconfirmed := none } else some a
  | .closed _ handle _ => if a.file = some handle then some { a with file := none } else none
  | .cleanup info ticket => if info.owner = ticket then some a else none
  | .completed ticket status =>
      if a.outstanding = some ticket ∧ a.file = none ∧
          (status.success = true → a.unwritten = [] ∧ a.unconfirmed = none) then some clear
      else none
  | _ => some a

theorem step_received (a : Audit) (size : Bool) (headers : List RspHeader) {status : Status}
    (h : status = .ok ∨ status = .obexContinue) :
    a.step (.received size headers status) =
      some { a with unwritten := a.unwritten ++ bodies headers } := if_pos h

theorem step_received_error (a : Audit) (size : Bool) (headers : List RspHeader) {status : Status}
    (h : ¬ (status = .ok ∨ status = .obexContinue)) :
    a.step (.received size headers status) = some a := if_neg h

end Audit

/-- The account of a history from an earlier one on. -/
def auditFrom (a : Audit) (history : List Act) : Option Audit := history.foldlM Audit.step a

/-- The account of a history. -/
def audit (history : List Act) : Option Audit := auditFrom .clear history

theorem audit_append (history : List Act) (act : Act) :
    audit (history ++ [act]) = (audit history).bind fun a => a.step act := by
  unfold audit auditFrom
  rw [foldlM_append]
  cases history.foldlM Audit.step .clear with
  | none => rfl
  | some a => simp

variable {history : List Act}

theorem audit_extend {act : Act} {a a' : Audit} (h : audit history = some a)
    (hstep : a.step act = some a') : audit (history ++ [act]) = some a' := by
  rw [audit_append, h]
  exact hstep

/-- The requests accepted, in order. -/
def accepted (history : List Act) : List Ticket :=
  history.filterMap fun
    | .answered ticket status => if status.success then some ticket else none
    | _ => none

/-- The requests completed, in order. -/
def completions (history : List Act) : List Ticket :=
  history.filterMap fun
    | .completed ticket _ => some ticket
    | _ => none

/-- In a history with an account every request accepted is completed once, in order, but for
the one outstanding. -/
theorem accepted_of_audit {a : Audit} (h : audit history = some a) :
    accepted history = completions history ++ a.outstanding.toList := by
  induction history using reverseRecOn generalizing a with
  | nil =>
      cases h
      rfl
  | append_singleton history act ih =>
      rw [audit_append] at h
      obtain ⟨before, hbefore, hstep⟩ := Option.bind_eq_some_iff.1 h
      have hold := ih hbefore
      unfold accepted completions at hold ⊢
      rw [filterMap_append, filterMap_append, hold]
      cases act with
      | answered ticket status =>
          simp only [Audit.step] at hstep
          split at hstep
          · next hfail =>
              cases hstep
              have hstatus : status ≠ .ok := by simpa using hfail
              simp [hstatus]
          · next hsuccess =>
              have hstatus : status = .ok := by simpa using hsuccess
              subst hstatus
              split at hstep
              · next hnone =>
                  cases hstep
                  simp [hnone]
              · cases hstep
      | completed ticket status =>
          simp only [Audit.step] at hstep
          split at hstep
          · next hdone =>
              cases hstep
              simp [hdone.1, Audit.clear]
          · cases hstep
      | _ =>
          simp only [Audit.step] at hstep
          (try split at hstep) <;> cases hstep <;> simp

/-! ## What is expected of the application -/

/-- The requests that are completed: the four pulls. -/
def Call.isPull : Call → Bool
  | .setPath .. | .abort _ => false
  | _ => true

/-- A request is made when none is outstanding, and what is confirmed has been asked. -/
def Act.orderly (a : Audit) : Act → Bool
  | .called _ call _ => call.isPull && a.outstanding.isNone
  | .openConfirmed .. => a.opening
  | .written .. => a.unconfirmed.isSome
  | _ => true

/-- The application behaves as expected, from an account on. -/
def orderlyFrom (a : Audit) : List Act → Bool
  | [] => true
  | act :: rest =>
      act.orderly a &&
        match a.step act with
        | some a' => orderlyFrom a' rest
        | none => true

/-- The application behaves as expected. -/
def Orderly (history : List Act) : Prop := orderlyFrom .clear history = true

theorem orderlyFrom_append {a : Audit} {act : Act} (h : orderlyFrom a (history ++ [act]) = true) :
    orderlyFrom a history = true ∧ ∀ a', auditFrom a history = some a' → act.orderly a' = true := by
  induction history generalizing a with
  | nil =>
      rw [nil_append, orderlyFrom, Bool.and_eq_true] at h
      refine ⟨rfl, ?_⟩
      intro a' ha'
      cases ha'
      exact h.1
  | cons first rest ih =>
      rw [cons_append, orderlyFrom, Bool.and_eq_true] at h
      obtain ⟨hfirst, hrest⟩ := h
      unfold auditFrom
      rw [orderlyFrom, hfirst, Bool.true_and, foldlM_cons]
      cases hstep : a.step first with
      | none => exact ⟨rfl, nofun⟩
      | some a' =>
          rw [hstep] at hrest
          exact ih hrest

/-- A response that ends a GET with success has no body to write; one that does not is
for a file, and none of its bodies is overlooked. A write is confirmed with success. -/
def Act.smooth : Act → Bool
  | .received size headers status =>
      if status = .ok then bodies headers = []
      else if status = .obexContinue then !size && writtenBodies headers = bodies headers
      else true
  | .written _ status => status.success
  | _ => true

/-- The application behaves as expected, and everything goes smoothly. -/
structure Good (history : List Act) : Prop where
  orderly : Orderly history
  smooth : ∀ act ∈ history, act.smooth = true

theorem Good.append {act : Act} (h : Good (history ++ [act])) :
    Good history ∧ act.smooth = true ∧ ∀ a, audit history = some a → act.orderly a = true := by
  obtain ⟨hold, hnew⟩ := orderlyFrom_append h.orderly
  exact ⟨⟨hold, fun a ha => h.smooth a (mem_append_left _ ha)⟩,
    h.smooth act (mem_append_right _ (mem_singleton.2 rfl)), hnew⟩

theorem Good.earlier {later : List Act} (h : Good later) (hpre : history <+: later) :
    Good history := by
  obtain ⟨acts, rfl⟩ := hpre
  induction acts using reverseRecOn with
  | nil => simpa using h
  | append_singleton acts act ih =>
      rw [← append_assoc] at h
      exact ih h.append.1

end Pbap
