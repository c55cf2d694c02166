import BtPlatform.Opp.Called
import BtPlatform.Opp.Served

/-!
# No path reaches the object store

The headers of one object, a connection of the server and a connection of the client: as
long as no name belongs to `telecom/` as a whole, the check reads nothing behind a name,
and no path is kept or handed out.
-/

namespace Opp

open Obex Support

/-- An object, after careful passes through lists of headers. -/
inductive Collected : GenericObject → Prop
  | zero : Collected .zero
  | pass {p : Parsing} {headers : List Header} {r : Status × Parsing} (before : Collected p.obj)
      (careful : p.Careful headers) (next : p.parseHeaders headers = .ok r) :
      Collected r.2.obj

theorem Collected.nameBase {obj : GenericObject} (h : Collected obj) : obj.NameBase := by
  induction h with
  | zero => exact GenericObject.nameBase_zero
  | pass before careful next ih =>
      obtain ⟨r, hr, hbase⟩ := Parsing.parseHeaders_careful careful ih
      cases hr.symm.trans next
      exact hbase

/-- A pass that reads nothing behind a name and keeps no path. -/
def Parsing.SafePass (p : Parsing) (headers : List Header) : Prop :=
  ∃ r, p.parseHeaders headers = .ok r ∧ r.2.obj.NameBase

theorem Collected.safePass_iff {p : Parsing} (h : Collected p.obj) (headers : List Header) :
    p.SafePass headers ↔ p.Careful headers := by
  constructor
  · rintro ⟨r, hr, -⟩
    by_contra hcareless
    rw [Parsing.parseHeaders_careless hcareless] at hr
    cases hr
  · intro hcareful
    exact Parsing.parseHeaders_careful hcareful h.nameBase

/-- For an object, a server and a client that have been dealt with carefully so far, the
next pass or step is safe if it is careful too; of an object and of a server only then. -/
theorem noPath_of_careful {p : Parsing} {reg : Registration} {served : Serving}
    {called : Calling} (hobj : Collected p.obj) (hserved : Serving.Reaches reg served)
    (hcalled : Calling.Reaches called) :
    (∀ headers, p.SafePass headers ↔ p.Careful headers) ∧
      (served.Safe ∧ ∀ env event,
        Serving.SafeStep reg served env event ↔ served.Careful reg env event) ∧
      called.Safe ∧ ∀ env event,
        called.Careful env event → Calling.SafeStep called env event := by
  refine ⟨hobj.safePass_iff, ⟨hserved.safe, ?_⟩, hcalled.safe, ?_⟩
  · intro env event
    exact Serving.safeStep_iff_careful hserved.safe event
  · intro env event hcareful
    exact Calling.safeStep_of_careful hcalled.safe hcareful

/-- A push of `telecom/pb`, and the connection of a client. -/
theorem noPath_of_careful_push :
    ∃ served called, Serving.Reaches (plainServer formatAny) served ∧ Calling.Reaches called ∧
      .openWrite (some (telecom ++ [0x70, 0x62])) (some []) 0 ∈ served.acts ∧ served.Safe ∧
      called.Safe := by
  have hconnected := Serving.Reaches.step (@Serving.Reaches.start (plainServer formatAny)) .friendly
    (.serverConnectInd false) trivial rfl
  have hpushed := Serving.Reaches.step hconnected .friendly
    (.objPushInd (some [.unicode 1 (telecom ++ [0x70, 0x62])]) .ok)
    (by
      intro c hc c' hc' hreads hnone name hname
      cases hname
      decide) rfl
  have hcalled := Calling.Reaches.step .start .friendly .connect trivial rfl
  have hzero : Collected (Parsing.obj ⟨.zero, .plenty⟩) := .zero
  obtain ⟨-, ⟨hserved, -⟩, hcalledSafe, -⟩ := noPath_of_careful hzero hpushed hcalled
  exact ⟨_, _, hpushed, hcalled, by decide, hserved, hcalledSafe⟩

/-- The runs of a connection, careful or not. -/
inductive Serving.Runs (reg : Registration) : Serving → Prop
  | start : Runs reg start
  | step {s s' : Serving} (run : Runs reg s) (env : Surroundings) (event : ServerEvent)
      (next : s.step reg env event = .ok s') : Runs reg s'

/-- The name `t`, without a terminator, makes the check read the next character. -/
theorem not_noPath_short :
    ¬ ∀ reg s, Serving.Runs reg s → ∀ env event, Serving.SafeStep reg s env event := by
  intro h
  have hconnected := Serving.Runs.step (@Serving.Runs.start (plainServer formatAny)) .friendly
    (.serverConnectInd false) rfl
  obtain ⟨s', hs'⟩ := (h _ _ hconnected .friendly
    (.objPushInd (some [.unicode 1 [0x74]]) .ok)).inside _ _ rfl
  cases hs'

end Opp
