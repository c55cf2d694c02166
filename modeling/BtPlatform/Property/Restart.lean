import BtPlatform.Property.Map
import BtPlatform.Property.Reload

/-!
# Restarts

In the middle of a run the list may be saved, and the next process reads the file. What the
operations have set is still in it.
-/

namespace Property

open List Function

/-- A node with a name, without a comma or a newline, whose line fits. -/
structure Writable (u : PropertyUnit) : Prop where
  named : u.propertyName.chars ≠ []
  name : comma ∉ u.propertyName.chars ∧ newline ∉ u.propertyName.chars
  value : comma ∉ u.propertyValue.chars ∧ newline ∉ u.propertyValue.chars
  fits : FitsLine u

/-- Runs of careful operations and restarts. -/
inductive Restarts : Head → Store → Prop
  | start : Restarts (.nodes []) fun _ => none
  | step {head head' : Head} {m : Store} {answer : Answer} (env : Env) (op : Op) :
      Restarts head m → Careful env head op → head.step env op = some (head', answer) →
      Restarts head' (m.after op answer)
  | restart {list loaded : List PropertyUnit} {m : Store} {file : List UInt8}
      {saved added : Bool} : Restarts (.nodes list) m → (∀ u ∈ list, Writable u) →
      NoLaterPrefix list → saveDsToPersist true (fun _ => true) list = (some file, saved) →
      createNodeFromPersist (fun _ => true) file [] = some (loaded, added) →
      Restarts (.nodes loaded) m

theorem restarts_agree {head : Head} {m : Store} (h : Restarts head m) :
    head.Agrees m ∧ ∀ env op, Meets env head m op ↔ Careful env head op := by
  have hagrees : head.Agrees m := by
    induction h with
    | start => exact ⟨nodup_nil, fun _ => rfl⟩
    | step env op _ hcareful hstep ih => exact ((meets_iff ih op).2 hcareful).agrees hstep
    | restart _ hwritable hprefix hsaved hloaded ih =>
        have hback := (load_saved_iff ⟨ih.distinct, fun u hu => (hwritable u hu).named,
          fun u hu => (hwritable u hu).name, fun u hu => (hwritable u hu).value⟩).2
            ⟨fun u hu => (hwritable u hu).fits, hprefix⟩
        rw [content_of_saved hsaved, hloaded] at hback
        cases hback
        exact ih
  exact ⟨hagrees, fun _ op => meets_iff hagrees op⟩

/-- The property `bt` is set, and the process restarted. -/
theorem restarts_agree_set :
    let bt : Name := ⟨[98, 116], by decide, by decide⟩
    let one : Value := ⟨[49], by decide, by decide⟩
    Head.Agrees (.nodes [⟨bt, one⟩]) (update (fun _ => none) bt (some one)) ∧
      ∀ env op, Meets env (.nodes [⟨bt, one⟩]) (update (fun _ => none) bt (some one)) op ↔
        Careful env (.nodes [⟨bt, one⟩]) op := by
  intro bt one
  have hwritable : ∀ u ∈ [PropertyUnit.mk bt one], Writable u :=
    forall_mem_singleton.2 ⟨by decide, by decide, by decide, by decide, by decide⟩
  have hprefix : NoLaterPrefix [⟨bt, one⟩] := pairwise_singleton ..
  exact restarts_agree (.restart (.step ⟨true, false⟩ (.set bt one) .start rfl rfl) hwritable
    hprefix rfl ((load_saved_iff ⟨by decide, by decide, by decide, by decide⟩).2
      ⟨fun u hu => (hwritable u hu).fits, hprefix⟩))

end Property
