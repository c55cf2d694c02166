import Mathlib.Tactic.Common

/-!
# Tests that may fail

A list of tests is run from the front: the first one that says no ends the run with a no, and
one that has no answer ends it without an answer. The answer of a run is right for a statement
if every test without an answer comes behind one that says no, and what the tests say agrees
with the statement.
-/

namespace Support.Tests

open List

variable {α ε : Type} {test : α → Except ε Bool} {a : α} {as : List α}

/-- The run has an answer, and it is the right one. -/
def Right (result : Except ε Bool) (S : Prop) : Prop := ∃ b, result = .ok b ∧ (b = true ↔ S)

theorem right_ok (b : Bool) (S : Prop) : Right (.ok b : Except ε Bool) S ↔ (b = true ↔ S) := by
  constructor
  · rintro ⟨b', heq, hS⟩
    cases heq
    exact hS
  · exact fun h => ⟨b, rfl, h⟩

theorem not_right_error (e : ε) (S : Prop) : ¬Right (.error e) S := by
  rintro ⟨b, h, -⟩
  cases h

theorem allM_of_true (h : test a = .ok true) : (a :: as).allM test = as.allM test := by
  rw [allM, h]
  rfl

theorem allM_of_false (h : test a = .ok false) : (a :: as).allM test = .ok false := by
  rw [allM, h]
  rfl

theorem allM_of_error {e : ε} (h : test a = .error e) : (a :: as).allM test = .error e := by
  rw [allM, h]
  rfl

/-- When the answer of a run is right. -/
theorem allM_right_iff (S : Prop) :
    Right (as.allM test) S ↔
      (∀ pre a post, as = pre ++ a :: post → (∃ e, test a = .error e) →
        ∃ b ∈ pre, test b = .ok false) ∧
      ((∃ a ∈ as, test a = .ok false) → ¬S) ∧
      ((∀ a ∈ as, test a ≠ .ok false) → S) := by
  induction as with
  | nil =>
      rw [allM]
      change Right (.ok true) S ↔ _
      rw [right_ok]
      simp
  | cons a as ih =>
      cases htest : test a with
      | error e =>
          rw [allM_of_error htest]
          refine ⟨fun h => absurd h (not_right_error e S), fun h => ?_⟩
          obtain ⟨b, hb, -⟩ := h.1 [] a as rfl ⟨e, htest⟩
          cases hb
      | ok b =>
          cases b with
          | false =>
              rw [allM_of_false htest, right_ok]
              constructor
              · intro h
                refine ⟨?_, fun _ hS => Bool.false_ne_true (h.2 hS), fun hnone => ?_⟩
                · rintro (_ | ⟨b, pre⟩) a' post heq ⟨e, he⟩
                  · cases heq
                    rw [htest] at he
                    cases he
                  · cases heq
                    exact ⟨a, mem_cons_self, htest⟩
                · exact absurd htest (hnone a mem_cons_self)
              · rintro ⟨-, hno, -⟩
                have := hno ⟨a, mem_cons_self, htest⟩
                simp [this]
          | true =>
              rw [allM_of_true htest, ih]
              constructor
              · rintro ⟨hanswer, hno, hyes⟩
                refine ⟨?_, ?_, fun hnone => hyes fun a' ha' => hnone a'
                  (mem_cons_of_mem a ha')⟩
                · rintro (_ | ⟨b, pre⟩) a' post heq ⟨e, he⟩
                  · cases heq
                    rw [htest] at he
                    cases he
                  · cases heq
                    obtain ⟨b', hb', hfalse⟩ := hanswer pre a' post rfl ⟨e, he⟩
                    exact ⟨b', mem_cons_of_mem a hb', hfalse⟩
                · rintro ⟨a', ha', hfalse⟩
                  rcases mem_cons.1 ha' with rfl | ha'
                  · rw [htest] at hfalse
                    cases hfalse
                  · exact hno ⟨a', ha', hfalse⟩
              · rintro ⟨hanswer, hno, hyes⟩
                refine ⟨?_, ?_, fun hnone => hyes ?_⟩
                · rintro pre a' post heq he
                  obtain ⟨b, hb, hfalse⟩ := hanswer (a :: pre) a' post (by rw [heq]; rfl) he
                  rcases mem_cons.1 hb with rfl | hb
                  · rw [htest] at hfalse
                    cases hfalse
                  · exact ⟨b, hb, hfalse⟩
                · rintro ⟨a', ha', hfalse⟩
                  exact hno ⟨a', mem_cons_of_mem a ha', hfalse⟩
                · intro a' ha'
                  rcases mem_cons.1 ha' with rfl | ha'
                  · rw [htest]
                    nofun
                  · exact hnone a' ha'

end Support.Tests
