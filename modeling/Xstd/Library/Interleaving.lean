import Xstd.Library.Machine

/-
This file relates a machine whose inputs belong to several components to one machine for each component.
-/

namespace Xstd.Library

variable {Φ W I O ι A : Type} {S : ι → Type} [DecidableEq ι]

/-- The items of one component, in order. -/
def share (i : ι) (items : List (ι × A)) : List A :=
  (items.filter fun item => item.1 = i).map Prod.snd

@[simp] theorem share_nil (i : ι) : share i ([] : List (ι × A)) = [] := rfl

theorem share_cons_self (i : ι) (item : A) (items : List (ι × A)) :
    share i ((i, item) :: items) = item :: share i items := by
  simp [share]

theorem share_cons_of_ne {i j : ι} (different : j ≠ i) (item : A) (items : List (ι × A)) :
    share i ((j, item) :: items) = share i items := by
  simp [share, different]

/-- The whole machine answers an input of a component as this component does, and the view of all of them
moves along. Then each component ran on its own share of the inputs and gave its own share of the
answers. -/
theorem run_shares {whole : Machine Φ W (ι × I) (ι × O)} {part : ∀ i, Machine Φ (S i) I O}
    (view : W → (∀ i, S i) → Prop) (allowed : ι × I → Prop)
    (steps : ∀ world states i input, view world states → allowed (i, input) →
      ∃ answer next state, whole world (i, input) = .ok ((i, answer), next) ∧
        part i (states i) input = .ok (answer, state) ∧ view next (Function.update states i state))
    {world : W} {states : ∀ i, S i} (start : view world states) {inputs : List (ι × I)}
    (each : ∀ input ∈ inputs, allowed input) :
    ∃ answers final finals, whole.run world inputs = .ok (answers, final) ∧ view final finals ∧
      ∀ i, (part i).run (states i) (share i inputs) = .ok (share i answers, finals i) := by
  induction inputs generalizing world states with
  | nil => exact ⟨[], world, states, rfl, start, fun _ => rfl⟩
  | cons input rest ih =>
      obtain ⟨i, input⟩ := input
      obtain ⟨first, others⟩ := List.forall_mem_cons.mp each
      obtain ⟨answer, next, state, stepped, answered, moved⟩ := steps world states i input start first
      obtain ⟨answers, final, finals, ran, reached, shares⟩ := ih moved others
      refine ⟨(i, answer) :: answers, final, finals, ?_, reached, ?_⟩
      · rw [Machine.run_cons_of_ok rest stepped, ran]
        rfl
      · intro j
        have tail := shares j
        rcases eq_or_ne i j with rfl | different
        · rw [Function.update_self] at tail
          rw [share_cons_self, share_cons_self, Machine.run_cons_of_ok _ answered, tail]
          rfl
        · rw [Function.update_of_ne different.symm] at tail
          rw [share_cons_of_ne different, share_cons_of_ne different]
          exact tail

end Xstd.Library
