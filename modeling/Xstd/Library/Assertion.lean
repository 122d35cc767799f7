import Xstd.Library.Machine

/-
This file compares computations that check assertions with the same ones that check none.
-/

namespace Xstd.Library

universe u v w x y

/-- A clean value of the unchecked computation had a clean start. From a clean start either both are the
same and their value is clean, or the assertion stops the checked one and no value of the other is clean. -/
structure Checks {Φ : Type u} {A : Type v} (stop : Φ) (start : Prop) (clean : A → Prop)
    (checked unchecked : Except Φ A) : Prop where
  lasting : ∀ value, unchecked = .ok value → clean value → start
  alike : start →
    (checked = unchecked ∧ ∀ value, unchecked = .ok value → clean value) ∨
      (checked = .error stop ∧ ∀ value, unchecked = .ok value → ¬clean value)

namespace Checks

variable {Φ : Type u} {A : Type v} {B : Type w} {stop : Φ} {start : Prop} {clean : A → Prop}
  {clean' : B → Prop} {checked unchecked : Except Φ A}

/-- A computation without an assertion whose values are as clean as its start. -/
theorem same {computation : Except Φ A} (kept : ∀ value, computation = .ok value → (clean value ↔ start)) :
    Checks stop start clean computation computation where
  lasting value returned := (kept value returned).mp
  alike started := Or.inl ⟨rfl, fun value returned => (kept value returned).mpr started⟩

theorem ok {value : A} (kept : clean value ↔ start) :
    Checks stop start clean (.ok value) (.ok value) := by
  apply same
  intro _ returned
  cases returned
  exact kept

theorem error (fault : Φ) : Checks stop start clean (.error fault) (.error fault) := by
  apply same
  intro value returned
  cases returned

/-- A clean value of the first computation is the start of the second one. -/
theorem bind {next next' : A → Except Φ B} (first : Checks stop start clean checked unchecked)
    (later : ∀ value, unchecked = .ok value →
      Checks stop (clean value) clean' (next value) (next' value)) :
    Checks stop start clean' (checked.bind next) (unchecked.bind next') := by
  cases returned : unchecked with
  | error fault =>
      constructor
      · intro value failed
        cases failed
      · intro started
        rcases first.alike started with ⟨rfl, _⟩ | ⟨rfl, _⟩
        · rw [returned]
          exact Or.inl ⟨rfl, fun value failed => by cases failed⟩
        · exact Or.inr ⟨rfl, fun value failed => by cases failed⟩
  | ok middle =>
      have rest := later middle returned
      constructor
      · intro value reached cleaned
        exact first.lasting middle returned (rest.lasting value reached cleaned)
      · intro started
        rcases first.alike started with ⟨rfl, kept⟩ | ⟨rfl, spoiled⟩
        · rw [returned]
          exact rest.alike (kept middle returned)
        · refine Or.inr ⟨rfl, fun value reached cleaned => ?_⟩
          exact spoiled middle returned (rest.lasting value reached cleaned)

/-- What both computations do before the assertions keeps the start. -/
theorem after {computation : Except Φ B} {next next' : B → Except Φ A}
    (later : ∀ value, computation = .ok value → Checks stop start clean (next value) (next' value)) :
    Checks stop start clean (computation.bind next) (computation.bind next') :=
  bind (same fun _ _ => Iff.rfl) later

theorem map {function : A → B} (first : Checks stop start clean checked unchecked)
    (kept : ∀ value, clean' (function value) ↔ clean value) :
    Checks stop start clean' (checked.map function) (unchecked.map function) := by
  have bound : Checks stop start clean' (checked.bind fun value => .ok (function value))
      (unchecked.bind fun value => .ok (function value)) := first.bind fun value _ => ok (kept value)
  cases checked <;> cases unchecked <;> exact bound

end Checks

namespace Machine

variable {Φ : Type u} {S : Type v} {I : Type x} {O : Type y} {stop : Φ} {clean : S → Prop}

/-- Machines that differ in their assertions alone have runs that differ in them alone. -/
theorem run_checks {checked unchecked : Machine Φ S I O}
    (steps : ∀ state input, Checks stop (clean state) (fun result => clean result.2) (checked state input)
      (unchecked state input)) (state : S) (inputs : List I) :
    Checks stop (clean state) (fun result => clean result.2) (checked.run state inputs)
      (unchecked.run state inputs) := by
  induction inputs generalizing state with
  | nil => exact Checks.ok Iff.rfl
  | cons input rest ih =>
      have split (machine : Machine Φ S I O) : machine.run state (input :: rest) =
          (machine state input).bind fun result =>
            (machine.run result.2 rest).map fun later => (result.1 :: later.1, later.2) := by
        cases stepped : machine state input with
        | error fault => simp only [run, stepped, Except.bind]
        | ok result => exact run_cons_of_ok rest stepped
      rw [split, split]
      exact (steps state input).bind fun result _ => (ih result.2).map fun _ => Iff.rfl

end Machine

end Xstd.Library
