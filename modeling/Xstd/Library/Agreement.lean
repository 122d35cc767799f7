import Xstd.Library.Machine

/-
This file relates two computations and the runs of two machines.
-/

namespace Xstd.Library

universe u v w x y z

/-- Both computations stop with the same fault, or they return related values. -/
def Matches {Φ : Type u} {A : Type v} {B : Type w} (related : A → B → Prop) :
    Except Φ A → Except Φ B → Prop
  | .error fault, .error fault' => fault = fault'
  | .ok value, .ok value' => related value value'
  | _, _ => False

namespace Matches

variable {Φ : Type u} {A : Type v} {B : Type w} {A' : Type x} {B' : Type y}
  {related : A → B → Prop} {related' : A' → B' → Prop}

theorem refl {related : A → A → Prop} (reflexive : ∀ value, related value value)
    (computation : Except Φ A) : Matches related computation computation := by
  cases computation with
  | error fault => rfl
  | ok value => exact reflexive value

/-- Values that stay related under a weaker relation still agree. -/
theorem imp {first : Except Φ A} {second : Except Φ B} (agree : Matches related first second)
    {weaker : A → B → Prop} (implied : ∀ value value', related value value' → weaker value value') :
    Matches weaker first second := by
  cases first <;> cases second
  · exact agree
  · exact agree.elim
  · exact agree.elim
  · exact implied _ _ agree

theorem map {first : Except Φ A} {second : Except Φ B} (agree : Matches related first second)
    {function : A → A'} {function' : B → B'}
    (preserved : ∀ value value', related value value' → related' (function value) (function' value')) :
    Matches related' (first.map function) (second.map function') := by
  cases first <;> cases second
  · exact agree
  · exact agree.elim
  · exact agree.elim
  · exact preserved _ _ agree

/-- Related values go on with computations that agree. -/
theorem bind {first : Except Φ A} {second : Except Φ B} (agree : Matches related first second)
    {next : A → Except Φ A'} {next' : B → Except Φ B'}
    (continued : ∀ value value', related value value' → Matches related' (next value) (next' value')) :
    Matches related' (first.bind next) (second.bind next') := by
  cases first <;> cases second
  · exact agree
  · exact agree.elim
  · exact agree.elim
  · exact continued _ _ agree

/-- Computations that agree both fault or both return. -/
theorem inv {first : Except Φ A} {second : Except Φ B} (agree : Matches related first second) :
    (∃ fault, first = .error fault ∧ second = .error fault) ∨
      ∃ value value', first = .ok value ∧ second = .ok value' ∧ related value value' := by
  cases first <;> cases second
  · exact Or.inl ⟨_, congrArg _ agree, rfl⟩
  · exact agree.elim
  · exact agree.elim
  · exact Or.inr ⟨_, _, rfl, rfl, agree⟩

end Matches

namespace Machine

variable {Φ : Type u} {S : Type v} {T : Type w} {I : Type x} {O : Type y}

/-- Both steps or runs give the same answer, and they leave related states behind. -/
def Agree (related : S → T → Prop) : Except Φ (O × S) → Except Φ (O × T) → Prop :=
  Matches fun first second => first.1 = second.1 ∧ related first.2 second.2

/-- Machines whose steps agree from related states have runs that agree. -/
theorem run_agrees {machine : Machine Φ S I O} {machine' : Machine Φ T I O} {related : S → T → Prop}
    (steps : ∀ state state' input, related state state' →
      Agree related (machine state input) (machine' state' input))
    {state : S} {state' : T} (start : related state state') (inputs : List I) :
    Agree related (machine.run state inputs) (machine'.run state' inputs) := by
  induction inputs generalizing state state' with
  | nil => exact ⟨rfl, start⟩
  | cons input rest ih =>
      rcases (steps state state' input start).inv with
        ⟨fault, stopped, stopped'⟩ | ⟨moved, moved', stepped, stepped', same, next⟩
      · simp only [run, stopped, stopped']
        rfl
      · rw [run_cons_of_ok rest stepped, run_cons_of_ok rest stepped']
        apply (ih next).map
        rintro result result' ⟨answers, final⟩
        exact ⟨by rw [same, answers], final⟩

/-- Machines whose permitted steps answer alike from related states have runs that answer alike. -/
theorem run_same {machine : Machine Φ S I O} {machine' : Machine Φ T I O} {related : S → T → Prop}
    {permitted : T → I → Prop}
    (steps : ∀ state state' input, related state state' → permitted state' input →
      ∃ answer next next', machine state input = .ok (answer, next) ∧
        machine' state' input = .ok (answer, next') ∧ related next next')
    {state : S} {state' : T} (start : related state state') {inputs : List I}
    (guarded : machine'.Guarded permitted state' inputs) :
    ∃ answers final final', machine.run state inputs = .ok (answers, final) ∧
      machine'.run state' inputs = .ok (answers, final') ∧ related final final' := by
  induction inputs generalizing state state' with
  | nil => exact ⟨[], state, state', rfl, rfl, start⟩
  | cons input rest ih =>
      obtain ⟨answer, next, next', stepped, stepped', kept⟩ := steps state state' input start guarded.1
      obtain ⟨answers, final, final', ran, ran', reached⟩ := ih kept (guarded.2 answer next' stepped')
      refine ⟨answer :: answers, final, final', ?_, ?_, reached⟩
      · rw [run_cons_of_ok rest stepped, ran]
        rfl
      · rw [run_cons_of_ok rest stepped', ran']
        rfl

end Machine

end Xstd.Library
