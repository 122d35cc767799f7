import Mathlib.Tactic

/-
This file defines deterministic machines that may fault and the rules for their runs.
-/

namespace Xstd.Library

universe u v w x

/-- A machine answers an input and moves to a new state, or it faults. -/
abbrev Machine (Φ : Type u) (S : Type v) (I : Type w) (O : Type x) := S → I → Except Φ (O × S)

namespace Machine

variable {Φ : Type u} {S : Type v} {I : Type w} {O : Type x}

/-- A run feeds a finite list of inputs and collects the answers. -/
def run (machine : Machine Φ S I O) : S → List I → Except Φ (List O × S)
  | state, [] => .ok ([], state)
  | state, input :: rest =>
      match machine state input with
      | .error fault => .error fault
      | .ok (answer, next) =>
          match run machine next rest with
          | .error fault => .error fault
          | .ok (answers, final) => .ok (answer :: answers, final)

/-- A run completes when no step of it faults. -/
def Completes (machine : Machine Φ S I O) (state : S) (inputs : List I) : Prop :=
  ∃ result, machine.run state inputs = .ok result

/-- Every step of the run succeeds and has the property. -/
def Always (machine : Machine Φ S I O) (property : S → I → O → S → Prop) : S → List I → Prop
  | _, [] => True
  | state, input :: rest =>
      ∃ answer next, machine state input = .ok (answer, next) ∧
        property state input answer next ∧ Always machine property next rest

/-- Every step has the property, unless the run stops with an excused fault. -/
def AlwaysUnless (machine : Machine Φ S I O) (excused : Φ → Prop)
    (property : S → I → O → S → Prop) : S → List I → Prop
  | _, [] => True
  | state, input :: rest =>
      (∃ fault, machine state input = .error fault ∧ excused fault) ∨
        ∃ answer next, machine state input = .ok (answer, next) ∧
          property state input answer next ∧ AlwaysUnless machine excused property next rest

/-- Every input is permitted in the state that receives it. -/
def Guarded (machine : Machine Φ S I O) (permitted : S → I → Prop) : S → List I → Prop
  | _, [] => True
  | state, input :: rest =>
      permitted state input ∧
        ∀ answer next, machine state input = .ok (answer, next) → Guarded machine permitted next rest

instance (machine : Machine Φ S I O) (state : S) (inputs : List I) :
    Decidable (machine.Completes state inputs) :=
  match ran : machine.run state inputs with
  | .error _ => isFalse fun completes => by rw [Completes, ran] at completes; nomatch completes
  | .ok result => isTrue ⟨result, ran⟩

/-- The permissions of a run are decided by running it. -/
def decideGuarded (machine : Machine Φ S I O) (permitted : S → I → Prop)
    [decides : ∀ state input, Decidable (permitted state input)] :
    ∀ state inputs, Decidable (machine.Guarded permitted state inputs)
  | _, [] => isTrue trivial
  | state, input :: rest =>
      match decides state input with
      | isFalse refused => isFalse fun guarded => refused guarded.1
      | isTrue allowed =>
          match stepped : machine state input with
          | .error fault => isTrue ⟨allowed, fun _ _ same => by rw [stepped] at same; cases same⟩
          | .ok (answer, next) =>
              match decideGuarded machine permitted next rest with
              | isTrue tail =>
                  isTrue ⟨allowed, fun _ _ same => by rw [stepped] at same; cases same; exact tail⟩
              | isFalse refused => isFalse fun guarded => refused (guarded.2 answer next stepped)

instance (machine : Machine Φ S I O) (permitted : S → I → Prop)
    [∀ state input, Decidable (permitted state input)] (state : S) (inputs : List I) :
    Decidable (machine.Guarded permitted state inputs) :=
  decideGuarded machine permitted state inputs

@[simp] theorem run_nil (machine : Machine Φ S I O) (state : S) :
    machine.run state [] = .ok ([], state) := rfl

theorem run_cons_of_ok {machine : Machine Φ S I O} {state next : S} {input : I} {answer : O}
    (rest : List I) (stepped : machine state input = .ok (answer, next)) :
    machine.run state (input :: rest) =
      (machine.run next rest).map fun result => (answer :: result.1, result.2) := by
  simp only [run, stepped]
  cases machine.run next rest <;> rfl

/-- A completed run splits into its first step and a completed rest. -/
theorem run_cons_inv {machine : Machine Φ S I O} {state final : S} {input : I} {rest : List I}
    {answers : List O} (ran : machine.run state (input :: rest) = .ok (answers, final)) :
    ∃ answer next later, machine state input = .ok (answer, next) ∧
      machine.run next rest = .ok (later, final) ∧ answers = answer :: later := by
  simp only [run] at ran
  split at ran
  · cases ran
  · rename_i answer next stepped
    split at ran
    · cases ran
    · rename_i later last tail
      cases ran
      exact ⟨answer, next, later, stepped, tail, rfl⟩

/-- The answers of a run split where its inputs do. -/
theorem run_append_inv {machine : Machine Φ S I O} {state final : S} {inputs : List I}
    (first : List O) {second : List O} (ran : machine.run state inputs = .ok (first ++ second, final)) :
    ∃ front back middle, inputs = front ++ back ∧ machine.run state front = .ok (first, middle) ∧
      machine.run middle back = .ok (second, final) := by
  induction first generalizing state inputs with
  | nil => exact ⟨[], inputs, state, rfl, rfl, ran⟩
  | cons answer first ih =>
      cases inputs with
      | nil => cases ran
      | cons input rest =>
          obtain ⟨answer', next, later, stepped, tail, answers⟩ := run_cons_inv ran
          cases answers
          obtain ⟨front, back, middle, split, before, after⟩ := ih tail
          refine ⟨input :: front, back, middle, by rw [split]; rfl, ?_, after⟩
          rw [run_cons_of_ok front stepped, before]
          rfl

theorem completes_cons {machine : Machine Φ S I O} {state : S} {input : I} {rest : List I} :
    machine.Completes state (input :: rest) ↔
      ∃ answer next, machine state input = .ok (answer, next) ∧ machine.Completes next rest := by
  constructor
  · rintro ⟨⟨answers, final⟩, ran⟩
    obtain ⟨answer, next, later, stepped, tail, _⟩ := run_cons_inv ran
    exact ⟨answer, next, stepped, ⟨(later, final), tail⟩⟩
  · rintro ⟨answer, next, stepped, ⟨result, tail⟩⟩
    exact ⟨(answer :: result.1, result.2), by rw [run_cons_of_ok rest stepped, tail]; rfl⟩

/-- The invariant rule: a property that each step has from the invariant holds along the run. -/
theorem always_of_invariant {machine : Machine Φ S I O} {property : S → I → O → S → Prop}
    (allowed : I → Prop) (invariant : S → Prop)
    (preserved : ∀ state input answer next, invariant state → allowed input →
      machine state input = .ok (answer, next) →
        property state input answer next ∧ invariant next)
    {state : S} {inputs : List I} (initial : invariant state) (each : ∀ input ∈ inputs, allowed input)
    (completes : machine.Completes state inputs) : machine.Always property state inputs := by
  induction inputs generalizing state with
  | nil => trivial
  | cons input rest ih =>
      obtain ⟨answer, next, stepped, tail⟩ := completes_cons.mp completes
      obtain ⟨first, others⟩ := List.forall_mem_cons.mp each
      obtain ⟨holds, kept⟩ := preserved state input answer next initial first stepped
      exact ⟨answer, next, stepped, holds, ih kept others tail⟩

/-- The total invariant rule: permitted inputs never fault. -/
theorem always_of_guarded {machine : Machine Φ S I O} {property : S → I → O → S → Prop}
    {permitted : S → I → Prop} (invariant : S → Prop)
    (progress : ∀ state input, invariant state → permitted state input →
      ∃ answer next, machine state input = .ok (answer, next) ∧
        property state input answer next ∧ invariant next)
    {state : S} {inputs : List I} (initial : invariant state)
    (guarded : machine.Guarded permitted state inputs) : machine.Always property state inputs := by
  induction inputs generalizing state with
  | nil => trivial
  | cons input rest ih =>
      obtain ⟨answer, next, stepped, holds, kept⟩ := progress state input initial guarded.1
      exact ⟨answer, next, stepped, holds, ih kept (guarded.2 answer next stepped)⟩

/-- The partial invariant rule: permitted inputs fault in an excused way only. -/
theorem alwaysUnless_of_guarded {machine : Machine Φ S I O} {excused : Φ → Prop}
    {property : S → I → O → S → Prop} {permitted : S → I → Prop} (invariant : S → Prop)
    (progress : ∀ state input, invariant state → permitted state input →
      (∃ fault, machine state input = .error fault ∧ excused fault) ∨
        ∃ answer next, machine state input = .ok (answer, next) ∧
          property state input answer next ∧ invariant next)
    {state : S} {inputs : List I} (initial : invariant state)
    (guarded : machine.Guarded permitted state inputs) :
    machine.AlwaysUnless excused property state inputs := by
  induction inputs generalizing state with
  | nil => trivial
  | cons input rest ih =>
      rcases progress state input initial guarded.1 with stopped | moved
      · exact Or.inl stopped
      · obtain ⟨answer, next, stepped, holds, kept⟩ := moved
        exact Or.inr ⟨answer, next, stepped, holds, ih kept (guarded.2 answer next stepped)⟩

/-- The invariant holds in every state that a run with permitted inputs reaches. -/
theorem invariant_of_run {machine : Machine Φ S I O} {permitted : S → I → Prop} (invariant : S → Prop)
    (preserved : ∀ state input answer next, invariant state → permitted state input →
      machine state input = .ok (answer, next) → invariant next)
    {state final : S} {inputs : List I} {answers : List O} (initial : invariant state)
    (guarded : machine.Guarded permitted state inputs)
    (ran : machine.run state inputs = .ok (answers, final)) : invariant final := by
  induction inputs generalizing state answers with
  | nil =>
      cases ran
      exact initial
  | cons input rest ih =>
      obtain ⟨answer, next, later, stepped, tail, _⟩ := run_cons_inv ran
      exact ih (preserved state input answer next initial guarded.1 stepped)
        (guarded.2 answer next stepped) tail

/-- A property that each permitted step has exactly when the step is good holds along the run exactly
when all its steps are good. -/
theorem alwaysUnless_iff_guarded {machine : Machine Φ S I O} {excused : Φ → Prop}
    {property : S → I → O → S → Prop} {permitted good : S → I → Prop} (invariant : S → Prop)
    (exact : ∀ state input, invariant state → permitted state input →
      (∃ fault, machine state input = .error fault ∧ excused fault ∧ good state input) ∨
        ∃ answer next, machine state input = .ok (answer, next) ∧
          (property state input answer next ↔ good state input) ∧
          (good state input → invariant next))
    {state : S} {inputs : List I} (initial : invariant state)
    (guarded : machine.Guarded permitted state inputs) :
    machine.AlwaysUnless excused property state inputs ↔ machine.Guarded good state inputs := by
  induction inputs generalizing state with
  | nil => exact Iff.rfl
  | cons input rest ih =>
      rcases exact state input initial guarded.1 with
        ⟨fault, stopped, excuse, fine⟩ | ⟨answer, next, stepped, here, kept⟩
      · constructor
        · refine fun _ => ⟨fine, fun answer next stepped => ?_⟩
          rw [stopped] at stepped
          cases stepped
        · exact fun _ => Or.inl ⟨fault, stopped, excuse⟩
      · have tail := fun fine => ih (kept fine) (guarded.2 answer next stepped)
        constructor
        · rintro (⟨fault, stopped, _⟩ | ⟨answer', next', stepped', holds, later⟩)
          · rw [stopped] at stepped
            cases stepped
          · rw [stepped] at stepped'
            cases stepped'
            have fine := here.mp holds
            refine ⟨fine, fun answer' next' stepped' => ?_⟩
            rw [stepped] at stepped'
            cases stepped'
            exact (tail fine).mp later
        · rintro ⟨fine, later⟩
          exact Or.inr ⟨answer, next, stepped, here.mpr fine,
            (tail fine).mpr (later answer next stepped)⟩

theorem guarded_true (machine : Machine Φ S I O) (state : S) (inputs : List I) :
    machine.Guarded (fun _ _ => True) state inputs := by
  induction inputs generalizing state with
  | nil => trivial
  | cons input rest ih => exact ⟨trivial, fun _ next _ => ih next⟩

/-- A run that may stop in no way at all has the property at every step. -/
theorem alwaysUnless_false {machine : Machine Φ S I O} {property : S → I → O → S → Prop} {state : S}
    {inputs : List I} :
    machine.AlwaysUnless (fun _ => False) property state inputs ↔ machine.Always property state inputs := by
  induction inputs generalizing state with
  | nil => exact Iff.rfl
  | cons input rest ih => simp only [AlwaysUnless, Always, and_false, exists_false, false_or, ih]

/-- A machine that never faults has the property along a run exactly when all steps are good. -/
theorem always_iff_guarded {machine : Machine Φ S I O} {property : S → I → O → S → Prop}
    {good : S → I → Prop}
    (exact : ∀ state input, ∃ answer next, machine state input = .ok (answer, next) ∧
      (property state input answer next ↔ good state input)) (state : S) (inputs : List I) :
    machine.Always property state inputs ↔ machine.Guarded good state inputs := by
  rw [← alwaysUnless_false]
  apply alwaysUnless_iff_guarded (fun _ => True) _ trivial (guarded_true machine state inputs)
  intro state input _ _
  obtain ⟨answer, next, stepped, same⟩ := exact state input
  exact Or.inr ⟨answer, next, stepped, same, fun _ => trivial⟩

/-- A permission of the inputs alone joins the permissions of a run. -/
theorem Guarded.and_inputs {machine : Machine Φ S I O} {permitted : S → I → Prop} {allowed : I → Prop}
    {state : S} {inputs : List I} (guarded : machine.Guarded permitted state inputs)
    (each : ∀ input ∈ inputs, allowed input) :
    machine.Guarded (fun state input => permitted state input ∧ allowed input) state inputs := by
  induction inputs generalizing state with
  | nil => trivial
  | cons input rest ih =>
      obtain ⟨first, others⟩ := List.forall_mem_cons.mp each
      exact ⟨⟨guarded.1, first⟩, fun answer next stepped => ih (guarded.2 answer next stepped) others⟩

/-- Two properties that agree at each step from the invariant agree along the run. -/
theorem always_congr {machine : Machine Φ S I O} {first second : S → I → O → S → Prop}
    (invariant : S → Prop)
    (agree : ∀ state input answer next, invariant state →
      machine state input = .ok (answer, next) →
        (first state input answer next ↔ second state input answer next) ∧ invariant next)
    {state : S} {inputs : List I} (initial : invariant state) :
    machine.Always first state inputs ↔ machine.Always second state inputs := by
  induction inputs generalizing state with
  | nil => exact Iff.rfl
  | cons input rest ih =>
      constructor
      · rintro ⟨answer, next, stepped, holds, tail⟩
        obtain ⟨same, kept⟩ := agree state input answer next initial stepped
        exact ⟨answer, next, stepped, same.mp holds, (ih kept).mp tail⟩
      · rintro ⟨answer, next, stepped, holds, tail⟩
        obtain ⟨same, kept⟩ := agree state input answer next initial stepped
        exact ⟨answer, next, stepped, same.mpr holds, (ih kept).mpr tail⟩

/-- A property that each step has exactly for good inputs holds along the run exactly when all inputs
are good. -/
theorem always_iff_inputs {machine : Machine Φ S I O} {property : S → I → O → S → Prop}
    (good : I → Prop) (invariant : S → Prop)
    (exact : ∀ state input answer next, invariant state →
      machine state input = .ok (answer, next) →
        (property state input answer next ↔ good input) ∧ (good input → invariant next))
    {state : S} {inputs : List I} (initial : invariant state)
    (completes : machine.Completes state inputs) :
    machine.Always property state inputs ↔ ∀ input ∈ inputs, good input := by
  induction inputs generalizing state with
  | nil => simp [Always]
  | cons input rest ih =>
      obtain ⟨answer, next, stepped, tail⟩ := completes_cons.mp completes
      obtain ⟨here, kept⟩ := exact state input answer next initial stepped
      have later := fun good => ih (kept good) tail
      rw [List.forall_mem_cons]
      constructor
      · rintro ⟨answer', next', stepped', holds, always⟩
        rw [stepped] at stepped'
        cases stepped'
        have good := here.mp holds
        exact ⟨good, (later good).mp always⟩
      · rintro ⟨good, others⟩
        exact ⟨answer, next, stepped, here.mpr good, (later good).mpr others⟩

/-- The history rule: an invariant of the answers so far and the state survives every run. -/
theorem run_of_history {machine : Machine Φ S I O} (invariant : List O → S → Prop)
    (progress : ∀ earlier state input, invariant earlier state →
      ∃ answer next, machine state input = .ok (answer, next) ∧ invariant (earlier ++ [answer]) next)
    {earlier : List O} {state : S} (initial : invariant earlier state) (inputs : List I) :
    ∃ answers final, machine.run state inputs = .ok (answers, final) ∧
      invariant (earlier ++ answers) final := by
  induction inputs generalizing earlier state with
  | nil => exact ⟨[], state, rfl, by simpa using initial⟩
  | cons input rest ih =>
      obtain ⟨answer, next, stepped, kept⟩ := progress earlier state input initial
      obtain ⟨answers, final, ran, holds⟩ := ih kept
      refine ⟨answer :: answers, final, ?_, by simpa using holds⟩
      rw [run_cons_of_ok rest stepped, ran]
      rfl

section Conservation

variable {A : Type*} {machine : Machine Φ S I O} {invariant : S → Prop} {allowed : I → Prop}
  {held : S → List A} {taken : I → O → List A}

/-- The conservation rule: if each step takes the front of what its state holds, then what a run took,
followed by what its last state holds, is what its first state held. -/
theorem taken_of_run
    (conserves : ∀ state input answer next, invariant state → allowed input →
      machine state input = .ok (answer, next) →
        invariant next ∧ taken input answer ++ held next = held state)
    {state final : S} {inputs : List I} {answers : List O} (initial : invariant state)
    (each : ∀ input ∈ inputs, allowed input) (ran : machine.run state inputs = .ok (answers, final)) :
    invariant final ∧ (List.zipWith taken inputs answers).flatten ++ held final = held state := by
  induction inputs generalizing state answers with
  | nil =>
      cases ran
      exact ⟨initial, rfl⟩
  | cons input rest ih =>
      obtain ⟨answer, next, later, stepped, tail, rfl⟩ := run_cons_inv ran
      obtain ⟨first, others⟩ := List.forall_mem_cons.mp each
      obtain ⟨kept, account⟩ := conserves state input answer next initial first stepped
      obtain ⟨last, later⟩ := ih kept others tail
      refine ⟨last, ?_⟩
      rw [List.zipWith_cons_cons, List.flatten_cons, List.append_assoc, later, account]

/-- An answer that only a state with nothing left gives comes when everything was taken. -/
theorem taken_of_last (ends : O → Prop)
    (conserves : ∀ state input answer next, invariant state → allowed input →
      machine state input = .ok (answer, next) →
        invariant next ∧ taken input answer ++ held next = held state ∧ (ends answer → held next = []))
    {state final : S} {inputs : List I} {answer : O} {later : List O} (earlier : List O)
    (initial : invariant state) (each : ∀ input ∈ inputs, allowed input)
    (ran : machine.run state inputs = .ok (earlier ++ answer :: later, final)) (ended : ends answer) :
    (List.zipWith taken inputs (earlier ++ [answer])).flatten = held state := by
  induction earlier generalizing state inputs with
  | nil =>
      cases inputs with
      | nil => cases ran
      | cons input rest =>
          obtain ⟨_, next, _, stepped, _, same⟩ := run_cons_inv ran
          cases same
          obtain ⟨_, account, atEnd⟩ := conserves state input answer next initial
            (each input List.mem_cons_self) stepped
          rw [atEnd ended, List.append_nil] at account
          rw [List.nil_append, List.zipWith_cons_cons, List.flatten_cons, account]
          simp
  | cons first earlier ih =>
      cases inputs with
      | nil => cases ran
      | cons input rest =>
          obtain ⟨_, next, _, stepped, tail, same⟩ := run_cons_inv ran
          cases same
          obtain ⟨here, others⟩ := List.forall_mem_cons.mp each
          obtain ⟨kept, account, _⟩ := conserves state input first next initial here stepped
          rw [List.cons_append, List.zipWith_cons_cons, List.flatten_cons, ih kept others tail, account]

/-- The accumulation rule: if each step adds something behind what its state holds, then the last state
holds what the first one held and everything that the run added. -/
theorem added_of_run (held : S → List A) {added : I → O → List A}
    (accumulates : ∀ state input answer next, allowed input → machine state input = .ok (answer, next) →
      held next = held state ++ added input answer)
    {state final : S} {inputs : List I} {answers : List O} (each : ∀ input ∈ inputs, allowed input)
    (ran : machine.run state inputs = .ok (answers, final)) :
    held final = held state ++ (List.zipWith added inputs answers).flatten := by
  induction inputs generalizing state answers with
  | nil =>
      cases ran
      exact (List.append_nil _).symm
  | cons input rest ih =>
      obtain ⟨answer, next, later, stepped, tail, rfl⟩ := run_cons_inv ran
      obtain ⟨first, others⟩ := List.forall_mem_cons.mp each
      rw [ih others tail, accumulates state input answer next first stepped, List.append_assoc,
        List.zipWith_cons_cons, List.flatten_cons]

end Conservation

end Machine

end Xstd.Library
