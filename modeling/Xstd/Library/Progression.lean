import Mathlib.Tactic

/-
This file proves which terms of an arithmetic progression lie before a bound.
-/

namespace Xstd.Library

/-- The terms of the progression from `start`. -/
def term (start step : ℤ) (index : ℕ) : ℤ := start + index * step

/-- The value has not reached the bound in the direction of the step. -/
def StrictlyBefore (step bound value : ℤ) : Prop :=
  (0 < step ∧ value < bound) ∨ (step < 0 ∧ bound < value)

instance (step bound value : ℤ) : Decidable (StrictlyBefore step bound value) :=
  inferInstanceAs (Decidable ((0 < step ∧ value < bound) ∨ (step < 0 ∧ bound < value)))

/-- The half-open progression has the terms before the bound. -/
def progression (start bound step : ℤ) : Set ℤ :=
  {value | ∃ index, value = term start step index ∧ StrictlyBefore step bound value}

/-- So many terms after the first one lie before the bound. -/
def stepsBefore (start bound step : ℤ) : ℕ := (⌈((bound - start : ℤ) : ℚ) / step⌉ - 1).toNat

variable {start bound step : ℤ}

@[simp] theorem term_zero (start step : ℤ) : term start step 0 = start := by
  simp [term]

theorem term_succ (start step : ℤ) (index : ℕ) :
    term start step (index + 1) = term start step index + step := by
  simp only [term, Nat.cast_add, Nat.cast_one]
  ring

theorem term_shift (start step : ℤ) (index : ℕ) :
    term (start + step) step index = term start step (index + 1) := by
  simp only [term, Nat.cast_add, Nat.cast_one]
  ring

theorem term_injective (nonzero : step ≠ 0) : Function.Injective (term start step) := by
  intro first second same
  have equal : (first : ℤ) * step = second * step := by
    simpa only [term, add_right_inj] using same
  exact_mod_cast mul_right_cancel₀ nonzero equal

/-- A value before the bound keeps its distance from the values behind it. -/
theorem StrictlyBefore.of_step {value : ℤ} (before : StrictlyBefore step bound (value + step)) :
    StrictlyBefore step bound value := by
  rcases before with ⟨up, below⟩ | ⟨down, above⟩
  · exact Or.inl ⟨up, by omega⟩
  · exact Or.inr ⟨down, by omega⟩

/-- The terms before the bound are the ones below the rounded quotient of the distance and the step. -/
theorem strictlyBefore_term_iff (nonzero : step ≠ 0) (index : ℕ) :
    StrictlyBefore step bound (term start step index) ↔
      (index : ℤ) < ⌈((bound - start : ℤ) : ℚ) / step⌉ := by
  rw [Int.lt_ceil]
  rcases lt_or_gt_of_ne nonzero with down | up
  · have negative : ((step : ℤ) : ℚ) < 0 := by exact_mod_cast down
    rw [lt_div_iff_of_neg negative]
    have same : ((bound - start : ℤ) : ℚ) < ((index : ℤ) : ℚ) * step ↔
        bound - start < index * step := by exact_mod_cast Iff.rfl
    rw [same, StrictlyBefore, term]
    constructor
    · rintro (⟨up, _⟩ | ⟨_, above⟩) <;> omega
    · intro above
      exact Or.inr ⟨down, by omega⟩
  · have positive : 0 < ((step : ℤ) : ℚ) := by exact_mod_cast up
    rw [lt_div_iff₀ positive]
    have same : ((index : ℤ) : ℚ) * step < ((bound - start : ℤ) : ℚ) ↔
        index * step < bound - start := by exact_mod_cast Iff.rfl
    rw [same, StrictlyBefore, term]
    constructor
    · rintro (⟨_, below⟩ | ⟨down, _⟩) <;> omega
    · intro below
      exact Or.inl ⟨up, by omega⟩

theorem strictlyBefore_succ_iff (nonzero : step ≠ 0) (index : ℕ) :
    StrictlyBefore step bound (term start step (index + 1)) ↔ index < stepsBefore start bound step := by
  rw [strictlyBefore_term_iff nonzero, stepsBefore]
  push_cast
  omega

/-- The count of `stepsBefore` without truncation. -/
theorem stepsBefore_eq (start bound step : ℤ) : (stepsBefore start bound step : ℤ) =
    max 0 (⌈((bound - start : ℤ) : ℚ) / step⌉ - 1) := by
  rw [stepsBefore, Int.toNat_eq_max, max_comm]

/-- A term before the bound lies between the start and the bound. -/
theorem StrictlyBefore.between {index : ℕ}
    (before : StrictlyBefore step bound (term start step index)) :
    min start bound ≤ term start step index ∧ term start step index ≤ max start bound := by
  rcases before with ⟨up, below⟩ | ⟨down, above⟩
  · have grown : 0 ≤ (index : ℤ) * step := by positivity
    simp only [term] at below ⊢
    omega
  · have shrunk : (index : ℤ) * step ≤ 0 := mul_nonpos_of_nonneg_of_nonpos (by positivity) down.le
    simp only [term] at above ⊢
    omega

/-- With two terms before the bound the progression has the first ones, and otherwise at most one. -/
theorem progression_eq (nonzero : step ≠ 0) (several : stepsBefore start bound step ≠ 0) :
    progression start bound step =
      {value | ∃ index, index ≤ stepsBefore start bound step ∧ value = term start step index} := by
  ext value
  constructor
  · rintro ⟨index, same, before⟩
    refine ⟨index, ?_, same⟩
    cases index with
    | zero => exact Nat.zero_le _
    | succ index =>
        rw [same] at before
        exact (strictlyBefore_succ_iff nonzero index).mp before
  · rintro ⟨index, inside, same⟩
    refine ⟨index, same, ?_⟩
    rw [same]
    cases index with
    | zero =>
        apply StrictlyBefore.of_step
        rw [← term_succ, strictlyBefore_succ_iff nonzero]
        omega
    | succ index => exact (strictlyBefore_succ_iff nonzero index).mpr inside

theorem progression_subset (nonzero : step ≠ 0) (few : stepsBefore start bound step = 0) :
    progression start bound step ⊆ {start} := by
  rintro value ⟨index, same, before⟩
  cases index with
  | zero => rw [same, term_zero]; rfl
  | succ index =>
      rw [same, strictlyBefore_succ_iff nonzero, few] at before
      exact absurd before (Nat.not_lt_zero index)

end Xstd.Library
