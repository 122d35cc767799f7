import Mathlib.Tactic

/-
This file defines when a loop leaves and what it has computed then, and the loop that doubles a number.
-/

namespace Xstd.Library

universe u v

section Loop

variable {A : Type u} {B : Type v} {step : A → A} {done : A → Prop} {start : A} {count : ℕ}

/-- The loop leaves after so many rounds: its state is done then, and at no time before. -/
structure ExitsAfter (step : A → A) (done : A → Prop) (start : A) (count : ℕ) : Prop where
  reached : done (step^[count] start)
  busy : ∀ earlier < count, ¬done (step^[earlier] start)

namespace ExitsAfter

theorem zero (finished : done start) : ExitsAfter step done start 0 :=
  ⟨finished, fun _ below => absurd below (Nat.not_lt_zero _)⟩

/-- A round of the loop comes before the rounds from the next state. -/
theorem succ (working : ¬done start) (exits : ExitsAfter step done (step start) count) :
    ExitsAfter step done start (count + 1) where
  reached := by
    rw [Function.iterate_succ_apply]
    exact exits.reached
  busy earlier below := by
    cases earlier with
    | zero => exact working
    | succ earlier =>
        rw [Function.iterate_succ_apply]
        exact exits.busy earlier (Nat.lt_of_succ_lt_succ below)

theorem tail (exits : ExitsAfter step done start (count + 1)) :
    ExitsAfter step done (step start) count where
  reached := by
    rw [← Function.iterate_succ_apply]
    exact exits.reached
  busy earlier below := by
    rw [← Function.iterate_succ_apply]
    exact exits.busy (earlier + 1) (Nat.succ_lt_succ below)

/-- A loop leaves only once. -/
theorem unique {count' : ℕ} (exits : ExitsAfter step done start count)
    (exits' : ExitsAfter step done start count') : count = count' := by
  rcases Nat.lt_trichotomy count count' with less | same | more
  · exact absurd exits.reached (exits'.busy count less)
  · exact same
  · exact absurd exits'.reached (exits.busy count' more)

/-- A loop that leaves sooner can run first. -/
theorem trans {later : A → Prop} {count' : ℕ} (sooner : ∀ state, later state → done state)
    (exits : ExitsAfter step done start count)
    (exits' : ExitsAfter step later (step^[count] start) count') :
    ExitsAfter step later start (count + count') where
  reached := by
    rw [Nat.add_comm, Function.iterate_add_apply]
    exact exits'.reached
  busy earlier below := by
    rcases Nat.lt_or_ge earlier count with inside | behind
    · exact fun finished => exits.busy earlier inside (sooner _ finished)
    · obtain ⟨rest, rfl⟩ := Nat.exists_eq_add_of_le behind
      rw [Nat.add_comm, Function.iterate_add_apply]
      exact exits'.busy rest (Nat.lt_of_add_lt_add_left below)

/-- The first state that is done ends the loop. -/
theorem of_reached (finished : done (step^[count] start)) :
    ∃ first ≤ count, ExitsAfter step done start first := by
  classical
  have some : ∃ count, done (step^[count] start) := ⟨count, finished⟩
  exact ⟨Nat.find some, Nat.find_min' some finished, Nat.find_spec some, fun _ => Nat.find_min some⟩

/-- A loop that another one follows in each busy state leaves after the same rounds. -/
theorem simulates (view : A → B) {step' : B → B} {done' : B → Prop} {invariant : A → Prop}
    (same : ∀ state, invariant state → (done state ↔ done' (view state)))
    (follows : ∀ state, invariant state → ¬done state →
      view (step state) = step' (view state) ∧ invariant (step state))
    (initial : invariant start) (exits : ExitsAfter step done start count) :
    ExitsAfter step' done' (view start) count ∧ view (step^[count] start) = step'^[count] (view start) ∧
      invariant (step^[count] start) := by
  induction count generalizing start with
  | zero => exact ⟨zero ((same start initial).mp exits.reached), rfl, initial⟩
  | succ count ih =>
      have working : ¬done start := exits.busy 0 (Nat.succ_pos count)
      obtain ⟨moved, kept⟩ := follows start initial working
      obtain ⟨exits', agrees, holds⟩ := ih kept exits.tail
      rw [moved] at exits' agrees
      refine ⟨exits'.succ fun finished => working ((same start initial).mpr finished), ?_, ?_⟩
      · rw [Function.iterate_succ_apply, Function.iterate_succ_apply]
        exact agrees
      · rw [Function.iterate_succ_apply]
        exact holds

end ExitsAfter

end Loop

section Doubling

variable {start bound count : ℕ}

/-- Doubling starts at 1 when there is nothing to double. -/
def doubled (value : ℕ) : ℕ := if value = 0 then 1 else value * 2

theorem doubled_iterate (start : ℕ) (positive : start ≠ 0) (count : ℕ) :
    doubled^[count] start = start * 2 ^ count := by
  induction count with
  | zero => exact (Nat.mul_one start).symm
  | succ count ih =>
      rw [Function.iterate_succ_apply', ih, doubled, if_neg (by positivity), Nat.pow_succ, Nat.mul_assoc]

/-- Doubling from nothing leaves with the least power of two that reaches a positive bound. -/
theorem doubled_exits_zero (positive : 0 < bound)
    (exits : ExitsAfter doubled (bound ≤ ·) 0 count) :
    ∃ power, doubled^[count] 0 = 2 ^ power ∧ (∀ other, bound ≤ 2 ^ other → 2 ^ power ≤ 2 ^ other) ∧
      2 ^ power < 2 * bound := by
  cases count with
  | zero => exact absurd exits.reached (Nat.not_le.mpr positive)
  | succ power =>
      have powers : ∀ count, doubled^[count + 1] 0 = 2 ^ count := by
        intro count
        rw [Function.iterate_succ_apply]
        exact (doubled_iterate 1 Nat.one_ne_zero count).trans (Nat.one_mul _)
      refine ⟨power, powers power, ?_, ?_⟩
      · intro other enough
        apply Nat.pow_le_pow_right Nat.two_pos
        by_contra less
        apply exits.busy (other + 1) (Nat.succ_lt_succ (Nat.not_le.mp less))
        rw [powers]
        exact enough
      · cases power with
        | zero => exact Nat.lt_of_lt_of_le Nat.one_lt_two (Nat.le_mul_of_pos_right 2 positive)
        | succ power =>
            have short := exits.busy (power + 1) (Nat.lt_succ_self _)
            rw [powers] at short
            rw [Nat.pow_succ]
            omega

theorem doubled_ge (value : ℕ) : 2 * value ≤ doubled value ∧ 0 < doubled value := by
  unfold doubled
  split <;> omega

theorem le_doubled_iterate (start count : ℕ) : start ≤ doubled^[count] start := by
  induction count with
  | zero => exact Nat.le_refl start
  | succ count ih =>
      have larger := doubled_ge (doubled^[count] start)
      rw [Function.iterate_succ_apply']
      omega

/-- Doubling from below a bound at least doubles, and it ends below twice the bound. -/
theorem doubled_exits_bounds (short : start < bound) (exits : ExitsAfter doubled (bound ≤ ·) start count) :
    2 * start ≤ doubled^[count] start ∧ 0 < doubled^[count] start ∧ doubled^[count] start < 2 * bound := by
  cases count with
  | zero => exact absurd exits.reached (Nat.not_le.mpr short)
  | succ count =>
      have last := Nat.not_le.mp (exits.busy count (Nat.lt_succ_self count))
      have above := le_doubled_iterate start count
      rw [Function.iterate_succ_apply']
      generalize doubled^[count] start = value at last above ⊢
      unfold doubled
      split <;> omega

end Doubling

end Xstd.Library
