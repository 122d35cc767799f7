import Xstd.Proof.Iter.Loop

/-
This file proves which values a range enumerates, when its additions are safe and what its outputs tell.
-/

namespace Xstd.Iter

open Library

section Range

variable (start stop step : Int64)

/-- Unless an addition overflows, the calls enumerate the range but for its last value, and end. -/
theorem rangeIterator_enumerates (nonzero : step ≠ 0)
    (safe : ∀ fuel, untilFalse rangeIterator fuel (rangeIteratorInit start stop step) ≠
      .error .signedOverflow) :
    ∃ count : ℕ, ∃ outputs after,
      (count : ℤ) = max 0 (⌈((stop.toInt - start.toInt : ℤ) : ℚ) / step.toInt⌉ - 1) ∧
      (∀ fuel, count < fuel →
        untilFalse rangeIterator fuel (rangeIteratorInit start stop step) = .ok (outputs, after)) ∧
      outputs.map (fun output => (output.1.toInt, output.2)) =
        (List.range (count + 1)).map (fun index => (term start.toInt step.toInt index,
          decide (StrictlyBefore step.toInt stop.toInt (term start.toInt step.toInt (index + 1))))) ∧
      (visited outputs).map Int64.toInt = (List.range count).map (term start.toInt step.toInt) ∧
      (visited outputs).Nodup ∧
      ∀ inputs answers final, (calls rangeIterator).run after inputs = .ok (answers, final) →
        ∀ answer ∈ answers, answer.2 = false := by
  have fits := (untilFalse_safe_iff (b := rangeIteratorInit start stop step) nonzero).mp safe
  obtain ⟨outputs, value, reached, written, ended⟩ := untilFalse_ends nonzero fits
  have visits := visited_eq written
  have before := strictlyBefore_iff_rounds (b := rangeIteratorInit start stop step) nonzero
  refine ⟨rounds (rangeIteratorInit start stop step), outputs,
    { rangeIteratorInit start stop step with value := value }, stepsBefore_eq _ _ _,
    fun fuel enough => ?_, ?_, visits, ?_, fun inputs answers final => ?_⟩
  · rw [← Nat.sub_add_cancel (Nat.succ_le_of_lt enough)]
    exact ended _
  · rw [written]
    apply List.map_congr_left
    intro index _
    exact congrArg (Prod.mk _) (decide_eq_decide.mpr (before index).symm)
  · apply List.Nodup.of_map Int64.toInt
    rw [visits]
    exact List.nodup_range.map (term_injective (toInt_ne_zero nonzero))
  · apply calls_behind nonzero
    show ¬StrictlyBefore step.toInt stop.toInt value.toInt
    rw [reached]
    exact fun ahead => lt_irrefl _ ((before _).mp ahead)

/-- The loop over the range from 0 to 3 sees 0 and 1. -/
theorem rangeIterator_enumerates_three : ∃ outputs after,
    (∀ fuel, 2 < fuel → untilFalse rangeIterator fuel (rangeIteratorInit 0 3 1) = .ok (outputs, after)) ∧
      (visited outputs).map Int64.toInt = [0, 1] := by
  have exact : stepsBefore 0 3 1 = 2 := by norm_num [stepsBefore, Int.toNat]
  have fits : InIntmax (term 0 1 (stepsBefore 0 3 1 + 1)) := by
    rw [exact]
    decide
  obtain ⟨count, outputs, after, size, ended, _, visits, _⟩ := rangeIterator_enumerates 0 3 1 (by decide)
    ((untilFalse_safe_iff (b := rangeIteratorInit 0 3 1) (by decide)).mpr fits)
  have two : count = 2 := by
    rw [← stepsBefore_eq] at size
    exact (Int.ofNat.inj size).trans exact
  rw [two] at ended visits
  exact ⟨outputs, after, ended, visits⟩

/-- The last addition yields the first term that is not before the end. -/
theorem rounds_add_one (start stop step : Int64) :
    ((rounds (rangeIteratorInit start stop step) + 1 : ℕ) : ℤ) =
      max 1 ⌈((stop.toInt - start.toInt : ℤ) : ℚ) / step.toInt⌉ := by
  have same : (rounds (rangeIteratorInit start stop step) : ℤ) = _ := stepsBefore_eq _ _ _
  rw [Nat.cast_add, same]
  show max 0 (⌈((stop.toInt - start.toInt : ℤ) : ℚ) / step.toInt⌉ - 1) + 1 = _
  omega

/-- The additions up to the first `false` stay inside the type exactly when the first term at or behind
the end does. -/
theorem rangeIterator_safe_iff (nonzero : step ≠ 0) :
    (∀ fuel, untilFalse rangeIterator fuel (rangeIteratorInit start stop step) ≠
      .error .signedOverflow) ↔
      InIntmax (start.toInt +
        max 1 ⌈((stop.toInt - start.toInt : ℤ) : ℚ) / step.toInt⌉ * step.toInt) := by
  rw [untilFalse_safe_iff (b := rangeIteratorInit start stop step) nonzero, term, rounds_add_one]
  rfl

/-- The last term that the range from 0 to 3 computes is 3. -/
theorem rangeIterator_safe_three :
    (∀ fuel, untilFalse rangeIterator fuel (rangeIteratorInit 0 3 1) ≠ .error .signedOverflow) ↔
      InIntmax (0 + max 1 ⌈((3 - 0 : ℤ) : ℚ) / (1 : ℤ)⌉ * 1) :=
  rangeIterator_safe_iff 0 3 1 (by decide)

/-- A step over the largest value overflows. -/
theorem rangeIterator_overflows :
    untilFalse rangeIterator 2 (rangeIteratorInit 0 9223372036854775807 4611686018427387904) =
      .error .signedOverflow := by
  decide

end Range

section TwoRanges

/-- A loop that ended has written every term up to the first one that is not before the end. -/
theorem untilFalse_ok {outputs : List (IntmaxT × Bool)} {after : RangeIterator} {fuel : ℕ}
    (nonzero : b.step ≠ 0) (ended : untilFalse rangeIterator fuel b = .ok (outputs, after)) :
    outputs.map (fun output => (output.1.toInt, output.2)) =
      (List.range (rounds b + 1)).map
        (fun index => (term b.value.toInt b.step.toInt index, decide (index < rounds b))) := by
  have safe : ∀ more, untilFalse rangeIterator (fuel + more) b = .ok (outputs, after) := by
    intro more
    rw [untilFalse_stable more, ended]
    rw [ended]
    exact fun same => by cases same
  by_cases fits : InIntmax (term b.value.toInt b.step.toInt (rounds b + 1))
  · obtain ⟨outputs', value, _, written, finished⟩ := untilFalse_ends nonzero fits
    have same := safe (rounds b + 1)
    rw [finished] at same
    cases same
    exact written
  · have same := safe (rounds b + 1)
    rw [untilFalse_overflows nonzero fits] at same
    cases same

/-- The values that a loop with a `true` answer wrote are the elements of the range. -/
theorem progression_eq_written {outputs : List (IntmaxT × Bool)} (nonzero : b.step ≠ 0)
    (written : outputs.map (fun output => (output.1.toInt, output.2)) =
      (List.range (rounds b + 1)).map
        (fun index => (term b.value.toInt b.step.toInt index, decide (index < rounds b))))
    (several : rounds b ≠ 0) :
    progression b.value.toInt b.stop.toInt b.step.toInt =
      {value | ∃ output ∈ outputs, output.1.toInt = value} := by
  have values : outputs.map (fun output => output.1.toInt) =
      (List.range (rounds b + 1)).map (term b.value.toInt b.step.toInt) := by
    have firsts := congrArg (List.map Prod.fst) written
    simpa only [List.map_map, Function.comp_def] using firsts
  rw [progression_eq (toInt_ne_zero nonzero) several]
  ext value
  have member : (∃ output ∈ outputs, output.1.toInt = value) ↔
      value ∈ (List.range (rounds b + 1)).map (term b.value.toInt b.step.toInt) := by
    rw [← values, List.mem_map]
  show (∃ index, index ≤ rounds b ∧ value = _) ↔ ∃ output ∈ outputs, output.1.toInt = value
  rw [member, List.mem_map]
  simp only [List.mem_range, Nat.lt_succ_iff, eq_comm]

/-- A loop without a `true` answer wrote the start. -/
theorem outputs_single {outputs : List (IntmaxT × Bool)}
    (written : outputs.map (fun output => (output.1.toInt, output.2)) =
      (List.range (rounds b + 1)).map
        (fun index => (term b.value.toInt b.step.toInt index, decide (index < rounds b))))
    (few : rounds b = 0) : outputs = [(b.value, false)] := by
  have injective : Function.Injective fun output : IntmaxT × Bool => (output.1.toInt, output.2) := by
    intro first second same
    simp only [Prod.mk.injEq] at same
    exact Prod.ext (Int64.toInt_inj.mp same.1) same.2
  apply List.map_injective_iff.mpr injective
  rw [written, few, Nat.zero_add, List.range_one, List.map_singleton, List.map_singleton, term_zero]
  rfl

/-- The written values and flags determine the start, and the elements of every range of at least two. -/
theorem rangeIterator_determines {start stop step start' stop' step' : Int64}
    {outputs : List (IntmaxT × Bool)} {after after' : RangeIterator} {fuel fuel' : ℕ}
    (nonzero : step ≠ 0) (nonzero' : step' ≠ 0)
    (ended : untilFalse rangeIterator fuel (rangeIteratorInit start stop step) = .ok (outputs, after))
    (ended' : untilFalse rangeIterator fuel' (rangeIteratorInit start' stop' step') =
      .ok (outputs, after')) :
    start = start' ∧
      ((progression start.toInt stop.toInt step.toInt =
          {value | ∃ output ∈ outputs, output.1.toInt = value} ∧
        progression start'.toInt stop'.toInt step'.toInt = progression start.toInt stop.toInt step.toInt) ∨
      (outputs = [(start, false)] ∧ progression start.toInt stop.toInt step.toInt ⊆ {start.toInt} ∧
        progression start'.toInt stop'.toInt step'.toInt ⊆ {start.toInt})) := by
  have written := untilFalse_ok (b := rangeIteratorInit start stop step) nonzero ended
  have written' := untilFalse_ok (b := rangeIteratorInit start' stop' step') nonzero' ended'
  have same := written.symm.trans written'
  have sizes : rounds (rangeIteratorInit start stop step) =
      rounds (rangeIteratorInit start' stop' step') := by
    have lengths := congrArg List.length same
    simpa only [List.length_map, List.length_range, Nat.add_right_cancel_iff] using lengths
  have starts : start = start' := by
    have heads := congrArg List.head? same
    simp only [List.range_succ_eq_map, List.map_cons, List.head?_cons, term_zero, Option.some.injEq,
      Prod.mk.injEq] at heads
    exact Int64.toInt_inj.mp heads.1
  refine ⟨starts, ?_⟩
  subst starts
  by_cases few : rounds (rangeIteratorInit start stop step) = 0
  · right
    have below := progression_subset (toInt_ne_zero nonzero) few
    have below' := progression_subset (toInt_ne_zero nonzero') (sizes ▸ few)
    exact ⟨outputs_single written few, below, below'⟩
  · left
    have first := progression_eq_written nonzero written few
    have second := progression_eq_written nonzero' written' (sizes ▸ few)
    exact ⟨first, second.trans first.symm⟩

/-- The ends 5 and 6 give one range with the step 2. -/
theorem rangeIterator_determines_even : progression 0 6 2 = progression 0 5 2 := by
  have both := @rangeIterator_determines 0 5 2 0 6 2 [(0, true), (2, true), (4, false)] ⟨6, 5, 2⟩ ⟨6, 6, 2⟩
    3 3 (by decide) (by decide) (by decide) (by decide)
  rcases both.2 with ⟨_, same⟩ | ⟨short, _⟩
  · exact same
  · cases short

/-- An empty range and a range of one element write the same value with the same flag. -/
theorem rangeIterator_confuses :
    untilFalse rangeIterator 1 (rangeIteratorInit 0 0 1) = .ok ([(0, false)], ⟨1, 0, 1⟩) ∧
      untilFalse rangeIterator 1 (rangeIteratorInit 0 1 1) = .ok ([(0, false)], ⟨1, 1, 1⟩) ∧
      0 ∉ progression 0 0 1 ∧ 0 ∈ progression 0 1 1 := by
  refine ⟨by decide, by decide, ?_, 0, rfl, by decide⟩
  intro member
  obtain ⟨index, _, before⟩ := member
  exact absurd before (by decide)

end TwoRanges

end Xstd.Iter
