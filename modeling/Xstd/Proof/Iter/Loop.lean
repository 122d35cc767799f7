import Xstd.Construction.Iter
import Xstd.Library.Progression

/-
This file proves what a `RangeIterator` writes and returns until its first `false`.
-/

namespace Xstd.Iter

open Library

theorem addIntmax_exact {left right : IntmaxT} (fits : InIntmax (left.toInt + right.toInt)) :
    ∃ sum, addIntmax left right = .ok sum ∧ sum.toInt = left.toInt + right.toInt := by
  refine ⟨left + right, if_pos fits, ?_⟩
  rw [Int64.toInt_add]
  apply Int.bmod_eq_of_le
  · have below := fits.1
    norm_num at below ⊢
    exact below
  · have above := fits.2
    norm_num at above ⊢
    omega

theorem addIntmax_overflow {left right : IntmaxT} (wraps : ¬InIntmax (left.toInt + right.toInt)) :
    addIntmax left right = .error .signedOverflow := if_neg wraps

theorem inIntmax_toInt (value : IntmaxT) : InIntmax value.toInt := ⟨value.le_toInt, value.toInt_lt⟩

theorem toInt_ne_zero {value : IntmaxT} (nonzero : value ≠ 0) : value.toInt ≠ 0 := by
  intro zero
  exact nonzero (Int64.toInt_inj.mp zero)

/-- The flag says that the advanced value is still before the end. -/
theorem flag_eq (step stop value : IntmaxT) (nonzero : step ≠ 0) :
    (!((step > 0 && value ≥ stop) || (step < 0 && value ≤ stop))) =
      decide (StrictlyBefore step.toInt stop.toInt value.toInt) := by
  have different := toInt_ne_zero nonzero
  rw [Bool.eq_iff_iff, decide_eq_true_iff]
  simp only [Bool.not_eq_true', Bool.or_eq_false_iff, Bool.and_eq_false_iff, decide_eq_false_iff_not,
    StrictlyBefore, gt_iff_lt, ge_iff_le, Int64.lt_iff_toInt_lt,
    Int64.le_iff_toInt_le, Int64.toInt_zero]
  omega

/-- A call writes the current value, moves on, and returns whether the new value is before the end. -/
theorem iterNext_eq {b : RangeIterator} (nonzero : b.step ≠ 0)
    (fits : InIntmax (b.value.toInt + b.step.toInt)) :
    ∃ value, value.toInt = b.value.toInt + b.step.toInt ∧
      iterNext rangeIterator b =
        .ok ((b.value, decide (StrictlyBefore b.step.toInt b.stop.toInt value.toInt)),
          { b with value := value }) := by
  obtain ⟨value, added, exact⟩ := addIntmax_exact fits
  refine ⟨value, exact, ?_⟩
  simp only [iterNext, rangeIterator, rangeIteratorNext, added]
  rw [flag_eq b.step b.stop value nonzero]

theorem iterNext_overflow {b : RangeIterator} (wraps : ¬InIntmax (b.value.toInt + b.step.toInt)) :
    iterNext rangeIterator b = .error .signedOverflow := by
  simp only [iterNext, rangeIterator, rangeIteratorNext, addIntmax_overflow wraps]

section Consumer

variable {S A : Type} {iter : Iterator S A} {impl final : S} {fuel : ℕ}

theorem untilFalse_stop {value : A} (called : iterNext iter impl = .ok ((value, false), final)) :
    untilFalse iter (fuel + 1) impl = .ok ([(value, false)], final) := by
  simp only [untilFalse, called]

theorem untilFalse_more {value : A} {next : S} (called : iterNext iter impl = .ok ((value, true), next)) :
    untilFalse iter (fuel + 1) impl =
      (untilFalse iter fuel next).map fun result => ((value, true) :: result.1, result.2) := by
  simp only [untilFalse, called]
  cases untilFalse iter fuel next <;> rfl

theorem untilFalse_fault {fault : IterFault} (called : iterNext iter impl = .error fault) :
    untilFalse iter (fuel + 1) impl = .error fault := by
  simp only [untilFalse, called]

/-- More fuel changes nothing once the loop has ended. -/
theorem untilFalse_stable (more : ℕ) (ended : untilFalse iter fuel impl ≠ .error .outOfFuel) :
    untilFalse iter (fuel + more) impl = untilFalse iter fuel impl := by
  induction fuel generalizing impl with
  | zero => exact absurd rfl ended
  | succ fuel ih =>
      rw [Nat.add_right_comm]
      cases called : iterNext iter impl with
      | error fault => rw [untilFalse_fault called, untilFalse_fault called]
      | ok result =>
          obtain ⟨⟨value, flag⟩, next⟩ := result
          cases flag with
          | false => rw [untilFalse_stop called, untilFalse_stop called]
          | true =>
              rw [untilFalse_more called] at ended ⊢
              rw [untilFalse_more called, ih]
              intro starved
              rw [starved] at ended
              exact ended rfl

end Consumer

variable {b : RangeIterator}

/-- While the values stay before the end, each call passes on the next term. -/
theorem untilFalse_skip (nonzero : b.step ≠ 0) (count : ℕ)
    (inner : ∀ index < count, InIntmax (term b.value.toInt b.step.toInt (index + 1)) ∧
      StrictlyBefore b.step.toInt b.stop.toInt (term b.value.toInt b.step.toInt (index + 1))) :
    ∃ front value, value.toInt = term b.value.toInt b.step.toInt count ∧
      front.map (fun output => (output.1.toInt, output.2)) =
        (List.range count).map (fun index => (term b.value.toInt b.step.toInt index, true)) ∧
      ∀ fuel, untilFalse rangeIterator (fuel + count) b =
        (untilFalse rangeIterator fuel { b with value := value }).map
          fun result => (front ++ result.1, result.2) := by
  induction count generalizing b with
  | zero =>
      refine ⟨[], b.value, (term_zero _ _).symm, rfl, fun fuel => ?_⟩
      rw [Nat.add_zero]
      cases untilFalse rangeIterator fuel b <;> rfl
  | succ count ih =>
      obtain ⟨fits, before⟩ := inner 0 (Nat.succ_pos count)
      rw [term_succ, term_zero] at fits before
      obtain ⟨moved, exact, called⟩ := iterNext_eq nonzero fits
      rw [exact, decide_eq_true before] at called
      have shifted : ∀ index, term moved.toInt b.step.toInt index =
          term b.value.toInt b.step.toInt (index + 1) := by
        intro index
        rw [exact, term_shift]
      obtain ⟨front, value, reached, written, later⟩ := ih (b := { b with value := moved }) nonzero
        (fun index inside => by
          simp only [shifted]
          exact inner (index + 1) (Nat.succ_lt_succ inside))
      refine ⟨(b.value, true) :: front, value, reached.trans (shifted count), ?_, fun fuel => ?_⟩
      · rw [List.map_cons, written, List.range_succ_eq_map, List.map_cons, List.map_map, term_zero]
        simp only [shifted, Function.comp_def, Nat.succ_eq_add_one]
      · rw [← Nat.add_assoc, untilFalse_more called, later]
        cases untilFalse rangeIterator fuel { b with value := value } <;> rfl

/-- A term before the end needs no check, as both ends are values of the type. -/
theorem inIntmax_inner {index : ℕ}
    (before : StrictlyBefore b.step.toInt b.stop.toInt (term b.value.toInt b.step.toInt index)) :
    InIntmax (term b.value.toInt b.step.toInt index) := by
  obtain ⟨above, below⟩ := before.between
  have start := inIntmax_toInt b.value
  have stop := inIntmax_toInt b.stop
  exact ⟨le_trans (le_min start.1 stop.1) above, lt_of_le_of_lt below (max_lt start.2 stop.2)⟩

/-- So many calls return `true`. -/
def rounds (b : RangeIterator) : ℕ := stepsBefore b.value.toInt b.stop.toInt b.step.toInt

theorem strictlyBefore_iff_rounds (nonzero : b.step ≠ 0) (index : ℕ) :
    StrictlyBefore b.step.toInt b.stop.toInt (term b.value.toInt b.step.toInt (index + 1)) ↔
      index < rounds b := strictlyBefore_succ_iff (toInt_ne_zero nonzero) index

/-- The calls that return `true` leave one call to make. -/
theorem untilFalse_rounds (nonzero : b.step ≠ 0) :
    ∃ front value, value.toInt = term b.value.toInt b.step.toInt (rounds b) ∧
      front.map (fun output => (output.1.toInt, output.2)) =
        (List.range (rounds b)).map (fun index => (term b.value.toInt b.step.toInt index, true)) ∧
      ∀ fuel, untilFalse rangeIterator (fuel + rounds b) b =
        (untilFalse rangeIterator fuel { b with value := value }).map
          fun result => (front ++ result.1, result.2) := by
  apply untilFalse_skip nonzero
  intro index inside
  have before := (strictlyBefore_iff_rounds nonzero index).mpr inside
  exact ⟨inIntmax_inner before, before⟩

/-- The last call writes the next term and returns `false`. -/
theorem untilFalse_ends (nonzero : b.step ≠ 0)
    (fits : InIntmax (term b.value.toInt b.step.toInt (rounds b + 1))) :
    ∃ outputs value, value.toInt = term b.value.toInt b.step.toInt (rounds b + 1) ∧
      outputs.map (fun output => (output.1.toInt, output.2)) =
        (List.range (rounds b + 1)).map
          (fun index => (term b.value.toInt b.step.toInt index, decide (index < rounds b))) ∧
      ∀ fuel, untilFalse rangeIterator (fuel + (rounds b + 1)) b =
        .ok (outputs, { b with value := value }) := by
  obtain ⟨front, value, reached, written, skipped⟩ := untilFalse_rounds nonzero
  have last : InIntmax (value.toInt + b.step.toInt) := by
    rw [reached, ← term_succ]
    exact fits
  obtain ⟨moved, exact, called⟩ := iterNext_eq (b := { b with value := value }) nonzero last
  have behind : ¬StrictlyBefore b.step.toInt b.stop.toInt moved.toInt := by
    rw [exact, reached, ← term_succ, strictlyBefore_iff_rounds nonzero]
    exact lt_irrefl (rounds b)
  rw [decide_eq_false behind] at called
  refine ⟨front ++ [(value, false)], moved, ?_, ?_, fun fuel => ?_⟩
  · rw [exact, reached, term_succ]
  · have inner : (List.range (rounds b)).map (fun index =>
        (term b.value.toInt b.step.toInt index, decide (index < rounds b))) =
        (List.range (rounds b)).map (fun index => (term b.value.toInt b.step.toInt index, true)) := by
      apply List.map_congr_left
      intro index member
      rw [decide_eq_true (List.mem_range.mp member)]
    rw [List.range_succ, List.map_append, List.map_append, written, inner]
    simp only [List.map_cons, List.map_nil, reached, lt_irrefl, decide_false]
  · rw [Nat.add_comm (rounds b) 1, ← Nat.add_assoc, skipped, untilFalse_stop called]
    rfl

/-- The addition of the last call overflows when the term behind the end does not fit. -/
theorem untilFalse_overflows (nonzero : b.step ≠ 0)
    (wraps : ¬InIntmax (term b.value.toInt b.step.toInt (rounds b + 1))) (fuel : ℕ) :
    untilFalse rangeIterator (fuel + (rounds b + 1)) b = .error .signedOverflow := by
  obtain ⟨front, value, reached, written, skipped⟩ := untilFalse_rounds nonzero
  have last : ¬InIntmax (value.toInt + b.step.toInt) := by
    rw [reached, ← term_succ]
    exact wraps
  rw [Nat.add_comm (rounds b) 1, ← Nat.add_assoc, skipped,
    untilFalse_fault (iterNext_overflow (b := { b with value := value }) last)]
  rfl

/-- The loop never overflows exactly when the first term that is not before the end fits. -/
theorem untilFalse_safe_iff (nonzero : b.step ≠ 0) :
    (∀ fuel, untilFalse rangeIterator fuel b ≠ .error .signedOverflow) ↔
      InIntmax (term b.value.toInt b.step.toInt (rounds b + 1)) := by
  constructor
  · intro safe
    by_contra wraps
    exact safe (0 + (rounds b + 1)) (untilFalse_overflows nonzero wraps 0)
  · intro fits fuel overflowed
    obtain ⟨outputs, value, _, _, ended⟩ := untilFalse_ends nonzero fits
    have overflows : untilFalse rangeIterator fuel b ≠ .error .outOfFuel := by
      rw [overflowed]
      exact fun same => by cases same
    have stable := untilFalse_stable (rounds b + 1) overflows
    rw [ended, overflowed] at stable
    cases stable

/-- A call on a value that is not before the end returns `false` and leaves such a value. -/
theorem iterNext_behind {next : RangeIterator} {answer : IntmaxT × Bool} (nonzero : b.step ≠ 0)
    (behind : ¬StrictlyBefore b.step.toInt b.stop.toInt b.value.toInt)
    (called : iterNext rangeIterator b = .ok (answer, next)) :
    answer.2 = false ∧ next.step = b.step ∧
      ¬StrictlyBefore next.step.toInt next.stop.toInt next.value.toInt := by
  by_cases fits : InIntmax (b.value.toInt + b.step.toInt)
  · obtain ⟨value, exact, same⟩ := iterNext_eq nonzero fits
    have later : ¬StrictlyBefore b.step.toInt b.stop.toInt value.toInt := by
      intro before
      rw [exact] at before
      exact behind before.of_step
    rw [same, decide_eq_false later] at called
    cases called
    exact ⟨rfl, rfl, later⟩
  · rw [iterNext_overflow fits] at called
    cases called

/-- Once the value is not before the end, every call that returns does so with `false`. -/
theorem calls_behind {inputs : List Unit} {answers : List (IntmaxT × Bool)} {final : RangeIterator}
    (nonzero : b.step ≠ 0) (behind : ¬StrictlyBefore b.step.toInt b.stop.toInt b.value.toInt)
    (ran : (calls rangeIterator).run b inputs = .ok (answers, final)) :
    ∀ answer ∈ answers, answer.2 = false := by
  induction inputs generalizing b answers with
  | nil =>
      cases ran
      exact List.forall_mem_nil _
  | cons input rest ih =>
      obtain ⟨answer, next, later, called, tail, split⟩ := Machine.run_cons_inv ran
      obtain ⟨quiet, same, kept⟩ := iterNext_behind nonzero behind called
      rw [split]
      exact List.forall_mem_cons.mpr ⟨quiet, ih (same ▸ nonzero) kept tail⟩

/-- The loop body sees the terms whose calls return `true`. -/
theorem visited_eq {outputs : List (IntmaxT × Bool)} {count : ℕ} {value : ℕ → ℤ}
    (written : outputs.map (fun output => (output.1.toInt, output.2)) =
      (List.range (count + 1)).map (fun index => (value index, decide (index < count)))) :
    (visited outputs).map Int64.toInt = (List.range count).map value := by
  have read : (visited outputs).map Int64.toInt =
      ((outputs.map fun output => (output.1.toInt, output.2)).filter Prod.snd).map Prod.fst := by
    simp only [visited, List.filter_map, List.map_map, Function.comp_def]
  have inner : (List.range count).filter (fun index => decide (index < count)) = List.range count := by
    apply List.filter_eq_self.mpr
    intro index member
    exact decide_eq_true (List.mem_range.mp member)
  rw [read, written, List.filter_map, List.map_map, List.range_succ, List.filter_append]
  simp only [Function.comp_def, inner, List.filter_cons, List.filter_nil, lt_irrefl, decide_false,
    Bool.false_eq_true, if_false, List.append_nil]

end Xstd.Iter
