import Xstd.Library.WhileLoop
import Xstd.Proof.Bytes.Growth

/-
This file proves when the growth loop of `bytes_buffer_append_bytes` leaves, and with which capacity.
-/

namespace Xstd.Bytes

open Library

/-- One round of the loop. -/
def growStep (buffer : BytesBuffer) : BytesBuffer :=
  { buffer with cap := if buffer.cap = 0 then 1 else buffer.cap * 2 }

/-- The loop test fails. -/
def Roomy (size : SizeT) (buffer : BytesBuffer) : Prop := ¬bytesBufferAvailable buffer < size

/-- The loop of the source leaves with the state after its rounds, if the fuel lasts. -/
theorem growCapacity_ok_iff {size : SizeT} {fuel : ℕ} {buffer grown : BytesBuffer} :
    growCapacity size fuel buffer = .ok grown ↔
      ∃ count ≤ fuel, ExitsAfter growStep (Roomy size) buffer count ∧ grown = growStep^[count] buffer := by
  induction fuel generalizing buffer with
  | zero =>
      constructor
      · intro grows
        unfold growCapacity at grows
        split at grows
        · cases grows
        · rename_i enough
          cases grows
          exact ⟨0, Nat.le_refl 0, ExitsAfter.zero enough, rfl⟩
      · rintro ⟨count, bound, exits, rfl⟩
        obtain rfl := Nat.le_zero.mp bound
        exact growCapacity_stop exits.reached 0
  | succ fuel ih =>
      by_cases short : bytesBufferAvailable buffer < size
      · rw [growCapacity_step short]
        refine ih.trans ?_
        constructor
        · rintro ⟨count, bound, exits, same⟩
          refine ⟨count + 1, Nat.succ_le_succ bound, exits.succ fun enough => enough short, ?_⟩
          rw [Function.iterate_succ_apply]
          exact same
        · rintro ⟨count, bound, exits, same⟩
          cases count with
          | zero => exact absurd short exits.reached
          | succ count =>
              rw [Function.iterate_succ_apply] at same
              exact ⟨count, Nat.le_of_succ_le_succ bound, exits.tail, same⟩
      · constructor
        · intro grows
          rw [growCapacity_stop short] at grows
          cases grows
          exact ⟨0, Nat.zero_le _, ExitsAfter.zero short, rfl⟩
        · rintro ⟨count, _, exits, rfl⟩
          obtain rfl := exits.unique (ExitsAfter.zero short)
          exact growCapacity_stop short _

@[simp] theorem growStep_iterate_len (buffer : BytesBuffer) (count : ℕ) :
    (growStep^[count] buffer).len = buffer.len := by
  induction count with
  | zero => rfl
  | succ count ih =>
      rw [Function.iterate_succ_apply']
      exact ih

@[simp] theorem growStep_iterate_bytes (buffer : BytesBuffer) (count : ℕ) :
    (growStep^[count] buffer).bytes = buffer.bytes := by
  induction count with
  | zero => rfl
  | succ count ih =>
      rw [Function.iterate_succ_apply']
      exact ih

/-- A round doubles exactly while the doubled capacity fits. -/
theorem growStep_cap {buffer : BytesBuffer} (small : buffer.cap.toNat < 2 ^ 63) :
    (growStep buffer).cap.toNat = doubled buffer.cap.toNat := by
  unfold growStep doubled
  by_cases empty : buffer.cap = 0
  · rw [if_pos empty, if_pos ((toNat_eq_zero_iff _).mpr empty)]
    rfl
  · rw [if_neg empty, if_neg (mt (toNat_eq_zero_iff _).mp empty)]
    apply toNat_mul_of_lt
    change buffer.cap.toNat * 2 < 2 ^ 64
    omega

variable {size : SizeT} {fuel : ℕ} {buffer grown : BytesBuffer}

/-- For a sum of at most `2^63` the loop doubles the capacity until it reaches the sum. -/
theorem growCapacity_exits (order : buffer.len ≤ buffer.cap)
    (small : buffer.len.toNat + size.toNat ≤ 2 ^ 63) (grows : growCapacity size fuel buffer = .ok grown) :
    ∃ count, ExitsAfter doubled (buffer.len.toNat + size.toNat ≤ ·) buffer.cap.toNat count ∧
      grown.cap.toNat = doubled^[count] buffer.cap.toNat := by
  obtain ⟨count, _, exits, rfl⟩ := growCapacity_ok_iff.mp grows
  let invariant := fun state : BytesBuffer => state.len = buffer.len ∧ state.len ≤ state.cap
  have same : ∀ state, invariant state →
      (Roomy size state ↔ buffer.len.toNat + size.toNat ≤ state.cap.toNat) := by
    intro state ⟨kept, ordered⟩
    rw [Roomy, available_lt_iff ordered, kept, Nat.not_lt]
  have follows : ∀ state, invariant state → ¬Roomy size state →
      (growStep state).cap.toNat = doubled state.cap.toNat ∧ invariant (growStep state) := by
    intro state holds working
    have short := Nat.not_le.mp (mt (same state holds).mpr working)
    have moved : (growStep state).cap.toNat = doubled state.cap.toNat := growStep_cap (by omega)
    refine ⟨moved, holds.1, UInt64.le_trans holds.2 ?_⟩
    rw [UInt64.le_iff_toNat_le, moved, doubled]
    split <;> omega
  obtain ⟨exits', reached, _⟩ := exits.simulates (fun state => state.cap.toNat) same follows
    ⟨rfl, order⟩
  exact ⟨count, exits', reached⟩

end Xstd.Bytes
