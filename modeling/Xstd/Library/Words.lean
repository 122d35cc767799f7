import Mathlib.Tactic

/-
This file proves how the operations of 64-bit words act on their values.
-/

namespace Xstd.Library

theorem toNat_eq_zero_iff (value : UInt64) : value.toNat = 0 ↔ value = 0 := by
  rw [← UInt64.toNat_inj]
  rfl

theorem toNat_pos_iff (value : UInt64) : 0 < value.toNat ↔ value ≠ 0 := by
  rw [Nat.pos_iff_ne_zero]
  exact not_congr (toNat_eq_zero_iff value)

theorem toNat_smaller (first second : UInt64) :
    (if first < second then first else second).toNat = min first.toNat second.toNat := by
  split
  · rename_i less
    rw [UInt64.lt_iff_toNat_lt] at less
    omega
  · rename_i more
    rw [UInt64.lt_iff_toNat_lt] at more
    omega

/-- A sum below the word size does not wrap. -/
theorem toNat_add_of_lt {left right : UInt64} (small : left.toNat + right.toNat < 2 ^ 64) :
    (left + right).toNat = left.toNat + right.toNat := by
  rw [UInt64.toNat_add]
  omega

/-- A product below the word size does not wrap. -/
theorem toNat_mul_of_lt {left right : UInt64} (small : left.toNat * right.toNat < 2 ^ 64) :
    (left * right).toNat = left.toNat * right.toNat := by
  rw [UInt64.toNat_mul]
  omega

/-- A count below some word is the value of its own word. -/
theorem toNat_ofNat_of_le {count : ℕ} {bound : UInt64} (small : count ≤ bound.toNat) :
    (UInt64.ofNat count).toNat = count :=
  UInt64.toNat_ofNat_of_lt' (Nat.lt_of_le_of_lt small bound.toNat_lt)

theorem ofNat_le_of_le {count : ℕ} {bound : UInt64} (small : count ≤ bound.toNat) :
    UInt64.ofNat count ≤ bound := by
  rw [UInt64.le_iff_toNat_le, toNat_ofNat_of_le small]
  exact small

end Xstd.Library
