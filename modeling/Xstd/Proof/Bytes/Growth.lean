import Xstd.Construction.Bytes.Buffer
import Xstd.Library.Words

/-
This file proves that the growth loop of `bytes_buffer_append_bytes` makes room.
-/

namespace Xstd.Bytes

open Library

theorem available_toNat {buffer : BytesBuffer} (order : buffer.len ≤ buffer.cap) :
    (bytesBufferAvailable buffer).toNat = buffer.cap.toNat - buffer.len.toNat :=
  UInt64.toNat_sub_of_le _ _ order

/-- The loop test compares without wrapping. -/
theorem available_lt_iff {buffer : BytesBuffer} (order : buffer.len ≤ buffer.cap) (size : SizeT) :
    bytesBufferAvailable buffer < size ↔ buffer.cap.toNat < buffer.len.toNat + size.toNat := by
  have ordered := UInt64.le_iff_toNat_le.mp order
  rw [UInt64.lt_iff_toNat_lt, available_toNat order]
  omega

theorem growCapacity_stop {size : SizeT} {buffer : BytesBuffer}
    (enough : ¬bytesBufferAvailable buffer < size) (fuel : ℕ) :
    growCapacity size fuel buffer = .ok buffer := by
  unfold growCapacity
  rw [if_neg enough]

theorem growCapacity_step {size : SizeT} {buffer : BytesBuffer}
    (short : bytesBufferAvailable buffer < size) (fuel : ℕ) :
    growCapacity size (fuel + 1) buffer =
      growCapacity size fuel { buffer with cap := if buffer.cap = 0 then 1 else buffer.cap * 2 } := by
  simp only [growCapacity, if_pos short]

/-- The loop only raises the capacity, and it makes room for `size` more bytes. -/
def Grown (size : SizeT) (buffer : BytesBuffer) (loop : Exec BytesBuffer) : Prop :=
  ∃ cap, loop = .ok { buffer with cap := cap } ∧ buffer.cap ≤ cap ∧
    buffer.len.toNat + size.toNat ≤ cap.toNat

theorem grown_of_enough {size : SizeT} {buffer : BytesBuffer} (order : buffer.len ≤ buffer.cap)
    (enough : ¬bytesBufferAvailable buffer < size) (fuel : ℕ) :
    Grown size buffer (growCapacity size fuel buffer) := by
  refine ⟨buffer.cap, growCapacity_stop enough fuel, UInt64.le_rfl, ?_⟩
  rw [available_lt_iff order] at enough
  exact Nat.not_lt.mp enough

theorem Grown.raise {size cap : SizeT} {buffer : BytesBuffer} {loop : Exec BytesBuffer}
    (larger : buffer.cap ≤ cap) (grown : Grown size { buffer with cap := cap } loop) :
    Grown size buffer loop := by
  obtain ⟨final, grows, above, room⟩ := grown
  exact ⟨final, grows, UInt64.le_trans larger above, room⟩

/-- Doubling a nonzero capacity reaches a sum of at most `2^63`. -/
theorem growCapacity_doubles {size : SizeT} {fuel : ℕ} {buffer : BytesBuffer}
    (order : buffer.len ≤ buffer.cap) (nonempty : buffer.cap ≠ 0)
    (small : buffer.len.toNat + size.toNat ≤ 2 ^ 63)
    (enough : buffer.len.toNat + size.toNat ≤ buffer.cap.toNat * 2 ^ fuel) :
    Grown size buffer (growCapacity size fuel buffer) := by
  induction fuel generalizing buffer with
  | zero =>
      apply grown_of_enough order
      rw [available_lt_iff order]
      omega
  | succ fuel ih =>
      rcases Classical.em (bytesBufferAvailable buffer < size) with short | stop
      · have less := (available_lt_iff order size).mp short
        have positive := (toNat_pos_iff _).mpr nonempty
        have doubled : (buffer.cap * 2).toNat = buffer.cap.toNat * 2 := by
          apply toNat_mul_of_lt
          change buffer.cap.toNat * 2 < 2 ^ 64
          omega
        have larger : buffer.cap ≤ buffer.cap * 2 := by
          rw [UInt64.le_iff_toNat_le]
          omega
        rw [growCapacity_step short, if_neg nonempty]
        apply Grown.raise larger
        apply ih
        · exact UInt64.le_trans order larger
        · apply (toNat_pos_iff _).mp
          change 0 < (buffer.cap * 2).toNat
          omega
        · exact small
        · change _ ≤ (buffer.cap * 2).toNat * 2 ^ fuel
          rw [doubled, Nat.mul_assoc, ← Nat.pow_succ']
          exact enough
      · exact grown_of_enough order stop _

/-- After 64 rounds at most the loop has made room for a sum of at most `2^63`. -/
theorem growCapacity_grows {size : SizeT} {fuel : ℕ} {buffer : BytesBuffer}
    (order : buffer.len ≤ buffer.cap) (small : buffer.len.toNat + size.toNat ≤ 2 ^ 63)
    (rounds : 64 ≤ fuel) : Grown size buffer (growCapacity size fuel buffer) := by
  rcases Classical.em (bytesBufferAvailable buffer < size) with short | stop
  · obtain ⟨less, rfl⟩ : ∃ less, fuel = less + 1 := ⟨fuel - 1, by omega⟩
    have powers : 2 ^ 63 ≤ 2 ^ less := Nat.pow_le_pow_right (by decide) (by omega)
    rcases Classical.em (buffer.cap = 0) with empty | nonempty
    · rw [growCapacity_step short, if_pos empty]
      rw [empty] at order
      apply Grown.raise (empty ▸ UInt64.zero_le)
      apply growCapacity_doubles
      · exact UInt64.le_trans order UInt64.zero_le
      · change (1 : SizeT) ≠ 0
        decide
      · exact small
      · change buffer.len.toNat + size.toNat ≤ 1 * 2 ^ less
        omega
    · have positive := (toNat_pos_iff _).mpr nonempty
      apply growCapacity_doubles order nonempty small
      calc buffer.len.toNat + size.toNat ≤ 2 ^ 63 := small
        _ ≤ 2 ^ (less + 1) := powers.trans (Nat.pow_le_pow_right (by decide) (by omega))
        _ ≤ buffer.cap.toNat * 2 ^ (less + 1) := Nat.le_mul_of_pos_left _ positive
  · exact grown_of_enough order stop fuel

end Xstd.Bytes
