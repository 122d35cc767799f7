import Xstd.Proof.Bytes.Chunks

/-
This file proves for which sizes the growth loop of `bytes_buffer_append_bytes` ends with enough room.
-/

namespace Xstd.Bytes

open Library

variable {S : Type} {allocator : Allocator S} {size : SizeT} {buffer : BytesBuffer}

/-- The capacity after so many rounds. -/
def capAfter (buffer : BytesBuffer) (count : ℕ) : ℕ := (growStep^[count] buffer).cap.toNat

theorem capAfter_zero (buffer : BytesBuffer) : capAfter buffer 0 = buffer.cap.toNat := rfl

theorem capAfter_succ (buffer : BytesBuffer) (count : ℕ) :
    capAfter buffer (count + 1) =
      if capAfter buffer count = 0 then 1 else capAfter buffer count * 2 % 2 ^ 64 := by
  unfold capAfter
  rw [Function.iterate_succ_apply', growStep]
  by_cases empty : (growStep^[count] buffer).cap = 0
  · rw [if_pos empty, if_pos ((toNat_eq_zero_iff _).mpr empty)]
    rfl
  · rw [if_neg empty, if_neg (mt (toNat_eq_zero_iff _).mp empty)]
    exact UInt64.toNat_mul _ _

/-- The capacity shifted to the left in a `size_t`. -/
def shifted (cap : SizeT) (count : ℕ) : ℕ := cap.toNat * 2 ^ count % 2 ^ 64

/-- A shifted capacity stays 0. -/
theorem shifted_zero {cap : SizeT} {earlier count : ℕ} (empty : shifted cap earlier = 0)
    (order : earlier ≤ count) : shifted cap count = 0 := by
  obtain ⟨rest, rfl⟩ := Nat.exists_eq_add_of_le order
  unfold shifted at empty ⊢
  rw [pow_add, ← Nat.mul_assoc, ← Nat.mod_mul_mod, empty, Nat.zero_mul, Nat.zero_mod]

theorem shifted_all {cap : SizeT} {count : ℕ} (all : 64 ≤ count) : shifted cap count = 0 := by
  apply shifted_zero _ all
  exact Nat.mul_mod_left _ _

/-- The rounds shift the capacity, until it wraps to 0. -/
theorem capAfter_shifts (buffer : BytesBuffer) (count : ℕ) :
    capAfter buffer count = shifted buffer.cap count ∨
      ∃ earlier < count, capAfter buffer earlier = 0 ∧ shifted buffer.cap earlier = 0 := by
  induction count with
  | zero =>
      left
      rw [capAfter_zero, shifted, Nat.pow_zero, Nat.mul_one, Nat.mod_eq_of_lt buffer.cap.toNat_lt]
  | succ count ih =>
      rcases ih with same | ⟨earlier, before, empty⟩
      · by_cases empty : capAfter buffer count = 0
        · exact Or.inr ⟨count, Nat.lt_succ_self count, empty, same ▸ empty⟩
        · left
          rw [capAfter_succ, if_neg empty, same, shifted, shifted, Nat.mod_mul_mod, Nat.mul_assoc,
            ← pow_succ]
      · exact Or.inr ⟨earlier, Nat.lt_succ_of_lt before, empty⟩

/-- From 0 on every capacity is 0 or a power of two. -/
theorem capAfter_restarts {count : ℕ} (empty : capAfter buffer count = 0) (later : ℕ) :
    capAfter buffer (count + later) ≤ 2 ^ 63 := by
  have powers : capAfter buffer (count + later) = 0 ∨
      ∃ power ≤ 63, capAfter buffer (count + later) = 2 ^ power := by
    induction later with
    | zero => exact Or.inl empty
    | succ later ih =>
        rw [← Nat.add_assoc, capAfter_succ]
        rcases ih with zero | ⟨power, bound, same⟩
        · rw [if_pos zero]
          exact Or.inr ⟨0, Nat.zero_le _, rfl⟩
        · rw [same, if_neg (by positivity), ← Nat.pow_succ]
          rcases Nat.lt_or_ge power 63 with less | top
          · right
            refine ⟨power + 1, less, Nat.mod_eq_of_lt ?_⟩
            exact Nat.pow_lt_pow_right Nat.one_lt_two (Nat.succ_lt_succ less)
          · obtain rfl := Nat.le_antisymm bound top
            exact Or.inl (Nat.mod_self _)
  rcases powers with zero | ⟨power, bound, same⟩
  · rw [zero]
    exact Nat.zero_le _
  · rw [same]
    exact Nat.pow_le_pow_right Nat.two_pos bound

/-- The loop test compares with a wrapped difference once the capacity is below the length. -/
theorem roomy_iff (size : SizeT) (buffer : BytesBuffer) :
    Roomy size buffer ↔ buffer.len.toNat + size.toNat ≤ buffer.cap.toNat ∨
      buffer.cap.toNat < buffer.len.toNat ∧
        buffer.len.toNat + size.toNat ≤ buffer.cap.toNat + 2 ^ 64 := by
  have len := buffer.len.toNat_lt
  have cap := buffer.cap.toNat_lt
  rw [Roomy, bytesBufferAvailable, UInt64.lt_iff_toNat_lt, UInt64.toNat_sub]
  omega

theorem roomy_iterate_iff (size : SizeT) (buffer : BytesBuffer) (count : ℕ) :
    Roomy size (growStep^[count] buffer) ↔
      buffer.len.toNat + size.toNat ≤ capAfter buffer count ∨
      capAfter buffer count < buffer.len.toNat ∧
        buffer.len.toNat + size.toNat ≤ capAfter buffer count + 2 ^ 64 := by
  rw [roomy_iff, growStep_iterate_len]
  rfl

/-- For a sum above `2^63` the loop leaves with enough room when a shifted capacity reaches the sum before
one falls below the length. -/
theorem exits_with_room_iff (large : 2 ^ 63 < buffer.len.toNat + size.toNat) :
    (∃ count, ExitsAfter growStep (Roomy size) buffer count ∧
      buffer.len.toNat + size.toNat ≤ capAfter buffer count) ↔
    ∃ count < 64, buffer.len.toNat + size.toNat ≤ shifted buffer.cap count ∧
      ∀ earlier < count, buffer.len.toNat ≤ shifted buffer.cap earlier := by
  constructor
  · rintro ⟨count, exits, room⟩
    have shifts : ∀ earlier ≤ count, capAfter buffer earlier = shifted buffer.cap earlier := by
      intro earlier order
      rcases capAfter_shifts buffer earlier with same | ⟨wrapped, before, empty, _⟩
      · exact same
      · obtain ⟨later, rfl⟩ := Nat.exists_eq_add_of_le (before.le.trans order)
        have restarted := capAfter_restarts empty later
        omega
    refine ⟨count, ?_, shifts count (Nat.le_refl _) ▸ room, fun earlier before => ?_⟩
    · by_contra all
      rw [shifts count (Nat.le_refl _), shifted_all (Nat.not_lt.mp all)] at room
      omega
    · have busy := mt (roomy_iterate_iff size buffer earlier).mpr (exits.busy earlier before)
      have bound := (growStep^[count] buffer).cap.toNat_lt
      rw [← shifts earlier before.le]
      change capAfter buffer count < 2 ^ 64 at bound
      omega
  · rintro ⟨count, _, room, above⟩
    have shifts : ∀ earlier ≤ count, capAfter buffer earlier = shifted buffer.cap earlier := by
      intro earlier order
      rcases capAfter_shifts buffer earlier with same | ⟨wrapped, before, _, empty⟩
      · exact same
      · rw [shifted_zero empty (before.le.trans order)] at room
        omega
    obtain ⟨first, order, exits⟩ := ExitsAfter.of_reached
      ((roomy_iterate_iff size buffer count).mpr (Or.inl (shifts count (Nat.le_refl _) ▸ room)))
    refine ⟨first, exits, ?_⟩
    rcases (roomy_iterate_iff size buffer first).mp exits.reached with enough | ⟨below, _⟩
    · exact enough
    · rcases Nat.lt_or_eq_of_le order with before | rfl
      · have kept := above first before
        rw [shifts first order] at below
        omega
      · rw [shifts first order]
        exact room

/-- The fuel does not matter to a loop that ends. -/
theorem growCapacity_unique {fuel fuel' : ℕ} {grown grown' : BytesBuffer}
    (grows : growCapacity size fuel buffer = .ok grown)
    (grows' : growCapacity size fuel' buffer = .ok grown') : grown = grown' := by
  obtain ⟨count, _, exits, rfl⟩ := growCapacity_ok_iff.mp grows
  obtain ⟨count', _, exits', rfl⟩ := growCapacity_ok_iff.mp grows'
  rw [exits.unique exits']

/-- The loop ends with room for the data, or the append is refused and leaves the buffer alone. -/
def EndsWithRoom (ndebug : Bool) (allocator : Allocator S) (buffer : BytesBuffer) (heap : Heap S)
    (data : Area) : Prop :=
  ∃ fuel, (∃ grown, growCapacity data.size fuel buffer = .ok grown ∧
      buffer.len.toNat + data.size.toNat ≤ grown.cap.toNat) ∨
    ∃ result, bytesBufferAppendBytes fuel ndebug allocator buffer heap data = .ok result ∧
      result.value = 0 ∧ data.size ≠ 0 ∧ result.buffer = buffer

/-- An append that keeps the capacity had room before. -/
theorem room_of_kept {fuel : ℕ} {ndebug : Bool} {heap : Heap S} {data : Area}
    {result : BufferResult S SizeT} (order : buffer.len ≤ buffer.cap)
    (appended : bytesBufferAppendBytes fuel ndebug allocator buffer heap data = .ok result)
    (kept : result.buffer.cap = buffer.cap) :
    ∃ grown, growCapacity data.size fuel buffer = .ok grown ∧
      buffer.len.toNat + data.size.toNat ≤ grown.cap.toNat := by
  obtain ⟨grown, grows, same⟩ := append_grown appended
  refine ⟨grown, grows, ?_⟩
  obtain ⟨count, _, exits, rfl⟩ := growCapacity_ok_iff.mp grows
  have roomy := (roomy_iff _ _).mp exits.reached
  have ordered := UInt64.le_iff_toNat_le.mp order
  rw [growStep_iterate_len, ← same, kept] at roomy
  rw [← same, kept]
  omega

/-- The loop ends with room for a sum of at most `2^63`, and for a larger one exactly when a shifted
capacity reaches the sum before one falls below the length. -/
theorem growth_ends_iff (ndebug : Bool) (allocator : Allocator S) (heap : Heap S) (data : Area)
    (order : buffer.len ≤ buffer.cap) :
    EndsWithRoom ndebug allocator buffer heap data ↔
      buffer.len.toNat + data.size.toNat ≤ 2 ^ 63 ∨
      ∃ count < 64, buffer.len.toNat + data.size.toNat ≤ shifted buffer.cap count ∧
        ∀ earlier < count, buffer.len.toNat ≤ shifted buffer.cap earlier := by
  have loops : EndsWithRoom ndebug allocator buffer heap data ↔
      ∃ fuel grown, growCapacity data.size fuel buffer = .ok grown ∧
        buffer.len.toNat + data.size.toNat ≤ grown.cap.toNat := by
    constructor
    · rintro ⟨fuel, ended | ⟨result, appended, _, _, same⟩⟩
      · exact ⟨fuel, ended⟩
      · exact ⟨fuel, room_of_kept order appended (congrArg BytesBuffer.cap same)⟩
    · rintro ⟨fuel, ended⟩
      exact ⟨fuel, Or.inl ended⟩
  rw [loops]
  rcases Nat.lt_or_ge (2 ^ 63) (buffer.len.toNat + data.size.toNat) with large | small
  · rw [or_iff_right (Nat.not_le.mpr large), ← exits_with_room_iff large]
    constructor
    · rintro ⟨fuel, grown, grows, room⟩
      obtain ⟨count, _, exits, rfl⟩ := growCapacity_ok_iff.mp grows
      exact ⟨count, exits, room⟩
    · rintro ⟨count, exits, room⟩
      exact ⟨count, _, growCapacity_ok_iff.mpr ⟨count, Nat.le_refl _, exits, rfl⟩, room⟩
  · apply iff_of_true _ (Or.inl small)
    obtain ⟨cap, grows, _, room⟩ := growCapacity_grows order small (Nat.le_refl 64)
    exact ⟨64, _, grows, room⟩

/-- A buffer of one byte makes room for two more. -/
theorem growth_ends_three : EndsWithRoom false bumpAllocator ⟨16, 1, 1⟩ bumpHeap ⟨2, [2, 3], rfl⟩ :=
  (growth_ends_iff false bumpAllocator bumpHeap ⟨2, [2, 3], rfl⟩ (by decide)).mpr (Or.inl (by decide))

/-- Data that fills half of the address space. -/
def halfData : Area := ⟨9223372036854775808, List.replicate 9223372036854775808 0, List.length_replicate⟩

/-- The loop leaves with the capacity 0 when a buffer of one byte asks for `2^63` more. -/
theorem growth_underflows : growCapacity halfData.size 64 ⟨16, 1, 1⟩ = .ok ⟨16, 1, 0⟩ ∧
    ¬EndsWithRoom false bumpAllocator ⟨16, 1, 1⟩ bumpHeap halfData := by
  have wraps : growCapacity halfData.size 64 ⟨16, 1, 1⟩ = .ok ⟨16, 1, 0⟩ := by decide +kernel
  refine ⟨wraps, ?_⟩
  rintro ⟨fuel, ended⟩
  obtain ⟨grown, grows, room⟩ : ∃ grown, growCapacity halfData.size fuel ⟨16, 1, 1⟩ = .ok grown ∧
      (1 : SizeT).toNat + halfData.size.toNat ≤ grown.cap.toNat := by
    rcases ended with ended | ⟨result, appended, _, _, same⟩
    · exact ended
    · exact room_of_kept (by decide) appended (congrArg BytesBuffer.cap same)
  rw [growCapacity_unique grows wraps] at room
  exact absurd room (by decide)

end Xstd.Bytes
