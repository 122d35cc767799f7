import Xstd.Construction.Io.Reader
import Xstd.Library.Words

/-
This file relates one call of a reader to the bytes and the code that its caller takes.
-/

namespace Xstd.Io

open Library

variable {S : Type}

theorem NonemptyRequest.positive (request : NonemptyRequest) : 0 < request.pLen.toNat :=
  (toNat_pos_iff request.pLen).mpr request.nonempty

/-- An array that a nonempty request fits into has room. -/
theorem NonemptyRequest.room_of_le (request : NonemptyRequest) {length : SizeT}
    (small : request.pLen ≤ length) : length ≠ 0 := by
  intro zero
  rw [zero] at small
  exact request.nonempty (UInt64.le_antisymm small UInt64.zero_le)

theorem pull_of_ok {reader : Reader S} {impl : S} {request : Request} {result : ReadResult S}
    (called : readerRead reader impl request.p request.pLen (some 0) (some 0) = .ok result)
    (stored : result.n.getD 0 ≤ request.pLen) (sized : result.p.length = request.p.length) :
    pull reader impl request =
      .ok ((result.p.take (result.n.getD 0).toNat, result.err.getD 0), result.impl) := by
  simp only [pull, called]
  rw [if_pos ⟨stored, sized⟩]

/-- An accepted call keeps the contract of `Reader`. -/
theorem pull_inv {reader : Reader S} {impl next : S} {request : Request} {chunk : List UInt8}
    {code : Int} (pulled : pull reader impl request = .ok ((chunk, code), next)) :
    ∃ result, readerRead reader impl request.p request.pLen (some 0) (some 0) = .ok result ∧
      result.n.getD 0 ≤ request.pLen ∧ result.p.length = request.p.length ∧
      result.p.take (result.n.getD 0).toNat = chunk ∧ result.err.getD 0 = code ∧
      result.impl = next := by
  simp only [pull] at pulled
  split at pulled
  · cases pulled
  · rename_i result called
    split at pulled
    · rename_i contract
      simp only [Except.ok.injEq, Prod.mk.injEq] at pulled
      obtain ⟨⟨taken, reported⟩, reached⟩ := pulled
      exact ⟨result, called, contract.1, contract.2, taken, reported, reached⟩
    · cases pulled

/-- A reader that stores a chunk at the front of the array and counts it hands over the chunk. -/
theorem pull_of_chunk {reader : Reader S} {impl next : S} {request : Request} {chunk : List UInt8}
    {code : Int}
    (called : readerRead reader impl request.p request.pLen (some 0) (some 0) =
      .ok ⟨next, chunk ++ request.p.drop chunk.length, some (UInt64.ofNat chunk.length), some code⟩)
    (short : chunk.length ≤ request.pLen.toNat) :
    pull reader impl request = .ok ((chunk, code), next) := by
  have room := request.room
  have counted : (UInt64.ofNat chunk.length).toNat = chunk.length :=
    UInt64.toNat_ofNat_of_lt' (Nat.lt_of_le_of_lt short request.pLen.toNat_lt)
  rw [pull_of_ok called]
  · simp only [Option.getD_some, counted]
    rw [List.take_left]
  · rw [Option.getD_some, UInt64.le_iff_toNat_le, counted]
    exact short
  · simp only [List.length_append, List.length_drop]
    omega

end Xstd.Io
