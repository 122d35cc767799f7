import Xstd.Proof.Io.BufReader
import Xstd.Proof.Io.Reader

/-
This file expresses one call of a `BufReader` by at most one call of the wrapped reader.
-/

namespace Xstd.Io

open Library

variable {S : Type}

/-- The refill asks the source for a full array. -/
def BufReader.refillRequest (b : BufReader S) (valid : b.Valid) : Request where
  p := b.buf
  pLen := b.bufLen
  room := Nat.le_of_eq valid.sized.symm

theorem pull_empty (reader : Reader S) (b : BufReader S) (request : Request)
    (empty : request.pLen = 0) : pull (bufReader reader) b request = .ok (([], 0), b) := by
  have called : readerRead (bufReader reader) b request.p request.pLen (some 0) (some 0) =
      .ok ⟨b, request.p, some 0, some 0⟩ := by
    rw [empty]
    exact bufReaderRead_empty reader b request.p _ _
  exact pull_of_ok called UInt64.zero_le rfl

/-- A served call reports as many bytes as it copied. -/
theorem pull_of_copy {reader : Reader S} {b next : BufReader S} {request : Request}
    {window : List UInt8}
    (called : readerRead (bufReader reader) b request.p request.pLen (some 0) (some 0) =
      .ok ⟨next, window.take request.pLen.toNat ++
        request.p.drop (min window.length request.pLen.toNat),
        some (UInt64.ofNat (min window.length request.pLen.toNat)), some 0⟩) :
    pull (bufReader reader) b request = .ok ((window.take request.pLen.toNat, 0), next) := by
  have length : (window.take request.pLen.toNat).length = min window.length request.pLen.toNat := by
    rw [List.length_take, Nat.min_comm]
  rw [← length] at called
  exact pull_of_chunk called (List.length_take_le _ _)

/-- A call on a held window takes its front and leaves the source alone. -/
theorem pull_drain (reader : Reader S) {b : BufReader S} (valid : b.Valid) (held : b.window ≠ [])
    {request : Request} (nonempty : request.pLen ≠ 0) :
    pull (bufReader reader) b request =
      .ok ((b.window.take request.pLen.toNat, 0), b.advance request.pLen) :=
  pull_of_copy (bufReaderRead_drain reader valid held request.p nonempty request.room _ _)

theorem pull_sticky (reader : Reader S) {b : BufReader S} (valid : b.Valid)
    (drained : b.window = []) (failed : b.readErr ≠ 0) {request : Request}
    (nonempty : request.pLen ≠ 0) :
    pull (bufReader reader) b request = .ok (([], b.readErr), b) := by
  have called : readerRead (bufReader reader) b request.p request.pLen (some 0) (some 0) =
      .ok ⟨b, request.p, some 0, some b.readErr⟩ :=
    bufReaderRead_sticky reader valid drained failed request.p nonempty _ _
  exact pull_of_ok called UInt64.zero_le rfl

/-- A large request on a clear and empty state is a call of the source. -/
theorem pull_bypass {reader : Reader S} {b : BufReader S} (valid : b.Valid)
    (drained : b.window = []) (clear : b.readErr = 0) {request : Request}
    (large : b.bufLen < request.pLen) {chunk : List UInt8} {code : Int} {next : S}
    (pulled : pull reader b.reader request = .ok ((chunk, code), next)) :
    pull (bufReader reader) b request = .ok ((chunk, code), b.withReader next) := by
  obtain ⟨result, called, stored, sized, taken, reported, reached⟩ := pull_inv pulled
  have read : readerRead (bufReader reader) b request.p request.pLen (some 0) (some 0) =
      .ok ⟨b.withReader result.impl, result.p, result.n, result.err⟩ :=
    bufReaderRead_bypass reader valid drained clear large called
  rw [pull_of_ok read stored sized, taken, reported, reached]

/-- A small request on a clear and empty state calls the source for a full array. -/
theorem pull_refill {reader : Reader S} {b : BufReader S} (valid : b.Valid)
    (drained : b.window = []) (clear : b.readErr = 0) {request : Request}
    (nonempty : request.pLen ≠ 0) (small : request.pLen ≤ b.bufLen) {chunk : List UInt8}
    {code : Int} {next : S}
    (pulled : pull reader b.reader (b.refillRequest valid) = .ok ((chunk, code), next)) :
    ∃ after : BufReader S, after.Valid ∧ after.bufLen = b.bufLen ∧ after.reader = next ∧
      after.readErr = code ∧ after.window = chunk.drop request.pLen.toNat ∧
      pull (bufReader reader) b request =
        .ok ((chunk.take request.pLen.toNat, if chunk = [] then code else 0), after) := by
  obtain ⟨result, called, stored, sized, taken, reported, reached⟩ := pull_inv pulled
  have filled : (b.refilled result).Valid :=
    BufReader.refilled_valid stored (sized.trans valid.sized)
  have window : (b.refilled result).window = chunk := by rw [BufReader.refilled_window, taken]
  have recorded : (b.refilled result).readErr = code := by
    simp only [BufReader.refilled, clear, reported]
  have length := filled.window_length
  rw [window] at length
  change chunk.length = (result.n.getD 0).toNat - 0 at length
  by_cases dry : chunk = []
  · subst dry
    have zero : result.n.getD 0 = 0 := by
      rw [← UInt64.toNat_inj]
      exact length.symm
    refine ⟨b.refilled result, filled, rfl, reached, recorded, by simpa using window, ?_⟩
    have read : readerRead (bufReader reader) b request.p request.pLen (some 0) (some 0) =
        .ok ⟨b.refilled result, request.p, some 0, some (b.refilled result).readErr⟩ :=
      bufReaderRead_dry reader valid drained clear request.p nonempty small _ _ called zero
    rw [pull_of_ok read UInt64.zero_le rfl]
    simp [recorded]
  · have wet : result.n.getD 0 ≠ 0 := by
      intro zero
      rw [zero] at length
      exact dry (List.length_eq_zero_iff.mp length)
    have read := bufReaderRead_refill reader valid drained clear request.p nonempty small (some 0)
      (some 0) called wet
    rw [bufReaderCopy_eq filled request.p request.pLen request.room, window] at read
    refine ⟨(b.refilled result).advance request.pLen, filled.advance_valid _, rfl, reached,
      recorded, by rw [filled.advance_window, window], ?_⟩
    rw [pull_of_copy read, if_neg dry]

end Xstd.Io
