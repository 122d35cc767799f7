import Xstd.Proof.Io.BufReaderPull
import Xstd.Proof.Io.ListReader

/-
This file proves that a `BufReader` loses, duplicates and reorders nothing.
-/

namespace Xstd.Io

open Library

variable {S : Type}

/-- A recorded source conforms as its source does, and the record grows by the reply. -/
theorem recorded_reports {reader : Reader S} (conforming : Conforming reader)
    (source : Recorded S) (p : List UInt8) (pLen n : SizeT) (err : Int)
    (room : pLen.toNat ≤ p.length) :
    ∃ result stored code,
      readerRead (recorded reader) source p pLen (some n) (some err) = .ok result ∧
      result.n = some stored ∧ result.err = some code ∧ stored ≤ pLen ∧
      result.p.length = p.length ∧
      result.impl.calls = source.calls ++ [⟨pLen, p.length, result.p.take stored.toNat, code⟩] := by
  obtain ⟨result, stored, code, called, counted, reported, bound, sized⟩ :=
    conforming.reports source.impl p pLen n err room
  refine ⟨⟨⟨result.impl, source.calls ++ [⟨pLen, p.length, result.p.take stored.toNat, code⟩]⟩,
    result.p, result.n, result.err⟩, stored, code, ?_, counted, reported, bound, sized, rfl⟩
  simp only [readerRead, recorded] at called ⊢
  rw [called]
  simp only [counted, reported, Option.getD_some]

/-- A conforming source accepts every request, and the record grows by the reply. -/
theorem pull_recorded {reader : Reader S} (conforming : Conforming reader) (source : Recorded S)
    (request : Request) :
    ∃ chunk code next, pull (recorded reader) source request = .ok ((chunk, code), next) ∧
      next.calls = source.calls ++ [⟨request.pLen, request.p.length, chunk, code⟩] := by
  obtain ⟨result, stored, code, called, counted, reported, bound, sized, grown⟩ :=
    recorded_reports conforming source request.p request.pLen 0 0 request.room
  refine ⟨result.p.take stored.toNat, code, result.impl, ?_, grown⟩
  rw [pull_of_ok called (by simpa [counted] using bound) sized]
  simp [counted, reported]

theorem produced_append {source next : Recorded S} {call : SourceCall}
    (grown : next.calls = source.calls ++ [call]) :
    next.produced = source.produced ++ call.bytes := by
  simp [Recorded.produced, grown]

/-- A read serves itself, hands one call of the source on, or refills the array by one call. -/
inductive ReadStep (b : BufReader (Recorded S)) (pLen : SizeT) (calls : List SourceCall)
    (bytes : List UInt8) (err : Int) (next : BufReader (Recorded S)) : Prop where
  | served (ready : pLen = 0 ∨ b.window ≠ [] ∨ b.readErr ≠ 0) (silent : calls = [])
      (account : bytes ++ next.window = b.window) (kept : next.readErr = b.readErr)
      (code : err = if pLen = 0 ∨ b.window ≠ [] then 0 else b.readErr)
  | handed (call : SourceCall) (called : calls = [call]) (drained : b.window = [])
      (clear : b.readErr = 0) (large : b.bufLen < pLen) (whole : bytes = call.bytes)
      (empty : next.window = []) (kept : next.readErr = 0) (code : err = call.err)
  | refilled (call : SourceCall) (called : calls = [call]) (drained : b.window = [])
      (clear : b.readErr = 0) (nonempty : pLen ≠ 0) (small : pLen ≤ b.bufLen)
      (whole : call.capacity = b.bufLen) (account : bytes ++ next.window = call.bytes)
      (recorded : next.readErr = call.err)
      (code : err = if call.bytes = [] then call.err else 0)

/-- What a read establishes, whichever path it takes. -/
structure ReadSpec (b : BufReader (Recorded S)) (pLen : SizeT) (calls : List SourceCall)
    (bytes : List UInt8) (err : Int) (next : BufReader (Recorded S)) : Prop where
  valid : next.Valid
  array : next.bufLen = b.bufLen
  grown : next.reader.calls = b.reader.calls ++ calls
  capacities : ∀ call ∈ calls, call.capacity.toNat ≤ call.room
  step : ReadStep b pLen calls bytes err next

theorem request_room (request : Request) (chunk : List UInt8) (code : Int) :
    ∀ call ∈ [SourceCall.mk request.pLen request.p.length chunk code],
      call.capacity.toNat ≤ call.room := by
  intro call member
  rw [List.mem_singleton] at member
  rw [member]
  exact request.room

/-- A recorded call within its array keeps all capacities within their arrays. -/
theorem capacities_append {source next : Recorded S} (request : Request) {chunk : List UInt8}
    {code : Int} (earlier : ∀ call ∈ source.calls, call.capacity.toNat ≤ call.room)
    (grown : next.calls = source.calls ++ [⟨request.pLen, request.p.length, chunk, code⟩]) :
    ∀ call ∈ next.calls, call.capacity.toNat ≤ call.room := by
  intro call member
  rw [grown, List.mem_append] at member
  exact member.elim (earlier call) (request_room request chunk code call)

/-- A read over a conforming source succeeds and takes one of the three paths. -/
theorem pull_spec {reader : Reader S} (conforming : Conforming reader) {b : BufReader (Recorded S)}
    (valid : b.Valid) (request : Request) :
    ∃ calls bytes err next, pull (bufReader (recorded reader)) b request = .ok ((bytes, err), next) ∧
      ReadSpec b request.pLen calls bytes err next := by
  have same := (List.append_nil b.reader.calls).symm
  by_cases empty : request.pLen = 0
  · refine ⟨[], _, _, _, pull_empty _ b request empty, valid, rfl, same, by simp, ?_⟩
    exact .served (Or.inl empty) rfl rfl rfl (by simp [empty])
  by_cases drained : b.window = []
  · by_cases clear : b.readErr = 0
    · by_cases large : b.bufLen < request.pLen
      · obtain ⟨chunk, code, next, pulled, grown⟩ := pull_recorded conforming b.reader request
        refine ⟨_, _, _, _, pull_bypass valid drained clear large pulled, valid.withReader_valid next,
          rfl, grown, request_room request chunk code, ?_⟩
        exact .handed _ rfl drained clear large rfl drained clear rfl
      · have small := UInt64.not_lt.mp large
        obtain ⟨chunk, code, next, pulled, grown⟩ :=
          pull_recorded conforming b.reader (b.refillRequest valid)
        obtain ⟨after, filled, array, reached, failed, window, answered⟩ :=
          pull_refill valid drained clear empty small pulled
        rw [← reached] at grown
        refine ⟨_, _, _, _, answered, filled, array, grown,
          request_room (b.refillRequest valid) chunk code, ?_⟩
        refine .refilled _ rfl drained clear empty small rfl ?_ failed rfl
        rw [window, List.take_append_drop]
    · refine ⟨[], _, _, _, pull_sticky _ valid drained clear empty, valid, rfl, same, by simp, ?_⟩
      exact .served (Or.inr (Or.inr clear)) rfl rfl rfl (by simp [empty, drained])
  · refine ⟨[], _, _, _, pull_drain _ valid drained empty, valid.advance_valid _, rfl, same, by simp, ?_⟩
    refine .served (Or.inr (Or.inl drained)) rfl ?_ rfl (by simp [drained])
    rw [valid.advance_window, List.take_append_drop]

/-- The bytes of the reply and the new window are the old window and what the source produced. -/
theorem ReadSpec.account {b next : BufReader (Recorded S)} {pLen : SizeT} {calls : List SourceCall}
    {bytes : List UInt8} {err : Int} (spec : ReadSpec b pLen calls bytes err next) :
    bytes ++ next.window = b.window ++ calls.flatMap SourceCall.bytes := by
  cases spec.step with
  | served _ silent account => simp [silent, account]
  | handed call called drained _ _ whole empty => simp [called, drained, whole, empty]
  | refilled call called drained _ _ _ _ account => simp [called, drained, account]

/-- The delivered bytes and the window together are the bytes of the source. -/
structure Conserved (area : Area) (delivered : List UInt8) (b : BufReader (Recorded S)) : Prop where
  valid : b.Valid
  array : b.bufLen = area.size
  account : delivered ++ b.window = b.reader.produced
  capacities : ∀ call ∈ b.reader.calls, call.capacity.toNat ≤ call.room

/-- One call keeps the account, whichever path it takes. -/
theorem conserved_step {reader : Reader S} (conforming : Conforming reader) {area : Area}
    {delivered : List UInt8} {b : BufReader (Recorded S)}
    (conserved : Conserved area delivered b) (request : Request) :
    ∃ reply next, pull (bufReader (recorded reader)) b request = .ok (reply, next) ∧
      Conserved area (delivered ++ reply.1) next := by
  obtain ⟨calls, bytes, err, next, pulled, spec⟩ := pull_spec conforming conserved.valid request
  refine ⟨(bytes, err), next, pulled, spec.valid, spec.array.trans conserved.array, ?_, ?_⟩
  · calc delivered ++ bytes ++ next.window
        = delivered ++ b.window ++ calls.flatMap SourceCall.bytes := by
          rw [List.append_assoc, spec.account, List.append_assoc]
      _ = next.reader.produced := by
          rw [conserved.account, Recorded.produced, Recorded.produced, spec.grown,
            List.flatMap_append]
  · intro call member
    rw [spec.grown, List.mem_append] at member
    exact member.elim (conserved.capacities call) (spec.capacities call)

theorem conserved_init (source : S) (area : Area) :
    Conserved area [] (bufReaderInit (⟨source, []⟩ : Recorded S) area) where
  valid := bufReaderInit_valid _ area
  array := rfl
  account := by
    rw [bufReaderInit_window]
    rfl
  capacities := by
    intro call member
    simp [bufReaderInit] at member

/-- Over any run of requests the cursors stay ordered inside the array, no copy and no source call
leaves its array, and the delivered bytes followed by the window are the bytes of the source. -/
theorem bufReader_conserves (reader : Reader S) (conforming : Conforming reader) (source : S)
    (area : Area) (requests : List Request) :
    ∃ replies b, (pull (bufReader (recorded reader))).run
        (bufReaderInit ⟨source, []⟩ area) requests = .ok (replies, b) ∧
      b.write ≤ b.read ∧ b.read ≤ b.bufLen ∧ b.bufLen = area.size ∧
      b.buf.length = area.size.toNat ∧
      replies.flatMap Prod.fst ++ b.window = b.reader.produced ∧
      (replies.flatMap Prod.fst).length + (bufReaderBuffered b).toNat = b.reader.produced.length ∧
      ∀ call ∈ b.reader.calls, call.capacity.toNat ≤ call.room := by
  have progress : ∀ replies b request, Conserved area (replies.flatMap Prod.fst) b →
      ∃ reply next, pull (bufReader (recorded reader)) b request = .ok (reply, next) ∧
        Conserved area ((replies ++ [reply]).flatMap Prod.fst) next := by
    intro replies b request held
    obtain ⟨reply, next, stepped, kept⟩ := conserved_step conforming held request
    exact ⟨reply, next, stepped, by simpa using kept⟩
  have initial : Conserved area (([] : List (List UInt8 × Int)).flatMap Prod.fst)
      (bufReaderInit ⟨source, []⟩ area) := conserved_init source area
  obtain ⟨replies, b, ran, conserved⟩ := Machine.run_of_history _ progress initial requests
  rw [List.nil_append] at conserved
  have valid := conserved.valid
  refine ⟨replies, b, ran, valid.ordered, valid.within, conserved.array, ?_, conserved.account, ?_,
    conserved.capacities⟩
  · rw [valid.sized, conserved.array]
  · rw [valid.buffered_toNat, ← conserved.account, List.length_append]

/-- The source is a list of five bytes, the array has two, and the calls take every path. -/
theorem bufReader_conserves_list : ∃ replies b, (pull (bufReader (recorded listReader))).run
    (bufReaderInit ⟨[1, 2, 3, 4, 5], []⟩ ⟨2, [0, 0], rfl⟩)
    [⟨[0], 1, by decide⟩, ⟨[0], 1, by decide⟩, ⟨[0, 0, 0], 3, by decide⟩, ⟨[0, 0], 2, by decide⟩] =
      .ok (replies, b) ∧
    replies.flatMap Prod.fst ++ b.window = b.reader.produced := by
  obtain ⟨replies, b, ran, _, _, _, _, account, _⟩ := bufReader_conserves listReader
    listReader_conforming [1, 2, 3, 4, 5] ⟨2, [0, 0], rfl⟩
    [⟨[0], 1, by decide⟩, ⟨[0], 1, by decide⟩, ⟨[0, 0, 0], 3, by decide⟩, ⟨[0, 0], 2, by decide⟩]
  exact ⟨replies, b, ran, account⟩

end Xstd.Io
