import Xstd.Construction.Bytes.Buffer
import Xstd.Library.Assertion
import Xstd.Proof.Arena.Calloc

/-
This file proves that the assertions of alloc.h stop a call exactly when the allocator returned `NULL`, and
that `NDEBUG` changes nothing else.
-/

namespace Xstd

open Library

variable {S : Type}

/-- The call asked for a block and got none. -/
def AllocCall.Failed : AllocCall → Prop
  | .malloc _ ptr => ptr = 0
  | .free _ => False
  | .calloc _ _ ptr => ptr = 0
  | .realloc _ _ ptr => ptr = 0

/-- The allocator returned a block whenever it was asked for one. -/
def Heap.Served (heap : Heap (Audited S)) : Prop := ∀ call ∈ heap.state.calls, ¬call.Failed

theorem served_append {record : List AllocCall} {call : AllocCall} :
    (∀ earlier ∈ record ++ [call], ¬earlier.Failed) ↔
      (∀ earlier ∈ record, ¬earlier.Failed) ∧ ¬call.Failed := by
  rw [List.forall_mem_append, List.forall_mem_singleton]

/-- The debug build against the release build. -/
abbrev Agreeing {A : Type} (heap : Heap (Audited S)) (after : A → Heap (Audited S)) :
    Exec A → Exec A → Prop :=
  Checks Fault.allocation heap.Served fun result => (after result).Served

variable {allocator : Allocator S} {heap : Heap (Audited S)}

/-- The assertion stops a `NULL` and nothing else. -/
theorem assertNonNull_checks {call : Exec (Addr × Heap (Audited S))}
    (recorded : ∀ result, call = .ok result → (result.2.Served ↔ heap.Served ∧ result.1 ≠ 0)) :
    Agreeing heap Prod.snd (call.bind (assertNonNull false)) (call.bind (assertNonNull true)) := by
  cases called : call with
  | error fault => exact Checks.error fault
  | ok result =>
      have served := recorded result called
      show Checks _ _ _ (assertNonNull false result) (assertNonNull true result)
      have released : assertNonNull true result = .ok result :=
        if_neg fun asserts => Bool.noConfusion asserts.2
      by_cases failed : result.1 = 0
      · have stopped : assertNonNull false result = .error .allocation := if_pos ⟨failed, rfl⟩
        rw [released, stopped]
        have unserved : ¬result.2.Served := fun clean => (served.mp clean).2 failed
        refine ⟨?_, fun _ => Or.inr ⟨rfl, ?_⟩⟩
        · intro value returned clean
          cases returned
          exact absurd clean unserved
        · intro value returned
          cases returned
          exact unserved
      · have passed : assertNonNull false result = .ok result := if_neg fun asserts => failed asserts.1
        rw [released, passed]
        exact Checks.ok (served.trans (and_iff_left failed))

theorem allocMalloc_checks (size : SizeT) :
    Agreeing heap Prod.snd (allocMalloc false (audited allocator) heap size)
      (allocMalloc true (audited allocator) heap size) := by
  apply assertNonNull_checks
  intro result called
  obtain ⟨returned, _, rfl⟩ := map_ok_inv called
  exact served_append

theorem allocCalloc_checks (nmemb size : SizeT) :
    Agreeing heap Prod.snd (allocCalloc false (audited allocator) heap nmemb size)
      (allocCalloc true (audited allocator) heap nmemb size) := by
  apply assertNonNull_checks
  intro result called
  obtain ⟨returned, _, rfl⟩ := map_ok_inv called
  exact served_append

theorem allocRealloc_checks (ptr : Addr) (newsize : SizeT) :
    Agreeing heap Prod.snd (allocRealloc false (audited allocator) heap ptr newsize)
      (allocRealloc true (audited allocator) heap ptr newsize) := by
  apply assertNonNull_checks
  intro result called
  obtain ⟨returned, _, rfl⟩ := map_ok_inv called
  exact served_append

theorem allocFree_checks (ptr : Addr) :
    Agreeing heap id (allocFree (audited allocator) heap ptr) (allocFree (audited allocator) heap ptr) := by
  apply Checks.same
  intro after called
  obtain ⟨returned, _, rfl⟩ := map_ok_inv called
  exact served_append.trans (and_iff_left id)

section Arena

variable {arena : ArenaAllocator}

theorem arenaPush_checks (size cursor : SizeT) :
    Agreeing heap (fun pushed => pushed.2.2) (arenaPush false (audited allocator) arena heap size cursor)
      (arenaPush true (audited allocator) arena heap size cursor) := by
  have split (ndebug : Bool) : arenaPush ndebug (audited allocator) arena heap size cursor =
      (allocCalloc ndebug (audited allocator) heap 1 (size + sizeofArena)).bind fun result =>
        if result.1 = 0 then .ok (0, arena, result.2)
        else .ok (result.1, { arena with arenaList := result.1, cursor := cursor },
          { result.2 with memory := result.2.memory.storeWord result.1.toNat arena.arenaList }) := by
    unfold arenaPush
    cases allocCalloc ndebug (audited allocator) heap 1 (size + sizeofArena) <;> rfl
  rw [split, split]
  apply (allocCalloc_checks 1 (size + sizeofArena)).bind
  intro result _
  by_cases failed : result.1 = 0
  · rw [if_pos failed]
    exact Checks.ok Iff.rfl
  · rw [if_neg failed]
    exact Checks.ok Iff.rfl

theorem arenaRefill_checks (allocSize : SizeT) (sums : List SizeOp) :
    Agreeing heap ArenaResult.heap (arenaRefill false (audited allocator) arena heap allocSize sums)
      (arenaRefill true (audited allocator) arena heap allocSize sums) := by
  have split (ndebug : Bool) : arenaRefill ndebug (audited allocator) arena heap allocSize sums =
      (arenaPush ndebug (audited allocator) arena heap arena.arenaSize 0).bind fun pushed =>
        if pushed.1 = 0 then
          .ok ⟨0, pushed.2.1, pushed.2.2, sums ++ [.add arena.arenaSize sizeofArena]⟩
        else
          .ok (arenaBump pushed.2.1 pushed.2.2 allocSize
            (sums ++ [.add arena.arenaSize sizeofArena])) := by
    unfold arenaRefill
    cases arenaPush ndebug (audited allocator) arena heap arena.arenaSize 0 <;> rfl
  rw [split, split]
  apply (arenaPush_checks arena.arenaSize 0).bind
  intro pushed _
  by_cases failed : pushed.1 = 0
  · rw [if_pos failed]
    exact Checks.ok Iff.rfl
  · rw [if_neg failed]
    exact Checks.ok Iff.rfl

theorem arenaCalloc_checks (nmemb size : SizeT) :
    Agreeing heap ArenaResult.heap (arenaCalloc false (audited allocator) arena heap nmemb size)
      (arenaCalloc true (audited allocator) arena heap nmemb size) := by
  by_cases zero : size = 0
  · subst zero
    exact Checks.error Fault.divisionByZero
  by_cases refused : Refuses nmemb size
  · rw [arenaCalloc_refused _ _ _ _ zero refused, arenaCalloc_refused _ _ _ _ zero refused]
    exact Checks.ok Iff.rfl
  by_cases large : nmemb * size > arena.arenaSize
  · rw [arenaCalloc_large _ _ _ _ zero refused large, arenaCalloc_large _ _ _ _ zero refused large]
    exact (arenaPush_checks _ _).map fun _ => Iff.rfl
  have small := UInt64.not_lt.mp large
  by_cases room : arena.HasRoom (nmemb * size)
  · rw [arenaCalloc_bump _ _ _ _ zero refused small room, arenaCalloc_bump _ _ _ _ zero refused small room]
    exact Checks.ok Iff.rfl
  · rw [arenaCalloc_refill _ _ _ _ zero refused small room,
      arenaCalloc_refill _ _ _ _ zero refused small room]
    exact arenaRefill_checks _ _

theorem arenaDestroyLoop_checks (fuel : ℕ) (node : Addr) (heap : Heap (Audited S)) :
    Agreeing heap Prod.snd (arenaDestroyLoop (audited allocator) fuel node heap)
      (arenaDestroyLoop (audited allocator) fuel node heap) := by
  induction fuel generalizing node heap with
  | zero =>
      unfold arenaDestroyLoop
      split
      · exact Checks.ok Iff.rfl
      · exact Checks.error Fault.outOfFuel
  | succ fuel ih =>
      by_cases null : node = 0
      · rw [arenaDestroyLoop, if_pos null]
        exact Checks.ok Iff.rfl
      · have split : arenaDestroyLoop (audited allocator) (fuel + 1) node heap =
            (allocFree (audited allocator) heap node).bind fun after =>
              (arenaDestroyLoop (audited allocator) fuel (heap.memory.loadWord node.toNat) after).map
                fun result => (.reads node :: .frees node :: result.1, result.2) := by
          rw [arenaDestroyLoop, if_neg null]
          simp only
          cases allocFree (audited allocator) heap node with
          | error fault => rfl
          | ok after =>
              simp only [Except.bind]
              generalize heap.memory.loadWord node.toNat = next
              cases arenaDestroyLoop (audited allocator) fuel next after <;> rfl
        rw [split]
        apply (allocFree_checks node).bind
        intro after _
        exact (ih (heap.memory.loadWord node.toNat) after).map fun _ => Iff.rfl

/-- A step of an arena, which its client drives. -/
theorem arenaStep_checks (state : ArenaState (Audited S)) (op : ArenaOp) :
    Agreeing state.heap (fun result => result.2.heap) (arenaStep false (audited allocator) state op)
      (arenaStep true (audited allocator) state op) := by
  cases op with
  | malloc size => exact (arenaCalloc_checks 1 size).map fun _ => Iff.rfl
  | calloc nmemb size => exact (arenaCalloc_checks nmemb size).map fun _ => Iff.rfl
  | realloc ptr size => exact (arenaCalloc_checks 1 size).map fun _ => Iff.rfl
  | free ptr => exact Checks.ok Iff.rfl
  | write base bytes =>
      simp only [arenaStep]
      split
      · exact Checks.ok Iff.rfl
      · exact Checks.error Fault.outOfBounds
  | destroy =>
      have split (ndebug : Bool) : arenaStep ndebug (audited allocator) state .destroy =
          (arenaDestroyLoop (audited allocator) destroyFuel state.arena.arenaList state.heap).map
            fun result =>
              (⟨none, [], result.1⟩, ⟨{ state.arena with arenaList := 0 }, result.2, []⟩) := by
        simp only [arenaStep, arenaAllocDestroy]
        cases arenaDestroyLoop (audited allocator) destroyFuel state.arena.arenaList state.heap <;> rfl
      rw [split, split]
      exact (arenaDestroyLoop_checks destroyFuel state.arena.arenaList state.heap).map fun _ => Iff.rfl

end Arena

section Buffer

open Bytes

variable {buffer : BytesBuffer}

theorem bytesBufferResize_checks (newCapacity : SizeT) :
    Agreeing heap (fun result => result.2.2)
      (bytesBufferResize false (audited allocator) buffer heap newCapacity)
      (bytesBufferResize true (audited allocator) buffer heap newCapacity) := by
  have split (ndebug : Bool) : bytesBufferResize ndebug (audited allocator) buffer heap newCapacity =
      (allocRealloc ndebug (audited allocator) heap buffer.bytes newCapacity).bind fun result =>
        if result.1 = 0 then .ok (false, buffer, result.2)
        else if newCapacity < buffer.len then
          .ok (true, ⟨result.1, newCapacity, newCapacity⟩, result.2)
        else .ok (true, ⟨result.1, buffer.len, newCapacity⟩, result.2) := by
    unfold bytesBufferResize
    cases allocRealloc ndebug (audited allocator) heap buffer.bytes newCapacity <;> rfl
  rw [split, split]
  apply (allocRealloc_checks buffer.bytes newCapacity).bind
  intro result _
  split
  · exact Checks.ok Iff.rfl
  · split
    · exact Checks.ok Iff.rfl
    · exact Checks.ok Iff.rfl

theorem bytesBufferAppendBytes_checks (fuel : ℕ) (data : Area) :
    Agreeing heap BufferResult.heap
      (bytesBufferAppendBytes fuel false (audited allocator) buffer heap data)
      (bytesBufferAppendBytes fuel true (audited allocator) buffer heap data) := by
  have split (ndebug : Bool) : bytesBufferAppendBytes fuel ndebug (audited allocator) buffer heap data =
      (growCapacity data.size fuel buffer).bind fun grown =>
        (if bytesBufferAvailable buffer < data.size then
          bytesBufferResize ndebug (audited allocator) grown heap grown.cap
        else .ok (true, grown, heap)).bind fun result =>
          if result.1 then
            .ok ⟨data.size, { result.2.1 with len := result.2.1.len + data.size },
              storeBytes result.2.2 (result.2.1.bytes.toNat + result.2.1.len.toNat) data.bytes,
              [⟨result.2.1.bytes.toNat + result.2.1.len.toNat, data.size.toNat⟩]⟩
          else .ok ⟨0, result.2.1, result.2.2, []⟩ := by
    unfold bytesBufferAppendBytes
    cases growCapacity data.size fuel buffer with
    | error fault => rfl
    | ok grown =>
        simp only [Except.bind]
        split
        · rename_i fault stopped
          rw [stopped]
        · rename_i stored heap' called
          rw [called]
          rfl
        · rename_i stored heap' called
          rw [called]
          rfl
  rw [split, split]
  apply Checks.after
  intro grown _
  apply Checks.bind
  · by_cases full : bytesBufferAvailable buffer < data.size
    · rw [if_pos full, if_pos full]
      exact bytesBufferResize_checks grown.cap
    · rw [if_neg full, if_neg full]
      exact Checks.ok Iff.rfl
  · intro result _
    split
    · exact Checks.ok Iff.rfl
    · exact Checks.ok Iff.rfl

/-- A step of a buffer, whose fields are values. -/
theorem bufferStep_checks (fuel : ℕ) (state : BufferState (Audited S)) (op : BufferOp) :
    Agreeing state.heap (fun result => result.2.heap) (bufferStep fuel false (audited allocator) state op)
      (bufferStep fuel true (audited allocator) state op) := by
  cases op with
  | appendBytes data => exact (bytesBufferAppendBytes_checks fuel data).map fun _ => Iff.rfl
  | resize newCapacity => exact (bytesBufferResize_checks newCapacity).map fun _ => Iff.rfl
  | reset => exact Checks.ok Iff.rfl
  | fill c => exact Checks.ok Iff.rfl
  | fillAvailable c => exact Checks.ok Iff.rfl

end Buffer

end Xstd
