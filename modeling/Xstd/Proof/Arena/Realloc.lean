import Xstd.Proof.Arena.Isolation
import Xstd.Proof.Bytes.Buffer

/-
This file proves what a reallocation of an arena keeps of the old block.
-/

namespace Xstd

open Library

variable {S : Type} {parent : Allocator S} {valid : Heap S → Prop} {live : S → Set Region}
  {arenaSize : SizeT} {state : ArenaState S} {arenas : List Arena} {ndebug : Bool}

/-- A reallocation allocates as `malloc` does, also for `NULL`, and it keeps the front of an issued block
exactly when the front is zeroed. -/
def Reallocates (ndebug : Bool) (parent : Allocator S) (before : ArenaState S) (op : ArenaOp)
    (reply : ArenaReply) (after : ArenaState S) : Prop :=
  ∀ ptr size, op = .realloc ptr size →
    arenaStep ndebug parent before (.malloc size) = .ok (reply, after) ∧
      ∀ old, (⟨ptr.toNat, old⟩ : Region) ∈ before.issued → ∀ block ∈ reply.block,
        (after.heap.memory.read block.base (min old size.toNat) =
            before.heap.memory.read ptr.toNat (min old size.toNat) ↔
          before.heap.memory.Zero ⟨ptr.toNat, min old size.toNat⟩)

/-- The block of a reply has the requested size. -/
theorem arenaStep_realloc_size {ptr : Addr} {size : SizeT} {reply : ArenaReply} {next : ArenaState S}
    (stepped : arenaStep ndebug parent state (.realloc ptr size) = .ok (reply, next)) {block : Region}
    (found : block ∈ reply.block) : block.size = size.toNat := by
  obtain ⟨result, _, issued⟩ := map_ok_inv stepped
  cases issued
  obtain ⟨_, rfl⟩ := ArenaResult.mem_block.mp found
  rfl

/-- In every run, a reallocation by an arena returns a zeroed block, whatever the old one held. -/
theorem arena_realloc_iff (callocs : LawfulCalloc parent valid live) (writes : LawfulWrites valid live)
    (frees : LawfulFree parent valid live) (ndebug : Bool) (arenaSize : SizeT) {heap : Heap S}
    (initial : valid heap) (ops : List ArenaOp)
    (suits : ∀ op ∈ ops, SoundSize arenaSize ∨ op.Dedicated arenaSize)
    (permitted : (arenaStep ndebug parent).Guarded (fun state op => op.Permitted state.issued)
      (arenaStart arenaSize heap) ops) :
    (arenaStep ndebug parent).AlwaysUnless (fun fault => fault = .allocation)
      (Reallocates ndebug parent) (arenaStart arenaSize heap) ops := by
  apply arena_always callocs writes frees ndebug initial _ suits permitted
  rintro state op reply next arenas _ stepped isolates ptr size rfl
  refine ⟨stepped, fun old _ block found => ?_⟩
  have zero := (isolates.1 trivial).zeroed block found
  have exact := arenaStep_realloc_size stepped found
  apply Memory.read_eq_iff_zero
  apply zero.mono
  exact ⟨Nat.le_refl _, Nat.add_le_add_left (exact ▸ Nat.min_le_right _ _) _⟩

open Bytes

/-- A wrapper that returns passes on what the table returned. -/
theorem assertNonNull_inv {call : Exec (Addr × Heap S)} {result : Addr × Heap S}
    (called : call.bind (assertNonNull ndebug) = .ok result) : call = .ok result := by
  cases call with
  | error fault => cases called
  | ok returned =>
      change assertNonNull ndebug returned = _ at called
      unfold assertNonNull at called
      split at called
      · cases called
      · exact called

/-- A resize that succeeds moves to the block of its reallocation. -/
theorem bytesBufferResize_true {A : Type} {allocator : Allocator A} {heap heap' : Heap A}
    {buffer buffer' : BytesBuffer} {newCapacity : SizeT}
    (resized : bytesBufferResize ndebug allocator buffer heap newCapacity = .ok (true, buffer', heap')) :
    allocator.realloc heap buffer.bytes newCapacity = .ok (buffer'.bytes, heap') ∧ buffer'.bytes ≠ 0 ∧
      buffer'.len.toNat = min newCapacity.toNat buffer.len.toNat := by
  unfold bytesBufferResize at resized
  split at resized
  · cases resized
  · rename_i bytes moved called
    have smaller := toNat_smaller newCapacity buffer.len
    split at resized
    · cases resized
    · rename_i found
      have returned := assertNonNull_inv called
      simp only at resized
      split at resized
      · rename_i shorter
        rw [if_pos shorter] at smaller
        cases resized
        exact ⟨returned, found, smaller⟩
      · rename_i longer
        rw [if_neg longer] at smaller
        cases resized
        exact ⟨returned, found, smaller⟩

/-- A buffer that grows over an arena keeps its contents exactly when they are zeroed. -/
theorem bytesBufferResize_over_arena (callocs : LawfulCalloc parent valid live)
    (writes : LawfulWrites valid live) (sound : SoundSize arenaSize)
    (layout : Layout valid live arenaSize state arenas) {buffer buffer' : BytesBuffer}
    {newCapacity : SizeT} (nonzero : newCapacity ≠ 0) {heap' : Heap (ArenaAllocator × S)}
    (resized : bytesBufferResize ndebug (arenaAllocatorVtable ndebug parent) buffer
      ⟨(state.arena, state.heap.state), state.heap.memory⟩ newCapacity = .ok (true, buffer', heap')) :
    heap'.memory.read buffer'.bytes.toNat buffer'.len.toNat =
        (state.heap.memory.read buffer.bytes.toNat buffer.len.toNat).take newCapacity.toNat ↔
      state.heap.memory.Zero ⟨buffer.bytes.toNat, min newCapacity.toNat buffer.len.toNat⟩ := by
  obtain ⟨moved, found, length⟩ := bytesBufferResize_true resized
  obtain ⟨result, called, returned⟩ := map_ok_inv moved
  obtain ⟨pointer, rfl⟩ := Prod.mk.inj returned
  rw [← pointer] at found ⊢
  rcases arenaCalloc_step callocs writes ndebug layout nonzero (Or.inl sound) with
    stopped | ⟨result', called', step⟩
  · exact absurd (called.symm.trans stopped) (by simp)
  · cases called.symm.trans called'
    have one : (1 : SizeT).toNat * newCapacity.toNat = newCapacity.toNat := Nat.one_mul _
    rw [one, ArenaState.issue_some state result found] at step
    have zero := step.allocates.zeroed _ rfl
    rw [Memory.read_take, length]
    apply Memory.read_eq_iff_zero
    apply zero.mono
    exact ⟨Nat.le_refl _, Nat.add_le_add_left (Nat.min_le_left _ _) _⟩

/-- The old block held two bytes, the new one holds zeros, and a buffer over the arena forgets a byte. -/
theorem arena_realloc_forgets :
    (∃ replies before reply after, (arenaStep false bumpAllocator).run (arenaStart 64 bumpHeap)
        [.malloc 8, .write 24 [1, 2]] = .ok (replies, before) ∧
      arenaStep false bumpAllocator before (.realloc 24 16) = .ok (reply, after) ∧
      (⟨24, 8⟩ : Region) ∈ before.issued ∧ reply.block = some ⟨32, 16⟩ ∧
      before.heap.memory.read 24 2 = [1, 2] ∧ after.heap.memory.read 32 2 = [0, 0]) ∧
    ∃ replies after, (bufferStep 64 false (arenaAllocatorVtable false bumpAllocator)).run
        (bufferStart ⟨(arenaAllocatorInit 64, bumpHeap.state), bumpHeap.memory⟩)
        [.appendBytes ⟨1, [1], rfl⟩, .appendBytes ⟨1, [2], rfl⟩] = .ok (replies, after) ∧
      after.contents = [0, 2] :=
  ⟨⟨_, _, _, _, rfl, rfl, by decide, rfl, by decide +kernel, by decide +kernel⟩, _, _, rfl,
    by decide +kernel⟩

theorem arena_realloc_bump :
    (arenaStep false bumpAllocator).AlwaysUnless (fun fault => fault = .allocation)
      (Reallocates false bumpAllocator) (arenaStart 32 bumpHeap) mixedRequests :=
  arena_realloc_iff bumpAllocator_calloc bumpAllocator_writes bumpAllocator_free false 32 bumpHeap_valid
    mixedRequests (fun _ _ => Or.inl ⟨by decide, by decide⟩) (by decide +kernel)

end Xstd
