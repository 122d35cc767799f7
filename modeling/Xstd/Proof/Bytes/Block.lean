import Xstd.Proof.Arena.Calloc
import Xstd.Proof.Bytes.Failure
import Xstd.Proof.Frame

/-
This file proves that a buffer replaces its block and leaves every other one alone.
-/

namespace Xstd.Bytes

open Library

variable {S : Type} {allocator : Allocator S} {valid : Heap S → Prop} {live : S → Set Region}
variable {state next : BufferState S} {fuel : ℕ} {ndebug : Bool}

/-- The block behind a buffer, if it has a capacity. -/
def bufferBlocks (buffer : BytesBuffer) : Set Region :=
  {region | buffer.cap ≠ 0 ∧ region = ⟨buffer.bytes.toNat, buffer.cap.toNat⟩}

theorem bufferBlocks_empty {buffer : BytesBuffer} (empty : buffer.cap = 0) : bufferBlocks buffer = ∅ := by
  ext region
  simp [bufferBlocks, empty]

theorem bufferBlocks_nonempty {buffer : BytesBuffer} (nonempty : buffer.cap ≠ 0) :
    bufferBlocks buffer = {⟨buffer.bytes.toNat, buffer.cap.toNat⟩} := by
  ext region
  simp [bufferBlocks, nonempty]

/-- The wrapper returns what the allocator returned, and `NULL` only without assertions. -/
theorem allocRealloc_inv {heap after : Heap S} {old ptr : Addr} {newsize : SizeT}
    (called : allocRealloc ndebug allocator heap old newsize = .ok (ptr, after)) :
    allocator.realloc heap old newsize = .ok (ptr, after) ∧ (ptr = 0 → ndebug = true) := by
  unfold allocRealloc at called
  cases returned : allocator.realloc heap old newsize with
  | error fault =>
      rw [returned] at called
      cases called
  | ok result =>
      rw [returned] at called
      simp only [Except.bind, assertNonNull] at called
      split at called
      · cases called
      · rename_i passed
        cases called
        refine ⟨rfl, fun null => ?_⟩
        simpa [null] using passed

/-- A resize that returns asked once for a block and took it unless it was `NULL`. -/
theorem bytesBufferResize_inv {buffer after : BytesBuffer} {heap heap' : Heap S} {newCapacity : SizeT}
    {done : Bool}
    (resized : bytesBufferResize ndebug allocator buffer heap newCapacity = .ok (done, after, heap')) :
    ∃ ptr, allocator.realloc heap buffer.bytes newCapacity = .ok (ptr, heap') ∧
      (ptr = 0 → ndebug = true) ∧
      (ptr ≠ 0 → done = true ∧ after.bytes = ptr ∧ after.cap = newCapacity) := by
  unfold bytesBufferResize at resized
  cases called : allocRealloc ndebug allocator heap buffer.bytes newCapacity with
  | error fault =>
      rw [called] at resized
      cases resized
  | ok result =>
      obtain ⟨ptr, moved⟩ := result
      obtain ⟨returned, asserted⟩ := allocRealloc_inv called
      rw [called] at resized
      change (if ptr = 0 then _ else _) = _ at resized
      split at resized
      · rename_i null
        cases resized
        exact ⟨ptr, returned, asserted, fun found => absurd null found⟩
      · refine ⟨ptr, ?_, asserted, fun _ => ?_⟩ <;>
          (change (if newCapacity < buffer.len then _ else _) = _ at resized
           split at resized <;> cases resized)
        · exact returned
        · exact returned
        · exact ⟨rfl, rfl, rfl⟩
        · exact ⟨rfl, rfl, rfl⟩

/-- The block of a reallocation that the operation asked for became the block of the buffer, unless it
was `NULL`. -/
def TakesBlock (fuel : ℕ) (ndebug : Bool) (allocator : Allocator S) (before : BufferState S)
    (op : BufferOp) (after : BufferState S) : Prop :=
  ∃ ptr newsize moved, newsize ∈ op.requested fuel before.buffer ∧
    allocator.realloc before.heap before.buffer.bytes newsize = .ok (ptr, moved) ∧
    (ptr = 0 → ndebug = true) ∧
    (ptr ≠ 0 → after.buffer.bytes = ptr ∧ after.buffer.cap = newsize ∧ after.heap.state = moved.state)

/-- The operation kept the block and left the allocator alone. -/
def KeepsBlock (before after : BufferState S) : Prop :=
  after.buffer.bytes = before.buffer.bytes ∧ after.buffer.cap = before.buffer.cap ∧
    after.heap.state = before.heap.state

/-- An operation keeps its block or takes the one of a reallocation. -/
theorem bufferStep_block {op : BufferOp} {reply : BufferReply}
    (stepped : bufferStep fuel ndebug allocator state op = .ok (reply, next)) :
    KeepsBlock state next ∨ TakesBlock fuel ndebug allocator state op next := by
  cases op with
  | appendBytes data =>
      obtain ⟨result, appended, replied⟩ := map_ok_inv stepped
      cases replied
      unfold bytesBufferAppendBytes at appended
      cases grows : growCapacity data.size fuel state.buffer with
      | error fault =>
          rw [grows] at appended
          cases appended
      | ok grown =>
          rw [grows] at appended
          rcases Classical.em (bytesBufferAvailable state.buffer < data.size) with short | enough
          · right
            have bytes := (growCapacity_ok grows).1
            have requested : grown.cap ∈ (BufferOp.appendBytes data).requested fuel state.buffer := by
              rw [BufferOp.requested, if_pos short, grows]
              rfl
            simp only [if_pos short] at appended
            cases resized : bytesBufferResize ndebug allocator grown state.heap grown.cap with
            | error fault =>
                rw [resized] at appended
                cases appended
            | ok outcome =>
                obtain ⟨done, after, moved⟩ := outcome
                obtain ⟨ptr, called, asserted, found⟩ := bytesBufferResize_inv resized
                rw [bytes] at called
                rw [resized] at appended
                refine ⟨ptr, grown.cap, moved, requested, called, asserted, fun listed => ?_⟩
                obtain ⟨rfl, taken, capacity⟩ := found listed
                cases appended
                exact ⟨taken, capacity, rfl⟩
          · left
            rw [growCapacity_stop enough] at grows
            cases grows
            simp only [if_neg enough] at appended
            cases appended
            exact ⟨rfl, rfl, rfl⟩
  | resize newCapacity =>
      obtain ⟨⟨done, after, moved⟩, resized, replied⟩ := map_ok_inv stepped
      cases replied
      obtain ⟨ptr, called, asserted, found⟩ := bytesBufferResize_inv resized
      exact Or.inr ⟨ptr, newCapacity, moved, rfl, called, asserted,
        fun listed => ⟨(found listed).2.1, (found listed).2.2, rfl⟩⟩
  | reset | fill c | fillAvailable c =>
      cases stepped
      exact Or.inl ⟨rfl, rfl, rfl⟩

/-- A buffer that owns all live blocks owns all of them after every operation. -/
theorem bufferStep_exact (reallocs : LawfulRealloc allocator valid live)
    (bufferValid : BufferValid valid live state)
    (exact : live state.heap.state = bufferBlocks state.buffer) (rounds : 64 ≤ fuel) {op : BufferOp}
    (permitted : op.Permitted state.buffer.len) {reply : BufferReply}
    (served : ∀ newsize ∈ op.requested fuel state.buffer,
      Served ndebug allocator state.heap state.buffer.bytes newsize)
    (stepped : bufferStep fuel ndebug allocator state op = .ok (reply, next)) :
    live next.heap.state = bufferBlocks next.buffer := by
  rcases bufferStep_block stepped with
    ⟨bytes, cap, same⟩ | ⟨ptr, newsize, moved, requested, called, asserted, taken⟩
  · rw [same, exact, bufferBlocks, bufferBlocks, bytes, cap]
  · have nonzero := requested_nonzero bufferValid.order rounds permitted requested
    have found : ptr ≠ 0 := by
      rintro rfl
      exact served newsize requested (asserted rfl) moved called
    obtain ⟨bytes, cap, same⟩ := taken found
    rw [same, bufferBlocks_nonempty (cap ▸ nonzero), bytes, cap]
    have owned := bufferValid.owned
    unfold Owned at owned
    split at owned
    · rename_i empty
      rw [owned] at called
      rcases reallocs.allocates state.heap newsize bufferValid.heap nonzero with
        stopped | ⟨ptr', moved', returned, _, _, granted⟩
      · rw [called] at stopped
        cases stopped
      · rw [called] at returned
        cases returned
        rw [(granted found).live, exact, bufferBlocks_empty empty, insert_empty_eq]
    · rename_i nonempty
      obtain ⟨listed, held⟩ := owned
      rcases reallocs.moves state.heap state.buffer.bytes state.buffer.cap.toNat newsize bufferValid.heap
          nonzero held listed with
        stopped | ⟨ptr', moved', returned, _, _, granted⟩
      · rw [called] at stopped
        cases stopped
      · rw [called] at returned
        cases returned
        rw [(granted found).1.live, exact, bufferBlocks_nonempty nonempty, Set.sdiff_self,
          insert_empty_eq]

/-- The buffer stays valid over any heap where its block is live. -/
theorem BufferValid.transfer (bufferValid : BufferValid valid live state) {valid' : Heap S → Prop}
    {live' : S → Set Region} {heap : Heap S} (current : valid' heap)
    (owned : bufferBlocks state.buffer ⊆ live' heap.state) :
    BufferValid valid' live' ⟨state.buffer, heap⟩ where
  heap := current
  order := bufferValid.order
  owned := by
    have before := bufferValid.owned
    unfold Owned at before ⊢
    split at before
    · rename_i empty
      rwa [if_pos empty]
    · rename_i nonempty
      rw [if_neg nonempty]
      exact ⟨before.1, owned ⟨nonempty, rfl⟩⟩

/-- A destroy of a buffer that owns all live blocks leaves none of them. -/
theorem destroy_releases (frees : LawfulFree allocator valid live) (nulls : FreesNull allocator valid live)
    (bufferValid : BufferValid valid live state) (exact : live state.heap.state = bufferBlocks state.buffer)
    (listed : ∀ region ∈ live state.heap.state, region.base ≠ 0) :
    ∃ after, bytesBufferDestroy allocator state.buffer state.heap = .ok after ∧ valid after ∧
      live after.state = ∅ := by
  have owned := bufferValid.owned
  unfold Owned at owned
  split at owned
  · rename_i empty
    obtain ⟨after, freed, kept, untouched⟩ := nulls.returns state.heap bufferValid.heap listed
    refine ⟨after, by rw [bytesBufferDestroy, allocFree, owned, freed], kept, ?_⟩
    rw [untouched.live, exact, bufferBlocks_empty empty]
  · rename_i nonempty
    obtain ⟨after, freed, kept, released, _⟩ :=
      frees.returns state.heap state.buffer.bytes state.buffer.cap.toNat bufferValid.heap owned.2
    refine ⟨after, freed, kept, ?_⟩
    rw [released, exact, bufferBlocks_nonempty nonempty, Set.sdiff_self]

/-- An operation of a buffer replaces the block of this buffer and no other one. -/
theorem bufferStep_replaces (reallocs : LawfulRealloc allocator valid live)
    (writes : LawfulWrites valid live) (serves : Serves ndebug allocator valid) (rounds : 64 ≤ fuel)
    (bufferValid : BufferValid valid live state)
    (holds : (blockTokens valid live).Holds state.heap (bufferBlocks state.buffer)) {op : BufferOp}
    (permitted : op.Permitted state.buffer.len) :
    (∃ fault, bufferStep fuel ndebug allocator state op = .error fault ∧ fault = .allocation) ∨
      ∃ reply next, bufferStep fuel ndebug allocator state op = .ok (reply, next) ∧
        Refines live state op reply next ∧ BufferValid valid live next ∧
        (blockTokens valid live).Replaces state.heap (bufferBlocks state.buffer) next.heap
          (bufferBlocks next.buffer) := by
  obtain ⟨framed, inside⟩ := framed_of_holds holds
  have bufferValid' := bufferValid.transfer framed inside.symm.subset
  have serves' : Serves ndebug allocator
      (Framed valid live (live state.heap.state \ bufferBlocks state.buffer) state.heap.memory) :=
    fun release heap old newsize after current => serves release heap old newsize after current.valid
  have served (newsize : SizeT) (requested : newsize ∈ op.requested fuel state.buffer) :
      Served ndebug allocator state.heap state.buffer.bytes newsize :=
    serves'.served bufferValid' rounds permitted requested
  rcases bufferStep_refines reallocs.framed writes.framed bufferValid' rounds permitted served with
    stopped | ⟨reply, next, stepped, refines, kept⟩
  · exact Or.inl stopped
  · have exact := bufferStep_exact reallocs.framed bufferValid' inside rounds permitted served stepped
    have valid' : BufferValid valid live next := by
      apply kept.transfer kept.heap.valid
      rw [← exact]
      exact Set.sdiff_subset
    have replaces := replaces_of_framed kept.heap
    rw [exact] at replaces
    exact Or.inr ⟨reply, next, stepped, { refines with owned := valid'.owned }, valid', replaces⟩

/-- A destroy of a buffer gives its block back and no other one. -/
theorem destroy_replaces (frees : LawfulFree allocator valid live) (nulls : FreesNull allocator valid live)
    (bufferValid : BufferValid valid live state)
    (holds : (blockTokens valid live).Holds state.heap (bufferBlocks state.buffer)) :
    ∃ after, bytesBufferDestroy allocator state.buffer state.heap = .ok after ∧
      (blockTokens valid live).Replaces state.heap (bufferBlocks state.buffer) after ∅ := by
  obtain ⟨framed, inside⟩ := framed_of_holds holds
  obtain ⟨after, freed, kept, gone⟩ := destroy_releases frees.framed nulls.framed
    (bufferValid.transfer framed inside.symm.subset) inside
    fun region member => framed.listed region member.1
  have replaces := replaces_of_framed kept
  rw [gone] at replaces
  exact ⟨after, freed, replaces⟩

end Xstd.Bytes
