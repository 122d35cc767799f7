import Xstd.Proof.Bytes.Buffer
import Xstd.Proof.Bytes.Loop

/-
This file proves when a failed reallocation leaves a buffer as it was, in a build without assertions.
-/

namespace Xstd.Bytes

open Library

variable {S : Type} {allocator : Allocator S} {valid : Heap S → Prop} {live : S → Set Region}
variable {state next : BufferState S} {fuel : ℕ} {op : BufferOp} {reply : BufferReply}

/-- The reply reports a failure. -/
def BufferOp.Failed (reply : BufferReply) : BufferOp → Prop
  | .appendBytes data => data.size ≠ 0 ∧ reply.appended = 0
  | .resize _ => reply.resized = false
  | .reset | .fill _ | .fillAvailable _ => False

/-- A failed operation leaves the buffer and the live blocks as they were. -/
def KeptOnFailure (live : S → Set Region) (before : BufferState S) (op : BufferOp)
    (reply : BufferReply) (after : BufferState S) : Prop :=
  op.Failed reply → after.buffer = before.buffer ∧ Untouched live before.heap after.heap

/-- The append must grow, and its reallocation returns `NULL`. -/
def GrowthFails (fuel : ℕ) (allocator : Allocator S) (state : BufferState S) (op : BufferOp) : Prop :=
  ∃ data, op = .appendBytes data ∧ ∃ newsize ∈ op.requested fuel state.buffer, ∃ after,
    allocator.realloc state.heap state.buffer.bytes newsize = .ok (0, after)

theorem growthFails_resize (newCapacity : SizeT) :
    ¬GrowthFails fuel allocator state (.resize newCapacity) := by
  rintro ⟨data, same, _⟩
  cases same

/-- A reallocation that returns `NULL` leaves every live block alone. -/
def NullKeeps (allocator : Allocator S) (live : S → Set Region) : Prop :=
  ∀ heap old newsize after, allocator.realloc heap old newsize = .ok (0, after) →
    Untouched live heap after

/-- The growth loop leaves the block alone and stops when there is room. -/
theorem growCapacity_ok {size : SizeT} {buffer grown : BytesBuffer}
    (grows : growCapacity size fuel buffer = .ok grown) :
    grown.bytes = buffer.bytes ∧ ¬bytesBufferAvailable grown < size := by
  obtain ⟨count, _, exits, rfl⟩ := growCapacity_ok_iff.mp grows
  exact ⟨growStep_iterate_bytes buffer count, exits.reached⟩

/-- A loop that ran raised the capacity. -/
theorem growCapacity_raises {size : SizeT} {buffer grown : BytesBuffer}
    (short : bytesBufferAvailable buffer < size)
    (grows : growCapacity size fuel buffer = .ok grown) : grown ≠ buffer := by
  intro same
  rw [same] at grows
  exact (growCapacity_ok grows).2 short

/-- Without assertions the wrapper only passes the call on. -/
theorem allocRealloc_release (heap : Heap S) (old : Addr) (newsize : SizeT) :
    allocRealloc true allocator heap old newsize = allocator.realloc heap old newsize := by
  rw [allocRealloc]
  cases allocator.realloc heap old newsize with
  | error fault => rfl
  | ok result => simp [Except.bind, assertNonNull]

/-- A resize that returns took the block of its reallocation, or it kept the buffer. -/
theorem bytesBufferResize_ok {buffer after : BytesBuffer} {heap heap' : Heap S} {newCapacity : SizeT}
    {done : Bool}
    (resized : bytesBufferResize true allocator buffer heap newCapacity = .ok (done, after, heap')) :
    ∃ ptr, allocator.realloc heap buffer.bytes newCapacity = .ok (ptr, heap') ∧
      (ptr = 0 → done = false ∧ after = buffer) ∧ (ptr ≠ 0 → done = true) := by
  rw [bytesBufferResize, allocRealloc_release] at resized
  cases called : allocator.realloc heap buffer.bytes newCapacity with
  | error fault =>
      rw [called] at resized
      cases resized
  | ok result =>
      obtain ⟨ptr, moved⟩ := result
      rw [called] at resized
      change (if ptr = 0 then _ else _) = _ at resized
      split at resized
      · rename_i null
        cases resized
        exact ⟨ptr, rfl, fun _ => ⟨rfl, rfl⟩, fun found => absurd null found⟩
      · rename_i found
        change (if newCapacity < buffer.len then _ else _) = _ at resized
        refine ⟨ptr, ?_, fun null => absurd null found, fun _ => ?_⟩ <;>
          split at resized <;> cases resized <;> rfl

/-- An append that returns wrote its data, or it had to grow and its reallocation returned `NULL`. -/
theorem bytesBufferAppendBytes_ok {buffer : BytesBuffer} {heap : Heap S} {data : Area}
    {result : BufferResult S SizeT}
    (appended : bytesBufferAppendBytes fuel true allocator buffer heap data = .ok result) :
    (result.value = data.size ∧ ∀ newsize ∈ (BufferOp.appendBytes data).requested fuel buffer,
        ∀ after, allocator.realloc heap buffer.bytes newsize ≠ .ok (0, after)) ∨
      (result.value = 0 ∧ data.size ≠ 0 ∧ result.buffer ≠ buffer ∧
        ∃ newsize ∈ (BufferOp.appendBytes data).requested fuel buffer,
          allocator.realloc heap buffer.bytes newsize = .ok (0, result.heap)) := by
  rw [bytesBufferAppendBytes] at appended
  rw [BufferOp.requested]
  cases grows : growCapacity data.size fuel buffer with
  | error fault =>
      rw [grows] at appended
      cases appended
  | ok grown =>
      rw [grows] at appended
      rcases Classical.em (bytesBufferAvailable buffer < data.size) with short | enough
      · obtain ⟨bytes, _⟩ := growCapacity_ok grows
        have positive : data.size ≠ 0 := by
          rintro empty
          rw [empty] at short
          exact absurd short UInt64.not_lt_zero
        simp only [if_pos short] at appended ⊢
        cases resized : bytesBufferResize true allocator grown heap grown.cap with
        | error fault =>
            rw [resized] at appended
            cases appended
        | ok outcome =>
            obtain ⟨done, after, moved⟩ := outcome
            obtain ⟨ptr, called, null, found⟩ := bytesBufferResize_ok resized
            rw [resized] at appended
            rw [bytes] at called
            cases done with
            | false =>
                right
                have missing : ptr = 0 := by
                  by_contra listed
                  exact absurd (found listed) (by decide)
                cases appended
                refine ⟨rfl, positive, ?_, grown.cap, rfl, missing ▸ called⟩
                rw [(null missing).2]
                exact growCapacity_raises short grows
            | true =>
                left
                cases appended
                refine ⟨rfl, ?_⟩
                intro newsize requested after' refused
                cases requested
                rw [called] at refused
                cases refused
                exact absurd (null rfl).1 (by decide)
      · simp only [if_neg enough] at appended ⊢
        cases appended
        exact Or.inl ⟨rfl, by simp⟩

/-- A step of any buffer keeps its promise exactly when no growth fails. -/
theorem keptOnFailure_iff (keeps : NullKeeps allocator live)
    (stepped : bufferStep fuel true allocator state op = .ok (reply, next)) :
    KeptOnFailure live state op reply next ↔ ¬GrowthFails fuel allocator state op := by
  cases op with
  | appendBytes data =>
      rw [bufferStep] at stepped
      cases appended : bytesBufferAppendBytes fuel true allocator state.buffer state.heap data with
      | error fault =>
          rw [appended] at stepped
          cases stepped
      | ok result =>
          rw [appended] at stepped
          cases stepped
          rcases bytesBufferAppendBytes_ok appended with
            ⟨wrote, served⟩ | ⟨nothing, positive, raised, newsize, requested, called⟩
          · constructor
            · rintro _ ⟨data, same, newsize, requested, after, called⟩
              exact served newsize requested after called
            · rintro _ ⟨positive, nothing⟩
              exact absurd (wrote.symm.trans nothing) positive
          · constructor
            · exact fun kept => absurd (kept ⟨positive, nothing⟩).1 raised
            · exact fun fine => absurd ⟨data, rfl, newsize, requested, _, called⟩ fine
  | resize newCapacity =>
      rw [bufferStep] at stepped
      cases resized : bytesBufferResize true allocator state.buffer state.heap newCapacity with
      | error fault =>
          rw [resized] at stepped
          cases stepped
      | ok outcome =>
          obtain ⟨done, after, moved⟩ := outcome
          rw [resized] at stepped
          cases stepped
          obtain ⟨ptr, called, null, found⟩ := bytesBufferResize_ok resized
          refine iff_of_true ?_ (growthFails_resize newCapacity)
          intro failed
          have missing : ptr = 0 := by
            by_contra listed
            exact absurd (failed.symm.trans (found listed)) (by decide)
          exact ⟨(null missing).2, keeps _ _ _ _ (missing ▸ called)⟩
  | reset | fill c | fillAvailable c =>
      apply iff_of_true
      · exact fun failed => failed.elim
      · rintro ⟨data, same, _⟩
        cases same

/-- The capacity is the size of the block, the operation wrote inside it, and a failed operation left
everything as it was. -/
structure Atomic (live : S → Set Region) (before : BufferState S) (op : BufferOp)
    (reply : BufferReply) (after : BufferState S) : Prop where
  kept : KeptOnFailure live before op reply after
  contents : op.Failed reply → after.contents = before.contents
  order : after.buffer.len ≤ after.buffer.cap
  owned : Owned live after.heap.state after.buffer.bytes after.buffer.cap
  inside : ∀ region ∈ reply.writes,
    region.Within ⟨after.buffer.bytes.toNat, after.buffer.cap.toNat⟩

/-- The contents of a valid buffer lie in its live block. -/
theorem BufferValid.contents_kept (bufferValid : BufferValid valid live state)
    (same : next.buffer = state.buffer) (untouched : Untouched live state.heap next.heap) :
    next.contents = state.contents := by
  have order := UInt64.le_iff_toNat_le.mp bufferValid.order
  have owned := bufferValid.owned
  change next.heap.memory.read next.buffer.bytes.toNat next.buffer.len.toNat = _
  rw [same]
  apply Memory.read_of_agrees
  unfold Owned at owned
  split at owned
  · rename_i empty
    rw [empty] at order
    intro address inside
    have below := inside.1
    have above := inside.2
    change state.buffer.bytes.toNat ≤ address at below
    change address < state.buffer.bytes.toNat + state.buffer.len.toNat at above
    change state.buffer.len.toNat ≤ 0 at order
    omega
  · exact (untouched.same _ owned.2).mono ⟨Nat.le_refl _, Nat.add_le_add_left order _⟩

/-- A `NULL` from the reallocation of a valid buffer keeps the heap valid. -/
theorem BufferValid.realloc_null (bufferValid : BufferValid valid live state)
    (reallocs : LawfulRealloc allocator valid live) {newsize : SizeT} (nonzero : newsize ≠ 0)
    {after : Heap S}
    (called : allocator.realloc state.heap state.buffer.bytes newsize = .ok (0, after)) :
    valid after ∧ Untouched live state.heap after := by
  have owned := bufferValid.owned
  unfold Owned at owned
  split at owned
  · rw [owned] at called
    rcases reallocs.allocates state.heap newsize bufferValid.heap nonzero with
      stopped | ⟨ptr, after', called', kept, null, _⟩
    · rw [stopped] at called
      cases called
    · rw [called'] at called
      cases called
      exact ⟨kept, null rfl⟩
  · rcases reallocs.moves state.heap _ _ newsize bufferValid.heap nonzero owned.2 owned.1 with
      stopped | ⟨ptr, after', called', kept, null, _⟩
    · rw [stopped] at called
      cases called
    · rw [called'] at called
      cases called
      exact ⟨kept, null rfl⟩

/-- A resize whose reallocation returns `NULL` keeps a valid buffer. -/
theorem resize_null (fuel : ℕ) (bufferValid : BufferValid valid live state)
    (reallocs : LawfulRealloc allocator valid live) {newCapacity : SizeT} (nonzero : newCapacity ≠ 0)
    {after : Heap S}
    (called : allocator.realloc state.heap state.buffer.bytes newCapacity = .ok (0, after)) :
    bufferStep fuel true allocator state (.resize newCapacity) =
        .ok (⟨0, false, []⟩, ⟨state.buffer, after⟩) ∧
      BufferValid valid live ⟨state.buffer, after⟩ := by
  obtain ⟨kept, untouched⟩ := bufferValid.realloc_null reallocs nonzero called
  constructor
  · simp only [bufferStep, bytesBufferResize, allocRealloc_release, called, if_true]
    rfl
  · refine ⟨kept, bufferValid.order, ?_⟩
    have owned := bufferValid.owned
    rw [Owned] at owned ⊢
    rwa [untouched.live]

/-- An append whose reallocation returns `NULL` returns. -/
theorem append_null {data : Area} {newsize : SizeT} {after : Heap S}
    (requested : newsize ∈ (BufferOp.appendBytes data).requested fuel state.buffer)
    (called : allocator.realloc state.heap state.buffer.bytes newsize = .ok (0, after)) :
    ∃ reply next, bufferStep fuel true allocator state (.appendBytes data) = .ok (reply, next) := by
  rw [BufferOp.requested] at requested
  split at requested
  · rename_i short
    cases grows : growCapacity data.size fuel state.buffer with
    | error fault =>
        rw [grows] at requested
        cases requested
    | ok grown =>
        rw [grows] at requested
        cases requested
        rw [← (growCapacity_ok grows).1] at called
        refine ⟨⟨0, false, []⟩, ⟨grown, after⟩, ?_⟩
        simp only [bufferStep, bytesBufferAppendBytes, grows, if_pos short, bytesBufferResize,
          allocRealloc_release, called, if_true]
        rfl
  · cases requested

/-- A permitted step of a valid buffer is atomic exactly when no growth fails. -/
theorem bufferStep_atomic (reallocs : LawfulRealloc allocator valid live)
    (writes : LawfulWrites valid live) (keeps : NullKeeps allocator live)
    (bufferValid : BufferValid valid live state) (rounds : 64 ≤ fuel)
    (permitted : op.Permitted state.buffer.len) :
    (∃ fault, bufferStep fuel true allocator state op = .error fault ∧ fault = .allocation ∧
        ¬GrowthFails fuel allocator state op) ∨
      ∃ reply next, bufferStep fuel true allocator state op = .ok (reply, next) ∧
        (Atomic live state op reply next ↔ ¬GrowthFails fuel allocator state op) ∧
        (¬GrowthFails fuel allocator state op → BufferValid valid live next) := by
  rcases Classical.em (∃ newsize ∈ op.requested fuel state.buffer, ∃ after,
      allocator.realloc state.heap state.buffer.bytes newsize = .ok (0, after)) with
    ⟨newsize, requested, after, called⟩ | none
  · right
    cases op with
    | appendBytes data =>
        obtain ⟨reply, next, stepped⟩ := append_null requested called
        have fails : GrowthFails fuel allocator state (.appendBytes data) :=
          ⟨data, rfl, newsize, requested, after, called⟩
        refine ⟨reply, next, stepped, ?_, fun fine => absurd fails fine⟩
        exact iff_of_false (fun atomic => (keptOnFailure_iff keeps stepped).mp atomic.kept fails)
          (fun fine => fine fails)
    | resize newCapacity =>
        cases requested
        obtain ⟨stepped, kept⟩ := resize_null fuel bufferValid reallocs permitted called
        obtain ⟨_, untouched⟩ := bufferValid.realloc_null reallocs permitted called
        have fine : ¬GrowthFails fuel allocator state (.resize newsize) := growthFails_resize newsize
        refine ⟨_, _, stepped, iff_of_true ?_ fine, fun _ => kept⟩
        exact ⟨(keptOnFailure_iff keeps stepped).mpr fine,
          fun _ => bufferValid.contents_kept rfl untouched, kept.order, kept.owned, by simp⟩
    | reset | fill c | fillAvailable c => cases requested
  · have fine : ¬GrowthFails fuel allocator state op := by
      rintro ⟨_, _, fails⟩
      exact none fails
    rcases bufferStep_refines reallocs writes bufferValid rounds permitted
        fun newsize requested _ after called => none ⟨newsize, requested, after, called⟩ with
      ⟨fault, stopped, excuse⟩ | ⟨reply, next, stepped, refined, kept⟩
    · exact Or.inl ⟨fault, stopped, excuse, fine⟩
    · right
      have held := (keptOnFailure_iff keeps stepped).mpr fine
      refine ⟨reply, next, stepped, iff_of_true ?_ fine, fun _ => kept⟩
      refine ⟨held, fun failed => ?_, refined.order, refined.owned, refined.inside⟩
      obtain ⟨same, untouched⟩ := held failed
      exact bufferValid.contents_kept same untouched

/-- Without assertions, a failed operation leaves any buffer as it was exactly when it is not an append
whose growth fails. The operations of a run are atomic and keep the capacity true exactly when no growth
fails in the run. -/
theorem buffer_atomic_iff (reallocs : LawfulRealloc allocator valid live)
    (writes : LawfulWrites valid live) (keeps : NullKeeps allocator live) (rounds : 64 ≤ fuel)
    {heap : Heap S} (initial : valid heap) (ops : List BufferOp)
    (permitted : (bufferStep fuel true allocator).Guarded
      (fun state op => op.Permitted state.buffer.len) (bufferStart heap) ops) :
    (∀ fuel state op reply next, bufferStep fuel true allocator state op = .ok (reply, next) →
        (KeptOnFailure live state op reply next ↔ ¬GrowthFails fuel allocator state op)) ∧
      ((bufferStep fuel true allocator).AlwaysUnless (fun fault => fault = .allocation) (Atomic live)
          (bufferStart heap) ops ↔
        (bufferStep fuel true allocator).Guarded
          (fun state op => ¬GrowthFails fuel allocator state op) (bufferStart heap) ops) := by
  have start : BufferValid valid live (bufferStart heap) := ⟨initial, UInt64.le_rfl, rfl⟩
  constructor
  · intro fuel state op reply next stepped
    exact keptOnFailure_iff keeps stepped
  · apply Machine.alwaysUnless_iff_guarded (BufferValid valid live) _ start permitted
    intro state op bufferValid allowed
    exact bufferStep_atomic reallocs writes keeps bufferValid rounds allowed

theorem bumpAllocator_nullKeeps : NullKeeps bumpAllocator bumpLive := by
  intro heap old newsize after called
  simp only [bumpAllocator] at called
  split at called
  · rcases bumpTake_cases heap newsize.toNat [] with refused | ⟨ptr, found, _, _, taken⟩
    · rw [refused] at called
      cases called
      exact ⟨fun _ _ => Memory.Agrees.refl _ _, rfl⟩
    · rw [taken] at called
      cases called
      exact absurd rfl found
  · rcases bumpTake_cases heap newsize.toNat (bumpMoved heap old newsize.toNat) with
      refused | ⟨ptr, found, _, _, taken⟩
    · rw [refused] at called
      cases called
      exact ⟨fun _ _ => Memory.Agrees.refl _ _, rfl⟩
    · rw [taken] at called
      cases called
      exact absurd rfl found

/-- The allocator has room for one small block. -/
def crowdedHeap : Heap BumpState := ⟨⟨2 ^ 64 - 40, []⟩, fun _ => 255⟩

theorem crowdedHeap_valid : BumpValid crowdedHeap := ⟨by simp [crowdedHeap], by simp [crowdedHeap]⟩

/-- The second append fails, and then the client fills the buffer up. -/
def crowdedOps : List BufferOp :=
  [.appendBytes ⟨1, [1], rfl⟩, .appendBytes ⟨8, [2, 3, 4, 5, 6, 7, 8, 9], rfl⟩, .fillAvailable 0]

theorem buffer_atomic_crowded :
    (∀ fuel state op reply next, bufferStep fuel true bumpAllocator state op = .ok (reply, next) →
        (KeptOnFailure bumpLive state op reply next ↔ ¬GrowthFails fuel bumpAllocator state op)) ∧
      ((bufferStep 64 true bumpAllocator).AlwaysUnless (fun fault => fault = .allocation)
          (Atomic bumpLive) (bufferStart crowdedHeap) crowdedOps ↔
        (bufferStep 64 true bumpAllocator).Guarded
          (fun state op => ¬GrowthFails 64 bumpAllocator state op) (bufferStart crowdedHeap) crowdedOps) :=
  buffer_atomic_iff bumpAllocator_realloc bumpAllocator_writes bumpAllocator_nullKeeps
    (Nat.le_refl 64) crowdedHeap_valid crowdedOps (by decide +kernel)

/-- The failed append leaves a capacity of 16 on a block of one byte, and the fill writes behind it. -/
theorem append_failure_raises_cap :
    ∃ first second third before after final,
      bufferStep 64 true bumpAllocator (bufferStart crowdedHeap) (.appendBytes ⟨1, [1], rfl⟩) =
        .ok (first, before) ∧
      bufferStep 64 true bumpAllocator before (.appendBytes ⟨8, [2, 3, 4, 5, 6, 7, 8, 9], rfl⟩) =
        .ok (second, after) ∧
      bufferStep 64 true bumpAllocator after (.fillAvailable 0) = .ok (third, final) ∧
      ¬KeptOnFailure bumpLive before (.appendBytes ⟨8, [2, 3, 4, 5, 6, 7, 8, 9], rfl⟩) second after ∧
      after.buffer.cap = 16 ∧ after.heap.state.blocks = [⟨after.buffer.bytes.toNat, 1⟩] ∧
      third.writes = [⟨after.buffer.bytes.toNat + 1, 15⟩] := by
  refine ⟨_, _, _, _, _, _, rfl, rfl, rfl, ?_, rfl, rfl, rfl⟩
  intro kept
  have same := congrArg BytesBuffer.cap (kept ⟨by decide, rfl⟩).1
  exact absurd same (by decide)

end Xstd.Bytes
