import Xstd.Proof.Alloc
import Xstd.Proof.Bytes.Block

/-
This file proves that a buffer that only grows asks for memory in proportion to its contents.
-/

namespace Xstd.Bytes

open Library

variable {S : Type} {allocator : Allocator S} {valid : Heap S → Prop} {live : S → Set Region}
variable {state next : BufferState (Audited S)} {fuel : ℕ} {ndebug : Bool}

/-- The bytes that a reallocation asks for, and so the most that it can copy. -/
def reallocSize : AllocCall → ℕ
  | .realloc _ size _ => size.toNat
  | .malloc _ _ | .free _ | .calloc _ _ _ => 0

def reallocBytes (calls : List AllocCall) : ℕ := (calls.map reallocSize).sum

/-- All reallocations together ask for at most twice the capacity, and each one doubles it at least. -/
structure Geometric (state : BufferState (Audited S)) : Prop where
  capacity : state.buffer.cap.toNat ≤ 2 * state.buffer.len.toNat
  bytes : reallocBytes state.heap.state.calls ≤ 2 * state.buffer.cap.toNat
  count : state.heap.state.calls ≠ [] → 2 ^ state.heap.state.calls.length ≤ 2 * state.buffer.cap.toNat

/-- The growth loop leaves below twice what the append needs. -/
theorem growCapacity_bounds {size : SizeT} {buffer grown : BytesBuffer} (order : buffer.len ≤ buffer.cap)
    (small : buffer.len.toNat + size.toNat ≤ 2 ^ 63) (short : bytesBufferAvailable buffer < size)
    (grows : growCapacity size fuel buffer = .ok grown) :
    2 * buffer.cap.toNat ≤ grown.cap.toNat ∧ 0 < grown.cap.toNat ∧
      grown.cap.toNat < 2 * (buffer.len.toNat + size.toNat) := by
  obtain ⟨count, exits, reached⟩ := growCapacity_exits order small grows
  rw [reached]
  exact doubled_exits_bounds ((available_lt_iff order size).mp short) exits

/-- An append adds its size to the length. -/
theorem Refines.append_len {before after : BufferState S} {data : Area} {reply : BufferReply}
    (refines : Refines live before (.appendBytes data) reply after) :
    after.buffer.len.toNat = before.buffer.len.toNat + data.size.toNat := by
  have lengths := congrArg List.length refines.contents
  rwa [modelStep, List.length_append, after.contents_length, before.contents_length, data.sized] at lengths

/-- An append keeps the growth geometric. -/
theorem append_geometric {data : Area} {reply : BufferReply}
    (order : state.buffer.len ≤ state.buffer.cap)
    (small : state.buffer.len.toNat + data.size.toNat ≤ 2 ^ 63) (geometric : Geometric state)
    (length : next.buffer.len.toNat = state.buffer.len.toNat + data.size.toNat)
    (served : ∀ newsize ∈ (BufferOp.appendBytes data).requested fuel state.buffer,
      Served ndebug (audited allocator) state.heap state.buffer.bytes newsize)
    (stepped : bufferStep fuel ndebug (audited allocator) state (.appendBytes data) = .ok (reply, next)) :
    Geometric next := by
  rcases bufferStep_block stepped with
    ⟨_, cap, same⟩ | ⟨ptr, newsize, moved, requested, called, asserted, taken⟩
  · constructor
    · have capacity := geometric.capacity
      rw [cap, length]
      omega
    · rw [same, cap]
      exact geometric.bytes
    · rw [same, cap]
      exact geometric.count
  · have found : ptr ≠ 0 := by
      rintro rfl
      exact served newsize requested (asserted rfl) moved called
    obtain ⟨_, cap, same⟩ := taken found
    obtain ⟨⟨ptr', after⟩, _, recorded⟩ := map_ok_inv called
    cases recorded
    rw [BufferOp.requested] at requested
    split at requested
    · rename_i short
      cases grows : growCapacity data.size fuel state.buffer with
      | error fault =>
          rw [grows] at requested
          cases requested
      | ok grown =>
          rw [grows] at requested
          cases requested
          obtain ⟨double, positive, below⟩ := growCapacity_bounds order small short grows
          have bytes := geometric.bytes
          have calls : next.heap.state.calls =
              state.heap.state.calls ++ [.realloc state.buffer.bytes grown.cap ptr] := by
            rw [same]
            rfl
          constructor
          · rw [cap, length]
            omega
          · have more : reallocBytes next.heap.state.calls =
                reallocBytes state.heap.state.calls + grown.cap.toNat := by
              simp [calls, reallocBytes, reallocSize]
            rw [more, cap]
            omega
          · intro _
            rw [calls, List.length_append, List.length_singleton, Nat.pow_succ, cap]
            rcases Classical.em (state.heap.state.calls = []) with first | later
            · rw [first]
              simp only [List.length_nil, Nat.pow_zero]
              omega
            · have earlier := geometric.count later
              omega
    · cases requested

/-- In every run of appends the capacity stays at most twice the length, all reallocations together ask for
at most four bytes for each byte of the contents, and their number is logarithmic. -/
theorem appends_amortised (ndebug : Bool) (serves : Serves ndebug allocator valid)
    (reallocs : LawfulRealloc allocator valid live) (writes : LawfulWrites valid live)
    {fuel : ℕ} (rounds : 64 ≤ fuel) {heap : Heap S} (initial : valid heap) (chunks : List Area)
    (permitted : (bufferStep fuel ndebug (audited allocator)).Guarded
      (fun state op => op.Permitted state.buffer.len) (bufferStart (heap.audit []))
      (chunks.map .appendBytes)) :
    (bufferStep fuel ndebug (audited allocator)).AlwaysUnless (fun fault => fault = .allocation)
      (fun _ _ _ after => after.buffer.cap.toNat ≤ 2 * after.contents.length ∧
        reallocBytes after.heap.state.calls ≤ 4 * after.contents.length ∧
        (after.heap.state.calls ≠ [] → 2 ^ after.heap.state.calls.length ≤ 4 * after.contents.length))
      (bufferStart (heap.audit [])) (chunks.map .appendBytes) := by
  have serves' : Serves ndebug (audited allocator) (fun heap => valid heap.unaudited) := by
    intro release heap old newsize after current nonzero called
    obtain ⟨⟨ptr, inner⟩, returned, recorded⟩ := map_ok_inv called
    cases recorded
    exact serves release heap.unaudited old newsize inner current nonzero returned
  have start : BufferValid (fun heap => valid heap.unaudited) (fun record => live record.state)
      (bufferStart (heap.audit [])) := ⟨initial, UInt64.le_rfl, rfl⟩
  have appends : ∀ op ∈ chunks.map BufferOp.appendBytes, ∃ data, op = .appendBytes data := by
    intro op member
    obtain ⟨data, _, rfl⟩ := List.mem_map.mp member
    exact ⟨data, rfl⟩
  apply Machine.alwaysUnless_of_guarded (fun state => BufferValid (fun heap => valid heap.unaudited)
    (fun record => live record.state) state ∧ Geometric state) _
    ⟨start, ⟨Nat.le_refl 0, Nat.le_refl 0, fun calls => absurd rfl calls⟩⟩ (permitted.and_inputs appends)
  rintro state op ⟨bufferValid, geometric⟩ ⟨allowed, data, rfl⟩
  have served (newsize : SizeT)
      (requested : newsize ∈ (BufferOp.appendBytes data).requested fuel state.buffer) :
      Served ndebug (audited allocator) state.heap state.buffer.bytes newsize :=
    serves'.served bufferValid rounds allowed requested
  rcases bufferStep_refines reallocs.audited writes.audited bufferValid rounds allowed served with
    stopped | ⟨reply, next, stepped, refines, kept⟩
  · exact Or.inl stopped
  · have geometric' :=
      append_geometric bufferValid.order allowed geometric refines.append_len served stepped
    obtain ⟨capacity, bytes, count⟩ := id geometric'
    refine Or.inr ⟨reply, next, stepped, ?_, kept, geometric'⟩
    rw [next.contents_length]
    refine ⟨capacity, by omega, fun calls => ?_⟩
    have earlier := count calls
    omega

/-- Three appends of one, three and two bytes. -/
def smallChunks : List Area := [⟨1, [40], rfl⟩, ⟨3, [41, 42, 43], rfl⟩, ⟨2, [44, 45], rfl⟩]

theorem appends_amortised_bump :
    (bufferStep 64 false (audited bumpAllocator)).AlwaysUnless (fun fault => fault = .allocation)
      (fun _ _ _ after => after.buffer.cap.toNat ≤ 2 * after.contents.length ∧
        reallocBytes after.heap.state.calls ≤ 4 * after.contents.length ∧
        (after.heap.state.calls ≠ [] → 2 ^ after.heap.state.calls.length ≤ 4 * after.contents.length))
      (bufferStart (bumpHeap.audit [])) (smallChunks.map .appendBytes) :=
  appends_amortised false (fun release => absurd release Bool.false_ne_true) bumpAllocator_realloc
    bumpAllocator_writes (Nat.le_refl 64) bumpHeap_valid smallChunks (by decide +kernel)

end Xstd.Bytes
