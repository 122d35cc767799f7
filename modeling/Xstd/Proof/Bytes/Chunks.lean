import Xstd.Proof.Bytes.Buffer
import Xstd.Proof.Bytes.Loop

/-
This file proves that the appends of a run depend only on the bytes that they append together.
-/

namespace Xstd.Bytes

open Library

variable {S : Type} {allocator : Allocator S} {valid : Heap S → Prop} {live : S → Set Region}
  {fuel : ℕ} {ndebug : Bool} {state : BufferState S}

/-- The reallocation returns a block. -/
def Supplies (allocator : Allocator S) (heap : Heap S) (old : Addr) (newsize : SizeT) : Prop :=
  ∃ result ∈ (allocator.realloc heap old newsize).toOption, result.1 ≠ 0

instance (allocator : Allocator S) (heap : Heap S) (old : Addr) (newsize : SizeT) :
    Decidable (Supplies allocator heap old newsize) :=
  Option.decidableExistsMem _

/-- The allocator returns a block to this operation whenever it asks for one. -/
def BufferOp.Supplied (fuel : ℕ) (allocator : Allocator S) (state : BufferState S) (op : BufferOp) : Prop :=
  ∀ newsize ∈ op.requested fuel state.buffer, Supplies allocator state.heap state.buffer.bytes newsize

instance (fuel : ℕ) (allocator : Allocator S) (state : BufferState S) (op : BufferOp) :
    Decidable (op.Supplied fuel allocator state) :=
  Option.decidableForallMem _

theorem Supplies.returns {heap : Heap S} {old : Addr} {newsize : SizeT}
    (supplies : Supplies allocator heap old newsize) :
    ∃ ptr after, allocator.realloc heap old newsize = .ok (ptr, after) ∧ ptr ≠ 0 := by
  obtain ⟨⟨ptr, after⟩, called, found⟩ := supplies
  cases returned : allocator.realloc heap old newsize with
  | error fault =>
      rw [returned] at called
      cases called
  | ok result =>
      rw [returned] at called
      cases called
      exact ⟨ptr, after, rfl, found⟩

theorem Supplies.served {heap : Heap S} {old : Addr} {newsize : SizeT}
    (supplies : Supplies allocator heap old newsize) : Served ndebug allocator heap old newsize := by
  intro _ after null
  obtain ⟨ptr, after', called, found⟩ := supplies.returns
  rw [called] at null
  cases null
  exact found rfl

/-- A resize with a block to return does not stop. -/
theorem Supplies.resizes {buffer : BytesBuffer} {heap : Heap S} {newsize : SizeT}
    (supplies : Supplies allocator heap buffer.bytes newsize) :
    bytesBufferResize ndebug allocator buffer heap newsize ≠ .error .allocation := by
  obtain ⟨ptr, after, called, found⟩ := supplies.returns
  simp only [bytesBufferResize, allocRealloc, called, Except.bind, assertNonNull, found, false_and,
    if_false]
  split
  · exact fun same => by cases same
  · exact fun same => by cases same

/-- A resize to the capacity that is already set keeps it. -/
theorem bytesBufferResize_cap {buffer after : BytesBuffer} {heap heap' : Heap S} {done : Bool}
    (resized : bytesBufferResize ndebug allocator buffer heap buffer.cap = .ok (done, after, heap')) :
    after.cap = buffer.cap := by
  unfold bytesBufferResize at resized
  split at resized
  · cases resized
  · split at resized
    · cases resized
      rfl
    · simp only at resized
      split at resized
      · cases resized
        rfl
      · cases resized
        rfl

/-- An append leaves the capacity that its loop reached. -/
theorem append_grown {buffer : BytesBuffer} {heap : Heap S} {data : Area} {result : BufferResult S SizeT}
    (appended : bytesBufferAppendBytes fuel ndebug allocator buffer heap data = .ok result) :
    ∃ grown, growCapacity data.size fuel buffer = .ok grown ∧ result.buffer.cap = grown.cap := by
  unfold bytesBufferAppendBytes at appended
  cases grows : growCapacity data.size fuel buffer with
  | error fault =>
      rw [grows] at appended
      cases appended
  | ok grown =>
      refine ⟨grown, rfl, ?_⟩
      rw [grows] at appended
      simp only at appended
      split at appended
      · cases appended
      · rename_i after heap' resized
        cases appended
        split at resized
        · exact bytesBufferResize_cap resized
        · cases resized
      · rename_i after heap' resized
        cases appended
        show after.cap = grown.cap
        split at resized
        · exact bytesBufferResize_cap resized
        · cases resized
          rfl

/-- The capacity is the first one that the loop of doublings reaches for the length. -/
def Doubled (before after : BytesBuffer) : Prop :=
  ∃ count, ExitsAfter doubled (after.len.toNat ≤ ·) before.cap.toNat count ∧
    after.cap.toNat = doubled^[count] before.cap.toNat

theorem Doubled.refl {buffer : BytesBuffer} (order : buffer.len ≤ buffer.cap) : Doubled buffer buffer :=
  ⟨0, ExitsAfter.zero (UInt64.le_iff_toNat_le.mp order), rfl⟩

/-- What an append reaches from a reached capacity it also reaches at once. -/
theorem Doubled.trans {first second third : BytesBuffer} (earlier : Doubled first second)
    (later : Doubled second third) (longer : second.len.toNat ≤ third.len.toNat) :
    Doubled first third := by
  obtain ⟨count, exits, reached⟩ := earlier
  obtain ⟨count', exits', reached'⟩ := later
  rw [reached] at exits' reached'
  refine ⟨count + count', exits.trans (fun _ enough => longer.trans enough) exits', ?_⟩
  rw [Nat.add_comm, Function.iterate_add_apply]
  exact reached'

/-- The length determines the capacity. -/
theorem Doubled.cap_eq {before after after' : BytesBuffer} (first : Doubled before after)
    (second : Doubled before after') (same : after.len = after'.len) : after.cap = after'.cap := by
  obtain ⟨count, exits, reached⟩ := first
  obtain ⟨count', exits', reached'⟩ := second
  rw [same] at exits
  obtain rfl := exits.unique exits'
  exact UInt64.toNat_inj.mp (reached.trans reached'.symm)

/-- The buffer holds these bytes more, in the capacity that the doublings reach. -/
structure Appended (valid : Heap S → Prop) (live : S → Set Region) (before : BufferState S)
    (bytes : List UInt8) (after : BufferState S) : Prop where
  bufferValid : BufferValid valid live after
  contents : after.contents = before.contents ++ bytes
  capacity : Doubled before.buffer after.buffer

theorem Appended.len {bytes : List UInt8} {after : BufferState S}
    (appended : Appended valid live state bytes after) :
    after.buffer.len.toNat = state.buffer.len.toNat + bytes.length := by
  rw [← BufferState.contents_length, appended.contents, List.length_append, state.contents_length]

/-- A supplied append does not stop. -/
theorem append_supplied (order : state.buffer.len ≤ state.buffer.cap) (rounds : 64 ≤ fuel) {data : Area}
    (small : state.buffer.len.toNat + data.size.toNat ≤ 2 ^ 63)
    (supplied : (BufferOp.appendBytes data).Supplied fuel allocator state) :
    bytesBufferAppendBytes fuel ndebug allocator state.buffer state.heap data ≠ .error .allocation := by
  obtain ⟨cap, grows, _, _⟩ := growCapacity_grows order small rounds
  by_cases short : bytesBufferAvailable state.buffer < data.size
  · have requested : cap ∈ (BufferOp.appendBytes data).requested fuel state.buffer := by
      rw [BufferOp.requested, if_pos short, grows]
      rfl
    have supplies : Supplies allocator state.heap { state.buffer with cap := cap }.bytes cap :=
      supplied cap requested
    intro stopped
    simp only [bytesBufferAppendBytes, grows, if_pos short] at stopped
    split at stopped
    · rename_i fault resized
      cases stopped
      exact supplies.resizes resized
    · cases stopped
    · cases stopped
  · intro stopped
    simp only [bytesBufferAppendBytes, grows, if_neg short] at stopped
    cases stopped

/-- A supplied append appends. -/
theorem append_appends (reallocs : LawfulRealloc allocator valid live) (writes : LawfulWrites valid live)
    (bufferValid : BufferValid valid live state) (rounds : 64 ≤ fuel) {data : Area}
    (small : state.buffer.len.toNat + data.bytes.length ≤ 2 ^ 63)
    (supplied : (BufferOp.appendBytes data).Supplied fuel allocator state) :
    ∃ reply next, bufferStep fuel ndebug allocator state (.appendBytes data) = .ok (reply, next) ∧
      Appended valid live state data.bytes next := by
  rw [data.sized] at small
  have served : ∀ newsize ∈ (BufferOp.appendBytes data).requested fuel state.buffer,
      Served ndebug allocator state.heap state.buffer.bytes newsize :=
    fun newsize requested => (supplied newsize requested).served
  rcases append_refines reallocs writes bufferValid rounds small served with
    stopped | ⟨result, called, kept, contents, _⟩
  · exact absurd stopped (append_supplied bufferValid.order rounds small supplied)
  · obtain ⟨grown, grows, same⟩ := append_grown called
    obtain ⟨count, exits, reached⟩ := growCapacity_exits bufferValid.order small grows
    have length : result.buffer.len.toNat = state.buffer.len.toNat + data.size.toNat := by
      have lengths := congrArg List.length contents
      rw [BufferState.contents_length, List.length_append, state.contents_length, data.sized] at lengths
      exact lengths
    refine ⟨_, ⟨result.buffer, result.heap⟩, by simp only [bufferStep, called]; rfl, kept, contents,
      count, ?_, ?_⟩
    · rw [length]
      exact exits
    · rw [same]
      exact reached

/-- A run of supplied appends appends all its bytes. -/
theorem appends_append (reallocs : LawfulRealloc allocator valid live) (writes : LawfulWrites valid live)
    (ndebug : Bool) (rounds : 64 ≤ fuel) (chunks : List Area) (bufferValid : BufferValid valid live state)
    (small : state.buffer.len.toNat + (chunks.flatMap Area.bytes).length ≤ 2 ^ 63)
    (supplied : (bufferStep fuel ndebug allocator).Guarded (BufferOp.Supplied fuel allocator) state
      (chunks.map BufferOp.appendBytes)) :
    ∃ replies final,
      (bufferStep fuel ndebug allocator).run state (chunks.map BufferOp.appendBytes) =
        .ok (replies, final) ∧ Appended valid live state (chunks.flatMap Area.bytes) final := by
  induction chunks generalizing state with
  | nil =>
      refine ⟨[], state, rfl, bufferValid, ?_, Doubled.refl bufferValid.order⟩
      exact (List.append_nil _).symm
  | cons data chunks ih =>
      rw [List.flatMap_cons, List.length_append, ← Nat.add_assoc] at small
      obtain ⟨reply, next, stepped, first⟩ := append_appends reallocs writes bufferValid rounds
        (le_trans (Nat.le_add_right _ _) small) supplied.1
      rw [← first.len] at small
      obtain ⟨replies, final, ran, rest⟩ := ih first.bufferValid small (supplied.2 reply next stepped)
      refine ⟨reply :: replies, final, ?_, rest.bufferValid, ?_, first.capacity.trans rest.capacity ?_⟩
      · rw [List.map_cons, Machine.run_cons_of_ok _ stepped, ran]
        rfl
      · rw [rest.contents, first.contents, List.flatMap_cons, List.append_assoc]
      · rw [rest.len]
        exact Nat.le_add_right _ _

/-- The same bytes in any chunks lead to the same contents, length and capacity. From an empty buffer, the
capacity is the least power of two that holds the bytes. -/
theorem append_ignores_chunks (reallocs : LawfulRealloc allocator valid live)
    (writes : LawfulWrites valid live) (ndebug : Bool) (rounds : 64 ≤ fuel) :
    (∀ (state : BufferState S) (xs ys whole : Area), BufferValid valid live state →
      whole.bytes = xs.bytes ++ ys.bytes →
      state.buffer.len.toNat + xs.bytes.length + ys.bytes.length ≤ 2 ^ 63 →
      (bufferStep fuel ndebug allocator).Guarded (BufferOp.Supplied fuel allocator) state
        [.appendBytes xs, .appendBytes ys] →
      (bufferStep fuel ndebug allocator).Guarded (BufferOp.Supplied fuel allocator) state
        [.appendBytes whole] →
      ∃ replies twice replies' once,
        (bufferStep fuel ndebug allocator).run state [.appendBytes xs, .appendBytes ys] =
          .ok (replies, twice) ∧
        (bufferStep fuel ndebug allocator).run state [.appendBytes whole] = .ok (replies', once) ∧
        twice.contents = once.contents ∧ twice.buffer.len = once.buffer.len ∧
        twice.buffer.cap = once.buffer.cap) ∧
    (∀ (heap : Heap S) (chunks : List Area), valid heap →
      0 < (chunks.flatMap Area.bytes).length → (chunks.flatMap Area.bytes).length ≤ 2 ^ 63 →
      (bufferStep fuel ndebug allocator).Guarded (BufferOp.Supplied fuel allocator) (bufferStart heap)
        (chunks.map BufferOp.appendBytes) →
      ∃ replies final power,
        (bufferStep fuel ndebug allocator).run (bufferStart heap) (chunks.map BufferOp.appendBytes) =
          .ok (replies, final) ∧
        final.contents = chunks.flatMap Area.bytes ∧ final.buffer.cap.toNat = 2 ^ power ∧
        final.buffer.len.toNat ≤ 2 ^ power ∧
        (∀ other, final.buffer.len.toNat ≤ 2 ^ other → 2 ^ power ≤ 2 ^ other) ∧
        final.buffer.cap.toNat < 2 * final.buffer.len.toNat) := by
  constructor
  · intro state xs ys whole bufferValid split small supplied supplied'
    have both : [xs, ys].flatMap Area.bytes = whole.bytes := by
      simp only [List.flatMap_cons, List.flatMap_nil, List.append_nil, split]
    have single : [whole].flatMap Area.bytes = whole.bytes := List.append_nil _
    have total : state.buffer.len.toNat + whole.bytes.length ≤ 2 ^ 63 := by
      rw [split, List.length_append, ← Nat.add_assoc]
      exact small
    obtain ⟨replies, twice, ran, appended⟩ := appends_append reallocs writes ndebug rounds [xs, ys]
      bufferValid (both ▸ total) supplied
    obtain ⟨replies', once, ran', appended'⟩ := appends_append reallocs writes ndebug rounds [whole]
      bufferValid (single ▸ total) supplied'
    rw [both] at appended
    rw [single] at appended'
    have lengths : twice.buffer.len = once.buffer.len :=
      UInt64.toNat_inj.mp (appended.len.trans appended'.len.symm)
    exact ⟨replies, twice, replies', once, ran, ran', appended.contents.trans appended'.contents.symm,
      lengths, appended.capacity.cap_eq appended'.capacity lengths⟩
  · intro heap chunks initial nonempty small supplied
    have start : BufferValid valid live (bufferStart heap) := ⟨initial, UInt64.le_rfl, rfl⟩
    have length : (bufferStart heap).buffer.len.toNat + (chunks.flatMap Area.bytes).length =
        (chunks.flatMap Area.bytes).length := Nat.zero_add _
    obtain ⟨replies, final, ran, appended⟩ := appends_append reallocs writes ndebug rounds chunks start
      (length.trans_le small) supplied
    obtain ⟨count, exits, reached⟩ := appended.capacity
    have positive : 0 < final.buffer.len.toNat := by
      rw [appended.len, length]
      exact nonempty
    obtain ⟨power, same, least, close⟩ := doubled_exits_zero positive exits
    refine ⟨replies, final, power, ran, appended.contents, reached.trans same, same ▸ exits.reached, least,
      ?_⟩
    rw [reached]
    exact same ▸ close

/-- Five bytes, appended as three and two or at once, take a capacity of 8. -/
theorem append_ignores_chunks_bump :
    let step := bufferStep 64 false bumpAllocator
    let start := bufferStart bumpHeap
    let ops := [BufferOp.appendBytes ⟨3, [1, 2, 3], rfl⟩, .appendBytes ⟨2, [4, 5], rfl⟩]
    (∃ replies twice replies' once, step.run start ops = .ok (replies, twice) ∧
      step.run start [.appendBytes ⟨5, [1, 2, 3, 4, 5], rfl⟩] = .ok (replies', once) ∧
      twice.contents = once.contents ∧ twice.buffer.len = once.buffer.len ∧
      twice.buffer.cap = once.buffer.cap) ∧
    ∃ replies final power, step.run start ops = .ok (replies, final) ∧
      final.contents = [1, 2, 3, 4, 5] ∧ final.buffer.cap.toNat = 2 ^ power ∧
      final.buffer.len.toNat ≤ 2 ^ power ∧
      (∀ other, final.buffer.len.toNat ≤ 2 ^ other → 2 ^ power ≤ 2 ^ other) ∧
      final.buffer.cap.toNat < 2 * final.buffer.len.toNat := by
  have both := append_ignores_chunks bumpAllocator_realloc bumpAllocator_writes false (Nat.le_refl 64)
  constructor
  · exact both.1 (bufferStart bumpHeap) ⟨3, [1, 2, 3], rfl⟩ ⟨2, [4, 5], rfl⟩ ⟨5, [1, 2, 3, 4, 5], rfl⟩
      ⟨bumpHeap_valid, UInt64.le_rfl, rfl⟩ rfl (by decide) (by decide +kernel) (by decide +kernel)
  · exact both.2 bumpHeap [⟨3, [1, 2, 3], rfl⟩, ⟨2, [4, 5], rfl⟩] bumpHeap_valid (by decide) (by decide)
      (by decide +kernel)

end Xstd.Bytes
