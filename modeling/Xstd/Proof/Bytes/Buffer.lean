import Xstd.Proof.Bytes.Growth
import Xstd.Proof.BumpAllocator

/-
This file proves that `BytesBuffer` refines a list of bytes.
-/

namespace Xstd.Bytes

open Library

variable {S : Type} {allocator : Allocator S} {valid : Heap S → Prop} {live : S → Set Region}

/-- The pointer holds a live block of `cap` bytes, or it is `NULL` and `cap` is 0. -/
def Owned (live : S → Set Region) (state : S) (bytes : Addr) (cap : SizeT) : Prop :=
  if cap = 0 then bytes = 0 else bytes ≠ 0 ∧ (⟨bytes.toNat, cap.toNat⟩ : Region) ∈ live state

def BufferState.contents (state : BufferState S) : List UInt8 :=
  (bytesBufferBytes state.buffer).contents state.heap.memory

theorem BufferState.contents_length (state : BufferState S) :
    state.contents.length = state.buffer.len.toNat :=
  Memory.read_length _ _ _

/-- The cursor stays in the capacity, and the capacity is the size of the block. -/
structure BufferValid (valid : Heap S → Prop) (live : S → Set Region) (state : BufferState S) : Prop where
  heap : valid state.heap
  order : state.buffer.len ≤ state.buffer.cap
  owned : Owned live state.heap.state state.buffer.bytes state.buffer.cap

/-- The operation kept to the block and computed what the model computes. -/
structure Refines (live : S → Set Region) (before : BufferState S) (op : BufferOp)
    (reply : BufferReply) (after : BufferState S) : Prop where
  order : after.buffer.len ≤ after.buffer.cap
  owned : Owned live after.heap.state after.buffer.bytes after.buffer.cap
  inside : ∀ region ∈ reply.writes,
    region.Within ⟨after.buffer.bytes.toNat, after.buffer.cap.toNat⟩
  contents : after.contents = modelStep before.buffer.cap.toNat before.contents op

/-- Appends stay below `2^63`, and no resize asks for nothing. -/
def BufferOp.Permitted (len : SizeT) : BufferOp → Prop
  | .appendBytes data => len.toNat + data.size.toNat ≤ 2 ^ 63
  | .resize newCapacity => newCapacity ≠ 0
  | .reset | .fill _ | .fillAvailable _ => True

instance (len : SizeT) : (op : BufferOp) → Decidable (op.Permitted len)
  | .appendBytes data => inferInstanceAs (Decidable (len.toNat + data.size.toNat ≤ 2 ^ 63))
  | .resize newCapacity => inferInstanceAs (Decidable (newCapacity ≠ 0))
  | .reset | .fill _ | .fillAvailable _ => isTrue trivial

/-- In a build without assertions, no reallocation returns `NULL`. -/
def Serves (ndebug : Bool) (allocator : Allocator S) (valid : Heap S → Prop) : Prop :=
  ndebug = true → ∀ heap old newsize after, valid heap → newsize ≠ 0 →
    allocator.realloc heap old newsize ≠ .ok (0, after)

/-- The size that the operation asks of `realloc`. -/
def BufferOp.requested (fuel : ℕ) (buffer : BytesBuffer) : BufferOp → Option SizeT
  | .appendBytes data =>
      if bytesBufferAvailable buffer < data.size then
        (growCapacity data.size fuel buffer).toOption.map BytesBuffer.cap
      else
        none
  | .resize newCapacity => some newCapacity
  | .reset | .fill _ | .fillAvailable _ => none

/-- In a build without assertions, this reallocation does not return `NULL`. -/
def Served (ndebug : Bool) (allocator : Allocator S) (heap : Heap S) (old : Addr) (newsize : SizeT) :
    Prop :=
  ndebug = true → ∀ after, allocator.realloc heap old newsize ≠ .ok (0, after)

/-- A `NULL` of the allocator stops the run. -/
theorem allocRealloc_null {ndebug : Bool} {heap after : Heap S} {old : Addr} {newsize : SizeT}
    (served : Served ndebug allocator heap old newsize)
    (called : allocator.realloc heap old newsize = .ok (0, after)) :
    allocRealloc ndebug allocator heap old newsize = .error .allocation := by
  cases ndebug with
  | false => simp [allocRealloc, called, Except.bind, assertNonNull]
  | true => exact absurd called (served rfl after)

/-- A reallocation that returns keeps the front of the block. -/
theorem allocRealloc_cases {ndebug : Bool} (reallocs : LawfulRealloc allocator valid live)
    {heap : Heap S} (current : valid heap) {bytes : Addr} {cap : SizeT}
    (owned : Owned live heap.state bytes cap) {newsize : SizeT} (nonzero : newsize ≠ 0)
    (served : Served ndebug allocator heap bytes newsize) :
    allocRealloc ndebug allocator heap bytes newsize = .error .allocation ∨
      ∃ ptr after, allocRealloc ndebug allocator heap bytes newsize = .ok (ptr, after) ∧ ptr ≠ 0 ∧
        valid after ∧ Owned live after.state ptr newsize ∧
        ∀ index, index < cap.toNat → index < newsize.toNat →
          after.memory (ptr.toNat + index) = heap.memory (bytes.toNat + index) := by
  unfold Owned at owned
  split at owned
  · rename_i empty
    subst owned
    rcases reallocs.allocates heap newsize current nonzero with
      stopped | ⟨ptr, after, called, kept, _, granted⟩
    · left
      simp [allocRealloc, stopped, Except.bind]
    · rcases Classical.em (ptr = 0) with null | found
      · left
        exact allocRealloc_null served (null ▸ called)
      · right
        refine ⟨ptr, after, ?_, found, kept, ?_, ?_⟩
        · simp [allocRealloc, called, Except.bind, assertNonNull, found]
        · rw [Owned, if_neg nonzero, (granted found).live]
          exact ⟨found, Set.mem_insert _ _⟩
        · intro index inside
          rw [empty] at inside
          exact absurd inside (Nat.not_lt_zero index)
  · obtain ⟨listed, held⟩ := owned
    rcases reallocs.moves heap bytes cap.toNat newsize current nonzero held listed with
      stopped | ⟨ptr, after, called, kept, _, granted⟩
    · left
      simp [allocRealloc, stopped, Except.bind]
    · rcases Classical.em (ptr = 0) with null | found
      · left
        exact allocRealloc_null served (null ▸ called)
      · right
        refine ⟨ptr, after, ?_, found, kept, ?_, (granted found).2⟩
        · simp [allocRealloc, called, Except.bind, assertNonNull, found]
        · rw [Owned, if_neg nonzero, (granted found).1.live]
          exact ⟨found, Set.mem_insert _ _⟩

/-- A resize keeps the front of the contents. -/
theorem bytesBufferResize_cases {ndebug : Bool} (reallocs : LawfulRealloc allocator valid live)
    {heap : Heap S} (current : valid heap) (buffer : BytesBuffer) {cap : SizeT}
    (owned : Owned live heap.state buffer.bytes cap) (order : buffer.len ≤ cap) {newCapacity : SizeT}
    (nonzero : newCapacity ≠ 0) (served : Served ndebug allocator heap buffer.bytes newCapacity) :
    bytesBufferResize ndebug allocator buffer heap newCapacity = .error .allocation ∨
      ∃ after : BufferState S, bytesBufferResize ndebug allocator buffer heap newCapacity =
          .ok (true, after.buffer, after.heap) ∧
        BufferValid valid live after ∧ after.buffer.cap = newCapacity ∧
        after.buffer.len.toNat = min newCapacity.toNat buffer.len.toNat ∧
        after.contents = (heap.memory.read buffer.bytes.toNat buffer.len.toNat).take newCapacity.toNat := by
  rcases allocRealloc_cases reallocs current owned nonzero served with
    stopped | ⟨ptr, after, called, found, kept, owned', moved⟩
  · left
    simp [bytesBufferResize, stopped]
  · right
    let len := if newCapacity < buffer.len then newCapacity else buffer.len
    have smaller : len.toNat = min newCapacity.toNat buffer.len.toNat := toNat_smaller _ _
    have ordered := UInt64.le_iff_toNat_le.mp order
    refine ⟨⟨⟨ptr, len, newCapacity⟩, after⟩, ?_, ⟨kept, ?_, owned'⟩, rfl, smaller, ?_⟩
    · simp only [bytesBufferResize, called, if_neg found, len]
      split <;> rfl
    · rw [UInt64.le_iff_toNat_le]
      change len.toNat ≤ newCapacity.toNat
      omega
    · rw [Memory.read_take]
      change after.memory.read ptr.toNat len.toNat = _
      rw [smaller]
      apply Memory.read_congr
      intro index inside
      apply moved index <;> omega

variable {state : BufferState S} {base : ℕ} {bytes : List UInt8}

/-- A store inside the block keeps the buffer valid at any length up to the capacity. -/
theorem BufferValid.store (bufferValid : BufferValid valid live state) (writes : LawfulWrites valid live)
    (inside : Region.Within ⟨base, bytes.length⟩
      ⟨state.buffer.bytes.toNat, state.buffer.cap.toNat⟩)
    {len : SizeT} (order : len ≤ state.buffer.cap) :
    BufferValid valid live ⟨{ state.buffer with len := len }, storeBytes state.heap base bytes⟩ where
  heap := by
    have owned := bufferValid.owned
    unfold Owned at owned
    split at owned
    · rename_i empty
      have nothing : bytes = [] := by
        rw [empty] at inside
        have none := inside.1
        have above := inside.2
        change base + bytes.length ≤ state.buffer.bytes.toNat + 0 at above
        apply List.length_eq_zero_iff.mp
        change state.buffer.bytes.toNat ≤ base at none
        omega
      rw [nothing, storeBytes, Memory.write_nil]
      exact bufferValid.heap
    · exact writes.keeps _ _ _ _ bufferValid.heap owned.2 inside
  order := order
  owned := bufferValid.owned

/-- The end of an append stores the data behind the contents. -/
theorem append_stores (bufferValid : BufferValid valid live state) (writes : LawfulWrites valid live)
    {data : Area} (room : state.buffer.len.toNat + data.size.toNat ≤ state.buffer.cap.toNat) :
    let base := state.buffer.bytes.toNat + state.buffer.len.toNat
    let after : BufferState S := ⟨{ state.buffer with len := state.buffer.len + data.size },
      storeBytes state.heap base data.bytes⟩
    BufferValid valid live after ∧ after.contents = state.contents ++ data.bytes ∧
      Region.Within ⟨base, data.size.toNat⟩
        ⟨after.buffer.bytes.toNat, after.buffer.cap.toNat⟩ := by
  have bound := state.buffer.cap.toNat_lt
  have total : (state.buffer.len + data.size).toNat = state.buffer.len.toNat + data.size.toNat := by
    apply toNat_add_of_lt
    omega
  have inside : Region.Within
      ⟨state.buffer.bytes.toNat + state.buffer.len.toNat, data.size.toNat⟩
      ⟨state.buffer.bytes.toNat, state.buffer.cap.toNat⟩ := by
    simp only [Region.Within]
    omega
  have order : state.buffer.len + data.size ≤ state.buffer.cap := by
    rw [UInt64.le_iff_toNat_le, total]
    exact room
  intro base after
  refine ⟨bufferValid.store writes (data.sized ▸ inside) order, ?_, inside⟩
  change Memory.read _ state.buffer.bytes.toNat (state.buffer.len + data.size).toNat = _
  rw [total, ← data.sized]
  exact Memory.read_write_append _ _ _ _

/-- An append keeps the buffer valid and appends, or it stops at an assertion of `alloc.h`. -/
theorem append_refines {ndebug : Bool} (reallocs : LawfulRealloc allocator valid live)
    (writes : LawfulWrites valid live) (bufferValid : BufferValid valid live state) {fuel : ℕ}
    (rounds : 64 ≤ fuel) {data : Area}
    (small : state.buffer.len.toNat + data.size.toNat ≤ 2 ^ 63)
    (served : ∀ newsize ∈ (BufferOp.appendBytes data).requested fuel state.buffer,
      Served ndebug allocator state.heap state.buffer.bytes newsize) :
    let call := bytesBufferAppendBytes fuel ndebug allocator state.buffer state.heap data
    call = .error .allocation ∨ ∃ result, call = .ok result ∧
      BufferValid valid live ⟨result.buffer, result.heap⟩ ∧
      (⟨result.buffer, result.heap⟩ : BufferState S).contents = state.contents ++ data.bytes ∧
      ∀ region ∈ result.writes, region.Within ⟨result.buffer.bytes.toNat, result.buffer.cap.toNat⟩ := by
  intro call
  obtain ⟨cap, grows, larger, room⟩ := growCapacity_grows bufferValid.order small rounds
  have ordered := UInt64.le_iff_toNat_le.mp bufferValid.order
  have above := UInt64.le_iff_toNat_le.mp larger
  rcases Classical.em (bytesBufferAvailable state.buffer < data.size) with short | enough
  · have less := (available_lt_iff bufferValid.order data.size).mp short
    have nonzero : cap ≠ 0 := by
      apply (toNat_pos_iff _).mp
      omega
    have requested : cap ∈ (BufferOp.appendBytes data).requested fuel state.buffer := by
      rw [BufferOp.requested, if_pos short, grows]
      rfl
    rcases bytesBufferResize_cases reallocs bufferValid.heap { state.buffer with cap := cap }
        bufferValid.owned bufferValid.order nonzero (served cap requested) with
      stopped | ⟨after, resized, kept, capacity, length, contents⟩
    · left
      simp only [call, bytesBufferAppendBytes, grows, if_pos short, stopped]
    · right
      have whole : after.contents = state.contents := by
        rw [contents]
        apply List.take_of_length_le
        rw [Memory.read_length]
        change state.buffer.len.toNat ≤ cap.toNat
        omega
      have fits : after.buffer.len.toNat + data.size.toNat ≤ after.buffer.cap.toNat := by
        rw [length, capacity]
        change min cap.toNat state.buffer.len.toNat + data.size.toNat ≤ cap.toNat
        omega
      obtain ⟨valid', appended, inside⟩ := append_stores kept writes fits
      refine ⟨_, by simp only [call, bytesBufferAppendBytes, grows, if_pos short, resized]; rfl,
        valid', whole ▸ appended, ?_⟩
      intro region member
      rw [List.mem_singleton.mp member]
      exact inside
  · right
    have fits : state.buffer.len.toNat + data.size.toNat ≤ state.buffer.cap.toNat := by
      rw [available_lt_iff bufferValid.order] at enough
      exact Nat.not_lt.mp enough
    have same := growCapacity_stop enough fuel
    obtain ⟨valid', appended, inside⟩ := append_stores bufferValid writes fits
    refine ⟨_, by simp only [call, bytesBufferAppendBytes, same, if_neg enough]; rfl, valid',
      appended, ?_⟩
    intro region member
    rw [List.mem_singleton.mp member]
    exact inside

/-- A `memset` from the end of a part of the contents to the end of the block. -/
theorem fill_stores (bufferValid : BufferValid valid live state) (writes : LawfulWrites valid live)
    {kept : ℕ} (below : kept ≤ state.buffer.len.toNat) {count : ℕ}
    (whole : kept + count = state.buffer.cap.toNat) (byte : UInt8) :
    let base := state.buffer.bytes.toNat + kept
    let after : BufferState S := ⟨{ state.buffer with len := state.buffer.cap },
      storeBytes state.heap base (List.replicate count byte)⟩
    BufferValid valid live after ∧
      after.contents = state.contents.take kept ++ List.replicate count byte ∧
      Region.Within ⟨base, count⟩ ⟨after.buffer.bytes.toNat, after.buffer.cap.toNat⟩ := by
  have length : (List.replicate count byte).length = count := List.length_replicate
  have inside : Region.Within ⟨state.buffer.bytes.toNat + kept, count⟩
      ⟨state.buffer.bytes.toNat, state.buffer.cap.toNat⟩ := by
    simp only [Region.Within]
    omega
  intro base after
  refine ⟨bufferValid.store writes (by rwa [length]) UInt64.le_rfl, ?_, inside⟩
  have front : state.contents.take kept = state.heap.memory.read state.buffer.bytes.toNat kept := by
    change (state.heap.memory.read state.buffer.bytes.toNat state.buffer.len.toNat).take kept = _
    rw [Memory.read_take, Nat.min_eq_left below]
  rw [front]
  change Memory.read _ state.buffer.bytes.toNat state.buffer.cap.toNat = _
  rw [← whole]
  have stored := Memory.read_write_append state.heap.memory state.buffer.bytes.toNat kept
    (List.replicate count byte)
  rwa [length] at stored

/-- Every permitted operation refines the model, or it stops at an assertion of `alloc.h`. -/
theorem bufferStep_refines {ndebug : Bool} (reallocs : LawfulRealloc allocator valid live)
    (writes : LawfulWrites valid live) (bufferValid : BufferValid valid live state) {fuel : ℕ}
    (rounds : 64 ≤ fuel) {op : BufferOp} (permitted : op.Permitted state.buffer.len)
    (served : ∀ newsize ∈ op.requested fuel state.buffer,
      Served ndebug allocator state.heap state.buffer.bytes newsize) :
    (∃ fault, bufferStep fuel ndebug allocator state op = .error fault ∧ fault = .allocation) ∨
      ∃ reply next, bufferStep fuel ndebug allocator state op = .ok (reply, next) ∧
        Refines live state op reply next ∧ BufferValid valid live next := by
  have ordered := UInt64.le_iff_toNat_le.mp bufferValid.order
  cases op with
  | appendBytes data =>
      rcases append_refines reallocs writes bufferValid rounds permitted served with
        stopped | ⟨result, called, kept, contents, inside⟩
      · left
        exact ⟨_, by simp only [bufferStep, stopped]; rfl, rfl⟩
      · right
        exact ⟨_, _, by simp only [bufferStep, called]; rfl,
          ⟨kept.order, kept.owned, inside, contents⟩, kept⟩
  | resize newCapacity =>
      rcases bytesBufferResize_cases reallocs bufferValid.heap state.buffer bufferValid.owned
          bufferValid.order permitted (served newCapacity rfl) with
        stopped | ⟨after, resized, kept, _, _, contents⟩
      · left
        exact ⟨_, by simp only [bufferStep, stopped]; rfl, rfl⟩
      · right
        exact ⟨_, after, by simp only [bufferStep, resized]; rfl,
          ⟨kept.order, kept.owned, by simp, contents⟩, kept⟩
  | reset =>
      right
      have kept : BufferValid valid live ⟨bytesBufferReset state.buffer, state.heap⟩ :=
        ⟨bufferValid.heap, UInt64.zero_le, bufferValid.owned⟩
      exact ⟨_, _, rfl, ⟨kept.order, kept.owned, by simp, rfl⟩, kept⟩
  | fill c =>
      right
      obtain ⟨kept, contents, inside⟩ := fill_stores bufferValid writes (Nat.zero_le _)
        (Nat.zero_add _) (unsignedChar c)
      refine ⟨_, _, rfl, ⟨kept.order, kept.owned, ?_, contents⟩, kept⟩
      intro region member
      rw [List.mem_singleton.mp member]
      exact inside
  | fillAvailable c =>
      right
      have free := available_toNat bufferValid.order
      have whole : state.buffer.len.toNat + (bytesBufferAvailable state.buffer).toNat =
          state.buffer.cap.toNat := by omega
      obtain ⟨kept, contents, inside⟩ := fill_stores bufferValid writes (Nat.le_refl _) whole
        (unsignedChar c)
      rw [List.take_of_length_le (Nat.le_of_eq state.contents_length)] at contents
      refine ⟨_, _, rfl, ⟨kept.order, kept.owned, ?_, ?_⟩, kept⟩
      · intro region member
        rw [List.mem_singleton.mp member]
        exact inside
      · rw [modelStep, state.contents_length, ← free]
        exact contents

/-- No permitted operation asks for nothing. -/
theorem requested_nonzero {buffer : BytesBuffer} (order : buffer.len ≤ buffer.cap) {fuel : ℕ}
    (rounds : 64 ≤ fuel) {op : BufferOp} (permitted : op.Permitted buffer.len) {newsize : SizeT}
    (requested : newsize ∈ op.requested fuel buffer) : newsize ≠ 0 := by
  cases op with
  | appendBytes data =>
      obtain ⟨cap, grows, _, room⟩ := growCapacity_grows order permitted rounds
      rw [BufferOp.requested] at requested
      split at requested
      · rename_i short
        rw [grows] at requested
        cases requested
        have less := (available_lt_iff order data.size).mp short
        apply (toNat_pos_iff _).mp
        change 0 < cap.toNat
        omega
      · cases requested
  | resize newCapacity =>
      cases requested
      exact permitted
  | reset | fill c | fillAvailable c => cases requested

/-- An allocator that never returns `NULL` serves every permitted operation. -/
theorem Serves.served {ndebug : Bool} (serves : Serves ndebug allocator valid)
    (bufferValid : BufferValid valid live state) {fuel : ℕ} (rounds : 64 ≤ fuel) {op : BufferOp}
    (permitted : op.Permitted state.buffer.len) {newsize : SizeT}
    (requested : newsize ∈ op.requested fuel state.buffer) :
    Served ndebug allocator state.heap state.buffer.bytes newsize := by
  intro release after
  have nonzero := requested_nonzero bufferValid.order rounds permitted requested
  exact serves release state.heap state.buffer.bytes newsize after bufferValid.heap nonzero

def bufferStart (heap : Heap S) : BufferState S := ⟨bytesBufferInit, heap⟩

/-- The buffer grows, shrinks below its length, and is filled, reset and filled up again. -/
def mixedOps : List BufferOp :=
  [.appendBytes ⟨3, [1, 2, 3], rfl⟩, .appendBytes ⟨2, [4, 5], rfl⟩, .resize 3, .fill 7, .reset,
    .appendBytes ⟨1, [6], rfl⟩, .fillAvailable (-1)]

end Xstd.Bytes
