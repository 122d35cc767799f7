import Xstd.Proof.Alloc
import Xstd.Proof.Bytes.Buffer

/-
This file proves which slices and which elements `BytesBuffer` hands out.
-/

namespace Xstd.Bytes

open Library

variable {S : Type} {allocator : Allocator S} {valid : Heap S → Prop} {live : S → Set Region}

/-- The valid ranges have a slice, and it denotes the bytes of its range. -/
structure SlicesExactly (state : BufferState S) (start stop : SizeT) : Prop where
  available : (bytesBufferSlice false state.buffer start stop).isSome ↔
    start ≤ stop ∧ stop ≤ state.buffer.len
  denotes : ∀ found ∈ bytesBufferSlice false state.buffer start stop,
    start.toNat + found.len.toNat = stop.toNat ∧
      found.contents state.heap.memory = (state.contents.drop start.toNat).take found.len.toNat

/-- The assertions pass for the ranges that leave the contents. -/
theorem bytesBufferSlice_isSome (buffer : BytesBuffer) (start stop : SizeT) :
    (bytesBufferSlice false buffer start stop).isSome ↔
      start ≤ buffer.len ∧ buffer.len < stop ∧ start ≤ stop := by
  simp [bytesBufferSlice]

theorem bytesBufferSlice_none {buffer : BytesBuffer} {start stop : SizeT} (inside : stop ≤ buffer.len) :
    bytesBufferSlice false buffer start stop = none := by
  rw [← Option.not_isSome_iff_eq_none, bytesBufferSlice_isSome]
  exact fun passed => UInt64.not_lt.mpr inside passed.2.1

/-- The second assertion compares the wrong way: each range that starts in the contents and does not end
before its start is decided wrongly. -/
theorem bytesBufferSlice_exact_iff (state : BufferState S) (start stop : SizeT) :
    (SlicesExactly state start stop ↔ stop < start ∨ state.buffer.len < start) ∧
      ∀ mid, start ≤ mid → mid ≤ stop → stop ≤ state.buffer.len →
        bytesBufferSlice false state.buffer start mid = none ∧
          bytesBufferSlice false state.buffer mid stop = none ∧
          bytesBufferSlice false state.buffer start stop = none := by
  constructor
  · constructor
    · intro exact
      have available := exact.available
      rw [bytesBufferSlice_isSome] at available
      simp only [UInt64.le_iff_toNat_le, UInt64.lt_iff_toNat_lt] at available ⊢
      omega
    · intro invalid
      have rejected : ¬(bytesBufferSlice false state.buffer start stop).isSome := by
        rw [bytesBufferSlice_isSome]
        simp only [UInt64.le_iff_toNat_le, UInt64.lt_iff_toNat_lt] at invalid ⊢
        omega
      constructor
      · simp only [UInt64.le_iff_toNat_le, UInt64.lt_iff_toNat_lt] at invalid ⊢
        constructor
        · exact fun accepted => absurd accepted rejected
        · omega
      · intro found member
        exact absurd (Option.isSome_of_mem member) rejected
  · intro mid _ below inside
    exact ⟨bytesBufferSlice_none (UInt64.le_trans below inside), bytesBufferSlice_none inside,
      bytesBufferSlice_none inside⟩

/-- A client appends three bytes to an empty buffer. -/
def threeBytes : List BufferOp := [.appendBytes ⟨3, [7, 8, 9], rfl⟩]

/-- The first two bytes have no slice, and a range beyond the three bytes has one. -/
theorem bytesBufferSlice_inverted :
    ∃ replies state, (bufferStep 64 false bumpAllocator).run (bufferStart bumpHeap) threeBytes =
        .ok (replies, state) ∧
      bytesBufferSlice false state.buffer 0 2 = none ∧
      (bytesBufferSlice false state.buffer 0 100).isSome ∧
      ¬SlicesExactly state 0 2 ∧ ¬SlicesExactly state 0 100 := by
  refine ⟨_, _, rfl, rfl, rfl, ?_, ?_⟩
  · exact fun exact => absurd (exact.available.mpr ⟨by decide, by decide⟩) (by decide)
  · exact fun exact => absurd (exact.available.mp rfl).2 (by decide)

variable {state : BufferState S} {fuel : ℕ}

/-- The contents of a valid buffer lie in the address space. -/
theorem BufferValid.placed (bufferValid : BufferValid valid (fitting live) state) :
    state.buffer.bytes.toNat + state.buffer.len.toNat ≤ 2 ^ 64 := by
  have order := UInt64.le_iff_toNat_le.mp bufferValid.order
  have owned := bufferValid.owned
  unfold Owned at owned
  split at owned
  · rename_i empty
    rw [empty] at order
    rw [owned]
    change 0 + state.buffer.len.toNat ≤ 2 ^ 64
    change state.buffer.len.toNat ≤ 0 at order
    omega
  · have room := owned.2.2
    change state.buffer.bytes.toNat + state.buffer.cap.toNat ≤ 2 ^ 64 at room
    omega

/-- The whole elements of the contents have a pointer, and it denotes the bytes of its element. -/
structure GetsExactly (state : BufferState S) (index elemSize : SizeT) : Prop where
  available : (bytesBufferGet false state.buffer index elemSize).isSome ↔
    (index.toNat + 1) * elemSize.toNat ≤ state.buffer.len.toNat
  denotes : ∀ ptr ∈ bytesBufferGet false state.buffer index elemSize,
    state.heap.memory.read ptr.toNat elemSize.toNat =
      (state.contents.drop (index.toNat * elemSize.toNat)).take elemSize.toNat

/-- The contents end inside the element. -/
def Straddles (len index elemSize : SizeT) : Prop :=
  index.toNat * elemSize.toNat < len.toNat ∧ len.toNat < (index.toNat + 1) * elemSize.toNat

/-- The offset of the element wraps to an offset inside the contents. -/
def Wraps (len index elemSize : SizeT) : Prop :=
  2 ^ 64 ≤ index.toNat * elemSize.toNat ∧ index * elemSize < len

theorem bytesBufferGet_isSome (buffer : BytesBuffer) (index elemSize : SizeT) :
    (bytesBufferGet false buffer index elemSize).isSome ↔ index * elemSize < buffer.len := by
  simp [bytesBufferGet]

/-- The assertion passes for the first byte of an element, or for an offset that wraps. -/
theorem bytesBufferGet_accepts (buffer : BytesBuffer) (index elemSize : SizeT) :
    (bytesBufferGet false buffer index elemSize).isSome ↔
      index.toNat * elemSize.toNat < buffer.len.toNat ∨ Wraps buffer.len index elemSize := by
  rw [bytesBufferGet_isSome, Wraps]
  have bound := buffer.len.toNat_lt
  rcases Nat.lt_or_ge (index.toNat * elemSize.toNat) (2 ^ 64) with small | large
  · rw [UInt64.lt_iff_toNat_lt, toNat_mul_of_lt small]
    omega
  · have beyond : ¬index.toNat * elemSize.toNat < buffer.len.toNat := by omega
    rw [or_iff_right beyond, and_iff_right large]

/-- A pointer to a whole element inside the contents denotes the bytes of the element. -/
theorem bytesBufferGet_denotes
    (placed : state.buffer.bytes.toNat + state.buffer.len.toNat ≤ 2 ^ 64) {index elemSize : SizeT}
    (nonzero : elemSize ≠ 0)
    (inside : (index.toNat + 1) * elemSize.toNat ≤ state.buffer.len.toNat) {ptr : Addr}
    (member : ptr ∈ bytesBufferGet false state.buffer index elemSize) :
    state.heap.memory.read ptr.toNat elemSize.toNat =
      (state.contents.drop (index.toNat * elemSize.toNat)).take elemSize.toNat := by
  have bound := state.buffer.len.toNat_lt
  have positive := (toNat_pos_iff elemSize).mpr nonzero
  rw [Nat.add_mul, Nat.one_mul] at inside
  have offset : (index * elemSize).toNat = index.toNat * elemSize.toNat :=
    toNat_mul_of_lt (by omega)
  have address : ptr.toNat = state.buffer.bytes.toNat + index.toNat * elemSize.toNat := by
    rw [bytesBufferGet] at member
    split at member
    · cases member
    · cases member
      rw [toNat_add_of_lt (by omega), offset]
  rw [address]
  exact (Memory.read_range _ _ inside).symm

/-- The assertion decides wrongly for straddling and for wrapping elements only. -/
theorem getsExactly_iff (placed : state.buffer.bytes.toNat + state.buffer.len.toNat ≤ 2 ^ 64)
    {index elemSize : SizeT} (nonzero : elemSize ≠ 0) :
    GetsExactly state index elemSize ↔
      ¬Straddles state.buffer.len index elemSize ∧ ¬Wraps state.buffer.len index elemSize := by
  have bound := state.buffer.len.toNat_lt
  have positive := (toNat_pos_iff elemSize).mpr nonzero
  have next : (index.toNat + 1) * elemSize.toNat = index.toNat * elemSize.toNat + elemSize.toNat :=
    Nat.succ_mul _ _
  have accepts := bytesBufferGet_accepts state.buffer index elemSize
  constructor
  · intro exact
    have available := exact.available
    rw [accepts] at available
    simp only [Straddles, Wraps, UInt64.lt_iff_toNat_lt] at available ⊢
    omega
  · rintro ⟨whole, exact⟩
    have inside : (bytesBufferGet false state.buffer index elemSize).isSome ↔
        (index.toNat + 1) * elemSize.toNat ≤ state.buffer.len.toNat := by
      rw [accepts]
      simp only [Straddles, Wraps, UInt64.lt_iff_toNat_lt] at whole exact ⊢
      omega
    refine ⟨inside, fun ptr member => ?_⟩
    exact bytesBufferGet_denotes placed nonzero (inside.mp (Option.isSome_of_mem member)) member

/-- The pushes append their elements, or the run stops at an assertion of `alloc.h`. -/
theorem push_run {ndebug : Bool} (serves : Serves ndebug allocator valid)
    (reallocs : LawfulRealloc allocator valid live) (writes : LawfulWrites valid live)
    (rounds : 64 ≤ fuel) (bufferValid : BufferValid valid live state) {elements : List Area}
    (small : state.buffer.len.toNat + (elements.map fun element => element.size.toNat).sum ≤ 2 ^ 63) :
    let pushed := (bufferStep fuel ndebug allocator).run state (elements.map .appendBytes)
    pushed = .error .allocation ∨ ∃ replies final, pushed = .ok (replies, final) ∧
      BufferValid valid live final ∧
      final.contents = state.contents ++ (elements.map Area.bytes).flatten := by
  induction elements generalizing state with
  | nil => exact Or.inr ⟨[], state, rfl, bufferValid, (List.append_nil _).symm⟩
  | cons element rest ih =>
      rw [List.map_cons, List.sum_cons] at small
      have permitted : (BufferOp.appendBytes element).Permitted state.buffer.len := by
        change state.buffer.len.toNat + element.size.toNat ≤ 2 ^ 63
        omega
      rcases bufferStep_refines reallocs writes bufferValid rounds permitted fun _ requested =>
          serves.served bufferValid rounds permitted requested with
        ⟨fault, stopped, rfl⟩ | ⟨reply, next, stepped, refined, kept⟩
      · left
        simp only [List.map_cons, Machine.run, stopped]
      · have appended : next.contents = state.contents ++ element.bytes := refined.contents
        have length := congrArg List.length appended
        rw [List.length_append, next.contents_length, state.contents_length, element.sized] at length
        rcases ih kept (by omega) with stopped | ⟨replies, final, ran, kept', contents⟩
        · left
          rw [List.map_cons, Machine.run_cons_of_ok _ stepped, stopped]
          rfl
        · right
          refine ⟨reply :: replies, final, ?_, kept', ?_⟩
          · rw [List.map_cons, Machine.run_cons_of_ok _ stepped, ran]
            rfl
          · rw [contents, appended, List.map_cons, List.flatten_cons, List.append_assoc]

/-- The element at an index of a concatenation of elements of one size. -/
theorem flatten_element {elements : List (List UInt8)} {size : ℕ}
    (sized : ∀ element ∈ elements, element.length = size) {index : ℕ} {element : List UInt8}
    (found : elements[index]? = some element) :
    (elements.flatten.drop (index * size)).take size = element := by
  induction elements generalizing index with
  | nil => cases found
  | cons first rest ih =>
      obtain ⟨length, others⟩ := List.forall_mem_cons.mp sized
      rw [List.flatten_cons]
      cases index with
      | zero =>
          cases found
          rw [Nat.zero_mul, List.drop_zero, List.take_left' length]
      | succ index =>
          rw [Nat.succ_mul, Nat.add_comm, ← List.drop_drop, List.drop_left' length]
          exact ih others found

/-- Every buffer that a run reaches is valid. -/
theorem BufferValid.of_run {ndebug : Bool} (serves : Serves ndebug allocator valid)
    (reallocs : LawfulRealloc allocator valid live) (writes : LawfulWrites valid live)
    (rounds : 64 ≤ fuel) {heap : Heap S} (initial : valid heap) {ops : List BufferOp}
    {replies : List BufferReply}
    (permitted : (bufferStep fuel ndebug allocator).Guarded
      (fun state op => op.Permitted state.buffer.len) (bufferStart heap) ops)
    (ran : (bufferStep fuel ndebug allocator).run (bufferStart heap) ops = .ok (replies, state)) :
    BufferValid valid live state := by
  have start : BufferValid valid live (bufferStart heap) := ⟨initial, UInt64.le_rfl, rfl⟩
  apply Machine.invariant_of_run _ _ start permitted ran
  intro state op reply next bufferValid allowed stepped
  rcases bufferStep_refines reallocs writes bufferValid rounds allowed fun _ requested =>
      serves.served bufferValid rounds allowed requested with
    ⟨fault, stopped, _⟩ | ⟨reply', next', stepped', _, kept⟩
  · rw [stopped] at stepped
    cases stepped
  · rw [stepped'] at stepped
    cases stepped
    exact kept

/-- The contents are the elements, all of one size. -/
structure Elements (state : BufferState S) (elements : List Area) (elemSize : SizeT) : Prop where
  contents : state.contents = (elements.map Area.bytes).flatten
  sized : ∀ element ∈ elements, element.size = elemSize

theorem Elements.lengths {elements : List Area} {elemSize : SizeT}
    (pushed : Elements state elements elemSize) :
    ∀ bytes ∈ elements.map Area.bytes, bytes.length = elemSize.toNat := by
  rw [List.forall_mem_map]
  intro element member
  rw [element.sized, pushed.sized element member]

theorem Elements.len {elements : List Area} {elemSize : SizeT}
    (pushed : Elements state elements elemSize) :
    state.buffer.len.toNat = elements.length * elemSize.toNat := by
  rw [← state.contents_length, pushed.contents, List.length_flatten,
    List.sum_eq_card_nsmul _ elemSize.toNat]
  · rw [List.length_map, List.length_map, smul_eq_mul]
  · rw [List.forall_mem_map]
    exact pushed.lengths

/-- A pointer to a pushed element denotes its bytes. -/
theorem Elements.get {elements : List Area} {elemSize : SizeT}
    (pushed : Elements state elements elemSize) (nonzero : elemSize ≠ 0)
    (placed : state.buffer.bytes.toNat + state.buffer.len.toNat ≤ 2 ^ 64) {index : SizeT}
    {element : Area} (found : elements[index.toNat]? = some element) :
    ∃ ptr, bytesBufferGet false state.buffer index elemSize = some ptr ∧
      state.heap.memory.read ptr.toNat elemSize.toNat = element.bytes := by
  have positive := (toNat_pos_iff elemSize).mpr nonzero
  obtain ⟨below, _⟩ := List.getElem?_eq_some_iff.mp found
  have inside : (index.toNat + 1) * elemSize.toNat ≤ state.buffer.len.toNat := by
    rw [pushed.len]
    exact Nat.mul_le_mul_right _ below
  have first : index.toNat * elemSize.toNat < state.buffer.len.toNat := by
    rw [Nat.succ_mul] at inside
    omega
  obtain ⟨ptr, got⟩ := Option.isSome_iff_exists.mp
    ((bytesBufferGet_accepts state.buffer index elemSize).mpr (Or.inl first))
  refine ⟨ptr, got, ?_⟩
  rw [bytesBufferGet_denotes placed nonzero inside got, pushed.contents]
  apply flatten_element pushed.lengths
  rw [List.getElem?_map, found]
  rfl

/-- Behind the pushed elements only an offset that wraps passes the assertion. -/
theorem Elements.rejects {elements : List Area} {elemSize : SizeT}
    (pushed : Elements state elements elemSize) {index : SizeT}
    (behind : elements.length ≤ index.toNat) :
    bytesBufferGet false state.buffer index elemSize = none ↔
      ¬Wraps state.buffer.len index elemSize := by
  have beyond : ¬index.toNat * elemSize.toNat < state.buffer.len.toNat := by
    rw [pushed.len]
    exact Nat.not_lt.mpr (Nat.mul_le_mul_right _ behind)
  rw [← Option.not_isSome_iff_eq_none, bytesBufferGet_accepts, or_iff_right beyond]

/-- The pushed elements are handed out, and behind them the ones whose offset wraps. -/
structure HandsOut (state : BufferState S) (elements : List Area) (elemSize : SizeT) : Prop where
  pushed : ∀ index element, elements[index.toNat]? = some element →
    ∃ ptr, bytesBufferGet false state.buffer index elemSize = some ptr ∧
      state.heap.memory.read ptr.toNat elemSize.toNat = element.bytes
  behind : ∀ index : SizeT, elements.length ≤ index.toNat →
    (bytesBufferGet false state.buffer index elemSize = none ↔
      ¬Wraps state.buffer.len index elemSize)

/-- In every reachable buffer the assertion decides wrongly for straddling and for wrapping elements
only. After pushes of one size no element straddles, and it still lets through those that wrap. -/
theorem bytesBufferGet_exact (reallocs : LawfulRealloc allocator valid live)
    (writes : LawfulWrites valid live) (rounds : 64 ≤ fuel) {heap : Heap S} (initial : valid heap)
    {elemSize : SizeT} (nonzero : elemSize ≠ 0) (ops : List BufferOp)
    (permitted : (bufferStep fuel false allocator).Guarded
      (fun state op => op.Permitted state.buffer.len) (bufferStart heap) ops)
    (elements : List Area) (sized : ∀ element ∈ elements, element.size = elemSize)
    (small : elements.length * elemSize.toNat ≤ 2 ^ 63) :
    let step := bufferStep fuel false allocator
    let pushes := elements.map BufferOp.appendBytes
    (∀ replies state, step.run (bufferStart heap) ops = .ok (replies, state) → ∀ index,
        (GetsExactly state index elemSize ↔
          ¬Straddles state.buffer.len index elemSize ∧ ¬Wraps state.buffer.len index elemSize)) ∧
      (step.run (bufferStart heap) pushes = .error .allocation ∨ ∃ replies state,
        step.run (bufferStart heap) pushes = .ok (replies, state) ∧
          HandsOut state elements elemSize) := by
  have serves : Serves false allocator valid := nofun
  have start : BufferValid valid (fitting live) (bufferStart heap) := ⟨initial, UInt64.le_rfl, rfl⟩
  intro step pushes
  constructor
  · intro replies state ran index
    have reached := BufferValid.of_run serves reallocs.fitting writes.fitting rounds initial permitted ran
    exact getsExactly_iff reached.placed nonzero
  · have total : (elements.map fun element => element.size.toNat).sum =
        elements.length * elemSize.toNat := by
      rw [List.sum_eq_card_nsmul _ elemSize.toNat]
      · rw [List.length_map, smul_eq_mul]
      · rw [List.forall_mem_map]
        exact fun element member => congrArg UInt64.toNat (sized element member)
    have room : 0 + (elements.map fun element => element.size.toNat).sum ≤ 2 ^ 63 := by
      omega
    rcases push_run serves reallocs.fitting writes.fitting rounds start room with
      stopped | ⟨replies, state, ran, reached, contents⟩
    · exact Or.inl stopped
    · have pushed : Elements state elements elemSize := ⟨contents, sized⟩
      exact Or.inr ⟨replies, state, ran, fun _ _ => pushed.get nonzero reached.placed,
        fun _ => pushed.rejects⟩

/-- Two elements of two bytes. -/
def twoElements : List Area := [⟨2, [1, 2], rfl⟩, ⟨2, [3, 4], rfl⟩]

theorem bytesBufferGet_exact_bump :
    (∀ replies state, (bufferStep 64 false bumpAllocator).run (bufferStart bumpHeap) mixedOps =
        .ok (replies, state) → ∀ index,
          (GetsExactly state index 2 ↔
            ¬Straddles state.buffer.len index 2 ∧ ¬Wraps state.buffer.len index 2)) ∧
      ((bufferStep 64 false bumpAllocator).run (bufferStart bumpHeap)
          (twoElements.map .appendBytes) = .error .allocation ∨
        ∃ replies state, (bufferStep 64 false bumpAllocator).run (bufferStart bumpHeap)
            (twoElements.map .appendBytes) = .ok (replies, state) ∧ HandsOut state twoElements 2) :=
  bytesBufferGet_exact bumpAllocator_realloc bumpAllocator_writes (Nat.le_refl 64) bumpHeap_valid
    (by decide) mixedOps (by decide +kernel) twoElements (by simp [twoElements]) (by decide)

/-- The second two-byte element of three bytes is handed out, and so is one whose offset is `2^64`. -/
theorem bytesBufferGet_partial :
    ∃ replies state, (bufferStep 64 false bumpAllocator).run (bufferStart bumpHeap) threeBytes =
        .ok (replies, state) ∧
      ¬GetsExactly state 1 2 ∧ ¬GetsExactly state 9223372036854775808 2 := by
  refine ⟨_, _, rfl, ?_, ?_⟩
  · exact fun exact => absurd (exact.available.mp rfl) (by decide)
  · exact fun exact => absurd (exact.available.mp rfl) (by decide)

end Xstd.Bytes
