import Xstd.Construction.Bytes.Adapters
import Xstd.Proof.BumpAllocator

/-
This file proves what the adapters of `BytesBuffer` do with the pointer that they receive.
-/

namespace Xstd.Bytes

open Library

variable {S : Type}

/-- The words of an adapter with this table over this buffer. -/
def adapterWords (table : Table) (buffer : ObjectPtr) : List Word :=
  [.table table, .size offsetofBuffer, .pointer buffer]

/-- The interface hands over the address of the field `buffer_`. -/
theorem ifaceCall_adapter {objects : Objects Word} {adapter : ℕ} {table : Table} {buffer : ObjectPtr}
    (made : objects adapter = adapterWords table buffer) :
    ifaceCall objects ⟨adapter, 0⟩ = .ok (table, ⟨adapter, 16⟩) := by
  simp [ifaceCall, loadTable, loadSize, Objects.load, made, adapterWords, offsetofBuffer, ObjectPtr.add]

/-- The field `len_` of a buffer at `buffer_` would lie behind the adapter. -/
theorem loadSize_behind_adapter {objects : Objects Word} {adapter : ℕ} {table : Table}
    {buffer : ObjectPtr} (made : objects adapter = adapterWords table buffer) {field : ℕ}
    (behind : 8 ≤ field) : loadSize objects (ObjectPtr.add ⟨adapter, 16⟩ field) = .error .outOfBounds := by
  have outside : objects.load (ObjectPtr.add ⟨adapter, 16⟩ field) = none := by
    apply Objects.load_outside
    simp only [ObjectPtr.add_object, ObjectPtr.add_offset, made, adapterWords, List.length_cons,
      List.length_nil]
    omega
  simp only [loadSize, outside]

theorem writerWrite_faults (fuel : ℕ) (ndebug : Bool) (allocator : Allocator S) {world : World S}
    {writer : ℕ} {buffer : ObjectPtr} (made : world.objects writer = bytesBufferWriter buffer) (p : Area)
    (n : Option SizeT) (err : Option Int) :
    writerWrite fuel ndebug allocator world ⟨writer, 0⟩ p n err = .error .outOfBounds := by
  have behind := loadSize_behind_adapter made (by decide : 8 ≤ 24)
  simp only [writerWrite, ifaceCall_adapter made, bytesBufferWriterWrite, loadBuffer, behind]

theorem readerRead_faults {world : World S} {reader : ℕ} {buffer : ObjectPtr}
    (made : world.objects reader = bytesBufferReader buffer) (p : List UInt8) (pLen : SizeT)
    (n : Option SizeT) (err : Option Int) :
    readerReadObject world ⟨reader, 0⟩ p pLen n err = .error .outOfBounds := by
  have behind := loadSize_behind_adapter made (by decide : 8 ≤ 16)
  simp only [readerReadObject, ifaceCall_adapter made, bytesBufferReaderRead, behind]

/-- The write returns, and it changes the buffer and the heap and reports as this append does. -/
def WriterActs (fuel : ℕ) (ndebug : Bool) (allocator : Allocator S) (world : World S)
    (writer buffer : ObjectPtr) (p : Area) (n : Option SizeT) (err : Option Int)
    (append : BufferResult S SizeT) : Prop :=
  ∃ result, writerWrite fuel ndebug allocator world writer p n err = .ok result ∧
    loadBuffer result.world.objects buffer = .ok append.buffer ∧ result.world.heap = append.heap ∧
    result.n = store n append.value

/-- The read returns and stores bytes of the contents in `p`. -/
def ReaderActs (world : World S) (reader : ObjectPtr) (contents p : List UInt8) (pLen : SizeT)
    (n : Option SizeT) (err : Option Int) : Prop :=
  ∃ result, readerReadObject world reader p pLen n err = .ok result ∧
    ∃ count : SizeT, count ≤ pLen ∧ result.n = store n count ∧
      result.p.take count.toNat <:+: contents

/-- No write and no read through an adapter acts on the wrapped buffer: each one reads behind the
adapter object. -/
theorem adapters_never_act (fuel : ℕ) (ndebug : Bool) (allocator : Allocator S) (world : World S)
    (writer reader : ℕ) (buffer : ObjectPtr) (made : world.objects writer = bytesBufferWriter buffer)
    (made' : world.objects reader = bytesBufferReader buffer) (n : Option SizeT) (err : Option Int) :
    (∀ p append, ¬WriterActs fuel ndebug allocator world ⟨writer, 0⟩ buffer p n err append) ∧
      (∀ contents p pLen, ¬ReaderActs world ⟨reader, 0⟩ contents p pLen n err) ∧
      (∀ p, writerWrite fuel ndebug allocator world ⟨writer, 0⟩ p n err = .error .outOfBounds) ∧
      ∀ p pLen, readerReadObject world ⟨reader, 0⟩ p pLen n err = .error .outOfBounds := by
  refine ⟨?_, ?_, fun p => writerWrite_faults fuel ndebug allocator made p n err,
    fun p pLen => readerRead_faults made' p pLen n err⟩
  · rintro p append ⟨result, returned, _⟩
    rw [writerWrite_faults fuel ndebug allocator made p n err] at returned
    cases returned
  · rintro contents p pLen ⟨result, returned, _⟩
    rw [readerRead_faults made' p pLen n err] at returned
    cases returned

/-- The buffer, its writer and its reader are the objects 0, 1 and 2. -/
def adapterWorld (buffer : BytesBuffer) : World BumpState where
  objects
    | 0 => bufferWords buffer
    | 1 => bytesBufferWriter ⟨0, 0⟩
    | 2 => bytesBufferReader ⟨0, 0⟩
    | _ => []
  heap := bumpHeap

theorem adapters_never_act_empty :
    (∀ p append, ¬WriterActs 64 false bumpAllocator (adapterWorld bytesBufferInit) ⟨1, 0⟩ ⟨0, 0⟩ p
        (some 0) (some 0) append) ∧
      (∀ contents p pLen, ¬ReaderActs (adapterWorld bytesBufferInit) ⟨2, 0⟩ contents p pLen (some 0)
        (some 0)) ∧
      (∀ p, writerWrite 64 false bumpAllocator (adapterWorld bytesBufferInit) ⟨1, 0⟩ p (some 0)
        (some 0) = .error .outOfBounds) ∧
      ∀ p pLen, readerReadObject (adapterWorld bytesBufferInit) ⟨2, 0⟩ p pLen (some 0) (some 0) =
        .error .outOfBounds :=
  adapters_never_act 64 false bumpAllocator (adapterWorld bytesBufferInit) 1 2 ⟨0, 0⟩ rfl rfl _ _

/-- One byte written to an empty buffer: the append returns, and the write does not. -/
theorem writer_misses_buffer :
    ∃ append, bytesBufferAppendBytes 64 false bumpAllocator bytesBufferInit bumpHeap ⟨1, [7], rfl⟩ =
        .ok append ∧
      ¬WriterActs 64 false bumpAllocator (adapterWorld bytesBufferInit) ⟨1, 0⟩ ⟨0, 0⟩ ⟨1, [7], rfl⟩
        (some 0) (some 0) append := by
  refine ⟨_, rfl, ?_⟩
  rintro ⟨result, returned, _⟩
  cases returned

/-- The words of a buffer load back. -/
theorem loadBuffer_words {objects : Objects Word} {object : ℕ} {buffer : BytesBuffer}
    (words : objects object = bufferWords buffer) : loadBuffer objects ⟨object, 0⟩ = .ok buffer := by
  simp [loadBuffer, loadSize, loadAddr, Objects.load, words, bufferWords]

theorem storeBuffer_words {objects : Objects Word} {object : ℕ} {buffer : BytesBuffer}
    (words : objects object = bufferWords buffer) (next : BytesBuffer) :
    storeBuffer objects ⟨object, 0⟩ next object = bufferWords next := by
  simp [storeBuffer, Objects.store, words, bufferWords]

/-- If the callback received the wrapped buffer, it would append to it. -/
theorem writer_acts_on_buffer (fuel : ℕ) (ndebug : Bool) (allocator : Allocator S) {world : World S}
    {object : ℕ} {buffer : BytesBuffer} (words : world.objects object = bufferWords buffer) {p : Area}
    {append : BufferResult S SizeT}
    (appends : bytesBufferAppendBytes fuel ndebug allocator buffer world.heap p = .ok append)
    (n : Option SizeT) (err : Option Int) :
    ∃ result, bytesBufferWriterWrite fuel ndebug allocator world ⟨object, 0⟩ p n err = .ok result ∧
      loadBuffer result.world.objects ⟨object, 0⟩ = .ok append.buffer ∧
      result.world.heap = append.heap ∧ result.n = store n append.value := by
  refine ⟨⟨⟨storeBuffer world.objects ⟨object, 0⟩ append.buffer, append.heap⟩, store n append.value,
    if append.value ≠ p.size then store err enomem else err⟩, ?_, ?_, rfl, rfl⟩
  · simp only [bytesBufferWriterWrite, loadBuffer_words words, appends]
  · exact loadBuffer_words (storeBuffer_words words append.buffer)

end Xstd.Bytes
