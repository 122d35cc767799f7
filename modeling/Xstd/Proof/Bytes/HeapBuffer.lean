import Xstd.Construction.Bytes.HeapBuffer
import Xstd.Library.Agreement
import Xstd.Proof.Bytes.Growth

/-
This file proves that a buffer behind a pointer does what the buffer by value does.
-/

namespace Xstd.Bytes.HeapBuffer

open Library

variable {S : Type} {allocator : Allocator S} {allocators : Allocators S} {place ptr : Addr}
variable {heap after : Heap S} {buffer : BytesBuffer} {words : Field → UInt64}

/-- The region of the fields. -/
def box (ptr : Addr) : Region := ⟨ptr.toNat, sizeofBytesBuffer.toNat⟩

def wordsOf (place : Addr) (buffer : BytesBuffer) : Field → UInt64
  | .bytes => buffer.bytes
  | .allocator => place
  | .len => buffer.len
  | .cap => buffer.cap

/-- The fields behind the pointer have these values. -/
structure Holds (heap : Heap S) (ptr : Addr) (words : Field → UInt64) : Prop where
  present : ptr ≠ 0
  word : ∀ field, heap.memory.loadWord (ptr.toNat + field.offset) = words field

/-- Two heaps differ in the region of the fields at most. -/
structure Beside (ptr : Addr) (before after : Heap S) : Prop where
  state : after.state = before.state
  memory : ∀ address, ¬(box ptr).Contains address → after.memory address = before.memory address

namespace Beside

variable {middle : Heap S}

theorem refl (ptr : Addr) (heap : Heap S) : Beside ptr heap heap := ⟨rfl, fun _ _ => rfl⟩

theorem trans (first : Beside ptr heap middle) (second : Beside ptr middle after) :
    Beside ptr heap after where
  state := second.state.trans first.state
  memory address outside := (second.memory address outside).trans (first.memory address outside)

theorem agrees (beside : Beside ptr heap after) {region : Region} (apart : (box ptr).Disjoint region) :
    heap.memory.Agrees after.memory region :=
  fun address inside => beside.memory address fun boxed => apart address boxed inside

/-- The same bytes at the same place keep two heaps alike. -/
theorem storeBytes (beside : Beside ptr heap after) (base : ℕ) (bytes : List UInt8) :
    Beside ptr (storeBytes heap base bytes) (storeBytes after base bytes) where
  state := beside.state
  memory address outside := by
    show Memory.write after.memory base bytes address = Memory.write heap.memory base bytes address
    rw [Memory.write, Memory.write, beside.memory address outside]

/-- The fields lie in a live block, so any of their values leave the heap valid. -/
theorem valid {valid : Heap S → Prop} {live : S → Set Region} (beside : Beside ptr heap after)
    (writes : LawfulWrites valid live) (current : valid heap) (held : box ptr ∈ live heap.state) :
    valid after := by
  have size : (after.memory.read ptr.toNat (box ptr).size).length = (box ptr).size :=
    Memory.read_length _ _ _
  have written := writes.keeps heap ptr.toNat (after.memory.read ptr.toNat (box ptr).size) (box ptr) current
    held (by rw [size]; exact Region.Within.refl _)
  have same : heap.memory.write ptr.toNat (after.memory.read ptr.toNat (box ptr).size) = after.memory := by
    funext address
    rcases Classical.em ((box ptr).Contains address) with inside | outside
    · obtain ⟨index, rfl⟩ := Nat.exists_eq_add_of_le inside.1
      have bounded : index < (after.memory.read ptr.toNat (box ptr).size).length := by
        rw [size]
        exact Nat.lt_of_add_lt_add_left inside.2
      show Memory.write heap.memory ptr.toNat _ (ptr.toNat + index) = _
      rw [Memory.write_inside bounded, Memory.read_getElem]
      rfl
    · rw [beside.memory address outside]
      apply Memory.write_outside
      rw [size]
      exact outside
  rw [same, ← beside.state] at written
  exact written

end Beside

/-- The words of different fields are disjoint. -/
theorem field_disjoint (base : ℕ) {first second : Field} (different : first ≠ second) :
    Region.Disjoint ⟨base + first.offset, 8⟩ ⟨base + second.offset, 8⟩ := by
  intro address inside other
  unfold Region.Contains at inside other
  cases first <;> cases second <;> simp only [Field.offset] at inside other <;> first
    | exact different rfl
    | omega

theorem field_within (ptr : Addr) (field : Field) :
    Region.Within ⟨ptr.toNat + field.offset, 8⟩ (box ptr) := by
  have size : (box ptr).size = 32 := rfl
  show ptr.toNat ≤ _ ∧ _ ≤ ptr.toNat + (box ptr).size
  rw [size]
  cases field <;> simp only [Field.offset] <;> omega

namespace Holds

theorem load (holds : Holds heap ptr words) (field : Field) :
    HeapBuffer.load heap ptr field = .ok (words field) := by
  rw [HeapBuffer.load, if_neg holds.present, holds.word]

/-- The fields depend on their region alone. -/
theorem same (holds : Holds heap ptr words) (agrees : heap.memory.Agrees after.memory (box ptr)) :
    Holds after ptr words where
  present := holds.present
  word field := by
    rw [Memory.loadWord_congr (agrees.mono (field_within ptr field)), holds.word]

/-- A store to a field changes this field. -/
theorem assign (holds : Holds heap ptr words) (field : Field) (value : UInt64) :
    ∃ after, HeapBuffer.assign heap ptr field value = .ok after ∧
      Holds after ptr (Function.update words field value) ∧ Beside ptr heap after := by
  refine ⟨{ heap with memory := heap.memory.storeWord (ptr.toNat + field.offset) value },
    by rw [HeapBuffer.assign, if_neg holds.present], ⟨holds.present, fun other => ?_⟩, rfl, ?_⟩
  · rcases eq_or_ne other field with rfl | different
    · rw [Function.update_self]
      exact Memory.loadWord_storeWord _ _ _
    · rw [Function.update_of_ne different, ← holds.word]
      apply Memory.loadWord_congr
      exact Memory.storeWord_agrees _ (field_disjoint _ different)
  · intro address outside
    apply Memory.write_outside
    rw [Memory.wordBytes_length]
    exact fun inside => outside ((field_within ptr field).contains inside)

end Holds

namespace Holds

variable (holds : Holds heap ptr (wordsOf place buffer))

include holds

theorem load_bytes : HeapBuffer.load heap ptr .bytes = .ok buffer.bytes := holds.load .bytes

theorem load_allocator : HeapBuffer.load heap ptr .allocator = .ok place := holds.load .allocator

theorem load_len : HeapBuffer.load heap ptr .len = .ok buffer.len := holds.load .len

theorem load_cap : HeapBuffer.load heap ptr .cap = .ok buffer.cap := holds.load .cap

/-- A store changes the fields as the update of a buffer does. -/
theorem assign_next {field : Field} {value : UInt64} {next : BytesBuffer}
    (update : Function.update (wordsOf place buffer) field value = wordsOf place next) :
    ∃ after, HeapBuffer.assign heap ptr field value = .ok after ∧ Holds after ptr (wordsOf place next) ∧
      Beside ptr heap after := update ▸ holds.assign field value

theorem assign_bytes (value : Addr) :
    ∃ after, HeapBuffer.assign heap ptr .bytes value = .ok after ∧
      Holds after ptr (wordsOf place { buffer with bytes := value }) ∧ Beside ptr heap after := by
  apply holds.assign_next
  funext field
  cases field <;> rfl

theorem assign_len (value : SizeT) :
    ∃ after, HeapBuffer.assign heap ptr .len value = .ok after ∧
      Holds after ptr (wordsOf place { buffer with len := value }) ∧ Beside ptr heap after := by
  apply holds.assign_next
  funext field
  cases field <;> rfl

theorem assign_cap (value : SizeT) :
    ∃ after, HeapBuffer.assign heap ptr .cap value = .ok after ∧
      Holds after ptr (wordsOf place { buffer with cap := value }) ∧ Beside ptr heap after := by
  apply holds.assign_next
  funext field
  cases field <;> rfl

theorem fields_eq : fields heap ptr = buffer := by
  rw [fields, holds.word, holds.word, holds.word]
  rfl

theorem available : HeapBuffer.bytesBufferAvailable heap ptr = .ok (Bytes.bytesBufferAvailable buffer) := by
  rw [HeapBuffer.bytesBufferAvailable, holds.load_cap, ok_bind, holds.load_len]
  rfl

end Holds

/-- The loop over the field does what the loop over the value does. -/
theorem growCapacity_follows (holds : Holds heap ptr (wordsOf place buffer)) (size : SizeT) (fuel : ℕ) :
    Matches (fun grown after => Holds after ptr (wordsOf place grown) ∧ Beside ptr heap after)
      (Bytes.growCapacity size fuel buffer) (HeapBuffer.growCapacity size ptr fuel heap) := by
  induction fuel generalizing heap buffer with
  | zero =>
      rw [HeapBuffer.growCapacity, holds.available, ok_bind]
      split
      · rename_i short
        rw [Bytes.growCapacity, if_pos short]
        rfl
      · rename_i enough
        rw [growCapacity_stop enough]
        exact ⟨holds, Beside.refl ptr heap⟩
  | succ fuel ih =>
      rw [HeapBuffer.growCapacity, holds.available, ok_bind]
      split
      · rename_i short
        obtain ⟨raised, assigned, holds', beside⟩ :=
          holds.assign_cap (if buffer.cap = 0 then 1 else buffer.cap * 2)
        rw [growCapacity_step short, holds.load_cap, ok_bind, assigned, ok_bind]
        apply (ih holds').imp
        intro grown after reached
        exact ⟨reached.1, beside.trans reached.2⟩
      · rename_i enough
        rw [growCapacity_stop enough]
        exact ⟨holds, Beside.refl ptr heap⟩

/-- A resize through the pointer does what the resize by value does, if the allocator spares the fields. -/
theorem resize_follows (found : allocators place = some allocator)
    (holds : Holds heap ptr (wordsOf place buffer)) (ndebug : Bool) (newCapacity : SizeT)
    (spared : ∀ done next moved,
      Bytes.bytesBufferResize ndebug allocator buffer heap newCapacity = .ok (done, next, moved) →
        heap.memory.Agrees moved.memory (box ptr)) :
    Matches (fun value result => value.1 = result.1 ∧ Holds result.2 ptr (wordsOf place value.2.1) ∧
        Beside ptr value.2.2 result.2)
      (Bytes.bytesBufferResize ndebug allocator buffer heap newCapacity)
      (HeapBuffer.bytesBufferResize ndebug allocators heap ptr newCapacity) := by
  have table : allocators.table place = .ok allocator := by rw [Allocators.table, found]
  unfold Bytes.bytesBufferResize at spared ⊢
  unfold HeapBuffer.bytesBufferResize
  rw [holds.load_allocator, ok_bind, table, ok_bind, holds.load_bytes, ok_bind]
  cases called : allocRealloc ndebug allocator heap buffer.bytes newCapacity with
  | error fault => rfl
  | ok result =>
      obtain ⟨bytes, moved⟩ := result
      rw [called] at spared
      rw [ok_bind]
      dsimp only at spared ⊢
      rcases Classical.em (bytes = 0) with null | block
      · rw [if_pos null] at spared ⊢
        rw [if_pos null]
        exact ⟨rfl, holds.same (spared _ _ _ rfl), Beside.refl ptr moved⟩
      · rw [if_neg block] at spared ⊢
        rw [if_neg block]
        have holds' : Holds moved ptr (wordsOf place buffer) := by
          apply holds.same
          split at spared
          · exact spared _ _ _ rfl
          · exact spared _ _ _ rfl
        obtain ⟨first, assigned, holds₁, beside₁⟩ := holds'.assign_bytes bytes
        obtain ⟨second, assigned', holds₂, beside₂⟩ := holds₁.assign_cap newCapacity
        rw [assigned, ok_bind, assigned', ok_bind, holds₂.load_cap, ok_bind, holds₂.load_len, ok_bind]
        dsimp only
        split
        · obtain ⟨third, assigned'', holds₃, beside₃⟩ := holds₂.assign_len newCapacity
          rw [ok_bind, assigned'', ok_bind]
          exact ⟨rfl, holds₃, (beside₁.trans beside₂).trans beside₃⟩
        · exact ⟨rfl, holds₂, beside₁.trans beside₂⟩

/-- A store outside the fields and a new length after it. -/
theorem store_follows (holds : Holds heap ptr (wordsOf place buffer)) {base : ℕ} {bytes : List UInt8}
    (apart : (box ptr).Disjoint ⟨base, bytes.length⟩) (len : SizeT) :
    Holds (storeBytes heap base bytes) ptr (wordsOf place buffer) ∧
      ∃ after, HeapBuffer.assign (storeBytes heap base bytes) ptr .len len = .ok after ∧
        Holds after ptr (wordsOf place { buffer with len := len }) ∧
        Beside ptr (storeBytes heap base bytes) after := by
  have stored : Holds (storeBytes heap base bytes) ptr (wordsOf place buffer) :=
    holds.same (Memory.write_agrees _ apart)
  exact ⟨stored, stored.assign_len len⟩

/-- A copy of the data that spares the fields does what the end of an append by value does. -/
theorem copyData_follows (holds : Holds heap ptr (wordsOf place buffer)) (data : Area)
    (apart : (box ptr).Disjoint ⟨buffer.bytes.toNat + buffer.len.toNat, data.size.toNat⟩) :
    ∃ after, copyData heap ptr data =
        .ok (data.size, [⟨buffer.bytes.toNat + buffer.len.toNat, data.size.toNat⟩], after) ∧
      Holds after ptr (wordsOf place { buffer with len := buffer.len + data.size }) ∧
      Beside ptr (storeBytes heap (buffer.bytes.toNat + buffer.len.toNat) data.bytes) after := by
  rw [← data.sized] at apart
  obtain ⟨stored, after, assigned, holds', beside⟩ := store_follows holds apart (buffer.len + data.size)
  refine ⟨after, ?_, holds', beside⟩
  rw [copyData, holds.load_bytes, ok_bind, holds.load_len, ok_bind]
  dsimp only
  rw [stored.load_len, ok_bind, assigned]
  rfl

/-- What the store of the data spares was spared before it. -/
theorem agrees_before {base : ℕ} {bytes : List UInt8} {region : Region}
    (agrees : heap.memory.Agrees (storeBytes after base bytes).memory region)
    (apart : region.Disjoint ⟨base, bytes.length⟩) : heap.memory.Agrees after.memory region := by
  intro address inside
  rw [← agrees address inside]
  exact (Memory.write_outside (apart address inside)).symm

/-- An append through the pointer first stores the grown capacity. From there it does what the append by
value does, if the allocator and the data spare the fields. -/
theorem append_follows (found : allocators place = some allocator)
    (holds : Holds heap ptr (wordsOf place buffer)) (fuel : ℕ) (ndebug : Bool) (data : Area) :
    ∃ staged, Beside ptr heap staged ∧
      ((∀ result, Bytes.bytesBufferAppendBytes fuel ndebug allocator buffer staged data = .ok result →
        staged.memory.Agrees result.heap.memory (box ptr) ∧
          ∀ region ∈ result.writes, (box ptr).Disjoint region) →
      Matches (fun value result => value.value = result.1 ∧ value.writes = result.2.1 ∧
          Holds result.2.2 ptr (wordsOf place value.buffer) ∧ Beside ptr value.heap result.2.2)
        (Bytes.bytesBufferAppendBytes fuel ndebug allocator buffer staged data)
        (HeapBuffer.bytesBufferAppendBytes fuel ndebug allocators heap ptr data)) := by
  unfold HeapBuffer.bytesBufferAppendBytes
  rw [holds.available, ok_bind]
  dsimp only
  rcases (growCapacity_follows holds data.size fuel).inv with
    ⟨fault, stopped, stopped'⟩ | ⟨grown, staged, grows, grows', holds', beside⟩
  · refine ⟨heap, Beside.refl ptr heap, fun _ => ?_⟩
    simp only [Bytes.bytesBufferAppendBytes, stopped, stopped']
    rfl
  · refine ⟨staged, beside, fun spared => ?_⟩
    simp only [Bytes.bytesBufferAppendBytes, grows] at spared ⊢
    rw [grows', ok_bind]
    rcases Classical.em (Bytes.bytesBufferAvailable buffer < data.size) with short | enough
    · simp only [if_pos short] at spared ⊢
      rw [if_pos (decide_eq_true short), holds'.load_cap, ok_bind]
      have kept : ∀ done next moved,
          Bytes.bytesBufferResize ndebug allocator grown staged grown.cap = .ok (done, next, moved) →
            staged.memory.Agrees moved.memory (box ptr) := by
        intro done next moved resized
        rw [resized] at spared
        cases done with
        | false => exact (spared _ rfl).1
        | true =>
            obtain ⟨agrees, apart⟩ := spared _ rfl
            apply agrees_before agrees
            rw [data.sized]
            exact apart _ (List.mem_singleton.mpr rfl)
      rcases (resize_follows found holds' ndebug grown.cap kept).inv with
        ⟨fault, stopped, stopped'⟩ |
          ⟨⟨done, next, moved⟩, ⟨done', resized⟩, called, called', same, holds'', beside'⟩
      · rw [stopped, stopped']
        rfl
      · obtain rfl : done = done' := same
        rw [called] at spared ⊢
        rw [called', ok_bind]
        cases done with
        | false => exact ⟨rfl, rfl, holds'', beside'⟩
        | true =>
            obtain ⟨_, apart⟩ := spared _ rfl
            obtain ⟨after, copied, final, beside''⟩ := copyData_follows holds'' data
              (apart _ (List.mem_singleton.mpr rfl))
            dsimp only
            rw [if_pos rfl, copied]
            exact ⟨rfl, rfl, final, (beside'.storeBytes _ _).trans beside''⟩
    · simp only [if_neg enough] at spared ⊢
      obtain rfl : buffer = grown := Except.ok.inj ((growCapacity_stop enough fuel).symm.trans grows)
      obtain ⟨_, apart⟩ := spared _ rfl
      obtain ⟨after, copied, final, beside'⟩ := copyData_follows holds' data
        (apart _ (List.mem_singleton.mpr rfl))
      rw [if_neg (by simpa using enough), copied]
      exact ⟨rfl, rfl, final, beside'⟩

/-- A fill that spares the fields does what the fill by value does. -/
theorem fill_follows (holds : Holds heap ptr (wordsOf place buffer)) (c : Int)
    (apart : ∀ region ∈ (Bytes.bytesBufferFill buffer heap c).writes, (box ptr).Disjoint region) :
    ∃ after, HeapBuffer.bytesBufferFill heap ptr c =
        .ok ((Bytes.bytesBufferFill buffer heap c).writes, after) ∧
      Holds after ptr (wordsOf place (Bytes.bytesBufferFill buffer heap c).buffer) ∧
      Beside ptr (Bytes.bytesBufferFill buffer heap c).heap after := by
  have length : (List.replicate buffer.cap.toNat (unsignedChar c)).length = buffer.cap.toNat :=
    List.length_replicate
  have spared := apart _ (List.mem_singleton.mpr rfl)
  rw [← length] at spared
  obtain ⟨stored, after, assigned, holds', beside⟩ := store_follows holds spared buffer.cap
  refine ⟨after, ?_, holds', beside⟩
  rw [HeapBuffer.bytesBufferFill, holds.load_bytes, ok_bind, holds.load_cap, ok_bind]
  dsimp only
  rw [stored.load_cap, ok_bind, assigned]
  rfl

/-- A fill behind the contents that spares the fields does what the fill by value does. -/
theorem fillAvailable_follows (holds : Holds heap ptr (wordsOf place buffer)) (c : Int)
    (apart : ∀ region ∈ (Bytes.bytesBufferFillAvailable buffer heap c).writes,
      (box ptr).Disjoint region) :
    ∃ after, HeapBuffer.bytesBufferFillAvailable heap ptr c =
        .ok ((Bytes.bytesBufferFillAvailable buffer heap c).writes, after) ∧
      Holds after ptr (wordsOf place (Bytes.bytesBufferFillAvailable buffer heap c).buffer) ∧
      Beside ptr (Bytes.bytesBufferFillAvailable buffer heap c).heap after := by
  have length : (List.replicate (Bytes.bytesBufferAvailable buffer).toNat (unsignedChar c)).length =
      (Bytes.bytesBufferAvailable buffer).toNat := List.length_replicate
  have spared := apart _ (List.mem_singleton.mpr rfl)
  rw [← length] at spared
  obtain ⟨stored, after, assigned, holds', beside⟩ := store_follows holds spared buffer.cap
  refine ⟨after, ?_, holds', beside⟩
  rw [HeapBuffer.bytesBufferFillAvailable, holds.load_bytes, ok_bind, holds.load_len, ok_bind,
    holds.available, ok_bind]
  dsimp only
  rw [stored.load_cap, ok_bind, assigned]
  rfl

/-- The call by value leaves the fields behind the pointer alone. -/
def Spares (ptr : Addr) (staged : Heap S) (call : Exec (BufferReply × BufferState S)) : Prop :=
  ∀ reply next, call = .ok (reply, next) → staged.memory.Agrees next.heap.memory (box ptr) ∧
    ∀ region ∈ reply.writes, (box ptr).Disjoint region

/-- The call through the pointer gives the answer of the call by value and stores its fields. -/
def Follows (place ptr : Addr) : Exec (BufferReply × BufferState S) → Exec (BufferReply × Heap S) → Prop :=
  Matches fun value result => value.1 = result.1 ∧ Holds result.2 ptr (wordsOf place value.2.buffer) ∧
    Beside ptr value.2.heap result.2

/-- Every operation through the pointer follows the operation by value on a heap where the fields may
already differ. -/
theorem operate_follows (found : allocators place = some allocator)
    (holds : Holds heap ptr (wordsOf place buffer)) (fuel : ℕ) (ndebug : Bool) (op : BufferOp) :
    ∃ staged, Beside ptr heap staged ∧
      (Spares ptr staged (bufferStep fuel ndebug allocator ⟨buffer, staged⟩ op) →
        Follows place ptr (bufferStep fuel ndebug allocator ⟨buffer, staged⟩ op)
          (operate fuel ndebug allocators heap ptr op)) := by
  cases op with
  | appendBytes data =>
      obtain ⟨staged, beside, follows⟩ := append_follows found holds fuel ndebug data
      refine ⟨staged, beside, fun spared => ?_⟩
      have agree := follows fun result called => spared _ _ (by simp only [bufferStep, called]; rfl)
      rw [bufferStep, operate]
      rcases agree.inv with ⟨fault, stopped, stopped'⟩ | ⟨value, result, called, called', answers⟩
      · rw [stopped, stopped']
        rfl
      · obtain ⟨appended, writes, holds', beside'⟩ := answers
        rw [called, called', ok_bind]
        exact ⟨by simp only [appended, writes], holds', beside'⟩
  | resize newCapacity =>
      refine ⟨heap, Beside.refl ptr heap, fun spared => ?_⟩
      have agree := resize_follows found holds ndebug newCapacity fun done next moved resized =>
        (spared _ _ (by simp only [bufferStep, resized]; rfl)).1
      rw [bufferStep, operate]
      rcases agree.inv with ⟨fault, stopped, stopped'⟩ | ⟨value, result, called, called', answers⟩
      · rw [stopped, stopped']
        rfl
      · obtain ⟨done, holds', beside'⟩ := answers
        rw [called, called', ok_bind]
        exact ⟨by simp only [done], holds', beside'⟩
  | reset =>
      refine ⟨heap, Beside.refl ptr heap, fun _ => ?_⟩
      obtain ⟨after, assigned, holds', beside⟩ := holds.assign_len 0
      rw [operate, HeapBuffer.bytesBufferReset, assigned]
      exact ⟨rfl, holds', beside⟩
  | fill c =>
      refine ⟨heap, Beside.refl ptr heap, fun spared => ?_⟩
      obtain ⟨after, filled, holds', beside⟩ := fill_follows holds c (spared _ _ rfl).2
      rw [operate, filled]
      exact ⟨rfl, holds', beside⟩
  | fillAvailable c =>
      refine ⟨heap, Beside.refl ptr heap, fun spared => ?_⟩
      obtain ⟨after, filled, holds', beside⟩ := fillAvailable_follows holds c (spared _ _ rfl).2
      rw [operate, filled]
      exact ⟨rfl, holds', beside⟩

/-- An init stores the fields of an empty buffer, whatever lies there before. -/
theorem init_stores (heap : Heap S) (present : ptr ≠ 0) (place : Addr) :
    ∃ after, HeapBuffer.bytesBufferInit heap ptr place = .ok after ∧
      Holds after ptr (wordsOf place Bytes.bytesBufferInit) ∧ Beside ptr heap after := by
  have holds : Holds heap ptr fun field => heap.memory.loadWord (ptr.toNat + field.offset) :=
    ⟨present, fun _ => rfl⟩
  obtain ⟨first, assigned₁, holds₁, beside₁⟩ := holds.assign .bytes 0
  obtain ⟨second, assigned₂, holds₂, beside₂⟩ := holds₁.assign .allocator 0
  obtain ⟨third, assigned₃, holds₃, beside₃⟩ := holds₂.assign .len 0
  obtain ⟨fourth, assigned₄, holds₄, beside₄⟩ := holds₃.assign .cap 0
  obtain ⟨after, assigned₅, holds₅, beside₅⟩ := holds₄.assign .allocator place
  refine ⟨after, ?_, ⟨present, fun field => ?_⟩,
    (((beside₁.trans beside₂).trans beside₃).trans beside₄).trans beside₅⟩
  · rw [HeapBuffer.bytesBufferInit, assigned₁, ok_bind, assigned₂, ok_bind, assigned₃, ok_bind, assigned₄,
      ok_bind, assigned₅]
  · rw [holds₅.word]
    cases field <;> rfl

/-- A destroy through the pointer is the destroy by value. -/
theorem destroy_eq (found : allocators place = some allocator)
    (holds : Holds heap ptr (wordsOf place buffer)) :
    HeapBuffer.bytesBufferDestroy allocators heap ptr = Bytes.bytesBufferDestroy allocator buffer heap := by
  have table : allocators.table place = .ok allocator := by rw [Allocators.table, found]
  rw [HeapBuffer.bytesBufferDestroy, holds.load_allocator, ok_bind, table, ok_bind, holds.load_bytes,
    ok_bind, Bytes.bytesBufferDestroy]

/-- A free destroys the buffer and then releases its fields. -/
theorem free_eq (found : allocators place = some allocator) {middle : Heap S}
    (holds : Holds heap ptr (wordsOf place buffer))
    (destroyed : Bytes.bytesBufferDestroy allocator buffer heap = .ok middle)
    (spared : heap.memory.Agrees middle.memory (box ptr)) :
    HeapBuffer.bytesBufferFree allocators heap ptr = allocFree allocator middle ptr := by
  have table : allocators.table place = .ok allocator := by rw [Allocators.table, found]
  have holds' := holds.same spared
  rw [HeapBuffer.bytesBufferFree, if_neg holds.present, destroy_eq found holds, destroyed, ok_bind,
    holds'.load_allocator, ok_bind, table, ok_bind]

end Xstd.Bytes.HeapBuffer
