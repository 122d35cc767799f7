import Xstd.Construction.Bytes.Buffer

/-
This file translates bytes/buffer.h with the fields of a `BytesBuffer` in the memory behind its pointer.
-/

namespace Xstd.Bytes.HeapBuffer

open Library

variable {S : Type}

/-- This is `sizeof(BytesBuffer)`. -/
def sizeofBytesBuffer : SizeT := 32

inductive Field where
  | bytes
  | allocator
  | len
  | cap
  deriving DecidableEq, Repr

def Field.offset : Field → ℕ
  | .bytes => 0
  | .allocator => 8
  | .len => 16
  | .cap => 24

/-- No field lies behind `NULL`. -/
def load (heap : Heap S) (buffer : Addr) (field : Field) : Exec UInt64 :=
  if buffer = 0 then .error .outOfBounds
  else .ok (heap.memory.loadWord (buffer.toNat + field.offset))

def assign (heap : Heap S) (buffer : Addr) (field : Field) (value : UInt64) : Exec (Heap S) :=
  if buffer = 0 then .error .outOfBounds
  else .ok { heap with memory := heap.memory.storeWord (buffer.toNat + field.offset) value }

/-- The fields of a buffer as values. -/
def fields (heap : Heap S) (buffer : Addr) : BytesBuffer where
  bytes := heap.memory.loadWord (buffer.toNat + Field.bytes.offset)
  len := heap.memory.loadWord (buffer.toNat + Field.len.offset)
  cap := heap.memory.loadWord (buffer.toNat + Field.cap.offset)

/-- The allocators of the program by their addresses. -/
abbrev Allocators (S : Type) := Addr → Option (Allocator S)

/-- A call needs an allocator behind its pointer. -/
def Allocators.table (allocators : Allocators S) (ptr : Addr) : Exec (Allocator S) :=
  match allocators ptr with
  | some allocator => .ok allocator
  | none => .error .outOfBounds

def bytesBufferAvailable (heap : Heap S) (buffer : Addr) : Exec SizeT := do
  return (← load heap buffer .cap) - (← load heap buffer .len)

def bytesBufferReset (heap : Heap S) (buffer : Addr) : Exec (Heap S) := assign heap buffer .len 0

def bytesBufferResize (ndebug : Bool) (allocators : Allocators S) (heap : Heap S) (buffer : Addr)
    (newCapacity : SizeT) : Exec (Bool × Heap S) := do
  let allocator ← allocators.table (← load heap buffer .allocator)
  let (bytes, heap) ← allocRealloc ndebug allocator heap (← load heap buffer .bytes) newCapacity
  if bytes = 0 then
    return (false, heap)
  else
    let heap ← assign heap buffer .bytes bytes
    let heap ← assign heap buffer .cap newCapacity
    if (← load heap buffer .cap) < (← load heap buffer .len) then
      return (true, ← assign heap buffer .len (← load heap buffer .cap))
    else
      return (true, heap)

/-- This is the `while` loop of `bytes_buffer_append_bytes`. -/
def growCapacity (size : SizeT) (buffer : Addr) : ℕ → Heap S → Exec (Heap S)
  | 0, heap => do
      if (← bytesBufferAvailable heap buffer) < size then .error .outOfFuel else return heap
  | fuel + 1, heap => do
      if (← bytesBufferAvailable heap buffer) < size then
        let cap ← load heap buffer .cap
        growCapacity size buffer fuel (← assign heap buffer .cap (if cap = 0 then 1 else cap * 2))
      else
        return heap

/-- The end of `bytes_buffer_append_bytes` copies the data behind the contents. -/
def copyData (heap : Heap S) (buffer : Addr) (data : Area) : Exec (SizeT × List Region × Heap S) := do
  let base := (← load heap buffer .bytes).toNat + (← load heap buffer .len).toNat
  let heap := storeBytes heap base data.bytes
  let heap ← assign heap buffer .len ((← load heap buffer .len) + data.size)
  return (data.size, [⟨base, data.size.toNat⟩], heap)

def bytesBufferAppendBytes (fuel : ℕ) (ndebug : Bool) (allocators : Allocators S) (heap : Heap S)
    (buffer : Addr) (data : Area) : Exec (SizeT × List Region × Heap S) := do
  let needResize := decide ((← bytesBufferAvailable heap buffer) < data.size)
  let heap ← growCapacity data.size buffer fuel heap
  if needResize then
    let (done, heap) ← bytesBufferResize ndebug allocators heap buffer (← load heap buffer .cap)
    if done then copyData heap buffer data else return (0, [], heap)
  else
    copyData heap buffer data

def bytesBufferFill (heap : Heap S) (buffer : Addr) (c : Int) : Exec (List Region × Heap S) := do
  let base := (← load heap buffer .bytes).toNat
  let count := (← load heap buffer .cap).toNat
  let heap := storeBytes heap base (List.replicate count (unsignedChar c))
  let heap ← assign heap buffer .len (← load heap buffer .cap)
  return ([⟨base, count⟩], heap)

def bytesBufferFillAvailable (heap : Heap S) (buffer : Addr) (c : Int) :
    Exec (List Region × Heap S) := do
  let base := (← load heap buffer .bytes).toNat + (← load heap buffer .len).toNat
  let count := (← bytesBufferAvailable heap buffer).toNat
  let heap := storeBytes heap base (List.replicate count (unsignedChar c))
  let heap ← assign heap buffer .len (← load heap buffer .cap)
  return ([⟨base, count⟩], heap)

def bytesBufferInit (heap : Heap S) (buffer allocator : Addr) : Exec (Heap S) := do
  let heap ← assign heap buffer .bytes 0
  let heap ← assign heap buffer .allocator 0
  let heap ← assign heap buffer .len 0
  let heap ← assign heap buffer .cap 0
  assign heap buffer .allocator allocator

def bytesBufferNew (ndebug : Bool) (allocators : Allocators S) (heap : Heap S) (allocator : Addr) :
    Exec (Addr × Heap S) := do
  let (buf, heap) ← allocMalloc ndebug (← allocators.table allocator) heap sizeofBytesBuffer
  return (buf, ← bytesBufferInit heap buf allocator)

def bytesBufferDestroy (allocators : Allocators S) (heap : Heap S) (buf : Addr) : Exec (Heap S) := do
  let allocator ← allocators.table (← load heap buf .allocator)
  allocFree allocator heap (← load heap buf .bytes)

/-- The pointer to the allocator is read again after the block is gone. -/
def bytesBufferFree (allocators : Allocators S) (heap : Heap S) (buf : Addr) : Exec (Heap S) := do
  if buf = 0 then
    return heap
  else
    let heap ← bytesBufferDestroy allocators heap buf
    let allocator ← allocators.table (← load heap buf .allocator)
    allocFree allocator heap buf

/-- An operation through the pointer. -/
def operate (fuel : ℕ) (ndebug : Bool) (allocators : Allocators S) (heap : Heap S) (buffer : Addr) :
    BufferOp → Exec (BufferReply × Heap S)
  | .appendBytes data => do
      let (appended, writes, heap) ← bytesBufferAppendBytes fuel ndebug allocators heap buffer data
      return (⟨appended, false, writes⟩, heap)
  | .resize newCapacity => do
      let (done, heap) ← bytesBufferResize ndebug allocators heap buffer newCapacity
      return (⟨0, done, []⟩, heap)
  | .reset => do
      return (⟨0, false, []⟩, ← bytesBufferReset heap buffer)
  | .fill c => do
      let (writes, heap) ← bytesBufferFill heap buffer c
      return (⟨0, false, writes⟩, heap)
  | .fillAvailable c => do
      let (writes, heap) ← bytesBufferFillAvailable heap buffer c
      return (⟨0, false, writes⟩, heap)

end Xstd.Bytes.HeapBuffer
