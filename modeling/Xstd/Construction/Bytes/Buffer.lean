import Xstd.Construction.Alloc
import Xstd.Library.Machine

/-
This file translates bytes/slice.h and bytes/buffer.h.
-/

namespace Xstd.Bytes

open Library

variable {S : Type}

structure Slice where
  data : Addr
  len : SizeT

def slice (data : Addr) (length : SizeT) : Slice := ⟨data, length⟩

/-- The bytes that a slice denotes. -/
def Slice.contents (s : Slice) (memory : Memory) : List UInt8 := memory.read s.data.toNat s.len.toNat

/-- The fields of `BytesBuffer` without its allocator, which is a parameter here. -/
structure BytesBuffer where
  bytes : Addr
  len : SizeT
  cap : SizeT
  deriving DecidableEq, Repr

def bytesBufferInit : BytesBuffer := ⟨0, 0, 0⟩

def bytesBufferAvailable (buffer : BytesBuffer) : SizeT := buffer.cap - buffer.len

def bytesBufferReset (buffer : BytesBuffer) : BytesBuffer := { buffer with len := 0 }

/-- A failed assertion returns no slice, and `NDEBUG` removes the assertions. -/
def bytesBufferSlice (ndebug : Bool) (buffer : BytesBuffer) (start stop : SizeT) : Option Slice :=
  if ndebug = false ∧ ¬(start ≤ buffer.len ∧ buffer.len < stop ∧ start ≤ stop) then none
  else some (slice (buffer.bytes + start) (stop - start))

def bytesBufferBytes (buffer : BytesBuffer) : Slice := slice buffer.bytes buffer.len

def bytesBufferResize (ndebug : Bool) (allocator : Allocator S) (buffer : BytesBuffer) (heap : Heap S)
    (newCapacity : SizeT) : Exec (Bool × BytesBuffer × Heap S) :=
  match allocRealloc ndebug allocator heap buffer.bytes newCapacity with
  | .error fault => .error fault
  | .ok (bytes, heap) =>
      if bytes = 0 then
        .ok (false, buffer, heap)
      else
        let buffer := { buffer with bytes := bytes, cap := newCapacity }
        if buffer.cap < buffer.len then .ok (true, { buffer with len := buffer.cap }, heap)
        else .ok (true, buffer, heap)

/-- This is the `while` loop of `bytes_buffer_append_bytes`. -/
def growCapacity (size : SizeT) : ℕ → BytesBuffer → Exec BytesBuffer
  | fuel, buffer =>
      if bytesBufferAvailable buffer < size then
        match fuel with
        | 0 => .error .outOfFuel
        | fuel + 1 =>
            growCapacity size fuel { buffer with cap := if buffer.cap = 0 then 1 else buffer.cap * 2 }
      else
        .ok buffer

/-- A call returns a value and leaves the buffer, the heap and the regions that it wrote behind. -/
structure BufferResult (S A : Type) where
  value : A
  buffer : BytesBuffer
  heap : Heap S
  writes : List Region

/-- A `memcpy` or `memset` to an address of the heap. -/
def storeBytes (heap : Heap S) (base : ℕ) (bytes : List UInt8) : Heap S :=
  { heap with memory := heap.memory.write base bytes }

def bytesBufferAppendBytes (fuel : ℕ) (ndebug : Bool) (allocator : Allocator S) (buffer : BytesBuffer)
    (heap : Heap S) (data : Area) : Exec (BufferResult S SizeT) :=
  let needResize := bytesBufferAvailable buffer < data.size
  match growCapacity data.size fuel buffer with
  | .error fault => .error fault
  | .ok buffer =>
      let resized : Exec (Bool × BytesBuffer × Heap S) :=
        if needResize then bytesBufferResize ndebug allocator buffer heap buffer.cap
        else .ok (true, buffer, heap)
      match resized with
      | .error fault => .error fault
      | .ok (false, buffer, heap) => .ok ⟨0, buffer, heap, []⟩
      | .ok (true, buffer, heap) =>
          let base := buffer.bytes.toNat + buffer.len.toNat
          .ok ⟨data.size, { buffer with len := buffer.len + data.size },
            storeBytes heap base data.bytes, [⟨base, data.size.toNat⟩]⟩

def bytesBufferFill (buffer : BytesBuffer) (heap : Heap S) (c : Int) : BufferResult S Unit :=
  ⟨(), { buffer with len := buffer.cap },
    storeBytes heap buffer.bytes.toNat (List.replicate buffer.cap.toNat (unsignedChar c)),
    [⟨buffer.bytes.toNat, buffer.cap.toNat⟩]⟩

def bytesBufferFillAvailable (buffer : BytesBuffer) (heap : Heap S) (c : Int) : BufferResult S Unit :=
  let base := buffer.bytes.toNat + buffer.len.toNat
  let count := (bytesBufferAvailable buffer).toNat
  ⟨(), { buffer with len := buffer.cap },
    storeBytes heap base (List.replicate count (unsignedChar c)), [⟨base, count⟩]⟩

/-- A failed assertion returns no pointer, and `NDEBUG` removes the assertion. -/
def bytesBufferGet (ndebug : Bool) (buffer : BytesBuffer) (index elemSize : SizeT) : Option Addr :=
  if ndebug = false ∧ ¬index * elemSize < buffer.len then none
  else some (buffer.bytes + index * elemSize)

/-- The block is released, and the fields keep their values. -/
def bytesBufferDestroy (allocator : Allocator S) (buffer : BytesBuffer) (heap : Heap S) :
    Exec (Heap S) :=
  allocFree allocator heap buffer.bytes

/-- The client appends data of its own, which does not alias the buffer. -/
inductive BufferOp where
  | appendBytes (data : Area)
  | resize (newCapacity : SizeT)
  | reset
  | fill (c : Int)
  | fillAvailable (c : Int)

structure BufferState (S : Type) where
  buffer : BytesBuffer
  heap : Heap S

/-- The value of an append or a resize, and the regions that the call wrote. -/
structure BufferReply where
  appended : SizeT
  resized : Bool
  writes : List Region

def bufferStep (fuel : ℕ) (ndebug : Bool) (allocator : Allocator S) :
    Machine Fault (BufferState S) BufferOp BufferReply :=
  fun state op =>
    match op with
    | .appendBytes data =>
        (bytesBufferAppendBytes fuel ndebug allocator state.buffer state.heap data).map fun result =>
          (⟨result.value, false, result.writes⟩, ⟨result.buffer, result.heap⟩)
    | .resize newCapacity =>
        (bytesBufferResize ndebug allocator state.buffer state.heap newCapacity).map
          fun (done, buffer, heap) => (⟨0, done, []⟩, ⟨buffer, heap⟩)
    | .reset => .ok (⟨0, false, []⟩, ⟨bytesBufferReset state.buffer, state.heap⟩)
    | .fill c =>
        let result := bytesBufferFill state.buffer state.heap c
        .ok (⟨0, false, result.writes⟩, ⟨result.buffer, result.heap⟩)
    | .fillAvailable c =>
        let result := bytesBufferFillAvailable state.buffer state.heap c
        .ok (⟨0, false, result.writes⟩, ⟨result.buffer, result.heap⟩)

/-- The abstract buffer is a list of bytes with a capacity. -/
def modelStep (cap : ℕ) (contents : List UInt8) : BufferOp → List UInt8
  | .appendBytes data => contents ++ data.bytes
  | .resize newCapacity => contents.take newCapacity.toNat
  | .reset => []
  | .fill c => List.replicate cap (unsignedChar c)
  | .fillAvailable c => contents ++ List.replicate (cap - contents.length) (unsignedChar c)

end Xstd.Bytes
