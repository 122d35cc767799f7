import Xstd.Construction.Bytes.Buffer
import Xstd.Construction.Io.Reader
import Xstd.Library.ObjectMemory

/-
This file translates bytes/reader.h and bytes/writer.h with the dispatch of iface.h.
-/

namespace Xstd.Bytes

open Library

variable {S : Type}

/-- The virtual tables of the two adapters. -/
inductive Table where
  | bytesBufferReaderVtable
  | bytesBufferWriterVtable
  deriving DecidableEq, Repr

/-- A word of an object is a number, an address of the heap, a pointer to an object, a table, or the
allocator. -/
inductive Word where
  | size (value : SizeT)
  | addr (value : Addr)
  | pointer (value : ObjectPtr)
  | table (value : Table)
  | allocator
  deriving DecidableEq, Repr

/-- The objects of the program and the heap with the blocks of its buffers. -/
structure World (S : Type) where
  objects : Objects Word
  heap : Heap S

/-- A load outside the object, or of another type, has no defined behaviour. -/
def loadSize (objects : Objects Word) (ptr : ObjectPtr) : Exec SizeT :=
  match objects.load ptr with
  | some (.size value) => .ok value
  | _ => .error .outOfBounds

def loadAddr (objects : Objects Word) (ptr : ObjectPtr) : Exec Addr :=
  match objects.load ptr with
  | some (.addr value) => .ok value
  | _ => .error .outOfBounds

def loadTable (objects : Objects Word) (ptr : ObjectPtr) : Exec Table :=
  match objects.load ptr with
  | some (.table value) => .ok value
  | _ => .error .outOfBounds

/-- The words of a `BytesBuffer` are `bytes_`, `allocator_`, `len_` and `cap_`. -/
def bufferWords (buffer : BytesBuffer) : List Word :=
  [.addr buffer.bytes, .allocator, .size buffer.len, .size buffer.cap]

/-- `bytes_buffer_available` reads `cap_` and `len_` first, and `memcpy` needs `bytes_`. -/
def loadBuffer (objects : Objects Word) (ptr : ObjectPtr) : Exec BytesBuffer :=
  match loadSize objects (ptr.add 24), loadSize objects (ptr.add 16), loadAddr objects ptr with
  | .ok cap, .ok len, .ok bytes => .ok ⟨bytes, len, cap⟩
  | _, _, _ => .error .outOfBounds

def storeBuffer (objects : Objects Word) (ptr : ObjectPtr) (buffer : BytesBuffer) : Objects Word :=
  ((objects.store ptr (.addr buffer.bytes)).store (ptr.add 16) (.size buffer.len)).store (ptr.add 24)
    (.size buffer.cap)

/-- This is `iface_call`: the callback of the table receives the interface plus its offset. -/
def ifaceCall (objects : Objects Word) (iface : ObjectPtr) : Exec (Table × ObjectPtr) :=
  match loadTable objects iface, loadSize objects (iface.add 8) with
  | .ok table, .ok offset => .ok (table, iface.add offset.toNat)
  | _, _ => .error .outOfBounds

/-- This is `offsetof` of `buffer_` in both adapters. -/
def offsetofBuffer : SizeT := 16

/-- The words of an adapter are `vtable_`, `offset_` and `buffer_`. -/
def bytesBufferReader (buffer : ObjectPtr) : List Word :=
  [.table .bytesBufferReaderVtable, .size offsetofBuffer, .pointer buffer]

def bytesBufferWriter (buffer : ObjectPtr) : List Word :=
  [.table .bytesBufferWriterVtable, .size offsetofBuffer, .pointer buffer]

structure WriteResult (S : Type) where
  world : World S
  n : Option SizeT
  err : Option Int

/-- The callback takes the pointer that it receives for the buffer. -/
def bytesBufferWriterWrite (fuel : ℕ) (ndebug : Bool) (allocator : Allocator S) (world : World S)
    (writer : ObjectPtr) (p : Area) (n : Option SizeT) (err : Option Int) : Exec (WriteResult S) :=
  match loadBuffer world.objects writer with
  | .error fault => .error fault
  | .ok buffer =>
      match bytesBufferAppendBytes fuel ndebug allocator buffer world.heap p with
      | .error fault => .error fault
      | .ok result =>
          .ok ⟨⟨storeBuffer world.objects writer result.buffer, result.heap⟩, store n result.value,
            if result.value ≠ p.size then store err enomem else err⟩

/-- The body of `bytes_buffer_reader_read` after it has read the fields of the buffer. It copies from
the start of the block at each call, and it never writes `*err`. -/
def copyContents (memory : Memory) (bytes : Addr) (len : SizeT) (p : List UInt8) (pLen : SizeT)
    (n : Option SizeT) : Exec (List UInt8 × Option SizeT) :=
  let copied := if pLen > len then len else pLen
  match memcpy p 0 (memory.read bytes.toNat len.toNat) 0 copied.toNat with
  | .error fault => .error fault
  | .ok p => .ok (p, store n copied)

def bytesBufferReaderRead (world : World S) (reader : ObjectPtr) (p : List UInt8) (pLen : SizeT)
    (n : Option SizeT) (err : Option Int) : Exec (Io.ReadResult (World S)) :=
  match loadSize world.objects (reader.add 16), loadAddr world.objects reader with
  | .ok len, .ok bytes =>
      match copyContents world.heap.memory bytes len p pLen n with
      | .error fault => .error fault
      | .ok (p, n) => .ok ⟨world, p, n, err⟩
  | _, _ => .error .outOfBounds

def writerWrite (fuel : ℕ) (ndebug : Bool) (allocator : Allocator S) (world : World S)
    (writer : ObjectPtr) (p : Area) (n : Option SizeT) (err : Option Int) : Exec (WriteResult S) :=
  match ifaceCall world.objects writer with
  | .ok (.bytesBufferWriterVtable, impl) => bytesBufferWriterWrite fuel ndebug allocator world impl p n err
  | _ => .error .outOfBounds

/-- This is `reader_read` on a `Reader` object. -/
def readerReadObject (world : World S) (reader : ObjectPtr) (p : List UInt8) (pLen : SizeT)
    (n : Option SizeT) (err : Option Int) : Exec (Io.ReadResult (World S)) :=
  match ifaceCall world.objects reader with
  | .ok (.bytesBufferReaderVtable, impl) => bytesBufferReaderRead world impl p pLen n err
  | _ => .error .outOfBounds

/-- The callback implements `Reader` if it receives the wrapped buffer. -/
def wrappedReader (buffer : ObjectPtr) : Io.Reader (World S) where
  read world p pLen n err := bytesBufferReaderRead world buffer p pLen n err

end Xstd.Bytes
