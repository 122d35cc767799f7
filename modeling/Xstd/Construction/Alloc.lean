import Xstd.Construction.Platform
import Xstd.Library.FlatMemory

/-
This file translates alloc.h and states the laws of the functions behind its table.
-/

namespace Xstd

open Library

/-- The heap holds the state of the allocators and the memory that they share with their clients. -/
structure Heap (S : Type) where
  state : S
  memory : Memory

/-- The virtual table of `Allocator`. -/
structure Allocator (S : Type) where
  malloc : Heap S → SizeT → Exec (Addr × Heap S)
  free : Heap S → Addr → Exec (Heap S)
  calloc : Heap S → SizeT → SizeT → Exec (Addr × Heap S)
  realloc : Heap S → Addr → SizeT → Exec (Addr × Heap S)

variable {S : Type}

/-- This is `assert(ptr != NULL)`, which `NDEBUG` removes. -/
def assertNonNull (ndebug : Bool) (result : Addr × Heap S) : Exec (Addr × Heap S) :=
  if result.1 = 0 ∧ ndebug = false then .error .allocation else .ok result

def allocMalloc (ndebug : Bool) (allocator : Allocator S) (heap : Heap S) (size : SizeT) :
    Exec (Addr × Heap S) :=
  (allocator.malloc heap size).bind (assertNonNull ndebug)

def allocFree (allocator : Allocator S) (heap : Heap S) (ptr : Addr) : Exec (Heap S) :=
  allocator.free heap ptr

def allocCalloc (ndebug : Bool) (allocator : Allocator S) (heap : Heap S) (nmemb size : SizeT) :
    Exec (Addr × Heap S) :=
  (allocator.calloc heap nmemb size).bind (assertNonNull ndebug)

def allocRealloc (ndebug : Bool) (allocator : Allocator S) (heap : Heap S) (ptr : Addr)
    (newsize : SizeT) : Exec (Addr × Heap S) :=
  (allocator.realloc heap ptr newsize).bind (assertNonNull ndebug)

/-- One call through the table, with the pointer that it returned. -/
inductive AllocCall where
  | malloc (size : SizeT) (ptr : Addr)
  | free (ptr : Addr)
  | calloc (nmemb size : SizeT) (ptr : Addr)
  | realloc (old : Addr) (size : SizeT) (ptr : Addr)
  deriving DecidableEq, Repr

/-- The record keeps every call of an allocator in order. -/
structure Audited (S : Type) where
  state : S
  calls : List AllocCall

def Heap.unaudited (heap : Heap (Audited S)) : Heap S := ⟨heap.state.state, heap.memory⟩

def Heap.audit (heap : Heap S) (calls : List AllocCall) : Heap (Audited S) :=
  ⟨⟨heap.state, calls⟩, heap.memory⟩

/-- The audited allocator behaves as the allocator and appends each call to the record. -/
def audited (allocator : Allocator S) : Allocator (Audited S) where
  malloc heap size :=
    (allocator.malloc heap.unaudited size).map fun (ptr, after) =>
      (ptr, after.audit (heap.state.calls ++ [.malloc size ptr]))
  free heap ptr :=
    (allocator.free heap.unaudited ptr).map fun after =>
      after.audit (heap.state.calls ++ [.free ptr])
  calloc heap nmemb size :=
    (allocator.calloc heap.unaudited nmemb size).map fun (ptr, after) =>
      (ptr, after.audit (heap.state.calls ++ [.calloc nmemb size ptr]))
  realloc heap old size :=
    (allocator.realloc heap.unaudited old size).map fun (ptr, after) =>
      (ptr, after.audit (heap.state.calls ++ [.realloc old size ptr]))

/-- A call that returns no block grants none. -/
def grant (held : List Region) (ptr : Addr) (size : ℕ) : List Region :=
  if ptr = 0 then held else ⟨ptr.toNat, size⟩ :: held

def release (held : List Region) (ptr : Addr) : List Region :=
  held.filter fun region => region.base ≠ ptr.toNat

def AllocCall.apply (held : List Region) : AllocCall → List Region
  | .malloc size ptr => grant held ptr size.toNat
  | .free ptr => release held ptr
  | .calloc nmemb size ptr => grant held ptr (nmemb.toNat * size.toNat)
  | .realloc old size ptr => if ptr = 0 then held else grant (release held old) ptr size.toNat

/-- The blocks that the client holds after its calls. -/
def Audited.held (record : Audited S) : List Region := record.calls.foldl AllocCall.apply []

/-- A new block lies apart from the kept blocks and leaves their bytes alone. -/
structure Granted (live : S → Set Region) (kept : Set Region) (before after : Heap S)
    (block : Region) : Prop where
  fits : block.base + block.size ≤ 2 ^ 64
  apart : ∀ region ∈ kept, block.Disjoint region
  same : ∀ region ∈ kept, before.memory.Agrees after.memory region
  live : live after.state = insert block kept

/-- A call without a block leaves the live blocks and their bytes alone. -/
structure Untouched (live : S → Set Region) (before after : Heap S) : Prop where
  same : ∀ region ∈ live before.state, before.memory.Agrees after.memory region
  live : live after.state = live before.state

/-- `calloc` grants a zeroed block or returns `NULL`. The only fault is an assertion of `alloc.h`. -/
structure LawfulCalloc (allocator : Allocator S) (valid : Heap S → Prop) (live : S → Set Region) :
    Prop where
  returns : ∀ heap size, valid heap → size ≠ 0 →
    allocator.calloc heap 1 size = .error .allocation ∨
      ∃ ptr after, allocator.calloc heap 1 size = .ok (ptr, after) ∧ valid after ∧
        (ptr = 0 → Untouched live heap after) ∧
        (ptr ≠ 0 → Granted live (live heap.state) heap after ⟨ptr.toNat, size.toNat⟩ ∧
          after.memory.Zero ⟨ptr.toNat, size.toNat⟩)

/-- `free` releases the live block at the pointer and no other one. -/
structure LawfulFree (allocator : Allocator S) (valid : Heap S → Prop) (live : S → Set Region) :
    Prop where
  returns : ∀ heap ptr size, valid heap → (⟨ptr.toNat, size⟩ : Region) ∈ live heap.state →
    ∃ after, allocator.free heap ptr = .ok after ∧ valid after ∧
      live after.state = live heap.state \ {⟨ptr.toNat, size⟩} ∧
      ∀ region ∈ live after.state, heap.memory.Agrees after.memory region

/-- `realloc` moves the front of a block, or it returns `NULL` and leaves the block alone. -/
structure LawfulRealloc (allocator : Allocator S) (valid : Heap S → Prop) (live : S → Set Region) :
    Prop where
  allocates : ∀ heap newsize, valid heap → newsize ≠ 0 →
    allocator.realloc heap 0 newsize = .error .allocation ∨
      ∃ ptr after, allocator.realloc heap 0 newsize = .ok (ptr, after) ∧ valid after ∧
        (ptr = 0 → Untouched live heap after) ∧
        (ptr ≠ 0 → Granted live (live heap.state) heap after ⟨ptr.toNat, newsize.toNat⟩)
  moves : ∀ heap old size newsize, valid heap → newsize ≠ 0 →
    (⟨old.toNat, size⟩ : Region) ∈ live heap.state → old ≠ 0 →
    allocator.realloc heap old newsize = .error .allocation ∨
      ∃ ptr after, allocator.realloc heap old newsize = .ok (ptr, after) ∧ valid after ∧
        (ptr = 0 → Untouched live heap after) ∧
        (ptr ≠ 0 → Granted live (live heap.state \ {⟨old.toNat, size⟩}) heap after
            ⟨ptr.toNat, newsize.toNat⟩ ∧
          ∀ index, index < size → index < newsize.toNat →
            after.memory (ptr.toNat + index) = heap.memory (old.toNat + index))

/-- The client may write inside the live blocks. -/
structure LawfulWrites (valid : Heap S → Prop) (live : S → Set Region) : Prop where
  keeps : ∀ heap base bytes region, valid heap → region ∈ live heap.state →
    Region.Within ⟨base, bytes.length⟩ region →
      valid ⟨heap.state, heap.memory.write base bytes⟩

/-- `malloc` grants a block or returns `NULL`. -/
structure LawfulMalloc (allocator : Allocator S) (valid : Heap S → Prop) (live : S → Set Region) :
    Prop where
  returns : ∀ heap size, valid heap → size ≠ 0 →
    allocator.malloc heap size = .error .allocation ∨
      ∃ ptr after, allocator.malloc heap size = .ok (ptr, after) ∧ valid after ∧
        (ptr = 0 → Untouched live heap after) ∧
        (ptr ≠ 0 → Granted live (live heap.state) heap after ⟨ptr.toNat, size.toNat⟩)

/-- `free` does nothing at `NULL`, where no block lives. -/
structure FreesNull (allocator : Allocator S) (valid : Heap S → Prop) (live : S → Set Region) :
    Prop where
  returns : ∀ heap, valid heap → (∀ region ∈ live heap.state, region.base ≠ 0) →
    ∃ after, allocator.free heap 0 = .ok after ∧ valid after ∧ Untouched live heap after

end Xstd
