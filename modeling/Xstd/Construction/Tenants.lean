import Xstd.Construction.Arena
import Xstd.Construction.Bytes.HeapBuffer
import Xstd.Library.Ownership

/-
This file puts any family of arenas and buffers on one allocator.
-/

namespace Xstd

open Library Bytes

variable {S : Type}

/-- A tenant of the allocator is an arena of some size, a buffer, or a buffer whose fields lie in a block
of the allocator, which has an address. -/
inductive Tenant where
  | arena (arenaSize : SizeT)
  | buffer
  | heapBuffer (allocator : Addr)
  deriving DecidableEq, Repr

/-- The arena with the blocks that its client received since the last destroy. -/
structure ArenaTenant where
  arena : ArenaAllocator
  issued : List Region

def ArenaTenant.state (tenant : ArenaTenant) (heap : Heap S) : ArenaState S :=
  ⟨tenant.arena, heap, tenant.issued⟩

/-- The client may use a buffer from its init to its destroy. -/
structure BufferTenant where
  buffer : BytesBuffer
  inUse : Bool

def BufferTenant.state (tenant : BufferTenant) (heap : Heap S) : BufferState S := ⟨tenant.buffer, heap⟩

inductive BufferCall where
  | init
  | use (op : BufferOp)
  | destroy

/-- The pointer is `NULL` before a new and after a free. -/
structure HeapBufferTenant where
  pointer : Addr

def HeapBufferTenant.state (tenant : HeapBufferTenant) (heap : Heap S) : BufferState S :=
  ⟨HeapBuffer.fields heap tenant.pointer, heap⟩

inductive HeapBufferCall where
  | new
  | use (op : BufferOp)
  | free

def arenaTenantStep (ndebug : Bool) (allocator : Allocator S) :
    Machine Fault (ArenaTenant × Heap S) ArenaOp ArenaReply :=
  fun (tenant, heap) op =>
    (arenaStep ndebug allocator (tenant.state heap) op).map fun (reply, next) =>
      (reply, ⟨next.arena, next.issued⟩, next.heap)

def bufferTenantStep (fuel : ℕ) (ndebug : Bool) (allocator : Allocator S) :
    Machine Fault (BufferTenant × Heap S) BufferCall BufferReply :=
  fun (tenant, heap) call =>
    match call with
    | .init => .ok (⟨0, false, []⟩, ⟨bytesBufferInit, true⟩, heap)
    | .use op =>
        (bufferStep fuel ndebug allocator (tenant.state heap) op).map fun (reply, next) =>
          (reply, ⟨next.buffer, tenant.inUse⟩, next.heap)
    | .destroy =>
        (bytesBufferDestroy allocator tenant.buffer heap).map fun heap =>
          (⟨0, false, []⟩, ⟨tenant.buffer, false⟩, heap)

/-- No other address holds an allocator. -/
def allocatorAt (place : Addr) (allocator : Allocator S) : HeapBuffer.Allocators S :=
  fun ptr => if ptr = place then some allocator else none

def heapBufferTenantStep (place : Addr) (fuel : ℕ) (ndebug : Bool) (allocator : Allocator S) :
    Machine Fault (HeapBufferTenant × Heap S) HeapBufferCall BufferReply :=
  fun (tenant, heap) call =>
    let allocators := allocatorAt place allocator
    match call with
    | .new =>
        (HeapBuffer.bytesBufferNew ndebug allocators heap place).map fun (pointer, heap) =>
          (⟨0, false, []⟩, ⟨pointer⟩, heap)
    | .use op =>
        (HeapBuffer.operate fuel ndebug allocators heap tenant.pointer op).map fun (reply, heap) =>
          (reply, tenant, heap)
    | .free =>
        (HeapBuffer.bytesBufferFree allocators heap tenant.pointer).map fun heap =>
          (⟨0, false, []⟩, ⟨0⟩, heap)

namespace Tenant

def Local : Tenant → Type
  | .arena _ => ArenaTenant
  | .buffer => BufferTenant
  | .heapBuffer _ => HeapBufferTenant

def Call : Tenant → Type
  | .arena _ => ArenaOp
  | .buffer => BufferCall
  | .heapBuffer _ => HeapBufferCall

def Reply : Tenant → Type
  | .arena _ => ArenaReply
  | .buffer => BufferReply
  | .heapBuffer _ => BufferReply

def step (fuel : ℕ) (ndebug : Bool) (allocator : Allocator S) :
    (tenant : Tenant) → Machine Fault (tenant.Local × Heap S) tenant.Call tenant.Reply
  | .arena _ => arenaTenantStep ndebug allocator
  | .buffer => bufferTenantStep fuel ndebug allocator
  | .heapBuffer place => heapBufferTenantStep place fuel ndebug allocator

/-- Every tenant starts without a block. -/
def start : (tenant : Tenant) → tenant.Local
  | .arena arenaSize => (⟨arenaAllocatorInit arenaSize, []⟩ : ArenaTenant)
  | .buffer => (⟨bytesBufferInit, false⟩ : BufferTenant)
  | .heapBuffer _ => (⟨0⟩ : HeapBufferTenant)

end Tenant

variable {ι : Type}

/-- The tenants share the heap of the allocator. -/
abbrev TenantPool (S : Type) (tenants : ι → Tenant) := Pool (Heap S) fun i => (tenants i).Local

/-- The calls of the tenants come in any order. -/
def tenantsStep [DecidableEq ι] (tenants : ι → Tenant) (fuel : ℕ) (ndebug : Bool)
    (allocator : Allocator S) :
    Machine Fault (TenantPool S tenants) (Σ i, (tenants i).Call) (Σ i, (tenants i).Reply) :=
  pool fun i => (tenants i).step fuel ndebug allocator

def tenantsStart (tenants : ι → Tenant) (heap : Heap S) : TenantPool S tenants :=
  ⟨heap, fun i => (tenants i).start⟩

end Xstd
