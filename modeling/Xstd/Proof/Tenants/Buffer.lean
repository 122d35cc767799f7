import Xstd.Construction.Tenants
import Xstd.Proof.Bytes.Block

/-
This file proves that a buffer owns exactly its block from its init to its destroy.
-/

namespace Xstd

open Library Bytes

variable {S : Type} {allocator : Allocator S} {valid : Heap S → Prop} {live : S → Set Region}

/-- A client inits a buffer that is not in use, and it calls and destroys one that is. -/
def BufferCall.Permitted (tenant : BufferTenant) : BufferCall → Prop
  | .init => tenant.inUse = false
  | .use op => tenant.inUse = true ∧ op.Permitted tenant.buffer.len
  | .destroy => tenant.inUse = true

instance BufferCall.decidablePermitted (tenant : BufferTenant) :
    (call : BufferCall) → Decidable (call.Permitted tenant)
  | .init => inferInstanceAs (Decidable (tenant.inUse = false))
  | .use op => inferInstanceAs (Decidable (tenant.inUse = true ∧ op.Permitted tenant.buffer.len))
  | .destroy => inferInstanceAs (Decidable (tenant.inUse = true))

/-- A buffer in use claims its block. -/
def bufferOwns (valid : Heap S → Prop) (live : S → Set Region) (tenant : BufferTenant) (heap : Heap S)
    (owned : Set Region) : Prop :=
  if tenant.inUse = true then
    BufferValid valid live (tenant.state heap) ∧ owned = bufferBlocks tenant.buffer
  else
    owned = ∅

/-- An init starts empty, an operation refines the list of bytes, and a destroy releases the block. -/
def BufferContract (live : S → Set Region) (before : BufferTenant × Heap S) (call : BufferCall)
    (reply : BufferReply) (after : BufferTenant × Heap S) : Prop :=
  match call with
  | .init => (after.1.state after.2).contents = []
  | .use op => Refines live (before.1.state before.2) op reply (after.1.state after.2)
  | .destroy => ∀ region ∈ bufferBlocks before.1.buffer, region ∉ live after.2.state

/-- A buffer is an owner: it refines a list and leaves every other block of the allocator alone. -/
theorem buffer_owner (reallocs : LawfulRealloc allocator valid live) (writes : LawfulWrites valid live)
    (frees : LawfulFree allocator valid live) (nulls : FreesNull allocator valid live) {fuel : ℕ}
    (rounds : 64 ≤ fuel) (ndebug : Bool) (serves : Serves ndebug allocator valid) :
    Owner (blockTokens valid live) (fun fault => fault = .allocation)
      (bufferTenantStep fuel ndebug allocator) (fun own call => call.Permitted own.1)
      (BufferContract live) (bufferOwns valid live) where
  progress := by
    rintro ⟨buffer, inUse⟩ heap owned call owns holds permitted
    cases call with
    | init =>
        obtain rfl : inUse = false := permitted
        obtain rfl : owned = ∅ := owns
        refine Or.inr ⟨_, _, heap, ∅, rfl, rfl, holds.unchanged, ?_⟩
        exact ⟨⟨holds.valid.1, UInt64.le_rfl, rfl⟩, (bufferBlocks_empty rfl).symm⟩
    | use op =>
        obtain ⟨rfl, allowed⟩ := permitted
        obtain ⟨bufferValid, rfl⟩ := owns
        rcases bufferStep_replaces reallocs writes serves rounds bufferValid holds allowed with
          ⟨fault, stopped, excuse⟩ | ⟨reply, next, stepped, refines, kept, replaces⟩
        · change bufferStep fuel ndebug allocator ⟨buffer, heap⟩ op = _ at stopped
          exact Or.inl ⟨fault, by simp only [bufferTenantStep, BufferTenant.state, stopped]; rfl, excuse⟩
        · change bufferStep fuel ndebug allocator ⟨buffer, heap⟩ op = _ at stepped
          exact Or.inr ⟨reply, ⟨next.buffer, true⟩, next.heap, _,
            by simp only [bufferTenantStep, BufferTenant.state, stepped]; rfl, refines, replaces, kept, rfl⟩
    | destroy =>
        obtain rfl : inUse = true := permitted
        obtain ⟨bufferValid, rfl⟩ := owns
        obtain ⟨after, freed, replaces⟩ := destroy_replaces frees nulls bufferValid holds
        change bytesBufferDestroy allocator buffer heap = .ok after at freed
        refine Or.inr ⟨_, ⟨buffer, false⟩, after, ∅, by simp only [bufferTenantStep, freed]; rfl, ?_,
          replaces, rfl⟩
        exact fun region member alive => Set.notMem_empty region (replaces.mem_of_live member alive)
  stable := by
    rintro ⟨buffer, inUse⟩ heap heap' owned owns holds same
    cases inUse with
    | false => exact owns
    | true =>
        obtain ⟨bufferValid, rfl⟩ := owns
        exact ⟨bufferValid.transfer holds.valid.1 holds.live, rfl⟩

end Xstd
