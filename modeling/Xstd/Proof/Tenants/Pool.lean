import Xstd.Proof.Tenants.Arena
import Xstd.Proof.Tenants.Buffer
import Xstd.Proof.Tenants.HeapBuffer

/-
This file proves that arenas and buffers on one allocator do not disturb each other and leak nothing.
-/

namespace Xstd

open Library Bytes

variable {S : Type} {allocator : Allocator S} {valid : Heap S → Prop} {live : S → Set Region}

namespace Tenant

/-- The client of each tenant keeps to the rules of this tenant. -/
def Permitted : (tenant : Tenant) → tenant.Local → Heap S → tenant.Call → Prop
  | .arena _, own, _, op => ArenaOp.Permitted (ArenaTenant.issued own) op
  | .buffer, own, _, call => BufferCall.Permitted own call
  | .heapBuffer _, own, heap, call => HeapBufferCall.Permitted own heap call

instance decidablePermitted (tenant : Tenant) (own : tenant.Local) (heap : Heap S) (call : tenant.Call) :
    Decidable (tenant.Permitted own heap call) :=
  match tenant, own, call with
  | .arena _, own, op => instDecidablePermitted (ArenaTenant.issued own) op
  | .buffer, own, call => BufferCall.decidablePermitted own call
  | .heapBuffer _, own, call => HeapBufferCall.decidablePermitted own heap call

/-- A call does for its tenant what it would do with an allocator of its own. -/
def Contract (live : S → Set Region) : (tenant : Tenant) → tenant.Local × Heap S → tenant.Call →
    tenant.Reply → tenant.Local × Heap S → Prop
  | .arena _, before, op, reply, after =>
      Isolates (ArenaTenant.state before.1 before.2) op reply (ArenaTenant.state after.1 after.2)
  | .buffer, before, call, reply, after => BufferContract live before call reply after
  | .heapBuffer _, before, call, reply, after => HeapBufferContract live before call reply after

def Owns (valid : Heap S → Prop) (live : S → Set Region) :
    (tenant : Tenant) → tenant.Local → Heap S → Set Region → Prop
  | .arena arenaSize => arenaOwns valid live arenaSize
  | .buffer => bufferOwns valid live
  | .heapBuffer place => heapBufferOwns valid live place

/-- The blocks that a tenant relies on: what its client may use, and the fields of a buffer on the heap. -/
def blocks (heap : Heap S) : (tenant : Tenant) → tenant.Local → Set Region
  | .arena _, own => {region | region ∈ ArenaTenant.issued own}
  | .buffer, own =>
      {region | BufferTenant.inUse own = true ∧ region ∈ bufferBlocks (BufferTenant.buffer own)}
  | .heapBuffer _, own =>
      {region | HeapBufferTenant.pointer own ≠ 0 ∧
        region ∈ bufferBlocks (HeapBufferTenant.state own heap).buffer ∪
          {HeapBuffer.box (HeapBufferTenant.pointer own)}}

/-- An arena is closed without arenas, and a buffer is closed out of use or at `NULL`. -/
def Closed : (tenant : Tenant) → tenant.Local → Prop
  | .arena _, own => (ArenaTenant.arena own).arenaList = 0
  | .buffer, own => BufferTenant.inUse own = false
  | .heapBuffer _, own => HeapBufferTenant.pointer own = 0

/-- The size of an arena holds a pointer and leaves room for the header. -/
def Sound : Tenant → Prop
  | .arena arenaSize => SoundSize arenaSize
  | .buffer | .heapBuffer _ => True

instance decidableSound : (tenant : Tenant) → Decidable tenant.Sound
  | .arena arenaSize => SoundSize.decidable arenaSize
  | .buffer | .heapBuffer _ => isTrue trivial

variable {tenant : Tenant} {own : tenant.Local} {heap : Heap S} {owned : Set Region}

theorem owns_start (tenant : Tenant) (current : valid heap) :
    tenant.Owns valid live tenant.start heap ∅ := by
  cases tenant with
  | arena arenaSize => exact arenaOwns_start current
  | buffer => exact rfl
  | heapBuffer place => exact rfl

/-- The blocks of a tenant lie in the owned ones. -/
theorem owns_blocks (owns : tenant.Owns valid live own heap owned) {block : Region}
    (member : block ∈ tenant.blocks heap own) : ∃ region ∈ owned, block.Within region := by
  cases tenant with
  | arena arenaSize => exact arenaOwns_issued owns member
  | buffer =>
      obtain ⟨buffer, inUse⟩ := own
      obtain ⟨used, member⟩ := member
      obtain rfl : inUse = true := used
      obtain ⟨_, rfl⟩ := owns
      exact ⟨block, member, Region.Within.refl _⟩
  | heapBuffer place =>
      obtain ⟨pointer⟩ := own
      obtain ⟨present, member⟩ := member
      obtain ⟨buffer, boxed⟩ : ∃ buffer, HeapBuffer.Boxed valid live place pointer heap buffer owned := by
        have claims : heapBufferOwns valid live place ⟨pointer⟩ heap owned := owns
        rwa [heapBufferOwns, if_neg present] at claims
      refine ⟨block, ?_, Region.Within.refl _⟩
      rw [boxed.owned, ← boxed.holds.fields_eq]
      exact member

/-- A closed tenant owns nothing. -/
theorem owns_closed (owns : tenant.Owns valid live own heap owned) (closed : tenant.Closed own) :
    owned = ∅ := by
  cases tenant with
  | arena arenaSize => exact arenaOwns_closed owns closed
  | buffer =>
      obtain ⟨buffer, inUse⟩ := own
      obtain rfl : inUse = false := closed
      exact owns
  | heapBuffer place =>
      obtain ⟨pointer⟩ := own
      obtain rfl : pointer = 0 := closed
      exact owns

end Tenant

/-- The allocator under the tenants. Without assertions it must not return `NULL` to a buffer or for one. -/
structure TenantLaws (allocator : Allocator S) (valid : Heap S → Prop) (live : S → Set Region)
    (ndebug : Bool) : Prop where
  mallocs : LawfulMalloc allocator valid live
  callocs : LawfulCalloc allocator valid live
  reallocs : LawfulRealloc allocator valid live
  frees : LawfulFree allocator valid live
  nulls : FreesNull allocator valid live
  writes : LawfulWrites valid live
  serves : Serves ndebug allocator valid
  provides : HeapBuffer.ServesMalloc ndebug allocator valid

/-- Every tenant is an owner of its blocks. -/
theorem tenant_owner {ndebug : Bool} (laws : TenantLaws allocator valid live ndebug) {fuel : ℕ}
    (rounds : 64 ≤ fuel) {tenant : Tenant} (sound : tenant.Sound) :
    Owner (blockTokens valid live) (fun fault => fault = .allocation) (tenant.step fuel ndebug allocator)
      (fun own call => tenant.Permitted own.1 own.2 call) (tenant.Contract live)
      (tenant.Owns valid live) := by
  cases tenant with
  | arena arenaSize => exact arena_owner ⟨laws.callocs, laws.writes, sound.1, sound.2⟩ laws.frees ndebug
  | buffer => exact buffer_owner laws.reallocs laws.writes laws.frees laws.nulls rounds ndebug laws.serves
  | heapBuffer place =>
      exact heapBuffer_owner place laws.mallocs laws.reallocs laws.writes laws.frees laws.nulls rounds
        laws.serves laws.provides

variable {ι : Type} {tenants : ι → Tenant}

/-- A call keeps the contract of its tenant and leaves all others alone. The blocks of different tenants
and the blocks of the initial heap stay apart, and closed tenants have given everything back. -/
structure Tenancy (live : S → Set Region) (initial : Heap S) (before : TenantPool S tenants)
    (call : Σ i, (tenants i).Call) (reply : Σ i, (tenants i).Reply) (after : TenantPool S tenants) :
    Prop where
  contract : ∃ answer, reply = ⟨call.1, answer⟩ ∧
    (tenants call.1).Contract live (before.locals call.1, before.heap) call.2 answer
      (after.locals call.1, after.heap)
  others : ∀ i, i ≠ call.1 → after.locals i = before.locals i ∧
    ∀ block ∈ (tenants i).blocks before.heap (before.locals i),
      before.heap.memory.Agrees after.heap.memory block
  apart : ∀ i j, i ≠ j → ∀ block ∈ (tenants i).blocks after.heap (after.locals i),
    ∀ other ∈ (tenants j).blocks after.heap (after.locals j), block.Disjoint other
  kept : ∀ region ∈ live initial.state, region ∈ live after.heap.state ∧
    initial.memory.Agrees after.heap.memory region ∧
    ∀ i, ∀ block ∈ (tenants i).blocks after.heap (after.locals i), block.Disjoint region
  returned : (∀ i, (tenants i).Closed (after.locals i)) → live after.heap.state = live initial.state

/-- The assignment of the live blocks keeps the blocks of the clients apart. -/
theorem assigned_apart {initial : Heap S} {state : TenantPool S tenants} {owned : Option ι → Set Region}
    (assigned : Assigned (blockTokens valid live) (fun i => (tenants i).Owns valid live) initial state
      owned)
    {i : ι} {owner : Option ι} (different : some i ≠ owner) {block other region : Region}
    (member : block ∈ (tenants i).blocks state.heap (state.locals i)) (held : region ∈ owned owner)
    (inside : other.Within region) : block.Disjoint other := by
  obtain ⟨holder, owns, within⟩ := Tenant.owns_blocks (assigned.owns i) member
  exact (assigned.partition.apart different holder owns region held).mono within inside

/-- Arenas and buffers of both kinds in any number share one allocator. In every interleaving of their
calls each tenant keeps its contract and no tenant disturbs another one, and what all of them gave back is
gone. -/
theorem tenants_apart [DecidableEq ι] {ndebug : Bool} (laws : TenantLaws allocator valid live ndebug)
    {fuel : ℕ} (rounds : 64 ≤ fuel) (sound : ∀ i, (tenants i).Sound) {heap : Heap S}
    (initial : valid heap) (listed : ∀ region ∈ live heap.state, region.base ≠ 0)
    (calls : List (Σ i, (tenants i).Call))
    (permitted : (tenantsStep tenants fuel ndebug allocator).Guarded
      (fun state call => (tenants call.1).Permitted (state.locals call.1) state.heap call.2)
      (tenantsStart tenants heap) calls) :
    (tenantsStep tenants fuel ndebug allocator).AlwaysUnless (fun fault => fault = .allocation)
      (Tenancy live heap) (tenantsStart tenants heap) calls := by
  apply pool_always (fun i => tenant_owner laws rounds (sound i)) _ ⟨initial, listed⟩
    (fun i => (tenants i).owns_start initial) permitted
  intro state call answer own after owned owned' assigned contract replaces assigned'
  constructor
  · refine ⟨answer, rfl, ?_⟩
    show (tenants call.1).Contract live _ call.2 answer
      (Function.update state.locals call.1 own call.1, after)
    rw [Function.update_self]
    exact contract
  · intro i different
    refine ⟨Function.update_of_ne different _ _, fun block member => ?_⟩
    obtain ⟨region, owns, within⟩ := Tenant.owns_blocks (assigned.owns i) member
    have other : some i ≠ some call.1 := fun same => different (Option.some.inj same)
    have same : state.heap.memory.Agrees after.memory region :=
      assigned.partition.same replaces other region owns
    exact same.mono within
  · intro i j different block member other member'
    obtain ⟨region, owns, within⟩ := Tenant.owns_blocks (assigned'.owns j) member'
    exact assigned_apart assigned' (fun same => different (Option.some.inj same)) member owns within
  · intro region member
    have first : region ∈ live heap.state := member
    rw [← show _ = live heap.state from assigned'.first] at first
    refine ⟨(assigned'.partition.holds none).live first, assigned'.same region first, ?_⟩
    intro i block member'
    exact assigned_apart assigned' (Option.some_ne_none i) member' first (Region.Within.refl _)
  · intro closed
    show live after.state = live heap.state
    have before : owned none = live heap.state := assigned'.first
    rw [show live after.state = _ from assigned'.partition.live, ← before]
    ext region
    rw [Set.mem_iUnion]
    constructor
    · rintro ⟨_ | i, member⟩
      · exact member
      · rw [Tenant.owns_closed (assigned'.owns i) (closed i)] at member
        exact member.elim
    · exact fun member => ⟨none, member⟩

/-- Two arenas, a buffer and a buffer on the heap share the allocator at some address. -/
def mixedTenants : Fin 4 → Tenant := ![.arena 32, .buffer, .arena 16, .heapBuffer 5]

def mixedTenantCalls : List (Σ i, (mixedTenants i).Call) :=
  [⟨0, .malloc 9⟩, ⟨3, .new⟩, ⟨1, .init⟩, ⟨2, .calloc 5 8⟩, ⟨3, .use (.appendBytes ⟨2, [34, 35], rfl⟩)⟩,
    ⟨1, .use (.appendBytes ⟨3, [31, 32, 33], rfl⟩)⟩, ⟨0, .write 24 [7, 7]⟩, ⟨3, .use (.resize 64)⟩,
    ⟨1, .use (.resize 64)⟩, ⟨2, .destroy⟩, ⟨3, .use (.fillAvailable 7)⟩, ⟨0, .malloc 30⟩, ⟨1, .destroy⟩,
    ⟨3, .free⟩, ⟨0, .destroy⟩]

theorem tenants_apart_bump :
    (tenantsStep mixedTenants 64 false bumpAllocator).AlwaysUnless (fun fault => fault = .allocation)
      (Tenancy bumpLive bumpHeap) (tenantsStart mixedTenants bumpHeap) mixedTenantCalls :=
  tenants_apart
    ⟨bumpAllocator_malloc, bumpAllocator_calloc, bumpAllocator_realloc, bumpAllocator_free,
      bumpAllocator_freesNull, bumpAllocator_writes, fun release => absurd release Bool.false_ne_true,
      fun release => absurd release Bool.false_ne_true⟩
    (Nat.le_refl 64) (by decide +kernel) bumpHeap_valid (fun _ member => absurd member List.not_mem_nil)
    mixedTenantCalls (by decide +kernel)

end Xstd
