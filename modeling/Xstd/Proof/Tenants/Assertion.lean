import Xstd.Construction.Tenants
import Xstd.Proof.Assertion

/-
This file proves that the debug build of a program with arenas and buffers differs from its release build
in the allocation assertion alone.
-/

namespace Xstd

open Library

variable {S : Type} {allocator : Allocator S} {heap : Heap (Audited S)}

namespace Bytes.HeapBuffer

variable {allocators : Allocators (Audited S)} {ptr : Addr}

/-- Every allocator of the program is an audited one. -/
def Allocators.Audits (allocators : Allocators (Audited S)) : Prop :=
  ∀ ptr table, allocators ptr = some table → ∃ allocator : Allocator S, table = audited allocator

theorem Allocators.Audits.table (audits : allocators.Audits) {place : Addr} {table : Allocator (Audited S)}
    (found : allocators.table place = .ok table) :
    ∃ allocator : Allocator S, table = audited allocator := by
  unfold Allocators.table at found
  split at found
  · rename_i stored
    cases found
    exact audits place table stored
  · cases found

theorem assign_checks (heap : Heap (Audited S)) (field : Field) (value : UInt64) :
    Agreeing heap id (assign heap ptr field value) (assign heap ptr field value) := by
  unfold assign
  split
  · exact Checks.error Fault.outOfBounds
  · exact Checks.ok Iff.rfl

theorem bytesBufferResize_checks (audits : allocators.Audits) (newCapacity : SizeT) :
    Agreeing heap Prod.snd (bytesBufferResize false allocators heap ptr newCapacity)
      (bytesBufferResize true allocators heap ptr newCapacity) := by
  refine Checks.after fun place _ => Checks.after fun table found => Checks.after fun bytes _ => ?_
  obtain ⟨allocator, rfl⟩ := audits.table found
  apply (allocRealloc_checks bytes newCapacity).bind
  rintro ⟨moved, after⟩ _
  dsimp only
  split
  · exact Checks.ok Iff.rfl
  · refine (assign_checks _ .bytes moved).bind fun first _ => ?_
    refine (assign_checks _ .cap newCapacity).bind fun second _ => ?_
    refine Checks.after fun cap _ => Checks.after fun len _ => ?_
    split
    · refine Checks.after fun cap _ => ?_
      exact (assign_checks _ .len cap).bind fun _ _ => Checks.ok Iff.rfl
    · exact Checks.ok Iff.rfl

theorem growCapacity_checks (size : SizeT) (fuel : ℕ) :
    Agreeing heap id (growCapacity size ptr fuel heap) (growCapacity size ptr fuel heap) := by
  induction fuel generalizing heap with
  | zero =>
      refine Checks.after fun available _ => ?_
      split
      · exact Checks.error Fault.outOfFuel
      · exact Checks.ok Iff.rfl
  | succ fuel ih =>
      refine Checks.after fun available _ => ?_
      split
      · refine Checks.after fun cap _ => ?_
        exact (assign_checks _ .cap _).bind fun _ _ => ih
      · exact Checks.ok Iff.rfl

theorem copyData_checks (data : Area) :
    Agreeing heap (fun result => result.2.2) (copyData heap ptr data) (copyData heap ptr data) := by
  refine Checks.after fun bytes _ => Checks.after fun len _ => Checks.after fun len' _ => ?_
  apply (assign_checks (storeBytes heap _ data.bytes) .len (len' + data.size)).bind
  exact fun _ _ => Checks.ok Iff.rfl

theorem bytesBufferAppendBytes_checks (audits : allocators.Audits) (fuel : ℕ) (data : Area) :
    Agreeing heap (fun result => result.2.2)
      (bytesBufferAppendBytes fuel false allocators heap ptr data)
      (bytesBufferAppendBytes fuel true allocators heap ptr data) := by
  refine Checks.after fun available _ => ?_
  refine (growCapacity_checks data.size fuel).bind fun grown _ => ?_
  split
  · refine Checks.after fun cap _ => (bytesBufferResize_checks audits cap).bind ?_
    rintro ⟨done, after⟩ _
    dsimp only
    split
    · exact copyData_checks data
    · exact Checks.ok Iff.rfl
  · exact copyData_checks data

theorem bytesBufferFill_checks (c : Int) :
    Agreeing heap Prod.snd (bytesBufferFill heap ptr c) (bytesBufferFill heap ptr c) := by
  refine Checks.after fun bytes _ => Checks.after fun cap _ => Checks.after fun cap' _ => ?_
  apply (assign_checks (storeBytes heap _ (List.replicate _ (unsignedChar c))) .len cap').bind
  exact fun _ _ => Checks.ok Iff.rfl

theorem bytesBufferFillAvailable_checks (c : Int) :
    Agreeing heap Prod.snd (bytesBufferFillAvailable heap ptr c) (bytesBufferFillAvailable heap ptr c) := by
  refine Checks.after fun bytes _ => Checks.after fun len _ => Checks.after fun available _ => ?_
  refine Checks.after fun cap _ => ?_
  apply (assign_checks (storeBytes heap _ (List.replicate _ (unsignedChar c))) .len cap).bind
  exact fun _ _ => Checks.ok Iff.rfl

theorem bytesBufferInit_checks (place : Addr) :
    Agreeing heap id (bytesBufferInit heap ptr place) (bytesBufferInit heap ptr place) := by
  refine (assign_checks _ .bytes 0).bind fun first _ => ?_
  refine (assign_checks _ .allocator 0).bind fun second _ => ?_
  refine (assign_checks _ .len 0).bind fun third _ => ?_
  refine (assign_checks _ .cap 0).bind fun fourth _ => ?_
  exact assign_checks _ .allocator place

theorem bytesBufferNew_checks (audits : allocators.Audits) (place : Addr) :
    Agreeing heap Prod.snd (bytesBufferNew false allocators heap place)
      (bytesBufferNew true allocators heap place) := by
  refine Checks.after fun table found => ?_
  obtain ⟨allocator, rfl⟩ := audits.table found
  apply (allocMalloc_checks sizeofBytesBuffer).bind
  rintro ⟨buf, after⟩ _
  exact (bytesBufferInit_checks place).bind fun _ _ => Checks.ok Iff.rfl

theorem bytesBufferDestroy_checks (audits : allocators.Audits) :
    Agreeing heap id (bytesBufferDestroy allocators heap ptr) (bytesBufferDestroy allocators heap ptr) := by
  refine Checks.after fun place _ => Checks.after fun table found => Checks.after fun bytes _ => ?_
  obtain ⟨allocator, rfl⟩ := audits.table found
  exact allocFree_checks bytes

theorem bytesBufferFree_checks (audits : allocators.Audits) :
    Agreeing heap id (bytesBufferFree allocators heap ptr) (bytesBufferFree allocators heap ptr) := by
  unfold bytesBufferFree
  split
  · exact Checks.ok Iff.rfl
  · refine (bytesBufferDestroy_checks audits).bind fun after _ => ?_
    refine Checks.after fun place _ => Checks.after fun table found => ?_
    obtain ⟨allocator, rfl⟩ := audits.table found
    exact allocFree_checks ptr

theorem operate_checks (audits : allocators.Audits) (fuel : ℕ) (op : BufferOp) :
    Agreeing heap Prod.snd (operate fuel false allocators heap ptr op)
      (operate fuel true allocators heap ptr op) := by
  cases op with
  | appendBytes data =>
      exact (bytesBufferAppendBytes_checks audits fuel data).bind fun _ _ => Checks.ok Iff.rfl
  | resize newCapacity =>
      exact (bytesBufferResize_checks audits newCapacity).bind fun _ _ => Checks.ok Iff.rfl
  | reset => exact (assign_checks _ .len 0).bind fun _ _ => Checks.ok Iff.rfl
  | fill c => exact (bytesBufferFill_checks c).bind fun _ _ => Checks.ok Iff.rfl
  | fillAvailable c => exact (bytesBufferFillAvailable_checks c).bind fun _ _ => Checks.ok Iff.rfl

end Bytes.HeapBuffer

open Bytes

theorem allocatorAt_audits (place : Addr) (allocator : Allocator S) :
    HeapBuffer.Allocators.Audits (allocatorAt place (audited allocator)) := by
  intro ptr table found
  unfold allocatorAt at found
  split at found
  · cases found
    exact ⟨allocator, rfl⟩
  · cases found

/-- A step of any tenant. -/
theorem tenantStep_checks (tenant : Tenant) (fuel : ℕ) (own : tenant.Local) (heap : Heap (Audited S))
    (call : tenant.Call) :
    Agreeing heap (fun result => result.2.2) (tenant.step fuel false (audited allocator) (own, heap) call)
      (tenant.step fuel true (audited allocator) (own, heap) call) := by
  cases tenant with
  | arena arenaSize =>
      exact (arenaStep_checks (ArenaTenant.state own heap) call).map fun _ => Iff.rfl
  | buffer =>
      cases call with
      | init => exact Checks.ok Iff.rfl
      | use op => exact (bufferStep_checks fuel (BufferTenant.state own heap) op).map fun _ => Iff.rfl
      | destroy => exact (allocFree_checks _).map fun _ => Iff.rfl
  | heapBuffer place =>
      have audits := allocatorAt_audits place allocator
      cases call with
      | new => exact (HeapBuffer.bytesBufferNew_checks audits place).map fun _ => Iff.rfl
      | use op => exact (HeapBuffer.operate_checks audits fuel op).map fun _ => Iff.rfl
      | free => exact (HeapBuffer.bytesBufferFree_checks audits).map fun _ => Iff.rfl

/-- A step of the tenant whose turn it is. -/
theorem tenantsStep_checks {ι : Type} [DecidableEq ι] (tenants : ι → Tenant) (fuel : ℕ)
    (allocator : Allocator S) (state : TenantPool (Audited S) tenants) (input : Σ i, (tenants i).Call) :
    Agreeing state.heap (fun result => result.2.heap)
      (tenantsStep tenants fuel false (audited allocator) state input)
      (tenantsStep tenants fuel true (audited allocator) state input) := by
  obtain ⟨i, call⟩ := input
  have split (ndebug : Bool) : tenantsStep tenants fuel ndebug (audited allocator) state ⟨i, call⟩ =
      ((tenants i).step fuel ndebug (audited allocator) (state.locals i, state.heap) call).map
        fun result => (⟨i, result.1⟩, ⟨result.2.2, Function.update state.locals i result.2.1⟩) := by
    simp only [tenantsStep, pool]
    cases (tenants i).step fuel ndebug (audited allocator) (state.locals i, state.heap) call <;> rfl
  rw [split, split]
  exact (tenantStep_checks (tenants i) fuel (state.locals i) state.heap call).map fun _ => Iff.rfl

/-- The release build of a program with arenas and buffers is its debug build without the allocation
assertion. In every interleaving of calls either the two builds give the same answers and reach the same
state, or the debug build stops at the assertion. If the release build returns, every request for a block
was served in the first case, and it went past a `NULL` in the second one. -/
theorem tenants_assert {ι : Type} [DecidableEq ι] (tenants : ι → Tenant) (fuel : ℕ)
    (allocator : Allocator S) (heap : Heap S) (calls : List (Σ i, (tenants i).Call)) :
    let start := tenantsStart tenants (heap.audit [])
    let debug := (tenantsStep tenants fuel false (audited allocator)).run start calls
    let release := (tenantsStep tenants fuel true (audited allocator)).run start calls
    (debug = release ∧ ∀ result, release = .ok result → result.2.heap.Served) ∨
      (debug = .error .allocation ∧ ∀ result, release = .ok result → ¬result.2.heap.Served) := by
  have runs := Machine.run_checks (tenantsStep_checks tenants fuel allocator)
    (tenantsStart tenants (heap.audit [])) calls
  exact runs.alike fun call member => absurd member List.not_mem_nil

end Xstd
