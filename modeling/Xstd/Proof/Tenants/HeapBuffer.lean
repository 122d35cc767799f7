import Xstd.Construction.Tenants
import Xstd.Proof.Bytes.Block
import Xstd.Proof.Bytes.HeapBuffer

/-
This file proves that a buffer on the heap owns its fields and its block from its new to its free.
-/

namespace Xstd.Bytes.HeapBuffer

open Library

variable {S : Type} {allocator : Allocator S} {allocators : Allocators S} {valid : Heap S → Prop}
variable {live : S → Set Region} {place ptr : Addr} {heap after : Heap S} {buffer : BytesBuffer}
variable {owned : Set Region} {fuel : ℕ} {ndebug : Bool}

/-- The fields and the block of the buffer are different live blocks. -/
structure Boxed (valid : Heap S → Prop) (live : S → Set Region) (place ptr : Addr) (heap : Heap S)
    (buffer : BytesBuffer) (owned : Set Region) : Prop where
  holds : Holds heap ptr (wordsOf place buffer)
  owned : owned = bufferBlocks buffer ∪ {box ptr}
  valid : BufferValid valid live ⟨buffer, heap⟩
  apart : ∀ region ∈ bufferBlocks buffer, region.Disjoint (box ptr)

/-- The box is not one of the blocks that lie apart from it. -/
theorem box_notMem {regions : Set Region} (apart : ∀ region ∈ regions, region.Disjoint (box ptr)) :
    box ptr ∉ regions := by
  intro member
  have nonempty : 0 < sizeofBytesBuffer.toNat := by decide
  have inside : (box ptr).Contains ptr.toNat := ⟨Nat.le_refl _, Nat.lt_add_of_pos_right nonempty⟩
  exact apart _ member _ inside inside

/-- What lies in the block of the buffer is apart from the fields. -/
theorem disjoint_within (apart : ∀ region ∈ bufferBlocks buffer, region.Disjoint (box ptr))
    {region : Region} (inside : region.Within ⟨buffer.bytes.toNat, buffer.cap.toNat⟩) :
    (box ptr).Disjoint region := by
  rcases Classical.em (buffer.cap = 0) with empty | nonempty
  · apply Region.disjoint_of_empty
    obtain ⟨below, above⟩ := inside
    rw [empty] at above
    simp only [UInt64.toNat_zero] at below above
    omega
  · exact (apart _ ⟨nonempty, rfl⟩).symm.mono (Region.Within.refl _) inside

/-- The contents do not depend on the fields. -/
theorem contents_beside (order : buffer.len ≤ buffer.cap)
    (apart : ∀ region ∈ bufferBlocks buffer, region.Disjoint (box ptr)) (beside : Beside ptr heap after) :
    (⟨buffer, after⟩ : BufferState S).contents = (⟨buffer, heap⟩ : BufferState S).contents := by
  apply Memory.read_of_agrees
  apply beside.agrees
  apply disjoint_within apart
  exact ⟨Nat.le_refl _, Nat.add_le_add_left (UInt64.le_iff_toNat_le.mp order) _⟩

/-- An owner of the fields may change them. -/
theorem replaces_beside (writes : LawfulWrites valid live)
    (holds : (blockTokens valid live).Holds heap owned) (member : box ptr ∈ owned)
    (beside : Beside ptr heap after) : (blockTokens valid live).Replaces heap owned after owned where
  holds := by
    refine ⟨⟨beside.valid writes holds.valid.1 (holds.live member), ?_⟩, ?_, ?_⟩
    · rw [beside.state]
      exact holds.valid.2
    · show owned ⊆ live after.state
      rw [beside.state]
      exact holds.live
    · show ∀ token ∈ owned, ∀ other ∈ live after.state \ owned, token.Disjoint other
      rw [beside.state]
      exact holds.apart
  others := by
    show live after.state \ owned = live heap.state \ owned
    rw [beside.state]
  same other remaining := beside.agrees (holds.apart _ member other remaining)

/-- An operation through the pointer refines the list of the bytes and replaces the block of the buffer. -/
theorem operate_replaces (found : allocators place = some allocator)
    (reallocs : LawfulRealloc allocator valid live) (writes : LawfulWrites valid live)
    (serves : Serves ndebug allocator valid) (rounds : 64 ≤ fuel)
    (boxed : Boxed valid live place ptr heap buffer owned)
    (own : (blockTokens valid live).Holds heap owned) {op : BufferOp}
    (permitted : op.Permitted buffer.len) :
    (∃ fault, operate fuel ndebug allocators heap ptr op = .error fault ∧ fault = .allocation) ∨
      ∃ reply after next owned', operate fuel ndebug allocators heap ptr op = .ok (reply, after) ∧
        Refines live ⟨buffer, heap⟩ op reply ⟨next, after⟩ ∧
        (blockTokens valid live).Replaces heap owned after owned' ∧
        Boxed valid live place ptr after next owned' := by
  obtain ⟨holds, rfl, bufferValid, apart⟩ := boxed
  obtain ⟨staged, beside, follows⟩ := operate_follows found holds fuel ndebug op
  have member : box ptr ∈ bufferBlocks buffer ∪ {box ptr} := Or.inr rfl
  have stages := replaces_beside writes own member beside
  have own' : (blockTokens valid live).Holds staged (bufferBlocks buffer) := by
    apply stages.holds.part
    rintro token block _ rfl
    exact apart token block
  have bufferValid' : BufferValid valid live ⟨buffer, staged⟩ := bufferValid.transfer own'.valid.1 own'.live
  rcases bufferStep_replaces reallocs writes serves rounds bufferValid' own' permitted with
    ⟨fault, stopped, excuse⟩ | ⟨reply, next, stepped, refines, kept, replaces⟩
  · left
    have agree := follows fun reply next stepped => by rw [stopped] at stepped; cases stepped
    rw [Follows, stopped] at agree
    rcases agree.inv with ⟨fault', same, stopped'⟩ | ⟨_, _, stepped, _⟩
    · cases same
      exact ⟨fault, stopped', excuse⟩
    · cases stepped
  · right
    have remaining : box ptr ∈ live staged.state \ bufferBlocks buffer :=
      ⟨stages.holds.live member, box_notMem apart⟩
    have apart' : ∀ region ∈ bufferBlocks next.buffer, region.Disjoint (box ptr) := by
      intro region inside
      exact replaces.holds.apart region inside _ (replaces.others ▸ remaining)
    have spared : Spares ptr staged (bufferStep fuel ndebug allocator ⟨buffer, staged⟩ op) := by
      intro reply' next' stepped'
      rw [stepped] at stepped'
      cases stepped'
      exact ⟨replaces.same _ remaining, fun region written =>
        disjoint_within apart' (refines.inside region written)⟩
    have agree := follows spared
    rw [Follows, stepped] at agree
    rcases agree.inv with ⟨_, stopped, _⟩ | ⟨value, ⟨reply', after⟩, same, operated, answers⟩
    · cases stopped
    · cases same
      obtain ⟨same, holds', beside'⟩ := answers
      obtain rfl : reply = reply' := same
      have framed := replaces.frame stages.holds fun token boxed => by
        rw [Set.mem_singleton_iff.mp boxed]
        exact box_notMem apart
      have stored := replaces_beside writes framed.holds (Or.inr rfl) beside'
      have valid' : BufferValid valid live ⟨next.buffer, after⟩ :=
        kept.transfer stored.holds.valid.1 (Set.subset_union_left.trans stored.holds.live)
      refine ⟨reply, after, next.buffer, _, operated, ⟨refines.order, valid'.owned, refines.inside, ?_⟩,
        (stages.trans framed).trans stored, holds', rfl, valid', apart'⟩
      rw [contents_beside refines.order apart' beside', ← contents_beside bufferValid.order apart beside]
      exact refines.contents

/-- In a build without assertions, `malloc` never returns `NULL`. -/
def ServesMalloc (ndebug : Bool) (allocator : Allocator S) (valid : Heap S → Prop) : Prop :=
  ndebug = true → ∀ heap size after, valid heap → size ≠ 0 → allocator.malloc heap size ≠ .ok (0, after)

/-- A new takes a block for the fields and starts without another one. -/
theorem new_replaces (found : allocators place = some allocator)
    (mallocs : LawfulMalloc allocator valid live) (writes : LawfulWrites valid live)
    (provides : ServesMalloc ndebug allocator valid)
    (own : (blockTokens valid live).Holds heap ∅) :
    (∃ fault, bytesBufferNew ndebug allocators heap place = .error fault ∧ fault = .allocation) ∨
      ∃ ptr after owned, bytesBufferNew ndebug allocators heap place = .ok (ptr, after) ∧
        (blockTokens valid live).Replaces heap ∅ after owned ∧
        Boxed valid live place ptr after Bytes.bytesBufferInit owned := by
  have table : allocators.table place = .ok allocator := by rw [Allocators.table, found]
  have nonzero : sizeofBytesBuffer ≠ 0 := by decide
  obtain ⟨framed, inside⟩ := framed_of_holds own
  rw [bytesBufferNew, table, ok_bind]
  rcases mallocs.framed.returns heap sizeofBytesBuffer framed nonzero with
    stopped | ⟨ptr, middle, called, kept, _, granted⟩
  · left
    exact ⟨_, by rw [allocMalloc, stopped]; rfl, rfl⟩
  rcases Classical.em (ptr = 0) with rfl | present
  · left
    cases ndebug with
    | false => exact ⟨_, by rw [allocMalloc, called]; rfl, rfl⟩
    | true => exact absurd called (provides rfl _ _ _ framed.valid nonzero)
  · right
    have returned : allocMalloc ndebug allocator heap sizeofBytesBuffer = .ok (ptr, middle) := by
      simp [allocMalloc, called, Except.bind, assertNonNull, present]
    have taken := replaces_of_framed kept
    rw [(granted present).live, inside, insert_empty_eq] at taken
    obtain ⟨after, stored, holds, beside⟩ := init_stores middle present place
    have written := replaces_beside writes taken.holds (Set.mem_singleton _) beside
    have empty : bufferBlocks Bytes.bytesBufferInit = ∅ := bufferBlocks_empty rfl
    refine ⟨ptr, after, _, ?_, taken.trans written, holds, ?_, ?_, ?_⟩
    · rw [returned, ok_bind]
      show (bytesBufferInit middle ptr place >>= _) = _
      rw [stored]
      rfl
    · rw [empty, Set.empty_union]
      rfl
    · exact ⟨written.holds.valid.1, UInt64.le_rfl, rfl⟩
    · rw [empty]
      exact fun region member => member.elim

/-- A free gives the block and the fields back. -/
theorem free_replaces (found : allocators place = some allocator) (frees : LawfulFree allocator valid live)
    (nulls : FreesNull allocator valid live) (boxed : Boxed valid live place ptr heap buffer owned)
    (own : (blockTokens valid live).Holds heap owned) :
    ∃ after, bytesBufferFree allocators heap ptr = .ok after ∧
      (blockTokens valid live).Replaces heap owned after ∅ := by
  obtain ⟨holds, rfl, bufferValid, apart⟩ := boxed
  have own' : (blockTokens valid live).Holds heap (bufferBlocks buffer) := by
    apply own.part
    rintro token block _ rfl
    exact apart token block
  obtain ⟨middle, destroyed, replaces⟩ := destroy_replaces frees nulls bufferValid own'
  have spared : heap.memory.Agrees middle.memory (box ptr) :=
    replaces.same _ ⟨own.live (Or.inr rfl), box_notMem apart⟩
  have framed := replaces.frame own fun token boxed => by
    rw [Set.mem_singleton_iff.mp boxed]
    exact box_notMem apart
  rw [Set.empty_union] at framed
  obtain ⟨view, inside⟩ := framed_of_holds framed.holds
  obtain ⟨after, freed, kept, released, _⟩ := frees.framed.returns middle ptr sizeofBytesBuffer.toNat view
    (inside.symm.subset (Set.mem_singleton _))
  have gone := replaces_of_framed kept
  rw [released, inside, box, Set.sdiff_self] at gone
  exact ⟨after, by rw [free_eq found holds destroyed spared, allocFree, freed], framed.trans gone⟩

end Xstd.Bytes.HeapBuffer

namespace Xstd

open Library Bytes HeapBuffer

variable {S : Type} {allocator : Allocator S} {valid : Heap S → Prop} {live : S → Set Region}

/-- A client calls new at `NULL` and the operations elsewhere. It may free both. -/
def HeapBufferCall.Permitted (tenant : HeapBufferTenant) (heap : Heap S) : HeapBufferCall → Prop
  | .new => tenant.pointer = 0
  | .use op => tenant.pointer ≠ 0 ∧ op.Permitted (fields heap tenant.pointer).len
  | .free => True

instance HeapBufferCall.decidablePermitted (tenant : HeapBufferTenant) (heap : Heap S) :
    (call : HeapBufferCall) → Decidable (call.Permitted tenant heap)
  | .new => inferInstanceAs (Decidable (tenant.pointer = 0))
  | .use op =>
      inferInstanceAs (Decidable (tenant.pointer ≠ 0 ∧ op.Permitted (fields heap tenant.pointer).len))
  | .free => isTrue trivial

/-- A buffer on the heap claims its fields and its block. -/
def heapBufferOwns (valid : Heap S → Prop) (live : S → Set Region) (place : Addr)
    (tenant : HeapBufferTenant) (heap : Heap S) (owned : Set Region) : Prop :=
  if tenant.pointer = 0 then owned = ∅
  else ∃ buffer, Boxed valid live place tenant.pointer heap buffer owned

/-- A new starts empty, an operation refines the list of bytes, and a free releases both blocks. -/
def HeapBufferContract (live : S → Set Region) (before : HeapBufferTenant × Heap S)
    (call : HeapBufferCall) (reply : BufferReply) (after : HeapBufferTenant × Heap S) : Prop :=
  match call with
  | .new => after.1.pointer ≠ 0 ∧ (after.1.state after.2).contents = []
  | .use op => after.1 = before.1 ∧ Refines live (before.1.state before.2) op reply (after.1.state after.2)
  | .free => after.1.pointer = 0 ∧ (before.1.pointer ≠ 0 →
      ∀ region ∈ bufferBlocks (before.1.state before.2).buffer ∪ {box before.1.pointer},
        region ∉ live after.2.state)

/-- A buffer on the heap is an owner of its fields and its block. -/
theorem heapBuffer_owner (place : Addr) (mallocs : LawfulMalloc allocator valid live)
    (reallocs : LawfulRealloc allocator valid live) (writes : LawfulWrites valid live)
    (frees : LawfulFree allocator valid live) (nulls : FreesNull allocator valid live) {fuel : ℕ}
    (rounds : 64 ≤ fuel) {ndebug : Bool} (serves : Serves ndebug allocator valid)
    (provides : ServesMalloc ndebug allocator valid) :
    Owner (blockTokens valid live) (fun fault => fault = .allocation)
      (heapBufferTenantStep place fuel ndebug allocator) (fun own call => call.Permitted own.1 own.2)
      (HeapBufferContract live) (heapBufferOwns valid live place) where
  progress := by
    rintro ⟨ptr⟩ heap owned call owns holds permitted
    have found : allocatorAt place allocator place = some allocator := if_pos rfl
    cases call with
    | new =>
        obtain rfl : ptr = 0 := permitted
        obtain rfl : owned = ∅ := owns
        rcases new_replaces found mallocs writes provides holds with
          ⟨fault, stopped, excuse⟩ | ⟨ptr, after, owned, called, replaces, boxed⟩
        · exact Or.inl ⟨fault, by simp only [heapBufferTenantStep, stopped]; rfl, excuse⟩
        · refine Or.inr ⟨_, ⟨ptr⟩, after, owned, by simp only [heapBufferTenantStep, called]; rfl,
            ?_, replaces, ?_⟩
          · refine ⟨boxed.holds.present, ?_⟩
            show (⟨fields after ptr, after⟩ : BufferState S).contents = []
            rw [boxed.holds.fields_eq]
            rfl
          · rw [heapBufferOwns, if_neg boxed.holds.present]
            exact ⟨_, boxed⟩
    | use op =>
        obtain ⟨present, allowed⟩ := permitted
        rw [heapBufferOwns, if_neg present] at owns
        obtain ⟨buffer, boxed⟩ := owns
        rw [boxed.holds.fields_eq] at allowed
        rcases operate_replaces found reallocs writes serves rounds boxed holds allowed with
          ⟨fault, stopped, excuse⟩ | ⟨reply, after, next, owned', operated, refines, replaces, boxed'⟩
        · exact Or.inl ⟨fault, by simp only [heapBufferTenantStep, stopped]; rfl, excuse⟩
        · refine Or.inr ⟨reply, ⟨ptr⟩, after, owned', by simp only [heapBufferTenantStep, operated]; rfl,
            ⟨rfl, ?_⟩, replaces, ?_⟩
          · rw [HeapBufferTenant.state, HeapBufferTenant.state, boxed.holds.fields_eq,
              boxed'.holds.fields_eq]
            exact refines
          · rw [heapBufferOwns, if_neg present]
            exact ⟨next, boxed'⟩
    | free =>
        rcases Classical.em (ptr = 0) with rfl | present
        · obtain rfl : owned = ∅ := owns
          exact Or.inr ⟨_, ⟨0⟩, heap, ∅, rfl, ⟨rfl, fun present => absurd rfl present⟩,
            holds.unchanged, rfl⟩
        · rw [heapBufferOwns, if_neg present] at owns
          obtain ⟨buffer, boxed⟩ := owns
          obtain ⟨after, freed, replaces⟩ := free_replaces found frees nulls boxed holds
          refine Or.inr ⟨_, ⟨0⟩, after, ∅, by simp only [heapBufferTenantStep, freed]; rfl, ⟨rfl, ?_⟩,
            replaces, rfl⟩
          intro _ region member alive
          rw [HeapBufferTenant.state, boxed.holds.fields_eq, ← boxed.owned] at member
          exact Set.notMem_empty region (replaces.mem_of_live member alive)
  stable := by
    rintro ⟨ptr⟩ heap heap' owned owns holds same
    unfold heapBufferOwns at owns ⊢
    split at owns
    · rename_i null
      rwa [if_pos null]
    · rename_i present
      obtain ⟨buffer, boxed⟩ := owns
      rw [if_neg present]
      have claimed := boxed.owned
      refine ⟨buffer, boxed.holds.same (same _ (claimed ▸ Or.inr rfl)), claimed, ?_, boxed.apart⟩
      exact boxed.valid.transfer holds.valid.1 fun region member =>
        holds.live (claimed ▸ Or.inl member)

end Xstd
