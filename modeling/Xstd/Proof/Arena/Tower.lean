import Xstd.Construction.ArenaTower
import Xstd.Proof.Arena.Destroy
import Xstd.Proof.Frame

/-
This file proves that an arena is a lawful parent, so that arenas stack to any depth.
-/

namespace Xstd

open Library

variable {S : Type} {parent : Allocator S} {valid : Heap S → Prop} {live : S → Set Region}
variable {arenaSize : SizeT}

/-- The blocks that the arena issued and did not take back are its live blocks. -/
def arenaLive (record : Audited (ArenaAllocator × S)) : Set Region := {region | region ∈ record.held}

/-- The arena below a client, with the blocks that this client holds. -/
def arenaUnder (heap : Heap (Audited (ArenaAllocator × S))) : ArenaState S :=
  ⟨heap.state.state.1, heap.unaudited.parent, heap.state.held⟩

/-- The arena has a layout, and its client holds at most one block at an address. -/
structure ArenaParent (valid : Heap S → Prop) (live : S → Set Region) (arenaSize : SizeT)
    (heap : Heap (Audited (ArenaAllocator × S))) : Prop where
  layout : ∃ arenas, Layout valid live arenaSize (arenaUnder heap) arenas
  nonempty : ∀ region ∈ heap.state.held, 0 < region.size
  unique : ∀ first ∈ heap.state.held, ∀ second ∈ heap.state.held,
    first.base = second.base → first = second

variable {heap : Heap (Audited (ArenaAllocator × S))}

/-- A client that holds fewer blocks leaves the layout as it was. -/
theorem Layout.fewer {state : ArenaState S} {arenas : List Arena}
    (layout : Layout valid live arenaSize state arenas) {issued : List Region}
    (fewer : ∀ block ∈ issued, block ∈ state.issued) :
    Layout valid live arenaSize { state with issued := issued } arenas :=
  { layout with
    issued := fun block member => layout.issued block (fewer block member)
    vacant := fun arena head block member => layout.vacant arena head block (fewer block member) }

/-- The heap after a call of the arena, with the call in the record. -/
def arenaCalled (heap : Heap (Audited (ArenaAllocator × S))) (size : SizeT) (result : ArenaResult S) :
    Heap (Audited (ArenaAllocator × S)) :=
  ⟨⟨(result.arena, result.heap.state), heap.state.calls ++ [.calloc 1 size result.ptr]⟩,
    result.heap.memory⟩

theorem arenaCalled_held (heap : Heap (Audited (ArenaAllocator × S))) (size : SizeT)
    (result : ArenaResult S) :
    (arenaCalled heap size result).state.held = grant heap.state.held result.ptr size.toNat := by
  show Audited.held ⟨(result.arena, result.heap.state), heap.state.calls ++ [_]⟩ = _
  rw [Audited.held_append, AllocCall.apply]
  show grant heap.state.held result.ptr ((1 : SizeT).toNat * size.toNat) = _
  rw [show (1 : SizeT).toNat * size.toNat = size.toNat from Nat.one_mul _]

theorem arenaTable_called (ndebug : Bool) (heap : Heap (Audited (ArenaAllocator × S))) (size : SizeT) :
    (audited (arenaAllocatorVtable ndebug parent)).calloc heap 1 size =
      (arenaCalloc ndebug parent (arenaUnder heap).arena (arenaUnder heap).heap 1 size).map fun result =>
        (result.ptr, arenaCalled heap size result) := by
  simp only [audited, arenaAllocatorVtable]
  show ((arenaCalloc ndebug parent (arenaUnder heap).arena (arenaUnder heap).heap 1 size).map _).map _ = _
  cases arenaCalloc ndebug parent (arenaUnder heap).arena (arenaUnder heap).heap 1 size <;> rfl

/-- The record of the client follows the issued blocks. -/
theorem arenaUnder_called (heap : Heap (Audited (ArenaAllocator × S))) (size : SizeT)
    (result : ArenaResult S) :
    arenaUnder (arenaCalled heap size result) = ((arenaUnder heap).issue size.toNat result).2 := by
  show (⟨result.arena, result.heap, (arenaCalled heap size result).state.held⟩ : ArenaState S) =
    ⟨result.arena, result.heap, _⟩
  rw [arenaCalled_held, grant, ArenaResult.block]
  split <;> rfl

/-- A new nonempty block lies apart from the held ones, so its address is new. -/
theorem ArenaParent.grow (current : ArenaParent valid live arenaSize heap) {size : SizeT}
    (nonzero : size ≠ 0) {result : ArenaResult S}
    (step : CallStep valid live arenaSize (arenaUnder heap)
      ((arenaUnder heap).issue size.toNat result).1.block ((arenaUnder heap).issue size.toNat result).2) :
    ArenaParent valid live arenaSize (arenaCalled heap size result) := by
  have positive := (toNat_pos_iff size).mpr nonzero
  have different (found : result.ptr ≠ 0) : ∀ earlier ∈ heap.state.held,
      result.ptr.toNat ≠ earlier.base := by
    intro earlier member same
    have apart : Region.Disjoint ⟨result.ptr.toNat, size.toNat⟩ earlier := by
      apply step.allocates.fresh _ _ earlier member
      rw [ArenaState.issue_some _ _ found]
      rfl
    have inside : Region.Contains ⟨result.ptr.toNat, size.toNat⟩ result.ptr.toNat :=
      ⟨Nat.le_refl _, Nat.lt_add_of_pos_right positive⟩
    have inside' : earlier.Contains earlier.base :=
      ⟨Nat.le_refl _, Nat.lt_add_of_pos_right (current.nonempty earlier member)⟩
    exact apart _ inside (same ▸ inside')
  constructor
  · rw [arenaUnder_called]
    exact step.layout
  · rw [arenaCalled_held, grant]
    split
    · exact current.nonempty
    · exact List.forall_mem_cons.mpr ⟨positive, current.nonempty⟩
  · rw [arenaCalled_held, grant]
    split
    · exact current.unique
    · rename_i found
      intro first left second right same
      rcases List.mem_cons.mp left with rfl | earlier <;>
        rcases List.mem_cons.mp right with rfl | earlier'
      · rfl
      · exact absurd same (different found second earlier')
      · exact absurd same.symm (different found first earlier)
      · exact current.unique first earlier second earlier' same

/-- A request for one element is a request for its bytes. -/
theorem arenaMalloc_step (callocs : LawfulCalloc parent valid live) (writes : LawfulWrites valid live)
    (ndebug : Bool) {state : ArenaState S} {arenas : List Arena}
    (layout : Layout valid live arenaSize state arenas) {size : SizeT} (nonzero : size ≠ 0)
    (sound : SoundSize arenaSize) :
    arenaCalloc ndebug parent state.arena state.heap 1 size = .error .allocation ∨
      ∃ result, arenaCalloc ndebug parent state.arena state.heap 1 size = .ok result ∧
        CallStep valid live arenaSize state (state.issue size.toNat result).1.block
          (state.issue size.toNat result).2 := by
  rcases arenaCalloc_step callocs writes ndebug layout nonzero (Or.inl sound) with
    stopped | ⟨result, called, step⟩
  · exact Or.inl stopped
  · rw [show (1 : SizeT).toNat * size.toNat = size.toNat from Nat.one_mul _] at step
    exact Or.inr ⟨result, called, step⟩

/-- The table of an arena answers a `calloc` as the law demands. -/
theorem arenaTable_calloc (callocs : LawfulCalloc parent valid live) (writes : LawfulWrites valid live)
    (sound : SoundSize arenaSize) (ndebug : Bool) :
    LawfulCalloc (audited (arenaAllocatorVtable ndebug parent)) (ArenaParent valid live arenaSize)
      arenaLive where
  returns heap size current nonzero := by
    obtain ⟨arenas, layout⟩ := current.layout
    rcases arenaMalloc_step callocs writes ndebug layout nonzero sound with
      stopped | ⟨result, called, step⟩
    · exact Or.inl (by rw [arenaTable_called, stopped]; rfl)
    · refine Or.inr ⟨result.ptr, arenaCalled heap size result, by rw [arenaTable_called, called]; rfl,
        current.grow nonzero step, ?_, ?_⟩
      · intro null
        constructor
        · exact fun region member => step.allocates.same region member
        · ext region
          show region ∈ (arenaCalled heap size result).state.held ↔ region ∈ heap.state.held
          rw [arenaCalled_held, grant, if_pos null]
      · intro found
        have issued := ArenaState.issue_some (arenaUnder heap) result found size.toNat
        have block : ⟨result.ptr.toNat, size.toNat⟩ ∈
            ((arenaUnder heap).issue size.toNat result).1.block := by
          rw [issued]
          rfl
        refine ⟨⟨?_, step.allocates.fresh _ block, fun region member => step.allocates.same region member,
          ?_⟩, step.allocates.zeroed _ block⟩
        · obtain ⟨arenas', layout'⟩ := step.layout
          rw [issued] at layout'
          obtain ⟨arena, listed, inside⟩ := layout'.issued _ List.mem_cons_self
          exact inside.2.trans (layout'.fits arena listed)
        · ext region
          show region ∈ (arenaCalled heap size result).state.held ↔ region ∈ insert _ (arenaLive heap.state)
          rw [arenaCalled_held, grant, if_neg found]
          exact List.mem_cons

/-- The heap after a `free` of the arena, with the call in the record. -/
def arenaFreed (heap : Heap (Audited (ArenaAllocator × S))) (ptr : Addr) :
    Heap (Audited (ArenaAllocator × S)) :=
  heap.unaudited.audit (heap.state.calls ++ [.free ptr])

theorem arenaFreed_held (heap : Heap (Audited (ArenaAllocator × S))) (ptr : Addr) :
    (arenaFreed heap ptr).state.held = release heap.state.held ptr := by
  show Audited.held ⟨heap.state.state, heap.state.calls ++ [_]⟩ = _
  rw [Audited.held_append, AllocCall.apply]

/-- The table of an arena takes a block back without a change of the arena. -/
theorem arenaTable_free (ndebug : Bool) :
    LawfulFree (audited (arenaAllocatorVtable ndebug parent)) (ArenaParent valid live arenaSize)
      arenaLive where
  returns heap ptr size current member := by
    obtain ⟨arenas, layout⟩ := current.layout
    have fewer : ∀ region ∈ (arenaFreed heap ptr).state.held, region ∈ heap.state.held := by
      intro region listed
      rw [arenaFreed_held] at listed
      exact (mem_release.mp listed).1
    refine ⟨arenaFreed heap ptr, rfl, ⟨⟨arenas, layout.fewer fewer⟩, ?_, ?_⟩, ?_, ?_⟩
    · exact fun region listed => current.nonempty region (fewer region listed)
    · intro first left second right
      exact current.unique first (fewer first left) second (fewer second right)
    · ext region
      show region ∈ (arenaFreed heap ptr).state.held ↔ region ∈ heap.state.held ∧ region ≠ ⟨ptr.toNat, size⟩
      rw [arenaFreed_held, mem_release]
      apply and_congr_right
      intro listed
      apply not_congr
      constructor
      · exact fun same => current.unique region listed _ member same
      · rintro rfl
        rfl
    · exact fun region _ => Memory.Agrees.refl _ _

/-- The client of an arena may write inside the blocks that it holds. -/
theorem arenaTable_writes (writes : LawfulWrites valid live) :
    LawfulWrites (ArenaParent valid live arenaSize) arenaLive where
  keeps heap base bytes region current member inside := by
    obtain ⟨arenas, layout⟩ := current.layout
    exact ⟨⟨arenas, layout.written writes member inside⟩, current.nonempty, current.unique⟩

/-- The live blocks at the top of a tower. -/
def towerLive (live : S → Set Region) : (sizes : List SizeT) → TowerState S sizes.length → Set Region
  | [] => live
  | _ :: _ => arenaLive

/-- Every arena of a tower is a parent of the one above it. -/
def towerValid (valid : Heap S → Prop) (live : S → Set Region) :
    (sizes : List SizeT) → Heap (TowerState S sizes.length) → Prop
  | [] => valid
  | size :: below => ArenaParent (towerValid valid live below) (towerLive live below) size

def towerHeap (heap : Heap S) (sizes : List SizeT) : Heap (TowerState S sizes.length) :=
  ⟨towerInit heap.state sizes, heap.memory⟩

variable {base : Allocator S}

theorem towerValid_start {heap : Heap S} (initial : valid heap) (sizes : List SizeT) :
    towerValid valid live sizes (towerHeap heap sizes) := by
  induction sizes with
  | nil => exact initial
  | cons size below ih =>
      have layout : Layout (towerValid valid live below) (towerLive live below) size
          (arenaStart size (towerHeap heap below)) [] := Layout.start ih
      exact ⟨⟨[], layout⟩, fun _ member => absurd member List.not_mem_nil,
        fun _ member => absurd member List.not_mem_nil⟩

/-- The top of a tower obeys the laws that its lowest arena needs from the base. -/
theorem tower_lawful (callocs : LawfulCalloc base valid live) (frees : LawfulFree base valid live)
    (writes : LawfulWrites valid live) {sizes : List SizeT} (sound : ∀ size ∈ sizes, SoundSize size)
    (ndebug : Bool) :
    LawfulCalloc (towerVtable ndebug base sizes.length) (towerValid valid live sizes)
        (towerLive live sizes) ∧
      LawfulFree (towerVtable ndebug base sizes.length) (towerValid valid live sizes)
        (towerLive live sizes) ∧
      LawfulWrites (towerValid valid live sizes) (towerLive live sizes) := by
  induction sizes with
  | nil => exact ⟨callocs, frees, writes⟩
  | cons size below ih =>
      obtain ⟨first, others⟩ := List.forall_mem_cons.mp sound
      obtain ⟨callocs', _, writes'⟩ := ih others
      exact ⟨arenaTable_calloc callocs' writes' first ndebug, arenaTable_free ndebug,
        arenaTable_writes writes'⟩

/-- A valid tower stands on a valid base. -/
theorem towerValid_base {sizes : List SizeT} {heap : Heap (TowerState S sizes.length)}
    (current : towerValid valid live sizes heap) :
    valid ⟨towerBase sizes.length heap.state, heap.memory⟩ := by
  induction sizes with
  | nil => exact current
  | cons size below ih =>
      obtain ⟨arenas, layout⟩ := current.layout
      exact ih layout.valid

/-- Every live block at the top lies in a live block of the base. -/
theorem towerLive_within {sizes : List SizeT} {heap : Heap (TowerState S sizes.length)}
    (current : towerValid valid live sizes heap) {block : Region}
    (member : block ∈ towerLive live sizes heap.state) :
    ∃ region ∈ live (towerBase sizes.length heap.state), block.Within region := by
  induction sizes generalizing block with
  | nil => exact ⟨block, member, Region.Within.refl block⟩
  | cons size below ih =>
      obtain ⟨arenas, layout⟩ := current.layout
      obtain ⟨arena, listed, inside⟩ := layout.issued block member
      obtain ⟨region, alive, outer⟩ := ih layout.valid (layout.owned arena listed)
      exact ⟨region, alive, inside.trans (arena.body_within.trans outer)⟩

/-- A step of the arena on top isolates its blocks, takes its blocks from the arena below and can give
them back. The blocks that the base had before the tower stay as they were, and no block of the arena
touches them. -/
structure TowerStep (ndebug : Bool) (base : Allocator S) (live : S → Set Region) (initial : Heap S)
    (arenaSize : SizeT) (sizes : List SizeT)
    (before : ArenaState (Audited (TowerState S sizes.length))) (op : ArenaOp) (reply : ArenaReply)
    (after : ArenaState (Audited (TowerState S sizes.length))) : Prop where
  isolates : Isolates before op reply after
  releases : StepReleases ndebug (towerVtable ndebug base sizes.length) arenaSize before op reply after
  base : ∀ region ∈ live initial.state,
    region ∈ live (towerBase sizes.length after.heap.state.state) ∧
      initial.memory.Agrees after.heap.memory region ∧
      ∀ block ∈ after.issued, block.Disjoint region

/-- Arenas stack to any depth: over any tower of arenas, an arena keeps the promises of an arena that stands
on the base alone, and nothing that it does reaches the other blocks of the base. -/
theorem tower_isolates (callocs : LawfulCalloc base valid live) (frees : LawfulFree base valid live)
    (writes : LawfulWrites valid live) {sizes : List SizeT}
    (sound : ∀ size ∈ arenaSize :: sizes, SoundSize size) (ndebug : Bool) {heap : Heap S}
    (initial : valid heap) (listed : ∀ region ∈ live heap.state, region.base ≠ 0) (ops : List ArenaOp)
    (permitted : (arenaStep ndebug (audited (towerVtable ndebug base sizes.length))).Guarded
      (fun state op => op.Permitted state.issued)
      (arenaStart arenaSize ((towerHeap heap sizes).audit [])) ops) :
    (arenaStep ndebug (audited (towerVtable ndebug base sizes.length))).AlwaysUnless
      (fun fault => fault = .allocation) (TowerStep ndebug base live heap arenaSize sizes)
      (arenaStart arenaSize ((towerHeap heap sizes).audit [])) ops := by
  obtain ⟨top, below⟩ := List.forall_mem_cons.mp sound
  -- The blocks of the base are the frame of the whole tower.
  have framed : Framed valid live (live heap.state) heap.memory heap :=
    ⟨initial, listed, Set.Subset.rfl, fun region member => absurd member.1 member.2,
      fun region _ => Memory.Agrees.refl _ _⟩
  have callocs' : LawfulCalloc base (Framed valid live (live heap.state) heap.memory)
      (outside live (live heap.state)) := callocs.framed
  obtain ⟨callocs', frees', writes'⟩ := tower_lawful callocs' frees.framed writes.framed below ndebug
  have laws : ArenaLaws (towerVtable ndebug base sizes.length) _ _ arenaSize :=
    ⟨callocs', writes', top.1, top.2⟩
  have start : Owns (towerValid (Framed valid live (live heap.state) heap.memory)
      (outside live (live heap.state)) sizes) (towerLive (outside live (live heap.state)) sizes) arenaSize
      (arenaStart arenaSize ((towerHeap heap sizes).audit [])) :=
    ⟨[], Layout.start (towerValid_start framed sizes), rfl⟩
  apply Machine.alwaysUnless_of_guarded _ _ start permitted
  intro state op owns allowed
  obtain ⟨arenas, layout, _⟩ := id owns
  rcases arenaStep_owns laws frees' ndebug owns allowed with
    stopped | ⟨reply, next, stepped, obtains, kept⟩
  · exact Or.inl stopped
  · refine Or.inr ⟨reply, next, stepped, ⟨?_, ⟨obtains, kept.releasable frees' ndebug⟩, ?_⟩, kept⟩
    · rcases arenaStep_isolates callocs'.audited writes'.audited frees'.audited ndebug layout allowed
          (Or.inl laws.sound) with
        ⟨fault, stopped, _⟩ | ⟨reply', next', stepped', isolates, _⟩
      · rw [stepped] at stopped
        cases stopped
      · rw [stepped] at stepped'
        cases stepped'
        exact isolates
    · intro region member
      obtain ⟨arenas', layout', _⟩ := kept
      have base := towerValid_base layout'.valid
      refine ⟨base.kept member, base.same region member, ?_⟩
      intro block issued
      obtain ⟨arena, listed, inside⟩ := layout'.issued block issued
      obtain ⟨outer, alive, within⟩ := towerLive_within layout'.valid (layout'.owned arena listed)
      exact (base.apart outer alive region member).mono (inside.trans (arena.body_within.trans within))
        (Region.Within.refl region)

/-- The arenas under the top one have 64 and 128 bytes. -/
def towerSizes : List SizeT := [64, 128]

/-- The first block of the top arena lies behind three headers. -/
def towerRequests : List ArenaOp :=
  [.malloc 9, .calloc 10 4, .write 40 [1, 2], .malloc 8, .free 40, .realloc 40 16, .destroy, .malloc 32]

theorem towerSizes_sound : ∀ size ∈ 32 :: towerSizes, SoundSize size := by
  simp only [towerSizes, List.forall_mem_cons, List.not_mem_nil, false_implies, implies_true, and_true]
  decide

theorem tower_isolates_bump :
    (arenaStep false (audited (towerVtable false bumpAllocator towerSizes.length))).AlwaysUnless
      (fun fault => fault = .allocation) (TowerStep false bumpAllocator bumpLive bumpHeap 32 towerSizes)
      (arenaStart 32 ((towerHeap bumpHeap towerSizes).audit [])) towerRequests :=
  tower_isolates bumpAllocator_calloc bumpAllocator_free bumpAllocator_writes towerSizes_sound false
    bumpHeap_valid (fun _ member => absurd member List.not_mem_nil) towerRequests (by decide +kernel)

end Xstd
