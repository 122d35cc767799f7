import Xstd.Construction.Alloc

/-
This file defines an allocator that never reuses memory and proves that it obeys the laws.
-/

namespace Xstd

open Library

/-- The blocks that are not freed lie below `next`. -/
structure BumpState where
  next : ℕ
  blocks : List Region

/-- The next block starts at a multiple of 16 above all earlier ones. -/
def BumpState.base (state : BumpState) : ℕ := state.next / 16 * 16 + 16

/-- A request that leaves the address space receives `NULL`. -/
def bumpTake (heap : Heap BumpState) (size : ℕ) (bytes : List UInt8) : Addr × Heap BumpState :=
  let base := heap.state.base
  if base + size < 2 ^ 64 then
    (UInt64.ofNat base,
      ⟨⟨base + size, ⟨base, size⟩ :: heap.state.blocks⟩, heap.memory.write base bytes⟩)
  else
    (0, heap)

def bumpRelease (heap : Heap BumpState) (ptr : Addr) : Heap BumpState :=
  { heap with state := { heap.state with blocks := release heap.state.blocks ptr } }

/-- The bytes that move to a block of the new size. -/
def bumpMoved (heap : Heap BumpState) (old : Addr) (newsize : ℕ) : List UInt8 :=
  match heap.state.blocks.find? fun region => region.base = old.toNat with
  | none => []
  | some region => heap.memory.read region.base (min region.size newsize)

def bumpAllocator : Allocator BumpState where
  malloc heap size := .ok (bumpTake heap size.toNat [])
  free heap ptr := .ok (bumpRelease heap ptr)
  calloc heap nmemb size :=
    let total := nmemb.toNat * size.toNat
    .ok (bumpTake heap total (List.replicate total 0))
  realloc heap old newsize :=
    if old = 0 then
      .ok (bumpTake heap newsize.toNat [])
    else
      let (ptr, after) := bumpTake heap newsize.toNat (bumpMoved heap old newsize.toNat)
      .ok (ptr, if ptr = 0 then heap else bumpRelease after old)

/-- All blocks lie below `next`, and no two of them share a base. -/
structure BumpValid (heap : Heap BumpState) : Prop where
  below : ∀ region ∈ heap.state.blocks, region.base + region.size ≤ heap.state.next
  unique : ∀ first ∈ heap.state.blocks, ∀ second ∈ heap.state.blocks,
    first.base = second.base → first = second

def bumpLive (state : BumpState) : Set Region := fun region => region ∈ state.blocks

theorem bumpBase_above (state : BumpState) : state.next < state.base := by
  unfold BumpState.base
  omega

/-- The allocator grants its next block or returns `NULL`. -/
theorem bumpTake_cases (heap : Heap BumpState) (size : ℕ) (bytes : List UInt8) :
    bumpTake heap size bytes = (0, heap) ∨
      ∃ ptr : Addr, ptr ≠ 0 ∧ ptr.toNat = heap.state.base ∧ ptr.toNat + size < 2 ^ 64 ∧
        bumpTake heap size bytes =
          (ptr, ⟨⟨ptr.toNat + size, ⟨ptr.toNat, size⟩ :: heap.state.blocks⟩,
            heap.memory.write ptr.toNat bytes⟩) := by
  rcases Nat.lt_or_ge (heap.state.base + size) (2 ^ 64) with room | full
  · right
    have exact : (UInt64.ofNat heap.state.base).toNat = heap.state.base := by
      apply UInt64.toNat_ofNat_of_lt'
      change heap.state.base < 2 ^ 64
      omega
    refine ⟨UInt64.ofNat heap.state.base, ?_, exact, by omega, ?_⟩
    · intro zero
      have above := bumpBase_above heap.state
      rw [zero] at exact
      change 0 = heap.state.base at exact
      omega
    · simp only [bumpTake, if_pos room, exact]
  · left
    simp only [bumpTake, if_neg (Nat.not_lt.mpr full)]

/-- A granted block lies above all earlier ones. -/
theorem bumpTake_granted {heap : Heap BumpState} (valid : BumpValid heap) {ptr : Addr} {size : ℕ}
    (placed : ptr.toNat = heap.state.base) (room : ptr.toNat + size < 2 ^ 64) (bytes : List UInt8)
    (short : bytes.length ≤ size) :
    let after : Heap BumpState := ⟨⟨ptr.toNat + size, ⟨ptr.toNat, size⟩ :: heap.state.blocks⟩,
      heap.memory.write ptr.toNat bytes⟩
    BumpValid after ∧ Granted bumpLive (bumpLive heap.state) heap after ⟨ptr.toNat, size⟩ := by
  have above := bumpBase_above heap.state
  have clear : ∀ region ∈ heap.state.blocks, ∀ length,
      region.Disjoint ⟨ptr.toNat, length⟩ := by
    intro region member length
    apply Region.disjoint_of_le
    have below := valid.below region member
    change region.base + region.size ≤ ptr.toNat
    omega
  intro after
  constructor
  · constructor
    · intro region member
      change region.base + region.size ≤ ptr.toNat + size
      rcases List.mem_cons.mp member with rfl | earlier
      · exact Nat.le_refl _
      · have below := valid.below region earlier
        omega
    · intro first left second right same
      rcases List.mem_cons.mp left with rfl | earlier <;>
        rcases List.mem_cons.mp right with rfl | earlier'
      · rfl
      · have below := valid.below second earlier'
        change ptr.toNat = second.base at same
        omega
      · have below := valid.below first earlier
        change first.base = ptr.toNat at same
        omega
      · exact valid.unique first earlier second earlier' same
  · constructor
    · exact Nat.le_of_lt room
    · exact fun region member => (clear region member size).symm
    · exact fun region member => Memory.write_agrees _ (clear region member bytes.length)
    · ext region
      exact List.mem_cons

theorem mem_release {held : List Region} {ptr : Addr} {region : Region} :
    region ∈ release held ptr ↔ region ∈ held ∧ region.base ≠ ptr.toNat := by
  simp [release]

/-- A release removes the block at the pointer. -/
theorem bumpRelease_live {heap : Heap BumpState} (valid : BumpValid heap) {ptr : Addr} {size : ℕ}
    (held : (⟨ptr.toNat, size⟩ : Region) ∈ bumpLive heap.state) :
    bumpLive (bumpRelease heap ptr).state = bumpLive heap.state \ {⟨ptr.toNat, size⟩} := by
  ext region
  change region ∈ release heap.state.blocks ptr ↔
    region ∈ heap.state.blocks ∧ region ≠ ⟨ptr.toNat, size⟩
  rw [mem_release]
  apply and_congr_right
  intro member
  apply not_congr
  constructor
  · exact fun same => valid.unique region member _ held same
  · intro same
    rw [same]

theorem bumpRelease_valid {heap : Heap BumpState} (valid : BumpValid heap) (ptr : Addr) :
    BumpValid (bumpRelease heap ptr) where
  below region member := valid.below region (mem_release.mp member).1
  unique first left second right :=
    valid.unique first (mem_release.mp left).1 second (mem_release.mp right).1

theorem bumpAllocator_calloc : LawfulCalloc bumpAllocator BumpValid bumpLive where
  returns heap size valid nonzero := by
    right
    have total : (1 : SizeT).toNat * size.toNat = size.toNat := Nat.one_mul _
    rcases bumpTake_cases heap size.toNat (List.replicate size.toNat 0) with
      refused | ⟨ptr, found, placed, room, taken⟩
    · refine ⟨0, heap, by simp only [bumpAllocator, total, refused], valid, ?_, ?_⟩
      · exact fun _ => ⟨fun _ _ => Memory.Agrees.refl _ _, rfl⟩
      · exact fun impossible => absurd rfl impossible
    · have granted := bumpTake_granted valid placed room (List.replicate size.toNat 0)
        (Nat.le_of_eq List.length_replicate)
      refine ⟨ptr, _, by simp only [bumpAllocator, total, taken], granted.1, ?_, ?_⟩
      · exact fun null => absurd null found
      · refine fun _ => ⟨granted.2, ?_⟩
        intro address inside
        obtain ⟨index, rfl⟩ := Nat.exists_eq_add_of_le inside.1
        have bound : index < (List.replicate size.toNat (0 : UInt8)).length := by
          rw [List.length_replicate]
          exact Nat.lt_of_add_lt_add_left inside.2
        change heap.memory.write ptr.toNat _ (ptr.toNat + index) = 0
        rw [Memory.write_inside bound, List.getElem_replicate]

theorem bumpAllocator_free : LawfulFree bumpAllocator BumpValid bumpLive where
  returns heap ptr _ valid held :=
    ⟨bumpRelease heap ptr, rfl, bumpRelease_valid valid ptr, bumpRelease_live valid held,
      fun _ _ => Memory.Agrees.refl _ _⟩

theorem bumpAllocator_writes : LawfulWrites BumpValid bumpLive where
  keeps _ _ _ _ valid _ _ := ⟨valid.below, valid.unique⟩

/-- The moved bytes are the front of the block at the pointer. -/
theorem bumpMoved_eq {heap : Heap BumpState} (valid : BumpValid heap) {old : Addr} {size : ℕ}
    (held : (⟨old.toNat, size⟩ : Region) ∈ bumpLive heap.state) (newsize : ℕ) :
    bumpMoved heap old newsize = heap.memory.read old.toNat (min size newsize) := by
  unfold bumpMoved
  split
  · rename_i missing
    have absent := List.find?_eq_none.mp missing _ held
    exact absurd (decide_eq_true rfl) absent
  · rename_i region found
    have same := List.find?_some found
    have base : region.base = old.toNat := by simpa using same
    rw [valid.unique region (List.mem_of_find?_eq_some found) _ held base]

theorem bumpAllocator_realloc : LawfulRealloc bumpAllocator BumpValid bumpLive where
  allocates heap newsize valid nonzero := by
    right
    rcases bumpTake_cases heap newsize.toNat [] with refused | ⟨ptr, found, placed, room, taken⟩
    · refine ⟨0, heap, by simp [bumpAllocator, refused], valid, ?_, ?_⟩
      · exact fun _ => ⟨fun _ _ => Memory.Agrees.refl _ _, rfl⟩
      · exact fun impossible => absurd rfl impossible
    · have granted := bumpTake_granted valid placed room [] (Nat.zero_le _)
      exact ⟨ptr, _, by simp only [bumpAllocator, if_true, taken], granted.1,
        fun null => absurd null found, fun _ => granted.2⟩
  moves heap old size newsize valid nonzero held listed := by
    right
    have moved := bumpMoved_eq valid held newsize.toNat
    have length : (bumpMoved heap old newsize.toNat).length = min size newsize.toNat := by
      rw [moved, Memory.read_length]
    rcases bumpTake_cases heap newsize.toNat (bumpMoved heap old newsize.toNat) with
      refused | ⟨ptr, found, placed, room, taken⟩
    · refine ⟨0, heap, by simp [bumpAllocator, listed, refused], valid, ?_, ?_⟩
      · exact fun _ => ⟨fun _ _ => Memory.Agrees.refl _ _, rfl⟩
      · exact fun impossible => absurd rfl impossible
    · obtain ⟨valid', granted⟩ := bumpTake_granted valid placed room _
        (Nat.le_trans (Nat.le_of_eq length) (Nat.min_le_right _ _))
      refine ⟨ptr, _, by simp only [bumpAllocator, if_neg listed, taken, if_neg found],
        bumpRelease_valid valid' old, fun null => absurd null found, fun _ => ⟨?_, ?_⟩⟩
      · have other : (⟨ptr.toNat, newsize.toNat⟩ : Region) ≠ ⟨old.toNat, size⟩ := by
          intro same
          have below := valid.below _ held
          have above := bumpBase_above heap.state
          have base := congrArg Region.base same
          change ptr.toNat = old.toNat at base
          change old.toNat + size ≤ heap.state.next at below
          omega
        constructor
        · exact granted.fits
        · exact fun region member => granted.apart region member.1
        · exact fun region member => granted.same region member.1
        · have alive : (⟨old.toNat, size⟩ : Region) ∈
              bumpLive ⟨ptr.toNat + newsize.toNat, ⟨ptr.toNat, newsize.toNat⟩ :: heap.state.blocks⟩ :=
            List.mem_cons_of_mem _ held
          rw [bumpRelease_live valid' alive, granted.live, Set.insert_sdiff_singleton_comm other]
      · intro index inside below
        have bound : index < (bumpMoved heap old newsize.toNat).length := by
          rw [length]
          exact Nat.lt_min.mpr ⟨inside, below⟩
        change heap.memory.write ptr.toNat _ (ptr.toNat + index) = _
        rw [Memory.write_inside bound]
        simp only [moved, Memory.read_getElem]

theorem bumpAllocator_malloc : LawfulMalloc bumpAllocator BumpValid bumpLive where
  returns heap size valid nonzero := by
    right
    rcases bumpTake_cases heap size.toNat [] with refused | ⟨ptr, found, placed, room, taken⟩
    · refine ⟨0, heap, by simp only [bumpAllocator, refused], valid, ?_, ?_⟩
      · exact fun _ => ⟨fun _ _ => Memory.Agrees.refl _ _, rfl⟩
      · exact fun impossible => absurd rfl impossible
    · have granted := bumpTake_granted valid placed room [] (Nat.zero_le _)
      exact ⟨ptr, _, by simp only [bumpAllocator, taken], granted.1,
        fun null => absurd null found, fun _ => granted.2⟩

theorem bumpAllocator_freesNull : FreesNull bumpAllocator BumpValid bumpLive where
  returns heap valid listed := by
    refine ⟨bumpRelease heap 0, rfl, bumpRelease_valid valid 0, fun _ _ => Memory.Agrees.refl _ _, ?_⟩
    ext region
    show region ∈ release heap.state.blocks 0 ↔ region ∈ heap.state.blocks
    rw [mem_release, and_iff_left_iff_imp]
    exact listed region

/-- The allocator starts without blocks in a memory of nonzero bytes. -/
def bumpHeap : Heap BumpState := ⟨⟨0, []⟩, fun _ => 255⟩

theorem bumpHeap_valid : BumpValid bumpHeap := ⟨by simp [bumpHeap], by simp [bumpHeap]⟩

end Xstd
