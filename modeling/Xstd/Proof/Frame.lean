import Xstd.Construction.Alloc
import Xstd.Library.Ownership
import Xstd.Library.Words

/-
This file proves that a client of an allocator leaves every block alone that it does not own.
-/

namespace Xstd

open Library

variable {S : Type} {allocator : Allocator S} {valid : Heap S → Prop} {live : S → Set Region}

/-- The blocks of the frame stay live with their bytes, and the other live blocks lie apart from them. -/
structure Framed (valid : Heap S → Prop) (live : S → Set Region) (frame : Set Region) (memory : Memory)
    (heap : Heap S) : Prop where
  valid : valid heap
  listed : ∀ region ∈ live heap.state, region.base ≠ 0
  kept : frame ⊆ live heap.state
  apart : ∀ region ∈ live heap.state \ frame, ∀ other ∈ frame, region.Disjoint other
  same : ∀ region ∈ frame, memory.Agrees heap.memory region

/-- The live blocks that do not belong to the frame. -/
def outside (live : S → Set Region) (frame : Set Region) (state : S) : Set Region := live state \ frame

variable {frame : Set Region} {memory : Memory} {heap after : Heap S}

namespace Framed

/-- What leaves the live blocks alone leaves the frame alone. -/
theorem untouched (framed : Framed valid live frame memory heap) (kept : valid after)
    (untouched : Untouched live heap after) :
    Framed valid live frame memory after ∧ Untouched (outside live frame) heap after := by
  constructor
  · constructor
    · exact kept
    · rw [untouched.live]
      exact framed.listed
    · rw [untouched.live]
      exact framed.kept
    · rw [untouched.live]
      exact framed.apart
    · intro region member
      exact (framed.same region member).trans (untouched.same region (framed.kept member))
  · constructor
    · exact fun region member => untouched.same region member.1
    · rw [outside, outside, untouched.live]

/-- A grant to the client leaves the frame alone. A nonempty block is not one of the frame. -/
theorem granted (framed : Framed valid live frame memory heap) (kept : valid after) {held : Set Region}
    (smaller : held ⊆ live heap.state) (whole : frame ⊆ held) {ptr : Addr} {size : ℕ}
    (found : ptr ≠ 0) (nonempty : 0 < size)
    (granted : Granted live held heap after ⟨ptr.toNat, size⟩) :
    Framed valid live frame memory after ∧
      Granted (outside live frame) (held \ frame) heap after ⟨ptr.toNat, size⟩ := by
  have fresh : (⟨ptr.toNat, size⟩ : Region) ∉ frame := by
    intro member
    have inside : Region.Contains ⟨ptr.toNat, size⟩ ptr.toNat :=
      ⟨Nat.le_refl _, Nat.lt_add_of_pos_right nonempty⟩
    exact granted.apart _ (whole member) _ inside inside
  constructor
  · constructor
    · exact kept
    · intro region member
      rw [granted.live] at member
      rcases member with rfl | earlier
      · exact Nat.pos_iff_ne_zero.mp ((toNat_pos_iff ptr).mpr found)
      · exact framed.listed region (smaller earlier)
    · rw [granted.live]
      exact whole.trans (Set.subset_insert _ _)
    · rintro region ⟨member, other⟩
      rw [granted.live] at member
      rcases member with rfl | earlier
      · exact fun kept member => granted.apart kept (whole member)
      · exact framed.apart region ⟨smaller earlier, other⟩
    · intro region member
      exact (framed.same region member).trans (granted.same region (whole member))
  · constructor
    · exact granted.fits
    · exact fun region member => granted.apart region member.1
    · exact fun region member => granted.same region member.1
    · rw [outside, granted.live, Set.insert_sdiff_of_notMem _ fresh]

/-- A release of a block outside the frame leaves the frame alone. -/
theorem released (framed : Framed valid live frame memory heap) (kept : valid after) {block : Region}
    (member : block ∈ outside live frame heap.state)
    (released : live after.state = live heap.state \ {block})
    (same : ∀ region ∈ live after.state, heap.memory.Agrees after.memory region) :
    Framed valid live frame memory after ∧
      outside live frame after.state = outside live frame heap.state \ {block} := by
  have whole : frame ⊆ live heap.state \ {block} := by
    intro region inside
    refine ⟨framed.kept inside, ?_⟩
    rintro rfl
    exact member.2 inside
  constructor
  · constructor
    · exact kept
    · intro region inside
      rw [released] at inside
      exact framed.listed region inside.1
    · rw [released]
      exact whole
    · rintro region ⟨inside, other⟩
      rw [released] at inside
      exact framed.apart region ⟨inside.1, other⟩
    · intro region inside
      exact (framed.same region inside).trans (same region (released ▸ whole inside))
  · rw [outside, outside, released, Set.sdiff_sdiff_comm]

/-- A call that grants a block or returns `NULL` leaves the frame alone. -/
theorem call (framed : Framed valid live frame memory heap) (kept : valid after) {held : Set Region}
    (smaller : held ⊆ live heap.state) (whole : frame ⊆ held) {ptr : Addr} {size : SizeT}
    (nonzero : size ≠ 0) (null : ptr = 0 → Untouched live heap after)
    (granted : ptr ≠ 0 → Granted live held heap after ⟨ptr.toNat, size.toNat⟩) :
    Framed valid live frame memory after ∧ (ptr = 0 → Untouched (outside live frame) heap after) ∧
      (ptr ≠ 0 → Granted (outside live frame) (held \ frame) heap after ⟨ptr.toNat, size.toNat⟩) := by
  rcases Classical.em (ptr = 0) with missing | found
  · obtain ⟨framed', untouched⟩ := framed.untouched kept (null missing)
    exact ⟨framed', fun _ => untouched, fun listed => absurd missing listed⟩
  · have nonempty := (toNat_pos_iff size).mpr nonzero
    obtain ⟨framed', block⟩ := framed.granted kept smaller whole found nonempty (granted found)
    exact ⟨framed', fun missing => absurd missing found, fun _ => block⟩

end Framed

/-- A call of `malloc` never touches the frame. -/
theorem LawfulMalloc.framed (mallocs : LawfulMalloc allocator valid live) :
    LawfulMalloc allocator (Framed valid live frame memory) (outside live frame) where
  returns heap size current nonzero := by
    rcases mallocs.returns heap size current.valid nonzero with
      stopped | ⟨ptr, after, called, kept, null, granted⟩
    · exact Or.inl stopped
    · exact Or.inr ⟨ptr, after, called,
        current.call kept Set.Subset.rfl current.kept nonzero null granted⟩

/-- A call of `calloc` never touches the frame. -/
theorem LawfulCalloc.framed (callocs : LawfulCalloc allocator valid live) :
    LawfulCalloc allocator (Framed valid live frame memory) (outside live frame) where
  returns heap size current nonzero := by
    rcases callocs.returns heap size current.valid nonzero with
      stopped | ⟨ptr, after, called, kept, null, granted⟩
    · exact Or.inl stopped
    · obtain ⟨framed, null', granted'⟩ := current.call kept Set.Subset.rfl current.kept nonzero null
        fun found => (granted found).1
      exact Or.inr ⟨ptr, after, called, framed, null',
        fun found => ⟨granted' found, (granted found).2⟩⟩

/-- A call of `realloc` with a block outside the frame never touches the frame. -/
theorem LawfulRealloc.framed (reallocs : LawfulRealloc allocator valid live) :
    LawfulRealloc allocator (Framed valid live frame memory) (outside live frame) where
  allocates heap newsize current nonzero := by
    rcases reallocs.allocates heap newsize current.valid nonzero with
      stopped | ⟨ptr, after, called, kept, null, granted⟩
    · exact Or.inl stopped
    · exact Or.inr ⟨ptr, after, called,
        current.call kept Set.Subset.rfl current.kept nonzero null granted⟩
  moves heap old size newsize current nonzero held listed := by
    rcases reallocs.moves heap old size newsize current.valid nonzero held.1 listed with
      stopped | ⟨ptr, after, called, kept, null, granted⟩
    · exact Or.inl stopped
    · have whole : frame ⊆ live heap.state \ {⟨old.toNat, size⟩} := by
        intro region member
        refine ⟨current.kept member, ?_⟩
        rintro rfl
        exact held.2 member
      obtain ⟨framed, null', granted'⟩ := current.call kept Set.sdiff_subset whole nonzero null
        fun found => (granted found).1
      rw [Set.sdiff_sdiff_comm] at granted'
      exact Or.inr ⟨ptr, after, called, framed, null',
        fun found => ⟨granted' found, (granted found).2⟩⟩

/-- A release of a block outside the frame never touches the frame. -/
theorem LawfulFree.framed (frees : LawfulFree allocator valid live) :
    LawfulFree allocator (Framed valid live frame memory) (outside live frame) where
  returns heap ptr size current member := by
    obtain ⟨after, freed, kept, released, same⟩ := frees.returns heap ptr size current.valid member.1
    obtain ⟨framed, gone⟩ := current.released kept member released same
    exact ⟨after, freed, framed, gone, fun region inside => same region inside.1⟩

theorem FreesNull.framed (nulls : FreesNull allocator valid live) :
    FreesNull allocator (Framed valid live frame memory) (outside live frame) where
  returns heap current _ := by
    obtain ⟨after, freed, kept, untouched⟩ := nulls.returns heap current.valid current.listed
    obtain ⟨framed, same⟩ := current.untouched kept untouched
    exact ⟨after, freed, framed, same⟩

/-- A write inside a block outside the frame never touches the frame. -/
theorem LawfulWrites.framed (writes : LawfulWrites valid live) :
    LawfulWrites (Framed valid live frame memory) (outside live frame) where
  keeps heap base bytes region current member inside := by
    constructor
    · exact writes.keeps heap base bytes region current.valid member.1 inside
    · exact current.listed
    · exact current.kept
    · exact current.apart
    · intro other kept
      have apart := (current.apart region member other kept).symm.mono (Region.Within.refl _) inside
      exact (current.same other kept).trans (Memory.write_agrees _ apart)

/-- The live blocks are the tokens of a heap. No block lives at `NULL`. -/
def blockTokens (valid : Heap S → Prop) (live : S → Set Region) : Tokens (Heap S) Region where
  valid heap := valid heap ∧ ∀ region ∈ live heap.state, region.base ≠ 0
  live heap := live heap.state
  Apart := Region.Disjoint
  Same region before after := before.memory.Agrees after.memory region
  symm := Region.Disjoint.symm
  refl region heap := Memory.Agrees.refl heap.memory region
  trans := Memory.Agrees.trans

variable {owned : Set Region}

/-- An owner sees its own blocks as the only ones, and all other blocks are its frame. -/
theorem framed_of_holds (holds : (blockTokens valid live).Holds heap owned) :
    Framed valid live (live heap.state \ owned) heap.memory heap ∧
      outside live (live heap.state \ owned) heap.state = owned := by
  have inside : outside live (live heap.state \ owned) heap.state = owned :=
    Set.sdiff_sdiff_cancel_left holds.live
  refine ⟨⟨holds.valid.1, holds.valid.2, Set.sdiff_subset, ?_, ?_⟩, inside⟩
  · intro region member other remaining
    rw [← outside, inside] at member
    exact holds.apart region member other remaining
  · exact fun region _ => Memory.Agrees.refl _ _

/-- What leaves the frame of an owner alone replaces only blocks of this owner. -/
theorem replaces_of_framed (framed : Framed valid live (live heap.state \ owned) heap.memory after) :
    (blockTokens valid live).Replaces heap owned after
      (outside live (live heap.state \ owned) after.state) where
  holds := by
    have others : live after.state \ outside live (live heap.state \ owned) after.state =
        live heap.state \ owned := Set.sdiff_sdiff_cancel_left framed.kept
    refine ⟨⟨framed.valid, framed.listed⟩, Set.sdiff_subset, ?_⟩
    intro region member other remaining
    exact framed.apart region member other (others ▸ remaining)
  others := Set.sdiff_sdiff_cancel_left framed.kept
  same := framed.same

end Xstd
