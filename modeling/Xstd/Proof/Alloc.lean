import Xstd.Construction.Alloc

/-
This file proves that the laws of an allocator carry over to other views of it.
-/

namespace Xstd

open Library

variable {S : Type} {allocator : Allocator S} {valid : Heap S → Prop} {live : S → Set Region}

/-- The live blocks that end inside the address space. -/
def fitting (live : S → Set Region) (state : S) : Set Region :=
  {region | region ∈ live state ∧ region.base + region.size ≤ 2 ^ 64}

theorem Untouched.fitting {before after : Heap S} (untouched : Untouched live before after) :
    Untouched (fitting live) before after where
  same region member := untouched.same region member.1
  live := by
    ext region
    change region ∈ live after.state ∧ _ ↔ region ∈ live before.state ∧ _
    rw [untouched.live]

theorem Granted.fitting {before after : Heap S} {kept kept' : Set Region} {block : Region}
    (granted : Granted live kept before after block)
    (fits : ∀ region, region ∈ kept' ↔ region ∈ kept ∧ region.base + region.size ≤ 2 ^ 64) :
    Granted (fitting live) kept' before after block where
  fits := granted.fits
  apart region member := granted.apart region ((fits region).mp member).1
  same region member := granted.same region ((fits region).mp member).1
  live := by
    ext region
    change region ∈ live after.state ∧ _ ↔ region ∈ insert block kept'
    rw [granted.live, Set.mem_insert_iff, Set.mem_insert_iff, fits region]
    constructor
    · rintro ⟨rfl | earlier, room⟩
      · exact Or.inl rfl
      · exact Or.inr ⟨earlier, room⟩
    · rintro (rfl | ⟨earlier, room⟩)
      · exact ⟨Or.inl rfl, granted.fits⟩
      · exact ⟨Or.inr earlier, room⟩

/-- The laws also hold when only the blocks inside the address space count as live. -/
theorem LawfulRealloc.fitting (reallocs : LawfulRealloc allocator valid live) :
    LawfulRealloc allocator valid (fitting live) where
  allocates heap newsize current nonzero := by
    rcases reallocs.allocates heap newsize current nonzero with
      stopped | ⟨ptr, after, called, kept, null, granted⟩
    · exact Or.inl stopped
    · exact Or.inr ⟨ptr, after, called, kept, fun same => (null same).fitting,
        fun found => (granted found).fitting fun _ => Iff.rfl⟩
  moves heap old size newsize current nonzero held listed := by
    rcases reallocs.moves heap old size newsize current nonzero held.1 listed with
      stopped | ⟨ptr, after, called, kept, null, granted⟩
    · exact Or.inl stopped
    · refine Or.inr ⟨ptr, after, called, kept, fun same => (null same).fitting, fun found => ?_⟩
      obtain ⟨moved, front⟩ := granted found
      exact ⟨moved.fitting fun _ => and_right_comm, front⟩

theorem LawfulWrites.fitting (writes : LawfulWrites valid live) : LawfulWrites valid (fitting live) where
  keeps heap base bytes region current member := writes.keeps heap base bytes region current member.1

theorem Audited.held_append (state : S) (calls : List AllocCall) (call : AllocCall) :
    (⟨state, calls ++ [call]⟩ : Audited S).held = call.apply (⟨state, calls⟩ : Audited S).held := by
  simp [Audited.held]

/-- The audited allocator keeps the laws of `calloc`. -/
theorem LawfulCalloc.audited (callocs : LawfulCalloc allocator valid live) :
    LawfulCalloc (audited allocator) (fun heap => valid heap.unaudited)
      (fun record => live record.state) where
  returns heap size current nonzero := by
    rcases callocs.returns heap.unaudited size current nonzero with
      stopped | ⟨ptr, after, called, kept, null, granted⟩
    · exact Or.inl (by simp only [Xstd.audited, stopped]; rfl)
    · refine Or.inr ⟨ptr, after.audit (heap.state.calls ++ [.calloc 1 size ptr]),
        by simp only [Xstd.audited, called]; rfl, kept, ?_, ?_⟩
      · intro missing
        exact ⟨(null missing).same, (null missing).live⟩
      · intro found
        obtain ⟨block, zero⟩ := granted found
        exact ⟨⟨block.fits, block.apart, block.same, block.live⟩, zero⟩

/-- The audited allocator keeps the law of `free`. -/
theorem LawfulFree.audited (frees : LawfulFree allocator valid live) :
    LawfulFree (audited allocator) (fun heap => valid heap.unaudited)
      (fun record => live record.state) where
  returns heap ptr size current held := by
    obtain ⟨after, freed, kept, released, agrees⟩ :=
      frees.returns heap.unaudited ptr size current held
    exact ⟨after.audit (heap.state.calls ++ [.free ptr]), by simp only [Xstd.audited, freed]; rfl,
      kept, released, agrees⟩

/-- The audited allocator keeps the law of `realloc`. -/
theorem LawfulRealloc.audited (reallocs : LawfulRealloc allocator valid live) :
    LawfulRealloc (audited allocator) (fun heap => valid heap.unaudited)
      (fun record => live record.state) where
  allocates heap newsize current nonzero := by
    rcases reallocs.allocates heap.unaudited newsize current nonzero with
      stopped | ⟨ptr, after, called, kept, null, granted⟩
    · exact Or.inl (by simp only [Xstd.audited, stopped]; rfl)
    · refine Or.inr ⟨ptr, after.audit (heap.state.calls ++ [.realloc 0 newsize ptr]),
        by simp only [Xstd.audited, called]; rfl, kept, ?_, ?_⟩
      · exact fun missing => ⟨(null missing).same, (null missing).live⟩
      · intro found
        have block := granted found
        exact ⟨block.fits, block.apart, block.same, block.live⟩
  moves heap old size newsize current nonzero held listed := by
    rcases reallocs.moves heap.unaudited old size newsize current nonzero held listed with
      stopped | ⟨ptr, after, called, kept, null, granted⟩
    · exact Or.inl (by simp only [Xstd.audited, stopped]; rfl)
    · refine Or.inr ⟨ptr, after.audit (heap.state.calls ++ [.realloc old newsize ptr]),
        by simp only [Xstd.audited, called]; rfl, kept, ?_, ?_⟩
      · exact fun missing => ⟨(null missing).same, (null missing).live⟩
      · intro found
        obtain ⟨block, front⟩ := granted found
        exact ⟨⟨block.fits, block.apart, block.same, block.live⟩, front⟩

theorem LawfulWrites.audited (writes : LawfulWrites valid live) :
    LawfulWrites (fun heap : Heap (Audited S) => valid heap.unaudited)
      (fun record => live record.state) where
  keeps heap base bytes region current member inside :=
    writes.keeps heap.unaudited base bytes region current member inside

end Xstd
