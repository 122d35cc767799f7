import Xstd.Library.Agreement
import Xstd.Proof.Arena.Calloc

/-
This file proves that no operation observes a stale cursor or what the parent hides.
-/

namespace Xstd

open Library

variable {S : Type} {parent : Allocator S} {related : Heap S → Heap S → Prop}

/-- The parent answers alike on related heaps, which hold the same bytes. -/
structure Congruent (parent : Allocator S) (related : Heap S → Heap S → Prop) : Prop where
  memory : ∀ heap heap', related heap heap' → heap.memory = heap'.memory
  calloc : ∀ heap heap' size, related heap heap' →
    Machine.Agree related (parent.calloc heap 1 size) (parent.calloc heap' 1 size)
  free : ∀ heap heap' ptr, related heap heap' →
    Matches related (parent.free heap ptr) (parent.free heap' ptr)
  write : ∀ heap heap' base bytes, related heap heap' →
    related ⟨heap.state, heap.memory.write base bytes⟩ ⟨heap'.state, heap'.memory.write base bytes⟩

/-- The arenas are equal, except that the cursor of an empty list is stale. -/
structure ArenaAllocator.Alike (first second : ArenaAllocator) : Prop where
  size : first.arenaSize = second.arenaSize
  list : first.arenaList = second.arenaList
  cursor : first.arenaList ≠ 0 → first.cursor = second.cursor

structure ArenaResult.Alike (related : Heap S → Heap S → Prop) (first second : ArenaResult S) : Prop where
  ptr : first.ptr = second.ptr
  arena : first.arena.Alike second.arena
  heap : related first.heap second.heap
  sums : first.sums = second.sums

structure ArenaState.Alike (related : Heap S → Heap S → Prop) (first second : ArenaState S) : Prop where
  arena : first.arena.Alike second.arena
  heap : related first.heap second.heap
  issued : first.issued = second.issued

variable {first second : ArenaAllocator} {heap heap' : Heap S}

theorem ArenaAllocator.Alike.refl (arena : ArenaAllocator) : arena.Alike arena :=
  ⟨rfl, rfl, fun _ => rfl⟩

theorem ArenaAllocator.Alike.hasRoom_iff (alike : first.Alike second) (allocSize : SizeT) :
    first.HasRoom allocSize ↔ second.HasRoom allocSize := by
  unfold HasRoom
  rw [← alike.list, ← alike.size]
  apply and_congr_right
  intro listed
  rw [alike.cursor listed]

theorem ArenaAllocator.Alike.checks (alike : first.Alike second) : first.checks = second.checks := by
  unfold ArenaAllocator.checks
  rw [← alike.list, ← alike.size]
  split
  · rfl
  · rename_i listed
    rw [alike.cursor listed]

theorem allocCalloc_agrees (congruent : Congruent parent related) (ndebug : Bool)
    (hidden : related heap heap') (size : SizeT) :
    Machine.Agree related (allocCalloc ndebug parent heap 1 size)
      (allocCalloc ndebug parent heap' 1 size) := by
  apply (congruent.calloc heap heap' size hidden).bind
  intro result result' ⟨same, after⟩
  unfold assertNonNull
  rw [← same]
  split
  · rfl
  · exact ⟨same, after⟩

/-- A push leaves equal arenas behind, unless it returned `NULL`. -/
theorem arenaPush_agrees (congruent : Congruent parent related) (ndebug : Bool)
    (alike : first.Alike second) (hidden : related heap heap') (size cursor : SizeT) :
    Matches (fun pushed pushed' => pushed.1 = pushed'.1 ∧ pushed.2.1.Alike pushed'.2.1 ∧
        related pushed.2.2 pushed'.2.2)
      (arenaPush ndebug parent first heap size cursor)
      (arenaPush ndebug parent second heap' size cursor) := by
  unfold arenaPush
  rcases (allocCalloc_agrees congruent ndebug hidden (size + sizeofArena)).inv with
    ⟨fault, stopped, stopped'⟩ | ⟨⟨node, after⟩, ⟨node', after'⟩, called, called', same, hidden'⟩
  · rw [stopped, stopped']
    rfl
  · change node = node' at same
    subst same
    rw [called, called']
    simp only
    split
    · exact ⟨rfl, alike, hidden'⟩
    · refine ⟨rfl, ⟨alike.size, rfl, fun _ => rfl⟩, ?_⟩
      rw [← alike.list]
      exact congruent.write after after' node.toNat _ hidden'

/-- A push that returned an address put it in front of the list. -/
theorem arenaPush_listed {ndebug : Bool} {arena arena' : ArenaAllocator} {size cursor : SizeT}
    {node : Addr} (pushed : arenaPush ndebug parent arena heap size cursor = .ok (node, arena', heap'))
    (found : node ≠ 0) : arena'.arenaList ≠ 0 := by
  obtain ⟨after, _, ⟨null, _⟩ | ⟨_, rfl, _⟩⟩ := arenaPush_inv pushed
  · exact absurd null found
  · exact found

theorem arenaBump_alike (alike : first.Alike second) (listed : first.arenaList ≠ 0)
    (hidden : related heap heap') (allocSize : SizeT) (sums : List SizeOp) :
    (arenaBump first heap allocSize sums).Alike related (arenaBump second heap' allocSize sums) := by
  have same : first = second := by
    cases first
    cases second
    cases alike.size
    cases alike.list
    cases alike.cursor listed
    rfl
  rw [same]
  exact ⟨rfl, ArenaAllocator.Alike.refl _, hidden, rfl⟩

theorem arenaRefill_agrees (congruent : Congruent parent related) (ndebug : Bool)
    (alike : first.Alike second) (hidden : related heap heap') (allocSize : SizeT)
    (sums : List SizeOp) :
    Matches (ArenaResult.Alike related) (arenaRefill ndebug parent first heap allocSize sums)
      (arenaRefill ndebug parent second heap' allocSize sums) := by
  unfold arenaRefill
  rw [← alike.size]
  rcases (arenaPush_agrees congruent ndebug alike hidden first.arenaSize 0).inv with
    ⟨fault, stopped, stopped'⟩ |
    ⟨⟨node, arena, after⟩, ⟨node', arena', after'⟩, pushed, pushed', same, alike', hidden'⟩
  · rw [stopped, stopped']
    rfl
  · change node = node' at same
    subst same
    rw [pushed, pushed']
    simp only
    split
    · exact ⟨rfl, alike', hidden', rfl⟩
    · rename_i found
      exact arenaBump_alike alike' (arenaPush_listed pushed found) hidden' _ _

theorem arenaCalloc_agrees (congruent : Congruent parent related) (ndebug : Bool)
    (alike : first.Alike second) (hidden : related heap heap') (nmemb size : SizeT) :
    Matches (ArenaResult.Alike related) (arenaCalloc ndebug parent first heap nmemb size)
      (arenaCalloc ndebug parent second heap' nmemb size) := by
  rcases Classical.em (size = 0) with empty | nonzero
  · unfold arenaCalloc
    rw [if_pos empty, if_pos empty]
    rfl
  rcases Classical.em (Refuses nmemb size) with refused | accepted
  · rw [arenaCalloc_refused _ _ _ _ nonzero refused, arenaCalloc_refused _ _ _ _ nonzero refused]
    exact ⟨rfl, alike, hidden, rfl⟩
  rcases UInt64.lt_or_le first.arenaSize (nmemb * size) with large | small
  · rw [arenaCalloc_large _ _ _ _ nonzero accepted large,
      arenaCalloc_large _ _ _ _ nonzero accepted (alike.size ▸ large), ← alike.size]
    apply (arenaPush_agrees congruent ndebug alike hidden (nmemb * size) first.arenaSize).map
    intro pushed pushed' ⟨same, alike', hidden'⟩
    exact ⟨by simp only [ArenaResult.ofPush, same], alike', hidden', rfl⟩
  rcases Classical.em (first.HasRoom (nmemb * size)) with room | full
  · have room' := (alike.hasRoom_iff (nmemb * size)).mp room
    rw [arenaCalloc_bump _ _ _ _ nonzero accepted small room,
      arenaCalloc_bump _ _ _ _ nonzero accepted (alike.size ▸ small) room', ← alike.checks]
    exact arenaBump_alike alike room.1 hidden _ _
  · have full' := mt (alike.hasRoom_iff (nmemb * size)).mpr full
    rw [arenaCalloc_refill _ _ _ _ nonzero accepted small full,
      arenaCalloc_refill _ _ _ _ nonzero accepted (alike.size ▸ small) full', ← alike.checks]
    exact arenaRefill_agrees congruent ndebug alike hidden _ _

/-- The loop of a destroy reads the same headers. -/
theorem arenaDestroyLoop_agrees (congruent : Congruent parent related) (hidden : related heap heap')
    (fuel : ℕ) (node : Addr) :
    Machine.Agree related (arenaDestroyLoop parent fuel node heap)
      (arenaDestroyLoop parent fuel node heap') := by
  induction fuel generalizing node heap heap' with
  | zero =>
      unfold arenaDestroyLoop
      split
      · exact ⟨rfl, hidden⟩
      · rfl
  | succ fuel ih =>
      unfold arenaDestroyLoop
      split
      · exact ⟨rfl, hidden⟩
      · simp only [allocFree]
        rw [← congruent.memory heap heap' hidden]
        rcases (congruent.free heap heap' node hidden).inv with
          ⟨fault, stopped, stopped'⟩ | ⟨after, after', freed, freed', hidden'⟩
        · rw [stopped, stopped']
          rfl
        · rw [freed, freed']
          simp only
          rcases (ih hidden' (heap.memory.loadWord node.toNat)).inv with
            ⟨fault, stopped, stopped'⟩ |
            ⟨⟨events, final⟩, ⟨events', final'⟩, looped, looped', same, hidden''⟩
          · rw [stopped, stopped']
            rfl
          · rw [looped, looped']
            change events = events' at same
            exact ⟨by rw [same], hidden''⟩

variable {state state' : ArenaState S}

/-- Each operation gives the same reply in states that are alike. -/
theorem arenaStep_agrees (congruent : Congruent parent related) (ndebug : Bool) (op : ArenaOp)
    (alike : state.Alike related state') :
    Machine.Agree (ArenaState.Alike related) (arenaStep ndebug parent state op)
      (arenaStep ndebug parent state' op) := by
  cases requests : op.request with
  | some request =>
      obtain ⟨nmemb, size⟩ := request
      rw [arenaStep_request ndebug parent state requests, arenaStep_request ndebug parent state' requests]
      apply (arenaCalloc_agrees congruent ndebug alike.arena alike.heap nmemb size).map
      intro result result' same
      have block : result.block (nmemb.toNat * size.toNat) = result'.block (nmemb.toNat * size.toNat) := by
        simp only [ArenaResult.block, same.ptr]
      refine ⟨?_, same.arena, same.heap, ?_⟩
      · simp only [ArenaState.issue, block, same.sums]
      · simp only [ArenaState.issue, block, alike.issued]
  | none =>
      cases op with
      | malloc size => cases requests
      | calloc nmemb size => cases requests
      | realloc ptr size => cases requests
      | free ptr => exact ⟨rfl, alike⟩
      | write base bytes =>
          simp only [arenaStep, ← alike.issued]
          split
          · exact ⟨rfl, alike.arena, congruent.write _ _ base bytes alike.heap, rfl⟩
          · rfl
      | destroy =>
          simp only [arenaStep, arenaAllocDestroy, ← alike.arena.list]
          rcases (arenaDestroyLoop_agrees congruent alike.heap destroyFuel state.arena.arenaList).inv with
            ⟨fault, stopped, stopped'⟩ |
            ⟨⟨events, final⟩, ⟨events', final'⟩, looped, looped', same, hidden⟩
          · rw [stopped, stopped']
            rfl
          · rw [looped, looped']
            change events = events' at same
            refine ⟨by rw [same], ⟨alike.arena.size, rfl, fun listed => absurd rfl listed⟩, hidden, rfl⟩

/-- Every run gives the same replies from states that are alike. -/
theorem arena_run_agrees (congruent : Congruent parent related) (ndebug : Bool)
    (alike : state.Alike related state') (ops : List ArenaOp) :
    Machine.Agree (ArenaState.Alike related) ((arenaStep ndebug parent).run state ops)
      ((arenaStep ndebug parent).run state' ops) :=
  Machine.run_agrees (fun _ _ op similar => arenaStep_agrees congruent ndebug op similar) alike ops

/-- Every parent answers alike on equal heaps. -/
theorem congruent_eq (parent : Allocator S) : Congruent parent Eq where
  memory _ _ same := congrArg Heap.memory same
  calloc heap heap' size same := by
    rw [same]
    exact Matches.refl (fun _ => ⟨rfl, rfl⟩) _
  free heap heap' ptr same := by
    rw [same]
    exact Matches.refl (fun _ => rfl) _
  write heap heap' base bytes same := by rw [same]

end Xstd
