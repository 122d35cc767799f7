import Xstd.Proof.Alloc
import Xstd.Proof.Arena.Agreement
import Xstd.Proof.Arena.Isolation

/-
This file proves that a failed allocation is invisible, in a build without assertions.
-/

namespace Xstd

open Library

variable {S : Type} {parent : Allocator S} {valid : Heap S → Prop} {live : S → Set Region}
  {related : Heap S → Heap S → Prop}

/-- No later call of the parent depends on a `calloc` that returned `NULL`. -/
structure FailsInvisibly (parent : Allocator S) (related : Heap S → Heap S → Prop) : Prop where
  congruent : Congruent parent related
  refl : ∀ heap, related heap heap
  fails : ∀ heap size after, parent.calloc heap 1 size = .ok (0, after) → related heap after

/-- The heaps are related, and both records grew by the same calls since the given ones. -/
def AuditRelated (related : Heap S → Heap S → Prop) (calls calls' : List AllocCall)
    (heap heap' : Heap (Audited S)) : Prop :=
  related heap.unaudited heap'.unaudited ∧
    ∃ later, heap.state.calls = calls ++ later ∧ heap'.state.calls = calls' ++ later

/-- An audit does not spoil the agreement. -/
theorem Congruent.audited (congruent : Congruent parent related) (calls calls' : List AllocCall) :
    Congruent (audited parent) (AuditRelated related calls calls') where
  memory heap heap' hidden := congruent.memory heap.unaudited heap'.unaudited hidden.1
  calloc heap heap' size := by
    rintro ⟨hidden, later, first, second⟩
    apply (congruent.calloc heap.unaudited heap'.unaudited size hidden).map
    intro result result' ⟨same, after⟩
    refine ⟨same, after, later ++ [.calloc 1 size result.1], ?_, ?_⟩
    · rw [← List.append_assoc, ← first]
      rfl
    · rw [same, ← List.append_assoc, ← second]
      rfl
  free heap heap' ptr := by
    rintro ⟨hidden, later, first, second⟩
    apply (congruent.free heap.unaudited heap'.unaudited ptr hidden).map
    intro after after' kept
    refine ⟨kept, later ++ [.free ptr], ?_, ?_⟩
    · rw [← List.append_assoc, ← first]
      rfl
    · rw [← List.append_assoc, ← second]
      rfl
  write heap heap' base bytes := by
    rintro ⟨hidden, later, first, second⟩
    exact ⟨congruent.write heap.unaudited heap'.unaudited base bytes hidden, later, first, second⟩

/-- The overflow test refuses the request, or the parent returned `NULL` in this call. -/
def CallFails (nmemb size : SizeT) (before after : ArenaState (Audited S)) : Prop :=
  Refuses nmemb size ∨
    ∃ asked, after.heap.state.calls = before.heap.state.calls ++ [.calloc 1 asked 0]

/-- The call returned no block, and the arena, the blocks of its client and the blocks that it holds of the
parent are as before. -/
structure Unchanged (before : ArenaState (Audited S)) (reply : ArenaReply)
    (after : ArenaState (Audited S)) : Prop where
  block : reply.block = none
  arena : after.arena = before.arena
  issued : after.issued = before.issued
  held : after.heap.state.held = before.heap.state.held

/-- The call changed nothing, no byte of the memory either, and no later run tells that it was made. -/
structure Invisible (parent : Allocator S) (related : Heap S → Heap S → Prop)
    (before : ArenaState (Audited S)) (reply : ArenaReply) (after : ArenaState (Audited S)) : Prop
    extends Unchanged before reply after where
  memory : after.heap.memory = before.heap.memory
  later : ∀ ops, Machine.Agree
    (ArenaState.Alike (AuditRelated related before.heap.state.calls after.heap.state.calls))
    ((arenaStep true (audited parent)).run before ops) ((arenaStep true (audited parent)).run after ops)

variable {state next : ArenaState (Audited S)} {op : ArenaOp} {nmemb size : SizeT} {reply : ArenaReply}
  {arenaSize : SizeT} {result : ArenaResult (Audited S)}

/-- The heap after a request of which the parent saw no call, or one that it answered with `NULL`. -/
def NullAnswered (parent : Allocator S) (state : ArenaState (Audited S)) (nmemb size : SizeT)
    (after : Heap (Audited S)) : Prop :=
  after = state.heap ∨ ∃ asked inner, Asks state.arena nmemb size asked ∧
    parent.calloc state.heap.unaudited 1 asked = .ok (0, inner) ∧
    after = inner.audit (state.heap.state.calls ++ [.calloc 1 asked 0])

/-- A failed call leaves the arena alone. -/
theorem arenaCalloc_fails
    (called : arenaCalloc true (audited parent) state.arena state.heap nmemb size = .ok result)
    (fails : Refuses nmemb size ∨
      ∃ asked, result.heap.state.calls = state.heap.state.calls ++ [.calloc 1 asked 0]) :
    result.ptr = 0 ∧ result.arena = state.arena ∧ NullAnswered parent state nmemb size result.heap := by
  rcases fails with refused | ⟨asked, calls⟩
  · rw [arenaCalloc_refused _ _ _ _ (nonzero_of_returned called) refused] at called
    cases called
    exact ⟨rfl, rfl, Or.inl rfl⟩
  rcases arenaCalloc_parent called with ⟨_, same⟩ | ⟨asked', ptr, after, call, asks⟩
  · rw [same] at calls
    exact absurd calls.symm (by simp)
  obtain ⟨⟨ptr', inner⟩, returned, recorded⟩ := map_ok_inv call.called
  cases recorded
  have null : ptr = 0 := by
    by_contra listed
    rw [(call.found listed).2.2] at calls
    change state.heap.state.calls ++ [.calloc 1 asked' ptr] = _ at calls
    have same := List.append_cancel_left calls
    cases same
    exact listed rfl
  obtain ⟨_, missing, arena, heap⟩ := call.null null
  subst null
  exact ⟨missing, arena, Or.inr ⟨asked', inner, asks, returned, heap⟩⟩

/-- A `calloc` without a block leaves the held blocks alone. -/
theorem held_calloc_null (record : Audited S) (state : S) (asked : SizeT) :
    (⟨state, record.calls ++ [.calloc 1 asked 0]⟩ : Audited S).held = record.held := by
  rw [Audited.held_append, AllocCall.apply, grant, if_pos rfl]
  rfl

/-- A failed request changes nothing in any state, whatever the parent is. -/
theorem arenaStep_unchanged (requests : op.request = some (nmemb, size))
    (stepped : arenaStep true (audited parent) state op = .ok (reply, next))
    (fails : CallFails nmemb size state next) :
    Unchanged state reply next ∧ NullAnswered parent state nmemb size next.heap := by
  rw [arenaStep_request true (audited parent) state requests] at stepped
  obtain ⟨result, called, issued⟩ := map_ok_inv stepped
  have after : next = (state.issue (nmemb.toNat * size.toNat) result).2 := by rw [issued]
  rw [after] at fails
  obtain ⟨null, arena, answered⟩ := arenaCalloc_fails called fails
  rw [ArenaState.issue_none state null] at issued
  cases issued
  refine ⟨⟨rfl, arena, rfl, ?_⟩, answered⟩
  show result.heap.state.held = state.heap.state.held
  rcases answered with same | ⟨asked, inner, _, _, same⟩
  · rw [same]
  · rw [same]
    exact held_calloc_null state.heap.state inner.state asked

/-- If the parent hides its failed calls, no later run tells that the request was made. -/
theorem arenaStep_invisible (invisible : FailsInvisibly parent related)
    (requests : op.request = some (nmemb, size))
    (stepped : arenaStep true (audited parent) state op = .ok (reply, next))
    (fails : CallFails nmemb size state next) : Invisible parent related state reply next := by
  obtain ⟨unchanged, answered⟩ := arenaStep_unchanged requests stepped fails
  have hidden : AuditRelated related state.heap.state.calls next.heap.state.calls state.heap next.heap := by
    refine ⟨?_, [], (List.append_nil _).symm, (List.append_nil _).symm⟩
    rcases answered with same | ⟨asked, inner, _, returned, same⟩
    · rw [same]
      exact invisible.refl _
    · rw [same]
      exact invisible.fails _ _ _ returned
  refine ⟨unchanged, (invisible.congruent.memory _ _ hidden.1).symm, fun ops => ?_⟩
  apply arena_run_agrees (invisible.congruent.audited _ _) true
  exact ⟨unchanged.arena ▸ ArenaAllocator.Alike.refl _, hidden, unchanged.issued.symm⟩

/-- Over a lawful parent, a failed request leaves every live block and its bytes alone. -/
theorem arenaStep_untouched (laws : ArenaLaws parent valid live arenaSize)
    (current : valid state.heap.unaudited) (fixed : state.arena.arenaSize = arenaSize)
    (requests : op.request = some (nmemb, size))
    (stepped : arenaStep true (audited parent) state op = .ok (reply, next))
    (fails : CallFails nmemb size state next) :
    Untouched live state.heap.unaudited next.heap.unaudited := by
  obtain ⟨_, same | ⟨asked, inner, asks, returned, same⟩⟩ := arenaStep_unchanged requests stepped fails
  · rw [same]
    exact ⟨fun _ _ => Memory.Agrees.refl _ _, rfl⟩
  · rw [same]
    have nonzero : asked ≠ 0 := asks.nonzero laws fixed
    rcases laws.callocs.returns state.heap.unaudited asked current nonzero with
      stopped | ⟨ptr, after, returned', _, null, _⟩
    · rw [stopped] at returned
      cases returned
    · rw [returned'] at returned
      cases returned
      exact null rfl

/-- With the laws of the parent, a call returns `NULL` only when it fails. -/
theorem arenaCalloc_null {arenas : List Arena} (laws : ArenaLaws parent valid live arenaSize)
    (layout : Layout (fun heap => valid heap.unaudited) (fun record => live record.state) arenaSize
      state arenas)
    (called : arenaCalloc true (audited parent) state.arena state.heap nmemb size = .ok result)
    (null : result.ptr = 0) :
    Refuses nmemb size ∨
      ∃ asked, result.heap.state.calls = state.heap.state.calls ++ [.calloc 1 asked 0] := by
  have eight : 8 ≤ arenaSize.toNat := UInt64.le_iff_toNat_le.mp laws.pointer
  rcases arenaCalloc_parent called with
    ⟨⟨refused, _⟩ | ⟨room, carved, _⟩, _⟩ | ⟨asked, ptr, after, call, asks⟩
  · exact Or.inl refused
  · have found := layout.carved_ne_zero room
    rw [← carved] at found
    exact absurd null found
  · obtain ⟨larger, inner, rfl, _, granted⟩ := call.lawful laws layout.valid layout.size asks
    rcases Classical.em (ptr = 0) with missing | found
    · subst missing
      exact Or.inr ⟨asked, by rw [(call.null rfl).2.2.2]; rfl⟩
    · have fits : ptr.toNat + asked.toNat ≤ 2 ^ 64 := (granted found).fits
      have body : ptr + sizeofArena ≠ 0 := add_header_ne_zero (by omega)
      rw [← (call.found found).1] at body
      exact absurd null body

/-- A request that is refused or whose parent returns `NULL` changes nothing in any state, and it is
invisible if the parent hides its failed calls. In the runs of an arena whose size holds a pointer and does
not wrap with a header, every `NULL` is of this kind, and the live blocks keep their bytes. -/
theorem arena_failure_invisible (related : Heap S → Heap S → Prop)
    (laws : ArenaLaws parent valid live arenaSize) (frees : LawfulFree parent valid live)
    {heap : Heap S} (initial : valid heap) (ops : List ArenaOp)
    (permitted : (arenaStep true (audited parent)).Guarded
      (fun state op => op.Permitted state.issued) (arenaStart arenaSize (heap.audit [])) ops) :
    (∀ state op nmemb size reply next, op.request = some (nmemb, size) →
        arenaStep true (audited parent) state op = .ok (reply, next) →
        CallFails nmemb size state next → Unchanged state reply next ∧
          (FailsInvisibly parent related → Invisible parent related state reply next)) ∧
      (arenaStep true (audited parent)).AlwaysUnless (fun fault => fault = .allocation)
        (fun before op reply after => op.request ≠ none → reply.block = none →
          Unchanged before reply after ∧ Untouched live before.heap.unaudited after.heap.unaudited ∧
            (FailsInvisibly parent related → Invisible parent related before reply after))
        (arenaStart arenaSize (heap.audit [])) ops := by
  constructor
  · intro state op nmemb size reply next requests stepped fails
    exact ⟨(arenaStep_unchanged requests stepped fails).1,
      fun invisible => arenaStep_invisible invisible requests stepped fails⟩
  · have start : valid (heap.audit []).unaudited := initial
    apply arena_always laws.callocs.audited laws.writes.audited frees.audited true start _
      (fun _ _ => Or.inl laws.sound) permitted
    intro state op reply next arenas layout stepped _ request null
    obtain ⟨⟨nmemb, size⟩, requests⟩ := Option.ne_none_iff_exists'.mp request
    have fails : CallFails nmemb size state next := by
      have stepped := stepped
      rw [arenaStep_request true (audited parent) state requests] at stepped
      obtain ⟨result, called, issued⟩ := map_ok_inv stepped
      cases issued
      exact arenaCalloc_null laws layout called (ArenaResult.null_of_block null)
    exact ⟨(arenaStep_unchanged requests stepped fails).1,
      arenaStep_untouched laws layout.valid layout.size requests stepped fails,
      fun invisible => arenaStep_invisible invisible requests stepped fails⟩

theorem bumpAllocator_failsInvisibly : FailsInvisibly bumpAllocator Eq where
  congruent := congruent_eq bumpAllocator
  refl _ := rfl
  fails heap size after called := by
    have one : (1 : SizeT).toNat * size.toNat = size.toNat := Nat.one_mul _
    simp only [bumpAllocator, one] at called
    rcases bumpTake_cases heap size.toNat (List.replicate size.toNat 0) with
      refused | ⟨ptr, found, _, _, taken⟩
    · rw [refused] at called
      cases called
      rfl
    · rw [taken] at called
      cases called
      exact absurd rfl found

/-- A request whose header wraps, a request that the parent refuses, and requests that succeed. -/
def failingRequests : List ArenaOp :=
  [.malloc 9, .malloc 18446744073709551610, .calloc 1 18446744073709551500, .malloc 8, .destroy, .malloc 1]

theorem arena_failure_invisible_bump :
    FailsInvisibly bumpAllocator Eq ∧
      (∀ state op nmemb size reply next, op.request = some (nmemb, size) →
        arenaStep true (audited bumpAllocator) state op = .ok (reply, next) →
        CallFails nmemb size state next → Unchanged state reply next ∧
          (FailsInvisibly bumpAllocator Eq → Invisible bumpAllocator Eq state reply next)) ∧
      (arenaStep true (audited bumpAllocator)).AlwaysUnless (fun fault => fault = .allocation)
        (fun before op reply after => op.request ≠ none → reply.block = none →
          Unchanged before reply after ∧ Untouched bumpLive before.heap.unaudited after.heap.unaudited ∧
            (FailsInvisibly bumpAllocator Eq → Invisible bumpAllocator Eq before reply after))
        (arenaStart 32 (bumpHeap.audit [])) failingRequests :=
  ⟨bumpAllocator_failsInvisibly, arena_failure_invisible Eq
    ⟨bumpAllocator_calloc, bumpAllocator_writes, by decide, by decide⟩ bumpAllocator_free bumpHeap_valid
    failingRequests (by decide +kernel)⟩

end Xstd
