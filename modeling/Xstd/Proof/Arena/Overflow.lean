import Xstd.Proof.Arena.Isolation

/-
This file proves which requests an arena refuses when its parent supplies every block.
-/

namespace Xstd

open Library

variable {S : Type} {parent : Allocator S} {valid : Heap S → Prop} {live : S → Set Region}
  {arenaSize : SizeT} {state next : ArenaState S} {arenas : List Arena} {ndebug : Bool}
  {nmemb size : SizeT}

/-- A step that returns had a permitted operation. -/
theorem permitted_of_returned {op : ArenaOp} {reply : ArenaReply}
    (stepped : arenaStep ndebug parent state op = .ok (reply, next)) : op.Permitted state.issued := by
  cases op with
  | malloc size =>
      obtain ⟨result, called, _⟩ := map_ok_inv stepped
      exact nonzero_of_returned called
  | calloc nmemb size =>
      obtain ⟨result, called, _⟩ := map_ok_inv stepped
      exact nonzero_of_returned called
  | realloc ptr size =>
      obtain ⟨result, called, _⟩ := map_ok_inv stepped
      exact nonzero_of_returned called
  | free ptr => trivial
  | write base bytes =>
      simp only [arenaStep] at stepped
      split at stepped
      · assumption
      · cases stepped
  | destroy => trivial

/-- Every state that an arena of a sound size reaches has a layout. -/
theorem layout_of_run (laws : ArenaLaws parent valid live arenaSize)
    (frees : LawfulFree parent valid live) {heap : Heap S} (initial : valid heap) {ops : List ArenaOp}
    {replies : List ArenaReply}
    (ran : (arenaStep ndebug parent).run (arenaStart arenaSize heap) ops = .ok (replies, state)) :
    ∃ arenas, Layout valid live arenaSize state arenas := by
  apply Machine.invariant_of_run (fun state => ∃ arenas, Layout valid live arenaSize state arenas) _
    ⟨[], Layout.start initial⟩ (Machine.guarded_true _ _ ops) ran
  intro state op reply next ⟨arenas, layout⟩ _ stepped
  rcases arenaStep_isolates laws.callocs laws.writes frees ndebug layout (permitted_of_returned stepped)
      (Or.inl laws.sound) with ⟨fault, stopped, _⟩ | ⟨reply', next', stepped', _, kept⟩
  · rw [stopped] at stepped
    cases stepped
  · rw [stepped'] at stepped
    cases stepped
    exact kept

/-- The call asks its parent for a block of this size. -/
def Demands (arena : ArenaAllocator) (nmemb size asked : SizeT) : Prop :=
  size ≠ 0 ∧ ¬Refuses nmemb size ∧
    (arena.arenaSize < nmemb * size ∧ asked = nmemb * size + sizeofArena ∨
      nmemb * size ≤ arena.arenaSize ∧ ¬arena.HasRoom (nmemb * size) ∧
        asked = arena.arenaSize + sizeofArena)

/-- The parent returns a block to this call whenever it asks for one. -/
def Supplied (parent : Allocator S) (state : ArenaState S) (nmemb size : SizeT) : Prop :=
  ∀ asked, Demands state.arena nmemb size asked →
    ∃ ptr after, parent.calloc state.heap 1 asked = .ok (ptr, after) ∧ ptr ≠ 0

/-- The bytes at the pointer lie in a live block of the parent behind its header, and apart from all
blocks that were issued before. -/
structure Usable (live : S → Set Region) (state : ArenaState S) (result : ArenaResult S)
    (requested : ℕ) : Prop where
  inside : ∃ granted ∈ live result.heap.state, Region.Within ⟨result.ptr.toNat, requested⟩
    ⟨granted.base + sizeofArena.toNat, granted.size - sizeofArena.toNat⟩
  apart : ∀ issued ∈ state.issued, Region.Disjoint ⟨result.ptr.toNat, requested⟩ issued

/-- The call returns, `NULL` exactly for a request that overflows, and otherwise a usable block. -/
def RejectsExactly (ndebug : Bool) (parent : Allocator S) (live : S → Set Region)
    (state : ArenaState S) (nmemb size : SizeT) : Prop :=
  ∃ result, arenaCalloc ndebug parent state.arena state.heap nmemb size = .ok result ∧
    (result.ptr = 0 ↔ Refuses nmemb size) ∧
    (result.ptr ≠ 0 → Usable live state result (nmemb.toNat * size.toNat))

/-- A push obtains the block that the parent returns. -/
theorem arenaPush_supplied {arena : ArenaAllocator} {heap after : Heap S} {asked cursor : SizeT}
    {ptr : Addr} (called : parent.calloc heap 1 (asked + sizeofArena) = .ok (ptr, after))
    (found : ptr ≠ 0) :
    arenaPush ndebug parent arena heap asked cursor =
      .ok (ptr, { arena with arenaList := ptr, cursor := cursor },
        { after with memory := after.memory.storeWord ptr.toNat arena.arenaList }) := by
  simp only [arenaPush, allocCalloc, called, Except.bind, assertNonNull, found, false_and, if_false]

/-- A refill serves the request from the start of the body. -/
theorem arenaRefill_supplied (ndebug : Bool) {arena : ArenaAllocator} {heap after : Heap S} {ptr : Addr}
    (called : parent.calloc heap 1 (arena.arenaSize + sizeofArena) = .ok (ptr, after)) (found : ptr ≠ 0)
    (allocSize : SizeT) (sums : List SizeOp) :
    ∃ result, arenaRefill ndebug parent arena heap allocSize sums = .ok result ∧
      result.ptr = ptr + sizeofArena := by
  simp only [arenaRefill, arenaPush_supplied called found, if_neg found]
  exact ⟨_, rfl, UInt64.add_zero _⟩

/-- The body of a granted block does not start at `NULL`. -/
theorem body_ne_zero (callocs : LawfulCalloc parent valid live) {heap after : Heap S}
    (current : valid heap) {asked : SizeT} {ptr : Addr} (small : asked.toNat + 8 < 2 ^ 64)
    (positive : 0 < asked.toNat)
    (called : parent.calloc heap 1 (asked + sizeofArena) = .ok (ptr, after)) (found : ptr ≠ 0) :
    ptr + sizeofArena ≠ 0 := by
  have exact := toNat_add_header small
  have nonzero : asked + sizeofArena ≠ 0 := by
    apply (toNat_pos_iff _).mp
    omega
  rcases callocs.returns heap (asked + sizeofArena) current nonzero with
    stopped | ⟨ptr', after', called', _, _, granted⟩
  · rw [stopped] at called
    cases called
  · rw [called'] at called
    cases called
    have fits : ptr.toNat + (asked + sizeofArena).toNat ≤ 2 ^ 64 := (granted found).1.fits
    apply add_header_ne_zero
    omega

/-- An accepted request of a supplied call returns a block. -/
theorem arenaCalloc_supplied (laws : ArenaLaws parent valid live arenaSize)
    (layout : Layout valid live arenaSize state arenas) (nonzero : size ≠ 0)
    (accepted : ¬Refuses nmemb size) (supplied : Supplied parent state nmemb size) :
    ∃ result, arenaCalloc ndebug parent state.arena state.heap nmemb size = .ok result ∧
      result.ptr ≠ 0 := by
  have eight : 8 ≤ arenaSize.toNat := UInt64.le_iff_toNat_le.mp laws.pointer
  rcases UInt64.lt_or_le state.arena.arenaSize (nmemb * size) with large | small
  · obtain ⟨ptr, after, called, found⟩ :=
      supplied _ ⟨nonzero, accepted, Or.inl ⟨large, rfl⟩⟩
    rw [arenaCalloc_large _ _ _ _ nonzero accepted large, arenaPush_supplied called found]
    refine ⟨_, rfl, ?_⟩
    rw [ArenaResult.ofPush_found _ found]
    apply body_ne_zero laws.callocs layout.valid (accepted_lt accepted) _ called found
    rw [layout.size, UInt64.lt_iff_toNat_lt] at large
    omega
  rcases Classical.em (state.arena.HasRoom (nmemb * size)) with room | full
  · exact ⟨_, arenaCalloc_bump _ _ _ _ nonzero accepted small room, layout.carved_ne_zero room⟩
  · obtain ⟨ptr, after, called, found⟩ :=
      supplied _ ⟨nonzero, accepted, Or.inr ⟨small, full, rfl⟩⟩
    rw [arenaCalloc_refill _ _ _ _ nonzero accepted small full]
    obtain ⟨result, refilled, pointer⟩ := arenaRefill_supplied ndebug called found
      (rounded (nmemb * size)) state.arena.checks
    refine ⟨result, refilled, ?_⟩
    rw [pointer]
    rw [layout.size] at called
    exact body_ne_zero laws.callocs layout.valid laws.header (by omega) called found

/-- The block of a returning call is usable. -/
theorem CallStep.usable {result : ArenaResult S} {requested : ℕ} (found : result.ptr ≠ 0)
    (step : CallStep valid live arenaSize state (state.issue requested result).1.block
      (state.issue requested result).2) : Usable live state result requested := by
  rw [ArenaState.issue_some state result found] at step
  obtain ⟨arenas, layout⟩ := step.layout
  obtain ⟨arena, listed, inside⟩ := layout.issued _ List.mem_cons_self
  exact ⟨⟨arena.block, layout.owned arena listed, inside⟩, step.allocates.fresh _ rfl⟩

/-- A supplied call rejects exactly the overflowing requests if and only if the size is not 0. -/
theorem arenaCalloc_exact_iff (laws : ArenaLaws parent valid live arenaSize)
    (frees : LawfulFree parent valid live) (ndebug : Bool) {heap : Heap S} (initial : valid heap)
    {ops : List ArenaOp} {replies : List ArenaReply}
    (ran : (arenaStep ndebug parent).run (arenaStart arenaSize heap) ops = .ok (replies, state))
    (nmemb size : SizeT) (supplied : Supplied parent state nmemb size) :
    RejectsExactly ndebug parent live state nmemb size ↔ size ≠ 0 := by
  constructor
  · rintro ⟨result, called, _⟩
    exact nonzero_of_returned called
  · intro nonzero
    obtain ⟨arenas, layout⟩ := layout_of_run laws frees initial ran
    rcases Classical.em (Refuses nmemb size) with refused | accepted
    · refine ⟨_, arenaCalloc_refused _ _ _ _ nonzero refused, ?_, fun found => absurd rfl found⟩
      exact iff_of_true rfl refused
    · obtain ⟨result, called, found⟩ := arenaCalloc_supplied laws layout nonzero accepted supplied
      refine ⟨result, called, iff_of_false found accepted, fun _ => ?_⟩
      rcases arenaCalloc_step laws.callocs laws.writes ndebug layout nonzero (Or.inl laws.sound) with
        stopped | ⟨result', called', step⟩
      · rw [stopped] at called
        cases called
      · rw [called'] at called
        cases called
        exact step.usable found

/-- After one request the head of an arena of 32 bytes has room for two elements of 4 bytes. -/
theorem arenaCalloc_exact_bump : ∃ replies state,
    (arenaStep false bumpAllocator).run (arenaStart 32 bumpHeap) [.malloc 9] = .ok (replies, state) ∧
      (RejectsExactly false bumpAllocator bumpLive state 2 4 ↔ (4 : SizeT) ≠ 0) := by
  have laws : ArenaLaws bumpAllocator BumpValid bumpLive 32 :=
    ⟨bumpAllocator_calloc, bumpAllocator_writes, by decide, by decide⟩
  have ran : (arenaStep false bumpAllocator).run (arenaStart 32 bumpHeap) [.malloc 9] = .ok (_, _) := rfl
  refine ⟨_, _, ran, arenaCalloc_exact_iff laws bumpAllocator_free false bumpHeap_valid ran 2 4 ?_⟩
  rintro asked ⟨_, _, ⟨large, _⟩ | ⟨_, full, _⟩⟩
  · exact absurd large (by decide)
  · exact absurd ⟨by decide, by decide⟩ full

/-- A request for no bytes divides by zero. -/
theorem arenaMalloc_divides_by_zero :
    arenaMalloc false bumpAllocator (arenaAllocatorInit 32) bumpHeap 0 = .error .divisionByZero ∧
      ¬RejectsExactly false bumpAllocator bumpLive (arenaStart 32 bumpHeap) 1 0 := by
  refine ⟨rfl, ?_⟩
  rintro ⟨result, called, _⟩
  cases called

end Xstd
