import Xstd.Proof.Alloc
import Xstd.Proof.Arena.Agreement
import Xstd.Proof.Arena.Isolation

/-
This file proves that a destroy releases every block once and that the arena then starts over.
-/

namespace Xstd

open Library

variable {S : Type} {parent : Allocator S} {valid : Heap S → Prop} {live : S → Set Region}

/-- The addresses of the blocks that the client of the parent holds, the latest one first. -/
def Audited.nodes (record : Audited S) : List Addr :=
  record.held.map fun region => UInt64.ofNat region.base

theorem Audited.held_base_lt (state : S) (calls : List AllocCall) :
    ∀ region ∈ (⟨state, calls⟩ : Audited S).held, region.base < 2 ^ 64 := by
  have granted (held : List Region) (ptr : Addr) (size : ℕ)
      (below : ∀ region ∈ held, region.base < 2 ^ 64) :
      ∀ region ∈ grant held ptr size, region.base < 2 ^ 64 := by
    unfold grant
    split
    · exact below
    · exact List.forall_mem_cons.mpr ⟨ptr.toNat_lt, below⟩
  have released (held : List Region) (ptr : Addr) (below : ∀ region ∈ held, region.base < 2 ^ 64) :
      ∀ region ∈ release held ptr, region.base < 2 ^ 64 :=
    fun region member => below region (List.mem_of_mem_filter member)
  induction calls using List.reverseRecOn with
  | nil => simp [Audited.held]
  | append_singleton calls call ih =>
      rw [Audited.held_append]
      cases call with
      | malloc size ptr => exact granted _ _ _ ih
      | free ptr => exact released _ _ ih
      | calloc nmemb size ptr => exact granted _ _ _ ih
      | realloc old size ptr =>
          simp only [AllocCall.apply]
          split
          · exact ih
          · exact granted _ _ _ (released _ _ ih)

/-- A granted block comes first. -/
theorem Audited.nodes_calloc (state : S) (calls : List AllocCall) (nmemb size : SizeT) {ptr : Addr}
    (found : ptr ≠ 0) :
    (⟨state, calls ++ [.calloc nmemb size ptr]⟩ : Audited S).nodes =
      ptr :: (⟨state, calls⟩ : Audited S).nodes := by
  rw [Audited.nodes, Audited.held_append, AllocCall.apply, grant, if_neg found, List.map_cons,
    UInt64.ofNat_toNat]
  rfl

theorem Audited.nodes_null (state : S) (calls : List AllocCall) (nmemb size : SizeT) :
    (⟨state, calls ++ [.calloc nmemb size 0]⟩ : Audited S).nodes =
      (⟨state, calls⟩ : Audited S).nodes := by
  rw [Audited.nodes, Audited.held_append, AllocCall.apply, grant, if_pos rfl]
  rfl

/-- Only the blocks at other addresses survive a sequence of frees. -/
theorem Audited.mem_held_frees (state : S) (calls : List AllocCall) (nodes : List Addr)
    (region : Region) :
    region ∈ (⟨state, calls ++ nodes.map .free⟩ : Audited S).held ↔
      region ∈ (⟨state, calls⟩ : Audited S).held ∧ ∀ node ∈ nodes, region.base ≠ node.toNat := by
  induction nodes generalizing calls with
  | nil => simp
  | cons node rest ih =>
      rw [List.map_cons, ← List.singleton_append, ← List.append_assoc, ih, Audited.held_append,
        AllocCall.apply, mem_release, List.forall_mem_cons, and_assoc]

/-- A client that frees every address that it holds holds nothing. -/
theorem Audited.held_freed (record : Audited S) (state : S) :
    (⟨state, record.calls ++ record.nodes.map .free⟩ : Audited S).held = [] := by
  rw [List.eq_nil_iff_forall_not_mem]
  intro region member
  obtain ⟨held, others⟩ := (Audited.mem_held_frees state record.calls record.nodes region).mp member
  have below := Audited.held_base_lt state record.calls region held
  apply others (UInt64.ofNat region.base) (List.mem_map_of_mem held)
  exact (UInt64.toNat_ofNat_of_lt' below).symm

def DestroyEvent.freed : DestroyEvent → Option Addr
  | .reads _ => none
  | .frees node => some node

/-- The loop frees through the parent what its events say. -/
theorem arenaDestroyLoop_calls {fuel : ℕ} {node : Addr} {heap after : Heap (Audited S)}
    {events : List DestroyEvent}
    (looped : arenaDestroyLoop (audited parent) fuel node heap = .ok (events, after)) :
    after.state.calls = heap.state.calls ++ (events.filterMap DestroyEvent.freed).map .free := by
  induction fuel generalizing node heap events with
  | zero =>
      unfold arenaDestroyLoop at looped
      split at looped <;> cases looped
      exact (List.append_nil _).symm
  | succ fuel ih =>
      unfold arenaDestroyLoop at looped
      split at looped
      · cases looped
        exact (List.append_nil _).symm
      · simp only [allocFree] at looped
        cases freed : (audited parent).free heap node with
        | error fault =>
            rw [freed] at looped
            cases looped
        | ok freedHeap =>
            rw [freed] at looped
            obtain ⟨inner, _, recorded⟩ := map_ok_inv freed
            simp only at looped
            split at looped
            · cases looped
            · rename_i rest final tail
              cases looped
              rw [ih tail, ← recorded, Heap.audit, List.append_assoc]
              rfl

theorem destroyEvents_freed (arenas : List Arena) :
    (destroyEvents arenas).filterMap DestroyEvent.freed = arenas.map Arena.node := by
  induction arenas with
  | nil => rfl
  | cons arena rest ih => exact congrArg (arena.node :: ·) ih

/-- No header is read after its arena was freed. -/
theorem reads_before_frees {nodes : List Addr} (different : nodes.Nodup)
    {earlier later : List DestroyEvent} {node : Addr}
    (split : (nodes.flatMap fun node => [.reads node, .frees node]) = earlier ++ .frees node :: later) :
    .reads node ∉ later := by
  induction nodes generalizing earlier with
  | nil => simp at split
  | cons first rest ih =>
      obtain ⟨fresh, others⟩ := List.nodup_cons.mp different
      rw [List.flatMap_cons] at split
      cases earlier with
      | nil => cases split
      | cons event earlier =>
          cases earlier with
          | nil =>
              cases split
              intro again
              obtain ⟨other, member, read⟩ := List.mem_flatMap.mp again
              simp at read
              exact fresh (read ▸ member)
          | cons event' earlier =>
              injection split with _ split
              injection split with _ split
              exact ih others split

/-- The destroy freed every block that the arena held, each one once and after its last read. -/
structure Released (before : ArenaState (Audited S)) (reply : ArenaReply)
    (after : ArenaState (Audited S)) : Prop where
  calls : after.heap.state.calls = before.heap.state.calls ++ before.heap.state.nodes.map .free
  once : before.heap.state.nodes.Nodup
  events : reply.events = before.heap.state.nodes.flatMap fun node => [.reads node, .frees node]
  ordered : ∀ earlier node later, reply.events = earlier ++ .frees node :: later →
    .reads node ∉ later
  emptied : after.heap.state.held = []

/-- A destroy returns, releases the blocks, and leaves an arena that no further run tells from a fresh one
over the same parent. -/
def Releasable (ndebug : Bool) (parent : Allocator S) (arenaSize : SizeT)
    (state : ArenaState (Audited S)) : Prop :=
  ∃ reply after, arenaStep ndebug (audited parent) state .destroy = .ok (reply, after) ∧
    Released state reply after ∧
    ∀ ops, Machine.Agree (ArenaState.Alike Eq) ((arenaStep ndebug (audited parent)).run after ops)
      ((arenaStep ndebug (audited parent)).run (arenaStart arenaSize after.heap) ops)

/-- The other operations only ask the parent for blocks. -/
def Obtains (before after : ArenaState (Audited S)) : Prop :=
  ∃ calls, after.heap.state.calls = before.heap.state.calls ++ calls ∧
    ∀ call ∈ calls, ∃ asked ptr, call = .calloc 1 asked ptr

/-- The list of the arena is what it holds. -/
def Owns (valid : Heap S → Prop) (live : S → Set Region) (arenaSize : SizeT)
    (state : ArenaState (Audited S)) : Prop :=
  ∃ arenas, Layout (fun heap => valid heap.unaudited) (fun record => live record.state) arenaSize state
      arenas ∧
    arenas.map Arena.node = state.heap.state.nodes

variable {arenaSize : SizeT} {state next : ArenaState (Audited S)} {ndebug : Bool}

/-- An arena that owns its list can be destroyed. -/
theorem Owns.releasable (owns : Owns valid live arenaSize state) (frees : LawfulFree parent valid live)
    (ndebug : Bool) : Releasable ndebug parent arenaSize state := by
  obtain ⟨arenas, layout, nodes⟩ := owns
  obtain ⟨after, destroyed, layout'⟩ := layout.destroyed frees.audited
  have stepped : arenaStep ndebug (audited parent) state .destroy =
      .ok (⟨none, [], destroyEvents arenas⟩, ⟨{ state.arena with arenaList := 0 }, after, []⟩) := by
    simp only [arenaStep, destroyed]
  have calls : after.state.calls = state.heap.state.calls ++ state.heap.state.nodes.map .free := by
    simp only [arenaAllocDestroy] at destroyed
    split at destroyed
    · cases destroyed
    · rename_i looped
      cases destroyed
      rw [arenaDestroyLoop_calls looped, destroyEvents_freed, nodes]
  have once : state.heap.state.nodes.Nodup := nodes ▸ layout.nodup
  have events : destroyEvents arenas =
      state.heap.state.nodes.flatMap fun node => [.reads node, .frees node] := by
    rw [← nodes, List.flatMap_map]
    rfl
  refine ⟨_, _, stepped, ⟨calls, once, events, ?_, ?_⟩, ?_⟩
  · intro earlier node later split
    exact reads_before_frees once (events.symm.trans split)
  · have held := Audited.held_freed state.heap.state after.state.state
    rwa [← calls] at held
  · intro ops
    apply arena_run_agrees (congruent_eq (audited parent)) ndebug
    exact ⟨⟨layout.size, rfl, fun listed => absurd rfl listed⟩, rfl, rfl⟩

/-- A request obtains at most one block. -/
theorem arenaCalloc_obtains {nmemb size : SizeT} {result : ArenaResult (Audited S)}
    (called : arenaCalloc ndebug (audited parent) state.arena state.heap nmemb size = .ok result)
    {requested : ℕ} : Obtains state (state.issue requested result).2 := by
  rcases arenaCalloc_parent called with ⟨_, same⟩ | ⟨asked, ptr, after, call, _⟩
  · refine ⟨[], ?_, by simp⟩
    change result.heap.state.calls = _
    rw [same, List.append_nil]
  · obtain ⟨⟨ptr', inner⟩, _, recorded⟩ := map_ok_inv call.called
    have calls : result.heap.state.calls = state.heap.state.calls ++ [.calloc 1 asked ptr] := by
      cases recorded
      rcases Classical.em (ptr = 0) with null | found
      · rw [(call.null null).2.2.2]
        rfl
      · rw [(call.found found).2.2]
        rfl
    exact ⟨_, calls, fun other member => ⟨asked, ptr, List.mem_singleton.mp member⟩⟩

/-- A request adds the block that it obtained to the list. -/
theorem arenaCalloc_linked (laws : ArenaLaws parent valid live arenaSize)
    (owns : Owns valid live arenaSize state) {nmemb size : SizeT} {result : ArenaResult (Audited S)}
    (called : arenaCalloc ndebug (audited parent) state.arena state.heap nmemb size = .ok result) :
    result.heap.memory.Linked result.arena.arenaList result.heap.state.nodes := by
  obtain ⟨arenas, layout, nodes⟩ := owns
  have linked := layout.linked
  have headers : ∀ node ∈ arenas.map Arena.node, ∃ region ∈ live state.heap.state.state,
      Region.Within ⟨node.toNat, 8⟩ region := by
    intro node member
    obtain ⟨arena, listed, rfl⟩ := List.mem_map.mp member
    exact ⟨arena.block, layout.owned arena listed, arena.header_within⟩
  rcases arenaCalloc_parent called with ⟨unasked, same⟩ | ⟨asked, ptr, after, call, asks⟩
  · rw [same, unasked.list, ← nodes]
    exact linked
  obtain ⟨large, inner, rfl, null, granted⟩ := call.lawful laws layout.valid layout.size asks
  rcases Classical.em (ptr = 0) with missing | found
  · obtain ⟨_, _, arena, heap⟩ := call.null missing
    rw [arena, heap, missing]
    change inner.memory.Linked _ (⟨inner.state, state.heap.state.calls ++ [_]⟩ : Audited S).nodes
    rw [Audited.nodes_null]
    change inner.memory.Linked _ state.heap.state.nodes
    rw [← nodes]
    apply linked.of_agrees
    intro node member
    obtain ⟨region, alive, inside⟩ := headers node member
    exact ((null missing).same region alive).mono inside
  · obtain ⟨_, list, heap⟩ := call.found found
    have block := granted found
    rw [list, heap]
    change Memory.Linked (inner.memory.storeWord ptr.toNat state.arena.arenaList) ptr
      (⟨inner.state, state.heap.state.calls ++ [_]⟩ : Audited S).nodes
    rw [Audited.nodes_calloc _ _ _ _ found]
    change Memory.Linked (inner.memory.storeWord ptr.toNat state.arena.arenaList) ptr
      (ptr :: state.heap.state.nodes)
    rw [← nodes]
    apply Memory.Linked.push _ found
    · intro node member
      obtain ⟨region, alive, inside⟩ := headers node member
      apply (block.apart region alive).symm.mono inside
      exact ⟨Nat.le_refl _, Nat.add_le_add_left (Nat.le_of_lt large) _⟩
    · apply linked.of_agrees
      intro node member
      obtain ⟨region, alive, inside⟩ := headers node member
      exact (block.same region alive).mono inside

/-- What a step does to the blocks of the parent. -/
def StepReleases (ndebug : Bool) (parent : Allocator S) (arenaSize : SizeT)
    (before : ArenaState (Audited S)) (op : ArenaOp) (_reply : ArenaReply)
    (after : ArenaState (Audited S)) : Prop :=
  (op ≠ .destroy → Obtains before after) ∧ Releasable ndebug parent arenaSize after

/-- A request keeps the list in step with the held blocks. -/
theorem arenaStep_request_owns (laws : ArenaLaws parent valid live arenaSize) (ndebug : Bool)
    (owns : Owns valid live arenaSize state) {op : ArenaOp} {nmemb size : SizeT} (nonzero : size ≠ 0)
    (requests : op.request = some (nmemb, size)) :
    (∃ fault, arenaStep ndebug (audited parent) state op = .error fault ∧ fault = .allocation) ∨
      ∃ reply next, arenaStep ndebug (audited parent) state op = .ok (reply, next) ∧
        (op ≠ .destroy → Obtains state next) ∧ Owns valid live arenaSize next := by
  have kept := owns
  obtain ⟨arenas, layout, nodes⟩ := owns
  rcases arenaStep_allocates laws.callocs.audited laws.writes.audited ndebug layout nonzero requests
      (Or.inl laws.sound) with
    stopped | ⟨reply, next, stepped, _, arenas', layout'⟩
  · exact Or.inl stopped
  · right
    refine ⟨reply, next, stepped, ?_⟩
    rw [arenaStep_request ndebug (audited parent) state requests] at stepped
    obtain ⟨result, called, issued⟩ := map_ok_inv stepped
    have after : next = (state.issue (nmemb.toNat * size.toNat) result).2 := by rw [issued]
    have linked := arenaCalloc_linked laws kept called
    rw [after] at layout' ⊢
    exact ⟨fun _ => arenaCalloc_obtains called, arenas', layout', layout'.linked.unique linked⟩

/-- Every permitted operation keeps the list in step with the held blocks. -/
theorem arenaStep_owns (laws : ArenaLaws parent valid live arenaSize)
    (frees : LawfulFree parent valid live) (ndebug : Bool) (owns : Owns valid live arenaSize state)
    {op : ArenaOp}
    (permitted : op.Permitted state.issued) :
    (∃ fault, arenaStep ndebug (audited parent) state op = .error fault ∧ fault = .allocation) ∨
      ∃ reply next, arenaStep ndebug (audited parent) state op = .ok (reply, next) ∧
        (op ≠ .destroy → Obtains state next) ∧ Owns valid live arenaSize next := by
  have idle (after : ArenaState (Audited S)) (same : after.heap.state = state.heap.state) :
      Obtains state after := ⟨[], by rw [same, List.append_nil], by simp⟩
  cases op with
  | malloc size => exact arenaStep_request_owns laws ndebug owns permitted rfl
  | calloc nmemb size => exact arenaStep_request_owns laws ndebug owns permitted rfl
  | realloc ptr size => exact arenaStep_request_owns laws ndebug owns permitted rfl
  | free ptr => exact Or.inr ⟨_, _, rfl, fun _ => idle _ rfl, owns⟩
  | write base bytes =>
      right
      obtain ⟨arenas, layout, nodes⟩ := owns
      obtain ⟨block, issued, inside⟩ := permitted
      exact ⟨_, _, if_pos ⟨block, issued, inside⟩, fun _ => idle _ rfl, arenas,
        layout.written laws.writes.audited issued inside, nodes⟩
  | destroy =>
      right
      obtain ⟨reply, after, stepped, released, _⟩ := owns.releasable frees ndebug
      obtain ⟨arenas, layout, nodes⟩ := owns
      obtain ⟨final, destroyed, layout'⟩ := layout.destroyed frees.audited
      refine ⟨reply, after, stepped, fun other => absurd rfl other, [], ?_, ?_⟩
      · simp only [arenaStep, destroyed] at stepped
        cases stepped
        exact layout'
      · rw [Audited.nodes, released.emptied]
        rfl

/-- In every run each destroy returns and frees exactly the blocks that the arena obtained since the last
one, each one once and after its last read. Afterwards the arena is as good as a fresh one. -/
theorem arena_releases (laws : ArenaLaws parent valid live arenaSize)
    (frees : LawfulFree parent valid live) (ndebug : Bool) {heap : Heap S} (initial : valid heap)
    (ops : List ArenaOp)
    (permitted : (arenaStep ndebug (audited parent)).Guarded
      (fun state op => op.Permitted state.issued) (arenaStart arenaSize (heap.audit [])) ops) :
    Releasable ndebug parent arenaSize (arenaStart arenaSize (heap.audit [])) ∧
      (arenaStep ndebug (audited parent)).AlwaysUnless (fun fault => fault = .allocation)
        (StepReleases ndebug parent arenaSize) (arenaStart arenaSize (heap.audit [])) ops := by
  have start : Owns valid live arenaSize (arenaStart arenaSize (heap.audit [])) :=
    ⟨[], Layout.start initial, rfl⟩
  refine ⟨start.releasable frees ndebug, ?_⟩
  apply Machine.alwaysUnless_of_guarded (Owns valid live arenaSize) _ start permitted
  intro state op owns allowed
  rcases arenaStep_owns laws frees ndebug owns allowed with
    stopped | ⟨reply, next, stepped, obtains, kept⟩
  · exact Or.inl stopped
  · exact Or.inr ⟨reply, next, stepped, ⟨obtains, kept.releasable frees ndebug⟩, kept⟩

theorem arena_releases_bump :
    Releasable false bumpAllocator 32 (arenaStart 32 (bumpHeap.audit [])) ∧
      (arenaStep false (audited bumpAllocator)).AlwaysUnless (fun fault => fault = .allocation)
        (StepReleases false bumpAllocator 32) (arenaStart 32 (bumpHeap.audit [])) mixedRequests :=
  arena_releases ⟨bumpAllocator_calloc, bumpAllocator_writes, by decide, by decide⟩ bumpAllocator_free false
    bumpHeap_valid mixedRequests (by decide +kernel)

end Xstd
