import Xstd.Construction.Tenants
import Xstd.Proof.Arena.Isolation
import Xstd.Proof.Frame

/-
This file proves that an arena owns exactly the blocks of its list.
-/

namespace Xstd

open Library

variable {S : Type} {parent : Allocator S} {valid : Heap S → Prop} {live : S → Set Region}
variable {arenaSize : SizeT} {state next : ArenaState S} {arenas arenas' : List Arena}

/-- The blocks behind the arenas of a list. -/
def arenaBlocks (arenas : List Arena) : Set Region := {region | ∃ arena ∈ arenas, arena.block = region}

theorem mem_arenaBlocks {arena : Arena} (member : arena ∈ arenas) : arena.block ∈ arenaBlocks arenas :=
  ⟨arena, member, rfl⟩

@[simp] theorem arenaBlocks_nil : arenaBlocks [] = ∅ := by
  ext region
  simp [arenaBlocks]

theorem arenaBlocks_cons (arena : Arena) (rest : List Arena) :
    arenaBlocks (arena :: rest) = insert arena.block (arenaBlocks rest) := by
  ext region
  simp [arenaBlocks, eq_comm]

/-- The layout depends on the heap and the live blocks only through what it says of them. -/
theorem Layout.transfer (layout : Layout valid live arenaSize state arenas) {valid' : Heap S → Prop}
    {live' : S → Set Region} (current : valid' state.heap)
    (owned : ∀ arena ∈ arenas, arena.block ∈ live' state.heap.state) :
    Layout valid' live' arenaSize state arenas :=
  { layout with valid := current, owned := owned }

/-- A list without a head has no arenas. -/
theorem Layout.nil_of_null (layout : Layout valid live arenaSize state arenas)
    (null : state.arena.arenaList = 0) : arenas = [] := by
  have nodes := layout.linked.unique (show Memory.Linked _ _ [] from null)
  rwa [List.map_eq_nil_iff] at nodes

/-- Two lists over the same addresses hold the same blocks if the blocks of one are among the others. -/
theorem arenaBlocks_eq (nodes : arenas'.map Arena.node = arenas.map Arena.node)
    (different : (arenas.map Arena.node).Nodup) (among : arenaBlocks arenas' ⊆ arenaBlocks arenas) :
    arenaBlocks arenas = arenaBlocks arenas' := by
  apply Set.Subset.antisymm _ among
  rintro region ⟨arena, member, rfl⟩
  have listed : arena.node ∈ arenas'.map Arena.node := nodes ▸ List.mem_map_of_mem member
  obtain ⟨other, member', same⟩ := List.mem_map.mp listed
  obtain ⟨arena', member'', block⟩ := among (mem_arenaBlocks member')
  have base : arena'.node = arena.node := by
    rw [← same]
    exact UInt64.toNat_inj.mp (congrArg Region.base block)
  rw [List.inj_on_of_nodup_map different member'' member base] at block
  exact ⟨other, member', block.symm⟩

/-- What leaves the live blocks alone leaves the list alone. -/
theorem Layout.linked_kept (layout : Layout valid live arenaSize state arenas) {memory : Memory}
    (same : ∀ region ∈ live state.heap.state, state.heap.memory.Agrees memory region) :
    memory.Linked state.arena.arenaList (arenas.map Arena.node) := by
  apply layout.linked.of_agrees
  intro node member
  obtain ⟨arena, listed, rfl⟩ := List.mem_map.mp member
  exact (same _ (layout.owned arena listed)).mono arena.header_within

/-- The call asked for at least the header, so it was answered by the law of `calloc`. -/
theorem ParentCall.grants (callocs : LawfulCalloc parent valid live) {arena : ArenaAllocator}
    {heap after : Heap S} (current : valid heap) {ndebug : Bool} {result : ArenaResult S}
    {asked : SizeT} {ptr : Addr} (call : ParentCall ndebug parent arena heap result asked ptr after)
    (nonzero : asked ≠ 0) :
    (ptr = 0 → Untouched live heap after) ∧
      (ptr ≠ 0 → Granted live (live heap.state) heap after ⟨ptr.toNat, asked.toNat⟩) := by
  rcases callocs.returns heap asked current nonzero with stopped | ⟨ptr', after', called, _, null, granted⟩
  · rw [call.called] at stopped
    cases stopped
  · rw [call.called] at called
    cases called
    exact ⟨null, fun found => (granted found).1⟩

/-- The sum of a header and the size of an arena does not wrap. -/
theorem Asks.large {arena : ArenaAllocator} (header : arena.arenaSize.toNat + sizeofArena.toNat < 2 ^ 64)
    {nmemb size asked : SizeT} (asks : Asks arena nmemb size asked) : 8 ≤ asked.toNat := by
  rcases asks with rfl | ⟨rfl, accepted, _⟩
  · rw [toNat_add_header header]
    exact Nat.le_add_left _ _
  · rw [toNat_add_header (accepted_lt accepted)]
    exact Nat.le_add_left _ _

/-- An arena that owns all live blocks owns all of them after a request. -/
theorem arenaCalloc_exact (laws : ArenaLaws parent valid live arenaSize) {ndebug : Bool}
    (layout : Layout valid live arenaSize state arenas)
    (exact : live state.heap.state = arenaBlocks arenas) {nmemb size : SizeT} {result : ArenaResult S}
    (called : arenaCalloc ndebug parent state.arena state.heap nmemb size = .ok result)
    (same : next.arena = result.arena) (heap : next.heap = result.heap)
    (layout' : Layout valid live arenaSize next arenas') :
    live next.heap.state = arenaBlocks arenas' := by
  have linked := layout'.linked
  have owned : arenaBlocks arenas' ⊆ live next.heap.state := by
    rintro region ⟨arena, member, rfl⟩
    exact layout'.owned arena member
  -- The list either kept its arenas or has one more in front.
  suffices grown : ∃ arenas'', live next.heap.state = arenaBlocks arenas'' ∧
      next.heap.memory.Linked next.arena.arenaList (arenas''.map Arena.node) by
    obtain ⟨arenas'', whole, linked''⟩ := grown
    have nodes := linked.unique linked''
    rw [whole] at owned ⊢
    exact arenaBlocks_eq nodes (nodes ▸ layout'.nodup) owned
  rw [same, heap]
  rcases arenaCalloc_parent called with ⟨unasked, kept⟩ | ⟨asked, ptr, after, call, asks⟩
  · refine ⟨arenas, by rw [kept, exact], ?_⟩
    rw [kept, unasked.list]
    exact layout.linked
  · have large : 8 ≤ asked.toNat := by
      apply asks.large
      rw [layout.size]
      exact laws.header
    have nonzero : asked ≠ 0 := by
      apply (toNat_pos_iff _).mp
      omega
    obtain ⟨null, granted⟩ := call.grants laws.callocs layout.valid nonzero
    rcases Classical.em (ptr = 0) with missing | found
    · obtain ⟨_, _, arena, heap⟩ := call.null missing
      rw [arena, heap]
      exact ⟨arenas, by rw [(null missing).live, exact], layout.linked_kept (null missing).same⟩
    · obtain ⟨_, list, heap⟩ := call.found found
      have block : (⟨ptr, asked.toNat - 8⟩ : Arena).block = ⟨ptr.toNat, asked.toNat⟩ := by
        rw [Arena.block, Nat.sub_add_cancel large]
      refine ⟨⟨ptr, asked.toNat - 8⟩ :: arenas, ?_, ?_⟩
      · rw [heap, arenaBlocks_cons, block, ← exact]
        exact (granted found).live
      · rw [list, heap]
        apply Memory.Linked.push _ found
        · intro node member
          obtain ⟨arena, listed, rfl⟩ := List.mem_map.mp member
          apply ((granted found).apart _ (layout.owned arena listed)).symm.mono arena.header_within
          exact ⟨Nat.le_refl _, Nat.add_le_add_left large _⟩
        · exact layout.linked_kept (granted found).same

/-- The loop of a destroy releases the blocks of the list and no others. -/
theorem arenaDestroyLoop_live (frees : LawfulFree parent valid live) {heap after : Heap S} {head : Addr}
    {fuel : ℕ} {events : List DestroyEvent} (current : valid heap)
    (linked : heap.memory.Linked head (arenas.map Arena.node))
    (owned : ∀ arena ∈ arenas, arena.block ∈ live heap.state)
    (apart : arenas.Pairwise fun first second => first.block.Disjoint second.block)
    (looped : arenaDestroyLoop parent fuel head heap = .ok (events, after)) :
    live after.state = live heap.state \ arenaBlocks arenas := by
  induction arenas generalizing heap head fuel events with
  | nil =>
      have null : head = 0 := linked
      unfold arenaDestroyLoop at looped
      rw [if_pos null] at looped
      cases looped
      rw [arenaBlocks_nil, Set.sdiff_empty]
  | cons arena rest ih =>
      obtain ⟨same, nonzero, tail⟩ := linked
      subst same
      cases fuel with
      | zero =>
          rw [arenaDestroyLoop, if_neg nonzero] at looped
          cases looped
      | succ fuel =>
          obtain ⟨middle, freed, kept, released, agrees⟩ :=
            frees.returns heap arena.node (arena.size + 8) current (owned arena List.mem_cons_self)
          obtain ⟨before, later⟩ := List.pairwise_cons.mp apart
          have remaining : ∀ other ∈ rest, other.block ∈ live middle.state := by
            intro other member
            rw [released]
            exact ⟨owned other (List.mem_cons_of_mem _ member),
              (block_ne_of_disjoint (before other member)).symm⟩
          have linked' : middle.memory.Linked (heap.memory.loadWord arena.node.toNat)
              (rest.map Arena.node) := by
            apply tail.of_agrees
            intro node member
            obtain ⟨other, listed, rfl⟩ := List.mem_map.mp member
            exact (agrees _ (remaining other listed)).mono other.header_within
          rw [arenaDestroyLoop, if_neg nonzero] at looped
          simp only [allocFree, freed] at looped
          split at looped
          · cases looped
          · rename_i events' final tailed
            cases looped
            rw [ih kept linked' remaining later tailed, released, arenaBlocks_cons, Set.sdiff_sdiff,
              Set.singleton_union]
            rfl

/-- An arena that owns all live blocks owns all of them after every permitted operation. -/
theorem arenaStep_exact (laws : ArenaLaws parent valid live arenaSize)
    (frees : LawfulFree parent valid live) {ndebug : Bool}
    (layout : Layout valid live arenaSize state arenas)
    (exact : live state.heap.state = arenaBlocks arenas) {op : ArenaOp} {reply : ArenaReply}
    (permitted : op.Permitted state.issued)
    (stepped : arenaStep ndebug parent state op = .ok (reply, next))
    (layout' : Layout valid live arenaSize next arenas') :
    live next.heap.state = arenaBlocks arenas' := by
  have same (nodes : arenas'.map Arena.node = arenas.map Arena.node)
      (kept : live next.heap.state = live state.heap.state) :
      live next.heap.state = arenaBlocks arenas' := by
    rw [kept, exact]
    apply arenaBlocks_eq nodes layout.nodup
    rintro region ⟨arena, member, rfl⟩
    rw [← exact, ← kept]
    exact layout'.owned arena member
  cases requests : op.request with
  | some request =>
      rw [arenaStep_request ndebug parent state requests] at stepped
      obtain ⟨result, called, issued⟩ := map_ok_inv stepped
      cases issued
      exact arenaCalloc_exact laws layout exact called rfl rfl layout'
  | none =>
      cases op with
      | malloc size => cases requests
      | calloc nmemb size => cases requests
      | realloc ptr size => cases requests
      | free ptr =>
          cases stepped
          exact same (layout'.linked.unique layout.linked) rfl
      | write base bytes =>
          obtain ⟨block, issued, inside⟩ := permitted
          simp only [arenaStep] at stepped
          split at stepped
          · cases stepped
            have written := layout.written laws.writes issued inside
            exact same (layout'.linked.unique written.linked) rfl
          · cases stepped
      | destroy =>
          simp only [arenaStep, arenaAllocDestroy] at stepped
          split at stepped
          · cases stepped
          · rename_i destroyed
            split at destroyed
            · cases destroyed
            · rename_i looped
              cases destroyed
              cases stepped
              rw [arenaDestroyLoop_live frees layout.valid layout.linked layout.owned layout.apart looped,
                exact, Set.sdiff_self, layout'.nil_of_null rfl, arenaBlocks_nil]

/-- An arena claims the blocks of its list. -/
def arenaOwns (valid : Heap S → Prop) (live : S → Set Region) (arenaSize : SizeT) (tenant : ArenaTenant)
    (heap : Heap S) (owned : Set Region) : Prop :=
  ∃ arenas, Layout valid live arenaSize (tenant.state heap) arenas ∧ owned = arenaBlocks arenas

/-- A fresh arena claims nothing. -/
theorem arenaOwns_start {heap : Heap S} (current : valid heap) :
    arenaOwns valid live arenaSize ⟨arenaAllocatorInit arenaSize, []⟩ heap ∅ :=
  ⟨[], Layout.start current, arenaBlocks_nil.symm⟩

/-- The issued blocks lie in the claimed ones. -/
theorem arenaOwns_issued {tenant : ArenaTenant} {heap : Heap S} {owned : Set Region}
    (owns : arenaOwns valid live arenaSize tenant heap owned) {block : Region}
    (issued : block ∈ tenant.issued) : ∃ region ∈ owned, block.Within region := by
  obtain ⟨arenas, layout, rfl⟩ := owns
  obtain ⟨arena, member, inside⟩ := layout.issued block issued
  exact ⟨arena.block, mem_arenaBlocks member, inside.trans arena.body_within⟩

/-- An arena without a list claims nothing. -/
theorem arenaOwns_closed {tenant : ArenaTenant} {heap : Heap S} {owned : Set Region}
    (owns : arenaOwns valid live arenaSize tenant heap owned) (empty : tenant.arena.arenaList = 0) :
    owned = ∅ := by
  obtain ⟨arenas, layout, rfl⟩ := owns
  rw [layout.nil_of_null empty, arenaBlocks_nil]

/-- An arena is an owner: it isolates its blocks and leaves every other block of the allocator alone. -/
theorem arena_owner (laws : ArenaLaws parent valid live arenaSize) (frees : LawfulFree parent valid live)
    (ndebug : Bool) :
    Owner (blockTokens valid live) (fun fault => fault = .allocation) (arenaTenantStep ndebug parent)
      (fun own op => op.Permitted own.1.issued)
      (fun before op reply after => Isolates (before.1.state before.2) op reply (after.1.state after.2))
      (arenaOwns valid live arenaSize) where
  progress := by
    rintro tenant heap owned op ⟨arenas, layout, rfl⟩ holds permitted
    obtain ⟨framed, inside⟩ := framed_of_holds holds
    have laws' : ArenaLaws parent
        (Framed valid live (live heap.state \ arenaBlocks arenas) heap.memory)
        (outside live (live heap.state \ arenaBlocks arenas)) arenaSize :=
      ⟨laws.callocs.framed, laws.writes.framed, laws.pointer, laws.header⟩
    have layout' : Layout (Framed valid live (live heap.state \ arenaBlocks arenas) heap.memory)
        (outside live (live heap.state \ arenaBlocks arenas)) arenaSize (tenant.state heap) arenas := by
      apply layout.transfer framed
      intro arena member
      rw [show (tenant.state heap).heap.state = heap.state from rfl, inside]
      exact mem_arenaBlocks member
    rcases arenaStep_isolates laws'.callocs laws'.writes frees.framed ndebug layout' permitted
        (Or.inl laws.sound) with
      ⟨fault, stopped, excuse⟩ | ⟨reply, next, stepped, isolates, arenas', kept⟩
    · exact Or.inl ⟨fault, by simp only [arenaTenantStep, stopped]; rfl, excuse⟩
    · have exact := arenaStep_exact laws' frees.framed layout' inside permitted stepped kept
      refine Or.inr ⟨reply, ⟨next.arena, next.issued⟩, next.heap, _,
        by simp only [arenaTenantStep, stepped]; rfl, isolates, replaces_of_framed kept.valid, ?_⟩
      refine ⟨arenas', ?_, exact⟩
      apply kept.transfer kept.valid.valid
      exact fun arena member => (kept.owned arena member).1
  stable := by
    rintro tenant heap heap' owned ⟨arenas, layout, rfl⟩ holds same
    refine ⟨arenas, ?_, rfl⟩
    have claimed : Layout valid (fun _ => arenaBlocks arenas) arenaSize (tenant.state heap) arenas :=
      layout.transfer layout.valid fun arena member => mem_arenaBlocks member
    have kept := claimed.untouched holds.valid.1 ⟨same, rfl⟩
    exact kept.transfer holds.valid.1 fun arena member => holds.live (mem_arenaBlocks member)

end Xstd
