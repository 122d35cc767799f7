import Xstd.Proof.Arena.Destroy

/-
This file bounds the memory that an arena takes from its parent by the memory that it issued.
-/

namespace Xstd

open Library

variable {S : Type} {parent : Allocator S} {valid : Heap S → Prop} {live : S → Set Region}
variable {arenaSize : SizeT} {state next : ArenaState (Audited S)} {ndebug : Bool}

/-- The bytes that the client of the parent holds. -/
def Audited.heldBytes (record : Audited S) : ℕ := (record.held.map Region.size).sum

/-- A small block counts twice with its rounding, a large one with a whole arena, and both with a header. -/
def blockCost (arenaSize size : ℕ) : ℕ :=
  (if size ≤ arenaSize then 2 * max size 8 else size + arenaSize) + 8

def issuedCost (arenaSize : ℕ) (issued : List Region) : ℕ :=
  (issued.map fun block => blockCost arenaSize block.size).sum

/-- The bytes of the head that are issued or given up. -/
def ArenaAllocator.used (arena : ArenaAllocator) : ℕ :=
  if arena.arenaList = 0 then 0 else arena.cursor.toNat

theorem ArenaAllocator.used_listed {arena : ArenaAllocator} (listed : arena.arenaList ≠ 0) :
    arena.used = arena.cursor.toNat := if_neg listed

/-- The held bytes and the used part of the head stay below one arena and the cost of the issued blocks. -/
def Spacious (arenaSize : SizeT) (state : ArenaState (Audited S)) : Prop :=
  state.heap.state.heldBytes + state.arena.used ≤
    arenaSize.toNat + issuedCost arenaSize.toNat state.issued

theorem Audited.heldBytes_calloc (state : S) (calls : List AllocCall) (asked : SizeT) (ptr : Addr) :
    (⟨state, calls ++ [.calloc 1 asked ptr]⟩ : Audited S).heldBytes =
      (if ptr = 0 then 0 else asked.toNat) + (⟨state, calls⟩ : Audited S).heldBytes := by
  rw [heldBytes, Audited.held_append, AllocCall.apply, grant]
  split
  · exact (Nat.zero_add _).symm
  · show (1 : SizeT).toNat * asked.toNat + _ = _
    rw [show (1 : SizeT).toNat * asked.toNat = asked.toNat from Nat.one_mul _]
    rfl

/-- A push takes the arena and its header from the parent, or nothing. -/
theorem arenaPush_space (callocs : LawfulCalloc parent valid live) {arena arena' : ArenaAllocator}
    {heap heap' : Heap (Audited S)} (current : valid heap.unaudited) {size cursor : SizeT}
    (small : size.toNat + 8 < 2 ^ 64) {node : Addr}
    (pushed : arenaPush ndebug (audited parent) arena heap size cursor = .ok (node, arena', heap')) :
    (node = 0 ∧ arena' = arena ∧ heap'.state.heldBytes = heap.state.heldBytes) ∨
      (node ≠ 0 ∧ arena' = { arena with arenaList := node, cursor := cursor } ∧
        heap'.state.heldBytes = size.toNat + 8 + heap.state.heldBytes ∧
        node.toNat + (size.toNat + 8) ≤ 2 ^ 64) := by
  have exact := toNat_add_header small
  have nonzero : size + sizeofArena ≠ 0 := by
    apply (toNat_pos_iff _).mp
    omega
  obtain ⟨granted, called, outcome⟩ := arenaPush_inv pushed
  obtain ⟨⟨ptr, after⟩, returned, recorded⟩ := map_ok_inv called
  cases recorded
  have bytes := Audited.heldBytes_calloc after.state heap.state.calls (size + sizeofArena) node
  rw [exact] at bytes
  rcases outcome with ⟨null, _, same, rfl⟩ | ⟨found, same, rfl⟩
  · left
    rw [if_pos null, Nat.zero_add] at bytes
    exact ⟨null, same, bytes⟩
  · right
    rw [if_neg found] at bytes
    refine ⟨found, same, bytes, ?_⟩
    rcases callocs.returns heap.unaudited (size + sizeofArena) current nonzero with
      stopped | ⟨ptr', after', returned', _, _, block⟩
    · rw [returned] at stopped
      cases stopped
    · rw [returned] at returned'
      cases returned'
      have fits := (block found).1.fits
      rwa [exact] at fits

/-- Without a list the arena holds nothing of the parent. -/
theorem Owns.heldBytes_null (owns : Owns valid live arenaSize state) (null : state.arena.arenaList = 0) :
    state.heap.state.heldBytes = 0 := by
  obtain ⟨arenas, layout, nodes⟩ := owns
  have empty := layout.linked.unique (show Memory.Linked _ _ [] from null)
  rw [nodes, Audited.nodes, List.map_eq_nil_iff] at empty
  rw [Audited.heldBytes, empty]
  rfl

variable {nmemb size : SizeT} {result : ArenaResult (Audited S)}

/-- A successful call adds the cost of its block. -/
theorem spacious_issue (found : result.ptr ≠ 0) (listed : result.arena.arenaList ≠ 0) {requested : ℕ}
    (enough : result.heap.state.heldBytes + result.arena.cursor.toNat ≤
      arenaSize.toNat + (blockCost arenaSize.toNat requested + issuedCost arenaSize.toNat state.issued)) :
    Spacious arenaSize (state.issue requested result).2 := by
  rw [ArenaState.issue_some state _ found, Spacious, ArenaAllocator.used_listed listed, issuedCost,
    List.map_cons, List.sum_cons]
  exact enough

/-- A call that returns `NULL` and keeps the arena costs nothing. -/
theorem spacious_null (spacious : Spacious arenaSize state) (null : result.ptr = 0)
    (same : result.arena = state.arena) (bytes : result.heap.state.heldBytes = state.heap.state.heldBytes)
    (requested : ℕ) : Spacious arenaSize (state.issue requested result).2 := by
  rw [ArenaState.issue_none state null, Spacious]
  show result.heap.state.heldBytes + result.arena.used ≤ _
  rw [same, bytes]
  exact spacious

/-- A dedicated arena gives up what remains of the head, which is less than a whole arena. -/
theorem dedicated_spacious (callocs : LawfulCalloc parent valid live) (spacious : Spacious arenaSize state)
    (fixed : state.arena.arenaSize = arenaSize) (current : valid state.heap.unaudited)
    (small : size.toNat + 8 < 2 ^ 64) (large : arenaSize.toNat < size.toNat)
    (called : (arenaPush ndebug (audited parent) state.arena state.heap size
      state.arena.arenaSize).map (ArenaResult.ofPush size) = .ok result) :
    Spacious arenaSize (state.issue size.toNat result).2 := by
  obtain ⟨⟨node, arena, heap⟩, pushed, rfl⟩ := map_ok_inv called
  rcases arenaPush_space callocs current small pushed with ⟨rfl, rfl, bytes⟩ | ⟨found, rfl, bytes, fits⟩
  · exact spacious_null spacious rfl rfl bytes _
  · rw [ArenaResult.ofPush_found _ found]
    apply spacious_issue (add_header_ne_zero (by omega)) found
    show heap.state.heldBytes + state.arena.arenaSize.toNat ≤ _
    unfold Spacious at spacious
    rw [bytes, fixed, blockCost, if_neg (Nat.not_le.mpr large)]
    omega

/-- A block from the head grows the used part by its rounding. -/
theorem bump_spacious {arenas : List Arena}
    (layout : Layout (fun heap => valid heap.unaudited) (fun record => live record.state) arenaSize state
      arenas)
    (spacious : Spacious arenaSize state) (small : size ≤ arenaSize) (room : state.arena.HasRoom size)
    (sums : List SizeOp) :
    Spacious arenaSize (state.issue size.toNat
      (arenaBump state.arena state.heap (rounded size) sums)).2 := by
  have eight := rounded_toNat size
  have enough := UInt64.le_iff_toNat_le.mp room.2
  have order := UInt64.le_iff_toNat_le.mp layout.cursor
  have bound := arenaSize.toNat_lt
  rw [layout.size, UInt64.toNat_sub_of_le _ _ layout.cursor] at enough
  have exact : (state.arena.cursor + rounded size).toNat =
      state.arena.cursor.toNat + (rounded size).toNat := by
    rw [UInt64.toNat_add]
    omega
  unfold Spacious at spacious
  rw [ArenaAllocator.used_listed room.1] at spacious
  apply spacious_issue (layout.carved_ne_zero room) room.1
  show state.heap.state.heldBytes + (state.arena.cursor + rounded size).toNat ≤ _
  rw [exact, blockCost, if_pos (UInt64.le_iff_toNat_le.mp small)]
  omega

/-- A new arena of the fixed size holds more than what it gives up and what it issues, since the request
did not fit into the head. -/
theorem refill_spacious (laws : ArenaLaws parent valid live arenaSize)
    (owns : Owns valid live arenaSize state) (spacious : Spacious arenaSize state)
    (small : size ≤ arenaSize) (full : ¬state.arena.HasRoom size)
    {sums : List SizeOp}
    (called : arenaRefill ndebug (audited parent) state.arena state.heap (rounded size) sums = .ok result) :
    Spacious arenaSize (state.issue size.toNat result).2 := by
  obtain ⟨arenas, layout, _⟩ := id owns
  have eight := rounded_toNat size
  have header := laws.header
  have below := UInt64.le_iff_toNat_le.mp small
  have order := UInt64.le_iff_toNat_le.mp layout.cursor
  have waste : state.heap.state.heldBytes + arenaSize.toNat ≤
      arenaSize.toNat + issuedCost arenaSize.toNat state.issued + (rounded size).toNat := by
    unfold Spacious at spacious
    rcases Classical.em (state.arena.arenaList = 0) with null | listed
    · rw [owns.heldBytes_null null]
      omega
    · have short : ¬rounded size ≤ state.arena.arenaSize - state.arena.cursor :=
        fun enough => full ⟨listed, enough⟩
      rw [layout.size, UInt64.le_iff_toNat_le, UInt64.toNat_sub_of_le _ _ layout.cursor] at short
      rw [ArenaAllocator.used_listed listed] at spacious
      omega
  unfold arenaRefill at called
  simp only at called
  cases pushed : arenaPush ndebug (audited parent) state.arena state.heap state.arena.arenaSize 0 with
  | error fault =>
      rw [pushed] at called
      cases called
  | ok granted =>
      obtain ⟨node, arena, heap⟩ := granted
      rw [pushed] at called
      rcases arenaPush_space laws.callocs layout.valid (by rw [layout.size]; exact header) pushed with
        ⟨rfl, rfl, bytes⟩ | ⟨found, rfl, bytes, fits⟩
      · cases called
        exact spacious_null spacious rfl rfl bytes _
      · simp only [if_neg found] at called
        cases called
        rw [layout.size] at bytes fits
        have positive := UInt64.le_iff_toNat_le.mp laws.pointer
        change 8 ≤ arenaSize.toNat at positive
        have pointer : node + sizeofArena + 0 ≠ 0 := by
          rw [UInt64.add_zero]
          exact add_header_ne_zero (by omega)
        apply spacious_issue pointer found
        show heap.state.heldBytes + (0 + rounded size).toNat ≤ _
        rw [UInt64.zero_add, bytes, blockCost, if_pos below]
        omega

/-- Every request keeps the bound. -/
theorem arenaCalloc_spacious (laws : ArenaLaws parent valid live arenaSize)
    (owns : Owns valid live arenaSize state) (spacious : Spacious arenaSize state)
    (called : arenaCalloc ndebug (audited parent) state.arena state.heap nmemb size = .ok result) :
    Spacious arenaSize (state.issue (nmemb.toNat * size.toNat) result).2 := by
  have nonzero := nonzero_of_returned called
  obtain ⟨arenas, layout, _⟩ := id owns
  rcases Classical.em (Refuses nmemb size) with refused | accepted
  · rw [arenaCalloc_refused _ _ _ _ nonzero refused] at called
    cases called
    exact spacious_null spacious rfl rfl rfl _
  rw [← toNat_mul_of_not_refuses accepted]
  rcases UInt64.lt_or_le state.arena.arenaSize (nmemb * size) with large | small
  · rw [arenaCalloc_large _ _ _ _ nonzero accepted large] at called
    rw [layout.size, UInt64.lt_iff_toNat_lt] at large
    exact dedicated_spacious laws.callocs spacious layout.size layout.valid (accepted_lt accepted) large
      called
  · have below := small
    rw [layout.size] at below
    rcases Classical.em (state.arena.HasRoom (nmemb * size)) with room | full
    · rw [arenaCalloc_bump _ _ _ _ nonzero accepted small room] at called
      cases called
      exact bump_spacious layout spacious below room _
    · rw [arenaCalloc_refill _ _ _ _ nonzero accepted small full] at called
      exact refill_spacious laws owns spacious below full called

/-- Every permitted operation keeps the bound. A destroy starts it over. -/
theorem arenaStep_spacious (laws : ArenaLaws parent valid live arenaSize)
    (frees : LawfulFree parent valid live) (owns : Owns valid live arenaSize state)
    (spacious : Spacious arenaSize state) {op : ArenaOp} {reply : ArenaReply}
    (stepped : arenaStep ndebug (audited parent) state op = .ok (reply, next)) :
    Spacious arenaSize next := by
  cases requests : op.request with
  | some request =>
      rw [arenaStep_request ndebug (audited parent) state requests] at stepped
      obtain ⟨result, called, issued⟩ := map_ok_inv stepped
      cases issued
      exact arenaCalloc_spacious laws owns spacious called
  | none =>
      cases op with
      | malloc size => cases requests
      | calloc nmemb size => cases requests
      | realloc ptr size => cases requests
      | free ptr =>
          cases stepped
          exact spacious
      | write base bytes =>
          simp only [arenaStep] at stepped
          split at stepped
          · cases stepped
            exact spacious
          · cases stepped
      | destroy =>
          obtain ⟨reply', after, stepped', released, _⟩ := owns.releasable frees ndebug
          rw [stepped] at stepped'
          cases stepped'
          have emptied : next.heap.state.heldBytes = 0 := by
            rw [Audited.heldBytes, released.emptied]
            rfl
          have unlisted : next.arena.arenaList = 0 := by
            simp only [arenaStep, arenaAllocDestroy] at stepped
            split at stepped
            · cases stepped
            · rename_i destroyed
              split at destroyed
              · cases destroyed
              · cases destroyed
                cases stepped
                rfl
          rw [Spacious, emptied, ArenaAllocator.used, if_pos unlisted]
          exact Nat.zero_le _

/-- In every state of every run, the arena holds at most one arena more than what its blocks cost: twice
each small block, one arena beside each large block, and a header for each. -/
theorem arena_space_bound (laws : ArenaLaws parent valid live arenaSize)
    (frees : LawfulFree parent valid live) (ndebug : Bool) {heap : Heap S} (initial : valid heap)
    (ops : List ArenaOp)
    (permitted : (arenaStep ndebug (audited parent)).Guarded
      (fun state op => op.Permitted state.issued) (arenaStart arenaSize (heap.audit [])) ops) :
    (arenaStep ndebug (audited parent)).AlwaysUnless (fun fault => fault = .allocation)
      (fun _ _ _ after => after.heap.state.heldBytes ≤
        arenaSize.toNat + issuedCost arenaSize.toNat after.issued)
      (arenaStart arenaSize (heap.audit [])) ops := by
  have start : Owns valid live arenaSize (arenaStart arenaSize (heap.audit [])) :=
    ⟨[], Layout.start initial, rfl⟩
  apply Machine.alwaysUnless_of_guarded
    (fun state => Owns valid live arenaSize state ∧ Spacious arenaSize state) _
    ⟨start, Nat.zero_le _⟩ permitted
  intro state op ⟨owns, spacious⟩ allowed
  rcases arenaStep_owns laws frees ndebug owns allowed with
    stopped | ⟨reply, next, stepped, _, kept⟩
  · exact Or.inl stopped
  · have spacious' := arenaStep_spacious laws frees owns spacious stepped
    exact Or.inr ⟨reply, next, stepped, Nat.le_of_add_right_le spacious', kept, spacious'⟩

theorem arena_space_bound_bump :
    (arenaStep false (audited bumpAllocator)).AlwaysUnless (fun fault => fault = .allocation)
      (fun _ _ _ after => after.heap.state.heldBytes ≤ (32 : SizeT).toNat + issuedCost 32 after.issued)
      (arenaStart 32 (bumpHeap.audit [])) mixedRequests :=
  arena_space_bound ⟨bumpAllocator_calloc, bumpAllocator_writes, by decide, by decide⟩ bumpAllocator_free
    false bumpHeap_valid mixedRequests (by decide +kernel)

end Xstd
