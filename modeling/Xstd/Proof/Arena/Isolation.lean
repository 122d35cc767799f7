import Xstd.Proof.Alloc
import Xstd.Proof.Arena.Layout
import Xstd.Proof.BumpAllocator

/-
This file proves that the blocks of an arena are isolated and zeroed.
-/

namespace Xstd

open Library

variable {S : Type} {parent : Allocator S} {valid : Heap S → Prop} {live : S → Set Region}

/-- A new arena comes with a lawful grant, or the list stays as it was. -/
theorem arenaPush_cases (callocs : LawfulCalloc parent valid live) (ndebug : Bool)
    (arena : ArenaAllocator) {heap : Heap S} (current : valid heap) {size : SizeT}
    (small : size.toNat + 8 < 2 ^ 64) (cursor : SizeT) :
    arenaPush ndebug parent arena heap size cursor = .error .allocation ∨
    (∃ after, arenaPush ndebug parent arena heap size cursor = .ok (0, arena, after) ∧
      valid after ∧ Untouched live heap after) ∨
    ∃ node after, arenaPush ndebug parent arena heap size cursor =
        .ok (node, { arena with arenaList := node, cursor := cursor },
          { after with memory := after.memory.storeWord node.toNat arena.arenaList }) ∧
      node ≠ 0 ∧ valid after ∧
      Granted live (live heap.state) heap after (⟨node, size.toNat⟩ : Arena).block ∧
      after.memory.Zero (⟨node, size.toNat⟩ : Arena).block := by
  have exact := toNat_add_header small
  have nonzero : size + sizeofArena ≠ 0 := by
    intro zero
    rw [zero] at exact
    change 0 = size.toNat + 8 at exact
    omega
  unfold arenaPush allocCalloc
  rcases callocs.returns heap (size + sizeofArena) current nonzero with stopped | returned
  · left
    simp [stopped, Except.bind]
  · obtain ⟨node, after, called, kept, refused, granted⟩ := returned
    rw [exact] at granted
    simp only [called, Except.bind, assertNonNull]
    rcases Classical.em (node = 0) with null | found
    · subst null
      cases ndebug with
      | false => simp
      | true =>
          right
          left
          exact ⟨after, by simp, kept, refused rfl⟩
    · right
      right
      exact ⟨node, after, by simp [found], found, kept, granted found⟩

/-- An allocation returns a fresh zeroed block, if any, and touches no issued block. -/
structure Allocates (before : ArenaState S) (block : Option Region) (after : ArenaState S) : Prop where
  fresh : ∀ region ∈ block, ∀ earlier ∈ before.issued, region.Disjoint earlier
  zeroed : ∀ region ∈ block, after.heap.memory.Zero region
  same : ∀ earlier ∈ before.issued, before.heap.memory.Agrees after.heap.memory earlier

/-- What one call of the allocator leaves behind. -/
structure CallStep (valid : Heap S → Prop) (live : S → Set Region) (arenaSize : SizeT)
    (before : ArenaState S) (block : Option Region) (after : ArenaState S) : Prop where
  allocates : Allocates before block after
  layout : ∃ arenas, Layout valid live arenaSize after arenas

variable {arenaSize : SizeT} {state : ArenaState S} {arenas : List Arena}

/-- A call that returns `NULL` and leaves the live blocks alone. -/
theorem step_untouched (layout : Layout valid live arenaSize state arenas) {after : Heap S}
    (kept : valid after) (untouched : Untouched live state.heap after) :
    CallStep valid live arenaSize state none { state with heap := after } where
  allocates := ⟨by simp, by simp, layout.issued_same untouched.same⟩
  layout := ⟨arenas, layout.untouched kept untouched⟩

/-- The head gives a block from the front of its room. -/
theorem step_carve {head : Arena} {rest : List Arena}
    (layout : Layout valid live arenaSize state (head :: rest)) {taken : SizeT}
    (enough : state.arena.cursor.toNat + taken.toNat ≤ arenaSize.toNat) {requested : ℕ}
    (fits : requested ≤ taken.toNat) :
    CallStep valid live arenaSize state
      (some ⟨head.node.toNat + 8 + state.arena.cursor.toNat, requested⟩)
      (state.carved (state.arena.cursor + taken)
        ⟨head.node.toNat + 8 + state.arena.cursor.toNat, requested⟩) := by
  have bound := arenaSize.toNat_lt
  have exact : (state.arena.cursor + taken).toNat = state.arena.cursor.toNat + taken.toNat := by
    rw [UInt64.toNat_add]
    omega
  have large := layout.large head List.mem_cons_self
  have inside : Region.Within ⟨head.node.toNat + 8 + state.arena.cursor.toNat, requested⟩
      (head.room arenaSize.toNat state.arena.cursor.toNat) := by
    simp only [Region.Within, Arena.room]
    omega
  have room := Arena.room_within head (UInt64.le_iff_toNat_le.mp layout.cursor) large
  constructor
  · constructor
    · intro region found earlier issued
      cases found
      exact ((layout.vacant head rfl earlier issued).symm).mono inside (Region.Within.refl _)
    · intro region found
      cases found
      exact (layout.zeroed head rfl).mono inside
    · exact fun earlier _ => Memory.Agrees.refl _ _
  · refine ⟨head :: rest, layout.carve (inside.trans room) ?_ ?_ ?_⟩
    · rw [UInt64.le_iff_toNat_le, exact]
      omega
    · rw [UInt64.le_iff_toNat_le, exact]
      exact enough
    · apply Region.disjoint_of_le
      simp only [Arena.room, exact]
      omega

theorem Untouched.refl (live : S → Set Region) (heap : Heap S) : Untouched live heap heap :=
  ⟨fun _ _ => Memory.Agrees.refl _ _, rfl⟩

/-- The tail of `arena_calloc` carves its block from the room of the head. -/
theorem arenaBump_step {head : Arena} {rest : List Arena}
    (layout : Layout valid live arenaSize state (head :: rest)) {taken : SizeT}
    (positive : 0 < taken.toNat)
    (enough : state.arena.cursor.toNat + taken.toNat ≤ arenaSize.toNat) {requested : ℕ}
    (fits : requested ≤ taken.toNat) (sums : List SizeOp) :
    let issued := state.issue requested (arenaBump state.arena state.heap taken sums)
    CallStep valid live arenaSize state issued.1.block issued.2 := by
  have pointer : (arenaBump state.arena state.heap taken sums).ptr.toNat =
      head.node.toNat + 8 + state.arena.cursor.toNat := layout.carved_toNat (by omega)
  have found : (arenaBump state.arena state.heap taken sums).ptr ≠ 0 := by
    apply (toNat_pos_iff _).mp
    omega
  have carved := step_carve layout enough fits
  rw [← pointer] at carved
  intro issued
  simp only [issued, ArenaState.issue_some state _ found]
  exact carved

/-- A call that first pushes an arena allocates as the rest of it does. -/
theorem CallStep.after_push {node : Addr} {size : ℕ} {after : Heap S} {cursor : SizeT}
    {block : Option Region} {next : ArenaState S}
    (layout : Layout valid live arenaSize state arenas)
    (granted : Granted live (live state.heap.state) state.heap after (⟨node, size⟩ : Arena).block)
    (step : CallStep valid live arenaSize (state.pushed after node cursor) block next) :
    CallStep valid live arenaSize state block next where
  allocates := by
    have same := layout.issued_same (Layout.pushed_same granted cursor)
    exact ⟨step.allocates.fresh, step.allocates.zeroed,
      fun earlier issued => (same earlier issued).trans (step.allocates.same earlier issued)⟩
  layout := step.layout

/-- The laws of the parent and the bounds of the arena size. -/
structure ArenaLaws (parent : Allocator S) (valid : Heap S → Prop) (live : S → Set Region)
    (arenaSize : SizeT) : Prop where
  callocs : LawfulCalloc parent valid live
  writes : LawfulWrites valid live
  pointer : sizeofPtr ≤ arenaSize
  header : arenaSize.toNat + sizeofArena.toNat < 2 ^ 64

theorem ArenaLaws.sound (laws : ArenaLaws parent valid live arenaSize) : SoundSize arenaSize :=
  ⟨laws.pointer, laws.header⟩

/-- The parent is asked for more than a header. -/
theorem Asks.larger (laws : ArenaLaws parent valid live arenaSize) {arena : ArenaAllocator}
    {nmemb size asked : SizeT} (asks : Asks arena nmemb size asked) (fixed : arena.arenaSize = arenaSize) :
    8 < asked.toNat := by
  have eight : 8 ≤ arenaSize.toNat := UInt64.le_iff_toNat_le.mp laws.pointer
  rcases asks with rfl | ⟨rfl, accepted, large⟩
  · rw [fixed, toNat_add_header laws.header]
    omega
  · rw [fixed, UInt64.lt_iff_toNat_lt] at large
    rw [toNat_add_header (accepted_lt accepted)]
    omega

theorem Asks.nonzero (laws : ArenaLaws parent valid live arenaSize) {arena : ArenaAllocator}
    {nmemb size asked : SizeT} (asks : Asks arena nmemb size asked) (fixed : arena.arenaSize = arenaSize) :
    asked ≠ 0 :=
  (toNat_pos_iff _).mp (Nat.zero_lt_of_lt (asks.larger laws fixed))

/-- Under the laws, the parent grants the block that a call asks for, or it leaves the live blocks alone. -/
theorem ParentCall.lawful (laws : ArenaLaws parent valid live arenaSize)
    {state : ArenaState (Audited S)} (current : valid state.heap.unaudited)
    (fixed : state.arena.arenaSize = arenaSize) {ndebug : Bool} {result : ArenaResult (Audited S)}
    {nmemb size asked : SizeT} {ptr : Addr} {after : Heap (Audited S)}
    (call : ParentCall ndebug (audited parent) state.arena state.heap result asked ptr after)
    (asks : Asks state.arena nmemb size asked) :
    8 < asked.toNat ∧ ∃ inner : Heap S,
      after = inner.audit (state.heap.state.calls ++ [.calloc 1 asked ptr]) ∧
        (ptr = 0 → Untouched live state.heap.unaudited inner) ∧
        (ptr ≠ 0 → Granted live (live state.heap.state.state) state.heap.unaudited inner
          ⟨ptr.toNat, asked.toNat⟩) := by
  have larger := asks.larger laws fixed
  have nonzero := asks.nonzero laws fixed
  obtain ⟨⟨ptr', inner⟩, returned, recorded⟩ := map_ok_inv call.called
  cases recorded
  rcases laws.callocs.returns state.heap.unaudited asked current nonzero with
    stopped | ⟨ptr', inner', returned', _, null, granted⟩
  · rw [stopped] at returned
    cases returned
  · rw [returned'] at returned
    cases returned
    exact ⟨larger, inner, rfl, null, fun found => (granted found).1⟩

/-- A new arena serves the request from its start. -/
theorem arenaRefill_step (laws : ArenaLaws parent valid live arenaSize) (ndebug : Bool)
    (layout : Layout valid live arenaSize state arenas) {taken : SizeT}
    (positive : 0 < taken.toNat) (enough : taken.toNat ≤ arenaSize.toNat) {requested : ℕ}
    (fits : requested ≤ taken.toNat) (sums : List SizeOp) :
    arenaRefill ndebug parent state.arena state.heap taken sums = .error .allocation ∨
      ∃ result, arenaRefill ndebug parent state.arena state.heap taken sums = .ok result ∧
        CallStep valid live arenaSize state (state.issue requested result).1.block
          (state.issue requested result).2 := by
  have small : state.arena.arenaSize.toNat + 8 < 2 ^ 64 := by
    rw [layout.size]
    exact laws.header
  rcases arenaPush_cases laws.callocs ndebug state.arena layout.valid small 0 with
    stopped | ⟨after, returned, kept, untouched⟩ |
    ⟨node, after, returned, nonzero, kept, granted, zero⟩
  · left
    simp [arenaRefill, stopped]
  · right
    refine ⟨⟨0, state.arena, after, sums ++ [.add state.arena.arenaSize sizeofArena]⟩, ?_, ?_⟩
    · simp [arenaRefill, returned]
    · rw [ArenaState.issue_none state rfl]
      exact step_untouched layout kept untouched
  · right
    rw [layout.size] at granted zero
    have pushed := layout.push laws.writes nonzero kept granted zero (Nat.le_refl _)
      0 UInt64.zero_le
    have begun : (state.pushed after node 0).arena.cursor.toNat + taken.toNat ≤ arenaSize.toNat := by
      change 0 + taken.toNat ≤ arenaSize.toNat
      omega
    refine ⟨arenaBump (state.pushed after node 0).arena (state.pushed after node 0).heap taken
      (sums ++ [.add state.arena.arenaSize sizeofArena]), ?_, ?_⟩
    · simp only [arenaRefill, returned, if_neg nonzero]
      rfl
    · apply CallStep.after_push layout granted
      exact arenaBump_step pushed positive begun fits _

/-- A dedicated arena is one block, and its cursor leaves no room. -/
theorem dedicated_step (writes : LawfulWrites valid live)
    (layout : Layout valid live arenaSize state arenas) {node : Addr} {after : Heap S} {size : ℕ}
    (nonzero : node ≠ 0) (kept : valid after)
    (granted : Granted live (live state.heap.state) state.heap after (⟨node, size⟩ : Arena).block)
    (zero : after.memory.Zero (⟨node, size⟩ : Arena).block) (larger : arenaSize.toNat < size)
    (sums : List SizeOp) {cursor : SizeT} (full : cursor = arenaSize) :
    let pushed := state.pushed after node cursor
    let issued := state.issue size ⟨node + sizeofArena, pushed.arena, pushed.heap, sums⟩
    CallStep valid live arenaSize state issued.1.block issued.2 := by
  subst full
  have fits := granted.fits
  simp only [Arena.block] at fits
  have pointer : (node + sizeofArena).toNat = node.toNat + 8 := by
    apply toNat_add_header
    omega
  have found : node + sizeofArena ≠ 0 := add_header_ne_zero (by omega)
  intro pushed issued
  have returned : issued = (⟨some (⟨node, size⟩ : Arena).body, sums, []⟩,
      pushed.carved cursor (⟨node, size⟩ : Arena).body) := by
    rw [Arena.body, ← pointer]
    exact ArenaState.issue_some state _ found size
  rw [returned]
  have layout' := layout.push writes nonzero kept granted zero (Nat.le_of_lt larger)
    cursor UInt64.le_rfl
  constructor
  · constructor
    · intro region same earlier member
      cases same
      obtain ⟨holder, held, inside⟩ := layout.issued earlier member
      exact (granted.apart _ (layout.owned holder held)).mono (Arena.body_within ⟨node, size⟩)
        (inside.trans holder.body_within)
    · intro region same
      cases same
      exact Layout.pushed_zero zero cursor
    · exact layout.issued_same (Layout.pushed_same granted cursor)
  · refine ⟨⟨node, size⟩ :: arenas, layout'.carve (Region.Within.refl _) UInt64.le_rfl UInt64.le_rfl ?_⟩
    apply Region.disjoint_of_empty
    exact Nat.sub_self _

/-- Every call of `arena_calloc` allocates, or stops at an assertion of `alloc.h`. The size of the arena
matters only when a request goes into an arena of the fixed size. -/
theorem arenaCalloc_step (callocs : LawfulCalloc parent valid live) (writes : LawfulWrites valid live)
    (ndebug : Bool) (layout : Layout valid live arenaSize state arenas) {nmemb size : SizeT}
    (nonzero : size ≠ 0)
    (suits : SoundSize arenaSize ∨ Refuses nmemb size ∨ arenaSize.toNat < nmemb.toNat * size.toNat) :
    arenaCalloc ndebug parent state.arena state.heap nmemb size = .error .allocation ∨
      ∃ result, arenaCalloc ndebug parent state.arena state.heap nmemb size = .ok result ∧
        CallStep valid live arenaSize state (state.issue (nmemb.toNat * size.toNat) result).1.block
          (state.issue (nmemb.toNat * size.toNat) result).2 := by
  rcases Classical.em (Refuses nmemb size) with refused | accepted
  · right
    refine ⟨_, arenaCalloc_refused ndebug parent state.arena state.heap nonzero refused, ?_⟩
    rw [ArenaState.issue_none state rfl]
    exact step_untouched layout layout.valid (Untouched.refl live state.heap)
  rw [← toNat_mul_of_not_refuses accepted] at suits ⊢
  have bound := accepted_lt accepted
  rcases UInt64.lt_or_le state.arena.arenaSize (nmemb * size) with large | small
  · rw [arenaCalloc_large ndebug parent state.arena state.heap nonzero accepted large]
    rcases arenaPush_cases callocs ndebug state.arena layout.valid bound state.arena.arenaSize with
      stopped | ⟨after, returned, kept, untouched⟩ |
      ⟨node, after, returned, found, kept, granted, zero⟩
    · left
      simp [stopped, Except.map]
    · right
      refine ⟨_, by rw [returned]; rfl, ?_⟩
      rw [ArenaResult.ofPush_null, ArenaState.issue_none state rfl]
      exact step_untouched layout kept untouched
    · right
      refine ⟨_, by rw [returned]; rfl, ?_⟩
      rw [ArenaResult.ofPush_found _ found]
      rw [layout.size] at large
      exact dedicated_step writes layout found kept granted zero (UInt64.lt_iff_toNat_lt.mp large) _
        layout.size
  · have below := UInt64.le_iff_toNat_le.mp small
    rw [layout.size] at below
    obtain ⟨pointer, header⟩ : SoundSize arenaSize := by
      rcases suits with sound | refused | large
      · exact sound
      · exact absurd refused accepted
      · omega
    have eight := UInt64.le_iff_toNat_le.mp pointer
    have round := rounded_toNat (nmemb * size)
    change 8 ≤ arenaSize.toNat at eight
    have positive : 0 < (rounded (nmemb * size)).toNat := by omega
    have fits : (nmemb * size).toNat ≤ (rounded (nmemb * size)).toNat := by omega
    rcases Classical.em (state.arena.HasRoom (nmemb * size)) with room | full
    · right
      refine ⟨_, arenaCalloc_bump ndebug parent state.arena state.heap nonzero accepted small room, ?_⟩
      cases arenas with
      | nil => exact absurd layout.linked room.1
      | cons head rest =>
          have enough := UInt64.le_iff_toNat_le.mp room.2
          have order := UInt64.le_iff_toNat_le.mp layout.cursor
          rw [layout.size, UInt64.toNat_sub_of_le _ _ layout.cursor] at enough
          exact arenaBump_step layout positive (by omega) fits _
    · rw [arenaCalloc_refill ndebug parent state.arena state.heap nonzero accepted small full]
      exact arenaRefill_step ⟨callocs, writes, pointer, header⟩ ndebug layout positive (by omega) fits _

/-- The events of a destroy over these arenas. -/
def destroyEvents (arenas : List Arena) : List DestroyEvent :=
  arenas.flatMap fun arena => [.reads arena.node, .frees arena.node]

/-- Blocks that lie apart are different, since each one holds a header. -/
theorem block_ne_of_disjoint {first second : Arena} (apart : first.block.Disjoint second.block) :
    first.block ≠ second.block := by
  intro same
  exact apart _ first.block_contains_node (same ▸ first.block_contains_node)

/-- The loop frees each arena once and reads its header just before. -/
theorem arenaDestroyLoop_frees (frees : LawfulFree parent valid live) {heap : Heap S} {head : Addr}
    {fuel : ℕ} (current : valid heap) (linked : heap.memory.Linked head (arenas.map Arena.node))
    (owned : ∀ arena ∈ arenas, arena.block ∈ live heap.state)
    (apart : arenas.Pairwise fun first second => first.block.Disjoint second.block)
    (enough : arenas.length ≤ fuel) :
    ∃ after, arenaDestroyLoop parent fuel head heap = .ok (destroyEvents arenas, after) ∧
      valid after := by
  induction arenas generalizing heap head fuel with
  | nil =>
      have null : head = 0 := linked
      refine ⟨heap, ?_, current⟩
      unfold arenaDestroyLoop
      rw [if_pos null]
      rfl
  | cons arena rest ih =>
      obtain ⟨same, nonzero, tail⟩ := linked
      cases fuel with
      | zero => exact absurd enough (Nat.not_succ_le_zero _)
      | succ fuel =>
          obtain ⟨after, freed, kept, released, agrees⟩ :=
            frees.returns heap arena.node (arena.size + 8) current (owned arena List.mem_cons_self)
          obtain ⟨before, later⟩ := List.pairwise_cons.mp apart
          have remaining : ∀ other ∈ rest, other.block ∈ live after.state := by
            intro other member
            rw [released]
            exact ⟨owned other (List.mem_cons_of_mem _ member),
              (block_ne_of_disjoint (before other member)).symm⟩
          have linked' : after.memory.Linked (heap.memory.loadWord arena.node.toNat)
              (rest.map Arena.node) := by
            apply tail.of_agrees
            intro node member
            obtain ⟨other, listed, rfl⟩ := List.mem_map.mp member
            exact (agrees _ (remaining other listed)).mono other.header_within
          obtain ⟨final, looped, valid'⟩ := ih kept linked' remaining later (Nat.le_of_succ_le_succ enough)
          refine ⟨final, ?_, valid'⟩
          subst same
          rw [arenaDestroyLoop, if_neg nonzero]
          simp only [allocFree, freed, looped]
          rfl

theorem length_le_addresses {nodes : List Addr} (different : nodes.Nodup) :
    nodes.length ≤ destroyFuel := by
  have injective : Function.Injective UInt64.toFin := fun _ _ same => UInt64.toFin_inj.mp same
  have bound := (different.map injective).length_le_card
  rwa [List.length_map, Fintype.card_fin] at bound

/-- The nodes of different arenas differ. -/
theorem Layout.nodup (layout : Layout valid live arenaSize state arenas) :
    (arenas.map Arena.node).Nodup := by
  rw [List.Nodup, List.pairwise_map]
  apply layout.apart.imp
  intro first second apart same
  exact apart _ first.block_contains_node (same ▸ second.block_contains_node)

/-- The client asks for nonempty elements and writes inside the blocks that it received. -/
def ArenaOp.Permitted (issued : List Region) : ArenaOp → Prop
  | .malloc size => size ≠ 0
  | .calloc _ size => size ≠ 0
  | .realloc _ size => size ≠ 0
  | .free _ => True
  | .write base bytes => ∃ block ∈ issued, Region.Within ⟨base, bytes.length⟩ block
  | .destroy => True

instance (issued : List Region) : (op : ArenaOp) → Decidable (op.Permitted issued)
  | .malloc size => inferInstanceAs (Decidable (size ≠ 0))
  | .calloc _ size => inferInstanceAs (Decidable (size ≠ 0))
  | .realloc _ size => inferInstanceAs (Decidable (size ≠ 0))
  | .free _ => isTrue trivial
  | .write base bytes =>
      inferInstanceAs (Decidable (∃ block ∈ issued, Region.Within ⟨base, bytes.length⟩ block))
  | .destroy => isTrue trivial

/-- These operations are the methods of the table. -/
def ArenaOp.IsCall : ArenaOp → Prop
  | .malloc _ | .calloc _ _ | .realloc _ _ | .free _ => True
  | .write _ _ | .destroy => False

/-- A call allocates, and the issued blocks lie apart from the header of every arena in the list. -/
def Isolates (before : ArenaState S) (op : ArenaOp) (reply : ArenaReply) (after : ArenaState S) : Prop :=
  (op.IsCall → Allocates before reply.block after) ∧
    ∃ nodes, after.heap.memory.Linked after.arena.arenaList nodes ∧
      ∀ block ∈ after.issued, ∀ node ∈ nodes, block.Disjoint ⟨node.toNat, sizeofArena.toNat⟩

/-- The layout keeps issued blocks and headers apart. -/
theorem Layout.isolates (layout : Layout valid live arenaSize state arenas) {before : ArenaState S}
    {op : ArenaOp} {reply : ArenaReply} (allocates : op.IsCall → Allocates before reply.block state) :
    Isolates before op reply state := by
  refine ⟨allocates, arenas.map Arena.node, layout.linked, ?_⟩
  intro block issued node member
  obtain ⟨arena, listed, rfl⟩ := List.mem_map.mp member
  exact layout.headers issued listed

/-- A write inside an issued block keeps the layout. -/
theorem Layout.written (layout : Layout valid live arenaSize state arenas)
    (writes : LawfulWrites valid live) {block : Region} (issued : block ∈ state.issued) {base : ℕ}
    {bytes : List UInt8} (inside : Region.Within ⟨base, bytes.length⟩ block) :
    Layout valid live arenaSize
      { state with heap := { state.heap with memory := state.heap.memory.write base bytes } } arenas where
  valid := by
    obtain ⟨holder, held, within⟩ := layout.issued block issued
    exact writes.keeps state.heap base bytes holder.block layout.valid (layout.owned holder held)
      (inside.trans (within.trans holder.body_within))
  size := layout.size
  cursor := layout.cursor
  linked := by
    apply layout.linked.of_agrees
    intro node member
    obtain ⟨arena, listed, rfl⟩ := List.mem_map.mp member
    exact Memory.write_agrees _ ((layout.headers issued listed).symm.mono (Region.Within.refl _) inside)
  owned := layout.owned
  large := layout.large
  fits := layout.fits
  apart := layout.apart
  issued := layout.issued
  zeroed := by
    intro arena head
    apply (layout.zeroed arena head).of_agrees
    exact Memory.write_agrees _
      ((layout.vacant arena head block issued).symm.mono (Region.Within.refl _) inside)
  vacant := layout.vacant

/-- A destroy empties the list. -/
theorem Layout.destroyed (layout : Layout valid live arenaSize state arenas)
    (frees : LawfulFree parent valid live) :
    ∃ after, arenaAllocDestroy parent state.arena state.heap =
        .ok (destroyEvents arenas, { state.arena with arenaList := 0 }, after) ∧
      Layout valid live arenaSize ⟨{ state.arena with arenaList := 0 }, after, []⟩ [] := by
  have enough := length_le_addresses layout.nodup
  rw [List.length_map] at enough
  obtain ⟨after, looped, kept⟩ :=
    arenaDestroyLoop_frees frees layout.valid layout.linked layout.owned layout.apart enough
  refine ⟨after, ?_, ?_⟩
  · simp only [arenaAllocDestroy, looped]
  · have emptied : Layout valid live arenaSize (arenaStart arenaSize after) [] := Layout.start kept
    exact { emptied with
      size := layout.size, cursor := layout.cursor, zeroed := by simp, vacant := by simp }

/-- A request keeps the layout, or it stops at an assertion of `alloc.h`. -/
theorem arenaStep_allocates (callocs : LawfulCalloc parent valid live)
    (writes : LawfulWrites valid live) (ndebug : Bool)
    (layout : Layout valid live arenaSize state arenas) {nmemb size : SizeT} (nonzero : size ≠ 0)
    {op : ArenaOp} (requests : op.request = some (nmemb, size))
    (suits : SoundSize arenaSize ∨ op.Dedicated arenaSize) :
    (∃ fault, arenaStep ndebug parent state op = .error fault ∧ fault = .allocation) ∨
      ∃ reply next, arenaStep ndebug parent state op = .ok (reply, next) ∧
        Isolates state op reply next ∧ ∃ arenas, Layout valid live arenaSize next arenas := by
  rw [arenaStep_request ndebug parent state requests]
  rcases arenaCalloc_step callocs writes ndebug layout nonzero (suits.imp_right fun dedicated =>
      dedicated _ requests) with stopped | ⟨result, called, step⟩
  · left
    exact ⟨_, by rw [stopped]; rfl, rfl⟩
  · right
    obtain ⟨arenas', layout'⟩ := step.layout
    exact ⟨_, _, by rw [called]; rfl, layout'.isolates fun _ => step.allocates, arenas', layout'⟩

/-- Every permitted operation keeps the layout, or it stops at an assertion of `alloc.h`. -/
theorem arenaStep_isolates (callocs : LawfulCalloc parent valid live)
    (writes : LawfulWrites valid live) (frees : LawfulFree parent valid live) (ndebug : Bool)
    (layout : Layout valid live arenaSize state arenas) {op : ArenaOp}
    (permitted : op.Permitted state.issued) (suits : SoundSize arenaSize ∨ op.Dedicated arenaSize) :
    (∃ fault, arenaStep ndebug parent state op = .error fault ∧ fault = .allocation) ∨
      ∃ reply next, arenaStep ndebug parent state op = .ok (reply, next) ∧
        Isolates state op reply next ∧ ∃ arenas, Layout valid live arenaSize next arenas := by
  cases op with
  | malloc size => exact arenaStep_allocates callocs writes ndebug layout permitted rfl suits
  | calloc nmemb size => exact arenaStep_allocates callocs writes ndebug layout permitted rfl suits
  | realloc ptr size => exact arenaStep_allocates callocs writes ndebug layout permitted rfl suits
  | free ptr =>
      right
      have same : Allocates state none state :=
        ⟨by simp, by simp, fun _ _ => Memory.Agrees.refl _ _⟩
      exact ⟨_, _, rfl, layout.isolates fun _ => same, arenas, layout⟩
  | write base bytes =>
      right
      obtain ⟨block, issued, inside⟩ := permitted
      have layout' := layout.written writes issued inside
      exact ⟨_, _, if_pos ⟨block, issued, inside⟩, layout'.isolates fun call => call.elim, arenas, layout'⟩
  | destroy =>
      right
      obtain ⟨after, destroyed, layout'⟩ := layout.destroyed frees
      have stepped : arenaStep ndebug parent state .destroy =
          .ok (⟨none, [], destroyEvents arenas⟩, ⟨{ state.arena with arenaList := 0 }, after, []⟩) := by
        simp only [arenaStep, destroyed]
      exact ⟨_, _, stepped, layout'.isolates fun call => call.elim, [], layout'⟩

/-- The run rule of an arena: what each returning step has from a layout holds along every run. -/
theorem arena_always (callocs : LawfulCalloc parent valid live) (writes : LawfulWrites valid live)
    (frees : LawfulFree parent valid live) (ndebug : Bool) {heap : Heap S} (initial : valid heap)
    {property : ArenaState S → ArenaOp → ArenaReply → ArenaState S → Prop}
    (holds : ∀ state op reply next arenas, Layout valid live arenaSize state arenas →
      arenaStep ndebug parent state op = .ok (reply, next) → Isolates state op reply next →
      property state op reply next) {ops : List ArenaOp}
    (suits : ∀ op ∈ ops, SoundSize arenaSize ∨ op.Dedicated arenaSize)
    (permitted : (arenaStep ndebug parent).Guarded (fun state op => op.Permitted state.issued)
      (arenaStart arenaSize heap) ops) :
    (arenaStep ndebug parent).AlwaysUnless (fun fault => fault = .allocation) property
      (arenaStart arenaSize heap) ops := by
  apply Machine.alwaysUnless_of_guarded
    (fun state => ∃ arenas, Layout valid live arenaSize state arenas) _
    ⟨[], Layout.start initial⟩ (permitted.and_inputs suits)
  intro state op ⟨arenas, layout⟩ ⟨allowed, suitable⟩
  rcases arenaStep_isolates callocs writes frees ndebug layout allowed suitable with
    stopped | ⟨reply, next, stepped, isolates, kept⟩
  · exact Or.inl stopped
  · have here := holds state op reply next arenas layout stepped isolates
    exact Or.inr ⟨reply, next, stepped, here, kept⟩

/-- The blocks of an arena are fresh and zeroed when it returns them, no later call of the table changes
them, and they stay apart from the headers of the list. -/
theorem arena_isolates (laws : ArenaLaws parent valid live arenaSize)
    (frees : LawfulFree parent valid live) (ndebug : Bool) {heap : Heap S} (initial : valid heap)
    (ops : List ArenaOp)
    (permitted : (arenaStep ndebug parent).Guarded (fun state op => op.Permitted state.issued)
      (arenaStart arenaSize heap) ops) :
    (arenaStep ndebug parent).AlwaysUnless (fun fault => fault = .allocation) Isolates
      (arenaStart arenaSize heap) ops := by
  apply arena_always laws.callocs laws.writes frees ndebug initial _
    (fun _ _ => Or.inl laws.sound) permitted
  intro state op reply next arenas _ _ isolates
  exact isolates

/-- An arena of 32 bytes serves small requests, a large one and a client that writes and destroys. -/
def mixedRequests : List ArenaOp :=
  [.malloc 9, .calloc 10 4, .write 24 [1, 2], .malloc 8, .free 24, .realloc 24 16, .destroy, .malloc 32]

theorem arena_isolates_bump :
    (arenaStep false bumpAllocator).AlwaysUnless (fun fault => fault = .allocation) Isolates
      (arenaStart 32 bumpHeap) mixedRequests :=
  arena_isolates ⟨bumpAllocator_calloc, bumpAllocator_writes, by decide, by decide⟩ bumpAllocator_free false
    bumpHeap_valid mixedRequests (by decide +kernel)

end Xstd
