import Xstd.Proof.Arena.Calloc

/-
This file proves how the arenas of the list lie in memory.
-/

namespace Xstd

open Library

variable {S : Type}

/-- An arena of the list has an address and a body of some size. -/
structure Arena where
  node : Addr
  size : ℕ

namespace Arena

/-- The parent owns the whole block. -/
def block (arena : Arena) : Region := ⟨arena.node.toNat, arena.size + 8⟩

def header (arena : Arena) : Region := ⟨arena.node.toNat, 8⟩

def body (arena : Arena) : Region := ⟨arena.node.toNat + 8, arena.size⟩

/-- The part of the body that lies behind the cursor. -/
def room (arena : Arena) (arenaSize cursor : ℕ) : Region :=
  ⟨arena.node.toNat + 8 + cursor, arenaSize - cursor⟩

theorem block_contains_node (arena : Arena) : arena.block.Contains arena.node.toNat := by
  simp only [Region.Contains, block]
  omega

theorem header_within (arena : Arena) : arena.header.Within arena.block := by
  simp only [Region.Within, header, block]
  omega

theorem body_within (arena : Arena) : arena.body.Within arena.block := by
  simp only [Region.Within, body, block]
  omega

theorem body_header_disjoint (arena : Arena) : arena.body.Disjoint arena.header := by
  apply Region.Disjoint.symm
  exact Region.disjoint_of_le (Nat.le_refl _)

theorem room_within (arena : Arena) {arenaSize cursor : ℕ} (below : cursor ≤ arenaSize)
    (fits : arenaSize ≤ arena.size) : (arena.room arenaSize cursor).Within arena.body := by
  simp only [Region.Within, room, body]
  omega

theorem room_mono {arena : Arena} {arenaSize cursor later : ℕ} (order : cursor ≤ later)
    (below : later ≤ arenaSize) :
    (arena.room arenaSize later).Within (arena.room arenaSize cursor) := by
  simp only [Region.Within, room]
  omega

end Arena

/-- The arenas of the list are blocks of the parent that lie apart. Issued blocks lie in their bodies,
and the room of the head is zeroed and unissued. -/
structure Layout (valid : Heap S → Prop) (live : S → Set Region) (arenaSize : SizeT)
    (state : ArenaState S) (arenas : List Arena) : Prop where
  valid : valid state.heap
  size : state.arena.arenaSize = arenaSize
  cursor : state.arena.cursor ≤ arenaSize
  linked : state.heap.memory.Linked state.arena.arenaList (arenas.map Arena.node)
  owned : ∀ arena ∈ arenas, arena.block ∈ live state.heap.state
  large : ∀ arena ∈ arenas, arenaSize.toNat ≤ arena.size
  fits : ∀ arena ∈ arenas, arena.node.toNat + 8 + arena.size ≤ 2 ^ 64
  apart : arenas.Pairwise fun first second => first.block.Disjoint second.block
  issued : ∀ block ∈ state.issued, ∃ arena ∈ arenas, block.Within arena.body
  zeroed : ∀ arena ∈ arenas.head?,
    state.heap.memory.Zero (arena.room arenaSize.toNat state.arena.cursor.toNat)
  vacant : ∀ arena ∈ arenas.head?, ∀ block ∈ state.issued,
    block.Disjoint (arena.room arenaSize.toNat state.arena.cursor.toNat)

namespace Layout

variable {valid : Heap S → Prop} {live : S → Set Region} {arenaSize : SizeT}
  {state : ArenaState S} {arenas : List Arena}

theorem start {heap : Heap S} (initial : valid heap) :
    Layout valid live arenaSize (arenaStart arenaSize heap) [] where
  valid := initial
  size := rfl
  cursor := UInt64.zero_le
  linked := rfl
  owned := by simp
  large := by simp
  fits := by simp
  apart := List.Pairwise.nil
  issued := by simp [arenaStart]
  zeroed := by simp
  vacant := by simp

/-- Different arenas of the list lie apart. -/
theorem disjoint (layout : Layout valid live arenaSize state arenas) {first second : Arena}
    (left : first ∈ arenas) (right : second ∈ arenas) (different : first ≠ second) :
    first.block.Disjoint second.block := by
  have symmetric : Std.Symm fun first second : Arena => first.block.Disjoint second.block :=
    ⟨fun _ _ apart => apart.symm⟩
  exact layout.apart.forall left right different

/-- An issued block lies apart from the header of every arena. -/
theorem headers (layout : Layout valid live arenaSize state arenas) {block : Region}
    (issued : block ∈ state.issued) {arena : Arena} (member : arena ∈ arenas) :
    block.Disjoint arena.header := by
  obtain ⟨holder, held, inside⟩ := layout.issued block issued
  rcases Classical.em (holder = arena) with same | different
  · subst same
    exact (Arena.body_header_disjoint holder).mono inside (Region.Within.refl _)
  · exact (layout.disjoint held member different).mono (inside.trans holder.body_within)
      arena.header_within

/-- The pointer behind the cursor of the head does not wrap. -/
theorem carved_toNat {head : Arena} {rest : List Arena}
    (layout : Layout valid live arenaSize state (head :: rest))
    (inside : state.arena.cursor.toNat < arenaSize.toNat) :
    (state.arena.arenaList + sizeofArena + state.arena.cursor).toNat =
      head.node.toNat + 8 + state.arena.cursor.toNat := by
  have listed : state.arena.arenaList = head.node := layout.linked.1
  have fits := layout.fits head List.mem_cons_self
  have large := layout.large head List.mem_cons_self
  rw [listed]
  apply toNat_carved
  omega

/-- A block with room in the head does not start at `NULL`. -/
theorem carved_ne_zero (layout : Layout valid live arenaSize state arenas) {allocSize : SizeT}
    (room : state.arena.HasRoom allocSize) :
    state.arena.arenaList + sizeofArena + state.arena.cursor ≠ 0 := by
  have enough := UInt64.le_iff_toNat_le.mp room.2
  rw [layout.size, UInt64.toNat_sub_of_le _ _ layout.cursor, rounded_toNat] at enough
  cases arenas with
  | nil => exact absurd layout.linked room.1
  | cons head rest =>
      have pointer := layout.carved_toNat (by omega)
      apply (toNat_pos_iff _).mp
      omega

/-- What leaves the live blocks alone leaves the issued ones alone. -/
theorem issued_same (layout : Layout valid live arenaSize state arenas) {memory : Memory}
    (same : ∀ region ∈ live state.heap.state, state.heap.memory.Agrees memory region) :
    ∀ block ∈ state.issued, state.heap.memory.Agrees memory block := by
  intro block issued
  obtain ⟨holder, held, inside⟩ := layout.issued block issued
  exact (same _ (layout.owned holder held)).mono (inside.trans holder.body_within)

/-- What leaves the live blocks alone keeps the layout. -/
theorem untouched (layout : Layout valid live arenaSize state arenas) {after : Heap S}
    (kept : valid after) (untouched : Untouched live state.heap after) :
    Layout valid live arenaSize { state with heap := after } arenas where
  valid := kept
  size := layout.size
  cursor := layout.cursor
  linked := by
    apply layout.linked.of_agrees
    intro node member
    obtain ⟨arena, listed, rfl⟩ := List.mem_map.mp member
    exact (untouched.same _ (layout.owned arena listed)).mono arena.header_within
  owned := by
    intro arena member
    rw [untouched.live]
    exact layout.owned arena member
  large := layout.large
  fits := layout.fits
  apart := layout.apart
  issued := layout.issued
  zeroed := by
    intro arena head
    have member := List.mem_of_mem_head? head
    have inside := (Arena.room_within arena (UInt64.le_iff_toNat_le.mp layout.cursor)
      (layout.large arena member)).trans arena.body_within
    exact (layout.zeroed arena head).of_agrees ((untouched.same _ (layout.owned arena member)).mono inside)
  vacant := layout.vacant

end Layout

/-- The state after a new arena became the head of the list. -/
def ArenaState.pushed (state : ArenaState S) (after : Heap S) (node : Addr) (cursor : SizeT) :
    ArenaState S :=
  ⟨{ state.arena with arenaList := node, cursor := cursor },
    { after with memory := after.memory.storeWord node.toNat state.arena.arenaList }, state.issued⟩

/-- The state after a block of the head arena was issued. -/
def ArenaState.carved (state : ArenaState S) (cursor : SizeT) (block : Region) : ArenaState S :=
  ⟨{ state.arena with cursor := cursor }, state.heap, block :: state.issued⟩

namespace Layout

variable {valid : Heap S → Prop} {live : S → Set Region} {arenaSize : SizeT}
  {state : ArenaState S} {arenas : List Arena} {after : Heap S} {node : Addr} {size : ℕ}

/-- The header of a new arena touches no block that was live before. -/
theorem pushed_same (granted : Granted live (live state.heap.state) state.heap after
      (⟨node, size⟩ : Arena).block) (cursor : SizeT) :
    ∀ region ∈ live state.heap.state,
      state.heap.memory.Agrees (state.pushed after node cursor).heap.memory region := by
  intro region alive
  have apart := (granted.apart region alive).symm.mono (Region.Within.refl _)
    (⟨node, size⟩ : Arena).header_within
  exact (granted.same region alive).trans (Memory.storeWord_agrees _ apart)

/-- The body of a new arena stays zeroed. -/
theorem pushed_zero (zero : after.memory.Zero (⟨node, size⟩ : Arena).block) (cursor : SizeT) :
    (state.pushed after node cursor).heap.memory.Zero (⟨node, size⟩ : Arena).body := by
  apply (zero.mono (Arena.body_within _)).of_agrees
  exact Memory.storeWord_agrees _ (Arena.body_header_disjoint ⟨node, size⟩)

/-- A new arena in front of the list keeps the layout. -/
theorem push (layout : Layout valid live arenaSize state arenas) (writes : LawfulWrites valid live)
    (nonzero : node ≠ 0) (kept : valid after)
    (granted : Granted live (live state.heap.state) state.heap after (⟨node, size⟩ : Arena).block)
    (zero : after.memory.Zero (⟨node, size⟩ : Arena).block) (large : arenaSize.toNat ≤ size)
    (cursor : SizeT) (below : cursor ≤ arenaSize) :
    Layout valid live arenaSize (state.pushed after node cursor) (⟨node, size⟩ :: arenas) where
  valid := by
    apply writes.keeps after node.toNat _ (⟨node, size⟩ : Arena).block kept
    · rw [granted.live]
      exact Set.mem_insert _ _
    · rw [Memory.wordBytes_length]
      exact Arena.header_within _
  size := layout.size
  cursor := below
  linked := by
    apply Memory.Linked.push
    · apply layout.linked.of_agrees
      intro other member
      obtain ⟨arena, listed, rfl⟩ := List.mem_map.mp member
      exact (granted.same _ (layout.owned arena listed)).mono arena.header_within
    · exact nonzero
    · intro other member
      obtain ⟨arena, listed, rfl⟩ := List.mem_map.mp member
      exact (granted.apart _ (layout.owned arena listed)).symm.mono arena.header_within
        (Arena.header_within ⟨node, size⟩)
  owned := by
    intro arena member
    change arena.block ∈ live after.state
    rw [granted.live]
    rcases List.mem_cons.mp member with rfl | listed
    · exact Set.mem_insert _ _
    · exact Set.mem_insert_of_mem _ (layout.owned arena listed)
  large := by
    intro arena member
    rcases List.mem_cons.mp member with rfl | listed
    · exact large
    · exact layout.large arena listed
  fits := by
    intro arena member
    rcases List.mem_cons.mp member with rfl | listed
    · have fits := granted.fits
      simp only [Arena.block] at fits
      change node.toNat + 8 + size ≤ 2 ^ 64
      omega
    · exact layout.fits arena listed
  apart := by
    apply List.Pairwise.cons
    · intro arena listed
      exact granted.apart _ (layout.owned arena listed)
    · exact layout.apart
  issued := by
    intro block issued
    obtain ⟨holder, held, inside⟩ := layout.issued block issued
    exact ⟨holder, List.mem_cons_of_mem _ held, inside⟩
  zeroed := by
    intro arena head
    cases head
    exact (pushed_zero zero cursor).mono
      (Arena.room_within _ (UInt64.le_iff_toNat_le.mp below) large)
  vacant := by
    intro arena head block issued
    cases head
    obtain ⟨holder, held, inside⟩ := layout.issued block issued
    have room := Arena.room_within ⟨node, size⟩ (UInt64.le_iff_toNat_le.mp below) large
    exact (granted.apart _ (layout.owned holder held)).symm.mono (inside.trans holder.body_within)
      (room.trans (Arena.body_within _))

/-- A block of the head that lies outside the later room keeps the layout. -/
theorem carve {head : Arena} {rest : List Arena}
    (layout : Layout valid live arenaSize state (head :: rest)) {block : Region}
    (inside : block.Within head.body) {cursor : SizeT} (later : state.arena.cursor ≤ cursor)
    (below : cursor ≤ arenaSize) (clear : block.Disjoint (head.room arenaSize.toNat cursor.toNat)) :
    Layout valid live arenaSize (state.carved cursor block) (head :: rest) where
  valid := layout.valid
  size := layout.size
  cursor := below
  linked := layout.linked
  owned := layout.owned
  large := layout.large
  fits := layout.fits
  apart := layout.apart
  issued := by
    intro other member
    rcases List.mem_cons.mp member with rfl | issued
    · exact ⟨head, List.mem_cons_self, inside⟩
    · exact layout.issued other issued
  zeroed := by
    intro arena same
    cases same
    exact (layout.zeroed head rfl).mono
      (Arena.room_mono (UInt64.le_iff_toNat_le.mp later) (UInt64.le_iff_toNat_le.mp below))
  vacant := by
    intro arena same other member
    cases same
    rcases List.mem_cons.mp member with rfl | issued
    · exact clear
    · exact (layout.vacant head rfl other issued).mono (Region.Within.refl _)
        (Arena.room_mono (UInt64.le_iff_toNat_le.mp later) (UInt64.le_iff_toNat_le.mp below))

end Layout

end Xstd
