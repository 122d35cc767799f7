import Xstd.Proof.Arena.Calloc
import Xstd.Proof.BumpAllocator

/-
This file proves when the pointers of an arena are aligned.
-/

namespace Xstd

open Library

variable {S : Type} {parent : Allocator S} {ndebug : Bool}

/-- The parent returns multiples of the pointer size. -/
def AlignedParent (parent : Allocator S) : Prop :=
  ∀ heap size ptr after, parent.calloc heap 1 size = .ok (ptr, after) → 8 ∣ ptr.toNat

def Aligned (_before : ArenaState S) (_op : ArenaOp) (reply : ArenaReply) (_after : ArenaState S) :
    Prop :=
  ∀ block ∈ reply.block, sizeofPtr.toNat ∣ block.base

/-- A request that the head has room for finds the cursor at a multiple of the pointer size. -/
def OnBoundary (before : ArenaState S) (op : ArenaOp) (_reply : ArenaReply) (_after : ArenaState S) :
    Prop :=
  ∀ request ∈ op.request, ¬Refuses request.1 request.2 →
    request.1 * request.2 ≤ before.arena.arenaSize → before.arena.HasRoom (request.1 * request.2) →
      sizeofPtr.toNat ∣ before.arena.cursor.toNat

/-- The list of the arena starts at a multiple of the pointer size. -/
def AlignedHead (state : ArenaState S) : Prop := 8 ∣ state.arena.arenaList.toNat

/-- Pointer sums wrap at a multiple of 8. -/
theorem dvd_carved_iff {node : SizeT} (aligned : 8 ∣ node.toNat) (cursor : SizeT) :
    8 ∣ (node + sizeofArena + cursor).toNat ↔ 8 ∣ cursor.toNat := by
  have eight : sizeofArena.toNat = 8 := rfl
  rw [UInt64.toNat_add, UInt64.toNat_add, eight]
  omega

theorem arenaPush_aligned (aligned : AlignedParent parent) {arena arena' : ArenaAllocator}
    {heap heap' : Heap S} {size cursor : SizeT} {node : Addr} (head : 8 ∣ arena.arenaList.toNat)
    (pushed : arenaPush ndebug parent arena heap size cursor = .ok (node, arena', heap')) :
    8 ∣ node.toNat ∧ 8 ∣ arena'.arenaList.toNat := by
  obtain ⟨after, called, ⟨_, _, rfl, _⟩ | ⟨_, rfl, _⟩⟩ := arenaPush_inv pushed
  · exact ⟨aligned _ _ _ _ called, head⟩
  · exact ⟨aligned _ _ _ _ called, aligned _ _ _ _ called⟩

variable {state : ArenaState S} {op : ArenaOp} {nmemb size : SizeT} {result : ArenaResult S}

/-- The pointer of a call is aligned unless the call carves a block at a cursor off the boundary. -/
theorem arenaCalloc_aligned (aligned : AlignedParent parent) (head : AlignedHead state)
    (nonzero : size ≠ 0)
    (called : arenaCalloc ndebug parent state.arena state.heap nmemb size = .ok result) :
    (8 ∣ result.ptr.toNat ↔ (¬Refuses nmemb size → nmemb * size ≤ state.arena.arenaSize →
      state.arena.HasRoom (nmemb * size) → 8 ∣ state.arena.cursor.toNat)) ∧
      8 ∣ result.arena.arenaList.toNat := by
  have zero : 8 ∣ (0 : SizeT).toNat := Nat.dvd_zero 8
  rcases Classical.em (Refuses nmemb size) with refused | accepted
  · rw [arenaCalloc_refused _ _ _ _ nonzero refused] at called
    cases called
    exact ⟨iff_of_true zero fun accepted => absurd refused accepted, head⟩
  rcases UInt64.lt_or_le state.arena.arenaSize (nmemb * size) with large | small
  · rw [arenaCalloc_large _ _ _ _ nonzero accepted large] at called
    obtain ⟨⟨node, arena, heap⟩, pushed, rfl⟩ := map_ok_inv called
    obtain ⟨base, list⟩ := arenaPush_aligned aligned head pushed
    refine ⟨iff_of_true ?_ fun _ small => absurd large (UInt64.not_lt.mpr small), list⟩
    rcases Classical.em (node = 0) with null | found
    · subst null
      exact zero
    · have carved := (dvd_carved_iff base 0).mpr zero
      rwa [ArenaResult.ofPush_found _ found, ← UInt64.add_zero (node + sizeofArena)]
  rcases Classical.em (state.arena.HasRoom (nmemb * size)) with room | full
  · rw [arenaCalloc_bump _ _ _ _ nonzero accepted small room] at called
    cases called
    refine ⟨?_, head⟩
    change 8 ∣ (state.arena.arenaList + sizeofArena + state.arena.cursor).toNat ↔ _
    rw [dvd_carved_iff head]
    exact ⟨fun boundary _ _ _ => boundary, fun boundary => boundary accepted small room⟩
  · rw [arenaCalloc_refill _ _ _ _ nonzero accepted small full] at called
    unfold arenaRefill at called
    simp only at called
    split at called
    · cases called
    · rename_i node arena heap pushed
      obtain ⟨base, list⟩ := arenaPush_aligned aligned head pushed
      obtain ⟨after, _, ⟨null, _, rfl, _⟩ | ⟨found, rfl, _⟩⟩ := arenaPush_inv pushed
      · rw [if_pos null] at called
        cases called
        exact ⟨iff_of_true zero fun _ _ room => absurd room full, head⟩
      · rw [if_neg found] at called
        cases called
        exact ⟨iff_of_true ((dvd_carved_iff base 0).mpr zero)
          fun _ _ room => absurd room full, list⟩

/-- One step returns an aligned pointer exactly when it carves on the boundary. -/
theorem arenaStep_aligned (aligned : AlignedParent parent) (head : AlignedHead state)
    {reply : ArenaReply} {next : ArenaState S}
    (stepped : arenaStep ndebug parent state op = .ok (reply, next)) :
    (Aligned state op reply next ↔ OnBoundary state op reply next) ∧ AlignedHead next := by
  cases requests : op.request with
  | some request =>
      obtain ⟨nmemb, size⟩ := request
      rw [arenaStep_request _ _ state requests] at stepped
      obtain ⟨result, called, issued⟩ := map_ok_inv stepped
      cases issued
      obtain ⟨exact, kept⟩ := arenaCalloc_aligned aligned head (nonzero_of_returned called) called
      refine ⟨?_, kept⟩
      have boundary : ∀ reply next, OnBoundary state op reply next ↔ 8 ∣ result.ptr.toNat := by
        intro reply next
        rw [exact]
        simp only [OnBoundary, requests, Option.mem_some_iff, forall_eq']
        rfl
      rw [boundary]
      constructor
      · intro block
        rcases Classical.em (result.ptr = 0) with null | found
        · rw [null]
          exact Nat.dvd_zero 8
        · exact block ⟨result.ptr.toNat, nmemb.toNat * size.toNat⟩
            (ArenaResult.mem_block.mpr ⟨found, rfl⟩)
      · intro divides block returned
        obtain ⟨_, rfl⟩ := ArenaResult.mem_block.mp returned
        exact divides
  | none =>
      have idle := arenaStep_idle requests stepped
      refine ⟨iff_of_true ?_ ?_, ?_⟩
      · simp [Aligned, idle.block]
      · simp [OnBoundary, requests]
      · unfold AlignedHead
        rcases idle.list with ⟨same, _⟩ | empty
        · rw [same]
          exact head
        · rw [empty]
          exact Nat.dvd_zero 8

/-- The operation requests no element, or one that is refused, larger than an arena, not larger than a
pointer, or a multiple of the pointer size. -/
def ArenaOp.Regular (arenaSize : SizeT) (op : ArenaOp) : Prop :=
  ∀ request ∈ op.request, ¬Refuses request.1 request.2 → request.1 * request.2 ≤ arenaSize →
    8 ∣ (rounded (request.1 * request.2)).toNat

/-- The head is aligned, and so is the cursor unless the head is full. -/
structure Regular (arenaSize : SizeT) (state : ArenaState S) : Prop where
  head : AlignedHead state
  size : state.arena.arenaSize = arenaSize
  cursor : 8 ∣ state.arena.cursor.toNat ∨ state.arena.cursor = arenaSize

theorem dvd_add {left right : SizeT} (first : 8 ∣ left.toNat) (second : 8 ∣ right.toNat) :
    8 ∣ (left + right).toNat := by
  rw [UInt64.toNat_add]
  omega

theorem Regular.boundary {arenaSize : SizeT} (regular : Regular arenaSize state)
    (room : state.arena.HasRoom size) : 8 ∣ state.arena.cursor.toNat := by
  rcases regular.cursor with boundary | full
  · exact boundary
  · have enough := UInt64.le_iff_toNat_le.mp room.2
    rw [regular.size, full, UInt64.sub_self, rounded_toNat] at enough
    change max size.toNat 8 ≤ 0 at enough
    omega

/-- A regular request keeps the cursor on the boundary or fills the head. -/
theorem arenaCalloc_regular (aligned : AlignedParent parent) {arenaSize : SizeT}
    (regular : Regular arenaSize state) (even : ¬Refuses nmemb size → nmemb * size ≤ arenaSize →
      8 ∣ (rounded (nmemb * size)).toNat)
    (called : arenaCalloc ndebug parent state.arena state.heap nmemb size = .ok result)
    (requested : ℕ) : Regular arenaSize (state.issue requested result).2 := by
  have nonzero := nonzero_of_returned called
  have list := (arenaCalloc_aligned aligned regular.head nonzero called).2
  rcases Classical.em (Refuses nmemb size) with refused | accepted
  · rw [arenaCalloc_refused _ _ _ _ nonzero refused] at called
    cases called
    exact ⟨list, regular.size, regular.cursor⟩
  rcases UInt64.lt_or_le state.arena.arenaSize (nmemb * size) with large | small
  · rw [arenaCalloc_large _ _ _ _ nonzero accepted large] at called
    obtain ⟨⟨node, arena, heap⟩, pushed, rfl⟩ := map_ok_inv called
    obtain ⟨after, _, ⟨_, _, rfl, _⟩ | ⟨_, rfl, _⟩⟩ := arenaPush_inv pushed
    · exact ⟨list, regular.size, regular.cursor⟩
    · exact ⟨list, regular.size, Or.inr regular.size⟩
  have multiple := even accepted (regular.size ▸ small)
  rcases Classical.em (state.arena.HasRoom (nmemb * size)) with room | full
  · rw [arenaCalloc_bump _ _ _ _ nonzero accepted small room] at called
    cases called
    exact ⟨list, regular.size, Or.inl (dvd_add (regular.boundary room) multiple)⟩
  · rw [arenaCalloc_refill _ _ _ _ nonzero accepted small full] at called
    unfold arenaRefill at called
    simp only at called
    split at called
    · cases called
    · rename_i node arena heap pushed
      obtain ⟨after, _, ⟨null, _, rfl, _⟩ | ⟨found, rfl, _⟩⟩ := arenaPush_inv pushed
      · rw [if_pos null] at called
        cases called
        exact ⟨list, regular.size, regular.cursor⟩
      · rw [if_neg found] at called
        cases called
        exact ⟨list, regular.size, Or.inl (dvd_add (Nat.dvd_zero 8) multiple)⟩

/-- Requests of at most a pointer and of multiples of the pointer size always receive aligned pointers. -/
theorem arena_aligned_of_regular (aligned : AlignedParent parent) (ndebug : Bool) (arenaSize : SizeT)
    (heap : Heap S) (ops : List ArenaOp) (even : ∀ op ∈ ops, op.Regular arenaSize)
    (returns : (arenaStep ndebug parent).Completes (arenaStart arenaSize heap) ops) :
    (arenaStep ndebug parent).Always Aligned (arenaStart arenaSize heap) ops := by
  have initial : Regular arenaSize (arenaStart arenaSize heap) :=
    ⟨Nat.dvd_zero 8, rfl, Or.inl (Nat.dvd_zero 8)⟩
  apply Machine.always_of_invariant (ArenaOp.Regular arenaSize) (Regular arenaSize) _ initial even returns
  intro state op reply next regular allowed stepped
  obtain ⟨exact, head⟩ := arenaStep_aligned aligned regular.head stepped
  have boundary : OnBoundary state op reply next :=
    fun request _ _ _ room => regular.boundary room
  refine ⟨exact.mpr boundary, ?_⟩
  cases requests : op.request with
  | some request =>
      rw [arenaStep_request _ _ state requests] at stepped
      obtain ⟨result, called, issued⟩ := map_ok_inv stepped
      have kept := arenaCalloc_regular aligned regular (allowed request requests) called
        (request.1.toNat * request.2.toNat)
      rwa [issued] at kept
  | none =>
      have idle := arenaStep_idle requests stepped
      exact ⟨head, idle.size.trans regular.size, idle.cursor ▸ regular.cursor⟩

/-- Over a parent that aligns its blocks, all pointers of a run are aligned exactly when each request
that the head has room for finds the cursor at a multiple of the pointer size. Requests of at most a pointer
and of multiples of the pointer size always do. -/
theorem arena_aligned_iff (aligned : AlignedParent parent) (ndebug : Bool) (arenaSize : SizeT)
    (heap : Heap S) (ops : List ArenaOp) :
    ((arenaStep ndebug parent).Always Aligned (arenaStart arenaSize heap) ops ↔
      (arenaStep ndebug parent).Always OnBoundary (arenaStart arenaSize heap) ops) ∧
    ((∀ op ∈ ops, op.Regular arenaSize) →
      (arenaStep ndebug parent).Completes (arenaStart arenaSize heap) ops →
      (arenaStep ndebug parent).Always Aligned (arenaStart arenaSize heap) ops) := by
  constructor
  · have initial : AlignedHead (arenaStart arenaSize heap) := Nat.dvd_zero 8
    apply Machine.always_congr AlignedHead _ initial
    intro state op reply next head stepped
    exact arenaStep_aligned aligned head stepped
  · exact arena_aligned_of_regular aligned ndebug arenaSize heap ops

theorem bumpAllocator_aligned : AlignedParent bumpAllocator := by
  intro heap size ptr after called
  simp only [bumpAllocator] at called
  rcases bumpTake_cases heap ((1 : SizeT).toNat * size.toNat)
      (List.replicate ((1 : SizeT).toNat * size.toNat) 0) with refused | ⟨base, _, placed, _, taken⟩
  · rw [refused] at called
    cases called
    exact Nat.dvd_zero 8
  · rw [taken] at called
    cases called
    rw [placed, BumpState.base]
    omega

theorem arena_aligned_bump :
    ((arenaStep false bumpAllocator).Always Aligned (arenaStart 32 bumpHeap)
        [.malloc 16, .calloc 3 1, .malloc 8] ↔
      (arenaStep false bumpAllocator).Always OnBoundary (arenaStart 32 bumpHeap)
        [.malloc 16, .calloc 3 1, .malloc 8]) ∧
    (arenaStep false bumpAllocator).Always Aligned (arenaStart 32 bumpHeap)
      [.malloc 16, .calloc 3 1, .malloc 8] := by
  obtain ⟨exact, enough⟩ := arena_aligned_iff bumpAllocator_aligned false 32 bumpHeap
    [.malloc 16, .calloc 3 1, .malloc 8]
  refine ⟨exact, enough ?_ (by decide +kernel)⟩
  simp only [List.forall_mem_cons, ArenaOp.Regular, ArenaOp.request, Option.mem_some_iff, forall_eq']
  decide +kernel

/-- The first request moves the cursor to 9, and the second one is served there. -/
theorem arena_misaligned :
    ¬(arenaStep false bumpAllocator).Always Aligned (arenaStart 32 bumpHeap)
      [.malloc 9, .malloc 8] := by
  rintro ⟨reply, next, stepped, _, reply', next', stepped', holds, _⟩
  cases stepped
  cases stepped'
  exact absurd (holds ⟨33, 8⟩ rfl) (by decide)

end Xstd
