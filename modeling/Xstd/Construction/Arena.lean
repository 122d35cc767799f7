import Xstd.Construction.Alloc
import Xstd.Library.Machine

/-
This file translates arena.h.
-/

namespace Xstd

open Library

/-- The body of `ArenaAllocator` without its parent, which is a parameter here. -/
structure ArenaAllocator where
  arenaSize : SizeT
  arenaList : Addr
  cursor : SizeT
  deriving DecidableEq, Repr

/-- A `struct xstd_arena` is its header, the pointer `next`. -/
def sizeofArena : SizeT := 8

def arenaAllocatorInit (arenaSize : SizeT) : ArenaAllocator := ⟨arenaSize, 0, 0⟩

/-- A sum or a difference that `arena_calloc` computes in `size_t` after its overflow test. -/
inductive SizeOp where
  | add (left right : SizeT)
  | sub (left right : SizeT)
  deriving DecidableEq, Repr

/-- The operation does not wrap. -/
def SizeOp.Exact : SizeOp → Prop
  | .add left right => left.toNat + right.toNat < 2 ^ 64
  | .sub left right => right ≤ left

instance : DecidablePred SizeOp.Exact := fun op =>
  match op with
  | .add left right => inferInstanceAs (Decidable (left.toNat + right.toNat < 2 ^ 64))
  | .sub left right => inferInstanceAs (Decidable (right ≤ left))

/-- An allocation leaves a pointer, the allocator and the heap behind, and the `size_t` sums it took. -/
structure ArenaResult (S : Type) where
  ptr : Addr
  arena : ArenaAllocator
  heap : Heap S
  sums : List SizeOp

variable {S : Type}

/-- All three branches of `arena_calloc` that need a new arena obtain it this way: the parent returns
a zeroed block for the header and `size` bytes, and the block becomes the head of the list. -/
def arenaPush (ndebug : Bool) (parent : Allocator S) (arena : ArenaAllocator) (heap : Heap S)
    (size cursor : SizeT) : Exec (Addr × ArenaAllocator × Heap S) :=
  match allocCalloc ndebug parent heap 1 (size + sizeofArena) with
  | .error fault => .error fault
  | .ok (newArena, heap) =>
      if newArena = 0 then
        .ok (0, arena, heap)
      else
        .ok (newArena, { arena with arenaList := newArena, cursor := cursor },
          { heap with memory := heap.memory.storeWord newArena.toNat arena.arenaList })

/-- The tail of `arena_calloc` moves the cursor of the head of the list. -/
def arenaBump (arena : ArenaAllocator) (heap : Heap S) (allocSize : SizeT) (sums : List SizeOp) :
    ArenaResult S :=
  ⟨arena.arenaList + sizeofArena + arena.cursor,
    { arena with cursor := arena.cursor + allocSize }, heap, sums ++ [.add arena.cursor allocSize]⟩

/-- The branches without a current arena or without room in it share this code. -/
def arenaRefill (ndebug : Bool) (parent : Allocator S) (arena : ArenaAllocator) (heap : Heap S)
    (allocSize : SizeT) (sums : List SizeOp) : Exec (ArenaResult S) :=
  let sums := sums ++ [.add arena.arenaSize sizeofArena]
  match arenaPush ndebug parent arena heap arena.arenaSize 0 with
  | .error fault => .error fault
  | .ok (newArena, arena, heap) =>
      if newArena = 0 then .ok ⟨0, arena, heap, sums⟩
      else .ok (arenaBump arena heap allocSize sums)

def arenaCalloc (ndebug : Bool) (parent : Allocator S) (arena : ArenaAllocator) (heap : Heap S)
    (nmemb size : SizeT) : Exec (ArenaResult S) :=
  if size = 0 then
    -- The overflow test divides by `size`.
    .error .divisionByZero
  else
    let allocSize := nmemb * size
    if allocSize / size ≠ nmemb ∨ allocSize + sizeofArena < allocSize then
      .ok ⟨0, arena, heap, []⟩
    else if allocSize > arena.arenaSize then
      match arenaPush ndebug parent arena heap allocSize arena.arenaSize with
      | .error fault => .error fault
      | .ok (newArena, arena, heap) =>
          let sums : List SizeOp := [.add allocSize sizeofArena]
          if newArena = 0 then .ok ⟨0, arena, heap, sums⟩
          else .ok ⟨newArena + sizeofArena, arena, heap, sums⟩
    else
      let allocSize := if allocSize < sizeofPtr then sizeofPtr else allocSize
      if arena.arenaList = 0 then
        arenaRefill ndebug parent arena heap allocSize []
      else
        let sums : List SizeOp := [.sub arena.arenaSize arena.cursor]
        if arena.arenaSize - arena.cursor < allocSize then
          arenaRefill ndebug parent arena heap allocSize sums
        else
          .ok (arenaBump arena heap allocSize sums)

def arenaMalloc (ndebug : Bool) (parent : Allocator S) (arena : ArenaAllocator) (heap : Heap S)
    (size : SizeT) : Exec (ArenaResult S) :=
  arenaCalloc ndebug parent arena heap 1 size

/-- The old pointer is ignored. -/
def arenaRealloc (ndebug : Bool) (parent : Allocator S) (arena : ArenaAllocator) (heap : Heap S)
    (_ptr : Addr) (size : SizeT) : Exec (ArenaResult S) :=
  arenaMalloc ndebug parent arena heap size

def arenaFree (arena : ArenaAllocator) (heap : Heap S) (_ptr : Addr) : ArenaAllocator × Heap S :=
  (arena, heap)

/-- An arena shares the memory with its parent. -/
def Heap.parent (heap : Heap (ArenaAllocator × S)) : Heap S := ⟨heap.state.2, heap.memory⟩

def ArenaResult.returned (result : ArenaResult S) : Addr × Heap (ArenaAllocator × S) :=
  (result.ptr, ⟨(result.arena, result.heap.state), result.heap.memory⟩)

/-- This is `arena_allocator_vtable`, over a state that includes the one of the parent. -/
def arenaAllocatorVtable (ndebug : Bool) (parent : Allocator S) : Allocator (ArenaAllocator × S) where
  malloc heap size :=
    (arenaMalloc ndebug parent heap.state.1 heap.parent size).map ArenaResult.returned
  free heap ptr :=
    let (arena, after) := arenaFree heap.state.1 heap.parent ptr
    .ok ⟨(arena, after.state), after.memory⟩
  calloc heap nmemb size :=
    (arenaCalloc ndebug parent heap.state.1 heap.parent nmemb size).map ArenaResult.returned
  realloc heap ptr size :=
    (arenaRealloc ndebug parent heap.state.1 heap.parent ptr size).map ArenaResult.returned

/-- A destroy reads the header of an arena and then frees the arena. -/
inductive DestroyEvent where
  | reads (header : Addr)
  | frees (node : Addr)
  deriving DecidableEq, Repr

/-- This is the loop of `arena_alloc_destroy`. -/
def arenaDestroyLoop (parent : Allocator S) :
    ℕ → Addr → Heap S → Exec (List DestroyEvent × Heap S)
  | fuel, node, heap =>
      if node = 0 then
        .ok ([], heap)
      else
        match fuel with
        | 0 => .error .outOfFuel
        | fuel + 1 =>
            let next := heap.memory.loadWord node.toNat
            match allocFree parent heap node with
            | .error fault => .error fault
            | .ok heap =>
                match arenaDestroyLoop parent fuel next heap with
                | .error fault => .error fault
                | .ok (events, heap) => .ok (.reads node :: .frees node :: events, heap)

/-- No list of different addresses is longer than this, so only a cyclic list runs out of fuel. -/
def destroyFuel : ℕ := 2 ^ 64

def arenaAllocDestroy (parent : Allocator S) (arena : ArenaAllocator) (heap : Heap S) :
    Exec (List DestroyEvent × ArenaAllocator × Heap S) :=
  match arenaDestroyLoop parent destroyFuel arena.arenaList heap with
  | .error fault => .error fault
  | .ok (events, heap) => .ok (events, { arena with arenaList := 0 }, heap)

/-- The client calls the arena and writes into the blocks that it received. -/
inductive ArenaOp where
  | malloc (size : SizeT)
  | calloc (nmemb size : SizeT)
  | realloc (ptr : Addr) (size : SizeT)
  | free (ptr : Addr)
  | write (base : ℕ) (bytes : List UInt8)
  | destroy

/-- The session keeps the blocks returned since the last destroy. -/
structure ArenaState (S : Type) where
  arena : ArenaAllocator
  heap : Heap S
  issued : List Region

/-- The reply holds the block of a successful allocation, its `size_t` sums, and the events of a
destroy. -/
structure ArenaReply where
  block : Option Region
  sums : List SizeOp
  events : List DestroyEvent

/-- The client receives a block of the requested size unless the pointer is `NULL`. -/
def ArenaResult.block (result : ArenaResult S) (requested : ℕ) : Option Region :=
  if result.ptr = 0 then none else some ⟨result.ptr.toNat, requested⟩

def ArenaState.issue (state : ArenaState S) (requested : ℕ) (result : ArenaResult S) :
    ArenaReply × ArenaState S :=
  (⟨result.block requested, result.sums, []⟩,
    ⟨result.arena, result.heap, (result.block requested).toList ++ state.issued⟩)

def arenaStep (ndebug : Bool) (parent : Allocator S) : Machine Fault (ArenaState S) ArenaOp ArenaReply :=
  fun state op =>
    match op with
    | .malloc size =>
        (arenaMalloc ndebug parent state.arena state.heap size).map (state.issue size.toNat)
    | .calloc nmemb size =>
        (arenaCalloc ndebug parent state.arena state.heap nmemb size).map
          (state.issue (nmemb.toNat * size.toNat))
    | .realloc ptr size =>
        (arenaRealloc ndebug parent state.arena state.heap ptr size).map (state.issue size.toNat)
    | .free ptr =>
        let (arena, heap) := arenaFree state.arena state.heap ptr
        .ok (⟨none, [], []⟩, ⟨arena, heap, state.issued⟩)
    | .write base bytes =>
        -- A client that leaves its blocks has no defined behaviour.
        if ∃ block ∈ state.issued, Region.Within ⟨base, bytes.length⟩ block then
          .ok (⟨none, [], []⟩,
            { state with heap := { state.heap with memory := state.heap.memory.write base bytes } })
        else
          .error .outOfBounds
    | .destroy =>
        match arenaAllocDestroy parent state.arena state.heap with
        | .error fault => .error fault
        | .ok (events, arena, heap) => .ok (⟨none, [], events⟩, ⟨arena, heap, []⟩)

def arenaStart (arenaSize : SizeT) (heap : Heap S) : ArenaState S :=
  ⟨arenaAllocatorInit arenaSize, heap, []⟩

end Xstd
