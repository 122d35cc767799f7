import Xstd.Construction.Arena
import Xstd.Library.Words

/-
This file proves one equation for each path of `arena_calloc`.
-/

namespace Xstd

open Library

variable {S : Type}

/-- The request and the header of its arena together leave `size_t`. -/
def Refuses (nmemb size : SizeT) : Prop := 2 ^ 64 ≤ nmemb.toNat * size.toNat + 8

instance (nmemb size : SizeT) : Decidable (Refuses nmemb size) :=
  inferInstanceAs (Decidable (_ ≤ _))

/-- Small requests take the room of a pointer. -/
def rounded (allocSize : SizeT) : SizeT := if allocSize < sizeofPtr then sizeofPtr else allocSize

theorem rounded_toNat (allocSize : SizeT) : (rounded allocSize).toNat = max allocSize.toNat 8 := by
  have eight : sizeofPtr.toNat = 8 := rfl
  unfold rounded
  split
  · rename_i less
    rw [UInt64.lt_iff_toNat_lt] at less
    omega
  · rename_i more
    rw [UInt64.lt_iff_toNat_lt] at more
    omega

theorem toNat_add_header {size : SizeT} (small : size.toNat + 8 < 2 ^ 64) :
    (size + sizeofArena).toNat = size.toNat + 8 := toNat_add_of_lt small

/-- The body behind a header that fits does not start at `NULL`. -/
theorem add_header_ne_zero {node : Addr} (fits : node.toNat + 8 < 2 ^ 64) : node + sizeofArena ≠ 0 := by
  apply (toNat_pos_iff _).mp
  rw [toNat_add_header fits]
  omega

/-- The pointer of a carved block does not wrap. -/
theorem toNat_carved {node cursor : SizeT} (fits : node.toNat + 8 + cursor.toNat < 2 ^ 64) :
    (node + sizeofArena + cursor).toNat = node.toNat + 8 + cursor.toNat := by
  have eight : sizeofArena.toNat = 8 := rfl
  rw [UInt64.toNat_add, UInt64.toNat_add, eight]
  omega

theorem header_wraps_iff (size : SizeT) : size + sizeofArena < size ↔ 2 ^ 64 ≤ size.toNat + 8 := by
  have eight : sizeofArena.toNat = 8 := rfl
  have bound := size.toNat_lt
  rw [UInt64.lt_iff_toNat_lt, UInt64.toNat_add, eight]
  omega

/-- The overflow test of the source is exact. -/
theorem refuses_iff (nmemb : SizeT) {size : SizeT} (nonzero : size ≠ 0) :
    (nmemb * size / size ≠ nmemb ∨ nmemb * size + sizeofArena < nmemb * size) ↔
      Refuses nmemb size := by
  have positive := (toNat_pos_iff size).mpr nonzero
  unfold Refuses
  rw [header_wraps_iff]
  rcases Nat.lt_or_ge (nmemb.toNat * size.toNat) (2 ^ 64) with small | large
  · have exact := toNat_mul_of_lt small
    have quotient : nmemb * size / size = nmemb := by
      rw [← UInt64.toNat_inj, UInt64.toNat_div, exact, Nat.mul_div_cancel _ positive]
    rw [exact]
    simp [quotient]
  · have wrapped : nmemb * size / size ≠ nmemb := by
      intro same
      have below : nmemb.toNat * size.toNat ≤ (nmemb * size).toNat := by
        calc nmemb.toNat * size.toNat
            = (nmemb * size / size).toNat * size.toNat := by rw [same]
          _ = (nmemb * size).toNat / size.toNat * size.toNat := by rw [UInt64.toNat_div]
          _ ≤ (nmemb * size).toNat := Nat.div_mul_le_self _ _
      have bound := (nmemb * size).toNat_lt
      omega
    constructor
    · intro _
      omega
    · intro _
      exact Or.inl wrapped

theorem toNat_mul_of_not_refuses {nmemb size : SizeT} (accepted : ¬Refuses nmemb size) :
    (nmemb * size).toNat = nmemb.toNat * size.toNat := by
  apply toNat_mul_of_lt
  unfold Refuses at accepted
  omega

theorem accepted_lt {nmemb size : SizeT} (accepted : ¬Refuses nmemb size) :
    (nmemb * size).toNat + 8 < 2 ^ 64 := by
  rw [toNat_mul_of_not_refuses accepted]
  unfold Refuses at accepted
  omega

/-- The head of the list has room for the request. -/
def ArenaAllocator.HasRoom (arena : ArenaAllocator) (allocSize : SizeT) : Prop :=
  arena.arenaList ≠ 0 ∧ rounded allocSize ≤ arena.arenaSize - arena.cursor

/-- The differences that precede a new arena. -/
def ArenaAllocator.checks (arena : ArenaAllocator) : List SizeOp :=
  if arena.arenaList = 0 then [] else [.sub arena.arenaSize arena.cursor]

theorem map_ok_inv {A B : Type} {computation : Exec A} {function : A → B} {value : B}
    (called : computation.map function = .ok value) :
    ∃ result, computation = .ok result ∧ function result = value := by
  cases computation with
  | error fault => cases called
  | ok result => exact ⟨result, rfl, Except.ok.inj called⟩

/-- A push that returns hands over what the parent returned. -/
theorem arenaPush_inv {ndebug : Bool} {parent : Allocator S} {arena arena' : ArenaAllocator}
    {heap heap' : Heap S} {size cursor : SizeT} {node : Addr}
    (pushed : arenaPush ndebug parent arena heap size cursor = .ok (node, arena', heap')) :
    ∃ after, parent.calloc heap 1 (size + sizeofArena) = .ok (node, after) ∧
      (node = 0 ∧ ndebug = true ∧ arena' = arena ∧ heap' = after ∨
        node ≠ 0 ∧ arena' = { arena with arenaList := node, cursor := cursor } ∧
          heap' = { after with memory := after.memory.storeWord node.toNat arena.arenaList }) := by
  unfold arenaPush allocCalloc at pushed
  cases called : parent.calloc heap 1 (size + sizeofArena) with
  | error fault =>
      rw [called] at pushed
      cases pushed
  | ok result =>
      obtain ⟨ptr, after⟩ := result
      rw [called] at pushed
      simp only [Except.bind, assertNonNull] at pushed
      rcases Classical.em (ptr = 0) with null | found
      · subst null
        cases ndebug with
        | false => simp at pushed
        | true =>
            simp at pushed
            obtain ⟨rfl, rfl, rfl⟩ := pushed
            exact ⟨_, rfl, Or.inl ⟨rfl, rfl, rfl, rfl⟩⟩
      · simp only [found, false_and, if_false] at pushed
        cases pushed
        exact ⟨_, rfl, Or.inr ⟨found, rfl, rfl⟩⟩

/-- The block of a dedicated arena starts behind its header. -/
def ArenaResult.ofPush (allocSize : SizeT) (pushed : Addr × ArenaAllocator × Heap S) : ArenaResult S :=
  ⟨if pushed.1 = 0 then 0 else pushed.1 + sizeofArena, pushed.2.1, pushed.2.2,
    [.add allocSize sizeofArena]⟩

theorem ArenaResult.ofPush_null (allocSize : SizeT) (arena : ArenaAllocator) (heap : Heap S) :
    ofPush allocSize (0, arena, heap) = ⟨0, arena, heap, [.add allocSize sizeofArena]⟩ := rfl

theorem ArenaResult.ofPush_found (allocSize : SizeT) {node : Addr} (found : node ≠ 0)
    (arena : ArenaAllocator) (heap : Heap S) :
    ofPush allocSize (node, arena, heap) =
      ⟨node + sizeofArena, arena, heap, [.add allocSize sizeofArena]⟩ := by
  simp only [ofPush, if_neg found]

theorem ArenaResult.mem_block {result : ArenaResult S} {requested : ℕ} {block : Region} :
    block ∈ result.block requested ↔ result.ptr ≠ 0 ∧ block = ⟨result.ptr.toNat, requested⟩ := by
  unfold ArenaResult.block
  by_cases null : result.ptr = 0
  · simp [null]
  · simp [null, eq_comm]

theorem ArenaResult.null_of_block {result : ArenaResult S} {requested : ℕ}
    (none : result.block requested = none) : result.ptr = 0 := by
  unfold ArenaResult.block at none
  split at none
  · assumption
  · cases none

theorem ArenaState.issue_some (state : ArenaState S) (result : ArenaResult S)
    (found : result.ptr ≠ 0) (requested : ℕ) :
    state.issue requested result =
      (⟨some ⟨result.ptr.toNat, requested⟩, result.sums, []⟩,
        ⟨result.arena, result.heap, ⟨result.ptr.toNat, requested⟩ :: state.issued⟩) := by
  simp [issue, ArenaResult.block, found]

theorem ArenaState.issue_none (state : ArenaState S) {result : ArenaResult S}
    (null : result.ptr = 0) (requested : ℕ) :
    state.issue requested result =
      (⟨none, result.sums, []⟩, ⟨result.arena, result.heap, state.issued⟩) := by
  simp [issue, ArenaResult.block, null]

variable (ndebug : Bool) (parent : Allocator S) (arena : ArenaAllocator) (heap : Heap S)
  {nmemb size : SizeT}

/-- A call without a size divides by zero. -/
theorem nonzero_of_returned {ndebug : Bool} {parent : Allocator S} {arena : ArenaAllocator}
    {heap : Heap S} {result : ArenaResult S}
    (called : arenaCalloc ndebug parent arena heap nmemb size = .ok result) : size ≠ 0 := by
  intro zero
  rw [arenaCalloc, if_pos zero] at called
  cases called

theorem arenaCalloc_refused (nonzero : size ≠ 0) (refused : Refuses nmemb size) :
    arenaCalloc ndebug parent arena heap nmemb size = .ok ⟨0, arena, heap, []⟩ := by
  unfold arenaCalloc
  rw [if_neg nonzero]
  simp only
  rw [if_pos ((refuses_iff nmemb nonzero).mpr refused)]

theorem arenaCalloc_large (nonzero : size ≠ 0) (accepted : ¬Refuses nmemb size)
    (large : nmemb * size > arena.arenaSize) :
    arenaCalloc ndebug parent arena heap nmemb size =
      (arenaPush ndebug parent arena heap (nmemb * size) arena.arenaSize).map
        (ArenaResult.ofPush (nmemb * size)) := by
  unfold arenaCalloc
  rw [if_neg nonzero]
  simp only
  rw [if_neg (mt (refuses_iff nmemb nonzero).mp accepted), if_pos large]
  cases arenaPush ndebug parent arena heap (nmemb * size) arena.arenaSize with
  | error fault => rfl
  | ok pushed =>
      simp only [Except.map, ArenaResult.ofPush]
      split <;> rfl

theorem arenaCalloc_refill (nonzero : size ≠ 0) (accepted : ¬Refuses nmemb size)
    (small : nmemb * size ≤ arena.arenaSize) (full : ¬arena.HasRoom (nmemb * size)) :
    arenaCalloc ndebug parent arena heap nmemb size =
      arenaRefill ndebug parent arena heap (rounded (nmemb * size)) arena.checks := by
  unfold arenaCalloc ArenaAllocator.checks
  rw [if_neg nonzero]
  simp only
  rw [if_neg (mt (refuses_iff nmemb nonzero).mp accepted), if_neg (UInt64.not_lt.mpr small)]
  split
  · rfl
  · rename_i listed
    rw [if_pos]
    · rfl
    · exact UInt64.not_le.mp fun enough => full ⟨listed, enough⟩

theorem arenaCalloc_bump (nonzero : size ≠ 0) (accepted : ¬Refuses nmemb size)
    (small : nmemb * size ≤ arena.arenaSize) (room : arena.HasRoom (nmemb * size)) :
    arenaCalloc ndebug parent arena heap nmemb size =
      .ok (arenaBump arena heap (rounded (nmemb * size)) arena.checks) := by
  unfold arenaCalloc ArenaAllocator.checks
  rw [if_neg nonzero]
  simp only
  rw [if_neg (mt (refuses_iff nmemb nonzero).mp accepted), if_neg (UInt64.not_lt.mpr small),
    if_neg room.1, if_neg room.1]
  change (if arena.arenaSize - arena.cursor < rounded (nmemb * size) then _ else _) = _
  rw [if_neg (UInt64.not_lt.mpr room.2)]
  rfl

/-- A call asked the parent for one block. It failed with the parent and changed nothing else, or the
block became the head of the list and starts with the returned one. -/
structure ParentCall (ndebug : Bool) (parent : Allocator S) (arena : ArenaAllocator) (heap : Heap S)
    (result : ArenaResult S) (asked : SizeT) (ptr : Addr) (after : Heap S) : Prop where
  called : parent.calloc heap 1 asked = .ok (ptr, after)
  null : ptr = 0 → ndebug = true ∧ result.ptr = 0 ∧ result.arena = arena ∧ result.heap = after
  found : ptr ≠ 0 → result.ptr = ptr + sizeofArena ∧ result.arena.arenaList = ptr ∧
    result.heap = { after with memory := after.memory.storeWord ptr.toNat arena.arenaList }

theorem arenaPush_parent {ndebug : Bool} {parent : Allocator S} {arena arena' : ArenaAllocator}
    {heap heap' : Heap S} {size cursor : SizeT} {node : Addr}
    (pushed : arenaPush ndebug parent arena heap size cursor = .ok (node, arena', heap'))
    (result : ArenaResult S) (null : node = 0 → result.ptr = 0 ∧ result.arena = arena')
    (found : node ≠ 0 → result.ptr = node + sizeofArena ∧ result.arena.arenaList = arena'.arenaList)
    (same : result.heap = heap') :
    ∃ after, ParentCall ndebug parent arena heap result (size + sizeofArena) node after := by
  obtain ⟨after, asked, outcome⟩ := arenaPush_inv pushed
  refine ⟨after, asked, ?_, ?_⟩
  · intro missing
    rcases outcome with ⟨_, release, rfl, rfl⟩ | ⟨listed, _, _⟩
    · exact ⟨release, (null missing).1, (null missing).2, same⟩
    · exact absurd missing listed
  · intro listed
    rcases outcome with ⟨missing, _⟩ | ⟨_, rfl, rfl⟩
    · exact absurd missing listed
    · exact ⟨(found listed).1, (found listed).2, same⟩

theorem arenaRefill_parent {ndebug : Bool} {parent : Allocator S} {arena : ArenaAllocator} {heap : Heap S}
    {allocSize : SizeT} {sums : List SizeOp} {result : ArenaResult S}
    (called : arenaRefill ndebug parent arena heap allocSize sums = .ok result) :
    ∃ ptr after, ParentCall ndebug parent arena heap result (arena.arenaSize + sizeofArena) ptr after := by
  unfold arenaRefill at called
  simp only at called
  cases pushed : arenaPush ndebug parent arena heap arena.arenaSize 0 with
  | error fault =>
      rw [pushed] at called
      cases called
  | ok granted =>
      obtain ⟨node, arena', heap'⟩ := granted
      rw [pushed] at called
      simp only at called
      refine ⟨node, ?_⟩
      split at called
      · rename_i missing
        cases called
        exact arenaPush_parent pushed _ (fun _ => ⟨rfl, rfl⟩) (fun found => absurd missing found) rfl
      · rename_i listed
        cases called
        apply arenaPush_parent pushed _ (fun missing => absurd missing listed) _ rfl
        obtain ⟨_, _, ⟨missing, _⟩ | ⟨_, rfl, _⟩⟩ := arenaPush_inv pushed
        · exact absurd missing listed
        · exact fun _ => ⟨UInt64.add_zero _, rfl⟩

/-- The size of an arena of its own, or of the fixed size. -/
def Asks (arena : ArenaAllocator) (nmemb size asked : SizeT) : Prop :=
  asked = arena.arenaSize + sizeofArena ∨
    asked = nmemb * size + sizeofArena ∧ ¬Refuses nmemb size ∧ arena.arenaSize < nmemb * size

/-- The call was refused, or the head of the list had room for it. -/
def Unasked (arena : ArenaAllocator) (nmemb size : SizeT) (result : ArenaResult S) : Prop :=
  Refuses nmemb size ∧ result.ptr = 0 ∧ result.arena = arena ∨
    arena.HasRoom (nmemb * size) ∧ result.ptr = arena.arenaList + sizeofArena + arena.cursor ∧
      result.arena.arenaList = arena.arenaList

theorem Unasked.list {arena : ArenaAllocator} {result : ArenaResult S}
    (unasked : Unasked arena nmemb size result) : result.arena.arenaList = arena.arenaList := by
  rcases unasked with ⟨_, _, same⟩ | ⟨_, _, same⟩
  · rw [same]
  · exact same

/-- A call leaves the parent alone, or it asks for one arena. -/
theorem arenaCalloc_parent {ndebug : Bool} {parent : Allocator S} {arena : ArenaAllocator} {heap : Heap S}
    {result : ArenaResult S} (called : arenaCalloc ndebug parent arena heap nmemb size = .ok result) :
    (Unasked arena nmemb size result ∧ result.heap = heap) ∨
      ∃ asked ptr after, ParentCall ndebug parent arena heap result asked ptr after ∧
        Asks arena nmemb size asked := by
  have nonzero := nonzero_of_returned called
  rcases Classical.em (Refuses nmemb size) with refused | accepted
  · rw [arenaCalloc_refused _ _ _ _ nonzero refused] at called
    cases called
    exact Or.inl ⟨Or.inl ⟨refused, rfl, rfl⟩, rfl⟩
  rcases UInt64.lt_or_le arena.arenaSize (nmemb * size) with large | small
  · rw [arenaCalloc_large _ _ _ _ nonzero accepted large] at called
    obtain ⟨⟨node, arena', heap'⟩, pushed, rfl⟩ := map_ok_inv called
    obtain ⟨after, call⟩ := arenaPush_parent pushed
      (ArenaResult.ofPush (nmemb * size) (node, arena', heap'))
      (fun missing => ⟨if_pos missing, rfl⟩) (fun listed => ⟨if_neg listed, rfl⟩) rfl
    exact Or.inr ⟨_, node, after, call, Or.inr ⟨rfl, accepted, large⟩⟩
  rcases Classical.em (arena.HasRoom (nmemb * size)) with room | full
  · rw [arenaCalloc_bump _ _ _ _ nonzero accepted small room] at called
    cases called
    exact Or.inl ⟨Or.inr ⟨room, rfl, rfl⟩, rfl⟩
  · rw [arenaCalloc_refill _ _ _ _ nonzero accepted small full] at called
    obtain ⟨ptr, after, call⟩ := arenaRefill_parent called
    exact Or.inr ⟨_, ptr, after, call, Or.inl rfl⟩

/-- An allocating method asks for `nmemb` elements of `size` bytes. -/
def ArenaOp.request : ArenaOp → Option (SizeT × SizeT)
  | .malloc size => some (1, size)
  | .calloc nmemb size => some (nmemb, size)
  | .realloc _ size => some (1, size)
  | .free _ | .write _ _ | .destroy => none

/-- The size holds a pointer, and the size of an arena does not wrap. -/
def SoundSize (arenaSize : SizeT) : Prop :=
  sizeofPtr ≤ arenaSize ∧ arenaSize.toNat + sizeofArena.toNat < 2 ^ 64

instance SoundSize.decidable (arenaSize : SizeT) : Decidable (SoundSize arenaSize) :=
  inferInstanceAs (Decidable (_ ∧ _))

/-- The operation requests no element or one that is refused or larger than an arena. -/
def ArenaOp.Dedicated (arenaSize : SizeT) (op : ArenaOp) : Prop :=
  ∀ request ∈ op.request, Refuses request.1 request.2 ∨
    arenaSize.toNat < request.1.toNat * request.2.toNat

theorem dedicated_of_no_request (arenaSize : SizeT) {op : ArenaOp} (none : op.request = none) :
    op.Dedicated arenaSize := by
  intro request requests
  rw [none] at requests
  cases requests

/-- Each allocating method is a call of `arena_calloc`. -/
theorem arenaStep_request (state : ArenaState S) {op : ArenaOp}
    (requests : op.request = some (nmemb, size)) :
    arenaStep ndebug parent state op =
      (arenaCalloc ndebug parent state.arena state.heap nmemb size).map
        (state.issue (nmemb.toNat * size.toNat)) := by
  have one : (1 : SizeT).toNat * size.toNat = size.toNat := Nat.one_mul _
  cases op with
  | malloc asked =>
      cases requests
      rw [one]
      rfl
  | calloc count asked =>
      cases requests
      rfl
  | realloc ptr asked =>
      cases requests
      rw [one]
      rfl
  | free ptr => cases requests
  | write base bytes => cases requests
  | destroy => cases requests

/-- An operation without a request returns no block, and it keeps the list or empties it. -/
structure Idle (before : ArenaState S) (reply : ArenaReply) (after : ArenaState S) : Prop where
  block : reply.block = none
  sums : reply.sums = []
  size : after.arena.arenaSize = before.arena.arenaSize
  cursor : after.arena.cursor = before.arena.cursor
  list : after.arena.arenaList = before.arena.arenaList ∧ after.heap.state = before.heap.state ∨
    after.arena.arenaList = 0

theorem arenaStep_idle {ndebug : Bool} {parent : Allocator S} {state next : ArenaState S} {op : ArenaOp}
    {reply : ArenaReply} (idle : op.request = none)
    (stepped : arenaStep ndebug parent state op = .ok (reply, next)) : Idle state reply next := by
  cases op with
  | malloc size => cases idle
  | calloc nmemb size => cases idle
  | realloc ptr size => cases idle
  | free ptr =>
      cases stepped
      exact ⟨rfl, rfl, rfl, rfl, Or.inl ⟨rfl, rfl⟩⟩
  | write base bytes =>
      simp only [arenaStep] at stepped
      split at stepped
      · cases stepped
        exact ⟨rfl, rfl, rfl, rfl, Or.inl ⟨rfl, rfl⟩⟩
      · cases stepped
  | destroy =>
      simp only [arenaStep, arenaAllocDestroy] at stepped
      split at stepped
      · cases stepped
      · rename_i destroyed
        split at destroyed
        · cases destroyed
        · cases destroyed
          cases stepped
          exact ⟨rfl, rfl, rfl, rfl, Or.inr rfl⟩

end Xstd
