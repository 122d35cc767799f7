import Xstd.Proof.Alloc
import Xstd.Proof.Arena.Calloc
import Xstd.Proof.BumpAllocator

/-
This file proves for which arena sizes the blocks stay inside the memory of the parent.
-/

namespace Xstd

open Library

variable {S : Type} {parent : Allocator S} {ndebug : Bool} {arenaSize : SizeT}

/-- The blocks of the parent end inside the address space, and in a build without assertions the parent
never returns `NULL`. -/
structure Provides (ndebug : Bool) (parent : Allocator S) : Prop where
  fits : ∀ heap size ptr after,
    parent.calloc heap 1 size = .ok (ptr, after) → ptr.toNat + size.toNat ≤ 2 ^ 64
  grants : ndebug = true → ∀ heap size after, parent.calloc heap 1 size ≠ .ok (0, after)

/-- A returned block lies in the body of the held block at the head of the list, the cursor stays in the
arena, and no `size_t` sum of the call wraps. -/
structure InBounds (_before : ArenaState (Audited S)) (_op : ArenaOp) (reply : ArenaReply)
    (after : ArenaState (Audited S)) : Prop where
  inside : ∀ block ∈ reply.block, ∃ held ∈ after.heap.state.held,
    held.base = after.arena.arenaList.toNat ∧
      block.Within ⟨held.base + sizeofArena.toNat, held.size - sizeofArena.toNat⟩
  cursor : after.arena.cursor ≤ after.arena.arenaSize
  exact : ∀ sum ∈ reply.sums, sum.Exact

def ArenaOp.Nonempty (op : ArenaOp) : Prop :=
  ∀ request ∈ op.request, request.1 ≠ 0 ∧ request.2 ≠ 0

/-- The client still holds the head of the list, and a whole arena fits into it. -/
structure Bounded (arenaSize : SizeT) (state : ArenaState (Audited S)) : Prop where
  size : state.arena.arenaSize = arenaSize
  cursor : state.arena.cursor ≤ arenaSize
  head : state.arena.arenaList ≠ 0 → ∃ held ∈ state.heap.state.held,
    held.base = state.arena.arenaList.toNat ∧ arenaSize.toNat + 8 ≤ held.size ∧
      held.base + held.size ≤ 2 ^ 64

/-- A push that returns has obtained a block. -/
theorem arenaPush_held (provides : Provides ndebug parent)
    {arena arena' : ArenaAllocator} {heap heap' : Heap (Audited S)} {size cursor : SizeT} {node : Addr}
    (pushed : arenaPush ndebug (audited parent) arena heap size cursor = .ok (node, arena', heap')) :
    node ≠ 0 ∧ arena' = { arena with arenaList := node, cursor := cursor } ∧
      (⟨node.toNat, (size + sizeofArena).toNat⟩ : Region) ∈ heap'.state.held ∧
      node.toNat + (size + sizeofArena).toNat ≤ 2 ^ 64 := by
  obtain ⟨granted, called, outcome⟩ := arenaPush_inv pushed
  obtain ⟨⟨ptr, after⟩, returned, recorded⟩ := map_ok_inv called
  cases recorded
  rcases outcome with ⟨rfl, released, _⟩ | ⟨found, same, final⟩
  · exact absurd returned (provides.grants released heap.unaudited _ after)
  · have one : (1 : SizeT).toNat * (size + sizeofArena).toNat = (size + sizeofArena).toNat :=
      Nat.one_mul _
    refine ⟨found, same, ?_, provides.fits _ _ _ _ returned⟩
    subst final
    change _ ∈ (⟨after.state, heap.state.calls ++ [_]⟩ : Audited S).held
    rw [Audited.held_append, AllocCall.apply, grant, if_neg found, one]
    exact List.mem_cons_self

/-- A carved block lies in the body of the head. -/
theorem arenaBump_bounds (op : ArenaOp) (before : ArenaState (Audited S))
    {state : ArenaState (Audited S)} (bounded : Bounded arenaSize state)
    (listed : state.arena.arenaList ≠ 0) {taken : SizeT} (positive : 0 < taken.toNat)
    (enough : state.arena.cursor.toNat + taken.toNat ≤ arenaSize.toNat) {requested : ℕ}
    (fits : requested ≤ taken.toNat) {sums : List SizeOp}
    (exact : ∀ sum ∈ sums, sum.Exact) :
    let issued := state.issue requested (arenaBump state.arena state.heap taken sums)
    InBounds before op issued.1 issued.2 ∧ Bounded arenaSize issued.2 := by
  obtain ⟨held, member, base, large, below⟩ := bounded.head listed
  have bound := arenaSize.toNat_lt
  have eight : sizeofArena.toNat = 8 := rfl
  have total : (state.arena.cursor + taken).toNat = state.arena.cursor.toNat + taken.toNat := by
    rw [UInt64.toNat_add]
    omega
  have order : state.arena.cursor + taken ≤ arenaSize := by
    rw [UInt64.le_iff_toNat_le, total]
    exact enough
  have pointer : (state.arena.arenaList + sizeofArena + state.arena.cursor).toNat =
      state.arena.arenaList.toNat + 8 + state.arena.cursor.toNat := by
    apply toNat_carved
    omega
  intro issued
  constructor
  · constructor
    · intro block found
      refine ⟨held, member, base, ?_⟩
      obtain ⟨_, rfl⟩ := ArenaResult.mem_block.mp found
      simp only [Region.Within, arenaBump, pointer, eight]
      omega
    · change state.arena.cursor + taken ≤ state.arena.arenaSize
      rw [bounded.size]
      exact order
    · intro sum appended
      rcases List.mem_append.mp appended with earlier | last
      · exact exact sum earlier
      · rw [List.mem_singleton.mp last]
        change state.arena.cursor.toNat + taken.toNat < 2 ^ 64
        omega
  · exact ⟨bounded.size, order, bounded.head⟩

variable {state : ArenaState (Audited S)} {op : ArenaOp} {nmemb size taken : SizeT} {requested : ℕ}
  {result : ArenaResult (Audited S)} {sums : List SizeOp}

/-- A call that allocates nothing. -/
theorem bounds_idle (bounded : Bounded arenaSize state) {before : ArenaState (Audited S)} :
    InBounds before op ⟨none, [], []⟩ state where
  inside := by simp
  cursor := by
    rw [bounded.size]
    exact bounded.cursor
  exact := by simp

/-- A block of the parent for one request has the request as its body. -/
theorem dedicated_bounds (op : ArenaOp) (provides : Provides ndebug parent)
    (bounded : Bounded arenaSize state)
    (small : size.toNat + 8 < 2 ^ 64) (large : arenaSize.toNat < size.toNat)
    (called : (arenaPush ndebug (audited parent) state.arena state.heap size
      state.arena.arenaSize).map (ArenaResult.ofPush size) = .ok result) :
    InBounds state op (state.issue size.toNat result).1 (state.issue size.toNat result).2 ∧
      Bounded arenaSize (state.issue size.toNat result).2 := by
  have exact := toNat_add_header small
  have eight : sizeofArena.toNat = 8 := rfl
  obtain ⟨⟨node, arena, heap⟩, pushed, rfl⟩ := map_ok_inv called
  obtain ⟨found, rfl, held, fits⟩ := arenaPush_held provides pushed
  rw [exact] at held fits
  rw [ArenaResult.ofPush_found _ found]
  have pointer : (node + sizeofArena).toNat = node.toNat + 8 := by
    apply toNat_add_header
    omega
  constructor
  · constructor
    · intro block returned
      obtain ⟨_, rfl⟩ := ArenaResult.mem_block.mp returned
      refine ⟨_, held, rfl, ?_⟩
      simp only [Region.Within, pointer, eight]
      omega
    · exact UInt64.le_rfl
    · intro sum member
      rw [List.mem_singleton.mp member]
      change size.toNat + sizeofArena.toNat < 2 ^ 64
      omega
  · constructor
    · exact bounded.size
    · change state.arena.arenaSize ≤ arenaSize
      rw [bounded.size]
      exact UInt64.le_rfl
    · intro _
      refine ⟨_, held, rfl, ?_, fits⟩
      change arenaSize.toNat + 8 ≤ size.toNat + 8
      omega

theorem checks_exact (bounded : Bounded arenaSize state) :
    ∀ sum ∈ state.arena.checks, sum.Exact := by
  intro sum member
  unfold ArenaAllocator.checks at member
  split at member
  · cases member
  · rw [List.mem_singleton.mp member]
    change state.arena.cursor ≤ state.arena.arenaSize
    rw [bounded.size]
    exact bounded.cursor

/-- A refill pushes an arena of the fixed size and then moves the cursor from its start. -/
theorem arenaRefill_pushed
    (called : arenaRefill ndebug (audited parent) state.arena state.heap taken sums = .ok result)
    (provides : Provides ndebug parent) :
    ∃ node heap, node ≠ 0 ∧
      (⟨node.toNat, (state.arena.arenaSize + sizeofArena).toNat⟩ : Region) ∈ heap.state.held ∧
      node.toNat + (state.arena.arenaSize + sizeofArena).toNat ≤ 2 ^ 64 ∧
      result = arenaBump { state.arena with arenaList := node, cursor := 0 } heap taken
        (sums ++ [.add state.arena.arenaSize sizeofArena]) := by
  unfold arenaRefill at called
  simp only at called
  cases pushed : arenaPush ndebug (audited parent) state.arena state.heap state.arena.arenaSize 0 with
  | error fault =>
      rw [pushed] at called
      cases called
  | ok granted =>
      obtain ⟨node, arena, heap⟩ := granted
      obtain ⟨found, rfl, held, fits⟩ := arenaPush_held provides pushed
      rw [pushed] at called
      simp only [if_neg found] at called
      cases called
      exact ⟨node, heap, found, held, fits, rfl⟩

/-- A refill of a sound size serves a request of at most that size. -/
theorem refill_bounds (op : ArenaOp) (provides : Provides ndebug parent)
    (bounded : Bounded arenaSize state)
    (sound : SoundSize arenaSize) (positive : 0 < taken.toNat) (enough : taken.toNat ≤ arenaSize.toNat)
    (fits : requested ≤ taken.toNat) (exact : ∀ sum ∈ sums, sum.Exact)
    (called : arenaRefill ndebug (audited parent) state.arena state.heap taken sums = .ok result) :
    InBounds state op (state.issue requested result).1 (state.issue requested result).2 ∧
      Bounded arenaSize (state.issue requested result).2 := by
  obtain ⟨node, heap, found, held, below, rfl⟩ := arenaRefill_pushed called provides
  rw [bounded.size, toNat_add_header sound.2] at held below
  let pushed : ArenaState (Audited S) :=
    ⟨{ state.arena with arenaList := node, cursor := 0 }, heap, state.issued⟩
  have fresh : Bounded arenaSize pushed :=
    ⟨bounded.size, UInt64.zero_le, fun _ => ⟨_, held, rfl, Nat.le_refl _, below⟩⟩
  have begun : pushed.arena.cursor.toNat + taken.toNat ≤ arenaSize.toNat := by
    change 0 + taken.toNat ≤ arenaSize.toNat
    omega
  apply arenaBump_bounds op state fresh found positive begun fits
  intro sum member
  rcases List.mem_append.mp member with earlier | last
  · exact exact sum earlier
  · rw [List.mem_singleton.mp last, bounded.size]
    exact sound.2

/-- A refill of an unsound size moves the cursor out of the arena, or the size of the arena wraps. -/
theorem refill_breaks (op : ArenaOp) (requested : ℕ) (provides : Provides ndebug parent)
    (bounded : Bounded arenaSize state)
    (unsound : ¬SoundSize arenaSize) (eight : taken.toNat = max size.toNat 8)
    (called : arenaRefill ndebug (audited parent) state.arena state.heap taken sums = .ok result) :
    ¬InBounds state op (state.issue requested result).1 (state.issue requested result).2 := by
  obtain ⟨node, heap, _, _, _, rfl⟩ := arenaRefill_pushed called provides
  intro holds
  have cursor : (0 : SizeT) + taken ≤ state.arena.arenaSize := holds.cursor
  have header : (SizeOp.add state.arena.arenaSize sizeofArena).Exact := by
    apply holds.exact
    simp [ArenaState.issue, arenaBump]
  rw [bounded.size] at cursor header
  rw [UInt64.zero_add] at cursor
  apply unsound
  refine ⟨?_, header⟩
  rw [UInt64.le_iff_toNat_le] at cursor ⊢
  change 8 ≤ arenaSize.toNat
  omega

/-- An arena with room has a sound size. -/
theorem sound_of_hasRoom (bounded : Bounded arenaSize state) (room : state.arena.HasRoom size) :
    SoundSize arenaSize := by
  obtain ⟨held, _, base, large, below⟩ := bounded.head room.1
  have positive := (toNat_pos_iff _).mpr room.1
  have eight : sizeofArena.toNat = 8 := rfl
  have enough := UInt64.le_iff_toNat_le.mp room.2
  rw [bounded.size, UInt64.toNat_sub_of_le _ _ bounded.cursor, rounded_toNat] at enough
  constructor
  · rw [UInt64.le_iff_toNat_le]
    change 8 ≤ arenaSize.toNat
    omega
  · omega

/-- A request stays in bounds exactly when the size is sound or the request is refused
or larger than an arena. -/
theorem arenaCalloc_bounds (op : ArenaOp) (provides : Provides ndebug parent)
    (bounded : Bounded arenaSize state)
    (called : arenaCalloc ndebug (audited parent) state.arena state.heap nmemb size = .ok result) :
    let issued := state.issue (nmemb.toNat * size.toNat) result
    let good := SoundSize arenaSize ∨ Refuses nmemb size ∨
      arenaSize.toNat < nmemb.toNat * size.toNat
    (InBounds state op issued.1 issued.2 ↔ good) ∧ (good → Bounded arenaSize issued.2) := by
  intro issued good
  have nonzero := nonzero_of_returned called
  rcases Classical.em (Refuses nmemb size) with refused | accepted
  · rw [arenaCalloc_refused _ _ _ _ nonzero refused] at called
    cases called
    have same : issued = (⟨none, [], []⟩, state) := ArenaState.issue_none state rfl _
    rw [same]
    exact ⟨iff_of_true (bounds_idle bounded) (Or.inr (Or.inl refused)), fun _ => bounded⟩
  have total := toNat_mul_of_not_refuses accepted
  have small := accepted_lt accepted
  rcases UInt64.lt_or_le state.arena.arenaSize (nmemb * size) with large | fits
  · rw [arenaCalloc_large _ _ _ _ nonzero accepted large] at called
    rw [bounded.size, UInt64.lt_iff_toNat_lt] at large
    have bounds := dedicated_bounds op provides bounded small large called
    rw [total] at bounds large
    exact ⟨iff_of_true bounds.1 (Or.inr (Or.inr large)), fun _ => bounds.2⟩
  have below := UInt64.le_iff_toNat_le.mp fits
  have round := rounded_toNat (nmemb * size)
  rw [bounded.size] at below
  have positive : 0 < (rounded (nmemb * size)).toNat := by omega
  have requested : nmemb.toNat * size.toNat ≤ (rounded (nmemb * size)).toNat := by omega
  have goodIff : good ↔ SoundSize arenaSize := by
    constructor
    · rintro (sound | refused | large)
      · exact sound
      · exact absurd refused accepted
      · omega
    · exact Or.inl
  rw [goodIff]
  rcases Classical.em (state.arena.HasRoom (nmemb * size)) with room | full
  · rw [arenaCalloc_bump _ _ _ _ nonzero accepted fits room] at called
    cases called
    have enough := UInt64.le_iff_toNat_le.mp room.2
    have order := UInt64.le_iff_toNat_le.mp bounded.cursor
    rw [bounded.size, UInt64.toNat_sub_of_le _ _ bounded.cursor] at enough
    have bounds := arenaBump_bounds op state bounded room.1 positive (by omega)
      requested (checks_exact bounded)
    exact ⟨iff_of_true bounds.1 (sound_of_hasRoom bounded room), fun _ => bounds.2⟩
  · rw [arenaCalloc_refill _ _ _ _ nonzero accepted fits full] at called
    rcases Classical.em (SoundSize arenaSize) with sound | unsound
    · have eight := UInt64.le_iff_toNat_le.mp sound.1
      change 8 ≤ arenaSize.toNat at eight
      have bounds := refill_bounds op provides bounded sound positive (by omega) requested
        (checks_exact bounded) called
      exact ⟨iff_of_true bounds.1 sound, fun _ => bounds.2⟩
    · have broken := refill_breaks op (nmemb.toNat * size.toNat) provides bounded unsound
        round called
      exact ⟨iff_of_false broken unsound, fun sound => absurd sound unsound⟩

/-- One operation stays in bounds exactly when the size is sound or the request needs no arena of the
fixed size. -/
theorem arenaStep_bounds (provides : Provides ndebug parent)
    (bounded : Bounded arenaSize state)
    {reply : ArenaReply} {next : ArenaState (Audited S)}
    (stepped : arenaStep ndebug (audited parent) state op = .ok (reply, next)) :
    (InBounds state op reply next ↔ SoundSize arenaSize ∨ op.Dedicated arenaSize) ∧
      (SoundSize arenaSize ∨ op.Dedicated arenaSize → Bounded arenaSize next) := by
  cases requests : op.request with
  | some request =>
      obtain ⟨nmemb, size⟩ := request
      rw [arenaStep_request ndebug _ state requests] at stepped
      obtain ⟨result, called, issued⟩ := map_ok_inv stepped
      have bounds := arenaCalloc_bounds op provides bounded called
      rw [issued] at bounds
      have dedicated : op.Dedicated arenaSize ↔ Refuses nmemb size ∨
          arenaSize.toNat < nmemb.toNat * size.toNat := by
        constructor
        · exact fun dedicated => dedicated _ requests
        · intro large request same
          rw [requests] at same
          cases same
          exact large
      rw [dedicated]
      exact bounds
  | none =>
      have good : SoundSize arenaSize ∨ op.Dedicated arenaSize :=
        Or.inr (dedicated_of_no_request arenaSize requests)
      have idle := arenaStep_idle requests stepped
      have bounded' : Bounded arenaSize next := by
        refine ⟨idle.size.trans bounded.size, idle.cursor ▸ bounded.cursor, ?_⟩
        intro listed
        rcases idle.list with ⟨same, held⟩ | empty
        · rw [same] at listed ⊢
          rw [held]
          exact bounded.head listed
        · exact absurd empty listed
      have holds : InBounds state op reply next := by
        constructor
        · simp [idle.block]
        · rw [bounded'.size]
          exact bounded'.cursor
        · simp [idle.sums]
      exact ⟨iff_of_true holds good, fun _ => bounded'⟩

/-- A run whose calls all return stays in bounds exactly for the sizes that hold a pointer and do not
wrap with a header, or when every request is refused or larger than an arena, as all are for size 0. -/
theorem arena_in_bounds_iff (ndebug : Bool) (provides : Provides ndebug parent)
    (arenaSize : SizeT) (heap : Heap S) (ops : List ArenaOp) (nonempty : ∀ op ∈ ops, op.Nonempty)
    (returns : (arenaStep ndebug (audited parent)).Completes (arenaStart arenaSize (heap.audit [])) ops) :
    (arenaStep ndebug (audited parent)).Always InBounds (arenaStart arenaSize (heap.audit [])) ops ↔
      arenaSize = 0 ∨ SoundSize arenaSize ∨ ∀ op ∈ ops, op.Dedicated arenaSize := by
  have initial : Bounded arenaSize (arenaStart arenaSize (heap.audit [])) :=
    ⟨rfl, UInt64.zero_le, fun listed => absurd rfl listed⟩
  rw [Machine.always_iff_inputs (fun op => SoundSize arenaSize ∨ op.Dedicated arenaSize) (Bounded arenaSize)
    (fun _ _ _ _ bounded stepped => arenaStep_bounds provides bounded stepped) initial returns]
  constructor
  · intro good
    rcases Classical.em (SoundSize arenaSize) with sound | unsound
    · exact Or.inr (Or.inl sound)
    · exact Or.inr (Or.inr fun op member => (good op member).resolve_left unsound)
  · rintro (rfl | sound | dedicated) op member
    · right
      intro request requests
      obtain ⟨some, nonzero⟩ := nonempty op member request requests
      exact Or.inr (Nat.mul_pos ((toNat_pos_iff _).mpr some) ((toNat_pos_iff _).mpr nonzero))
    · exact Or.inl sound
    · exact Or.inr (dedicated op member)

theorem bumpAllocator_provides : Provides false bumpAllocator := by
  refine ⟨?_, nofun⟩
  intro heap size ptr after called
  have one : (1 : SizeT).toNat * size.toNat = size.toNat := Nat.one_mul _
  simp only [bumpAllocator, one] at called
  rcases bumpTake_cases heap size.toNat (List.replicate size.toNat 0) with
    refused | ⟨base, _, _, room, taken⟩
  · rw [refused] at called
    cases called
    have bound := size.toNat_lt
    change 0 + size.toNat ≤ 2 ^ 64
    omega
  · rw [taken] at called
    cases called
    exact Nat.le_of_lt room

/-- An arena of 16 bytes serves two small requests and a large one. -/
theorem arena_in_bounds_bump :
    (arenaStep false (audited bumpAllocator)).Always InBounds
        (arenaStart 16 (bumpHeap.audit []))
        [.malloc 9, .calloc 5 8, .malloc 3] ↔
      (16 : SizeT) = 0 ∨ SoundSize 16 ∨
        ∀ op ∈ [ArenaOp.malloc 9, .calloc 5 8, .malloc 3], op.Dedicated 16 :=
  arena_in_bounds_iff false bumpAllocator_provides 16 bumpHeap _
    (by simp [ArenaOp.Nonempty, ArenaOp.request]) (by decide +kernel)

/-- The block lies inside the memory that the parent granted. -/
def InParent (_before : ArenaState (Audited S)) (_op : ArenaOp) (reply : ArenaReply)
    (after : ArenaState (Audited S)) : Prop :=
  ∀ block ∈ reply.block, ∃ held ∈ after.heap.state.held, block.Within held

/-- An arena of 4 bytes moves its cursor to 8, so the second block starts 4 bytes behind the 12 bytes of
the parent. -/
theorem arena_out_of_bounds :
    let run := [ArenaOp.malloc 4, .malloc 4]
    let start := arenaStart 4 (bumpHeap.audit [])
    ¬(arenaStep false (audited bumpAllocator)).Always InBounds start run ∧
      ¬(arenaStep false (audited bumpAllocator)).Always InParent start run := by
  constructor
  · rintro ⟨reply, next, stepped, holds, _⟩
    cases stepped
    exact absurd holds.cursor (by decide)
  · rintro ⟨reply, next, stepped, _, reply', next', stepped', holds, _⟩
    cases stepped
    cases stepped'
    exact absurd (holds ⟨32, 4⟩ rfl) (by decide)

end Xstd
