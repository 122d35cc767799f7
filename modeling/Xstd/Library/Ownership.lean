import Mathlib.Data.Set.Lattice
import Xstd.Library.Machine

/-
This file defines owners that share a heap of tokens and proves that no owner disturbs another one.
-/

namespace Xstd.Library

/-- A heap has live tokens. Two tokens may lie apart, and a token may be the same in two heaps. -/
structure Tokens (H A : Type) where
  valid : H → Prop
  live : H → Set A
  Apart : A → A → Prop
  Same : A → H → H → Prop
  symm : ∀ {first second}, Apart first second → Apart second first
  refl : ∀ token heap, Same token heap heap
  trans : ∀ {token first second third}, Same token first second → Same token second third →
    Same token first third

variable {H A Φ ι : Type} {tokens : Tokens H A}

/-- An owner holds live tokens that lie apart from all other live ones. -/
structure Tokens.Holds (tokens : Tokens H A) (heap : H) (owned : Set A) : Prop where
  valid : tokens.valid heap
  live : owned ⊆ tokens.live heap
  apart : ∀ token ∈ owned, ∀ other ∈ tokens.live heap \ owned, tokens.Apart token other

/-- A step replaced the tokens of its owner and left all other live tokens as they were. -/
structure Tokens.Replaces (tokens : Tokens H A) (before : H) (owned : Set A) (after : H)
    (owned' : Set A) : Prop where
  holds : tokens.Holds after owned'
  others : tokens.live after \ owned' = tokens.live before \ owned
  same : ∀ other ∈ tokens.live before \ owned, tokens.Same other before after

section Composition

variable {before middle after : H} {owned owned' owned'' kept : Set A}

/-- An owner may leave the heap as it is. -/
theorem Tokens.Holds.unchanged (holds : tokens.Holds before owned) :
    tokens.Replaces before owned before owned := ⟨holds, rfl, fun other _ => tokens.refl other before⟩

/-- The owner holds what is left of its tokens. -/
theorem Tokens.Replaces.mem_of_live (replaces : tokens.Replaces before owned after owned') {token : A}
    (member : token ∈ owned) (alive : token ∈ tokens.live after) : token ∈ owned' := by
  by_contra outside
  have other : token ∈ tokens.live before \ owned := replaces.others ▸ ⟨alive, outside⟩
  exact other.2 member

/-- Two steps of one owner are one step. -/
theorem Tokens.Replaces.trans (first : tokens.Replaces before owned middle owned')
    (second : tokens.Replaces middle owned' after owned'') :
    tokens.Replaces before owned after owned'' where
  holds := second.holds
  others := second.others.trans first.others
  same other member := by
    have later : other ∈ tokens.live middle \ owned' := first.others ▸ member
    exact tokens.trans (first.same other member) (second.same other later)

/-- Some tokens of an owner can be held alone if they lie apart from its other ones. -/
theorem Tokens.Holds.part (holds : tokens.Holds before (owned ∪ kept))
    (apart : ∀ token ∈ owned, ∀ other ∈ kept, tokens.Apart token other) : tokens.Holds before owned where
  valid := holds.valid
  live := Set.subset_union_left.trans holds.live
  apart := by
    intro token member other remaining
    rcases Classical.em (other ∈ kept) with inside | outside
    · exact apart token member other inside
    · apply holds.apart token (Or.inl member) other
      exact ⟨remaining.1, fun owned => owned.elim remaining.2 outside⟩

/-- A step on some tokens of an owner keeps its other ones. -/
theorem Tokens.Replaces.frame (replaces : tokens.Replaces before owned after owned')
    (holds : tokens.Holds before (owned ∪ kept)) (different : ∀ token ∈ kept, token ∉ owned) :
    tokens.Replaces before (owned ∪ kept) after (owned' ∪ kept) where
  holds := by
    have remaining : kept ⊆ tokens.live after \ owned' := by
      rw [replaces.others]
      exact fun token member => ⟨holds.live (Or.inr member), different token member⟩
    refine ⟨replaces.holds.valid, ?_, ?_⟩
    · exact Set.union_subset replaces.holds.live fun token member => (remaining member).1
    · rintro token (own | member) other ⟨alive, outside⟩
      · exact replaces.holds.apart token own other ⟨alive, fun owned => outside (Or.inl owned)⟩
      · have before : other ∈ tokens.live before \ owned :=
          replaces.others ▸ ⟨alive, fun owned => outside (Or.inl owned)⟩
        apply holds.apart token (Or.inr member) other
        exact ⟨before.1, fun owned => owned.elim before.2 fun kept => outside (Or.inr kept)⟩
  others := by
    rw [← Set.sdiff_sdiff, ← Set.sdiff_sdiff, replaces.others]
  same other member := replaces.same other ⟨member.1, fun owned => member.2 (Or.inl owned)⟩

end Composition

/-- Every live token belongs to one owner, and tokens of different owners lie apart. -/
structure Partition {κ : Type} (tokens : Tokens H A) (heap : H) (owned : κ → Set A) : Prop where
  valid : tokens.valid heap
  live : tokens.live heap = ⋃ owner, owned owner
  disjoint : ∀ {first second}, first ≠ second → ∀ token ∈ owned first, token ∉ owned second
  apart : ∀ {first second}, first ≠ second →
    ∀ token ∈ owned first, ∀ other ∈ owned second, tokens.Apart token other

namespace Partition

variable {κ : Type} {heap after : H} {owned : κ → Set A} {owned' : Set A} {owner : κ}

/-- The other live tokens of an owner are those of the other owners. -/
theorem mem_others (partition : Partition tokens heap owned) {token : A} :
    token ∈ tokens.live heap \ owned owner ↔ ∃ other, other ≠ owner ∧ token ∈ owned other := by
  rw [partition.live, Set.mem_sdiff, Set.mem_iUnion]
  constructor
  · rintro ⟨⟨other, member⟩, outside⟩
    refine ⟨other, ?_, member⟩
    rintro rfl
    exact outside member
  · rintro ⟨other, different, member⟩
    exact ⟨⟨other, member⟩, partition.disjoint different token member⟩

theorem holds (partition : Partition tokens heap owned) (owner : κ) : tokens.Holds heap (owned owner) where
  valid := partition.valid
  live := by
    rw [partition.live]
    exact Set.subset_iUnion owned owner
  apart := by
    intro token member other remaining
    obtain ⟨holder, different, held⟩ := partition.mem_others.mp remaining
    exact partition.apart different.symm token member other held

/-- The tokens of the other owners are the same after a step. -/
theorem same (partition : Partition tokens heap owned)
    (replaces : tokens.Replaces heap (owned owner) after owned') {other : κ} (different : other ≠ owner) :
    ∀ token ∈ owned other, tokens.Same token heap after :=
  fun token member => replaces.same token (partition.mem_others.mpr ⟨other, different, member⟩)

/-- A step that replaces the tokens of one owner keeps the partition. -/
theorem replace [DecidableEq κ] (partition : Partition tokens heap owned)
    (replaces : tokens.Replaces heap (owned owner) after owned') :
    Partition tokens after (Function.update owned owner owned') := by
  have others (token : A) : token ∈ tokens.live after \ owned' ↔
      ∃ other, other ≠ owner ∧ token ∈ owned other := by
    rw [replaces.others, partition.mem_others]
  constructor
  · exact replaces.holds.valid
  · ext token
    rw [Set.mem_iUnion]
    constructor
    · intro member
      rcases Classical.em (token ∈ owned') with own | outside
      · exact ⟨owner, by rwa [Function.update_self]⟩
      · obtain ⟨other, different, held⟩ := (others token).mp ⟨member, outside⟩
        exact ⟨other, by rwa [Function.update_of_ne different]⟩
    · rintro ⟨other, member⟩
      rcases eq_or_ne other owner with rfl | different
      · rw [Function.update_self] at member
        exact replaces.holds.live member
      · rw [Function.update_of_ne different] at member
        exact ((others token).mpr ⟨other, different, member⟩).1
  · intro first second different token member
    rcases eq_or_ne first owner with rfl | left
    · rw [Function.update_self] at member
      rw [Function.update_of_ne different.symm]
      exact fun held => ((others token).mpr ⟨second, different.symm, held⟩).2 member
    · rw [Function.update_of_ne left] at member
      rcases eq_or_ne second owner with rfl | right
      · rw [Function.update_self]
        exact ((others token).mpr ⟨first, left, member⟩).2
      · rw [Function.update_of_ne right]
        exact partition.disjoint different token member
  · intro first second different token member other member'
    rcases eq_or_ne first owner with rfl | left
    · rw [Function.update_self] at member
      rw [Function.update_of_ne different.symm] at member'
      exact replaces.holds.apart token member other ((others other).mpr ⟨second, different.symm, member'⟩)
    · rw [Function.update_of_ne left] at member
      rcases eq_or_ne second owner with rfl | right
      · rw [Function.update_self] at member'
        exact tokens.symm
          (replaces.holds.apart other member' token ((others token).mpr ⟨first, left, member⟩))
      · rw [Function.update_of_ne right] at member'
        exact partition.apart different token member other member'

end Partition

/-- From tokens that it holds, a permitted step of the machine replaces them. What other owners do leaves
its claim to the tokens alone. -/
structure Owner {L I O : Type} (tokens : Tokens H A) (excused : Φ → Prop)
    (machine : Machine Φ (L × H) I O) (permitted : L × H → I → Prop)
    (property : L × H → I → O → L × H → Prop) (owns : L → H → Set A → Prop) : Prop where
  progress : ∀ {own heap owned input}, owns own heap owned → tokens.Holds heap owned →
    permitted (own, heap) input →
      (∃ fault, machine (own, heap) input = .error fault ∧ excused fault) ∨
        ∃ answer own' heap' owned', machine (own, heap) input = .ok (answer, own', heap') ∧
          property (own, heap) input answer (own', heap') ∧
          tokens.Replaces heap owned heap' owned' ∧ owns own' heap' owned'
  stable : ∀ {own heap heap' owned}, owns own heap owned → tokens.Holds heap' owned →
    (∀ token ∈ owned, tokens.Same token heap heap') → owns own heap' owned

/-- The owners of a pool share one heap, and each has a state of its own. -/
structure Pool (H : Type) (L : ι → Type) where
  heap : H
  locals : ∀ i, L i

section Pools

variable {L I O : ι → Type}

/-- Each input of a pool is a step of one owner. -/
def pool [DecidableEq ι] (machine : ∀ i, Machine Φ (L i × H) (I i) (O i)) :
    Machine Φ (Pool H L) (Σ i, I i) (Σ i, O i) :=
  fun state input =>
    match machine input.1 (state.locals input.1, state.heap) input.2 with
    | .error fault => .error fault
    | .ok (answer, own, heap) =>
        .ok (⟨input.1, answer⟩, ⟨heap, Function.update state.locals input.1 own⟩)

/-- The live tokens belong to the owners or to the initial heap, which stands behind `none`. -/
structure Assigned (tokens : Tokens H A) (owns : ∀ i, L i → H → Set A → Prop) (initial : H)
    (state : Pool H L) (owned : Option ι → Set A) : Prop where
  partition : Partition tokens state.heap owned
  owns : ∀ i, owns i (state.locals i) state.heap (owned (some i))
  first : owned none = tokens.live initial
  same : ∀ token ∈ owned none, tokens.Same token initial state.heap

namespace Assigned

variable {owns : ∀ i, L i → H → Set A → Prop} {initial : H} {state : Pool H L}
  {owned : Option ι → Set A}

/-- Owners that hold nothing leave the initial tokens to the initial heap. -/
theorem start {heap : H} {locals : ∀ i, L i} (valid : tokens.valid heap)
    (empty : ∀ i, owns i (locals i) heap ∅) :
    Assigned tokens owns heap ⟨heap, locals⟩ fun owner => owner.elim (tokens.live heap) fun _ => ∅ where
  partition := by
    constructor
    · exact valid
    · ext token
      rw [Set.mem_iUnion]
      constructor
      · exact fun member => ⟨none, member⟩
      · rintro ⟨_ | i, member⟩
        · exact member
        · exact member.elim
    · rintro (_ | i) (_ | j) different token member
      · exact absurd rfl different
      · exact fun other => other
      · exact member.elim
      · exact member.elim
    · rintro (_ | i) (_ | j) different token member other member'
      · exact absurd rfl different
      · exact member'.elim
      · exact member.elim
      · exact member.elim
  owns := empty
  first := rfl
  same token _ := tokens.refl token heap

/-- A step that replaces the tokens of one owner keeps the assignment. -/
theorem step [DecidableEq ι] (assigned : Assigned tokens owns initial state owned) {i : ι} {own : L i}
    {after : H} {owned' : Set A} (replaces : tokens.Replaces state.heap (owned (some i)) after owned')
    (claims : owns i own after owned')
    (stable : ∀ j, tokens.Holds after (owned (some j)) →
      (∀ token ∈ owned (some j), tokens.Same token state.heap after) →
        owns j (state.locals j) after (owned (some j))) :
    Assigned tokens owns initial ⟨after, Function.update state.locals i own⟩
      (Function.update owned (some i) owned') := by
  have partition := assigned.partition.replace replaces
  have unnamed : none ≠ some i := (Option.some_ne_none i).symm
  constructor
  · exact partition
  · intro j
    show owns j (Function.update state.locals i own j) after _
    rcases eq_or_ne j i with rfl | different
    · rw [Function.update_self, Function.update_self]
      exact claims
    · have other : some j ≠ some i := fun same => different (Option.some.inj same)
      rw [Function.update_of_ne different, Function.update_of_ne other]
      apply stable j _ (assigned.partition.same replaces other)
      have held := partition.holds (some j)
      rwa [Function.update_of_ne other] at held
  · rw [Function.update_of_ne unnamed]
    exact assigned.first
  · intro token member
    rw [Function.update_of_ne unnamed] at member
    exact tokens.trans (assigned.same token member)
      (assigned.partition.same replaces unnamed token member)

end Assigned

variable [DecidableEq ι] {machine : ∀ i, Machine Φ (L i × H) (I i) (O i)} {excused : Φ → Prop}
  {permitted : ∀ i, L i × H → I i → Prop} {property : ∀ i, L i × H → I i → O i → L i × H → Prop}
  {owns : ∀ i, L i → H → Set A → Prop} {initial : H}

/-- One step of a pool has the property of its owner and replaces only tokens of this owner. -/
theorem pool_step
    (owners : ∀ i, Owner tokens excused (machine i) (permitted i) (property i) (owns i))
    {state : Pool H L} {owned : Option ι → Set A} (assigned : Assigned tokens owns initial state owned)
    {input : Σ i, I i} (allowed : permitted input.1 (state.locals input.1, state.heap) input.2) :
    (∃ fault, pool machine state input = .error fault ∧ excused fault) ∨
      ∃ answer own heap owned',
        pool machine state input =
          .ok (⟨input.1, answer⟩, ⟨heap, Function.update state.locals input.1 own⟩) ∧
        property input.1 (state.locals input.1, state.heap) input.2 answer (own, heap) ∧
        tokens.Replaces state.heap (owned (some input.1)) heap owned' ∧
        Assigned tokens owns initial ⟨heap, Function.update state.locals input.1 own⟩
          (Function.update owned (some input.1) owned') := by
  rcases (owners input.1).progress (assigned.owns input.1) (assigned.partition.holds _) allowed with
    ⟨fault, stopped, excuse⟩ | ⟨answer, own, heap, owned', stepped, holds, replaces, claims⟩
  · left
    exact ⟨fault, by simp only [pool, stopped], excuse⟩
  · right
    refine ⟨answer, own, heap, owned', by simp only [pool, stepped], holds, replaces, ?_⟩
    apply assigned.step replaces claims
    intro j held same
    exact (owners j).stable (assigned.owns j) held same

/-- The run rule of a pool: what every step has from an assignment of the tokens holds along each run. -/
theorem pool_always
    (owners : ∀ i, Owner tokens excused (machine i) (permitted i) (property i) (owns i))
    {result : Pool H L → (Σ i, I i) → (Σ i, O i) → Pool H L → Prop}
    (holds : ∀ state input answer own heap owned owned',
      Assigned tokens owns initial state owned →
      property input.1 (state.locals input.1, state.heap) input.2 answer (own, heap) →
      tokens.Replaces state.heap (owned (some input.1)) heap owned' →
      Assigned tokens owns initial ⟨heap, Function.update state.locals input.1 own⟩
        (Function.update owned (some input.1) owned') →
      result state input ⟨input.1, answer⟩ ⟨heap, Function.update state.locals input.1 own⟩)
    {locals : ∀ i, L i} (valid : tokens.valid initial) (empty : ∀ i, owns i (locals i) initial ∅)
    {inputs : List (Σ i, I i)}
    (guarded : (pool machine).Guarded
      (fun state input => permitted input.1 (state.locals input.1, state.heap) input.2)
      ⟨initial, locals⟩ inputs) :
    (pool machine).AlwaysUnless excused result ⟨initial, locals⟩ inputs := by
  apply Machine.alwaysUnless_of_guarded (fun state => ∃ owned, Assigned tokens owns initial state owned) _
    ⟨_, Assigned.start valid empty⟩ guarded
  intro state input ⟨owned, assigned⟩ allowed
  rcases pool_step owners assigned allowed with
    stopped | ⟨answer, own, heap, owned', stepped, step, replaces, kept⟩
  · exact Or.inl stopped
  · have here := holds state input answer own heap owned owned' assigned step replaces kept
    exact Or.inr ⟨_, _, stepped, here, _, kept⟩

end Pools

end Xstd.Library
