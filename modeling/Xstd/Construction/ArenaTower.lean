import Xstd.Construction.Arena

/-
This file stacks arenas, each of them the parent of the next one.
-/

namespace Xstd

open Library

/-- A level of a tower is an arena with the record of the calls that it received. -/
def TowerState (S : Type) : ℕ → Type
  | 0 => S
  | depth + 1 => Audited (ArenaAllocator × TowerState S depth)

variable {S : Type}

/-- The table of the top arena, whose parent is the table of the arena below. -/
def towerVtable (ndebug : Bool) (base : Allocator S) : (depth : ℕ) → Allocator (TowerState S depth)
  | 0 => base
  | depth + 1 => audited (arenaAllocatorVtable ndebug (towerVtable ndebug base depth))

/-- The list gives the size of each arena, and its head is the top. -/
def towerInit (state : S) : (sizes : List SizeT) → TowerState S sizes.length
  | [] => state
  | size :: below => ⟨(arenaAllocatorInit size, towerInit state below), []⟩

/-- The state of the allocator below all arenas. -/
def towerBase : (depth : ℕ) → TowerState S depth → S
  | 0, state => state
  | depth + 1, state => towerBase depth (Audited.state state).2

end Xstd
