import Mathlib.Data.List.GetD
import Mathlib.Tactic

/-
This file defines a flat byte memory with regions, words and linked lists.
-/

namespace Xstd.Library

/-- A flat memory gives every address its byte. -/
abbrev Memory := ℕ → UInt8

/-- A region is a half-open range of addresses. -/
structure Region where
  base : ℕ
  size : ℕ
  deriving DecidableEq, Repr

namespace Region

def Contains (region : Region) (address : ℕ) : Prop :=
  region.base ≤ address ∧ address < region.base + region.size

instance (region : Region) (address : ℕ) : Decidable (region.Contains address) :=
  inferInstanceAs (Decidable (_ ∧ _))

def Disjoint (first second : Region) : Prop :=
  ∀ address, first.Contains address → ¬second.Contains address

def Within (inner outer : Region) : Prop :=
  outer.base ≤ inner.base ∧ inner.base + inner.size ≤ outer.base + outer.size

instance (inner outer : Region) : Decidable (inner.Within outer) :=
  inferInstanceAs (Decidable (_ ∧ _))

theorem Disjoint.symm {first second : Region} (apart : first.Disjoint second) :
    second.Disjoint first := fun address inside other => apart address other inside

theorem Within.refl (region : Region) : region.Within region := ⟨Nat.le_refl _, Nat.le_refl _⟩

theorem Within.contains {inner outer : Region} (within : inner.Within outer) {address : ℕ}
    (inside : inner.Contains address) : outer.Contains address := by
  unfold Contains Within at *
  omega

theorem Within.trans {first second third : Region} (inner : first.Within second)
    (outer : second.Within third) : first.Within third := by
  unfold Within at *
  omega

theorem Disjoint.mono {first second inner inner' : Region} (apart : first.Disjoint second)
    (left : inner.Within first) (right : inner'.Within second) : inner.Disjoint inner' :=
  fun address inside other => apart address (left.contains inside) (right.contains other)

/-- Ranges that follow each other are disjoint. -/
theorem disjoint_of_le {first second : Region} (order : first.base + first.size ≤ second.base) :
    first.Disjoint second := by
  intro address inside other
  unfold Contains at inside other
  omega

theorem disjoint_of_empty {first second : Region} (empty : second.size = 0) :
    first.Disjoint second := by
  intro address _ other
  unfold Contains at other
  omega

end Region

namespace Memory

/-- Both memories hold the same bytes in the region. -/
def Agrees (before after : Memory) (region : Region) : Prop :=
  ∀ address, region.Contains address → after address = before address

def Zero (memory : Memory) (region : Region) : Prop :=
  ∀ address, region.Contains address → memory address = 0

theorem Agrees.refl (memory : Memory) (region : Region) : Agrees memory memory region :=
  fun _ _ => rfl

theorem Agrees.trans {first second third : Memory} {region : Region}
    (earlier : Agrees first second region) (later : Agrees second third region) :
    Agrees first third region :=
  fun address inside => (later address inside).trans (earlier address inside)

theorem Agrees.mono {before after : Memory} {inner outer : Region}
    (agrees : Agrees before after outer) (within : inner.Within outer) :
    Agrees before after inner := fun address inside => agrees address (within.contains inside)

theorem Zero.mono {memory : Memory} {inner outer : Region} (zero : Zero memory outer)
    (within : inner.Within outer) : Zero memory inner :=
  fun address inside => zero address (within.contains inside)

theorem Zero.of_agrees {before after : Memory} {region : Region} (zero : Zero before region)
    (agrees : Agrees before after region) : Zero after region :=
  fun address inside => (agrees address inside).trans (zero address inside)

/-- A write replaces the bytes from its base on. -/
def write (memory : Memory) (base : ℕ) (bytes : List UInt8) : Memory :=
  fun address => if base ≤ address then bytes.getD (address - base) (memory address) else memory address

theorem write_outside {memory : Memory} {base address : ℕ} {bytes : List UInt8}
    (outside : ¬(⟨base, bytes.length⟩ : Region).Contains address) :
    write memory base bytes address = memory address := by
  simp only [Region.Contains] at outside
  simp only [write]
  split
  · apply List.getD_eq_default
    omega
  · rfl

theorem write_inside {memory : Memory} {base index : ℕ} {bytes : List UInt8}
    (inside : index < bytes.length) : write memory base bytes (base + index) = bytes[index] := by
  simp only [write]
  rw [if_pos (Nat.le_add_right _ _), Nat.add_sub_cancel_left, List.getD_eq_getElem _ _ inside]

@[simp] theorem write_nil (memory : Memory) (base : ℕ) : write memory base [] = memory := by
  ext address
  simp [write]

/-- A write is invisible in a region that it does not touch. -/
theorem write_agrees (memory : Memory) {base : ℕ} {bytes : List UInt8} {region : Region}
    (apart : region.Disjoint ⟨base, bytes.length⟩) :
    Agrees memory (write memory base bytes) region :=
  fun address inside => write_outside (apart address inside)

/-- The bytes from a base on. -/
def read (memory : Memory) (base count : ℕ) : List UInt8 :=
  (List.range count).map fun index => memory (base + index)

@[simp] theorem read_length (memory : Memory) (base count : ℕ) :
    (read memory base count).length = count := by
  simp [read]

@[simp] theorem read_getElem (memory : Memory) (base count index : ℕ)
    (inside : index < (read memory base count).length) :
    (read memory base count)[index] = memory (base + index) := by
  simp [read]

theorem read_append (memory : Memory) (base first second : ℕ) :
    read memory base (first + second) = read memory base first ++ read memory (base + first) second := by
  simp [read, List.range_add, List.map_map, Function.comp_def, Nat.add_assoc]

theorem read_take (memory : Memory) (base count limit : ℕ) :
    (read memory base count).take limit = read memory base (min limit count) := by
  simp [read, ← List.map_take, List.take_range]

/-- A range inside the bytes that are read. -/
theorem read_range (memory : Memory) (base : ℕ) {count offset length : ℕ}
    (inside : offset + length ≤ count) :
    ((read memory base count).drop offset).take length = read memory (base + offset) length := by
  obtain ⟨rest, rfl⟩ := Nat.exists_eq_add_of_le inside
  rw [Nat.add_assoc, read_append, List.drop_left' (read_length _ _ _), read_take,
    Nat.min_eq_left (Nat.le_add_right _ _)]

/-- Bytes that agree read the same, also at another base. -/
theorem read_congr {before after : Memory} {base base' count : ℕ}
    (same : ∀ index < count, after (base' + index) = before (base + index)) :
    read after base' count = read before base count := by
  unfold read
  apply List.map_congr_left
  intro index member
  exact same index (List.mem_range.mp member)

theorem read_of_agrees {before after : Memory} {base count : ℕ}
    (agrees : Agrees before after ⟨base, count⟩) : read after base count = read before base count :=
  read_congr fun _ inside => agrees _ ⟨Nat.le_add_right _ _, Nat.add_lt_add_left inside base⟩

/-- A zeroed range reads the same as another range exactly when that one is zeroed too. -/
theorem read_eq_iff_zero {first second : Memory} {base base' count : ℕ}
    (zero : first.Zero ⟨base, count⟩) :
    first.read base count = second.read base' count ↔ second.Zero ⟨base', count⟩ := by
  constructor
  · intro same address inside
    obtain ⟨index, rfl⟩ := Nat.exists_eq_add_of_le inside.1
    have below : index < count := Nat.lt_of_add_lt_add_left inside.2
    have bytes : (first.read base count)[index]? = (second.read base' count)[index]? := by rw [same]
    simp [read, below] at bytes
    rw [← bytes]
    exact zero _ ⟨Nat.le_add_right _ _, Nat.add_lt_add_left below _⟩
  · intro zero'
    apply read_congr
    intro index below
    rw [zero _ ⟨Nat.le_add_right _ _, Nat.add_lt_add_left below _⟩,
      zero' _ ⟨Nat.le_add_right _ _, Nat.add_lt_add_left below _⟩]

/-- Written bytes read back. -/
theorem read_write (memory : Memory) (base : ℕ) (bytes : List UInt8) :
    read (write memory base bytes) base bytes.length = bytes := by
  apply List.ext_getElem (by simp)
  intro index left right
  rw [read_getElem, write_inside right]

/-- A write behind the first bytes appends. -/
theorem read_write_append (memory : Memory) (base count : ℕ) (bytes : List UInt8) :
    read (write memory (base + count) bytes) base (count + bytes.length) =
      read memory base count ++ bytes := by
  rw [read_append, read_write]
  congr 1
  apply read_of_agrees
  exact write_agrees memory (Region.disjoint_of_le (Nat.le_refl _))

/-- The little-endian bytes of a word. -/
def wordBytes (word : UInt64) : List UInt8 :=
  (List.range 8).map fun index => UInt8.ofNat (word.toNat / 256 ^ index)

@[simp] theorem wordBytes_length (word : UInt64) : (wordBytes word).length = 8 := by
  simp [wordBytes]

def storeWord (memory : Memory) (base : ℕ) (word : UInt64) : Memory :=
  write memory base (wordBytes word)

def loadWord (memory : Memory) (base : ℕ) : UInt64 :=
  UInt64.ofNat (∑ index ∈ Finset.range 8, (memory (base + index)).toNat * 256 ^ index)

theorem storeWord_agrees (memory : Memory) {base : ℕ} {word : UInt64} {region : Region}
    (apart : region.Disjoint ⟨base, 8⟩) : Agrees memory (storeWord memory base word) region :=
  write_agrees memory (by simpa using apart)

/-- A loaded word depends on its eight bytes only. -/
theorem loadWord_congr {before after : Memory} {base : ℕ}
    (agrees : Agrees before after ⟨base, 8⟩) : loadWord after base = loadWord before base := by
  unfold loadWord
  congr 1
  apply Finset.sum_congr rfl
  intro index member
  have bound := Finset.mem_range.mp member
  rw [agrees (base + index) ⟨Nat.le_add_right _ _, Nat.add_lt_add_left bound base⟩]

/-- A stored word loads again. -/
theorem loadWord_storeWord (memory : Memory) (base : ℕ) (word : UInt64) :
    loadWord (storeWord memory base word) base = word := by
  have bytes : ∀ index < 8, (storeWord memory base word (base + index)).toNat =
      word.toNat / 256 ^ index % 256 := by
    intro index bound
    rw [storeWord, write_inside (by simpa using bound)]
    simp [wordBytes]
  have bound := word.toNat_lt
  have total : ∑ index ∈ Finset.range 8, (storeWord memory base word (base + index)).toNat *
      256 ^ index = word.toNat := by
    rw [Finset.sum_congr rfl fun index member => by rw [bytes index (Finset.mem_range.mp member)]]
    simp only [Finset.sum_range_succ, Finset.sum_range_zero]
    omega
  rw [loadWord, total, UInt64.ofNat_toNat]

/-- The nodes form a list: each one starts with the address of the next, and the last ends in 0. -/
def Linked (memory : Memory) : UInt64 → List UInt64 → Prop
  | head, [] => head = 0
  | head, node :: rest => head = node ∧ node ≠ 0 ∧ Linked memory (loadWord memory node.toNat) rest

/-- The memory and the head determine the list. -/
theorem Linked.unique {memory : Memory} {head : UInt64} {nodes nodes' : List UInt64}
    (linked : Linked memory head nodes) (linked' : Linked memory head nodes') : nodes = nodes' := by
  induction nodes generalizing head nodes' with
  | nil =>
      cases nodes' with
      | nil => rfl
      | cons node' rest' => exact absurd (linked'.1.symm.trans linked) linked'.2.1
  | cons node rest ih =>
      cases nodes' with
      | nil => exact absurd (linked.1.symm.trans linked') linked.2.1
      | cons node' rest' =>
          obtain ⟨same, _, tail⟩ := linked
          obtain ⟨same', _, tail'⟩ := linked'
          cases same.symm.trans same'
          rw [ih tail tail']

/-- A list depends on the headers of its nodes only. -/
theorem Linked.of_agrees {before after : Memory} {head : UInt64} {nodes : List UInt64}
    (linked : Linked before head nodes)
    (agrees : ∀ node ∈ nodes, Agrees before after ⟨node.toNat, 8⟩) : Linked after head nodes := by
  induction nodes generalizing head with
  | nil => exact linked
  | cons node rest ih =>
      obtain ⟨same, nonzero, tail⟩ := linked
      refine ⟨same, nonzero, ?_⟩
      rw [loadWord_congr (agrees node List.mem_cons_self)]
      exact ih tail fun other member => agrees other (List.mem_cons_of_mem _ member)

/-- A new node in front of the list receives the old head. -/
theorem Linked.push {memory : Memory} {head node : UInt64} {nodes : List UInt64}
    (linked : Linked memory head nodes) (nonzero : node ≠ 0)
    (apart : ∀ other ∈ nodes, Region.Disjoint ⟨other.toNat, 8⟩ ⟨node.toNat, 8⟩) :
    Linked (storeWord memory node.toNat head) node (node :: nodes) := by
  refine ⟨rfl, nonzero, ?_⟩
  rw [loadWord_storeWord]
  exact linked.of_agrees fun other member => storeWord_agrees memory (apart other member)

end Memory

end Xstd.Library
