import Xstd.Library.FlatMemory

/-
This file defines how the values of a type are stored as bytes at an offset of an aggregate.
-/

namespace Xstd.Library

/-- Every value has bytes of one size, and only bytes of some value read back. -/
structure Representation (V : Type) where
  size : ℕ
  positive : 0 < size
  encode : V → List UInt8
  decode : List UInt8 → Option V
  sized : ∀ value, (encode value).length = size
  decodes : ∀ value, decode (encode value) = some value

namespace Representation

variable {V W : Type}

def store (type : Representation V) (memory : Memory) (offset : ℕ) (value : V) : Memory :=
  memory.write offset (type.encode value)

def load (type : Representation V) (memory : Memory) (offset : ℕ) : Option V :=
  type.decode (memory.read offset type.size)

/-- The bytes of a member at an offset. -/
def region (type : Representation V) (offset : ℕ) : Region := ⟨offset, type.size⟩

/-- A stored value loads again. -/
@[simp] theorem load_store (type : Representation V) (memory : Memory) (offset : ℕ) (value : V) :
    type.load (type.store memory offset value) offset = some value := by
  rw [load, store, ← type.sized value, Memory.read_write, type.decodes]

/-- A store is invisible to a member with other bytes. -/
theorem load_store_apart {type : Representation V} {other : Representation W} {offset offset' : ℕ}
    (apart : (type.region offset).Disjoint (other.region offset')) (memory : Memory) (value : W) :
    type.load (other.store memory offset' value) offset = type.load memory offset := by
  rw [load, store, Memory.read_of_agrees, load]
  apply memory.write_agrees
  rw [other.sized]
  exact apart

/-- The first byte of a stored value. -/
theorem store_head (type : Representation V) (memory : Memory) (offset : ℕ) (value : V) :
    (type.encode value).head? = some (type.store memory offset value offset) := by
  have inside : 0 < (type.encode value).length := (type.sized value).symm ▸ type.positive
  have written : memory.write offset (type.encode value) (offset + 0) = (type.encode value)[0] :=
    Memory.write_inside inside
  rw [List.head?_eq_getElem?, List.getElem?_eq_getElem inside, ← written]
  rfl

end Representation

/-- A `bool` is one byte with 1 or 0, and no value has another byte. -/
def boolBytes : Representation Bool where
  size := 1
  positive := Nat.one_pos
  encode value := [if value then 1 else 0]
  decode bytes :=
    match bytes with
    | [byte] => if byte = 1 then some true else if byte = 0 then some false else none
    | _ => none
  sized _ := rfl
  decodes value := by cases value <;> rfl

/-- A `bool` loads from its one byte. -/
theorem boolBytes_load (memory : Memory) (offset : ℕ) : boolBytes.load memory offset =
    if memory offset = 1 then some true else if memory offset = 0 then some false else none := rfl

/-- An unsigned character is its byte. -/
def byteBytes : Representation UInt8 where
  size := 1
  positive := Nat.one_pos
  encode value := [value]
  decode bytes := bytes.head?
  sized _ := rfl
  decodes _ := rfl

end Xstd.Library
