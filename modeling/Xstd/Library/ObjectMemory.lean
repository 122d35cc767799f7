import Mathlib.Tactic

/-
This file defines a memory of separate objects, each of them an array of words.
-/

namespace Xstd.Library

/-- A pointer stays in the object that it was made for and counts the bytes from its start. -/
structure ObjectPtr where
  object : ℕ
  offset : ℕ
  deriving DecidableEq, Repr

namespace ObjectPtr

def add (ptr : ObjectPtr) (bytes : ℕ) : ObjectPtr := ⟨ptr.object, ptr.offset + bytes⟩

@[simp] theorem add_object (ptr : ObjectPtr) (bytes : ℕ) : (ptr.add bytes).object = ptr.object := rfl

@[simp] theorem add_offset (ptr : ObjectPtr) (bytes : ℕ) :
    (ptr.add bytes).offset = ptr.offset + bytes := rfl

/-- Two steps from a pointer are one step. -/
theorem add_add (ptr : ObjectPtr) (first second : ℕ) :
    (ptr.add first).add second = ptr.add (first + second) := by
  rw [add, add, add, Nat.add_assoc]

end ObjectPtr

variable {W : Type}

/-- Every object holds its words, which have 8 bytes each. -/
abbrev Objects (W : Type) := ℕ → List W

namespace Objects

/-- A load finds a word only at a multiple of 8 inside the object. -/
def load (objects : Objects W) (ptr : ObjectPtr) : Option W :=
  if ptr.offset % 8 = 0 then (objects ptr.object)[ptr.offset / 8]? else none

def store (objects : Objects W) (ptr : ObjectPtr) (word : W) : Objects W :=
  Function.update objects ptr.object ((objects ptr.object).set (ptr.offset / 8) word)

/-- No load succeeds behind the end of an object. -/
theorem load_outside {objects : Objects W} {ptr : ObjectPtr}
    (outside : 8 * (objects ptr.object).length ≤ ptr.offset) : objects.load ptr = none := by
  unfold load
  split
  · apply List.getElem?_eq_none
    omega
  · rfl

variable {objects : Objects W} {ptr : ObjectPtr}

/-- A pointer that loads is aligned and lies inside its object. -/
theorem load_isSome_iff : (objects.load ptr).isSome ↔
    ptr.offset % 8 = 0 ∧ ptr.offset / 8 < (objects ptr.object).length := by
  unfold load
  split
  · rename_i aligned
    simp [aligned]
  · rename_i crooked
    simp [crooked]

theorem load_store_self (inside : (objects.load ptr).isSome) (word : W) :
    (objects.store ptr word).load ptr = some word := by
  obtain ⟨aligned, within⟩ := load_isSome_iff.mp inside
  simp [load, store, aligned, within]

/-- A store is invisible at every other pointer. -/
theorem load_store_of_ne (inside : (objects.load ptr).isSome) {other : ObjectPtr} (different : other ≠ ptr)
    (word : W) : (objects.store ptr word).load other = objects.load other := by
  obtain ⟨aligned, _⟩ := load_isSome_iff.mp inside
  unfold load store
  split
  · rename_i straight
    rcases eq_or_ne other.object ptr.object with same | apart
    · rw [same, Function.update_self, List.getElem?_set_ne]
      intro index
      apply different
      cases other
      cases ptr
      simp only [ObjectPtr.mk.injEq] at same straight aligned index ⊢
      omega
    · rw [Function.update_of_ne apart]
  · rfl

end Objects

/-- The words of one type: how a value is stored, and which words hold one. -/
structure WordType (W V : Type) where
  make : V → W
  read : W → Option V
  read_make : ∀ value, read (make value) = some value

namespace WordType

variable {V : Type} {type : WordType W V} {objects : Objects W} {ptr : ObjectPtr}

def load (type : WordType W V) (objects : Objects W) (ptr : ObjectPtr) : Option V :=
  (objects.load ptr).bind type.read

/-- A store needs a pointer to a word of its type. -/
def store (type : WordType W V) (objects : Objects W) (ptr : ObjectPtr) (value : V) :
    Option (Objects W) :=
  (type.load objects ptr).map fun _ => objects.store ptr (type.make value)

/-- This is `if (pointer != NULL) *pointer = value`. -/
def assign (type : WordType W V) (objects : Objects W) (pointer : Option ObjectPtr) (value : V) :
    Option (Objects W) :=
  match pointer with
  | none => some objects
  | some ptr => type.store objects ptr value

/-- A pointer is `NULL` without a value, or it points to a word with the value. -/
def Points (type : WordType W V) (objects : Objects W) : Option ObjectPtr → Option V → Prop
  | none, none => True
  | some ptr, some value => type.load objects ptr = some value
  | _, _ => False

theorem load_word {value : V} (found : type.load objects ptr = some value) :
    ∃ word, objects.load ptr = some word ∧ type.read word = some value :=
  Option.bind_eq_some_iff.mp found

theorem load_congr {objects' : Objects W} (same : objects.load ptr = objects'.load ptr) :
    type.load objects ptr = type.load objects' ptr := congrArg (Option.bind · type.read) same

/-- A store replaces the word at its pointer and no other one. -/
theorem store_spec {old : V} (found : type.load objects ptr = some old) (value : V) :
    ∃ objects', type.store objects ptr value = some objects' ∧
      type.load objects' ptr = some value ∧
      ∀ other, other ≠ ptr → objects.load other = objects'.load other := by
  obtain ⟨word, loaded, _⟩ := load_word found
  have inside : (objects.load ptr).isSome := by rw [loaded, Option.isSome_some]
  refine ⟨objects.store ptr (type.make value), by rw [store, found, Option.map_some], ?_, ?_⟩
  · rw [load, Objects.load_store_self inside, Option.bind_some, type.read_make]
  · intro other different
    exact (Objects.load_store_of_ne inside different _).symm

/-- An output that the caller passes receives the value, and no other word changes. -/
theorem assign_spec {pointer : Option ObjectPtr} {old : Option V} (points : type.Points objects pointer old)
    (value : V) :
    ∃ objects', type.assign objects pointer value = some objects' ∧
      type.Points objects' pointer (old.map fun _ => value) ∧
      ∀ other, some other ≠ pointer → objects.load other = objects'.load other := by
  cases pointer with
  | none =>
      cases old with
      | none => exact ⟨objects, rfl, trivial, fun _ _ => rfl⟩
      | some => exact points.elim
  | some ptr =>
      cases old with
      | none => exact points.elim
      | some old =>
          obtain ⟨objects', stored, loaded, others⟩ := store_spec points value
          refine ⟨objects', stored, loaded, fun other different => others other ?_⟩
          rintro rfl
          exact different rfl

theorem points_congr {objects' : Objects W} {pointer : Option ObjectPtr} {value : Option V}
    (points : type.Points objects pointer value)
    (same : ∀ ptr, some ptr = pointer → objects.load ptr = objects'.load ptr) :
    type.Points objects' pointer value := by
  cases pointer with
  | none =>
      cases value with
      | none => trivial
      | some => exact points.elim
  | some ptr =>
      cases value with
      | none => exact points.elim
      | some value => exact (load_congr (same ptr rfl)).symm.trans points

end WordType

end Xstd.Library
