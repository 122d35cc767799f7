import Mathlib.Tactic

/-
This file fixes the platform, the faults and the byte operations of the C library.
-/

namespace Xstd

/-- `size_t` has 64 bits, and its arithmetic wraps. -/
abbrev SizeT := UInt64

/-- A pointer is an address, and 0 is `NULL`. -/
abbrev Addr := UInt64

def sizeofPtr : SizeT := 8

def eof : Int := -1

theorem eof_ne_zero : eof ≠ 0 := by decide

def enomem : Int := 12

/-- A run stops here: `alloc.h` asserts a `NULL` away, or the C code has no defined behaviour. -/
inductive Fault where
  | allocation
  | outOfBounds
  | divisionByZero
  | outOfFuel
  deriving DecidableEq, Repr

abbrev Exec := Except Fault

theorem ok_bind {A B : Type} (value : A) (next : A → Exec B) :
    (Except.ok value >>= next) = next value := rfl

/-- This is `if (pointer != NULL) *pointer = value`, where `none` is `NULL`. -/
def store {A : Type} (pointer : Option A) (value : A) : Option A := pointer.map fun _ => value

@[simp] theorem store_some {A : Type} (old value : A) : store (some old) value = some value := rfl

@[simp] theorem store_none {A : Type} (value : A) : store none value = none := rfl

/-- This is `memcpy(&dst[dstStart], &src[srcStart], count)` with both bounds checked. -/
def memcpy (dst : List UInt8) (dstStart : Nat) (src : List UInt8) (srcStart count : Nat) :
    Exec (List UInt8) :=
  if srcStart + count ≤ src.length ∧ dstStart + count ≤ dst.length then
    .ok (dst.take dstStart ++ (src.drop srcStart).take count ++ dst.drop (dstStart + count))
  else
    .error .outOfBounds

/-- `memset` converts its value to `unsigned char`. -/
def unsignedChar (value : Int) : UInt8 := UInt8.ofNat (value % 256).toNat

/-- An array comes with the `size_t` that counts its bytes. -/
structure Area where
  size : SizeT
  bytes : List UInt8
  sized : bytes.length = size.toNat

end Xstd
