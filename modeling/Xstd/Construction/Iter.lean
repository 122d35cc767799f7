import Xstd.Library.Machine

/-
This file translates iter.h.
-/

namespace Xstd.Iter

open Library

/-- `intmax_t` has 64 bits, as `int64_t` does. -/
abbrev IntmaxT := Int64

/-- The values of `intmax_t`. -/
def InIntmax (value : Int) : Prop := -2 ^ 63 ≤ value ∧ value < 2 ^ 63

instance : DecidablePred InIntmax := fun value =>
  inferInstanceAs (Decidable (-2 ^ 63 ≤ value ∧ value < 2 ^ 63))

/-- A signed sum outside `intmax_t` has no defined behaviour. -/
inductive IterFault where
  | signedOverflow
  | outOfFuel
  deriving DecidableEq, Repr

def addIntmax (left right : IntmaxT) : Except IterFault IntmaxT :=
  if InIntmax (left.toInt + right.toInt) then .ok (left + right) else .error .signedOverflow

/-- The virtual table of `Iterator` has one method, which writes a value and returns a flag. -/
structure Iterator (S A : Type) where
  next : S → Except IterFault ((A × Bool) × S)

/-- `iter_next` calls the method of the table. -/
def iterNext {S A : Type} (iter : Iterator S A) (impl : S) : Except IterFault ((A × Bool) × S) :=
  iter.next impl

/-- The field `stop` is the field `end` of the source. -/
structure RangeIterator where
  value : IntmaxT
  stop : IntmaxT
  step : IntmaxT
  deriving DecidableEq

def rangeIteratorInit (start stop step : Int64) : RangeIterator where
  stop := stop
  step := step
  value := start

def rangeIteratorNext (b : RangeIterator) : Except IterFault ((IntmaxT × Bool) × RangeIterator) :=
  let next := b.value
  match addIntmax b.value b.step with
  | .error fault => .error fault
  | .ok value =>
      let b := { b with value := value }
      .ok ((next, !((b.step > 0 && b.value ≥ b.stop) || (b.step < 0 && b.value ≤ b.stop))), b)

def rangeIterator : Iterator RangeIterator IntmaxT where
  next := rangeIteratorNext

/-- A consumer that calls an iterator has no input. -/
def calls {S A : Type} (iter : Iterator S A) : Machine IterFault S Unit (A × Bool) :=
  fun impl _ => iterNext iter impl

/-- The calls of `for (; iter_next(...);)`: every value and flag up to and including the first `false`. -/
def untilFalse {S A : Type} (iter : Iterator S A) :
    ℕ → S → Except IterFault (List (A × Bool) × S)
  | 0, _ => .error .outOfFuel
  | fuel + 1, impl =>
      match iterNext iter impl with
      | .error fault => .error fault
      | .ok ((value, false), impl) => .ok ([(value, false)], impl)
      | .ok ((value, true), impl) =>
          match untilFalse iter fuel impl with
          | .error fault => .error fault
          | .ok (outputs, impl) => .ok ((value, true) :: outputs, impl)

/-- The body of the loop sees the values that came with `true`. -/
def visited {A : Type} (outputs : List (A × Bool)) : List A :=
  (outputs.filter Prod.snd).map Prod.fst

end Xstd.Iter
