import Xstd.Construction.Io.Stdio

/-
This file runs a reader of a changing file for a caller that passes `NULL` for some of its outputs.
-/

namespace Xstd.Io

open Library

/-- Before a call the unread bytes of the file change, the device is set to fail or not, and `errno` may
be cleared. The caller keeps an output of the call, or it can do without. -/
structure ObservedCall extends StaleRequest where
  change : List UInt8 → List UInt8
  failure : Option (Nat × Int)
  clearsErrno : Bool
  keepsN : Bool
  keepsErr : Bool

/-- The stream that the call meets. -/
def ObservedCall.meet (call : ObservedCall) (f : File) : File :=
  { f with
    rest := call.change f.rest
    failure := call.failure
    errno := if call.clearsErrno then 0 else f.errno }

/-- The array and the outputs that the caller keeps. -/
structure Observation where
  p : List UInt8
  n : Option SizeT
  err : Option Int
  deriving DecidableEq

/-- A pointer to a variable with this value, or `NULL`. -/
def pointerTo {A : Type} (present : Bool) (value : A) : Option A := if present then some value else none

/-- The caller passes `NULL` for an output that it does not keep, if the run is masked. -/
def observe {S : Type} (masked : Bool) (reader : Reader S) (meet : ObservedCall → S → S) :
    Machine Fault S ObservedCall Observation :=
  fun impl call =>
    match readerRead reader (meet call impl) call.p call.pLen
        (pointerTo (call.keepsN || !masked) call.n) (pointerTo (call.keepsErr || !masked) call.err) with
    | .error fault => .error fault
    | .ok result =>
        .ok (⟨result.p, if call.keepsN then result.n else none,
          if call.keepsErr then result.err else none⟩, result.impl)

def observeFile (masked : Bool) : Machine Fault File ObservedCall Observation :=
  observe masked fileReader ObservedCall.meet

def observeBufReader (masked : Bool) : Machine Fault (BufReader File) ObservedCall Observation :=
  observe masked (bufReader fileReader) fun call b => { b with reader := call.meet b.reader }

end Xstd.Io
