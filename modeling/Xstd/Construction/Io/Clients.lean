import Xstd.Construction.Io.Graph
import Xstd.Construction.Io.Observed

/-
This file runs clients on the objects of io, each of them on a stack of readers over a stream that it may
also write and close.
-/

namespace Xstd.Io

open Library

/-- The closers of io/closer.h. -/
inductive CloserKind where
  | file
  | nop
  deriving DecidableEq, Repr

/-- `nop_closer_close` leaves the implementation and the output alone. -/
def nopCloser {F : Type} : Closer F where
  close f error := ⟨f, error⟩

def CloserKind.closer {F : Type} (stdio : Stdio F) : CloserKind → Closer F
  | .file => stdio.fileCloser
  | .nop => nopCloser

inductive StackOp where
  | read
  | write
  | close
  deriving DecidableEq, Repr

/-- The client passes a place behind the front of its array, and each output or `NULL`. Unrelated library
calls may leave any value in `errno` before the call. -/
structure StackCall extends Request where
  op : StackOp
  front : List UInt8
  n : Option SizeT
  err : Option Int
  errno : Int

section Functional

variable {S F : Type}

/-- The stream at the bottom of a stack. -/
def stackSource : (depth : ℕ) → StackState S depth → S
  | 0, source => source
  | depth + 1, b => stackSource depth (BufReader.reader b)

def stackWithSource : (depth : ℕ) → StackState S depth → S → StackState S depth
  | 0, _, source => source
  | depth + 1, b, source =>
      let b : BufReader (StackState S depth) := b
      ({ b with reader := stackWithSource depth b.reader source } : BufReader (StackState S depth))

/-- A read goes through the whole stack, a write and a close go to the stream. -/
def stackStep (stdio : Stdio F) (closer : Closer F) (depth : ℕ) :
    Machine Fault (StackState F depth) StackCall Observation :=
  fun state call =>
    let f := stdio.setErrno (stackSource depth state) call.errno
    match call.op with
    | .read =>
        match readerRead (stackReader stdio.fileReader depth) (stackWithSource depth state f) call.p
            call.pLen call.n call.err with
        | .error fault => .error fault
        | .ok result => .ok (⟨call.front ++ result.p, result.n, result.err⟩, result.impl)
    | .write =>
        match writerWrite stdio.fileWriter f call.p call.pLen call.n call.err with
        | .error fault => .error fault
        | .ok result =>
            .ok (⟨call.front ++ call.p, result.n, result.err⟩, stackWithSource depth state result.impl)
    | .close =>
        let result := closerClose closer f call.err
        .ok (⟨call.front ++ call.p, call.n, result.error⟩, stackWithSource depth state result.impl)

end Functional

namespace Graph

variable {F ι : Type}

/-- A client has pointers to interfaces, an array and a variable for each output. -/
structure Handle where
  reader : ObjectPtr
  writer : Option ObjectPtr
  closer : Option ObjectPtr
  array : ℕ
  n : ObjectPtr
  err : ObjectPtr

/-- The client fills its array and its variables before the call. -/
def Handle.prepare (handle : Handle) (world : World F) (call : StackCall) : Exec (World F) := do
  let world ← world.assign sizeWord (call.n.map fun _ => handle.n) (call.n.getD 0)
  let world ← world.assign intWord (call.err.map fun _ => handle.err) (call.err.getD 0)
  return { world with
    arrays := Function.update world.arrays handle.array (call.front ++ call.p)
    errno := call.errno }

/-- The client looks at its array and at the outputs that it passed. -/
def Handle.observe (handle : Handle) (world : World F) (call : StackCall) : Observation where
  p := world.arrays handle.array
  n := call.n.bind fun _ => sizeWord.load world.objects handle.n
  err := call.err.bind fun _ => intWord.load world.objects handle.err

def Handle.call (stdio : Stdio F) (fuel : ℕ) (handle : Handle) (world : World F) (call : StackCall) :
    Exec (World F) :=
  let p : ObjectPtr := ⟨handle.array, call.front.length⟩
  let n := call.n.map fun _ => handle.n
  let err := call.err.map fun _ => handle.err
  match call.op, handle.writer, handle.closer with
  | .read, _, _ => readerRead stdio fuel world handle.reader p call.pLen n err
  | .write, some writer, _ => writerWrite stdio world writer p call.pLen n err
  | .close, _, some closer => closerClose stdio world closer err
  | _, _, _ => .error .outOfBounds

/-- One call of one client. -/
def clientStep (stdio : Stdio F) (fuel : ℕ) (handles : ι → Handle) :
    Machine Fault (World F) (ι × StackCall) (ι × Observation) :=
  fun world (client, call) => do
    let world ← (handles client).prepare world call
    let world ← (handles client).call stdio fuel world call
    return ((client, (handles client).observe world call), world)

end Graph

end Xstd.Io
