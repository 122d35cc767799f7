import Xstd.Construction.Platform
import Xstd.Library.PullStream

/-
This file defines the Reader interface and the observers that the results about it use.
-/

namespace Xstd.Io

open Library

/-- A read leaves the implementation, the destination and both output variables behind. -/
structure ReadResult (S : Type) where
  impl : S
  p : List UInt8
  n : Option SizeT
  err : Option Int

/-- The virtual table of `Reader` has one method. -/
structure Reader (S : Type) where
  read : S → List UInt8 → SizeT → Option SizeT → Option Int → Exec (ReadResult S)

/-- `reader_read` calls the method of the table. -/
def readerRead {S : Type} (reader : Reader S) (impl : S) (p : List UInt8) (pLen : SizeT)
    (n : Option SizeT) (err : Option Int) : Exec (ReadResult S) :=
  reader.read impl p pLen n err

/-- The array of a request has room for the length that the request names. -/
structure Request where
  p : List UInt8
  pLen : SizeT
  room : pLen.toNat ≤ p.length

/-- A nonempty request asks for at least one byte. -/
structure NonemptyRequest extends Request where
  nonempty : pLen ≠ 0

/-- The reader stores at most `p_len` bytes and reports a count and a code. -/
structure Conforming {S : Type} (reader : Reader S) : Prop where
  reports : ∀ impl p pLen n err, pLen.toNat ≤ p.length →
    ∃ result stored code, readerRead reader impl p pLen (some n) (some err) = .ok result ∧
      result.n = some stored ∧ result.err = some code ∧ stored ≤ pLen ∧
      result.p.length = p.length

/-- The reader only writes its outputs at this call. The answer has `none` for an output that the reader
leaves alone. -/
def WritesOnly {S : Type} (reader : Reader S) (impl : S) (request : Request) (answer : ReadResult S) :
    Prop :=
  ∀ n err, readerRead reader impl request.p request.pLen (some n) (some err) =
    .ok ⟨answer.impl, answer.p, some (answer.n.getD n), some (answer.err.getD err)⟩

/-- The caller sets both outputs to 0 and takes the reported bytes of its array. -/
def pull {S : Type} (reader : Reader S) : Pull Fault S Request UInt8 Int :=
  fun impl request =>
    match readerRead reader impl request.p request.pLen (some 0) (some 0) with
    | .error fault => .error fault
    | .ok result =>
        let n := result.n.getD 0
        -- A count above `p_len` or a resized array breaks the contract of `Reader`.
        if n ≤ request.pLen ∧ result.p.length = request.p.length then
          .ok ((result.p.take n.toNat, result.err.getD 0), result.impl)
        else
          .error .outOfBounds

def pullNonempty {S : Type} (reader : Reader S) : Pull Fault S NonemptyRequest UInt8 Int :=
  fun impl request => pull reader impl request.toRequest

/-- A caller that reuses its output variables passes the values of earlier calls. -/
structure StaleRequest extends Request where
  n : SizeT
  err : Int

/-- The array and both output variables after a call. -/
structure StaleReply where
  p : List UInt8
  n : SizeT
  err : Int

def callStale {S : Type} (reader : Reader S) : Machine Fault S StaleRequest StaleReply :=
  fun impl request =>
    match readerRead reader impl request.p request.pLen (some request.n) (some request.err) with
    | .error fault => .error fault
    | .ok result =>
        .ok (⟨result.p, result.n.getD request.n, result.err.getD request.err⟩, result.impl)

/-- The bytes that the caller takes are the reported ones. -/
def StaleReply.taken (reply : StaleReply) : List UInt8 := reply.p.take reply.n.toNat

/-- One call of a source: the capacity, the size of the array behind it, and the reply. -/
structure SourceCall where
  capacity : SizeT
  room : Nat
  bytes : List UInt8
  err : Int

/-- The record keeps every call of a source in order. -/
structure Recorded (S : Type) where
  impl : S
  calls : List SourceCall

/-- The bytes that the source has produced so far. -/
def Recorded.produced {S : Type} (source : Recorded S) : List UInt8 :=
  source.calls.flatMap SourceCall.bytes

/-- The recorded reader behaves as the reader and appends each call to the record. -/
def recorded {S : Type} (reader : Reader S) : Reader (Recorded S) where
  read source p pLen n err :=
    match readerRead reader source.impl p pLen n err with
    | .error fault => .error fault
    | .ok result =>
        let call : SourceCall :=
          ⟨pLen, p.length, result.p.take (result.n.getD 0).toNat, result.err.getD 0⟩
        .ok ⟨⟨result.impl, source.calls ++ [call]⟩, result.p, result.n, result.err⟩

end Xstd.Io
