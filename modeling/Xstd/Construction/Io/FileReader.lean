import Xstd.Construction.Io.BufReader

/-
This file models the input side of `FILE` and translates `FileReader` of io/reader.h.
-/

namespace Xstd.Io

/-- A stream open for reading holds the unread bytes and both indicators. The device may be about to
fail: after so many further bytes it stops with an error number. `errno` belongs to the thread. -/
structure File where
  rest : List UInt8
  atEof : Bool
  inError : Bool
  failure : Option (Nat × Int)
  errno : Int

def openFile (contents : List UInt8) : File where
  rest := contents
  atEof := false
  inError := false
  failure := none
  errno := 0

/-- This is `fread(p, 1, count, f)` without the store. A short count sets an indicator, only a failure
of the device sets `errno`, and a stream at its end stays there until `clearerr`. -/
def fread (f : File) (count : SizeT) : List UInt8 × File :=
  if count = 0 ∨ f.atEof then
    ([], f)
  else
    let whole : List UInt8 × File :=
      (f.rest.take count.toNat,
        { f with
          rest := f.rest.drop count.toNat
          atEof := decide (f.rest.length < count.toNat) })
    match f.failure with
    | none => whole
    | some (good, code) =>
        if good < count.toNat ∧ good ≤ f.rest.length then
          (f.rest.take good,
            { f with rest := f.rest.drop good, inError := true, failure := none, errno := code })
        else
          (whole.1, { whole.2 with failure := some (good - whole.1.length, code) })

def feof (f : File) : Bool := f.atEof

def clearerr (f : File) : File := { f with atEof := false, inError := false }

def fileReaderRead (f : File) (p : List UInt8) (pLen : SizeT) (n : Option SizeT)
    (error : Option Int) : Exec (ReadResult File) :=
  let (bytes, f) := fread f pLen
  match memcpy p 0 bytes 0 bytes.length with
  | .error fault => .error fault
  | .ok p =>
      let n := store n (UInt64.ofNat bytes.length)
      match error with
      | none => .ok ⟨f, p, n, none⟩
      | some _ =>
          let code := if bytes.length = 0 ∧ feof f then eof else f.errno
          .ok ⟨clearerr f, p, n, some code⟩

def fileReader : Reader File where
  read := fileReaderRead

/-- Unrelated library calls may leave any value in `errno` before a call. -/
structure AmbientRequest extends NonemptyRequest where
  errno : Int

/-- The thread state is set before the call of a `BufReader` over a `FileReader`. -/
def BufReader.withErrno (b : BufReader File) (errno : Int) : BufReader File :=
  { b with reader := { b.reader with errno := errno } }

def pullAmbient : Library.Pull Fault (BufReader File) AmbientRequest UInt8 Int :=
  fun b request => pull (bufReader fileReader) (b.withErrno request.errno) request.toRequest

end Xstd.Io
