import Xstd.Construction.Io.FileReader
import Xstd.Construction.Io.Writer

/-
This file translates FileReader, FileWriter, FileCloser and FileWriteCloser over any stdio.h.
-/

namespace Xstd.Io

open Library

/-- The functions of stdio.h that the adapters call. A state is a stream with the `errno` of the thread.
The last four fields observe what a call is about to meet and where the bytes of the stream are. -/
structure Stdio (F : Type) where
  fread : F → SizeT → List UInt8 × F
  fwrite : F → List UInt8 → Nat × F
  fclose : F → Int × F
  feof : F → Bool
  clearerr : F → F
  errno : F → Int
  setErrno : F → Int → F
  readFails : F → SizeT → Bool
  unread : F → List UInt8
  pending : F → List UInt8
  device : F → List UInt8

namespace Stdio

variable {F : Type}

def fileReaderRead (stdio : Stdio F) (f : F) (p : List UInt8) (pLen : SizeT) (n : Option SizeT)
    (error : Option Int) : Exec (ReadResult F) :=
  let (bytes, f) := stdio.fread f pLen
  match memcpy p 0 bytes 0 bytes.length with
  | .error fault => .error fault
  | .ok p =>
      let n := store n (UInt64.ofNat bytes.length)
      match error with
      | none => .ok ⟨f, p, n, none⟩
      | some _ =>
          let code := if bytes.length = 0 ∧ stdio.feof f then eof else stdio.errno f
          .ok ⟨stdio.clearerr f, p, n, some code⟩

def fileReader (stdio : Stdio F) : Reader F where
  read := stdio.fileReaderRead

def fileWriterWrite (stdio : Stdio F) (f : F) (p : List UInt8) (pLen : SizeT) (n : Option SizeT)
    (error : Option Int) : Exec (WriteResult F) :=
  if pLen.toNat ≤ p.length then
    let (write, f) := stdio.fwrite f (p.take pLen.toNat)
    let n := store n (UInt64.ofNat write)
    match error with
    | none => .ok ⟨f, n, none⟩
    | some _ =>
        let code := if write = 0 ∧ stdio.feof f then eof else stdio.errno f
        .ok ⟨stdio.clearerr f, n, some code⟩
  else
    .error .outOfBounds

def fileWriter (stdio : Stdio F) : Writer F where
  write := stdio.fileWriterWrite

/-- The source negates the result of `fclose`, so the branch is the one of a successful close. -/
def fileCloserClose (stdio : Stdio F) (f : F) (error : Option Int) : CloseResult F :=
  let (result, f) := stdio.fclose f
  if result = 0 then ⟨f, store error (stdio.errno f)⟩ else ⟨f, error⟩

def fileCloser (stdio : Stdio F) : Closer F where
  close := stdio.fileCloserClose

/-- Both interfaces hold the same stream. -/
def fileWriteCloser (stdio : Stdio F) : WriteCloser F where
  writer := stdio.fileWriter
  closer := stdio.fileCloser

end Stdio

/-- Unrelated library calls may leave any value in `errno` before a call. -/
structure AmbientCall extends Request where
  errno : Int

/-- The bytes that a write is asked to store. -/
def AmbientCall.bytes (call : AmbientCall) : List UInt8 := call.p.take call.pLen.toNat

/-- The caller of one stream reads and writes. -/
inductive StreamCall where
  | read (call : AmbientCall)
  | write (call : AmbientCall)

/-- The count and the code that a caller finds in its variables. -/
structure StreamReply where
  n : SizeT
  err : Int

/-- One write with both outputs set to 0 before it. -/
def writeStream {F : Type} (stdio : Stdio F) (writer : Writer F) :
    Machine Fault F AmbientCall StreamReply :=
  fun f call =>
    match writerWrite writer (stdio.setErrno f call.errno) call.p call.pLen (some 0) (some 0) with
    | .error fault => .error fault
    | .ok result => .ok (⟨result.n.getD 0, result.err.getD 0⟩, result.impl)

/-- One read with both outputs set to 0 before it. -/
def readStream {F : Type} (stdio : Stdio F) (reader : Reader F) :
    Machine Fault F AmbientCall StreamReply :=
  fun f call =>
    match readerRead reader (stdio.setErrno f call.errno) call.p call.pLen (some 0) (some 0) with
    | .error fault => .error fault
    | .ok result => .ok (⟨result.n.getD 0, result.err.getD 0⟩, result.impl)

/-- The calls of a run go through `FileReader` and `FileWriter`. -/
def callStream {F : Type} (stdio : Stdio F) : Machine Fault F StreamCall StreamReply :=
  fun f call =>
    match call with
    | .read call => readStream stdio stdio.fileReader f call
    | .write call => writeStream stdio stdio.fileWriter f call

/-- The writes of a run and the close after them. The result has the replies, the code of the close and
the state that it leaves. -/
def writeAndClose {F : Type} (stdio : Stdio F) (f : F) (writes : List AmbientCall) (errno : Int) :
    Exec (List StreamReply × Int × F) :=
  match (writeStream stdio stdio.fileWriteCloser.writer).run f writes with
  | .error fault => .error fault
  | .ok (replies, reached) =>
      let result := closerClose stdio.fileWriteCloser.closer (stdio.setErrno reached errno) (some 0)
      .ok (replies, result.error.getD 0, result.impl)

/-- A failure that a stream is about to meet has a code. -/
def File.Coded (f : File) : Prop := ∀ good code, f.failure = some (good, code) → code ≠ 0

theorem fread_coded {f : File} (coded : f.Coded) (count : SizeT) : (fread f count).2.Coded := by
  intro good code later
  cases failing : f.failure with
  | none =>
      simp only [fread, failing] at later
      split at later
      · exact coded good code later
      · cases later
  | some failure =>
      simp only [fread, failing] at later
      split at later
      · exact coded good code later
      · split at later
        · cases later
        · cases later
          exact coded failure.1 failure.2 failing

/-- A stream for both directions: the input side, the bytes in its buffer, the bytes on its device, the
size of the buffer, and the number of bytes that the device still takes. -/
structure BufferedFile where
  input : File
  pending : List UInt8
  device : List UInt8
  capacity : Nat
  room : Nat
  coded : input.Coded

def enospc : Int := 28

/-- A refused flush sets the error indicator and `errno`. -/
def BufferedFile.refused (f : BufferedFile) : BufferedFile :=
  { f with input := { f.input with inError := true, errno := enospc } }

/-- The buffered bytes and some more reach the device. -/
def BufferedFile.flushed (f : BufferedFile) (bytes : List UInt8) : BufferedFile :=
  { f with
    pending := []
    device := f.device ++ f.pending ++ bytes
    room := f.room - (f.pending.length + bytes.length) }

/-- The buffer takes what fits into it, and the rest goes to the device together with the buffer. -/
def BufferedFile.fwrite (f : BufferedFile) (bytes : List UInt8) : Nat × BufferedFile :=
  if f.pending.length + bytes.length ≤ f.capacity then
    (bytes.length, { f with pending := f.pending ++ bytes })
  else if bytes = [] then
    (0, f)
  else if f.pending.length + bytes.length ≤ f.room then
    (bytes.length, f.flushed bytes)
  else
    (0, f.refused)

def BufferedFile.fclose (f : BufferedFile) : Int × BufferedFile :=
  if f.pending.length ≤ f.room then (0, f.flushed []) else (eof, f.refused)

/-- The device fails during a read when it stops before the asked bytes. -/
def File.readFails (f : File) (count : SizeT) : Bool :=
  match f.failure with
  | none => false
  | some (good, _) => !f.atEof && decide (good < count.toNat ∧ good ≤ f.rest.length)

def bufferedStdio : Stdio BufferedFile where
  fread f count :=
    ((fread f.input count).1,
      { f with input := (fread f.input count).2, coded := fread_coded f.coded count })
  fwrite := BufferedFile.fwrite
  fclose := BufferedFile.fclose
  feof f := feof f.input
  clearerr f := { f with input := clearerr f.input }
  errno f := f.input.errno
  setErrno f errno := { f with input := { f.input with errno := errno } }
  readFails f := f.input.readFails
  unread f := f.input.rest
  pending := BufferedFile.pending
  device := BufferedFile.device

end Xstd.Io
