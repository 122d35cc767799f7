import Xstd.Construction.Io.Stdio
import Xstd.Library.Words

/-
This file states what stdio.h promises to the adapters and proves it of the buffered stream.
-/

namespace Xstd.Io

open Library

variable {F : Type}

/-- A read or a write leaves `errno` unchanged on success and at end of file, and a device failure sets
it. A read at a set end-of-file indicator gives nothing, an empty transfer changes nothing, and a read
that meets no failure takes the front of the unread bytes. -/
structure Stdio.Lawful (stdio : Stdio F) : Prop where
  read_room : ∀ f count, (stdio.fread f count).1.length ≤ count.toNat
  read_empty : ∀ f, stdio.fread f 0 = ([], f)
  read_ended : ∀ f count, stdio.feof f = true → stdio.fread f count = ([], f)
  read_whole : ∀ f count, count ≠ 0 → stdio.feof f = false → stdio.readFails f count = false →
    (stdio.fread f count).1 = (stdio.unread f).take count.toNat ∧
    stdio.unread (stdio.fread f count).2 = (stdio.unread f).drop count.toNat ∧
    (stdio.feof (stdio.fread f count).2 = true ↔ (stdio.unread f).length < count.toNat)
  read_quiet : ∀ f count, stdio.readFails f count = false →
    stdio.errno (stdio.fread f count).2 = stdio.errno f
  read_failed : ∀ f count, stdio.readFails f count = true → stdio.errno (stdio.fread f count).2 ≠ 0
  write_room : ∀ f bytes, (stdio.fwrite f bytes).1 ≤ bytes.length
  write_empty : ∀ f, stdio.fwrite f [] = (0, f)
  write_quiet : ∀ f bytes, (stdio.fwrite f bytes).1 = bytes.length →
    stdio.errno (stdio.fwrite f bytes).2 = stdio.errno f
  write_short : ∀ f bytes, (stdio.fwrite f bytes).1 < bytes.length →
    stdio.errno (stdio.fwrite f bytes).2 ≠ 0
  errno_set : ∀ f errno, stdio.errno (stdio.setErrno f errno) = errno
  feof_set : ∀ f errno, stdio.feof (stdio.setErrno f errno) = stdio.feof f
  unread_set : ∀ f errno, stdio.unread (stdio.setErrno f errno) = stdio.unread f
  feof_clear : ∀ f, stdio.feof (stdio.clearerr f) = false
  unread_clear : ∀ f, stdio.unread (stdio.clearerr f) = stdio.unread f

/-- A stream is a user-space buffer in front of a device. A whole write adds its bytes, a short one sets
`errno`, and a close succeeds exactly when every byte has reached the device. -/
structure Stdio.Buffered (stdio : Stdio F) : Prop where
  write_room : ∀ f bytes, (stdio.fwrite f bytes).1 ≤ bytes.length
  write_whole : ∀ f bytes, (stdio.fwrite f bytes).1 = bytes.length →
    stdio.device (stdio.fwrite f bytes).2 ++ stdio.pending (stdio.fwrite f bytes).2 =
      stdio.device f ++ stdio.pending f ++ bytes
  write_short : ∀ f bytes, (stdio.fwrite f bytes).1 < bytes.length →
    stdio.errno (stdio.fwrite f bytes).2 ≠ 0
  close_stored : ∀ f, (stdio.fclose f).1 = 0 ↔
    stdio.device (stdio.fclose f).2 = stdio.device f ++ stdio.pending f
  close_failed : ∀ f, (stdio.fclose f).1 ≠ 0 →
    (stdio.fclose f).1 = eof ∧ stdio.errno (stdio.fclose f).2 ≠ 0
  set_kept : ∀ f errno, stdio.device (stdio.setErrno f errno) = stdio.device f ∧
    stdio.pending (stdio.setErrno f errno) = stdio.pending f
  clear_kept : ∀ f, stdio.device (stdio.clearerr f) = stdio.device f ∧
    stdio.pending (stdio.clearerr f) = stdio.pending f

/-- A transfer that reports an error clears the indicators. -/
def settled (stdio : Stdio F) (err : Option Int) (f : F) : F :=
  match err with
  | none => f
  | some _ => stdio.clearerr f

/-- A copy to the front of an array keeps what lies behind it. -/
theorem memcpy_front {p bytes : List UInt8} (fits : bytes.length ≤ p.length) :
    memcpy p 0 bytes 0 bytes.length = .ok (bytes ++ p.drop bytes.length) := by
  rw [memcpy, if_pos ⟨by omega, by omega⟩, List.take_zero, List.nil_append, List.drop_zero,
    List.take_length, Nat.zero_add]

/-- A read that fits stores the bytes of `fread` and reports them. -/
theorem Stdio.fileReaderRead_eq {stdio : Stdio F} {f : F} {p : List UInt8} {pLen : SizeT}
    (fits : (stdio.fread f pLen).1.length ≤ p.length) (n : Option SizeT) (err : Option Int) :
    readerRead stdio.fileReader f p pLen n err =
      .ok ⟨settled stdio err (stdio.fread f pLen).2,
        (stdio.fread f pLen).1 ++ p.drop (stdio.fread f pLen).1.length,
        store n (UInt64.ofNat (stdio.fread f pLen).1.length),
        store err (if (stdio.fread f pLen).1.length = 0 ∧ stdio.feof (stdio.fread f pLen).2 then eof
          else stdio.errno (stdio.fread f pLen).2)⟩ := by
  simp only [readerRead, fileReader, fileReaderRead, memcpy_front fits]
  cases err <;> rfl

/-- A read reports the bytes of `fread`, and its code is `EOF` or `errno`. -/
theorem readStream_eq {stdio : Stdio F} {f : F} {call : AmbientCall}
    (room : (stdio.fread (stdio.setErrno f call.errno) call.pLen).1.length ≤ call.pLen.toNat) :
    readStream stdio stdio.fileReader f call =
      .ok (⟨UInt64.ofNat (stdio.fread (stdio.setErrno f call.errno) call.pLen).1.length,
          if (stdio.fread (stdio.setErrno f call.errno) call.pLen).1.length = 0 ∧
              stdio.feof (stdio.fread (stdio.setErrno f call.errno) call.pLen).2 then eof
          else stdio.errno (stdio.fread (stdio.setErrno f call.errno) call.pLen).2⟩,
        stdio.clearerr (stdio.fread (stdio.setErrno f call.errno) call.pLen).2) := by
  have fits := Nat.le_trans room call.room
  simp only [readStream, readerRead, Stdio.fileReader, Stdio.fileReaderRead, memcpy, Nat.zero_add]
  rw [if_pos ⟨Nat.le_refl _, fits⟩]
  rfl

/-- A write reports the count of `fwrite`, and its code is `EOF` or `errno`. -/
theorem writeStream_eq (stdio : Stdio F) (f : F) (call : AmbientCall) :
    writeStream stdio stdio.fileWriter f call =
      .ok (⟨UInt64.ofNat (stdio.fwrite (stdio.setErrno f call.errno) call.bytes).1,
          if (stdio.fwrite (stdio.setErrno f call.errno) call.bytes).1 = 0 ∧
              stdio.feof (stdio.fwrite (stdio.setErrno f call.errno) call.bytes).2 then eof
          else stdio.errno (stdio.fwrite (stdio.setErrno f call.errno) call.bytes).2⟩,
        stdio.clearerr (stdio.fwrite (stdio.setErrno f call.errno) call.bytes).2) := by
  simp only [writeStream, writerWrite, Stdio.fileWriter, Stdio.fileWriterWrite]
  rw [if_pos call.room]
  rfl

@[simp] theorem AmbientCall.bytes_length (call : AmbientCall) :
    call.bytes.length = call.pLen.toNat := by
  rw [AmbientCall.bytes, List.length_take, Nat.min_eq_left call.room]

/-- The paths of `fread`: nothing to do, a failing device, and a transfer of what is there. -/
theorem fread_idle {f : File} {count : SizeT} (idle : count = 0 ∨ f.atEof = true) :
    fread f count = ([], f) := by
  rw [fread, if_pos idle]

theorem fread_fails {f : File} {count : SizeT} (fails : f.readFails count = true) :
    ∃ good code, f.failure = some (good, code) ∧ good < count.toNat ∧
      fread f count = (f.rest.take good,
        { f with rest := f.rest.drop good, inError := true, failure := none, errno := code }) := by
  cases failing : f.failure with
  | none => simp [File.readFails, failing] at fails
  | some failure =>
      obtain ⟨good, code⟩ := failure
      simp only [File.readFails, failing, Bool.and_eq_true, Bool.not_eq_true', decide_eq_true_eq]
        at fails
      have nonempty : count ≠ 0 := (toNat_pos_iff count).mp (by omega)
      refine ⟨good, code, rfl, fails.2.1, ?_⟩
      simp [fread, nonempty, failing, fails]

theorem fread_whole {f : File} {count : SizeT} (nonempty : count ≠ 0) (cleared : f.atEof = false)
    (healthy : f.readFails count = false) :
    ∃ failure, fread f count = (f.rest.take count.toNat,
      { f with
        rest := f.rest.drop count.toNat
        atEof := decide (f.rest.length < count.toNat)
        failure := failure }) := by
  cases failing : f.failure with
  | none => exact ⟨none, by simp [fread, nonempty, cleared, failing]⟩
  | some failure =>
      obtain ⟨good, code⟩ := failure
      simp only [File.readFails, failing, cleared, Bool.not_false, Bool.true_and,
        decide_eq_false_iff_not] at healthy
      exact ⟨_, by simp only [fread, nonempty, cleared, failing, if_neg healthy]; rfl⟩

/-- Without a failure a read stays within its room and leaves `errno` alone. -/
theorem fread_healthy {f : File} {count : SizeT} (healthy : f.readFails count = false) :
    (fread f count).1.length ≤ count.toNat ∧ (fread f count).2.errno = f.errno := by
  by_cases idle : count = 0 ∨ f.atEof = true
  · rw [fread_idle idle]
    exact ⟨Nat.zero_le _, rfl⟩
  · obtain ⟨nonempty, cleared⟩ := not_or.mp idle
    obtain ⟨failure, read⟩ := fread_whole nonempty (Bool.not_eq_true _ ▸ cleared) healthy
    rw [read, List.length_take]
    exact ⟨Nat.min_le_left _ _, rfl⟩

theorem fread_room (f : File) (count : SizeT) : (fread f count).1.length ≤ count.toNat := by
  cases fails : f.readFails count with
  | true =>
      obtain ⟨good, code, _, short, read⟩ := fread_fails fails
      rw [read, List.length_take]
      omega
  | false => exact (fread_healthy fails).1

/-- A write is whole, and its bytes join the stream, or the device refuses it. -/
theorem bufferedFwrite_cases (f : BufferedFile) (bytes : List UInt8) :
    (∃ after, f.fwrite bytes = (bytes.length, after) ∧ after.input = f.input ∧
      after.device ++ after.pending = f.device ++ f.pending ++ bytes) ∨
    (bytes ≠ [] ∧ f.fwrite bytes = (0, f.refused)) := by
  by_cases fits : f.pending.length + bytes.length ≤ f.capacity
  · left
    exact ⟨{ f with pending := f.pending ++ bytes }, by rw [BufferedFile.fwrite, if_pos fits], rfl,
      (List.append_assoc _ _ _).symm⟩
  by_cases empty : bytes = []
  · left
    exact ⟨f, by rw [BufferedFile.fwrite, if_neg fits, if_pos empty, empty]; rfl, rfl, by simp [empty]⟩
  by_cases room : f.pending.length + bytes.length ≤ f.room
  · left
    exact ⟨f.flushed bytes, by rw [BufferedFile.fwrite, if_neg fits, if_neg empty, if_pos room], rfl,
      List.append_nil _⟩
  · exact Or.inr ⟨empty, by rw [BufferedFile.fwrite, if_neg fits, if_neg empty, if_neg room]⟩

theorem bufferedStdio_lawful : bufferedStdio.Lawful where
  read_room f count := fread_room f.input count
  read_empty f := by
    simp [bufferedStdio, fread_idle]
  read_ended f count ended := by
    simp [bufferedStdio, fread_idle (Or.inr ended)]
  read_whole f count nonempty cleared healthy := by
    obtain ⟨failure, read⟩ := fread_whole nonempty cleared healthy
    simp [bufferedStdio, read, feof]
  read_quiet _ _ healthy := (fread_healthy healthy).2
  read_failed f count fails := by
    obtain ⟨good, code, failing, _, read⟩ := fread_fails fails
    simp only [bufferedStdio, read]
    exact f.coded good code failing
  write_room f bytes := by
    show (f.fwrite bytes).1 ≤ _
    obtain ⟨after, whole, _⟩ | ⟨_, refused⟩ := bufferedFwrite_cases f bytes
    · rw [whole]
    · rw [refused]
      exact Nat.zero_le _
  write_empty f := by
    show f.fwrite [] = _
    by_cases fits : f.pending.length ≤ f.capacity
    · simp [BufferedFile.fwrite, fits]
    · simp [BufferedFile.fwrite, fits]
  write_quiet f bytes written := by
    show (f.fwrite bytes).2.input.errno = _
    obtain ⟨after, whole, same, _⟩ | ⟨some, refused⟩ := bufferedFwrite_cases f bytes
    · rw [whole, same]
      rfl
    · have length : (f.fwrite bytes).1 = bytes.length := written
      rw [refused] at length
      exact absurd (List.length_eq_zero_iff.mp length.symm) some
  write_short f bytes short := by
    show (f.fwrite bytes).2.input.errno ≠ 0
    obtain ⟨after, whole, _⟩ | ⟨_, refused⟩ := bufferedFwrite_cases f bytes
    · have length : (f.fwrite bytes).1 < bytes.length := short
      rw [whole] at length
      exact absurd length (Nat.lt_irrefl _)
    · rw [refused]
      show enospc ≠ 0
      decide
  errno_set _ _ := rfl
  feof_set _ _ := rfl
  unread_set _ _ := rfl
  feof_clear _ := rfl
  unread_clear _ := rfl

theorem bufferedStdio_buffered : bufferedStdio.Buffered where
  write_room := bufferedStdio_lawful.write_room
  write_whole f bytes written := by
    show (f.fwrite bytes).2.device ++ (f.fwrite bytes).2.pending = _
    obtain ⟨after, whole, _, stored⟩ | ⟨some, refused⟩ := bufferedFwrite_cases f bytes
    · rw [whole]
      exact stored
    · have length : (f.fwrite bytes).1 = bytes.length := written
      rw [refused] at length
      exact absurd (List.length_eq_zero_iff.mp length.symm) some
  write_short := bufferedStdio_lawful.write_short
  close_stored f := by
    show f.fclose.1 = 0 ↔ f.fclose.2.device = f.device ++ f.pending
    by_cases fits : f.pending.length ≤ f.room
    · simp [BufferedFile.fclose, fits, BufferedFile.flushed]
    · have held : f.pending ≠ [] := by
        intro empty
        rw [empty] at fits
        exact fits (Nat.zero_le _)
      simp [BufferedFile.fclose, fits, BufferedFile.refused, held, eof]
  close_failed f failed := by
    change f.fclose.1 ≠ 0 at failed
    show f.fclose.1 = eof ∧ f.fclose.2.input.errno ≠ 0
    by_cases fits : f.pending.length ≤ f.room
    · simp [BufferedFile.fclose, fits] at failed
    · simp [BufferedFile.fclose, fits, BufferedFile.refused, enospc]
  set_kept _ _ := ⟨rfl, rfl⟩
  clear_kept _ := ⟨rfl, rfl⟩

/-- The reader over the buffered stream is the reader over its input side. -/
theorem bufferedStdio_fileReaderRead (f : BufferedFile) (p : List UInt8) (pLen : SizeT)
    (n : Option SizeT) (error : Option Int) :
    (bufferedStdio.fileReaderRead f p pLen n error).map
        (fun result => (result.impl.input, result.p, result.n, result.err)) =
      (fileReaderRead f.input p pLen n error).map
        (fun result => (result.impl, result.p, result.n, result.err)) := by
  simp only [Stdio.fileReaderRead, fileReaderRead, bufferedStdio]
  cases memcpy p 0 (fread f.input pLen).1 0 (fread f.input pLen).1.length with
  | error fault => rfl
  | ok copied => cases error <;> rfl

/-- The stream has some bytes to read, a buffer of two bytes, and a device that is full. -/
def fullDevice (contents : List UInt8) : BufferedFile where
  input := openFile contents
  pending := []
  device := []
  capacity := 2
  room := 0
  coded := by
    intro good code same
    cases same

end Xstd.Io
