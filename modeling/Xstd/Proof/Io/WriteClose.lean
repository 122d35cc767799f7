import Xstd.Proof.Io.FileErrors

/-
This file proves when a `FileWriteCloser` that reports no error has stored everything.
-/

namespace Xstd.Io

open Library

variable {F : Type}

/-- The bytes of a stream are the ones on its device followed by the ones in its buffer. -/
def Stdio.content (stdio : Stdio F) (f : F) : List UInt8 := stdio.device f ++ stdio.pending f

theorem content_set {stdio : Stdio F} (buffered : stdio.Buffered) (f : F) (errno : Int) :
    stdio.content (stdio.setErrno f errno) = stdio.content f := by
  obtain ⟨device, pending⟩ := buffered.set_kept f errno
  rw [Stdio.content, device, pending, Stdio.content]

theorem content_clear {stdio : Stdio F} (buffered : stdio.Buffered) (f : F) :
    stdio.content (stdio.clearerr f) = stdio.content f := by
  obtain ⟨device, pending⟩ := buffered.clear_kept f
  rw [Stdio.content, device, pending, Stdio.content]

/-- A write without an error adds all its bytes to the stream. -/
theorem write_stores {stdio : Stdio F} (buffered : stdio.Buffered) (f : F) (call : AmbientCall) :
    ∃ reply next, writeStream stdio stdio.fileWriteCloser.writer f call = .ok (reply, next) ∧
      (reply.err = 0 → stdio.content next = stdio.content f ++ call.bytes) := by
  refine ⟨_, _, writeStream_eq stdio f call, fun silent => ?_⟩
  have whole : ¬stdio.FallsShort (stdio.setErrno f call.errno) call.bytes := by
    intro short
    have reported := buffered.write_short _ _ short
    change (if _ then eof else _) = 0 at silent
    split at silent
    · exact eof_ne_zero silent
    · exact reported silent
  have written := Nat.le_antisymm (buffered.write_room _ _) (Nat.le_of_not_lt whole)
  calc stdio.content (stdio.clearerr _)
      = stdio.content (stdio.fwrite (stdio.setErrno f call.errno) call.bytes).2 :=
        content_clear buffered _
    _ = stdio.content (stdio.setErrno f call.errno) ++ call.bytes := buffered.write_whole _ _ written
    _ = stdio.content f ++ call.bytes := by rw [content_set buffered]

/-- Writes without an error add all their bytes in order. -/
theorem write_run {stdio : Stdio F} (buffered : stdio.Buffered) (f : F) (writes : List AmbientCall) :
    ∃ replies reached, (writeStream stdio stdio.fileWriteCloser.writer).run f writes =
        .ok (replies, reached) ∧
      ((∀ reply ∈ replies, reply.err = 0) →
        stdio.content reached = stdio.content f ++ writes.flatMap AmbientCall.bytes) := by
  induction writes generalizing f with
  | nil => exact ⟨[], f, rfl, by simp⟩
  | cons call writes ih =>
      obtain ⟨reply, next, stepped, stored⟩ := write_stores buffered f call
      obtain ⟨replies, reached, ran, later⟩ := ih next
      refine ⟨reply :: replies, reached, ?_, fun silent => ?_⟩
      · rw [Machine.run_cons_of_ok _ stepped, ran]
        rfl
      · obtain ⟨first, others⟩ := List.forall_mem_cons.mp silent
        rw [later others, stored first, List.flatMap_cons, List.append_assoc]

/-- The close stores `errno` when `fclose` succeeds and reports nothing when it fails. -/
theorem close_code (stdio : Stdio F) (f : F) :
    closerClose stdio.fileWriteCloser.closer f (some 0) =
      ⟨(stdio.fclose f).2,
        some (if (stdio.fclose f).1 = 0 then stdio.errno (stdio.fclose f).2 else 0)⟩ := by
  simp only [closerClose, Stdio.fileWriteCloser, Stdio.fileCloser, Stdio.fileCloserClose]
  split <;> rfl

/-- The writes and the close complete, and their report is sound exactly when `fclose` succeeds and
leaves a clear `errno`. A report is sound when silence means that every byte has reached the device, and
the close reports an error exactly when `fclose` failed. -/
theorem fileWriteCloser_sound_iff (stdio : Stdio F) (buffered : stdio.Buffered) (f : F)
    (writes : List AmbientCall) (errno : Int) :
    ∃ replies reached code final,
      (writeStream stdio stdio.fileWriteCloser.writer).run f writes = .ok (replies, reached) ∧
      writeAndClose stdio f writes errno = .ok (replies, code, final) ∧
      ((((∀ reply ∈ replies, reply.err = 0) → code = 0 →
            stdio.device final = stdio.content f ++ writes.flatMap AmbientCall.bytes) ∧
          (code ≠ 0 ↔ (stdio.fclose (stdio.setErrno reached errno)).1 ≠ 0)) ↔
        (stdio.fclose (stdio.setErrno reached errno)).1 = 0 ∧
          stdio.errno (stdio.fclose (stdio.setErrno reached errno)).2 = 0) := by
  obtain ⟨replies, reached, ran, stored⟩ := write_run buffered f writes
  refine ⟨replies, reached, _, _, ran, by rw [writeAndClose, ran], ?_⟩
  rw [close_code]
  simp only [Option.getD_some]
  by_cases closed : (stdio.fclose (stdio.setErrno reached errno)).1 = 0
  · simp only [closed, if_true, ne_eq, not_true, iff_false, not_not, true_and]
    constructor
    · exact And.right
    · intro clear
      refine ⟨fun silent _ => ?_, clear⟩
      calc stdio.device _ = stdio.content (stdio.setErrno reached errno) :=
            (buffered.close_stored _).mp closed
        _ = stdio.content f ++ writes.flatMap AmbientCall.bytes := by
            rw [content_set buffered, stored silent]
  · simp [closed]

/-- The buffer takes both bytes, and the device refuses them when the stream is closed. -/
theorem fileWriteCloser_sound_full :
    ∃ replies reached code final,
      (writeStream bufferedStdio bufferedStdio.fileWriteCloser.writer).run (fullDevice [])
        [⟨⟨[1, 2], 2, by simp⟩, 0⟩] = .ok (replies, reached) ∧
      writeAndClose bufferedStdio (fullDevice []) [⟨⟨[1, 2], 2, by simp⟩, 0⟩] 0 =
        .ok (replies, code, final) ∧
      ((((∀ reply ∈ replies, reply.err = 0) → code = 0 →
            bufferedStdio.device final = bufferedStdio.content (fullDevice []) ++
              [(⟨⟨[1, 2], 2, by simp⟩, 0⟩ : AmbientCall)].flatMap AmbientCall.bytes) ∧
          (code ≠ 0 ↔ (bufferedStdio.fclose (bufferedStdio.setErrno reached 0)).1 ≠ 0)) ↔
        (bufferedStdio.fclose (bufferedStdio.setErrno reached 0)).1 = 0 ∧
          bufferedStdio.errno (bufferedStdio.fclose (bufferedStdio.setErrno reached 0)).2 = 0) :=
  fileWriteCloser_sound_iff bufferedStdio bufferedStdio_buffered (fullDevice [])
    [⟨⟨[1, 2], 2, by simp⟩, 0⟩] 0

/-- No call reports an error, and no byte has reached the device. -/
theorem fileWriteCloser_loses :
    ∃ replies code final,
      writeAndClose bufferedStdio (fullDevice []) [⟨⟨[1, 2], 2, by simp⟩, 0⟩] 0 =
        .ok (replies, code, final) ∧
      (∀ reply ∈ replies, reply.err = 0) ∧ code = 0 ∧
      bufferedStdio.device final ≠ bufferedStdio.content (fullDevice []) ++ [1, 2] := by
  refine ⟨[⟨2, 0⟩], 0, _, rfl, by simp, rfl, ?_⟩
  decide

end Xstd.Io
