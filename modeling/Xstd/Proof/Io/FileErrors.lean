import Xstd.Proof.Io.Stdio

/-
This file proves when the error that `FileReader` and `FileWriter` report is the one of the call.
-/

namespace Xstd.Io

open Library

variable {F : Type}

/-- The stream that a call finds when it starts. -/
def Stdio.entered (stdio : Stdio F) (f : F) (call : AmbientCall) : F :=
  stdio.setErrno f call.errno

/-- A read returns no bytes at end of file. -/
def Stdio.MeetsEnd (stdio : Stdio F) (f : F) (count : SizeT) : Prop :=
  (stdio.fread f count).1 = [] ∧ stdio.feof (stdio.fread f count).2 = true

/-- A write stores fewer bytes than it was asked for. -/
def Stdio.FallsShort (stdio : Stdio F) (f : F) (bytes : List UInt8) : Prop :=
  (stdio.fwrite f bytes).1 < bytes.length

/-- A read reports an error exactly when the device fails or no bytes are left, and then it is `EOF`. A
write reports one exactly when it falls short. -/
def ReportsFailure (stdio : Stdio F) (f : F) (call : StreamCall) (reply : StreamReply) (_ : F) : Prop :=
  match call with
  | .read call =>
      (reply.err ≠ 0 ↔ stdio.readFails (stdio.entered f call) call.pLen = true ∨
        stdio.MeetsEnd (stdio.entered f call) call.pLen) ∧
      (stdio.MeetsEnd (stdio.entered f call) call.pLen → reply.err = eof)
  | .write call => reply.err ≠ 0 ↔ stdio.FallsShort (stdio.entered f call) call.bytes

/-- The stream call fails by itself, or it starts with a clear `errno`. An empty write starts with a
clear end-of-file indicator as well. -/
def ErrnoSettled (stdio : Stdio F) (f : F) (call : StreamCall) : Prop :=
  match call with
  | .read call =>
      stdio.readFails (stdio.entered f call) call.pLen = true ∨
        stdio.MeetsEnd (stdio.entered f call) call.pLen ∨ call.errno = 0
  | .write call =>
      stdio.FallsShort (stdio.entered f call) call.bytes ∨
        (call.errno = 0 ∧ (call.pLen ≠ 0 ∨ stdio.feof f = false))

/-- The code of a read is `EOF`, the error of the device, or the `errno` that it found. -/
theorem read_code {stdio : Stdio F} (lawful : stdio.Lawful) (f : F) (call : AmbientCall) :
    ∃ code, readStream stdio stdio.fileReader f call =
        .ok (⟨UInt64.ofNat (stdio.fread (stdio.entered f call) call.pLen).1.length, code⟩,
          stdio.clearerr (stdio.fread (stdio.entered f call) call.pLen).2) ∧
      (stdio.MeetsEnd (stdio.entered f call) call.pLen → code = eof) ∧
      (¬stdio.MeetsEnd (stdio.entered f call) call.pLen →
        stdio.readFails (stdio.entered f call) call.pLen = true → code ≠ 0) ∧
      (¬stdio.MeetsEnd (stdio.entered f call) call.pLen →
        stdio.readFails (stdio.entered f call) call.pLen = false → code = call.errno) := by
  refine ⟨_, readStream_eq (lawful.read_room _ _), ?_, ?_, ?_⟩
  · intro ends
    exact if_pos ⟨List.length_eq_zero_iff.mpr ends.1, ends.2⟩
  · intro more fails
    rw [if_neg fun ends => more ⟨List.length_eq_zero_iff.mp ends.1, ends.2⟩]
    exact lawful.read_failed _ _ fails
  · intro more healthy
    rw [if_neg fun ends => more ⟨List.length_eq_zero_iff.mp ends.1, ends.2⟩]
    exact (lawful.read_quiet _ _ healthy).trans (lawful.errno_set _ _)

/-- A read reports its own failure exactly when it fails or finds a clear `errno`. -/
theorem read_exact {stdio : Stdio F} (lawful : stdio.Lawful) (f : F) (call : AmbientCall) :
    ∃ reply next, callStream stdio f (.read call) = .ok (reply, next) ∧
      (ReportsFailure stdio f (.read call) reply next ↔ ErrnoSettled stdio f (.read call)) := by
  obtain ⟨code, stepped, ended, failed, quiet⟩ := read_code lawful f call
  refine ⟨_, _, stepped, ?_⟩
  simp only [ReportsFailure, ErrnoSettled]
  by_cases ends : stdio.MeetsEnd (stdio.entered f call) call.pLen
  · simp [ends, ended ends, eof_ne_zero]
  · cases fails : stdio.readFails (stdio.entered f call) call.pLen with
    | true => simp [ends, failed ends fails]
    | false => simp [ends, quiet ends fails]

/-- A short write reports an error, and a whole one reports what the stream held before it. -/
theorem write_code {stdio : Stdio F} (lawful : stdio.Lawful) (f : F) (call : AmbientCall) :
    ∃ reply next, writeStream stdio stdio.fileWriter f call = .ok (reply, next) ∧
      (stdio.FallsShort (stdio.entered f call) call.bytes → reply.err ≠ 0) ∧
      (¬stdio.FallsShort (stdio.entered f call) call.bytes →
        reply.err = if call.pLen = 0 ∧ stdio.feof f = true then eof else call.errno) := by
  refine ⟨_, _, writeStream_eq stdio f call, ?_, ?_⟩
  · intro short
    have reported := lawful.write_short _ _ short
    show (if _ then eof else _) ≠ 0
    split
    · exact eof_ne_zero
    · exact reported
  · intro whole
    have written := Nat.le_antisymm (lawful.write_room (stdio.entered f call) call.bytes)
      (Nat.le_of_not_lt whole)
    have quiet := (lawful.write_quiet _ _ written).trans (lawful.errno_set f call.errno)
    show (if _ then eof else _) = _
    rw [Stdio.entered] at written quiet
    rw [quiet, written, AmbientCall.bytes_length]
    simp only [toNat_eq_zero_iff]
    by_cases empty : call.pLen = 0
    · have nothing : call.bytes = [] := by
        rw [← List.length_eq_zero_iff, AmbientCall.bytes_length, empty]
        rfl
      rw [nothing, lawful.write_empty, lawful.feof_set]
    · simp [empty]

/-- A write reports its own failure exactly when it falls short or finds a clear stream. -/
theorem write_exact {stdio : Stdio F} (lawful : stdio.Lawful) (f : F) (call : AmbientCall) :
    ∃ reply next, callStream stdio f (.write call) = .ok (reply, next) ∧
      (ReportsFailure stdio f (.write call) reply next ↔ ErrnoSettled stdio f (.write call)) := by
  obtain ⟨reply, next, stepped, failed, quiet⟩ := write_code lawful f call
  refine ⟨reply, next, stepped, ?_⟩
  simp only [ReportsFailure, ErrnoSettled]
  by_cases short : stdio.FallsShort (stdio.entered f call) call.bytes
  · simp [short, failed short]
  · rw [quiet short]
    by_cases empty : call.pLen = 0
    · cases ended : stdio.feof f <;> simp [short, empty, eof_ne_zero]
    · simp [short, empty]

/-- No bytes are left, and the stream does not know it yet. -/
def Stdio.Exhausted (stdio : Stdio F) (f : F) : Prop := stdio.unread f = [] ∧ stdio.feof f = false

theorem exhausted_entered {stdio : Stdio F} (lawful : stdio.Lawful) {f : F}
    (exhausted : stdio.Exhausted f) (call : AmbientCall) : stdio.Exhausted (stdio.entered f call) := by
  rw [Stdio.entered, Stdio.Exhausted, lawful.unread_set, lawful.feof_set]
  exact exhausted

/-- A read that met the end of file and cleared the indicator leaves an exhausted stream. -/
theorem exhausted_of_end {stdio : Stdio F} (lawful : stdio.Lawful) {f : F} {count : SizeT}
    (healthy : stdio.readFails f count = false) (some : (stdio.fread f count).1 ≠ [])
    (ended : stdio.feof (stdio.fread f count).2 = true) :
    stdio.Exhausted (stdio.clearerr (stdio.fread f count).2) := by
  have nonempty : count ≠ 0 := by
    intro zero
    rw [zero, lawful.read_empty] at some
    exact some rfl
  have cleared : stdio.feof f = false := by
    cases before : stdio.feof f with
    | false => rfl
    | true =>
        rw [lawful.read_ended f count before] at some
        exact absurd rfl some
  obtain ⟨_, left, last⟩ := lawful.read_whole f count nonempty cleared healthy
  have short := last.mp ended
  constructor
  · rw [lawful.unread_clear, left, List.drop_of_length_le (Nat.le_of_lt short)]
  · exact lawful.feof_clear _

/-- A read leaves the state of `fread` with clear indicators. -/
theorem callStream_read {stdio : Stdio F} (lawful : stdio.Lawful) (f : F) (call : AmbientCall) :
    ∃ reply, callStream stdio f (.read call) =
      .ok (reply, stdio.clearerr (stdio.fread (stdio.entered f call) call.pLen).2) :=
  ⟨_, readStream_eq (lawful.read_room _ _)⟩

/-- Empty reads leave an exhausted stream exhausted. -/
theorem exhausted_empty_reads {stdio : Stdio F} (lawful : stdio.Lawful) {f : F}
    (exhausted : stdio.Exhausted f) {calls : List AmbientCall} (empty : ∀ call ∈ calls, call.pLen = 0) :
    ∃ replies reached, (callStream stdio).run f (calls.map StreamCall.read) = .ok (replies, reached) ∧
      stdio.Exhausted reached := by
  induction calls generalizing f with
  | nil => exact ⟨[], f, rfl, exhausted⟩
  | cons call calls ih =>
      obtain ⟨first, others⟩ := List.forall_mem_cons.mp empty
      obtain ⟨reply, stepped⟩ := callStream_read lawful f call
      rw [first, lawful.read_empty] at stepped
      have entered := exhausted_entered lawful exhausted call
      have cleared : stdio.Exhausted (stdio.clearerr (stdio.entered f call)) :=
        ⟨(lawful.unread_clear _).trans entered.1, lawful.feof_clear _⟩
      obtain ⟨replies, reached, ran, kept⟩ := ih cleared others
      refine ⟨reply :: replies, reached, ?_, kept⟩
      rw [List.map_cons, Machine.run_cons_of_ok _ stepped, ran]
      rfl

/-- A nonempty read of an exhausted stream reports no bytes and `EOF`, unless the device fails. -/
theorem exhausted_read {stdio : Stdio F} (lawful : stdio.Lawful) {f : F}
    (exhausted : stdio.Exhausted f) {call : AmbientCall} (nonempty : call.pLen ≠ 0)
    (healthy : stdio.readFails (stdio.entered f call) call.pLen = false) :
    ∃ final, callStream stdio f (.read call) = .ok (⟨0, eof⟩, final) := by
  obtain ⟨nothing, cleared⟩ := exhausted_entered lawful exhausted call
  obtain ⟨code, stepped, ended, _⟩ := read_code lawful f call
  obtain ⟨bytes, _, last⟩ := lawful.read_whole _ _ nonempty cleared healthy
  rw [nothing, List.take_nil] at bytes
  rw [nothing] at last
  have ends := ended ⟨bytes, last.mpr ((toNat_pos_iff call.pLen).mpr nonempty)⟩
  rw [bytes, ends] at stepped
  exact ⟨_, stepped⟩

/-- Over any run of reads and writes with any `errno` before each call, the reported errors are those of
the stream calls exactly when every call fails by itself or starts with a clear stream. After a read that
delivers bytes and meets end of file, the next nonempty read reports no bytes and `EOF`. -/
theorem stream_reports_iff (stdio : Stdio F) (lawful : stdio.Lawful) (f : F) :
    (∀ calls : List StreamCall,
      (callStream stdio).Always (ReportsFailure stdio) f calls ↔
        (callStream stdio).Guarded (ErrnoSettled stdio) f calls) ∧
    ∀ call : AmbientCall, stdio.readFails (stdio.entered f call) call.pLen = false →
      (stdio.fread (stdio.entered f call) call.pLen).1 ≠ [] →
      stdio.feof (stdio.fread (stdio.entered f call) call.pLen).2 = true →
      ∀ idle : List AmbientCall, (∀ call ∈ idle, call.pLen = 0) →
      ∃ replies reached, (callStream stdio).run f (.read call :: idle.map StreamCall.read) =
          .ok (replies, reached) ∧
        ∀ next : AmbientCall, next.pLen ≠ 0 →
          stdio.readFails (stdio.entered reached next) next.pLen = false →
          ∃ final, callStream stdio reached (.read next) = .ok (⟨0, eof⟩, final) := by
  constructor
  · intro calls
    apply Machine.always_iff_guarded
    intro f call
    cases call with
    | read call => exact read_exact lawful f call
    | write call => exact write_exact lawful f call
  · intro call healthy some ended idle empty
    obtain ⟨reply, stepped⟩ := callStream_read lawful f call
    have exhausted := exhausted_of_end lawful healthy some ended
    obtain ⟨replies, reached, ran, kept⟩ := exhausted_empty_reads lawful exhausted empty
    refine ⟨reply :: replies, reached, ?_, fun next nonempty fine => ?_⟩
    · rw [Machine.run_cons_of_ok _ stepped, ran]
      rfl
    · exact exhausted_read lawful kept nonempty fine

/-- A read takes both bytes of the stream and meets its end, and a write goes to a full device. -/
theorem stream_reports_full :
    ((callStream bufferedStdio).Always (ReportsFailure bufferedStdio) (fullDevice [7, 8])
        [.read ⟨⟨[0, 0, 0], 3, by simp⟩, 0⟩, .write ⟨⟨[1, 2, 3], 3, by simp⟩, 5⟩] ↔
      (callStream bufferedStdio).Guarded (ErrnoSettled bufferedStdio) (fullDevice [7, 8])
        [.read ⟨⟨[0, 0, 0], 3, by simp⟩, 0⟩, .write ⟨⟨[1, 2, 3], 3, by simp⟩, 5⟩]) ∧
    ∃ replies reached, (callStream bufferedStdio).run (fullDevice [7, 8])
        (.read ⟨⟨[0, 0, 0], 3, by simp⟩, 0⟩ :: [⟨⟨[], 0, by simp⟩, 4⟩].map StreamCall.read) =
          .ok (replies, reached) ∧
      ∀ next : AmbientCall, next.pLen ≠ 0 →
        bufferedStdio.readFails (bufferedStdio.entered reached next) next.pLen = false →
        ∃ final, callStream bufferedStdio reached (.read next) = .ok (⟨0, eof⟩, final) := by
  obtain ⟨runs, ends⟩ := stream_reports_iff bufferedStdio bufferedStdio_lawful (fullDevice [7, 8])
  refine ⟨runs _, ends ⟨⟨[0, 0, 0], 3, by simp⟩, 0⟩ rfl (by decide) rfl _ ?_⟩
  simp

/-- A successful read reports the error number that an earlier library call has left behind. -/
theorem stream_reports_stale :
    ¬(callStream bufferedStdio).Always (ReportsFailure bufferedStdio) (fullDevice [7, 8])
      [.read ⟨⟨[0], 1, by simp⟩, 2⟩] := by
  rintro ⟨reply, next, stepped, ⟨reports, _⟩, _⟩
  have read : callStream bufferedStdio (fullDevice [7, 8]) (.read ⟨⟨[0], 1, by simp⟩, 2⟩) =
      .ok (⟨1, 2⟩, _) := rfl
  rw [read] at stepped
  cases stepped
  rcases reports.mp (by decide) with failed | ⟨nothing, _⟩
  · cases failed
  · cases nothing

end Xstd.Io
