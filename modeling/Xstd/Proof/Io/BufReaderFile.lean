import Xstd.Construction.Io.FileReader
import Xstd.Proof.Io.BufReaderPull

/-
This file proves when a `BufReader` over a `FileReader` delivers the whole file.
-/

namespace Xstd.Io

open Library

/-- The file after a read of so many bytes that met no failure. -/
def File.advance (f : File) (count : Nat) : File :=
  { f with rest := f.rest.drop count, atEof := false, inError := false }

/-- Without a failure the reply carries `errno`, unless the file is at its end. -/
theorem fileReader_pull {f : File} (healthy : f.failure = none) (cleared : f.atEof = false)
    (request : NonemptyRequest) :
    pull fileReader f request.toRequest =
      .ok ((f.rest.take request.pLen.toNat, if f.rest = [] then eof else f.errno),
        f.advance request.pLen.toNat) := by
  have room := request.room
  have positive := request.positive
  have got : fread f request.pLen = (f.rest.take request.pLen.toNat,
      { f with
        rest := f.rest.drop request.pLen.toNat
        atEof := decide (f.rest.length < request.pLen.toNat) }) := by
    simp [fread, healthy, cleared, request.nonempty]
  have length : (f.rest.take request.pLen.toNat).length ≤ request.pLen.toNat := by
    rw [List.length_take]
    exact Nat.min_le_left _ _
  have ending : (f.rest.take request.pLen.toNat).length = 0 ∧
      decide (f.rest.length < request.pLen.toNat) = true ↔ f.rest = [] := by
    rw [List.length_take, decide_eq_true_iff, ← List.length_eq_zero_iff]
    omega
  have called : readerRead fileReader f request.p request.pLen (some 0) (some 0) =
      .ok ⟨f.advance request.pLen.toNat,
        f.rest.take request.pLen.toNat ++
          request.p.drop (f.rest.take request.pLen.toNat).length,
        some (UInt64.ofNat (f.rest.take request.pLen.toNat).length),
        some (if f.rest = [] then eof else f.errno)⟩ := by
    have fits : (f.rest.take request.pLen.toNat).length ≤ request.p.length :=
      Nat.le_trans length room
    simp only [readerRead, fileReader, fileReaderRead, got, memcpy, Nat.zero_add]
    rw [if_pos ⟨Nat.le_refl _, fits⟩]
    simp only [feof, store_some, ending, List.take_zero, List.nil_append, List.drop_zero,
      List.take_length]
    rfl
  exact pull_of_chunk called length

/-- The file below has met no failure, and its end-of-file indicator is clear. -/
structure BufReader.Healthy (b : BufReader File) : Prop where
  valid : b.Valid
  noFailure : b.reader.failure = none
  cleared : b.reader.atEof = false

/-- A call that reaches the file while bytes are left finds a clear `errno`. The one exception is a
value equal to `EOF` during the read that takes all the bytes that are left. -/
def Undisturbed (b : BufReader File) (request : AmbientRequest) : Prop :=
  b.window = [] → b.readErr = 0 → b.reader.rest ≠ [] →
    request.errno = 0 ∨ (request.errno = eof ∧
      b.reader.rest.length ≤ (if b.bufLen < request.pLen then request.pLen else b.bufLen).toNat)

theorem withErrno_valid {b : BufReader File} (valid : b.Valid) (errno : Int) :
    (b.withErrno errno).Valid := ⟨valid.ordered, valid.within, valid.sized⟩

/-- A recorded error ends the stream with the window, whatever the file still holds. -/
theorem ends_of_recorded {b : BufReader File} {code final : Int} (nonzero : code ≠ 0)
    (ending : final ≠ 0) (valid : b.Valid) (recorded : b.readErr = code)
    (inputs : ℕ → AmbientRequest) (data : List UInt8) :
    Pull.Ends pullAmbient b inputs data final ↔ code = final ∧ b.window = data := by
  induction length : b.window.length using Nat.strong_induction_on generalizing b inputs data with
  | _ size ih =>
      have valid' := withErrno_valid valid (inputs 0).errno
      by_cases drained : b.window = []
      · have failed : b.readErr ≠ 0 := by rw [recorded]; exact nonzero
        have stepped : pullAmbient b (inputs 0) =
            .ok (([], b.readErr), b.withErrno (inputs 0).errno) :=
          pull_sticky fileReader valid' drained failed (inputs 0).nonempty
        rw [Pull.ends_iff stepped, recorded, drained]
        simp [nonzero]
      · have stepped : pullAmbient b (inputs 0) =
            .ok ((b.window.take (inputs 0).pLen.toNat, 0),
              (b.withErrno (inputs 0).errno).advance (inputs 0).pLen) :=
          pull_drain fileReader valid' drained (inputs 0).nonempty
        have window : ((b.withErrno (inputs 0).errno).advance (inputs 0).pLen).window =
            b.window.drop (inputs 0).pLen.toNat := valid'.advance_window _
        have positive := (inputs 0).positive
        have held := List.length_pos_iff.mpr drained
        have shorter : (b.window.drop (inputs 0).pLen.toNat).length < size := by
          rw [List.length_drop]
          omega
        have tail := fun rest => ih _ (by rw [window]; exact shorter)
          (valid'.advance_valid (inputs 0).pLen) recorded
          (fun later => inputs (later + 1)) rest rfl
        rw [Pull.ends_iff stepped]
        constructor
        · rintro (⟨zero, _⟩ | ⟨_, rest, equal, ends⟩)
          · exact absurd zero.symm ending
          · obtain ⟨same, remains⟩ := (tail rest).mp ends
            refine ⟨same, ?_⟩
            rw [equal, ← remains, window, List.take_append_drop]
        · rintro ⟨same, whole⟩
          refine Or.inr ⟨rfl, b.window.drop (inputs 0).pLen.toNat, ?_, (tail _).mpr ⟨same, window⟩⟩
          rw [List.take_append_drop, whole]

/-- No later call reaches the file once an error is recorded. -/
theorem undisturbed_of_recorded {b : BufReader File} (valid : b.Valid) (failed : b.readErr ≠ 0)
    (inputs : ℕ → AmbientRequest) : Pull.WhileQuiet pullAmbient Undisturbed b inputs := by
  refine Pull.whileQuiet_of_invariant (fun b => b.Valid ∧ b.readErr ≠ 0) ?_ ?_ ⟨valid, failed⟩ inputs
  · intro b request ⟨_, failed⟩ _ clear
    exact absurd clear failed
  · intro b request chunk next ⟨valid, failed⟩ stepped
    have valid' := withErrno_valid valid request.errno
    by_cases drained : b.window = []
    · have read := pull_sticky fileReader valid' drained failed request.nonempty
      rw [show pull (bufReader fileReader) (b.withErrno request.errno) request.toRequest = _ from
        stepped] at read
      have same : chunk = [] ∧ 0 = b.readErr ∧ next = b.withErrno request.errno := by
        simpa [BufReader.withErrno, and_assoc] using read
      exact absurd same.2.1.symm failed
    · have read := pull_drain fileReader valid' drained request.nonempty
      rw [show pull (bufReader fileReader) (b.withErrno request.errno) request.toRequest = _ from
        stepped] at read
      obtain ⟨_, rfl⟩ := Prod.mk.inj (Except.ok.inj read)
      exact ⟨valid'.advance_valid _, failed⟩

/-- At a call that reaches the file with bytes left, the condition concerns only `errno`. -/
theorem undisturbed_iff {b : BufReader File} (request : AmbientRequest) (drained : b.window = [])
    (clear : b.readErr = 0) (left : b.reader.rest ≠ []) {capacity : SizeT}
    (asked : (if b.bufLen < request.pLen then request.pLen else b.bufLen) = capacity) :
    Undisturbed b request ↔ request.errno = 0 ∨
      (request.errno = eof ∧ b.reader.rest.take capacity.toNat = b.reader.rest) := by
  rw [Undisturbed, asked, List.take_eq_self_iff]
  exact ⟨fun holds => holds drained clear left, fun holds _ _ _ => holds⟩

/-- The stream ends well from the state exactly when no call is disturbed. -/
def EndsUndisturbed (b : BufReader File) (inputs : ℕ → AmbientRequest) : Prop :=
  Pull.Ends pullAmbient b inputs (b.window ++ b.reader.rest) eof ↔
    Pull.WhileQuiet pullAmbient Undisturbed b inputs

/-- A drain passes the question on. -/
theorem endsUndisturbed_drain {b : BufReader File} (valid : b.Valid) (held : b.window ≠ [])
    {inputs : ℕ → AmbientRequest}
    (tail : EndsUndisturbed ((b.withErrno (inputs 0).errno).advance (inputs 0).pLen)
      fun later => inputs (later + 1)) : EndsUndisturbed b inputs := by
  have valid' := withErrno_valid valid (inputs 0).errno
  have stepped : pullAmbient b (inputs 0) =
      .ok ((b.window.take (inputs 0).pLen.toNat, 0),
        (b.withErrno (inputs 0).errno).advance (inputs 0).pLen) :=
    pull_drain fileReader valid' held (inputs 0).nonempty
  have window : ((b.withErrno (inputs 0).errno).advance (inputs 0).pLen).window =
      b.window.drop (inputs 0).pLen.toNat := valid'.advance_window _
  rw [EndsUndisturbed, window] at tail
  rw [EndsUndisturbed, ← List.take_append_drop (inputs 0).pLen.toNat b.window, List.append_assoc]
  exact Pull.ends_iff_whileQuiet_of_silent eof_ne_zero stepped
    (fun drained => absurd drained held) tail

/-- A call of the file passes the question on when `errno` is clear and bytes are left. -/
theorem endsUndisturbed_bypass {b : BufReader File} (healthy : b.Healthy) (clear : b.readErr = 0)
    (drained : b.window = []) {inputs : ℕ → AmbientRequest}
    (large : b.bufLen < (inputs 0).pLen)
    (tail : b.reader.rest ≠ [] → ∀ next : BufReader File, next.Healthy → next.readErr = 0 →
      next.window = [] → next.reader.rest = b.reader.rest.drop (inputs 0).pLen.toNat →
        EndsUndisturbed next fun later => inputs (later + 1)) : EndsUndisturbed b inputs := by
  have valid' := withErrno_valid healthy.valid (inputs 0).errno
  have pulled := fileReader_pull (f := (b.withErrno (inputs 0).errno).reader)
    healthy.noFailure healthy.cleared (inputs 0).toNonemptyRequest
  have stepped := pull_bypass valid' drained clear large pulled
  change pullAmbient b (inputs 0) = .ok ((b.reader.rest.take (inputs 0).pLen.toNat,
    if b.reader.rest = [] then eof else (inputs 0).errno), _) at stepped
  rw [EndsUndisturbed, drained, List.nil_append]
  by_cases finished : b.reader.rest = []
  · rw [if_pos finished] at stepped
    rw [Pull.ends_iff_of_loud eof_ne_zero stepped, Pull.whileQuiet_iff_of_loud eof_ne_zero stepped,
      finished, List.take_nil]
    exact ⟨fun _ _ _ left => absurd finished left, fun _ => ⟨rfl, rfl⟩⟩
  · rw [if_neg finished] at stepped
    have condition := undisturbed_iff (inputs 0) drained clear finished (if_pos large)
    by_cases undisturbed : (inputs 0).errno = 0
    · have continued := tail finished _ ⟨valid'.withReader_valid
        ((b.withErrno (inputs 0).errno).reader.advance (inputs 0).pLen.toNat),
        healthy.noFailure, rfl⟩ clear drained rfl
      rw [EndsUndisturbed, BufReader.withReader_window,
        show (b.withErrno (inputs 0).errno).window = [] from drained, List.nil_append] at continued
      conv_lhs => rw [← List.take_append_drop (inputs 0).pLen.toNat b.reader.rest]
      apply Pull.ends_iff_whileQuiet_of_silent eof_ne_zero _ (condition.mpr (Or.inl undisturbed))
        continued
      rw [stepped, undisturbed]
    · rw [Pull.ends_iff_of_loud undisturbed stepped, Pull.whileQuiet_iff_of_loud undisturbed stepped,
        condition]
      exact (or_iff_right undisturbed).symm

theorem drop_take_append_drop {A : Type} (list : List A) {first second : ℕ}
    (order : first ≤ second) : (list.take second).drop first ++ list.drop second =
      list.drop first := by
  have split : list.drop second = (list.drop first).drop (second - first) := by
    rw [List.drop_drop]
    congr 1
    omega
  rw [split, List.drop_take, List.take_append_drop]

/-- A refill passes the question on when `errno` is clear and bytes are left. -/
theorem endsUndisturbed_refill {b : BufReader File} (healthy : b.Healthy) (clear : b.readErr = 0)
    (drained : b.window = []) {inputs : ℕ → AmbientRequest}
    (small : (inputs 0).pLen ≤ b.bufLen)
    (tail : b.reader.rest ≠ [] → ∀ next : BufReader File, next.Healthy → next.readErr = 0 →
      next.window ++ next.reader.rest = b.reader.rest.drop (inputs 0).pLen.toNat →
        EndsUndisturbed next fun later => inputs (later + 1)) : EndsUndisturbed b inputs := by
  have valid' := withErrno_valid healthy.valid (inputs 0).errno
  have array := (inputs 0).room_of_le small
  have order : (inputs 0).pLen.toNat ≤ b.bufLen.toNat := UInt64.le_iff_toNat_le.mp small
  have pulled := fileReader_pull (f := (b.withErrno (inputs 0).errno).reader)
    healthy.noFailure healthy.cleared ⟨BufReader.refillRequest _ valid', array⟩
  obtain ⟨next, valid, _, reached, recorded, window, served⟩ :=
    pull_refill valid' drained clear (inputs 0).nonempty small pulled
  change next.reader = File.advance { b.reader with errno := (inputs 0).errno } b.bufLen.toNat
    at reached
  change next.readErr = if b.reader.rest = [] then eof else (inputs 0).errno at recorded
  change next.window = (b.reader.rest.take b.bufLen.toNat).drop (inputs 0).pLen.toNat at window
  change pullAmbient b (inputs 0) =
    .ok (((b.reader.rest.take b.bufLen.toNat).take (inputs 0).pLen.toNat,
      if b.reader.rest.take b.bufLen.toNat = [] then
        (if b.reader.rest = [] then eof else (inputs 0).errno) else 0), next) at served
  rw [EndsUndisturbed, drained, List.nil_append]
  by_cases finished : b.reader.rest = []
  · rw [if_pos finished, if_pos (by rw [finished]; exact List.take_nil)] at served
    rw [Pull.ends_iff_of_loud eof_ne_zero served, Pull.whileQuiet_iff_of_loud eof_ne_zero served,
      finished, List.take_nil, List.take_nil]
    exact ⟨fun _ _ _ left => absurd finished left, fun _ => ⟨rfl, rfl⟩⟩
  · have positive := (inputs 0).positive
    have wet : b.reader.rest.take b.bufLen.toNat ≠ [] := by
      intro dry
      have length := congrArg List.length dry
      have left := List.length_pos_iff.mpr finished
      rw [List.length_take, List.length_nil] at length
      omega
    rw [if_neg wet, List.take_take, Nat.min_eq_left order] at served
    rw [if_neg finished] at recorded
    have condition := undisturbed_iff (inputs 0) drained clear finished
      (if_neg (UInt64.not_lt.mpr small))
    have remaining : next.window ++ next.reader.rest =
        b.reader.rest.drop (inputs 0).pLen.toNat := by
      rw [window, reached]
      exact drop_take_append_drop b.reader.rest order
    by_cases undisturbed : (inputs 0).errno = 0
    · have continued := tail finished next ⟨valid, by rw [reached]; exact healthy.noFailure,
        by rw [reached]; rfl⟩ (recorded.trans undisturbed) remaining
      rw [EndsUndisturbed, remaining] at continued
      conv_lhs => rw [← List.take_append_drop (inputs 0).pLen.toNat b.reader.rest]
      exact Pull.ends_iff_whileQuiet_of_silent eof_ne_zero served
        (condition.mpr (Or.inl undisturbed)) continued
    · have failed : next.readErr ≠ 0 := by rw [recorded]; exact undisturbed
      have quiet := undisturbed_of_recorded valid failed fun later => inputs (later + 1)
      have ends := ends_of_recorded failed eof_ne_zero valid rfl fun later => inputs (later + 1)
      rw [Pull.ends_iff served, Pull.whileQuiet_iff served, condition, or_iff_right undisturbed]
      constructor
      · rintro (⟨zero, _⟩ | ⟨_, rest, equal, tail⟩)
        · exact absurd zero.symm eof_ne_zero
        · obtain ⟨same, whole⟩ := (ends rest).mp tail
          refine ⟨⟨recorded.symm.trans same, ?_⟩, fun _ => quiet⟩
          have dropped : rest = b.reader.rest.drop (inputs 0).pLen.toNat :=
            List.append_cancel_left (equal.symm.trans (List.take_append_drop _ _).symm)
          rw [whole, dropped, List.append_right_eq_self, reached] at remaining
          exact List.take_eq_self_iff _ |>.mpr (List.drop_eq_nil_iff.mp remaining)
      · rintro ⟨⟨same, whole⟩, _⟩
        refine Or.inr ⟨rfl, b.reader.rest.drop (inputs 0).pLen.toNat,
          (List.take_append_drop _ _).symm, (ends _).mpr ⟨recorded.trans same, ?_⟩⟩
        rw [window, whole]

/-- From a clear state the stream ends with `EOF` after all bytes exactly when no call is disturbed. -/
theorem endsUndisturbed {b : BufReader File} (healthy : b.Healthy) (clear : b.readErr = 0)
    (inputs : ℕ → AmbientRequest) : EndsUndisturbed b inputs := by
  -- Each silent call delivers a byte, so the induction is on the bytes that are left.
  induction length : (b.window ++ b.reader.rest).length using Nat.strong_induction_on
    generalizing b inputs with
  | _ size ih =>
      have positive := (inputs 0).positive
      by_cases drained : b.window = []
      · rw [drained, List.nil_append] at length
        have shorter : b.reader.rest ≠ [] →
            (b.reader.rest.drop (inputs 0).pLen.toNat).length < size := by
          intro left
          have some_left := List.length_pos_iff.mpr left
          rw [List.length_drop]
          omega
        by_cases large : b.bufLen < (inputs 0).pLen
        · apply endsUndisturbed_bypass healthy clear drained large
          intro left next healthy' clear' drained' rest
          exact ih _ (by rw [drained', rest]; exact shorter left) healthy' clear' _ rfl
        · apply endsUndisturbed_refill healthy clear drained (UInt64.not_lt.mp large)
          intro left next healthy' clear' remaining
          exact ih _ (by rw [remaining]; exact shorter left) healthy' clear' _ rfl
      · have valid' := withErrno_valid healthy.valid (inputs 0).errno
        apply endsUndisturbed_drain healthy.valid drained
        apply ih _ _ ⟨valid'.advance_valid _, healthy.noFailure, healthy.cleared⟩ clear _ rfl
        have held := List.length_pos_iff.mpr drained
        rw [List.length_append] at length ⊢
        rw [valid'.advance_window, List.length_drop]
        change b.window.length - _ + b.reader.rest.length < size
        omega

/-- A `BufReader` over a freshly opened file delivers the whole file and then `EOF` exactly when every
call that reaches the file with bytes left finds a clear `errno`, up to the exception above. -/
theorem bufReader_file_ends_iff (contents : List UInt8) (area : Area)
    (inputs : ℕ → AmbientRequest) :
    Pull.Ends pullAmbient (bufReaderInit (openFile contents) area) inputs contents eof ↔
      Pull.WhileQuiet pullAmbient Undisturbed (bufReaderInit (openFile contents) area) inputs := by
  have whole := endsUndisturbed (b := bufReaderInit (openFile contents) area)
    ⟨bufReaderInit_valid _ area, rfl, rfl⟩ rfl inputs
  rwa [EndsUndisturbed, bufReaderInit_window, List.nil_append] at whole

/-- `EIO` is in force when each call starts, as an earlier library call may leave it. -/
def staleErrno : ℕ → AmbientRequest := fun _ => ⟨⟨⟨[0], 1, by decide⟩, by decide⟩, 5⟩

/-- A stale error number cuts a file of three bytes after the first refill. -/
theorem bufReader_file_truncated :
    ¬Pull.Ends pullAmbient (bufReaderInit (openFile [1, 2, 3]) ⟨2, [0, 0], rfl⟩) staleErrno
      [1, 2, 3] eof := by
  have whole := endsUndisturbed (b := bufReaderInit (openFile [1, 2, 3]) ⟨2, [0, 0], rfl⟩)
    ⟨bufReaderInit_valid _ _, rfl, rfl⟩ rfl staleErrno
  rw [EndsUndisturbed, bufReaderInit_window, List.nil_append] at whole
  intro ends
  have first := whole.mp ends 0 _ rfl fun _ before => absurd before (Nat.not_lt_zero _)
  rcases first (bufReaderInit_window _ _) rfl (by decide) with zero | ⟨same, _⟩
  · exact absurd zero (by decide)
  · exact absurd same (by decide)

end Xstd.Io
