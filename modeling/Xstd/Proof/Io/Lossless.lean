import Xstd.Construction.Io.Clients
import Xstd.Proof.Io.BufReader
import Xstd.Proof.Io.Stdio

/-
This file proves that a stack of readers hands over what its stream holds, in order and without a gap.
-/

namespace Xstd.Io

open Library

variable {S F : Type}

/-- A read takes the counted bytes from the front of what the reader holds, and it reports `EOF` only when
the reader holds no more. -/
structure ReadResult.Takes (valid : S → Prop) (held : S → List UInt8) (impl : S) (p : List UInt8)
    (pLen stored : SizeT) (result : ReadResult S) : Prop where
  counted : result.n = some stored
  bound : stored ≤ pLen
  sized : result.p.length = p.length
  valid : valid result.impl
  account : result.p.take stored.toNat ++ held result.impl = held impl
  ended : result.err = some eof → held result.impl = []

/-- Every read with its count set to 0 before it takes the bytes that it counts. -/
def Lossless (reader : Reader S) (valid : S → Prop) (held : S → List UInt8) : Prop :=
  ∀ impl p pLen err, valid impl → err ≠ some eof → pLen.toNat ≤ p.length →
    ∃ result stored, readerRead reader impl p pLen (some 0) err = .ok result ∧
      result.Takes valid held impl p pLen stored

/-- A level keeps `EOF` only over a reader that holds no more. -/
structure BufReader.ValidOver (valid : S → Prop) (held : S → List UInt8) (b : BufReader S) : Prop where
  cursors : b.Valid
  reader : valid b.reader
  ended : b.readErr = eof → held b.reader = []

/-- A level holds its window and what the reader below it holds. -/
def BufReader.heldOver (held : S → List UInt8) (b : BufReader S) : List UInt8 :=
  b.window ++ held b.reader

section BufReader

variable {reader : Reader S} {valid : S → Prop} {held : S → List UInt8}

/-- A copy takes the front of the window. -/
theorem bufReaderCopy_takes {b : BufReader S} (sound : b.ValidOver valid held) {p : List UInt8}
    {pLen : SizeT} (room : pLen.toNat ≤ p.length) {err : Option Int} (quiet : err ≠ some eof) :
    ∃ result stored, bufReaderCopy b (b.read - b.write) p pLen (some 0) err = .ok result ∧
      result.Takes (BufReader.ValidOver valid held) (BufReader.heldOver held) b p pLen stored := by
  have length : (b.window.take pLen.toNat).length = min b.window.length pLen.toNat := by
    rw [List.length_take, Nat.min_comm]
  have small : min b.window.length pLen.toNat ≤ pLen.toNat := Nat.min_le_right _ _
  refine ⟨_, _, bufReaderCopy_eq sound.cursors p pLen room (some 0) err, rfl, ofNat_le_of_le small, ?_,
    ⟨sound.cursors.advance_valid pLen, sound.reader, sound.ended⟩, ?_, fun code => absurd code quiet⟩
  · rw [List.length_append, List.length_drop, length]
    omega
  · rw [toNat_ofNat_of_le small, ← length, List.take_left, BufReader.heldOver,
      sound.cursors.advance_window, ← List.append_assoc, List.take_append_drop]
    rfl

/-- A read that stores nothing takes nothing. -/
theorem takes_nothing {b next : BufReader S} (sound : next.ValidOver valid held)
    (same : next.heldOver held = b.heldOver held) (p : List UInt8) (pLen : SizeT) {err : Option Int}
    (ended : err = some eof → next.heldOver held = []) :
    (ReadResult.mk next p (some 0) err).Takes (BufReader.ValidOver valid held) (BufReader.heldOver held) b
      p pLen 0 where
  counted := rfl
  bound := UInt64.zero_le
  sized := rfl
  valid := sound
  account := same
  ended := ended

/-- An empty window over a reader that holds no more is the end. -/
theorem BufReader.ValidOver.heldOver_nil {b : BufReader S} (sound : b.ValidOver valid held)
    (drained : b.window = []) (code : store (some (0 : Int)) b.readErr = some eof) :
    b.heldOver held = [] := by
  rw [heldOver, drained, sound.ended (Option.some.inj code), List.nil_append]

/-- A refill brings the bytes of the source into the window. -/
theorem refilled_holds {b : BufReader S} (sound : b.ValidOver valid held) (drained : b.window = [])
    (clear : b.readErr = 0) {result : ReadResult S} {stored : SizeT}
    (taken : result.Takes valid held b.reader b.buf b.bufLen stored) :
    (b.refilled result).ValidOver valid held ∧
      (b.refilled result).heldOver held = b.heldOver held := by
  have count : result.n.getD 0 = stored := by rw [taken.counted, Option.getD_some]
  refine ⟨⟨BufReader.refilled_valid ?_ ?_, taken.valid, fun code => taken.ended ?_⟩, ?_⟩
  · rw [count]
    exact taken.bound
  · rw [taken.sized, sound.cursors.sized]
  · have recorded : result.err.getD b.readErr = eof := code
    cases reported : result.err with
    | none =>
        rw [reported, clear] at recorded
        exact absurd recorded (by decide)
    | some err =>
        rw [reported] at recorded
        exact congrArg some recorded
  · rw [BufReader.heldOver, BufReader.refilled_window, count, BufReader.heldOver, drained]
    exact taken.account

/-- A read longer than the array takes what the reader below it hands over. -/
theorem bypass_takes (lossless : Lossless reader valid held) {b : BufReader S}
    (sound : b.ValidOver valid held) (drained : b.window = []) (clear : b.readErr = 0) {p : List UInt8}
    {pLen : SizeT} (large : b.bufLen < pLen) (room : pLen.toNat ≤ p.length) {err : Option Int}
    (quiet : err ≠ some eof) :
    ∃ result stored, readerRead (bufReader reader) b p pLen (some 0) err = .ok result ∧
      result.Takes (BufReader.ValidOver valid held) (BufReader.heldOver held) b p pLen stored := by
  have cursors := sound.cursors
  obtain ⟨result, stored, called, taken⟩ := lossless b.reader p pLen err sound.reader quiet room
  refine ⟨_, stored, bufReaderRead_bypass reader cursors drained clear large called, taken.counted,
    taken.bound, taken.sized, ⟨cursors.withReader_valid _, taken.valid, fun code => ?_⟩, ?_, ?_⟩
  · exact absurd (clear.symm.trans code) (by decide)
  · rw [BufReader.heldOver, BufReader.withReader_window, BufReader.heldOver, drained]
    exact taken.account
  · intro code
    rw [BufReader.heldOver, BufReader.withReader_window, drained]
    exact taken.ended code

/-- A shorter read fills the window, and it takes nothing if the window stays empty. -/
theorem refill_takes (lossless : Lossless reader valid held) {b : BufReader S}
    (sound : b.ValidOver valid held) (drained : b.window = []) (clear : b.readErr = 0) {p : List UInt8}
    {pLen : SizeT} (nonempty : pLen ≠ 0) (small : pLen ≤ b.bufLen) (room : pLen.toNat ≤ p.length)
    {err : Option Int} (quiet : err ≠ some eof) :
    ∃ result stored, readerRead (bufReader reader) b p pLen (some 0) err = .ok result ∧
      result.Takes (BufReader.ValidOver valid held) (BufReader.heldOver held) b p pLen stored := by
  have cursors := sound.cursors
  obtain ⟨result, stored, called, taken⟩ := lossless b.reader b.buf b.bufLen (some 0) sound.reader
    (by decide) (Nat.le_of_eq cursors.sized.symm)
  obtain ⟨filled, same⟩ := refilled_holds sound drained clear taken
  by_cases dry : result.n.getD 0 = 0
  · have window : (b.refilled result).window = [] := by
      rw [BufReader.refilled_window, dry]
      exact List.take_zero
    refine ⟨_, 0, bufReaderRead_dry reader cursors drained clear p nonempty small _ err called dry,
      takes_nothing filled same p pLen fun code => ?_⟩
    cases err with
    | none => cases code
    | some _ => exact filled.heldOver_nil window code
  · obtain ⟨copied, count, copy, moved⟩ := bufReaderCopy_takes filled room quiet
    refine ⟨copied, count, ?_, moved.counted, moved.bound, moved.sized, moved.valid,
      moved.account.trans same, moved.ended⟩
    exact (bufReaderRead_refill reader cursors drained clear p nonempty small _ err called dry).trans copy

/-- Buffering loses nothing, whichever path a read takes. -/
theorem bufReader_lossless (lossless : Lossless reader valid held) :
    Lossless (bufReader reader) (BufReader.ValidOver valid held) (BufReader.heldOver held) := by
  intro b p pLen err sound quiet room
  have cursors := sound.cursors
  by_cases empty : pLen = 0
  · subst empty
    exact ⟨_, 0, bufReaderRead_empty reader b p (some 0) err,
      takes_nothing sound rfl p 0 fun code => absurd code quiet⟩
  by_cases drained : b.window = []
  · by_cases clear : b.readErr = 0
    · by_cases large : b.bufLen < pLen
      · exact bypass_takes lossless sound drained clear large room quiet
      · exact refill_takes lossless sound drained clear empty (UInt64.not_lt.mp large) room quiet
    · refine ⟨_, 0, bufReaderRead_sticky reader cursors drained clear p empty (some 0) err,
        takes_nothing sound rfl p pLen fun code => ?_⟩
      cases err with
      | none => cases code
      | some _ => exact sound.heldOver_nil drained code
  · obtain ⟨result, stored, copied, taken⟩ := bufReaderCopy_takes sound room quiet
    refine ⟨result, stored, ?_, taken⟩
    rw [← copied, bufReaderCopy_eq cursors p pLen room]
    exact bufReaderRead_drain reader cursors drained p empty room (some 0) err

end BufReader

/-- The windows from the top to the bottom, and then what the stream holds. -/
def stackHeld (held : S → List UInt8) : (depth : ℕ) → StackState S depth → List UInt8
  | 0 => held
  | depth + 1 => BufReader.heldOver (stackHeld held depth)

/-- Every level of a stack is valid, and so is its stream. -/
def StackValid (valid : S → Prop) (held : S → List UInt8) : (depth : ℕ) → StackState S depth → Prop
  | 0 => valid
  | depth + 1 => BufReader.ValidOver (StackValid valid held depth) (stackHeld held depth)

theorem stack_lossless {reader : Reader S} {valid : S → Prop} {held : S → List UInt8}
    (lossless : Lossless reader valid held) (depth : ℕ) :
    Lossless (stackReader reader depth) (StackValid valid held depth) (stackHeld held depth) := by
  induction depth with
  | zero => exact lossless
  | succ depth ih => exact bufReader_lossless ih

section Stack

variable {valid : S → Prop} {held : S → List UInt8}

theorem StackValid.imp {later : S → Prop} (weaker : ∀ source, valid source → later source) {depth : ℕ}
    {state : StackState S depth} (sound : StackValid valid held depth state) :
    StackValid later held depth state := by
  induction depth with
  | zero => exact weaker state sound
  | succ depth ih => exact ⟨sound.cursors, ih sound.reader, sound.ended⟩

theorem StackValid.source {depth : ℕ} {state : StackState S depth}
    (sound : StackValid valid held depth state) : valid (stackSource depth state) := by
  induction depth with
  | zero => exact sound
  | succ depth ih => exact ih sound.reader

/-- A stack that was just built holds the bytes of its stream. -/
theorem stackInit_holds (held : S → List UInt8) {source : S} (sound : valid source) (areas : List Area) :
    StackValid valid held areas.length (stackInit source areas) ∧
      stackHeld held areas.length (stackInit source areas) = held source := by
  induction areas with
  | nil => exact ⟨sound, rfl⟩
  | cons area below ih =>
      refine ⟨⟨bufReaderInit_valid _ area, ih.1, fun code => ?_⟩, ?_⟩
      · exact absurd (show (0 : Int) = eof from code) (by decide)
      · show (bufReaderInit (stackInit source below) area).window ++ _ = _
        rw [bufReaderInit_window]
        exact ih.2

/-- Another stream with the same bytes changes neither the levels nor what the stack holds. -/
theorem stackWithSource_holds {later : S → Prop} {depth : ℕ} {state : StackState S depth} {source : S}
    (sound : StackValid valid held depth state) (fresh : later source)
    (same : held source = held (stackSource depth state)) :
    StackValid later held depth (stackWithSource depth state source) ∧
      stackHeld held depth (stackWithSource depth state source) = stackHeld held depth state := by
  induction depth with
  | zero => exact ⟨fresh, same⟩
  | succ depth ih =>
      obtain ⟨lower, kept⟩ := ih sound.reader same
      refine ⟨⟨sound.cursors.withReader_valid _, lower, fun code => kept.trans (sound.ended code)⟩, ?_⟩
      exact congrArg (BufReader.window state ++ ·) kept

end Stack

/-- A read takes its bytes from the front of the unread ones, and neither `errno` nor the indicators move
them. A sound stream is at its end only without unread bytes, and its failures are no `EOF`. -/
structure Stdio.Orderly (stdio : Stdio F) (sound : F → Prop) : Prop where
  read_room : ∀ f count, (stdio.fread f count).1.length ≤ count.toNat
  read_front : ∀ f count,
    (stdio.fread f count).1 ++ stdio.unread (stdio.fread f count).2 = stdio.unread f
  read_sound : ∀ f count, sound f → sound (stdio.fread f count).2
  read_errno : ∀ f count, sound f → stdio.errno f ≠ eof → stdio.errno (stdio.fread f count).2 ≠ eof
  ended : ∀ f, sound f → stdio.feof f = true → stdio.unread f = []
  errno_set : ∀ f errno, stdio.errno (stdio.setErrno f errno) = errno
  unread_set : ∀ f errno, stdio.unread (stdio.setErrno f errno) = stdio.unread f
  sound_set : ∀ f errno, sound f → sound (stdio.setErrno f errno)
  errno_clear : ∀ f, stdio.errno (stdio.clearerr f) = stdio.errno f
  unread_clear : ∀ f, stdio.unread (stdio.clearerr f) = stdio.unread f
  sound_clear : ∀ f, sound f → sound (stdio.clearerr f)

section Stream

variable {stdio : Stdio F} {sound : F → Prop}

/-- The stream that a call meets. -/
def Stdio.Met (stdio : Stdio F) (sound : F → Prop) (f : F) : Prop := sound f ∧ stdio.errno f ≠ eof

theorem Stdio.Orderly.settle (orderly : stdio.Orderly sound) {f : F} (met : stdio.Met sound f)
    (err : Option Int) :
    stdio.Met sound (settled stdio err f) ∧ stdio.unread (settled stdio err f) = stdio.unread f := by
  cases err with
  | none => exact ⟨met, rfl⟩
  | some _ =>
      refine ⟨⟨orderly.sound_clear f met.1, ?_⟩, orderly.unread_clear f⟩
      show stdio.errno (stdio.clearerr f) ≠ eof
      rw [orderly.errno_clear]
      exact met.2

theorem Stdio.Orderly.lossless (orderly : stdio.Orderly sound) :
    Lossless stdio.fileReader (stdio.Met sound) stdio.unread := by
  intro f p pLen err met quiet room
  have small := orderly.read_room f pLen
  have fits := Nat.le_trans small room
  have after : stdio.Met sound (stdio.fread f pLen).2 :=
    ⟨orderly.read_sound f pLen met.1, orderly.read_errno f pLen met.1 met.2⟩
  obtain ⟨left, same⟩ := orderly.settle after err
  refine ⟨_, _, Stdio.fileReaderRead_eq fits (some 0) err, rfl, ofNat_le_of_le small, ?_, left, ?_,
    fun code => ?_⟩
  · rw [List.length_append, List.length_drop]
    omega
  · rw [toNat_ofNat_of_le small, List.take_left, same]
    exact orderly.read_front f pLen
  · rw [same]
    cases err with
    | none => cases code
    | some _ =>
        have code := Option.some.inj code
        split at code
        · rename_i atEnd
          exact orderly.ended _ after.1 atEnd.2
        · exact absurd code after.2

/-- The bytes that a client takes from its array after a read. -/
def StackCall.taken (call : StackCall) (reply : Observation) : List UInt8 :=
  (reply.p.drop call.front.length).take (reply.n.getD 0).toNat

/-- The client reads with its count set to 0, and `*err` does not hold `EOF` before the call, since a read
that serves its window leaves `*err` alone. No library call leaves `EOF` in `errno`. -/
structure StackCall.Reads (call : StackCall) : Prop where
  op : call.op = .read
  n : call.n = some 0
  err : call.err ≠ some eof
  errno : call.errno ≠ eof

instance (call : StackCall) : Decidable call.Reads :=
  decidable_of_iff (call.op = .read ∧ call.n = some 0 ∧ call.err ≠ some eof ∧ call.errno ≠ eof)
    ⟨fun all => ⟨all.1, all.2.1, all.2.2.1, all.2.2.2⟩,
      fun reads => ⟨reads.op, reads.n, reads.err, reads.errno⟩⟩

/-- A read of a client takes the front of what its stack holds, and only the last one is an `EOF`. -/
theorem stackStep_takes (orderly : stdio.Orderly sound) {closer : Closer F} {depth : ℕ}
    {state next : StackState F depth} {call : StackCall} {reply : Observation}
    (valid : StackValid sound stdio.unread depth state) (reads : call.Reads)
    (stepped : stackStep stdio closer depth state call = .ok (reply, next)) :
    StackValid sound stdio.unread depth next ∧
      call.taken reply ++ stackHeld stdio.unread depth next = stackHeld stdio.unread depth state ∧
      (reply.err = some eof → stackHeld stdio.unread depth next = []) := by
  have met : stdio.Met sound (stdio.setErrno (stackSource depth state) call.errno) := by
    refine ⟨orderly.sound_set _ _ valid.source, ?_⟩
    rw [orderly.errno_set]
    exact reads.errno
  obtain ⟨ready, same⟩ := stackWithSource_holds valid met
    (orderly.unread_set (stackSource depth state) call.errno)
  obtain ⟨result, stored, called, taken⟩ := stack_lossless orderly.lossless depth
    (stackWithSource depth state (stdio.setErrno (stackSource depth state) call.errno)) call.p call.pLen
    call.err ready reads.err call.room
  simp only [stackStep, reads.op, reads.n, called] at stepped
  cases stepped
  refine ⟨taken.valid.imp fun _ met => met.1, ?_, taken.ended⟩
  rw [StackCall.taken, List.drop_left, taken.counted, Option.getD_some, taken.account, same]

end Stream

/-- The input side is at its end only without unread bytes, and its failure is no `EOF`. -/
structure File.Sound (f : File) : Prop where
  ended : f.atEof = true → f.rest = []
  failure : ∀ good code, f.failure = some (good, code) → code ≠ eof

/-- The paths of `fread` split the unread bytes and keep the stream sound. -/
theorem fread_orderly (f : File) (count : SizeT) :
    (fread f count).1 ++ (fread f count).2.rest = f.rest ∧
      (f.Sound → (fread f count).2.Sound ∧ (f.errno ≠ eof → (fread f count).2.errno ≠ eof)) := by
  rw [fread]
  split
  · exact ⟨rfl, fun sound => ⟨sound, id⟩⟩
  · rename_i busy
    split
    · refine ⟨List.take_append_drop _ _, fun sound => ⟨⟨fun ended => ?_, ?_⟩, id⟩⟩
      · exact List.drop_of_length_le (Nat.le_of_lt (of_decide_eq_true ended))
      · exact sound.failure
    · rename_i good code failing
      split
      · refine ⟨List.take_append_drop _ _, fun sound => ⟨⟨fun ended => ?_, ?_⟩, fun _ => ?_⟩⟩
        · exact absurd (Or.inr ended) busy
        · intro _ _ later
          cases later
        · exact sound.failure good code failing
      · refine ⟨List.take_append_drop _ _, fun sound => ⟨⟨fun ended => ?_, ?_⟩, id⟩⟩
        · exact List.drop_of_length_le (Nat.le_of_lt (of_decide_eq_true ended))
        · intro _ _ later
          cases later
          exact sound.failure good code failing

theorem bufferedStdio_orderly : bufferedStdio.Orderly fun f => f.input.Sound where
  read_room := bufferedStdio_lawful.read_room
  read_front f count := (fread_orderly f.input count).1
  read_sound f count sound := ((fread_orderly f.input count).2 sound).1
  read_errno f count sound := ((fread_orderly f.input count).2 sound).2
  ended _ sound := sound.ended
  errno_set _ _ := rfl
  unread_set _ _ := rfl
  sound_set _ _ sound := ⟨sound.ended, sound.failure⟩
  errno_clear _ := rfl
  unread_clear _ := rfl
  sound_clear _ sound := ⟨fun ended => absurd ended Bool.false_ne_true, sound.failure⟩

theorem openFile_sound (contents : List UInt8) : (openFile contents).Sound where
  ended ended := absurd ended Bool.false_ne_true
  failure _ _ failing := absurd failing.symm (Option.some_ne_none _)

end Xstd.Io
