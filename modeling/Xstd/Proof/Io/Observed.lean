import Xstd.Construction.Io.Observed
import Xstd.Library.Agreement
import Xstd.Proof.Io.BufReader
import Xstd.Proof.Io.Stdio

/-
This file proves when a caller finds the same bytes and outputs whichever of its pointers are `NULL`.
-/

namespace Xstd.Io

open Library

variable {f g : File} {count pLen : SizeT} {p : List UInt8}

@[simp] theorem pointerTo_true {A : Type} (value : A) : pointerTo true value = some value := rfl

/-- A kept output is a variable in both runs. -/
theorem pointerTo_kept {A : Type} {keeps : Bool} (kept : keeps = true) (value : A) :
    some value = pointerTo keeps value := by
  rw [kept, pointerTo_true]

theorem store_kept {A : Type} {keeps : Bool} (kept : keeps = true) (old value : A) :
    store (some old) value = store (pointerTo keeps old) value := by
  rw [pointerTo_kept kept]

/-- The second stream has the same unread bytes and the same `errno`, and it may be at its end or in error
where the first one was cleared. -/
structure Twin (f g : File) : Prop where
  rest : f.rest = g.rest
  errno : f.errno = g.errno
  cleared : f.atEof = false

/-- A set end-of-file indicator makes no difference to the read: an empty read reports no code, and another
one finds no bytes and no failure anyway. -/
def File.Settled (f : File) (count : SizeT) (reports : Bool) : Prop :=
  f.atEof = true →
    if count = 0 then reports = false else f.rest = [] ∧ (clearerr f).readFails count = false

/-- The code that `file_reader_read` stores. -/
def readCode (f : File) (count : SizeT) : Int :=
  if (fread f count).1.length = 0 ∧ feof (fread f count).2 then eof else (fread f count).2.errno

theorem fileReader_read (f : File) (room : pLen.toNat ≤ p.length) (n : Option SizeT) (error : Option Int) :
    readerRead fileReader f p pLen n error =
      .ok ⟨if error.isSome then clearerr (fread f pLen).2 else (fread f pLen).2,
        (fread f pLen).1 ++ p.drop (fread f pLen).1.length,
        store n (UInt64.ofNat (fread f pLen).1.length), store error (readCode f pLen)⟩ := by
  have fits := Nat.le_trans (fread_room f pLen) room
  simp only [readerRead, fileReader, fileReaderRead, memcpy, Nat.zero_add]
  rw [if_pos ⟨Nat.le_refl _, fits⟩]
  simp only [List.take_zero, List.nil_append, List.drop_zero, List.take_length]
  cases error <;> rfl

/-- A `FileReader` sets both outputs at every call. -/
theorem fileReader_writesOnly (f : File) (request : Request) :
    ∃ answer, WritesOnly fileReader f request answer ∧ answer.n ≠ none ∧ answer.err ≠ none :=
  ⟨⟨_, _, some _, some _⟩, fun n err => fileReader_read f request.room (some n) (some err),
    Option.some_ne_none _, Option.some_ne_none _⟩

/-- The reads of twins give the same bytes and code, and leave the same rest and `errno`. -/
structure SameRead (f g : File) (count : SizeT) (reports : Bool) : Prop where
  bytes : (fread f count).1 = (fread g count).1
  rest : (fread f count).2.rest = (fread g count).2.rest
  errno : (fread f count).2.errno = (fread g count).2.errno
  code : reports = true → readCode f count = readCode g count

theorem readFails_congr (ends : f.atEof = g.atEof) (failure : f.failure = g.failure)
    (rest : f.rest = g.rest) (count : SizeT) : f.readFails count = g.readFails count := by
  simp only [File.readFails, ends, failure, rest]

/-- Streams that differ in the error indicator only read the same. -/
theorem sameRead_cleared (twin : Twin f g) (failure : f.failure = g.failure) (cleared : g.atEof = false)
    (reports : Bool) : SameRead f g count reports := by
  have fails := readFails_congr (twin.cleared.trans cleared.symm) failure twin.rest count
  have same : (fread f count).1 = (fread g count).1 ∧ (fread f count).2.rest = (fread g count).2.rest ∧
      (fread f count).2.errno = (fread g count).2.errno ∧
        (fread f count).2.atEof = (fread g count).2.atEof := by
    by_cases empty : count = 0
    · rw [fread_idle (Or.inl empty), fread_idle (Or.inl empty)]
      exact ⟨rfl, twin.rest, twin.errno, twin.cleared.trans cleared.symm⟩
    cases failing : g.readFails count with
    | true =>
        obtain ⟨good, code, stops, _, read⟩ := fread_fails failing
        obtain ⟨good', code', stops', _, read'⟩ := fread_fails (fails.trans failing)
        rw [failure, stops] at stops'
        cases stops'
        rw [read, read', twin.rest]
        exact ⟨rfl, rfl, rfl, twin.cleared.trans cleared.symm⟩
    | false =>
        obtain ⟨_, read⟩ := fread_whole empty cleared failing
        obtain ⟨_, read'⟩ := fread_whole empty twin.cleared (fails.trans failing)
        rw [read, read', twin.rest]
        exact ⟨rfl, rfl, twin.errno, rfl⟩
  obtain ⟨bytes, rest, errno, ends⟩ := same
  refine ⟨bytes, rest, errno, fun _ => ?_⟩
  rw [readCode, feof, bytes, errno, ends]
  rfl

/-- A stream whose end was not cleared reads as if it were, when nothing has changed there. -/
theorem sameRead_ended (twin : Twin f g) (failure : f.failure = g.failure) (ended : g.atEof = true)
    (reports : Bool) (settled : g.Settled count reports) : SameRead f g count reports := by
  have idle : fread g count = ([], g) := fread_idle (Or.inr ended)
  have later := settled ended
  by_cases empty : count = 0
  · rw [if_pos empty] at later
    have nothing : fread f count = ([], f) := fread_idle (Or.inl empty)
    refine ⟨by rw [nothing, idle], by rw [nothing, idle, twin.rest], by rw [nothing, idle, twin.errno], ?_⟩
    intro kept
    rw [later] at kept
    cases kept
  · rw [if_neg empty] at later
    have healthy : f.readFails count = false :=
      (readFails_congr (g := clearerr g) twin.cleared failure twin.rest count).trans later.2
    have exhausted : f.rest = [] := twin.rest.trans later.1
    have asked := (toNat_pos_iff count).mpr empty
    obtain ⟨_, read⟩ := fread_whole empty twin.cleared healthy
    have bytes : (fread f count).1 = [] := by rw [read, exhausted, List.take_nil]
    have ends : feof (fread f count).2 = true := by
      rw [read, exhausted]
      exact decide_eq_true asked
    refine ⟨by rw [bytes, idle], by rw [read, idle, exhausted, List.drop_nil, later.1],
      by rw [read, idle, twin.errno], fun _ => ?_⟩
    rw [readCode, bytes, ends, readCode, idle, if_pos ⟨rfl, rfl⟩, if_pos ⟨rfl, ended⟩]

theorem sameRead_settled (twin : Twin f g) (failure : f.failure = g.failure) (reports : Bool)
    (settled : g.Settled count reports) : SameRead f g count reports := by
  cases ends : g.atEof with
  | true => exact sameRead_ended twin failure ends reports settled
  | false => exact sameRead_cleared twin failure ends reports

/-- Both reads leave the same array and the same kept outputs, and the states are related. -/
structure Masks {S T : Type} (keepsN keepsErr : Bool) (related : S → T → Prop) (full : ReadResult S)
    (masked : ReadResult T) : Prop where
  impl : related full.impl masked.impl
  p : full.p = masked.p
  n : keepsN = true → full.n = masked.n
  err : keepsErr = true → full.err = masked.err

/-- A settled read of `FileReader` does not depend on the pointers of the caller. -/
theorem fileReader_masks (twin : Twin f g) (failure : f.failure = g.failure)
    (room : pLen.toNat ≤ p.length) (n : SizeT) (err : Int) (keepsN keepsErr : Bool)
    (settled : g.Settled pLen keepsErr) :
    ∃ full masked, readerRead fileReader f p pLen (some n) (some err) = .ok full ∧
      readerRead fileReader g p pLen (pointerTo keepsN n) (pointerTo keepsErr err) = .ok masked ∧
      Masks keepsN keepsErr Twin full masked ∧ full.p.length = p.length ∧ full.n.getD 0 ≤ pLen := by
  have same := sameRead_settled twin failure keepsErr settled
  have bounded := fread_room f pLen
  refine ⟨_, _, fileReader_read f room (some n) (some err),
    fileReader_read g room (pointerTo keepsN n) (pointerTo keepsErr err), ⟨?_, ?_, ?_, ?_⟩, ?_, ?_⟩
  · cases keepsErr with
    | true => exact ⟨same.rest, same.errno, rfl⟩
    | false => exact ⟨same.rest, same.errno, rfl⟩
  · show (fread f pLen).1 ++ p.drop (fread f pLen).1.length = _
    rw [same.bytes]
  · intro kept
    rw [same.bytes]
    exact store_kept kept n _
  · intro kept
    rw [same.code kept]
    exact store_kept kept err _
  · show ((fread f pLen).1 ++ p.drop (fread f pLen).1.length).length = _
    rw [List.length_append, List.length_drop]
    omega
  · show UInt64.ofNat (fread f pLen).1.length ≤ pLen
    rw [UInt64.le_iff_toNat_le,
      UInt64.toNat_ofNat_of_lt' (Nat.lt_of_le_of_lt bounded pLen.toNat_lt_size)]
    exact bounded

/-- The reader answers the call alike from both states, whichever outputs the caller keeps. -/
def ReadsAlike {S : Type} (reader : Reader S) (related : S → S → Prop) (full masked : S)
    (call : ObservedCall) : Prop :=
  ∃ result result', readerRead reader full call.p call.pLen (some call.n) (some call.err) = .ok result ∧
    readerRead reader masked call.p call.pLen (pointerTo call.keepsN call.n)
      (pointerTo call.keepsErr call.err) = .ok result' ∧
    Masks call.keepsN call.keepsErr related result result'

/-- A caller without some pointers observes such a call as a caller with all of them. -/
theorem observe_same {S : Type} {reader : Reader S} {meet : ObservedCall → S → S}
    {related : S → S → Prop} {impl masked : S} {call : ObservedCall}
    (alike : ReadsAlike reader related (meet call impl) (meet call masked) call) :
    ∃ observation next next', observe false reader meet impl call = .ok (observation, next) ∧
      observe true reader meet masked call = .ok (observation, next') ∧ related next next' := by
  obtain ⟨result, result', read, read', masks⟩ := alike
  refine ⟨⟨result.p, if call.keepsN then result.n else none,
    if call.keepsErr then result.err else none⟩, result.impl, result'.impl, ?_, ?_, masks.impl⟩
  · simp only [observe, Bool.not_false, Bool.or_true, pointerTo_true, read]
  · have n : (if call.keepsN then result.n else none) = if call.keepsN then result'.n else none := by
      split
      · exact masks.n ‹_›
      · rfl
    have err : (if call.keepsErr then result.err else none) =
        if call.keepsErr then result'.err else none := by
      split
      · exact masks.err ‹_›
      · rfl
    simp only [observe, Bool.not_true, Bool.or_false, read', masks.p, n, err]

/-- The buffers hold the same data, and their files are twins. -/
structure TwinBuffers (b c : BufReader File) : Prop where
  same : c = b.withReader c.reader
  twin : Twin b.reader c.reader
  valid : b.Valid

/-- A call that reaches the file finds it settled for the length that the buffer asks for. -/
def BufReader.Settled (b : BufReader File) (call : ObservedCall) : Prop :=
  b.window = [] → b.readErr = 0 → call.pLen ≠ 0 →
    b.reader.Settled (if b.bufLen < call.pLen then call.pLen else b.bufLen) call.keepsErr

/-- A read of some bytes finds the stream settled no matter what it reports. -/
theorem File.Settled.nonempty {reports : Bool} (settled : f.Settled count reports) (nonempty : count ≠ 0)
    (other : Bool) : f.Settled count other := by
  intro ended
  have later := settled ended
  rw [if_neg nonempty] at later ⊢
  exact later

section

variable {b : BufReader File} {call : ObservedCall}

/-- A request above the array length hands the pointers of the caller to the file. -/
theorem bufReader_alike_bypass (valid : b.Valid) (twin : Twin b.reader g)
    (failure : b.reader.failure = g.failure) (drained : b.window = []) (clear : b.readErr = 0)
    (large : b.bufLen < call.pLen) (settled : g.Settled call.pLen call.keepsErr) :
    ReadsAlike (bufReader fileReader) TwinBuffers b (b.withReader g) call := by
  obtain ⟨full, masked, read, read', masks, _⟩ := fileReader_masks twin failure call.room call.n call.err
    call.keepsN call.keepsErr settled
  have through := bufReaderRead_bypass fileReader valid drained clear large read
  have through' := bufReaderRead_bypass fileReader (valid.withReader_valid g) drained clear large read'
  exact ⟨_, _, through, through', ⟨rfl, masks.impl, valid.withReader_valid full.impl⟩, masks.p, masks.n,
    masks.err⟩

/-- A refill hands its own pointers to the file. -/
theorem bufReader_alike_refill (valid : b.Valid) (twin : Twin b.reader g)
    (failure : b.reader.failure = g.failure) (drained : b.window = []) (clear : b.readErr = 0)
    (nonempty : call.pLen ≠ 0) (small : call.pLen ≤ b.bufLen) (settled : g.Settled b.bufLen true) :
    ReadsAlike (bufReader fileReader) TwinBuffers b (b.withReader g) call := by
  have room : b.bufLen.toNat ≤ b.buf.length := Nat.le_of_eq valid.sized.symm
  obtain ⟨full, masked, read, read', masks, length, stored⟩ :=
    fileReader_masks twin failure room 0 0 true true settled
  have n := masks.n rfl
  have err := masks.err rfl
  have refilled : (b.withReader g).refilled masked = (b.refilled full).withReader masked.impl := by
    simp only [BufReader.refilled, BufReader.withReader, n, err, masks.p]
  have filled : (b.refilled full).Valid := BufReader.refilled_valid stored (length.trans valid.sized)
  have filled' := filled.withReader_valid masked.impl
  by_cases dry : full.n.getD 0 = 0
  · have ends := bufReaderRead_dry fileReader valid drained clear call.p nonempty small (some call.n)
      (some call.err) read dry
    have ends' := bufReaderRead_dry fileReader (valid.withReader_valid g) drained clear call.p nonempty
      small (pointerTo call.keepsN call.n) (pointerTo call.keepsErr call.err) read' (n ▸ dry)
    rw [refilled] at ends'
    exact ⟨_, _, ends, ends', ⟨rfl, masks.impl, filled⟩, rfl, fun kept => pointerTo_kept kept call.n,
      fun kept => store_kept kept _ _⟩
  · have serves := bufReaderRead_refill fileReader valid drained clear call.p nonempty small (some call.n)
      (some call.err) read dry
    have serves' := bufReaderRead_refill fileReader (valid.withReader_valid g) drained clear call.p nonempty
      small (pointerTo call.keepsN call.n) (pointerTo call.keepsErr call.err) read' (n ▸ dry)
    rw [bufReaderCopy_eq filled _ _ call.room] at serves
    rw [refilled, bufReaderCopy_eq filled' _ _ call.room] at serves'
    exact ⟨_, _, serves, serves', ⟨rfl, masks.impl, filled.advance_valid call.pLen⟩, rfl,
      fun kept => store_kept kept _ _, fun kept => pointerTo_kept kept call.err⟩

/-- A settled read of `BufReader` does not depend on the pointers of the caller. -/
theorem bufReader_alike (valid : b.Valid) (twin : Twin b.reader g) (failure : b.reader.failure = g.failure)
    (settled : (b.withReader g).Settled call) :
    ReadsAlike (bufReader fileReader) TwinBuffers b (b.withReader g) call := by
  by_cases empty : call.pLen = 0
  · refine ⟨⟨b, call.p, some call.n, some call.err⟩,
      ⟨b.withReader g, call.p, pointerTo call.keepsN call.n, pointerTo call.keepsErr call.err⟩, ?_, ?_,
      ⟨rfl, twin, valid⟩, rfl, fun kept => pointerTo_kept kept call.n,
      fun kept => pointerTo_kept kept call.err⟩
    · rw [empty]
      exact bufReaderRead_empty fileReader b call.p (some call.n) (some call.err)
    · rw [empty]
      exact bufReaderRead_empty fileReader (b.withReader g) call.p (pointerTo call.keepsN call.n)
        (pointerTo call.keepsErr call.err)
  by_cases held : b.window ≠ []
  · have serves := bufReaderRead_drain fileReader valid held call.p empty call.room (some call.n)
      (some call.err)
    have serves' := bufReaderRead_drain fileReader (valid.withReader_valid g) held call.p empty call.room
      (pointerTo call.keepsN call.n) (pointerTo call.keepsErr call.err)
    exact ⟨_, _, serves, serves', ⟨rfl, twin, valid.advance_valid call.pLen⟩, rfl,
      fun kept => store_kept kept _ _, fun kept => pointerTo_kept kept call.err⟩
  have drained := not_not.mp held
  by_cases failed : b.readErr ≠ 0
  · have reports := bufReaderRead_sticky fileReader valid drained failed call.p empty (some call.n)
      (some call.err)
    have reports' := bufReaderRead_sticky fileReader (valid.withReader_valid g) drained failed call.p empty
      (pointerTo call.keepsN call.n) (pointerTo call.keepsErr call.err)
    exact ⟨_, _, reports, reports', ⟨rfl, twin, valid⟩, rfl, fun kept => store_kept kept _ _,
      fun kept => store_kept kept _ _⟩
  have clear := not_not.mp failed
  have reached := settled drained clear empty
  by_cases large : b.bufLen < call.pLen
  · rw [if_pos (show (b.withReader g).bufLen < call.pLen from large)] at reached
    exact bufReader_alike_bypass valid twin failure drained clear large reached
  · rw [if_neg (show ¬(b.withReader g).bufLen < call.pLen from large)] at reached
    have small := UInt64.not_lt.mp large
    have sized : b.bufLen ≠ 0 := by
      intro zero
      rw [zero] at small
      exact empty (UInt64.le_zero_iff.mp small)
    exact bufReader_alike_refill valid twin failure drained clear empty small (reached.nonempty sized true)

end

theorem Twin.meet (twin : Twin f g) (call : ObservedCall) : Twin (call.meet f) (call.meet g) where
  rest := congrArg call.change twin.rest
  errno := by
    show (if call.clearsErrno then 0 else f.errno) = if call.clearsErrno then 0 else g.errno
    rw [twin.errno]
  cleared := twin.cleared

/-- A call meets a file that is settled for its length. -/
def SettledCall (f : File) (call : ObservedCall) : Prop := (call.meet f).Settled call.pLen call.keepsErr

/-- A call through the buffer meets a settled file, if it meets the file at all. -/
def SettledBufferedCall (b : BufReader File) (call : ObservedCall) : Prop :=
  (b.withReader (call.meet b.reader)).Settled call

instance (f : File) (count : SizeT) (reports : Bool) : Decidable (f.Settled count reports) :=
  inferInstanceAs (Decidable (f.atEof = true →
    if count = 0 then reports = false else f.rest = [] ∧ (clearerr f).readFails count = false))

instance (f : File) (call : ObservedCall) : Decidable (SettledCall f call) :=
  inferInstanceAs (Decidable ((call.meet f).Settled call.pLen call.keepsErr))

instance (b : BufReader File) (call : ObservedCall) : Decidable (SettledBufferedCall b call) :=
  inferInstanceAs (Decidable (b.window = [] → b.readErr = 0 → call.pLen ≠ 0 →
    (call.meet b.reader).Settled (if b.bufLen < call.pLen then call.pLen else b.bufLen) call.keepsErr))

theorem observeFile_same (full masked : File) (call : ObservedCall) (twin : Twin full masked)
    (settled : SettledCall masked call) :
    ∃ observation next next', observeFile false full call = .ok (observation, next) ∧
      observeFile true masked call = .ok (observation, next') ∧ Twin next next' := by
  apply observe_same
  obtain ⟨result, result', read, read', masks, _⟩ := fileReader_masks (twin.meet call) rfl call.room call.n
    call.err call.keepsN call.keepsErr settled
  exact ⟨result, result', read, read', masks⟩

theorem observeBufReader_same (full masked : BufReader File) (call : ObservedCall)
    (twins : TwinBuffers full masked) (settled : SettledBufferedCall masked call) :
    ∃ observation next next', observeBufReader false full call = .ok (observation, next) ∧
      observeBufReader true masked call = .ok (observation, next') ∧ TwinBuffers next next' := by
  apply observe_same
  rw [twins.same] at settled ⊢
  exact bufReader_alike (twins.valid.withReader_valid (call.meet full.reader)) (twins.twin.meet call) rfl
    settled

/-- When every call meets a settled file, a caller that passes `NULL` for some outputs finds the same
bytes and the same kept outputs as a caller that passes all of them. -/
theorem outputs_observe_settled (contents : List UInt8) (area : Area) (calls : List ObservedCall) :
    ((observeFile true).Guarded SettledCall (openFile contents) calls →
      ∃ observations full masked,
        (observeFile false).run (openFile contents) calls = .ok (observations, full) ∧
        (observeFile true).run (openFile contents) calls = .ok (observations, masked)) ∧
    ((observeBufReader true).Guarded SettledBufferedCall (bufReaderInit (openFile contents) area) calls →
      ∃ observations full masked,
        (observeBufReader false).run (bufReaderInit (openFile contents) area) calls =
          .ok (observations, full) ∧
        (observeBufReader true).run (bufReaderInit (openFile contents) area) calls =
          .ok (observations, masked)) := by
  have opened : Twin (openFile contents) (openFile contents) := ⟨rfl, rfl, rfl⟩
  constructor
  · intro guarded
    obtain ⟨observations, full, masked, ran, ran', _⟩ :=
      Machine.run_same observeFile_same opened guarded
    exact ⟨observations, full, masked, ran, ran'⟩
  · intro guarded
    obtain ⟨observations, full, masked, ran, ran', _⟩ := Machine.run_same observeBufReader_same
      ⟨rfl, opened, bufReaderInit_valid (openFile contents) area⟩ guarded
    exact ⟨observations, full, masked, ran, ran'⟩

/-- The caller asks for two bytes and does without the code of its first call. The second call finds what
the change leaves. -/
def secondLook (change : List UInt8 → List UInt8) : List ObservedCall :=
  [⟨⟨⟨[0, 0], 2, Nat.le_refl 2⟩, 0, 0⟩, id, none, true, true, false⟩,
    ⟨⟨⟨[0, 0], 2, Nat.le_refl 2⟩, 0, 0⟩, change, none, true, true, true⟩]

/-- A file of one byte stays as it is between the calls. -/
theorem outputs_observe_still :
    (∃ observations full masked,
      (observeFile false).run (openFile [7]) (secondLook id) = .ok (observations, full) ∧
      (observeFile true).run (openFile [7]) (secondLook id) = .ok (observations, masked)) ∧
    ∃ observations full masked,
      (observeBufReader false).run (bufReaderInit (openFile [7]) ⟨1, [0], rfl⟩) (secondLook id) =
        .ok (observations, full) ∧
      (observeBufReader true).run (bufReaderInit (openFile [7]) ⟨1, [0], rfl⟩) (secondLook id) =
        .ok (observations, masked) :=
  ⟨(outputs_observe_settled [7] ⟨1, [0], rfl⟩ (secondLook id)).1 (by decide),
    (outputs_observe_settled [7] ⟨1, [0], rfl⟩ (secondLook id)).2 (by decide)⟩

/-- The file grows by one byte between the calls. The second call reads it only if the first one had a
pointer for its code. -/
theorem outputs_observe_grown :
    (¬∃ observations full masked,
      (observeFile false).run (openFile [7]) (secondLook fun rest => rest ++ [8]) =
        .ok (observations, full) ∧
      (observeFile true).run (openFile [7]) (secondLook fun rest => rest ++ [8]) =
        .ok (observations, masked)) ∧
    ¬∃ observations full masked,
      (observeBufReader false).run (bufReaderInit (openFile [7]) ⟨1, [0], rfl⟩)
        (secondLook fun rest => rest ++ [8]) = .ok (observations, full) ∧
      (observeBufReader true).run (bufReaderInit (openFile [7]) ⟨1, [0], rfl⟩)
        (secondLook fun rest => rest ++ [8]) = .ok (observations, masked) := by
  constructor
  · rintro ⟨observations, full, masked, ran, ran'⟩
    cases ran
    cases ran'
  · rintro ⟨observations, full, masked, ran, ran'⟩
    cases ran
    cases ran'

end Xstd.Io
