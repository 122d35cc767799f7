import Xstd.Proof.Io.BufReaderConservation

/-
This file proves that a `BufReader` loses, invents and advances no error of its source.
-/

namespace Xstd.Io

open Library

variable {S : Type}

/-- One read: its length, the bytes buffered before it, the source calls it made, and its reply. -/
structure ReadEvent where
  pLen : SizeT
  buffered : SizeT
  calls : List SourceCall
  bytes : List UInt8
  err : Int

/-- Every read over a recorded source is observed as an event. -/
def observed (reader : Reader S) : Machine Fault (BufReader (Recorded S)) Request ReadEvent :=
  fun b request =>
    match pull (bufReader (recorded reader)) b request with
    | .error fault => .error fault
    | .ok ((bytes, err), next) =>
        .ok (⟨request.pLen, bufReaderBuffered b, next.reader.calls.drop b.reader.calls.length,
          bytes, err⟩, next)

/-- The bytes that a list of reads delivers. -/
def deliveredBy (events : List ReadEvent) : List UInt8 := events.flatMap ReadEvent.bytes

/-- The source calls that a list of reads makes. -/
def callsBy (events : List ReadEvent) : List SourceCall := events.flatMap ReadEvent.calls

/-- The bytes that the source produces during a list of reads. -/
def producedBy (events : List ReadEvent) : List UInt8 := (callsBy events).flatMap SourceCall.bytes

/-- The error of a call that refilled the array waits for the bytes of the call. The later reads leave
the source alone, and those that are not empty report the error once the bytes are delivered. -/
structure Deferred (area : Area) (read : ReadEvent) (call : SourceCall) (later : List ReadEvent) :
    Prop where
  refilled : read.pLen ≤ area.size ∧ call.capacity = area.size
  stored : call.bytes ≠ []
  silent : ∀ event ∈ later, event.calls = []
  reported : ∀ between event rest, later = between ++ event :: rest →
    event.err = if event.pLen = 0 ∨ deliveredBy (read :: between) ≠ call.bytes then 0 else call.err

@[simp] theorem deliveredBy_append (first second : List ReadEvent) :
    deliveredBy (first ++ second) = deliveredBy first ++ deliveredBy second := List.flatMap_append

@[simp] theorem deliveredBy_cons (event : ReadEvent) (events : List ReadEvent) :
    deliveredBy (event :: events) = event.bytes ++ deliveredBy events := rfl

@[simp] theorem deliveredBy_nil : deliveredBy [] = [] := rfl

@[simp] theorem callsBy_nil : callsBy [] = [] := rfl

@[simp] theorem callsBy_cons (event : ReadEvent) (events : List ReadEvent) :
    callsBy (event :: events) = event.calls ++ callsBy events := rfl

@[simp] theorem callsBy_append (first second : List ReadEvent) :
    callsBy (first ++ second) = callsBy first ++ callsBy second := List.flatMap_append

theorem callsBy_singleton (event : ReadEvent) : callsBy [event] = event.calls := by
  simp [callsBy]

@[simp] theorem producedBy_append (first second : List ReadEvent) :
    producedBy (first ++ second) = producedBy first ++ producedBy second := by
  simp [producedBy]

theorem producedBy_singleton (event : ReadEvent) :
    producedBy [event] = event.calls.flatMap SourceCall.bytes := by
  simp [producedBy]

/-- What an observed read establishes. -/
structure Observed (b : BufReader (Recorded S)) (event : ReadEvent) (next : BufReader (Recorded S)) :
    Prop extends ReadSpec b event.pLen event.calls event.bytes event.err next where
  buffered : event.buffered = bufReaderBuffered b

/-- A read over a conforming source is observed as its specification says. -/
theorem observed_step {reader : Reader S} (conforming : Conforming reader)
    {b : BufReader (Recorded S)} (valid : b.Valid) (request : Request) :
    ∃ event next, observed reader b request = .ok (event, next) ∧ Observed b event next := by
  obtain ⟨calls, bytes, err, next, pulled, spec⟩ := pull_spec conforming valid request
  refine ⟨⟨request.pLen, bufReaderBuffered b, calls, bytes, err⟩, next, ?_, spec, rfl⟩
  simp only [observed, pulled, spec.grown, List.drop_left]

/-- A read that returned is observed as its specification says. -/
theorem observed_inv {reader : Reader S} (conforming : Conforming reader)
    {b next : BufReader (Recorded S)} (valid : b.Valid) {request : Request} {event : ReadEvent}
    (stepped : observed reader b request = .ok (event, next)) : Observed b event next := by
  obtain ⟨event', next', stepped', seen⟩ := observed_step conforming valid request
  rw [stepped] at stepped'
  cases stepped'
  exact seen

/-- A recorded error waits for the window, and the source is left alone from then on. -/
theorem deferred_run {reader : Reader S} (conforming : Conforming reader)
    {b final : BufReader (Recorded S)} (valid : b.Valid) (failed : b.readErr ≠ 0)
    {requests : List Request} {events : List ReadEvent}
    (ran : (observed reader).run b requests = .ok (events, final)) :
    (∀ event ∈ events, event.calls = []) ∧
      ∀ between event rest, events = between ++ event :: rest →
        event.err = if event.pLen = 0 ∨ deliveredBy between ≠ b.window then 0 else b.readErr := by
  induction requests generalizing b events with
  | nil =>
      cases ran
      simp
  | cons request requests ih =>
      obtain ⟨event, next, later, stepped, tail, split⟩ := Machine.run_cons_inv ran
      subst split
      have seen := observed_inv conforming valid stepped
      cases seen.step with
      | served _ silent account kept err =>
          obtain ⟨others, reported⟩ := ih seen.valid (by rw [kept]; exact failed) tail
          refine ⟨List.forall_mem_cons.mpr ⟨silent, others⟩, fun between read rest same => ?_⟩
          cases between with
          | nil =>
              cases same
              rw [err, deliveredBy_nil]
              simp only [ne_comm (a := b.window)]
          | cons first between =>
              cases same
              rw [reported between read rest rfl, kept, deliveredBy_cons, ← account]
              simp only [ne_eq, List.append_cancel_left_eq]
      | handed _ _ _ clear => exact absurd clear failed
      | refilled _ _ _ clear => exact absurd clear failed

/-- The delivered bytes and the window are the produced bytes, and the recorded error is one of the
source. -/
structure Reconciled (area : Area) (events : List ReadEvent) (b : BufReader (Recorded S)) : Prop where
  valid : b.Valid
  array : b.bufLen = area.size
  calls : b.reader.calls = callsBy events
  account : deliveredBy events ++ b.window = producedBy events
  known : b.readErr ≠ 0 → ∃ call ∈ callsBy events, call.err = b.readErr

theorem reconciled_init (source : S) (area : Area) :
    Reconciled area [] (bufReaderInit (⟨source, []⟩ : Recorded S) area) where
  valid := bufReaderInit_valid _ area
  array := rfl
  calls := rfl
  account := bufReaderInit_window (⟨source, []⟩ : Recorded S) area
  known := fun failed => absurd rfl failed

/-- A read keeps the account and the origin of the recorded error. -/
theorem Observed.reconciled {area : Area} {earlier : List ReadEvent} {b next : BufReader (Recorded S)}
    {event : ReadEvent} (seen : Observed b event next) (before : Reconciled area earlier b) :
    Reconciled area (earlier ++ [event]) next := by
  refine ⟨seen.valid, seen.array.trans before.array, ?_, ?_, ?_⟩
  · rw [seen.grown, before.calls, callsBy_append, callsBy_singleton]
  · calc deliveredBy (earlier ++ [event]) ++ next.window
        = deliveredBy earlier ++ (event.bytes ++ next.window) := by simp
      _ = deliveredBy earlier ++ (b.window ++ event.calls.flatMap SourceCall.bytes) := by
          rw [seen.toReadSpec.account]
      _ = producedBy (earlier ++ [event]) := by
          rw [← List.append_assoc, before.account, producedBy_append, producedBy_singleton]
  · intro failed
    rw [callsBy_append, callsBy_singleton]
    cases seen.step with
    | served _ _ _ kept =>
        rw [kept] at failed ⊢
        obtain ⟨call, member, same⟩ := before.known failed
        exact ⟨call, List.mem_append_left _ member, same⟩
    | handed _ _ _ _ _ _ _ kept => exact absurd kept failed
    | refilled call called _ _ _ _ _ _ recorded =>
        exact ⟨call, by simp [called], recorded.symm⟩

/-- A run of reads over a conforming source completes from every valid state. -/
theorem observed_completes {reader : Reader S} (conforming : Conforming reader)
    {b : BufReader (Recorded S)} (valid : b.Valid) (requests : List Request) :
    ∃ events final, (observed reader).run b requests = .ok (events, final) := by
  induction requests generalizing b with
  | nil => exact ⟨[], b, rfl⟩
  | cons request requests ih =>
      obtain ⟨event, next, stepped, seen⟩ := observed_step conforming valid request
      obtain ⟨events, final, ran⟩ := ih seen.valid
      refine ⟨event :: events, final, ?_⟩
      rw [Machine.run_cons_of_ok requests stepped, ran]
      rfl

/-- Every run of reads over a conforming source completes with the account settled. -/
theorem observed_run {reader : Reader S} (conforming : Conforming reader) (source : S) (area : Area)
    (requests : List Request) :
    ∃ events b, (observed reader).run (bufReaderInit ⟨source, []⟩ area) requests = .ok (events, b) ∧
      Reconciled area events b := by
  have progress : ∀ earlier b request, Reconciled area earlier b →
      ∃ event next, observed reader b request = .ok (event, next) ∧
        Reconciled area (earlier ++ [event]) next := by
    intro earlier b request before
    obtain ⟨event, next, stepped, seen⟩ := observed_step conforming before.valid request
    exact ⟨event, next, stepped, seen.reconciled before⟩
  exact Machine.run_of_history _ progress (reconciled_init source area) requests

/-- Each read of a run is one step between settled states. -/
theorem observed_split {reader : Reader S} (conforming : Conforming reader) {source : S} {area : Area}
    {requests : List Request} {earlier later : List ReadEvent} {read : ReadEvent}
    {final : BufReader (Recorded S)}
    (ran : (observed reader).run (bufReaderInit ⟨source, []⟩ area) requests =
      .ok (earlier ++ read :: later, final)) :
    ∃ b next rest, Reconciled area earlier b ∧ Observed b read next ∧
      (observed reader).run next rest = .ok (later, final) := by
  obtain ⟨front, back, b, _, before, after⟩ := Machine.run_append_inv earlier ran
  obtain ⟨events, b', ran', settled⟩ := observed_run conforming source area front
  rw [before] at ran'
  cases ran'
  cases back with
  | nil => cases after
  | cons request rest =>
      obtain ⟨event, next, others, stepped, tail, split⟩ := Machine.run_cons_inv after
      cases split
      exact ⟨b, next, rest, settled, observed_inv conforming settled.valid stepped, tail⟩

/-- A read with bytes buffered before it calls no source, and no read calls it twice. -/
theorem Observed.calls_bounded {b next : BufReader (Recorded S)} {event : ReadEvent}
    (seen : Observed b event next) (valid : b.Valid) :
    (event.buffered ≠ 0 → event.calls = []) ∧ event.calls.length ≤ 1 := by
  have empty : b.window = [] → event.buffered = 0 := by
    intro drained
    rw [seen.buffered, ← toNat_eq_zero_iff, valid.buffered_toNat, drained]
    rfl
  cases seen.step with
  | served _ silent => simp [silent]
  | handed _ called drained => simp [called, empty drained]
  | refilled _ called drained => simp [called, empty drained]

/-- A read that reports an error leaves nothing undelivered, and the error is one of the source. -/
theorem Observed.err_sound {area : Area} {earlier : List ReadEvent} {b next : BufReader (Recorded S)}
    {read : ReadEvent} (seen : Observed b read next) (before : Reconciled area earlier b)
    (failed : read.err ≠ 0) :
    producedBy (earlier ++ [read]) = deliveredBy (earlier ++ [read]) ∧
      ∃ call ∈ callsBy (earlier ++ [read]), call.err = read.err := by
  have after := seen.reconciled before
  have account := after.account
  cases seen.step with
  | served _ _ same kept err =>
      by_cases waits : read.pLen = 0 ∨ b.window ≠ []
      · rw [if_pos waits] at err
        exact absurd err failed
      · rw [if_neg waits] at err
        have drained : b.window = [] := not_not.mp (not_or.mp waits).2
        rw [drained, List.append_eq_nil_iff] at same
        rw [same.2, List.append_nil] at account
        rw [err, ← kept]
        exact ⟨account.symm, after.known (by rw [kept, ← err]; exact failed)⟩
  | handed call called _ _ _ _ empty _ err =>
      rw [empty, List.append_nil] at account
      exact ⟨account.symm, call, by simp [called], err.symm⟩
  | refilled call called _ _ _ _ _ same _ err =>
      by_cases dry : call.bytes = []
      · rw [if_pos dry] at err
        rw [dry, List.append_eq_nil_iff] at same
        rw [same.2, List.append_nil] at account
        exact ⟨account.symm, call, by simp [called], err.symm⟩
      · rw [if_neg dry] at err
        exact absurd err failed

/-- An error of the source is reported at once or waits for the bytes that came with it. -/
theorem Observed.err_kept {reader : Reader S} (conforming : Conforming reader) {area : Area}
    {b next final : BufReader (Recorded S)} {read : ReadEvent} {requests : List Request}
    {later : List ReadEvent} (seen : Observed b read next) (array : b.bufLen = area.size)
    (ran : (observed reader).run next requests = .ok (later, final)) {call : SourceCall}
    (member : call ∈ read.calls) (failed : call.err ≠ 0) :
    read.err = call.err ∨ Deferred area read call later := by
  cases seen.step with
  | served _ silent =>
      rw [silent] at member
      cases member
  | handed only called _ _ _ _ _ _ err =>
      rw [called, List.mem_singleton] at member
      subst member
      exact Or.inl err
  | refilled only called _ _ _ small whole account recorded err =>
      rw [called, List.mem_singleton] at member
      subst member
      by_cases dry : call.bytes = []
      · rw [if_pos dry] at err
        exact Or.inl err
      · rw [← recorded] at failed
        obtain ⟨silent, reported⟩ := deferred_run conforming seen.valid failed ran
        refine Or.inr ⟨⟨array ▸ small, whole.trans array⟩, dry, silent, ?_⟩
        intro between event rest split
        rw [reported between event rest split, recorded, deliveredBy_cons, ← account]
        simp only [ne_eq, List.append_cancel_left_eq]

/-- Over any run of reads, no read calls the source while bytes are buffered or calls it twice, every
error of the source is reported by the read that met it or after the bytes that came with it, and a
reported error is one of the source and comes after every byte that the source has produced. -/
theorem bufReader_errors (reader : Reader S) (conforming : Conforming reader) (source : S)
    (area : Area) (requests : List Request) :
    ∃ events b, (observed reader).run (bufReaderInit ⟨source, []⟩ area) requests = .ok (events, b) ∧
      b.reader.calls = callsBy events ∧
      ∀ earlier read later, events = earlier ++ read :: later →
        (read.buffered ≠ 0 → read.calls = []) ∧ read.calls.length ≤ 1 ∧
        (∀ call ∈ read.calls, call.err ≠ 0 → read.err = call.err ∨ Deferred area read call later) ∧
        (read.err ≠ 0 →
          producedBy (earlier ++ [read]) = deliveredBy (earlier ++ [read]) ∧
          ∃ call ∈ callsBy (earlier ++ [read]), call.err = read.err) := by
  obtain ⟨events, b, ran, settled⟩ := observed_run conforming source area requests
  refine ⟨events, b, ran, settled.calls, fun earlier read later split => ?_⟩
  rw [split] at ran
  obtain ⟨before, next, rest, reconciled, seen, tail⟩ := observed_split conforming ran
  obtain ⟨quiet, once⟩ := seen.calls_bounded reconciled.valid
  refine ⟨quiet, once, ?_, seen.err_sound reconciled⟩
  intro call member failed
  exact seen.err_kept conforming reconciled.array tail member failed

/-- The list ends with its code inside a refill, so the code waits for the bytes of the array. -/
theorem bufReader_errors_list : ∃ events b, (observed listReader).run
    (bufReaderInit ⟨[7, 8, 9, 10], []⟩ ⟨6, [0, 0, 0, 0, 0, 0], rfl⟩)
    [⟨[0, 0, 0], 3, by simp⟩, ⟨[0, 0], 2, by simp⟩, ⟨[0, 0, 0], 3, by simp⟩] = .ok (events, b) ∧
    b.reader.calls = callsBy events := by
  obtain ⟨events, b, ran, calls, _⟩ := bufReader_errors listReader listReader_conforming
    [7, 8, 9, 10] ⟨6, [0, 0, 0, 0, 0, 0], rfl⟩
    [⟨[0, 0, 0], 3, by simp⟩, ⟨[0, 0], 2, by simp⟩, ⟨[0, 0, 0], 3, by simp⟩]
  exact ⟨events, b, ran, calls⟩

end Xstd.Io
