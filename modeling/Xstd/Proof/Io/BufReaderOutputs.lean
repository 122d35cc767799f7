import Xstd.Construction.Io.FileReader
import Xstd.Proof.Io.BufReaderConservation

/-
This file proves when `*n` and `*err` describe the call that returned them.
-/

namespace Xstd.Io

open Library

variable {S : Type}

/-- The bytes that a source stores for these arguments, and the code that it reports. -/
def sourceReply (reader : Reader S) (impl : S) (p : List UInt8) (pLen n : SizeT) (err : Int) :
    List UInt8 × Int :=
  match readerRead reader impl p pLen (some n) (some err) with
  | .error _ => ([], 0)
  | .ok result => (result.p.take (result.n.getD 0).toNat, result.err.getD 0)

/-- The call hands the array and the outputs of the caller to the source. -/
def BufReader.Bypasses (b : BufReader S) (request : StaleRequest) : Prop :=
  request.pLen ≠ 0 ∧ b.window = [] ∧ b.readErr = 0 ∧ b.bufLen < request.pLen

/-- The bytes that a call stores in `p`, and the error that it reports or 0. What the outputs held before
has no part in it, so a source that leaves an output alone counts as one that reports 0. -/
def BufReader.outcome (reader : Reader S) (b : BufReader S) (request : StaleRequest) :
    List UInt8 × Int :=
  if request.pLen = 0 then ([], 0)
  else if b.window ≠ [] then (b.window.take request.pLen.toNat, 0)
  else if b.readErr ≠ 0 then ([], b.readErr)
  else if b.bufLen < request.pLen then
    sourceReply reader b.reader request.p request.pLen 0 0
  else
    let reply := sourceReply reader b.reader b.buf b.bufLen 0 0
    (reply.1.take request.pLen.toNat, if reply.1 = [] then reply.2 else 0)

/-- The stored bytes stand at the front of `p`. -/
def Stores (reader : Reader S) (b : BufReader S) (request : StaleRequest) (reply : StaleReply) : Prop :=
  reply.p.take (b.outcome reader request).1.length = (b.outcome reader request).1

/-- Both outputs describe this call: the count of the stored bytes, and the error or 0. -/
def Describes (reader : Reader S) (b : BufReader S) (request : StaleRequest)
    (reply : StaleReply) : Prop :=
  Stores reader b request reply ∧ reply.n.toNat = (b.outcome reader request).1.length ∧
    reply.err = (b.outcome reader request).2

/-- The outputs that the path of this call leaves alone hold 0 before it, and a source that receives them
answers as it does over outputs that hold 0. -/
def Prepared (reader : Reader S) (b : BufReader S) (request : StaleRequest) : Prop :=
  if request.pLen = 0 then request.n = 0 ∧ request.err = 0
  else if b.window ≠ [] then request.err = 0
  else if b.readErr ≠ 0 then True
  else if b.bufLen < request.pLen then
    sourceReply reader b.reader request.p request.pLen request.n request.err =
      sourceReply reader b.reader request.p request.pLen 0 0
  else if (sourceReply reader b.reader b.buf b.bufLen 0 0).1 = [] then request.n = 0
  else request.err = 0

theorem callStale_of_ok {reader : Reader S} {impl : S} {request : StaleRequest}
    {result : ReadResult S}
    (called : readerRead reader impl request.p request.pLen (some request.n) (some request.err) =
      .ok result) :
    callStale reader impl request =
      .ok (⟨result.p, result.n.getD request.n, result.err.getD request.err⟩, result.impl) := by
  simp only [callStale, called]

/-- A copied call stores the front of the window, counts it, and leaves `*err` alone. -/
theorem callStale_of_copy {reader : Reader S} {b next : BufReader S} {request : StaleRequest}
    {window : List UInt8}
    (called : readerRead (bufReader reader) b request.p request.pLen (some request.n)
        (some request.err) =
      .ok ⟨next, window.take request.pLen.toNat ++
        request.p.drop (min window.length request.pLen.toNat),
        some (UInt64.ofNat (min window.length request.pLen.toNat)), some request.err⟩) :
    ∃ reply, callStale (bufReader reader) b request = .ok (reply, next) ∧
      reply.n.toNat = (window.take request.pLen.toNat).length ∧ reply.err = request.err ∧
      reply.p.take (window.take request.pLen.toNat).length = window.take request.pLen.toNat := by
  have length : (window.take request.pLen.toNat).length = min window.length request.pLen.toNat := by
    rw [List.length_take, Nat.min_comm]
  have small : min window.length request.pLen.toNat < UInt64.size :=
    Nat.lt_of_le_of_lt (Nat.min_le_right _ _) request.pLen.toNat_lt
  refine ⟨_, callStale_of_ok called, ?_, rfl, List.take_left⟩
  rw [length]
  exact UInt64.toNat_ofNat_of_lt' small

/-- What one call establishes from a valid state, whatever the outputs held before. -/
structure StaleStep (reader : Reader S) (area : Area) (delivered : List UInt8)
    (b : BufReader (Recorded S)) (request : StaleRequest) (reply : StaleReply)
    (next : BufReader (Recorded S)) : Prop where
  stores : ¬b.Bypasses request → Stores (recorded reader) b request reply
  exact : Describes (recorded reader) b request reply ↔ Prepared (recorded reader) b request
  conserved : ∃ moved, Conserved area (delivered ++ moved) next ∧
    (Prepared (recorded reader) b request → moved = (b.outcome (recorded reader) request).1)
  drained : request.pLen ≠ 0 → (b.outcome (recorded reader) request).1 = [] → next.window = []

/-- Outside the bypass the bytes always reach `p`, and the source saw none of the outputs. -/
theorem StaleStep.of_stores {reader : Reader S} {area : Area} {delivered : List UInt8}
    {b next : BufReader (Recorded S)} {request : StaleRequest} {reply : StaleReply}
    (stores : Stores (recorded reader) b request reply)
    (exact : reply.n.toNat = (b.outcome (recorded reader) request).1.length ∧
      reply.err = (b.outcome (recorded reader) request).2 ↔ Prepared (recorded reader) b request)
    (conserved : Conserved area (delivered ++ (b.outcome (recorded reader) request).1) next)
    (drained : request.pLen ≠ 0 → (b.outcome (recorded reader) request).1 = [] → next.window = []) :
    StaleStep reader area delivered b request reply next where
  stores _ := stores
  exact := (and_iff_right stores).trans exact
  conserved := ⟨_, conserved, fun _ => rfl⟩
  drained := drained

theorem take_ne_nil {A : Type} {list : List A} {count : ℕ} (positive : 0 < count)
    (nonempty : list ≠ []) : list.take count ≠ [] := by
  intro empty
  rcases List.take_eq_nil_iff.mp empty with zero | nil
  · omega
  · exact nonempty nil

theorem stale_step_empty {reader : Reader S} {area : Area} {delivered : List UInt8}
    {b : BufReader (Recorded S)} (conserved : Conserved area delivered b) {request : StaleRequest}
    (empty : request.pLen = 0) :
    ∃ reply next, callStale (bufReader (recorded reader)) b request = .ok (reply, next) ∧
      StaleStep reader area delivered b request reply next := by
  have outcome : b.outcome (recorded reader) request = ([], 0) := by
    rw [BufReader.outcome, if_pos empty]
  have called : readerRead (bufReader (recorded reader)) b request.p request.pLen
      (some request.n) (some request.err) = .ok ⟨b, request.p, some request.n, some request.err⟩ := by
    rw [empty]
    exact bufReaderRead_empty (recorded reader) b request.p _ _
  refine ⟨_, _, callStale_of_ok called, .of_stores ?_ ?_ ?_ fun nonempty => absurd empty nonempty⟩
  · simp [Stores, outcome]
  · rw [Prepared, if_pos empty, outcome]
    simp [toNat_eq_zero_iff]
  · rw [outcome, List.append_nil]
    exact conserved

/-- Serving the front of the window keeps the account. -/
theorem Conserved.advance {area : Area} {delivered : List UInt8} {b : BufReader (Recorded S)}
    (conserved : Conserved area delivered b) (pLen : SizeT) :
    Conserved area (delivered ++ b.window.take pLen.toNat) (b.advance pLen) where
  valid := conserved.valid.advance_valid pLen
  array := conserved.array
  account := by
    rw [conserved.valid.advance_window, List.append_assoc, List.take_append_drop]
    exact conserved.account
  capacities := conserved.capacities

theorem stale_step_drain {reader : Reader S} {area : Area} {delivered : List UInt8}
    {b : BufReader (Recorded S)} (conserved : Conserved area delivered b) {request : StaleRequest}
    (nonempty : request.pLen ≠ 0) (held : b.window ≠ []) :
    ∃ reply next, callStale (bufReader (recorded reader)) b request = .ok (reply, next) ∧
      StaleStep reader area delivered b request reply next := by
  have valid := conserved.valid
  have outcome : b.outcome (recorded reader) request = (b.window.take request.pLen.toNat, 0) := by
    rw [BufReader.outcome, if_neg nonempty, if_pos held]
  obtain ⟨reply, called, counted, reported, stored⟩ := callStale_of_copy
    (bufReaderRead_drain (recorded reader) valid held request.p nonempty request.room
      (some request.n) (some request.err))
  refine ⟨reply, _, called, .of_stores ?_ ?_ ?_ ?_⟩
  · rw [Stores, outcome]
    exact stored
  · rw [Prepared, if_neg nonempty, if_pos held, outcome, reported]
    exact and_iff_right counted
  · rw [outcome]
    exact conserved.advance request.pLen
  · rw [outcome]
    exact fun _ silent => absurd silent (take_ne_nil ((toNat_pos_iff _).mpr nonempty) held)

theorem stale_step_sticky {reader : Reader S} {area : Area} {delivered : List UInt8}
    {b : BufReader (Recorded S)} (conserved : Conserved area delivered b) {request : StaleRequest}
    (nonempty : request.pLen ≠ 0) (drained : b.window = []) (failed : b.readErr ≠ 0) :
    ∃ reply next, callStale (bufReader (recorded reader)) b request = .ok (reply, next) ∧
      StaleStep reader area delivered b request reply next := by
  have outcome : b.outcome (recorded reader) request = ([], b.readErr) := by
    rw [BufReader.outcome, if_neg nonempty, if_neg (not_not.mpr drained), if_pos failed]
  have called : readerRead (bufReader (recorded reader)) b request.p request.pLen
      (some request.n) (some request.err) = .ok ⟨b, request.p, some 0, some b.readErr⟩ :=
    bufReaderRead_sticky _ conserved.valid drained failed request.p nonempty _ _
  refine ⟨_, _, callStale_of_ok called, .of_stores ?_ ?_ ?_ fun _ _ => drained⟩
  · simp [Stores, outcome]
  · rw [Prepared, if_neg nonempty, if_neg (not_not.mpr drained), if_pos failed, outcome]
    simp
  · rw [outcome, List.append_nil]
    exact conserved

/-- A conforming source replies with the bytes that it counts, whatever the outputs held before. -/
theorem sourceReply_reports {reader : Reader S} (conforming : Conforming reader) (source : Recorded S)
    (request : Request) (n : SizeT) (err : Int) :
    ∃ result stored code,
      readerRead (recorded reader) source request.p request.pLen (some n) (some err) = .ok result ∧
      result.n = some stored ∧ result.err = some code ∧
      sourceReply (recorded reader) source request.p request.pLen n err =
        (result.p.take stored.toNat, code) ∧
      (result.p.take stored.toNat).length = stored.toNat ∧
      result.impl.calls =
        source.calls ++ [⟨request.pLen, request.p.length, result.p.take stored.toNat, code⟩] := by
  obtain ⟨result, stored, code, called, counted, reported, bound, sized, grown⟩ :=
    recorded_reports conforming source request.p request.pLen n err request.room
  refine ⟨result, stored, code, called, counted, reported, ?_, ?_, grown⟩
  · simp [sourceReply, called, counted, reported]
  · have room := request.room
    have below : stored.toNat ≤ request.pLen.toNat := UInt64.le_iff_toNat_le.mp bound
    rw [List.length_take, sized]
    omega

theorem BufReader.Bypasses.outcome_eq {b : BufReader S} {request : StaleRequest}
    (bypasses : b.Bypasses request) (reader : Reader S) :
    b.outcome reader request = sourceReply reader b.reader request.p request.pLen 0 0 := by
  obtain ⟨nonempty, drained, clear, large⟩ := bypasses
  rw [outcome, if_neg nonempty, if_neg (not_not.mpr drained), if_neg (not_not.mpr clear), if_pos large]

theorem BufReader.Bypasses.prepared_iff {b : BufReader S} {request : StaleRequest}
    (bypasses : b.Bypasses request) (reader : Reader S) :
    Prepared reader b request ↔
      sourceReply reader b.reader request.p request.pLen request.n request.err =
        sourceReply reader b.reader request.p request.pLen 0 0 := by
  obtain ⟨nonempty, drained, clear, large⟩ := bypasses
  rw [Prepared, if_neg nonempty, if_neg (not_not.mpr drained), if_neg (not_not.mpr clear), if_pos large]

theorem stale_step_bypass {reader : Reader S} (conforming : Conforming reader) {area : Area}
    {delivered : List UInt8} {b : BufReader (Recorded S)} (conserved : Conserved area delivered b)
    {request : StaleRequest} (bypasses : b.Bypasses request) :
    ∃ reply next, callStale (bufReader (recorded reader)) b request = .ok (reply, next) ∧
      StaleStep reader area delivered b request reply next := by
  have outcome := bypasses.outcome_eq (recorded reader)
  have prepared := bypasses.prepared_iff (recorded reader)
  obtain ⟨_, drained, clear, large⟩ := bypasses
  have valid := conserved.valid
  have account := conserved.account
  rw [drained, List.append_nil] at account
  obtain ⟨result, stored, code, called, counted, reported, replied, length, grown⟩ :=
    sourceReply_reports conforming b.reader request.toRequest request.n request.err
  have read : readerRead (bufReader (recorded reader)) b request.p request.pLen
      (some request.n) (some request.err) =
      .ok ⟨b.withReader result.impl, result.p, result.n, result.err⟩ :=
    bufReaderRead_bypass _ valid drained clear large called
  rw [replied, ← outcome] at prepared
  refine ⟨_, _, callStale_of_ok read, fun others => absurd ⟨‹_›, drained, clear, large⟩ others, ?_,
    ⟨result.p.take stored.toNat, ⟨valid.withReader_valid _, conserved.array, ?_, ?_⟩, ?_⟩,
    fun _ _ => drained⟩
  · rw [prepared, Describes, Stores, counted, reported, Option.getD_some, Option.getD_some, Prod.ext_iff]
    constructor
    · rintro ⟨front, count, same⟩
      exact ⟨count ▸ front, same⟩
    · rintro ⟨front, same⟩
      have count : stored.toNat = (b.outcome (recorded reader) request).1.length := by
        rw [← front, length]
      exact ⟨count ▸ front, count, same⟩
  · rw [BufReader.withReader_window, drained, account, List.append_nil]
    exact (produced_append grown).symm
  · exact capacities_append request.toRequest conserved.capacities grown
  · exact fun here => congrArg Prod.fst (prepared.mp here)

/-- What a refill establishes before it serves any of its bytes. -/
structure Refill (reader : Reader S) (area : Area) (delivered : List UInt8) (b : BufReader (Recorded S))
    (request : StaleRequest) (result : ReadResult (Recorded S)) (bytes : List UInt8) : Prop where
  called : readerRead (recorded reader) b.reader b.buf b.bufLen (some 0) (some 0) = .ok result
  counted : (result.n.getD 0).toNat = bytes.length
  window : (b.refilled result).window = bytes
  conserved : Conserved area delivered (b.refilled result)
  outcome : b.outcome (recorded reader) request =
    (bytes.take request.pLen.toNat, if bytes = [] then (b.refilled result).readErr else 0)
  prepared : Prepared (recorded reader) b request ↔
    if bytes = [] then request.n = 0 else request.err = 0

theorem refill_of_drained {reader : Reader S} (conforming : Conforming reader) {area : Area}
    {delivered : List UInt8} {b : BufReader (Recorded S)} (conserved : Conserved area delivered b)
    {request : StaleRequest} (nonempty : request.pLen ≠ 0) (drained : b.window = [])
    (clear : b.readErr = 0) (small : request.pLen ≤ b.bufLen) :
    ∃ result bytes, Refill reader area delivered b request result bytes := by
  have valid := conserved.valid
  have account := conserved.account
  rw [drained, List.append_nil] at account
  obtain ⟨result, stored, code, called, counted, reported, bound, sized, grown⟩ :=
    recorded_reports conforming b.reader b.buf b.bufLen 0 0 (Nat.le_of_eq valid.sized.symm)
  have source : sourceReply (recorded reader) b.reader b.buf b.bufLen 0 0 =
      (result.p.take stored.toNat, (b.refilled result).readErr) := by
    simp [sourceReply, called, counted, reported, BufReader.refilled]
  have window : (b.refilled result).window = result.p.take stored.toNat := by
    rw [BufReader.refilled_window, counted, Option.getD_some]
  refine ⟨result, result.p.take stored.toNat, called, ?_, window, ⟨?_, conserved.array, ?_, ?_⟩, ?_, ?_⟩
  · have below : stored.toNat ≤ b.bufLen.toNat := UInt64.le_iff_toNat_le.mp bound
    rw [counted, Option.getD_some, List.length_take, sized, valid.sized]
    omega
  · exact BufReader.refilled_valid (by simpa [counted] using bound) (sized.trans valid.sized)
  · rw [window, account]
    exact (produced_append grown).symm
  · exact capacities_append (b.refillRequest valid) conserved.capacities grown
  · rw [BufReader.outcome, if_neg nonempty, if_neg (not_not.mpr drained),
      if_neg (not_not.mpr clear), if_neg (UInt64.not_lt.mpr small), source]
  · rw [Prepared, if_neg nonempty, if_neg (not_not.mpr drained), if_neg (not_not.mpr clear),
      if_neg (UInt64.not_lt.mpr small), source]

/-- A refill without bytes reports its code and leaves `*n` alone. -/
theorem stale_step_dry {reader : Reader S} {area : Area} {delivered : List UInt8}
    {b : BufReader (Recorded S)} (conserved : Conserved area delivered b) {request : StaleRequest}
    (nonempty : request.pLen ≠ 0) (drained : b.window = []) (clear : b.readErr = 0)
    (small : request.pLen ≤ b.bufLen) {result : ReadResult (Recorded S)}
    (refill : Refill reader area delivered b request result []) :
    ∃ reply next, callStale (bufReader (recorded reader)) b request = .ok (reply, next) ∧
      StaleStep reader area delivered b request reply next := by
  have zero : result.n.getD 0 = 0 := (toNat_eq_zero_iff _).mp refill.counted
  have read : readerRead (bufReader (recorded reader)) b request.p request.pLen
      (some request.n) (some request.err) =
      .ok ⟨b.refilled result, request.p, some request.n, some (b.refilled result).readErr⟩ :=
    bufReaderRead_dry _ conserved.valid drained clear request.p nonempty small _ _ refill.called zero
  have outcome := refill.outcome
  have prepared := refill.prepared
  rw [List.take_nil, if_pos rfl] at outcome
  rw [if_pos rfl] at prepared
  refine ⟨_, _, callStale_of_ok read, .of_stores ?_ ?_ ?_ fun _ _ => refill.window⟩
  · simp [Stores, outcome]
  · rw [prepared, outcome]
    simp [toNat_eq_zero_iff]
  · rw [outcome, List.append_nil]
    exact refill.conserved

/-- A refill with bytes serves the front of them and leaves `*err` alone. -/
theorem stale_step_wet {reader : Reader S} {area : Area} {delivered : List UInt8}
    {b : BufReader (Recorded S)} (conserved : Conserved area delivered b) {request : StaleRequest}
    (nonempty : request.pLen ≠ 0) (drained : b.window = []) (clear : b.readErr = 0)
    (small : request.pLen ≤ b.bufLen) {result : ReadResult (Recorded S)} {bytes : List UInt8}
    (refill : Refill reader area delivered b request result bytes) (some_bytes : bytes ≠ []) :
    ∃ reply next, callStale (bufReader (recorded reader)) b request = .ok (reply, next) ∧
      StaleStep reader area delivered b request reply next := by
  have wet : result.n.getD 0 ≠ 0 := by
    intro zero
    have length := refill.counted
    rw [zero] at length
    exact some_bytes (List.length_eq_zero_iff.mp length.symm)
  have filled := refill.conserved.valid
  have read := bufReaderRead_refill (recorded reader) conserved.valid drained clear request.p nonempty
    small (some request.n) (some request.err) refill.called wet
  rw [bufReaderCopy_eq filled request.p request.pLen request.room, refill.window] at read
  obtain ⟨reply, returned, tally, silent, served⟩ := callStale_of_copy read
  have outcome := refill.outcome
  have prepared := refill.prepared
  rw [if_neg some_bytes] at outcome prepared
  refine ⟨reply, _, returned, .of_stores ?_ ?_ ?_ ?_⟩
  · rw [Stores, outcome]
    exact served
  · rw [prepared, outcome, silent]
    exact and_iff_right tally
  · rw [outcome]
    have kept := refill.conserved.advance request.pLen
    rw [refill.window] at kept
    exact kept
  · rw [outcome]
    exact fun _ silent => absurd silent (take_ne_nil ((toNat_pos_iff _).mpr nonempty) some_bytes)

theorem stale_step_refill {reader : Reader S} (conforming : Conforming reader) {area : Area}
    {delivered : List UInt8} {b : BufReader (Recorded S)} (conserved : Conserved area delivered b)
    {request : StaleRequest} (nonempty : request.pLen ≠ 0) (drained : b.window = [])
    (clear : b.readErr = 0) (small : request.pLen ≤ b.bufLen) :
    ∃ reply next, callStale (bufReader (recorded reader)) b request = .ok (reply, next) ∧
      StaleStep reader area delivered b request reply next := by
  obtain ⟨result, bytes, refill⟩ := refill_of_drained conforming conserved nonempty drained clear small
  by_cases dry : bytes = []
  · subst dry
    exact stale_step_dry conserved nonempty drained clear small refill
  · exact stale_step_wet conserved nonempty drained clear small refill dry

/-- Every call from a valid state returns, and its outputs describe it exactly when it was prepared. -/
theorem stale_step {reader : Reader S} (conforming : Conforming reader) {area : Area}
    {delivered : List UInt8} {b : BufReader (Recorded S)} (conserved : Conserved area delivered b)
    (request : StaleRequest) :
    ∃ reply next, callStale (bufReader (recorded reader)) b request = .ok (reply, next) ∧
      StaleStep reader area delivered b request reply next := by
  by_cases empty : request.pLen = 0
  · exact stale_step_empty conserved empty
  by_cases drained : b.window = []
  · by_cases clear : b.readErr = 0
    · by_cases large : b.bufLen < request.pLen
      · exact stale_step_bypass conforming conserved ⟨empty, drained, clear, large⟩
      · exact stale_step_refill conforming conserved empty drained clear (UInt64.not_lt.mp large)
    · exact stale_step_sticky conserved empty drained clear
  · exact stale_step_drain conserved empty drained

/-- A call that returned from a valid state did what its specification says. -/
theorem stale_inv {reader : Reader S} (conforming : Conforming reader) {area : Area}
    {delivered : List UInt8} {b next : BufReader (Recorded S)} (conserved : Conserved area delivered b)
    {request : StaleRequest} {reply : StaleReply}
    (stepped : callStale (bufReader (recorded reader)) b request = .ok (reply, next)) :
    StaleStep reader area delivered b request reply next := by
  obtain ⟨reply', next', stepped', step⟩ := stale_step conforming conserved request
  rw [stepped] at stepped'
  cases stepped'
  exact step

/-- A prepared call takes exactly the bytes that it stored. -/
theorem taken_of_prepared {reader : Reader S} {area : Area} {delivered : List UInt8}
    {b next : BufReader (Recorded S)} {request : StaleRequest} {reply : StaleReply}
    (step : StaleStep reader area delivered b request reply next)
    (prepared : Prepared (recorded reader) b request) :
    reply.taken = (b.outcome (recorded reader) request).1 := by
  obtain ⟨stores, counted, _⟩ := step.exact.mpr prepared
  rw [StaleReply.taken, counted]
  exact stores

theorem StaleStep.collected {reader : Reader S} {area : Area} {delivered : List UInt8}
    {b next : BufReader (Recorded S)} {request : StaleRequest} {reply : StaleReply}
    (step : StaleStep reader area delivered b request reply next)
    (prepared : Prepared (recorded reader) b request) : Conserved area (delivered ++ reply.taken) next := by
  obtain ⟨moved, kept, same⟩ := step.conserved
  rwa [taken_of_prepared step prepared, ← same prepared]

/-- The bytes taken along a prepared run, followed by the window, are the bytes of the source. -/
theorem collected_of_prepared {reader : Reader S} (conforming : Conforming reader) {area : Area}
    {delivered : List UInt8} {b final : BufReader (Recorded S)} {requests : List StaleRequest}
    {replies : List StaleReply} (conserved : Conserved area delivered b)
    (prepared : (callStale (bufReader (recorded reader))).Always
      (fun b request _ _ => Prepared (recorded reader) b request) b requests)
    (ran : (callStale (bufReader (recorded reader))).run b requests = .ok (replies, final)) :
    Conserved area (delivered ++ replies.flatMap StaleReply.taken) final := by
  induction requests generalizing delivered b replies with
  | nil =>
      cases ran
      simpa using conserved
  | cons request rest ih =>
      obtain ⟨reply, next, later, stepped, tail, rfl⟩ := Machine.run_cons_inv ran
      obtain ⟨reply', next', stepped', here, prepared'⟩ := prepared
      rw [stepped] at stepped'
      cases stepped'
      have kept := (stale_inv conforming conserved stepped).collected here
      have collected := ih kept prepared' tail
      rwa [List.append_assoc, ← List.flatMap_cons] at collected

/-- Before a bypass to a source that only writes its outputs, the ones that it leaves alone hold 0. -/
theorem prepared_of_writesOnly {reader : Reader S} (conforming : Conforming reader)
    {b : BufReader (Recorded S)} {request : StaleRequest} (bypasses : b.Bypasses request)
    {answer : ReadResult S} (writes : WritesOnly reader b.reader.impl request.toRequest answer) :
    Prepared (recorded reader) b request ↔
      (answer.n = none → request.n = 0) ∧ (answer.err = none → request.err = 0) := by
  have replied (n : SizeT) (err : Int) :
      sourceReply (recorded reader) b.reader request.p request.pLen n err =
        (answer.p.take (answer.n.getD n).toNat, answer.err.getD err) := by
    have called := writes n err
    simp only [readerRead] at called
    simp [sourceReply, readerRead, recorded, called]
  obtain ⟨result, _, _, called, _, _, _, sized⟩ :=
    conforming.reports b.reader.impl request.p request.pLen 0 0 request.room
  rw [writes 0 0] at called
  cases called
  have positive := (toNat_pos_iff _).mpr bypasses.1
  have room := request.room
  have filled : answer.p ≠ [] := by
    intro empty
    have length : answer.p.length = request.p.length := sized
    rw [empty, List.length_nil] at length
    omega
  rw [bypasses.prepared_iff (recorded reader), replied, replied, Prod.mk.injEq]
  apply and_congr
  · cases answer.n with
    | none => simp [filled, toNat_eq_zero_iff]
    | some stored => simp
  · cases answer.err with
    | none => simp
    | some code => simp

/-- At every call of every run the outputs describe the call exactly when it was prepared, and outside the
bypass the stored bytes stand at the front of `p` in any case. If all calls of a run are prepared, a caller
that takes the reported bytes until `*n` is 0 collects what the source produced. Before a bypass to a source
that only writes its outputs, to be prepared means that the ones it leaves alone hold 0. -/
theorem bufReader_outputs (reader : Reader S) (conforming : Conforming reader) (source : S)
    (area : Area) (requests : List StaleRequest) :
    (callStale (bufReader (recorded reader))).Always (fun b request reply _ =>
        (¬b.Bypasses request → Stores (recorded reader) b request reply) ∧
          (Describes (recorded reader) b request reply ↔ Prepared (recorded reader) b request))
      (bufReaderInit ⟨source, []⟩ area) requests ∧
    (∀ replies b, (callStale (bufReader (recorded reader))).run (bufReaderInit ⟨source, []⟩ area)
        requests = .ok (replies, b) →
      (callStale (bufReader (recorded reader))).Always
        (fun b request _ _ => Prepared (recorded reader) b request)
        (bufReaderInit ⟨source, []⟩ area) requests →
      replies.flatMap StaleReply.taken ++ b.window = b.reader.produced ∧
      ∀ request reply next, callStale (bufReader (recorded reader)) b request = .ok (reply, next) →
        Prepared (recorded reader) b request → request.pLen ≠ 0 → reply.n = 0 →
          replies.flatMap StaleReply.taken = next.reader.produced) ∧
    ∀ (b : BufReader (Recorded S)) request answer, b.Bypasses request →
      WritesOnly reader b.reader.impl request.toRequest answer →
        (Prepared (recorded reader) b request ↔
          (answer.n = none → request.n = 0) ∧ (answer.err = none → request.err = 0)) := by
  have initial := conserved_init source area
  refine ⟨?_, ?_, fun b request answer bypasses writes => prepared_of_writesOnly conforming bypasses writes⟩
  · have guarded := Machine.guarded_true (callStale (bufReader (recorded reader)))
      (bufReaderInit ⟨source, []⟩ area) requests
    refine Machine.always_of_guarded (fun b => ∃ delivered, Conserved area delivered b) ?_
      ⟨[], initial⟩ guarded
    intro b request ⟨delivered, conserved⟩ _
    obtain ⟨reply, next, stepped, step⟩ := stale_step conforming conserved request
    obtain ⟨moved, kept, _⟩ := step.conserved
    exact ⟨reply, next, stepped, ⟨step.stores, step.exact⟩, _, kept⟩
  · intro replies b ran prepared
    have collected := collected_of_prepared conforming initial prepared ran
    rw [List.nil_append] at collected
    refine ⟨collected.account, ?_⟩
    intro request reply next stepped here nonempty silent
    have step := stale_inv conforming collected stepped
    have taken : reply.taken = [] := by
      rw [StaleReply.taken, silent]
      exact List.take_zero
    have nothing := (taken_of_prepared step here).symm.trans taken
    have account := (step.collected here).account
    rwa [taken, step.drained nonempty nothing, List.append_nil, List.append_nil] at account

/-- The source is a list of three bytes, and the caller passes each call what the last one left. -/
theorem bufReader_outputs_list :
    (callStale (bufReader (recorded listReader))).Always (fun b request reply _ =>
        (¬b.Bypasses request → Stores (recorded listReader) b request reply) ∧
          (Describes (recorded listReader) b request reply ↔
            Prepared (recorded listReader) b request))
      (bufReaderInit ⟨[7, 8, 9], []⟩ ⟨2, [0, 0], rfl⟩)
      [⟨⟨[0], 1, by decide⟩, 0, 0⟩, ⟨⟨[7], 1, by decide⟩, 1, 0⟩, ⟨⟨[8], 0, by decide⟩, 1, 0⟩] :=
  (bufReader_outputs listReader listReader_conforming [7, 8, 9] ⟨2, [0, 0], rfl⟩
    [⟨⟨[0], 1, by decide⟩, 0, 0⟩, ⟨⟨[7], 1, by decide⟩, 1, 0⟩, ⟨⟨[8], 0, by decide⟩, 1, 0⟩]).1

/-- A loop reads a file of one byte and passes to its second call what the first one left. -/
def reusedOutputs : List StaleRequest :=
  [⟨⟨[0], 1, Nat.le_refl 1⟩, 0, 0⟩, ⟨⟨[7], 1, Nat.le_refl 1⟩, 1, 0⟩]

/-- The second call stores nothing and reports `EOF`, yet `*n` still counts the first call. -/
theorem bufReader_stale_count :
    ¬(callStale (bufReader fileReader)).Always
      (fun b request reply _ => Describes fileReader b request reply)
      (bufReaderInit (openFile [7]) ⟨2, [0, 0], rfl⟩) reusedOutputs := by
  rintro ⟨reply, next, stepped, _, reply', next', stepped', ⟨_, counted, _⟩, _⟩
  cases stepped
  cases stepped'
  exact absurd counted (by decide)

end Xstd.Io
