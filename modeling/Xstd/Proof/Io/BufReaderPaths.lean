import Xstd.Proof.Io.BufReaderErrors

/-
This file compares what a `BufReader` does after a source error met by a large read and after the same
error met by a refill.
-/

namespace Xstd.Io

open Library

variable {S : Type}

/-- The bytes and the code that the caller of a read takes. -/
def ReadEvent.reply (event : ReadEvent) : List UInt8 × Int := (event.bytes, event.err)

/-- The reply of a read with the source calls that it made. -/
def ReadEvent.outcome (event : ReadEvent) : (List UInt8 × Int) × List SourceCall :=
  (event.reply, event.calls)

/-- The events of nonempty reads, with a record of the source that starts here. -/
def laterReads (reader : Reader S) (b : BufReader S) (requests : List NonemptyRequest) :
    Except Fault (List ReadEvent) :=
  ((observed reader).run (b.withReader ⟨b.reader, []⟩)
    (requests.map NonemptyRequest.toRequest)).map Prod.fst

/-- A recorded error answers every nonempty read, and no read calls the source. -/
theorem sticky_run (reader : Reader S) {b : BufReader (Recorded S)} (valid : b.Valid)
    (drained : b.window = []) (failed : b.readErr ≠ 0) (requests : List NonemptyRequest) :
    (observed reader).run b (requests.map NonemptyRequest.toRequest) =
      .ok (requests.map fun request =>
        ⟨request.pLen, bufReaderBuffered b, [], [], b.readErr⟩, b) := by
  induction requests with
  | nil => rfl
  | cons request requests ih =>
      have pulled := pull_sticky (recorded reader) valid drained failed request.nonempty
      have stepped : observed reader b request.toRequest =
          .ok (⟨request.pLen, bufReaderBuffered b, [], [], b.readErr⟩, b) := by
        simp only [observed, pulled, List.drop_length]
      rw [List.map_cons, Machine.run_cons_of_ok _ stepped, ih]
      rfl

theorem observed_pLen {reader : Reader S} {b next : BufReader (Recorded S)} {request : Request}
    {event : ReadEvent} (stepped : observed reader b request = .ok (event, next)) :
    event.pLen = request.pLen := by
  simp only [observed] at stepped
  split at stepped
  · cases stepped
  · cases stepped
    rfl

/-- Every accepted call of a recorded source is on its record. -/
theorem recorded_inv {reader : Reader S} {source : Recorded S} {p : List UInt8} {pLen : SizeT}
    {n : Option SizeT} {err : Option Int} {result : ReadResult (Recorded S)}
    (called : readerRead (recorded reader) source p pLen n err = .ok result) :
    ∃ call, result.impl.calls = source.calls ++ [call] := by
  simp only [readerRead, recorded] at called
  split at called
  · cases called
  · cases called
    exact ⟨_, rfl⟩

/-- A copy serves buffered data and leaves the wrapped reader alone. -/
theorem bufReaderCopy_reader {b : BufReader S} {buffered : SizeT} {p : List UInt8} {pLen : SizeT}
    {n : Option SizeT} {err : Option Int} {result : ReadResult (BufReader S)}
    (copied : bufReaderCopy b buffered p pLen n err = .ok result) : result.impl.reader = b.reader := by
  simp only [bufReaderCopy] at copied
  split at copied
  · cases copied
  · cases copied
    rfl

/-- A nonempty read without buffered data and without a recorded error calls the source, whatever the
source does. -/
theorem observed_calls {reader : Reader S} {b next : BufReader (Recorded S)} (valid : b.Valid)
    (drained : b.window = []) (clear : b.readErr = 0) {request : Request} (nonempty : request.pLen ≠ 0)
    {event : ReadEvent} (stepped : observed reader b request = .ok (event, next)) :
    event.calls ≠ [] := by
  simp only [observed] at stepped
  split at stepped
  · cases stepped
  · rename_i bytes err after pulled
    cases stepped
    obtain ⟨result, called, _, _, _, _, reached⟩ := pull_inv pulled
    subst reached
    simp only [readerRead, bufReader, bufReaderRead, if_neg nonempty,
      if_pos (valid.buffered_le_zero.mpr drained), if_neg (not_not.mpr clear)] at called
    have recorded : ∃ call, result.impl.reader.calls = b.reader.calls ++ [call] := by
      split at called
      · split at called
        · cases called
        · rename_i direct
          cases called
          exact recorded_inv direct
      · split at called
        · cases called
        · rename_i refill
          split at called
          · cases called
            exact recorded_inv refill
          · rw [bufReaderCopy_reader called]
            exact recorded_inv refill
    obtain ⟨call, grown⟩ := recorded
    rw [grown, List.drop_left]
    simp

/-- The replies to nonempty reads repeat an error exactly when each source call of them does. -/
theorem replies_iff {reader : Reader S} (conforming : Conforming reader) {b : BufReader (Recorded S)}
    (valid : b.Valid) (drained : b.window = []) (clear : b.readErr = 0) {e : Int} (failure : e ≠ 0)
    (requests : List NonemptyRequest) :
    ∃ events final,
      (observed reader).run b (requests.map NonemptyRequest.toRequest) = .ok (events, final) ∧
      (events.map ReadEvent.reply = requests.map (fun _ => ([], e)) ↔
        ∀ call ∈ callsBy events, call.bytes = [] ∧ call.err = e) := by
  induction requests generalizing b with
  | nil => exact ⟨[], b, rfl, by simp [callsBy]⟩
  | cons request requests ih =>
      obtain ⟨event, next, stepped, seen⟩ := observed_step conforming valid request.toRequest
      have run := Machine.run_cons_of_ok (requests.map NonemptyRequest.toRequest) stepped
      have length : event.pLen = request.pLen := observed_pLen stepped
      cases seen.step with
      | served ready =>
          rw [length] at ready
          exact absurd ready (by simp [request.nonempty, drained, clear])
      | handed call called _ _ _ whole empty kept code =>
          obtain ⟨events, final, ran, same⟩ := ih seen.valid empty kept
          refine ⟨event :: events, final, by rw [List.map_cons, run, ran]; rfl, ?_⟩
          simp only [List.map_cons, List.cons.injEq, ReadEvent.reply, Prod.mk.injEq, same, callsBy_cons,
            called, List.singleton_append, List.forall_mem_cons, whole, code]
      | refilled call called _ _ _ _ _ account recorded code =>
          have failing : (event.bytes, event.err) = ([], e) ↔ call.bytes = [] ∧ call.err = e := by
            rw [Prod.mk.injEq, code]
            constructor
            · rintro ⟨nothing, reported⟩
              by_cases dry : call.bytes = []
              · exact ⟨dry, by rwa [if_pos dry] at reported⟩
              · rw [if_neg dry] at reported
                exact absurd reported.symm failure
            · rintro ⟨dry, reported⟩
              rw [dry, List.append_eq_nil_iff] at account
              exact ⟨account.1, by rw [if_pos dry, reported]⟩
          by_cases fails : call.bytes = [] ∧ call.err = e
          · have empty := account
            rw [fails.1, List.append_eq_nil_iff] at empty
            rw [fails.2] at recorded
            have ran := sticky_run reader seen.valid empty.2 (by rw [recorded]; exact failure) requests
            refine ⟨_, _, by rw [List.map_cons, run, ran]; rfl, ?_⟩
            simp [callsBy, ReadEvent.reply, Function.comp_def, failing.mpr fails, recorded, called, fails]
          · obtain ⟨events, final, ran⟩ := observed_completes conforming seen.valid
              (requests.map NonemptyRequest.toRequest)
            refine ⟨event :: events, final, by rw [List.map_cons, run, ran]; rfl, ?_⟩
            simp only [List.map_cons, List.cons.injEq, ReadEvent.reply, failing, callsBy_cons, called,
              List.singleton_append, List.forall_mem_cons, fails, false_and]

/-- After a recorded error the later reads are silent and repeat it. -/
theorem laterReads_sticky (reader : Reader S) {b : BufReader S} (valid : b.Valid)
    (drained : b.window = []) (failed : b.readErr ≠ 0) (requests : List NonemptyRequest) :
    laterReads reader b requests =
      .ok (requests.map fun request =>
        ⟨request.pLen, bufReaderBuffered b, [], [], b.readErr⟩) := by
  have sticky := sticky_run reader (valid.withReader_valid ⟨b.reader, []⟩) drained failed requests
  rw [laterReads, sticky]
  rfl

/-- Without a recorded error the first of the later reads calls the source. -/
theorem laterReads_calls {reader : Reader S} {b : BufReader S} (valid : b.Valid)
    (drained : b.window = []) (clear : b.readErr = 0) {request : NonemptyRequest}
    {requests : List NonemptyRequest} {events : List ReadEvent}
    (reads : laterReads reader b (request :: requests) = .ok events) :
    ∃ event later, events = event :: later ∧ event.calls ≠ [] := by
  rw [laterReads] at reads
  cases ran : (observed reader).run (b.withReader ⟨b.reader, []⟩)
      ((request :: requests).map NonemptyRequest.toRequest) with
  | error fault =>
      rw [ran] at reads
      cases reads
  | ok result =>
      rw [ran] at reads
      cases reads
      obtain ⟨event, _, later, stepped, _, split⟩ := Machine.run_cons_inv ran
      have fresh := valid.withReader_valid (⟨b.reader, []⟩ : Recorded S)
      exact ⟨event, later, split, observed_calls fresh drained clear request.nonempty stepped⟩

/-- Later reads of a clear state and of a failed one differ in their source calls from the first on. -/
theorem outcomes_agree_iff (reader : Reader S) {fresh failing : BufReader S} (valid : fresh.Valid)
    (drained : fresh.window = []) (clear : fresh.readErr = 0) (valid' : failing.Valid)
    (drained' : failing.window = []) (failed : failing.readErr ≠ 0) (requests : List NonemptyRequest) :
    (laterReads reader fresh requests).map (List.map ReadEvent.outcome) =
        (laterReads reader failing requests).map (List.map ReadEvent.outcome) ↔
      requests = [] := by
  constructor
  · intro same
    rw [laterReads_sticky reader valid' drained' failed requests] at same
    cases requests with
    | nil => rfl
    | cons request requests =>
        cases reads : laterReads reader fresh (request :: requests) with
        | error fault =>
            rw [reads] at same
            cases same
        | ok events =>
            obtain ⟨event, later, split, called⟩ := laterReads_calls valid drained clear reads
            rw [reads, split] at same
            simp [Except.map, ReadEvent.outcome, called] at same
  · intro none
    subst none
    rfl

/-- A source error met by a large read is forgotten, and the same error met by a refill is recorded. The
later nonempty reads agree in bytes, errors and source calls exactly when there are none. The bytes and
errors alone agree exactly when each later source call of the large read repeats the failure. -/
theorem bufReader_paths_iff (reader : Reader S) {b : BufReader S} (valid : b.Valid)
    (drained : b.window = []) (clear : b.readErr = 0) (large small : Request)
    (bypasses : b.bufLen < large.pLen) (nonempty : small.pLen ≠ 0) (refills : small.pLen ≤ b.bufLen)
    {e : Int} (failure : e ≠ 0) {next other : S}
    (direct : pull reader b.reader large = .ok (([], e), next))
    (refill : pull reader b.reader (b.refillRequest valid) = .ok (([], e), other)) :
    ∃ bypassed refilled, pull (bufReader reader) b large = .ok (([], e), bypassed) ∧
      pull (bufReader reader) b small = .ok (([], e), refilled) ∧
      ∀ requests : List NonemptyRequest,
        ((laterReads reader bypassed requests).map (List.map ReadEvent.outcome) =
            (laterReads reader refilled requests).map (List.map ReadEvent.outcome) ↔
          requests = []) ∧
        (Conforming reader → ∃ events, laterReads reader bypassed requests = .ok events ∧
          ((laterReads reader refilled requests).map (List.map ReadEvent.reply) =
              .ok (events.map ReadEvent.reply) ↔
            ∀ call ∈ callsBy events, call.bytes = [] ∧ call.err = e)) := by
  obtain ⟨after, filled, _, _, recorded, window, answered⟩ :=
    pull_refill valid drained clear nonempty refills refill
  rw [List.drop_nil] at window
  rw [List.take_nil, if_pos rfl] at answered
  refine ⟨_, after, pull_bypass valid drained clear bypasses direct, answered, fun requests => ?_⟩
  have failed : after.readErr ≠ 0 := by
    rw [recorded]
    exact failure
  have fresh := valid.withReader_valid next
  constructor
  · exact outcomes_agree_iff reader fresh drained clear filled window failed requests
  · intro conforming
    obtain ⟨events, final, ran, repeats⟩ :=
      replies_iff conforming (fresh.withReader_valid _) drained clear failure requests
    have reads : laterReads reader (b.withReader next) requests = .ok events := by
      rw [laterReads, ran]
      rfl
    refine ⟨events, reads, ?_⟩
    rw [laterReads_sticky reader filled window failed requests, ← repeats]
    simp [Except.map, ReadEvent.reply, Function.comp_def, recorded, eq_comm]

/-- A request for one byte. -/
def oneByte : NonemptyRequest := ⟨⟨[0], 1, by simp⟩, by simp⟩

/-- The source fails once and then delivers a byte. -/
theorem bufReader_paths_recover :
    ∃ bypassed refilled,
      pull (bufReader scriptReader) (bufReaderInit [([], 5), ([7], 0)] ⟨1, [0], rfl⟩)
        ⟨[0, 0], 2, by simp⟩ = .ok (([], 5), bypassed) ∧
      pull (bufReader scriptReader) (bufReaderInit [([], 5), ([7], 0)] ⟨1, [0], rfl⟩)
        oneByte.toRequest = .ok (([], 5), refilled) ∧
      ((laterReads scriptReader bypassed [oneByte]).map (List.map ReadEvent.outcome) =
        (laterReads scriptReader refilled [oneByte]).map (List.map ReadEvent.outcome) ↔
          [oneByte] = []) ∧
      ∃ events, laterReads scriptReader bypassed [oneByte] = .ok events ∧
        ((laterReads scriptReader refilled [oneByte]).map (List.map ReadEvent.reply) =
            .ok (events.map ReadEvent.reply) ↔
          ∀ call ∈ callsBy events, call.bytes = [] ∧ call.err = 5) := by
  have valid := bufReaderInit_valid [(([] : List UInt8), (5 : Int)), ([7], 0)] ⟨1, [0], rfl⟩
  obtain ⟨bypassed, refilled, direct, refill, later⟩ :=
    bufReader_paths_iff scriptReader valid (bufReaderInit_window _ _) rfl ⟨[0, 0], 2, by simp⟩
      oneByte.toRequest (by decide) oneByte.nonempty (by decide) (show (5 : Int) ≠ 0 by decide) rfl rfl
  obtain ⟨calls, replies⟩ := later [oneByte]
  exact ⟨bypassed, refilled, direct, refill, calls, replies scriptReader_conforming⟩

/-- After the bypass the next read delivers the byte, and after the refill it repeats the error. -/
theorem bufReader_paths_differ :
    ∃ bypassed refilled,
      pull (bufReader scriptReader) (bufReaderInit [([], 5), ([7], 0)] ⟨1, [0], rfl⟩)
        ⟨[0, 0], 2, by simp⟩ = .ok (([], 5), bypassed) ∧
      pull (bufReader scriptReader) (bufReaderInit [([], 5), ([7], 0)] ⟨1, [0], rfl⟩)
        oneByte.toRequest = .ok (([], 5), refilled) ∧
      (laterReads scriptReader bypassed [oneByte]).map (List.map ReadEvent.reply) =
        .ok [([7], 0)] ∧
      (laterReads scriptReader refilled [oneByte]).map (List.map ReadEvent.reply) =
        .ok [([], 5)] :=
  ⟨_, _, rfl, rfl, rfl, rfl⟩

end Xstd.Io
