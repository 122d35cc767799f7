import Xstd.Proof.Io.BufReaderPull
import Xstd.Proof.Io.ListReader

/-
This file proves that a stack of `BufReader`s delivers what its source delivers.
-/

namespace Xstd.Io

open Library

variable {S : Type}

/-- The stream is over when no data is held and the next code is certain. -/
def BufReader.Over (reader : Reader S) (code : Int) (b : BufReader S) : Prop :=
  b.Valid ∧ b.window = [] ∧
    (b.readErr = code ∨ (b.readErr = 0 ∧ Pull.Finished (pullNonempty reader) b.reader code))

/-- A stream that is over repeats its code. -/
theorem over_finished {reader : Reader S} {code : Int} (nonzero : code ≠ 0) {b : BufReader S}
    (ended : b.Over reader code) : Pull.Finished (pullNonempty (bufReader reader)) b code := by
  apply Pull.finished_of_invariant (BufReader.Over reader code) _ ended
  intro b request ⟨valid, drained, certain⟩
  rcases certain with recorded | ⟨clear, finished⟩
  · have failed : b.readErr ≠ 0 := by rw [recorded]; exact nonzero
    have read := pull_sticky reader valid drained failed request.nonempty
    rw [recorded] at read
    exact ⟨b, read, valid, drained, Or.inl recorded⟩
  · by_cases large : b.bufLen < request.pLen
    · obtain ⟨next, pulled, later⟩ := Pull.finished_step finished request
      exact ⟨_, pull_bypass valid drained clear large pulled,
        valid.withReader_valid next, drained, Or.inr ⟨clear, later⟩⟩
    · have small := UInt64.not_lt.mp large
      have array := request.room_of_le small
      obtain ⟨next, pulled, later⟩ :=
        Pull.finished_step finished ⟨b.refillRequest valid, array⟩
      obtain ⟨after, filled, _, _, recorded, window, served⟩ :=
        pull_refill valid drained clear request.nonempty small pulled
      refine ⟨after, by simpa [pullNonempty] using served, filled, by simpa using window,
        Or.inl recorded⟩

/-- A drain answers with the front of the window. -/
theorem answers_drain {reader : Reader S} {code : Int} {b : BufReader S} (valid : b.Valid)
    (held : b.window ≠ []) (data : List UInt8) (request : NonemptyRequest)
    (tail : Pull.Delivers (pullNonempty (bufReader reader)) (b.advance request.pLen)
      ((b.advance request.pLen).window ++ data) code) :
    Pull.Answers (pullNonempty (bufReader reader)) b (b.window ++ data) code request := by
  refine ⟨_, _, _, pull_drain reader valid held request.nonempty, Or.inl ⟨rfl, _, ?_, tail⟩⟩
  rw [valid.advance_window, ← List.append_assoc, List.take_append_drop]

/-- A drain leaves a shorter window. -/
theorem advance_shorter {b : BufReader S} (valid : b.Valid) (held : b.window ≠ [])
    (request : NonemptyRequest) : (b.advance request.pLen).window.length < b.window.length := by
  have positive := request.positive
  have some := List.length_pos_iff.mpr held
  rw [valid.advance_window, List.length_drop]
  omega

/-- After the code is recorded, the window is all that remains. -/
theorem recorded_delivers {reader : Reader S} {code : Int} (nonzero : code ≠ 0) {b : BufReader S}
    (valid : b.Valid) (recorded : b.readErr = code) :
    Pull.Delivers (pullNonempty (bufReader reader)) b b.window code := by
  induction length : b.window.length using Nat.strong_induction_on generalizing b with
  | _ size ih =>
      apply Pull.delivers_of_step
      intro request
      by_cases drained : b.window = []
      · have failed : b.readErr ≠ 0 := by rw [recorded]; exact nonzero
        refine ⟨_, _, _, pull_sticky reader valid drained failed request.nonempty, Or.inr ?_⟩
        exact ⟨recorded, drained.symm, over_finished nonzero ⟨valid, drained, Or.inl recorded⟩⟩
      · have shorter := advance_shorter valid drained request
        have tail := ih _ (length ▸ shorter) (valid.advance_valid request.pLen) recorded rfl
        rw [← List.append_nil b.window]
        apply answers_drain valid drained [] request
        rwa [List.append_nil]

/-- A large request passes the answer of the source on. -/
theorem answers_bypass {reader : Reader S} {code : Int} (nonzero : code ≠ 0) {b : BufReader S}
    (valid : b.Valid) (drained : b.window = []) (clear : b.readErr = 0) {request : NonemptyRequest}
    (large : b.bufLen < request.pLen) {data : List UInt8}
    (source : Pull.Answers (pullNonempty reader) b.reader data code request)
    (later : ∀ chunk next rest, pullNonempty reader b.reader request = .ok ((chunk, 0), next) →
      data = chunk ++ rest → Pull.Delivers (pullNonempty reader) next rest code →
        Pull.Delivers (pullNonempty (bufReader reader)) (b.withReader next) rest code) :
    Pull.Answers (pullNonempty (bufReader reader)) b data code request := by
  obtain ⟨chunk, reply, next, pulled, answer⟩ := source
  refine ⟨chunk, reply, b.withReader next, pull_bypass valid drained clear large pulled, ?_⟩
  rcases answer with ⟨silent, rest, equal, tail⟩ | ⟨ended, whole, finished⟩
  · left
    rw [silent] at pulled
    exact ⟨silent, rest, equal, later chunk next rest pulled equal tail⟩
  · right
    have kept := valid.withReader_valid next
    exact ⟨ended, whole, over_finished nonzero ⟨kept, drained, Or.inr ⟨clear, finished⟩⟩⟩

/-- A small request takes the front of what the source answers to a request for a full array. -/
theorem answers_refill {reader : Reader S} {code : Int} (nonzero : code ≠ 0) {b : BufReader S}
    (valid : b.Valid) (drained : b.window = []) (clear : b.readErr = 0) {request : NonemptyRequest}
    (small : request.pLen ≤ b.bufLen) {data : List UInt8}
    (source : Pull.Answers (pullNonempty reader) b.reader data code
      ⟨b.refillRequest valid, request.room_of_le small⟩)
    (later : ∀ chunk rest (after : BufReader S),
      pullNonempty reader b.reader ⟨b.refillRequest valid, request.room_of_le small⟩ =
        .ok ((chunk, 0), after.reader) → data = chunk ++ rest →
      Pull.Delivers (pullNonempty reader) after.reader rest code → after.Valid → after.readErr = 0 →
        Pull.Delivers (pullNonempty (bufReader reader)) after (after.window ++ rest) code) :
    Pull.Answers (pullNonempty (bufReader reader)) b data code request := by
  obtain ⟨chunk, reply, next, pulled, answer⟩ := source
  obtain ⟨after, filled, _, rfl, recorded, window, served⟩ :=
    pull_refill valid drained clear request.nonempty small pulled
  refine ⟨_, _, after, served, ?_⟩
  rcases answer with ⟨silent, rest, equal, tail⟩ | ⟨ended, whole, finished⟩
  · left
    rw [silent] at pulled
    refine ⟨by rw [silent]; exact ite_self 0, after.window ++ rest, ?_,
      later chunk rest after pulled equal tail filled (recorded.trans silent)⟩
    rw [equal, window, ← List.append_assoc, List.take_append_drop]
  · subst whole
    by_cases dry : chunk = []
    · right
      subst dry
      refine ⟨by rw [if_pos rfl]; exact ended, List.take_nil, ?_⟩
      exact over_finished nonzero ⟨filled, by simpa using window, Or.inl (recorded.trans ended)⟩
    · left
      refine ⟨if_neg dry, after.window, ?_, recorded_delivers nonzero filled (recorded.trans ended)⟩
      rw [window, List.take_append_drop]

/-- A `BufReader` over a delivering source delivers its window and then the data of the source. -/
theorem bufReader_delivers {reader : Reader S} {code : Int} (nonzero : code ≠ 0) {source : S}
    {data : List UInt8} (delivers : Pull.Delivers (pullNonempty reader) source data code) :
    ∀ b : BufReader S, b.Valid → b.reader = source → b.readErr = 0 →
      Pull.Delivers (pullNonempty (bufReader reader)) b (b.window ++ data) code := by
  -- The outer induction follows the silent calls of the source, the inner one the drains between them.
  refine Pull.delivers_induction nonzero (motive := fun source data => ∀ b : BufReader S,
    b.Valid → b.reader = source → b.readErr = 0 →
      Pull.Delivers (pullNonempty (bufReader reader)) b (b.window ++ data) code) ?_ delivers
  intro source data delivers later b valid reached clear
  subst reached
  induction length : b.window.length using Nat.strong_induction_on generalizing b with
  | _ size drains =>
      apply Pull.delivers_of_step
      intro request
      by_cases drained : b.window = []
      · rw [drained, List.nil_append]
        by_cases large : b.bufLen < request.pLen
        · apply answers_bypass nonzero valid drained clear large
            (Pull.delivers_step nonzero delivers request)
          intro chunk next rest pulled equal tail
          have continued := later _ chunk next rest pulled equal tail (b.withReader next)
            (valid.withReader_valid next) rfl clear
          rwa [BufReader.withReader_window, drained, List.nil_append] at continued
        · apply answers_refill nonzero valid drained clear (UInt64.not_lt.mp large)
            (Pull.delivers_step nonzero delivers _)
          intro chunk rest after pulled equal tail filled silent
          exact later _ chunk _ rest pulled equal tail after filled rfl silent
      · apply answers_drain valid drained data request
        have shorter := advance_shorter valid drained request
        exact drains _ (length ▸ shorter) _ (valid.advance_valid request.pLen) clear delivers later rfl

/-- Buffering is invisible: a stack of any depth with any arrays delivers what its source delivers. -/
theorem stack_delivers (reader : Reader S) {code : Int} (nonzero : code ≠ 0) {source : S}
    {data : List UInt8} (delivers : Pull.Delivers (pullNonempty reader) source data code)
    (areas : List Area) :
    Pull.Delivers (pullNonempty (stackReader reader areas.length)) (stackInit source areas)
      data code := by
  induction areas with
  | nil => exact delivers
  | cons area below ih =>
      have top := bufReader_delivers nonzero ih (bufReaderInit (stackInit source below) area)
        (bufReaderInit_valid _ area) rfl rfl
      rwa [bufReaderInit_window, List.nil_append] at top

/-- Three levels with arrays of 2, 0 and 3 bytes deliver a list of five bytes. -/
theorem stack_delivers_list :
    Pull.Delivers (pullNonempty (stackReader listReader 3))
      (stackInit [1, 2, 3, 4, 5] [⟨2, [0, 0], rfl⟩, ⟨0, [], rfl⟩, ⟨3, [0, 0, 0], rfl⟩])
      [1, 2, 3, 4, 5] eof :=
  stack_delivers listReader (by decide) (listReader_delivers [1, 2, 3, 4, 5])
    [⟨2, [0, 0], rfl⟩, ⟨0, [], rfl⟩, ⟨3, [0, 0, 0], rfl⟩]

end Xstd.Io
