import Xstd.Library.Machine
import Mathlib.Order.WellFounded

/-
This file defines streams that a consumer pulls chunk by chunk until a code ends them.
-/

namespace Xstd.Library

universe u v w x y

/-- A pull machine answers each request with a chunk and a code, and the code 0 is silence. -/
abbrev Pull (Φ : Type u) (S : Type v) (I : Type w) (A : Type x) (E : Type y) :=
  Machine Φ S I (List A × E)

namespace Pull

variable {Φ : Type u} {S : Type v} {I : Type w} {A : Type x} {E : Type y}

/-- The answer to one request of an infinite sequence of requests. -/
def answer (machine : Pull Φ S I A E) : ℕ → S → (ℕ → I) → Except Φ (List A × E)
  | 0, state, inputs => (machine state (inputs 0)).map Prod.fst
  | index + 1, state, inputs =>
      match machine state (inputs 0) with
      | .error fault => .error fault
      | .ok (_, next) => answer machine index next fun later => inputs (later + 1)

/-- The state that a prefix of the requests reaches. -/
def after (machine : Pull Φ S I A E) : ℕ → S → (ℕ → I) → Except Φ S
  | 0, state, _ => .ok state
  | index + 1, state, inputs =>
      match machine state (inputs 0) with
      | .error fault => .error fault
      | .ok (_, next) => after machine index next fun later => inputs (later + 1)

/-- The chunks of a prefix of the requests, in order. -/
def gathered (machine : Pull Φ S I A E) : ℕ → S → (ℕ → I) → List A
  | 0, _, _ => []
  | index + 1, state, inputs =>
      match machine state (inputs 0) with
      | .error _ => []
      | .ok ((chunk, _), next) => chunk ++ gathered machine index next fun later => inputs (later + 1)

variable [Zero E]

/-- The calls before the end are silent, the end reports the code, and together they give the data. -/
structure EndsAt (machine : Pull Φ S I A E) (state : S) (inputs : ℕ → I) (data : List A)
    (code : E) (last : ℕ) : Prop where
  quiet : ∀ index < last, ∃ chunk, answer machine index state inputs = .ok (chunk, 0)
  reports : ∃ chunk, answer machine last state inputs = .ok (chunk, code)
  gathers : gathered machine (last + 1) state inputs = data

/-- The stream ends with the code after exactly the data. -/
def Ends (machine : Pull Φ S I A E) (state : S) (inputs : ℕ → I) (data : List A) (code : E) : Prop :=
  ∃ last, EndsAt machine state inputs data code last

/-- The condition holds before every call that follows silent calls only. -/
def WhileQuiet (machine : Pull Φ S I A E) (condition : S → I → Prop) (state : S)
    (inputs : ℕ → I) : Prop :=
  ∀ index reached, after machine index state inputs = .ok reached →
    (∀ earlier < index, ∃ chunk, answer machine earlier state inputs = .ok (chunk, 0)) →
      condition reached (inputs index)

/-- After its end a stream gives no data and repeats its code. -/
def Finished (machine : Pull Φ S I A E) (state : S) (code : E) : Prop :=
  ∀ inputs index, answer machine index state inputs = .ok ([], code)

/-- Every sequence of requests reaches the code after exactly the data and then finds nothing else. -/
def Delivers (machine : Pull Φ S I A E) (state : S) (data : List A) (code : E) : Prop :=
  ∀ inputs, ∃ last, EndsAt machine state inputs data code last ∧
    ∀ index > last, answer machine index state inputs = .ok ([], code)

/-- A silent answer leaves a stream that delivers the rest, and any other answer ends the stream. -/
def Answers (machine : Pull Φ S I A E) (state : S) (data : List A) (code : E) (input : I) : Prop :=
  ∃ chunk reply next, machine state input = .ok ((chunk, reply), next) ∧
    ((reply = 0 ∧ ∃ rest, data = chunk ++ rest ∧ Delivers machine next rest code) ∨
      (reply = code ∧ chunk = data ∧ Finished machine next code))

omit [Zero E] in
theorem answer_zero_of_ok {machine : Pull Φ S I A E} {state next : S} {inputs : ℕ → I}
    {chunk : List A} {code : E} (stepped : machine state (inputs 0) = .ok ((chunk, code), next)) :
    answer machine 0 state inputs = .ok (chunk, code) := by
  simp [answer, stepped, Except.map]

omit [Zero E] in
theorem answer_succ_of_ok {machine : Pull Φ S I A E} {state next : S} {inputs : ℕ → I}
    {chunk : List A} {code : E} (stepped : machine state (inputs 0) = .ok ((chunk, code), next))
    (index : ℕ) :
    answer machine (index + 1) state inputs =
      answer machine index next fun later => inputs (later + 1) := by
  simp [answer, stepped]

omit [Zero E] in
theorem after_succ_of_ok {machine : Pull Φ S I A E} {state next : S} {inputs : ℕ → I}
    {chunk : List A} {code : E} (stepped : machine state (inputs 0) = .ok ((chunk, code), next))
    (index : ℕ) :
    after machine (index + 1) state inputs =
      after machine index next fun later => inputs (later + 1) := by
  simp [after, stepped]

omit [Zero E] in
theorem gathered_succ_of_ok {machine : Pull Φ S I A E} {state next : S} {inputs : ℕ → I}
    {chunk : List A} {code : E} (stepped : machine state (inputs 0) = .ok ((chunk, code), next))
    (index : ℕ) :
    gathered machine (index + 1) state inputs =
      chunk ++ gathered machine index next fun later => inputs (later + 1) := by
  simp [gathered, stepped]

omit [Zero E] in
/-- The first answer reveals the first step. -/
theorem step_of_answer_zero {machine : Pull Φ S I A E} {state : S} {inputs : ℕ → I}
    {chunk : List A} {code : E} (first : answer machine 0 state inputs = .ok (chunk, code)) :
    ∃ next, machine state (inputs 0) = .ok ((chunk, code), next) := by
  cases stepped : machine state (inputs 0) with
  | error fault => simp [answer, stepped, Except.map] at first
  | ok result =>
      obtain ⟨reply, next⟩ := result
      simp only [answer, stepped, Except.map, Except.ok.injEq] at first
      exact ⟨next, by rw [← first]⟩

/-- The stream ends with its first call exactly when that call reports the code with all data. -/
theorem endsAt_zero_iff {machine : Pull Φ S I A E} {state next : S} {inputs : ℕ → I}
    {chunk data : List A} {reply code : E}
    (stepped : machine state (inputs 0) = .ok ((chunk, reply), next)) :
    EndsAt machine state inputs data code 0 ↔ reply = code ∧ chunk = data := by
  have gathers : gathered machine 1 state inputs = chunk := by
    rw [gathered_succ_of_ok stepped]
    simp [gathered]
  constructor
  · intro ends
    obtain ⟨given, first⟩ := ends.reports
    rw [answer_zero_of_ok stepped] at first
    have same : chunk = given ∧ reply = code := by simpa using first
    exact ⟨same.2, gathers.symm.trans ends.gathers⟩
  · rintro ⟨rfl, rfl⟩
    exact ⟨fun index before => absurd before (Nat.not_lt_zero index),
      ⟨chunk, answer_zero_of_ok stepped⟩, gathers⟩

/-- The stream ends later exactly when its first call is silent and the rest ends there. -/
theorem endsAt_succ_iff {machine : Pull Φ S I A E} {state next : S} {inputs : ℕ → I}
    {chunk data : List A} {reply code : E} {last : ℕ}
    (stepped : machine state (inputs 0) = .ok ((chunk, reply), next)) :
    EndsAt machine state inputs data code (last + 1) ↔ reply = 0 ∧ ∃ rest, data = chunk ++ rest ∧
      EndsAt machine next (fun later => inputs (later + 1)) rest code last := by
  constructor
  · intro ends
    obtain ⟨given, first⟩ := ends.quiet 0 (Nat.succ_pos last)
    rw [answer_zero_of_ok stepped] at first
    have same : chunk = given ∧ reply = 0 := by simpa using first
    refine ⟨same.2, _, ?_, ⟨?_, ?_, rfl⟩⟩
    · exact ends.gathers.symm.trans (gathered_succ_of_ok stepped (last + 1))
    · intro index before
      have silent := ends.quiet (index + 1) (Nat.succ_lt_succ before)
      rwa [answer_succ_of_ok stepped] at silent
    · have reported := ends.reports
      rwa [answer_succ_of_ok stepped] at reported
  · rintro ⟨rfl, rest, rfl, tail⟩
    refine ⟨?_, ?_, ?_⟩
    · intro index before
      cases index with
      | zero => exact ⟨chunk, answer_zero_of_ok stepped⟩
      | succ index =>
          rw [answer_succ_of_ok stepped]
          exact tail.quiet index (Nat.lt_of_succ_lt_succ before)
    · rw [answer_succ_of_ok stepped]
      exact tail.reports
    · rw [gathered_succ_of_ok stepped, tail.gathers]

theorem ends_iff {machine : Pull Φ S I A E} {state next : S} {inputs : ℕ → I}
    {chunk data : List A} {reply code : E}
    (stepped : machine state (inputs 0) = .ok ((chunk, reply), next)) :
    Ends machine state inputs data code ↔ (reply = code ∧ chunk = data) ∨
      (reply = 0 ∧ ∃ rest, data = chunk ++ rest ∧
        Ends machine next (fun later => inputs (later + 1)) rest code) := by
  constructor
  · rintro ⟨last, ends⟩
    cases last with
    | zero => exact Or.inl ((endsAt_zero_iff stepped).mp ends)
    | succ last =>
        obtain ⟨quiet, rest, equal, tail⟩ := (endsAt_succ_iff stepped).mp ends
        exact Or.inr ⟨quiet, rest, equal, last, tail⟩
  · rintro (ended | ⟨quiet, rest, equal, last, tail⟩)
    · exact ⟨0, (endsAt_zero_iff stepped).mpr ended⟩
    · exact ⟨last + 1, (endsAt_succ_iff stepped).mpr ⟨quiet, rest, equal, tail⟩⟩

/-- A condition on quiet calls splits into the first call and, after silence, the rest. -/
theorem whileQuiet_iff {machine : Pull Φ S I A E} {condition : S → I → Prop} {state next : S}
    {inputs : ℕ → I} {chunk : List A} {reply : E}
    (stepped : machine state (inputs 0) = .ok ((chunk, reply), next)) :
    WhileQuiet machine condition state inputs ↔ condition state (inputs 0) ∧
      (reply = 0 → WhileQuiet machine condition next fun later => inputs (later + 1)) := by
  constructor
  · intro holds
    refine ⟨holds 0 state rfl fun _ before => absurd before (Nat.not_lt_zero _), ?_⟩
    intro silent index reached arrives quiet
    apply holds (index + 1) reached
    · rwa [after_succ_of_ok stepped]
    · intro earlier before
      cases earlier with
      | zero => exact ⟨chunk, by rw [answer_zero_of_ok stepped, silent]⟩
      | succ earlier =>
          rw [answer_succ_of_ok stepped]
          exact quiet earlier (Nat.lt_of_succ_lt_succ before)
  · rintro ⟨first, tail⟩ index reached arrives quiet
    cases index with
    | zero =>
        cases arrives
        exact first
    | succ index =>
        obtain ⟨given, known⟩ := quiet 0 (Nat.succ_pos index)
        rw [answer_zero_of_ok stepped] at known
        have same : chunk = given ∧ reply = 0 := by simpa using known
        rw [after_succ_of_ok stepped] at arrives
        apply tail same.2 index reached arrives
        intro earlier before
        have silent := quiet (earlier + 1) (Nat.succ_lt_succ before)
        rwa [answer_succ_of_ok stepped] at silent

/-- A silent first call leaves the question to the rest of the stream. -/
theorem ends_iff_whileQuiet_of_silent {machine : Pull Φ S I A E} {condition : S → I → Prop}
    {state next : S} {inputs : ℕ → I} {chunk rest : List A} {code : E} (nonzero : code ≠ 0)
    (stepped : machine state (inputs 0) = .ok ((chunk, 0), next))
    (holds : condition state (inputs 0))
    (tail : Ends machine next (fun later => inputs (later + 1)) rest code ↔
      WhileQuiet machine condition next fun later => inputs (later + 1)) :
    Ends machine state inputs (chunk ++ rest) code ↔
      WhileQuiet machine condition state inputs := by
  rw [ends_iff stepped, whileQuiet_iff stepped, ← tail]
  constructor
  · rintro (⟨zero, _⟩ | ⟨_, other, equal, ends⟩)
    · exact absurd zero.symm nonzero
    · rw [List.append_cancel_left equal]
      exact ⟨holds, fun _ => ends⟩
  · intro ⟨_, ends⟩
    exact Or.inr ⟨rfl, rest, rfl, ends rfl⟩

/-- A first call with a code ends the stream or spoils it. -/
theorem ends_iff_of_loud {machine : Pull Φ S I A E} {state next : S} {inputs : ℕ → I}
    {chunk data : List A} {reply code : E} (loud : reply ≠ 0)
    (stepped : machine state (inputs 0) = .ok ((chunk, reply), next)) :
    Ends machine state inputs data code ↔ reply = code ∧ chunk = data := by
  rw [ends_iff stepped]
  constructor
  · rintro (ended | ⟨zero, _⟩)
    · exact ended
    · exact absurd zero loud
  · exact Or.inl

theorem whileQuiet_iff_of_loud {machine : Pull Φ S I A E} {condition : S → I → Prop}
    {state next : S} {inputs : ℕ → I} {chunk : List A} {reply : E} (loud : reply ≠ 0)
    (stepped : machine state (inputs 0) = .ok ((chunk, reply), next)) :
    WhileQuiet machine condition state inputs ↔ condition state (inputs 0) := by
  rw [whileQuiet_iff stepped]
  exact and_iff_left fun zero => absurd zero loud

/-- A condition that an invariant of the silent calls implies holds while they are silent. -/
theorem whileQuiet_of_invariant {machine : Pull Φ S I A E} {condition : S → I → Prop}
    (invariant : S → Prop) (implies : ∀ state input, invariant state → condition state input)
    (preserved : ∀ state input chunk next, invariant state →
      machine state input = .ok ((chunk, 0), next) → invariant next)
    {state : S} (initial : invariant state) (inputs : ℕ → I) :
    WhileQuiet machine condition state inputs := by
  intro index
  induction index generalizing state inputs with
  | zero =>
      intro reached arrives _
      cases arrives
      exact implies _ _ initial
  | succ index ih =>
      intro reached arrives quiet
      obtain ⟨chunk, known⟩ := quiet 0 (Nat.succ_pos index)
      obtain ⟨next, stepped⟩ := step_of_answer_zero known
      rw [after_succ_of_ok stepped] at arrives
      apply ih (preserved _ _ _ _ initial stepped) _ reached arrives
      intro earlier before
      have silent := quiet (earlier + 1) (Nat.succ_lt_succ before)
      rwa [answer_succ_of_ok stepped] at silent

/-- This sequence puts one request in front of the others. -/
def prepend (input : I) (inputs : ℕ → I) : ℕ → I
  | 0 => input
  | later + 1 => inputs later

omit [Zero E] in
theorem finished_step {machine : Pull Φ S I A E} {state : S} {code : E}
    (finished : Finished machine state code) (input : I) :
    ∃ next, machine state input = .ok (([], code), next) ∧ Finished machine next code := by
  obtain ⟨next, stepped⟩ := step_of_answer_zero (finished (fun _ => input) 0)
  refine ⟨next, stepped, ?_⟩
  intro inputs index
  have stepped' : machine state (prepend input inputs 0) = .ok (([], code), next) := stepped
  have later := finished (prepend input inputs) (index + 1)
  rwa [answer_succ_of_ok stepped'] at later

omit [Zero E] in
/-- A set of states that only repeats the code is finished. -/
theorem finished_of_invariant {machine : Pull Φ S I A E} {code : E} (invariant : S → Prop)
    (repeated : ∀ state input, invariant state →
      ∃ next, machine state input = .ok (([], code), next) ∧ invariant next)
    {state : S} (initial : invariant state) : Finished machine state code := by
  intro inputs index
  induction index generalizing state inputs with
  | zero =>
      obtain ⟨next, stepped, _⟩ := repeated state (inputs 0) initial
      exact answer_zero_of_ok stepped
  | succ index ih =>
      obtain ⟨next, stepped, kept⟩ := repeated state (inputs 0) initial
      rw [answer_succ_of_ok stepped]
      exact ih kept _

/-- One request to a delivering stream gives a prefix of its data. -/
theorem delivers_step {machine : Pull Φ S I A E} {state : S} {data : List A} {code : E}
    (nonzero : code ≠ 0) (delivers : Delivers machine state data code) (input : I) :
    Answers machine state data code input := by
  have first : ∃ chunk reply, answer machine 0 state (fun _ => input) = .ok (chunk, reply) := by
    obtain ⟨last, ends, _⟩ := delivers fun _ => input
    cases last with
    | zero => exact ends.reports.imp fun chunk known => ⟨code, known⟩
    | succ last => exact (ends.quiet 0 (Nat.succ_pos last)).imp fun chunk known => ⟨0, known⟩
  obtain ⟨chunk, reply, known⟩ := first
  obtain ⟨next, stepped⟩ := step_of_answer_zero known
  refine ⟨chunk, reply, next, stepped, ?_⟩
  -- The first reply does not depend on the later requests, so it decides the case for all of them.
  by_cases silent : reply = 0
  · left
    have split : ∀ inputs, ∃ rest last, data = chunk ++ rest ∧
        EndsAt machine next inputs rest code last ∧
        ∀ index > last, answer machine index next inputs = .ok ([], code) := by
      intro inputs
      obtain ⟨last, ends, sticky⟩ := delivers (prepend input inputs)
      have stepped' : machine state (prepend input inputs 0) = .ok ((chunk, reply), next) := stepped
      cases last with
      | zero => exact absurd (silent.symm.trans ((endsAt_zero_iff stepped').mp ends).1).symm nonzero
      | succ last =>
          obtain ⟨_, rest, equal, tail⟩ := (endsAt_succ_iff stepped').mp ends
          refine ⟨rest, last, equal, tail, fun index beyond => ?_⟩
          have later := sticky (index + 1) (Nat.succ_lt_succ beyond)
          rwa [answer_succ_of_ok stepped'] at later
    obtain ⟨rest, _, equal, _⟩ := split fun _ => input
    refine ⟨silent, rest, equal, fun inputs => ?_⟩
    obtain ⟨other, last, equal', ends, sticky⟩ := split inputs
    have same : other = rest := List.append_cancel_left (equal'.symm.trans equal)
    exact ⟨last, same ▸ ends, sticky⟩
  · right
    have immediate : ∀ inputs, EndsAt machine state (prepend input inputs) data code 0 ∧
        ∀ index > 0, answer machine index state (prepend input inputs) = .ok ([], code) := by
      intro inputs
      obtain ⟨last, ends, sticky⟩ := delivers (prepend input inputs)
      have stepped' : machine state (prepend input inputs 0) = .ok ((chunk, reply), next) := stepped
      cases last with
      | zero => exact ⟨ends, sticky⟩
      | succ last => exact absurd ((endsAt_succ_iff stepped').mp ends).1 silent
    have stepped' : ∀ inputs, machine state (prepend input inputs 0) = .ok ((chunk, reply), next) :=
      fun _ => stepped
    obtain ⟨equal, whole⟩ := (endsAt_zero_iff (stepped' fun _ => input)).mp (immediate _).1
    refine ⟨equal, whole, fun inputs index => ?_⟩
    have later := (immediate inputs).2 (index + 1) (Nat.succ_pos index)
    rwa [answer_succ_of_ok (stepped' inputs)] at later

/-- A stream delivers when each first answer leaves a stream that delivers the rest. -/
theorem delivers_of_step {machine : Pull Φ S I A E} {state : S} {data : List A} {code : E}
    (answers : ∀ input, Answers machine state data code input) :
    Delivers machine state data code := by
  intro inputs
  obtain ⟨chunk, reply, next, stepped, silent | ended⟩ := answers (inputs 0)
  · obtain ⟨quiet, rest, equal, tail⟩ := silent
    obtain ⟨last, ends, sticky⟩ := tail fun later => inputs (later + 1)
    refine ⟨last + 1, (endsAt_succ_iff stepped).mpr ⟨quiet, rest, equal, ends⟩, ?_⟩
    intro index beyond
    cases index with
    | zero => exact absurd beyond (Nat.not_lt_zero _)
    | succ index =>
        rw [answer_succ_of_ok stepped]
        exact sticky index (Nat.lt_of_succ_lt_succ beyond)
  · obtain ⟨equal, whole, finished⟩ := ended
    refine ⟨0, (endsAt_zero_iff stepped).mpr ⟨equal, whole⟩, ?_⟩
    intro index beyond
    cases index with
    | zero => exact absurd beyond (Nat.lt_irrefl 0)
    | succ index =>
        rw [answer_succ_of_ok stepped]
        exact finished _ index

/-- One silent call leads from the second state to the first. -/
def Silent (machine : Pull Φ S I A E) (next state : S) : Prop :=
  ∃ input chunk, machine state input = .ok ((chunk, 0), next)

/-- A delivering stream admits no infinite sequence of silent calls. -/
theorem delivers_acc {machine : Pull Φ S I A E} {state : S} {data : List A} {code : E}
    (nonzero : code ≠ 0) (delivers : Delivers machine state data code) :
    Acc (Silent machine) state := by
  rw [acc_iff_isEmpty_descending_chain]
  refine ⟨fun ⟨chain, start, descends⟩ => ?_⟩
  choose inputs chunks stepped using descends
  have silent : ∀ index base,
      answer machine index (chain base) (fun later => inputs (base + later)) =
        .ok (chunks (base + index), 0) := by
    intro index
    induction index with
    | zero => exact fun base => answer_zero_of_ok (stepped base)
    | succ index ih =>
        intro base
        rw [answer_succ_of_ok (stepped base)]
        have shifted := ih (base + 1)
        simpa only [Nat.add_assoc, Nat.add_comm 1] using shifted
  obtain ⟨last, ends, _⟩ := delivers inputs
  obtain ⟨chunk, reported⟩ := ends.reports
  have quiet := silent last 0
  simp only [Nat.zero_add, start] at quiet
  rw [quiet] at reported
  have same : chunks last = chunk ∧ 0 = code := by simpa using reported
  exact nonzero same.2.symm

/-- The induction rule follows the silent calls of a delivering stream. -/
theorem delivers_induction {machine : Pull Φ S I A E} {code : E} (nonzero : code ≠ 0)
    {motive : S → List A → Prop}
    (step : ∀ state data, Delivers machine state data code →
      (∀ input chunk next rest, machine state input = .ok ((chunk, 0), next) → data = chunk ++ rest →
        Delivers machine next rest code → motive next rest) → motive state data)
    {state : S} {data : List A} (delivers : Delivers machine state data code) :
    motive state data := by
  induction delivers_acc nonzero delivers generalizing data with
  | intro state _ ih =>
      exact step state data delivers fun input chunk next rest stepped _ tail =>
        ih next ⟨input, chunk, stepped⟩ tail

end Pull

end Xstd.Library
