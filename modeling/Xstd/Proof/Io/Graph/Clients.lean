import Xstd.Library.Interleaving
import Xstd.Proof.Io.Graph.Layout
import Xstd.Proof.Io.Graph.Stack
import Xstd.Proof.Io.Stdio

/-
This file proves that clients on objects in memory get the answers of the model, however their calls
interleave.
-/

namespace Xstd.Io.Graph

open Library

variable {F ι : Type} {stdio : Stdio F}

def Iface.region (iface : Iface) : List Cell := iface.cells ++ [.word iface.impl]

theorem Iface.region_loud {iface : Iface} {cell : Cell} (member : cell ∈ iface.region) :
    cell ≠ .errno := by
  rintro rfl
  simp [region, cells] at member

/-- The interface of a closer over the stream, or of one that does nothing. -/
def CloserServes (closer : CloserKind × Iface) (world : World F) (file : ℕ) : Prop :=
  match closer.1 with
  | .file => closer.2.Serves world .fileCloserVtable file
  | .nop => ∃ offset, closer.2.Reaches world .nopCloserVtable offset

theorem CloserServes.same {closer : CloserKind × Iface} {world after : World F} {file : ℕ}
    (serves : CloserServes closer world file) (same : ∀ cell ∈ closer.2.region, world.Same after cell) :
    CloserServes closer after file := by
  obtain ⟨kind, iface⟩ := closer
  cases kind with
  | file => exact Iface.Serves.same serves same
  | nop =>
      obtain ⟨offset, reaches⟩ := serves
      exact ⟨offset, reaches.same fun cell member => same cell (List.mem_append_left _ member)⟩

/-- A close through either kind of closer does what the model does. -/
theorem CloserServes.close (threaded : Threaded stdio) {closer : CloserKind × Iface} {world : World F}
    {file : ℕ} (serves : CloserServes closer world file) {error : Option ObjectPtr} {err : Option Int}
    (codes : intWord.Points world.objects error err) :
    ∃ after, closerClose stdio world closer.2.ptr error = .ok after ∧
      after.stream stdio file =
        (Io.closerClose (closer.1.closer stdio) (world.stream stdio file) err).impl ∧
      intWord.Points after.objects error
        (Io.closerClose (closer.1.closer stdio) (world.stream stdio file) err).error ∧
      Quiet file none error world after := by
  obtain ⟨kind, iface⟩ := closer
  cases kind with
  | file => exact closerClose_spec threaded serves codes
  | nop =>
      obtain ⟨offset, reaches⟩ := serves
      refine ⟨world, ?_, rfl, codes, fun cell _ _ _ _ => World.Same.refl world cell⟩
      rw [closerClose, reaches.call]
      rfl

/-- The objects of one client: a stack of readers over a stream, perhaps a writer and a closer of the same
stream, an array and two variables. -/
structure Stack where
  source : Iface
  file : ℕ
  levels : List Level
  writer : Option Iface
  closer : Option (CloserKind × Iface)
  array : ℕ
  n : ObjectPtr
  err : ObjectPtr

namespace Stack

variable (stack : Stack)

def depth : ℕ := (stack.levels.map Level.area).length

def handle : Handle where
  reader := topReader stack.source stack.levels
  writer := stack.writer.map Iface.ptr
  closer := stack.closer.map fun closer => closer.2.ptr
  array := stack.array
  n := stack.n
  err := stack.err

def kind : CloserKind := (stack.closer.map Prod.fst).getD .nop

/-- The cells that the client itself writes. -/
def own : List Cell := [.array stack.array, .word stack.n, .word stack.err]

/-- The cells that a call may change, besides `errno`. -/
def changed : List Cell := stack.own ++ (stack.levels.flatMap Level.changed ++ [.file stack.file])

/-- The cells that a call only reads. -/
def fixed : List Cell :=
  stack.source.region ++ stack.levels.flatMap Level.fixed ++ stack.writer.toList.flatMap Iface.region ++
    stack.closer.toList.flatMap fun closer => closer.2.region

/-- The cells of the stack are different ones. -/
structure Separate : Prop where
  different : stack.changed.Nodup
  steady : ∀ cell ∈ stack.changed, cell ∉ stack.fixed

/-- The client has the interface that a call goes through. -/
def Allows (call : StackCall) : Prop :=
  match call.op with
  | .read => True
  | .write => stack.writer.isSome
  | .close => stack.closer.isSome

instance (call : StackCall) : Decidable (stack.Allows call) :=
  match call with
  | ⟨_, .read, _, _, _, _⟩ => inferInstanceAs (Decidable True)
  | ⟨_, .write, _, _, _, _⟩ => inferInstanceAs (Decidable (stack.writer.isSome = true))
  | ⟨_, .close, _, _, _, _⟩ => inferInstanceAs (Decidable (stack.closer.isSome = true))

/-- The world holds the stack in a state of the model, for some `errno`. -/
structure View (stdio : Stdio F) (world : World F) (state : StackState F stack.depth) : Prop where
  holds : ∃ errno, StackHolds stdio stack.source stack.file stack.levels { world with errno := errno } state
  n : ∃ value, sizeWord.load world.objects stack.n = some value
  err : ∃ value, intWord.load world.objects stack.err = some value
  writer : ∀ iface, stack.writer = some iface → iface.Serves world .fileWriterVtable stack.file
  closer : ∀ closer, stack.closer = some closer → CloserServes closer world stack.file

variable {stack} {world after : World F} {state : StackState F stack.depth} {call : StackCall}

theorem mem_footprint {cell : Cell} (member : cell ∈ stackFootprint stack.source stack.file stack.levels)
    (loud : cell ≠ .errno) : cell ∈ stack.changed ++ stack.fixed := by
  simp only [changed, fixed, Iface.region, List.mem_append]
  rcases mem_stackFootprint.mp member with fixed | passed | moved
  · exact Or.inr (Or.inl (Or.inl (Or.inr fixed)))
  · exact Or.inr (Or.inl (Or.inl (Or.inl (List.mem_append.mp passed))))
  · rcases mem_stackChanged.mp moved with level | stream | errno
    · exact Or.inl (Or.inr (Or.inl level))
    · exact Or.inl (Or.inr (Or.inr (List.mem_singleton.mpr stream)))
    · exact absurd errno loud

theorem writer_fixed {iface : Iface} (found : stack.writer = some iface) {cell : Cell}
    (member : cell ∈ iface.region) : cell ∈ stack.fixed := by
  simp only [fixed, found, Option.toList_some, List.flatMap_singleton, List.mem_append]
  exact Or.inl (Or.inr member)

theorem closer_fixed {closer : CloserKind × Iface} (found : stack.closer = some closer) {cell : Cell}
    (member : cell ∈ closer.2.region) : cell ∈ stack.fixed := by
  simp only [fixed, found, Option.toList_some, List.flatMap_singleton, List.mem_append]
  exact Or.inr member

theorem Separate.stackApart (separate : stack.Separate) :
    StackApart stack.source stack.file stack.levels := by
  apply stackApart_of_nodup (List.nodup_append.mp separate.different).2.1
  intro cell moved member
  apply separate.steady cell (List.mem_append_right _ moved)
  exact List.mem_append_left _ (List.mem_append_left _ member)

/-- The cells of the client lie outside the stack. -/
theorem Separate.own_outside (separate : stack.Separate) {cell : Cell} (own : cell ∈ stack.own) :
    cell ∉ stackFootprint stack.source stack.file stack.levels := by
  intro member
  have apart := (List.nodup_append.mp separate.different).2.2 cell own
  rcases mem_stackFootprint.mp member with level | passed | moved
  · apply separate.steady cell (List.mem_append_left _ own)
    exact List.mem_append_left _ (List.mem_append_left _ (List.mem_append_right _ level))
  · apply separate.steady cell (List.mem_append_left _ own)
    exact List.mem_append_left _ (List.mem_append_left _ (List.mem_append_left _ passed))
  · rcases mem_stackChanged.mp moved with level | stream | errno
    · exact apart cell (List.mem_append_left _ level) rfl
    · exact apart cell (List.mem_append_right _ (List.mem_singleton.mpr stream)) rfl
    · subst errno
      simp [Stack.own] at own

/-- The view of a stack depends on its cells alone, whatever `errno` is. -/
theorem View.same (view : stack.View stdio world state) (threaded : Threaded stdio)
    (separate : stack.Separate)
    (unchanged : ∀ cell ∈ stack.changed ++ stack.fixed, world.Same after cell) :
    stack.View stdio after state := by
  have own (cell : Cell) (member : cell ∈ stack.own) : world.Same after cell :=
    unchanged cell (List.mem_append_left _ (List.mem_append_left _ member))
  constructor
  · obtain ⟨errno, holds⟩ := view.holds
    have mirrors := stack_mirrors threaded stack.source stack.file 0 separate.stackApart
    refine ⟨errno, mirrors.stable holds fun cell member => ?_⟩
    exact World.Same.with_errno errno fun loud => unchanged cell (mem_footprint member loud)
  · obtain ⟨value, loaded⟩ := view.n
    exact ⟨value, load_same loaded (own _ (by simp [Stack.own]))⟩
  · obtain ⟨value, loaded⟩ := view.err
    exact ⟨value, load_same loaded (own _ (by simp [Stack.own]))⟩
  · intro iface found
    exact (view.writer iface found).same fun cell member =>
      unchanged cell (List.mem_append_right _ (writer_fixed found member))
  · intro closer found
    exact (view.closer closer found).same fun cell member =>
      unchanged cell (List.mem_append_right _ (closer_fixed found member))

/-- The arguments that the client passes. -/
def args (stack : Stack) (call : StackCall) : ReadArgs :=
  ⟨⟨stack.array, call.front.length⟩, call.pLen, call.n.map fun _ => stack.n,
    call.err.map fun _ => stack.err⟩

theorem args_n {ptr : ObjectPtr} (pointed : some ptr = (stack.args call).n) :
    ptr = stack.n ∧ call.n ≠ none := by
  obtain ⟨value, given, same⟩ := Option.map_eq_some_iff.mp pointed.symm
  exact ⟨same.symm, by rw [given]; exact Option.some_ne_none value⟩

theorem args_err {ptr : ObjectPtr} (pointed : some ptr = (stack.args call).err) :
    ptr = stack.err ∧ call.err ≠ none := by
  obtain ⟨value, given, same⟩ := Option.map_eq_some_iff.mp pointed.symm
  exact ⟨same.symm, by rw [given]; exact Option.some_ne_none value⟩

theorem mem_own {cell : Cell} (member : cell ∈ (stack.args call).cells) : cell ∈ stack.own := by
  simp only [ReadArgs.cells, List.mem_cons, List.mem_map, List.mem_append, Option.mem_toList] at member
  rcases member with rfl | ⟨ptr, counts | codes, rfl⟩
  · exact List.mem_cons_self
  · rw [(args_n counts.symm).1]
    simp [own]
  · rw [(args_err codes.symm).1]
    simp [own]

/-- The world with the outputs, the array and the `errno` of a call. -/
structure Prepared (stack : Stack) (world : World F) (call : StackCall) (prepared : World F) : Prop where
  ready : (stack.args call).Ready prepared call.n call.err
  array : prepared.arrays stack.array = call.front ++ call.p
  errno : prepared.errno = call.errno
  n : ∃ value, sizeWord.load prepared.objects stack.n = some value
  err : ∃ value, intWord.load prepared.objects stack.err = some value
  others : ∀ cell, cell ∉ stack.own → cell ≠ .errno → world.Same prepared cell

/-- The client prepares every call. -/
theorem View.prepare (view : stack.View stdio world state) (call : StackCall) :
    ∃ prepared, stack.handle.prepare world call = .ok prepared ∧ stack.Prepared world call prepared := by
  obtain ⟨count, counted⟩ := view.n
  obtain ⟨code, coded⟩ := view.err
  have counts : sizeWord.Points world.objects (stack.args call).n (call.n.map fun _ => count) :=
    points_map counted call.n
  have codes : intWord.Points world.objects (stack.args call).err (call.err.map fun _ => code) :=
    points_map coded call.err
  obtain ⟨first, assigned, stored, codes', others⟩ := World.assign_count counts codes (call.n.getD 0)
  obtain ⟨second, assigned', counted', stored', others'⟩ :=
    World.assign_code stored codes' (call.err.getD 0)
  have distinct := variables_ne view.n view.err
  have array : Function.update second.arrays stack.array (call.front ++ call.p) stack.array =
      call.front ++ call.p := Function.update_self _ _ _
  refine ⟨{ second with
    arrays := Function.update second.arrays stack.array (call.front ++ call.p)
    errno := call.errno }, ?_, ⟨?_, ?_, ?_⟩, array, rfl, ?_, ?_, ?_⟩
  · rw [Handle.prepare]
    show (world.assign sizeWord (stack.args call).n _ >>= fun first =>
      first.assign intWord (stack.args call).err _ >>= _) = _
    rw [assigned, ok_bind, assigned']
    rfl
  · show call.front.length + call.pLen.toNat ≤
      (Function.update second.arrays stack.array (call.front ++ call.p) stack.array).length
    rw [array, List.length_append]
    exact Nat.add_le_add_left call.room _
  · cases given : call.n with
    | none => simpa [store, given] using counted'
    | some => simpa [store, given] using counted'
  · cases given : call.err with
    | none => simpa [store, given] using stored'
    | some => simpa [store, given] using stored'
  · refine variable_kept view.n counted' fun unpassed => ?_
    apply (others (.word stack.n) _).trans (others' (.word stack.n) _)
    · exact fun ptr pointed => absurd unpassed (args_n pointed).2
    · rintro ptr pointed same
      cases same
      exact distinct (args_err pointed).1
  · refine variable_kept view.err stored' fun unpassed => ?_
    apply (others (.word stack.err) _).trans (others' (.word stack.err) _)
    · rintro ptr pointed same
      cases same
      exact distinct (args_n pointed).1.symm
    · exact fun ptr pointed => absurd unpassed (args_err pointed).2
  · intro cell outside loud
    have same : world.Same second cell := by
      apply (others cell _).trans (others' cell _)
      · rintro ptr pointed rfl
        exact outside (mem_own (ReadArgs.mem_n pointed))
      · rintro ptr pointed rfl
        exact outside (mem_own (ReadArgs.mem_err pointed))
    apply same.trans
    cases cell with
    | array array =>
        have different : array ≠ stack.array := by
          rintro rfl
          exact outside (by simp [Stack.own])
        exact (Function.update_of_ne different _ _).symm
    | errno => exact absurd rfl loud
    | _ => rfl

/-- What a client observes are the values that its outputs point to. -/
theorem observe_eq {n : Option SizeT} {err : Option Int}
    (counts : sizeWord.Points world.objects (stack.args call).n n)
    (codes : intWord.Points world.objects (stack.args call).err err) :
    stack.handle.observe world call = ⟨world.arrays stack.array, n, err⟩ := by
  have left : (call.n.bind fun _ => sizeWord.load world.objects stack.n) = n := points_bind counts
  have right : (call.err.bind fun _ => intWord.load world.objects stack.err) = err := points_bind codes
  show Observation.mk _ (call.n.bind fun _ => sizeWord.load world.objects stack.n)
    (call.err.bind fun _ => intWord.load world.objects stack.err) = _
  rw [left, right]
  rfl

/-- A step of one client gives the answer of the model, and it changes the cells of the client alone. -/
def Steps (stdio : Stdio F) (fuel : ℕ) (stack : Stack) (world : World F) (state : StackState F stack.depth)
    (call : StackCall) : Prop :=
  ∃ prepared after reply next, stack.handle.prepare world call = .ok prepared ∧
    stack.handle.call stdio fuel prepared call = .ok after ∧ stack.handle.observe after call = reply ∧
    stackStep stdio (stack.kind.closer stdio) stack.depth state call = .ok (reply, next) ∧
    stack.View stdio after next ∧ ∀ cell, cell ∉ stack.changed → cell ≠ .errno → world.Same after cell

/-- The prepared world holds the stack in the state that the model starts from. -/
theorem Prepared.holds (threaded : Threaded stdio) (separate : stack.Separate)
    (view : stack.View stdio world state) {prepared : World F}
    (ready : stack.Prepared world call prepared) :
    StackHolds stdio stack.source stack.file stack.levels prepared
        (stackWithSource _ state (prepared.stream stdio stack.file)) ∧
      prepared.stream stdio stack.file = stdio.setErrno (stackSource _ state) call.errno := by
  obtain ⟨errno, holds⟩ := view.holds
  constructor
  · apply holds.setStream
    intro cell member _ loud
    apply (World.same_errno world errno loud).trans
    exact ready.others cell (fun own => separate.own_outside own member) loud
  · have files : world.files stack.file = prepared.files stack.file := by
      apply ready.others (.file stack.file) _ Cell.noConfusion
      simp [own]
    rw [show stackSource stack.depth state = _ from holds.source_eq, World.stream, World.stream,
      threaded.set_set, ready.errno, files]

/-- A call that spares the fixed cells leaves a view of its new state behind. -/
theorem Prepared.finish (separate : stack.Separate) (view : stack.View stdio world state)
    {prepared : World F} (ready : stack.Prepared world call prepared)
    {next : StackState F stack.depth}
    (holds : StackHolds stdio stack.source stack.file stack.levels after next)
    {n : Option SizeT} {err : Option Int} (counts : sizeWord.Points after.objects (stack.args call).n n)
    (codes : intWord.Points after.objects (stack.args call).err err)
    (others : ∀ cell, cell ∉ stackChanged stack.file stack.levels → cell ∉ (stack.args call).cells →
      prepared.Same after cell) :
    stack.View stdio after next ∧
      ∀ cell, cell ∉ stack.changed → cell ≠ .errno → world.Same after cell := by
  have frame (cell : Cell) (quiet : cell ∉ stack.changed) (loud : cell ≠ .errno) :
      world.Same after cell := by
    have unowned : cell ∉ stack.own := fun own => quiet (List.mem_append_left _ own)
    apply (ready.others cell unowned loud).trans
    apply others cell _ fun passed => unowned (mem_own passed)
    intro moved
    rcases mem_stackChanged.mp moved with level | stream | errno
    · exact quiet (List.mem_append_right _ (List.mem_append_left _ level))
    · exact quiet (List.mem_append_right _ (List.mem_append_right _ (List.mem_singleton.mpr stream)))
    · exact loud errno
  have outside (cell : Cell) (own : cell ∈ stack.own) : cell ∉ stackChanged stack.file stack.levels :=
    fun moved => separate.own_outside own (mem_stackFootprint.mpr (Or.inr (Or.inr moved)))
  have still (cell : Cell) (fixed : cell ∈ stack.fixed) (loud : cell ≠ .errno) : world.Same after cell :=
    frame cell (fun moved => separate.steady cell moved fixed) loud
  have distinct := variables_ne ready.n ready.err
  refine ⟨⟨⟨after.errno, holds⟩, ?_, ?_, ?_, ?_⟩, frame⟩
  · refine variable_kept ready.n counts fun unpassed => ?_
    apply others (.word stack.n) (outside _ (by simp [own]))
    intro passed
    rcases ReadArgs.mem_cells.mp passed with pointed | pointed
    · exact (args_n pointed).2 unpassed
    · exact distinct (args_err pointed).1
  · refine variable_kept ready.err codes fun unpassed => ?_
    apply others (.word stack.err) (outside _ (by simp [own]))
    intro passed
    rcases ReadArgs.mem_cells.mp passed with pointed | pointed
    · exact distinct (args_n pointed).1.symm
    · exact (args_err pointed).2 unpassed
  · intro iface found
    exact (view.writer iface found).same fun cell member =>
      still cell (writer_fixed found member) (Iface.region_loud member)
  · intro closer found
    exact (view.closer closer found).same fun cell member =>
      still cell (closer_fixed found member) (Iface.region_loud member)

theorem Prepared.tail {prepared : World F} (ready : stack.Prepared world call prepared) :
    prepared.tail (stack.args call).p = call.p := by
  show (prepared.arrays stack.array).drop call.front.length = call.p
  rw [ready.array, List.drop_left]

/-- A read goes through all levels of the stack. -/
theorem steps_read (threaded : Threaded stdio) (separate : stack.Separate) {fuel : ℕ}
    (deep : stack.levels.length < fuel) (view : stack.View stdio world state) (op : call.op = .read) :
    Steps stdio fuel stack world state call := by
  obtain ⟨prepared, prepares, ready⟩ := view.prepare call
  obtain ⟨holds, stream⟩ := ready.holds threaded separate view
  obtain ⟨extra, rfl⟩ : ∃ extra, fuel = extra + stack.levels.length + 1 :=
    ⟨fuel - stack.levels.length - 1, by omega⟩
  have mirrors := stack_mirrors threaded stack.source stack.file extra separate.stackApart
  obtain ⟨result, after, answered, called, kind⟩ := mirrors.answers holds ready.ready
    fun cell passed => separate.own_outside (mem_own passed)
  have array : after.arrays stack.array = call.front ++ result.p := by
    have array := kind.p
    rwa [show prepared.arrays (stack.args call).p.object = _ from ready.array,
      show (stack.args call).p.offset = call.front.length from rfl, List.take_left] at array
  refine ⟨prepared, after, _, result.impl, prepares, ?_, observe_eq kind.n kind.err, ?_,
    ready.finish separate view kind.holds kind.n kind.err kind.others⟩
  · rw [Handle.call, op]
    exact called
  · rw [ready.tail, stream] at answered
    have answered' : Io.readerRead (stackReader stdio.fileReader stack.depth)
        (stackWithSource stack.depth state (stdio.setErrno (stackSource stack.depth state) call.errno))
        call.p call.pLen call.n call.err = .ok result := answered
    simp only [stackStep, op, answered', array]

/-- A call that only the stream answers keeps the levels. -/
theorem steps_stream (threaded : Threaded stdio) (separate : stack.Separate) {fuel : ℕ}
    (view : stack.View stdio world state) {prepared : World F}
    (prepares : stack.handle.prepare world call = .ok prepared) (ready : stack.Prepared world call prepared)
    (called : stack.handle.call stdio fuel prepared call = .ok after) {f : F}
    (left : after.stream stdio stack.file = f) {n : Option SizeT} {err : Option Int}
    (counts : sizeWord.Points after.objects (stack.args call).n n)
    (codes : intWord.Points after.objects (stack.args call).err err)
    (quiet : Quiet stack.file (stack.args call).n (stack.args call).err prepared after)
    (answered : stackStep stdio (stack.kind.closer stdio) stack.depth state call =
      .ok (⟨call.front ++ call.p, n, err⟩, stackWithSource stack.depth state f)) :
    Steps stdio fuel stack world state call := by
  obtain ⟨holds, _⟩ := ready.holds threaded separate view
  have others (cell : Cell) (notFile : cell ≠ .file stack.file) (loud : cell ≠ .errno)
      (unpassed : cell ∉ (stack.args call).cells) : prepared.Same after cell := by
    apply quiet cell notFile loud
    · rintro ptr pointed rfl
      exact unpassed (ReadArgs.mem_n pointed)
    · rintro ptr pointed rfl
      exact unpassed (ReadArgs.mem_err pointed)
  have holds' : StackHolds stdio stack.source stack.file stack.levels after
      (stackWithSource stack.depth state f) := by
    have moved := holds.setStream fun cell member notFile loud =>
      others cell notFile loud fun passed => separate.own_outside (mem_own passed) member
    rw [← stackWithSource_twice state (prepared.stream stdio stack.file) f, ← left]
    exact moved
  have array : after.arrays stack.array = call.front ++ call.p := by
    rw [← ready.array]
    exact (quiet (.array stack.array) Cell.noConfusion Cell.noConfusion (fun _ _ => Cell.noConfusion)
      fun _ _ => Cell.noConfusion).symm
  refine ⟨prepared, after, _, _, prepares, called, observe_eq counts codes, array ▸ answered,
    ready.finish separate view holds' counts codes fun cell quiet unpassed => ?_⟩
  apply others cell _ _ unpassed
  · exact fun stream => quiet (mem_stackChanged.mpr (Or.inr (Or.inl stream)))
  · exact fun errno => quiet (mem_stackChanged.mpr (Or.inr (Or.inr errno)))

/-- A write goes to the stream past all levels. -/
theorem steps_write (threaded : Threaded stdio) (separate : stack.Separate) (fuel : ℕ)
    (view : stack.View stdio world state) (op : call.op = .write) {writer : Iface}
    (found : stack.writer = some writer) : Steps stdio fuel stack world state call := by
  obtain ⟨prepared, prepares, ready⟩ := view.prepare call
  obtain ⟨_, stream⟩ := ready.holds threaded separate view
  have serves := (view.writer writer found).same fun cell member => ready.others cell
    (fun own => separate.steady cell (List.mem_append_left _ own) (writer_fixed found member))
    (Iface.region_loud member)
  obtain ⟨result, after, answered, called, left, counts, codes, quiet⟩ :=
    writerWrite_spec threaded serves ready.ready
  rw [ready.tail, stream] at answered
  apply steps_stream threaded separate view prepares ready _ left counts codes quiet
  · have answered' : Io.writerWrite stdio.fileWriter
        (stdio.setErrno (stackSource stack.depth state) call.errno) call.p call.pLen call.n call.err =
          .ok result := answered
    simp only [stackStep, op, answered']
  · rw [Handle.call, op, show stack.handle.writer = some writer.ptr by rw [handle, found]; rfl]
    exact called

/-- A close goes to the stream, or it does nothing. -/
theorem steps_close (threaded : Threaded stdio) (separate : stack.Separate) (fuel : ℕ)
    (view : stack.View stdio world state) (op : call.op = .close) {closer : CloserKind × Iface}
    (found : stack.closer = some closer) : Steps stdio fuel stack world state call := by
  obtain ⟨prepared, prepares, ready⟩ := view.prepare call
  obtain ⟨_, stream⟩ := ready.holds threaded separate view
  have serves := (view.closer closer found).same fun cell member => ready.others cell
    (fun own => separate.steady cell (List.mem_append_left _ own) (closer_fixed found member))
    (Iface.region_loud member)
  obtain ⟨after, called, left, codes, quiet⟩ := serves.close threaded ready.ready.err
  rw [stream] at left codes
  have counts : sizeWord.Points after.objects (stack.args call).n call.n := by
    apply points_same ready.ready.n
    intro ptr counted
    apply quiet _ Cell.noConfusion Cell.noConfusion fun _ none => absurd none (Option.some_ne_none _)
    rintro ptr' pointed same
    cases same
    exact points_ne ready.ready.n ready.ready.err counted pointed
  apply steps_stream threaded separate view prepares ready _ left counts codes
  · exact fun cell notFile loud _ notErr => quiet cell notFile loud
      (fun _ none => absurd none (Option.some_ne_none _)) notErr
  · have kind : stack.kind = closer.1 := by rw [Stack.kind, found]; rfl
    simp only [stackStep, op, kind]
  · rw [Handle.call, op, show stack.handle.closer = some closer.2.ptr by rw [handle, found]; rfl]
    exact called

theorem steps (threaded : Threaded stdio) (separate : stack.Separate) {fuel : ℕ}
    (deep : stack.levels.length < fuel) (view : stack.View stdio world state)
    (allowed : stack.Allows call) : Steps stdio fuel stack world state call := by
  cases op : call.op with
  | read => exact steps_read threaded separate deep view op
  | write =>
      rw [Allows, op] at allowed
      obtain ⟨writer, found⟩ := Option.isSome_iff_exists.mp allowed
      exact steps_write threaded separate fuel view op found
  | close =>
      rw [Allows, op] at allowed
      obtain ⟨closer, found⟩ := Option.isSome_iff_exists.mp allowed
      exact steps_close threaded separate fuel view op found

/-- No cell of a stack is `errno`. -/
theorem loud {cell : Cell} (member : cell ∈ stack.changed ++ stack.fixed) : cell ≠ .errno := by
  rintro rfl
  simp [changed, fixed, own, Level.changed, Level.fixed, Level.iface, Iface.region, Iface.cells]
    at member

/-- The levels are built from the top to the stream, each over the one below it. -/
def LevelsBuilt (objects : Objects Word) (arrays : ℕ → List UInt8) (source : Iface) : List Level → Prop
  | [] => True
  | level :: below =>
      Placed objects level.ptr (bufReader (topReader source below) ⟨level.array, 0⟩ level.area.size) ∧
        arrays level.array = level.area.bytes ∧ LevelsBuilt objects arrays source below

/-- The constructors have run for every object of the stack. -/
structure Built (stack : Stack) (world : World F) : Prop where
  source : stack.source.Built world .fileReaderVtable stack.file
  levels : LevelsBuilt world.objects world.arrays stack.source stack.levels
  writer : ∀ iface, stack.writer = some iface → iface.Built world .fileWriterVtable stack.file
  closer : ∀ closer, stack.closer = some closer → match closer.1 with
    | .file => closer.2.Built world .fileCloserVtable stack.file
    | .nop => Placed world.objects closer.2.ptr nopCloser ∧ closer.2.impl = closer.2.ptr
  n : ∃ value, sizeWord.load world.objects stack.n = some value
  err : ∃ value, intWord.load world.objects stack.err = some value

/-- The state of the model before the first call. -/
def start (stack : Stack) (world : World F) : StackState F stack.depth :=
  stackInit (world.files stack.file) (stack.levels.map Level.area)

theorem stackHolds_start {source : Iface} {file : ℕ} {levels : List Level} {f : F}
    (holds : FileHolds stdio source file world f)
    (built : LevelsBuilt world.objects world.arrays source levels) :
    StackHolds stdio source file levels world (stackInit f (levels.map Level.area)) := by
  induction levels with
  | nil => exact holds
  | cons level below ih => exact ⟨bufReader_fields built.1 built.2.1 _, ih built.2.2⟩

/-- Objects that the constructors built hold the initial state. -/
theorem Built.view (threaded : Threaded stdio) (built : stack.Built world) :
    stack.View stdio world (stack.start world) where
  holds := by
    refine ⟨stdio.errno (world.files stack.file), stackHolds_start ⟨?_, threaded.set_errno _⟩ built.levels⟩
    exact built.source.serves.same fun cell member =>
      World.Same.symm (World.same_errno world _ (Iface.region_loud member))
  n := built.n
  err := built.err
  writer iface found := (built.writer iface found).serves
  closer := by
    rintro ⟨kind, iface⟩ found
    have built := built.closer _ found
    cases kind with
    | file => exact Iface.Built.serves built
    | nop => exact ⟨0, nopCloser_reaches built.1 built.2⟩

end Stack

/-- The objects of every client hold its state, and what belongs to nobody is as it was. -/
def Together (stdio : Stdio F) (clients : ι → Stack) (world later : World F)
    (states : ∀ i, StackState F (clients i).depth) : Prop :=
  (∀ i, (clients i).View stdio later (states i)) ∧
    ∀ cell, (∀ i, cell ∉ (clients i).changed) → cell ≠ .errno → world.Same later cell

theorem together_start (threaded : Threaded stdio) {clients : ι → Stack} {world : World F}
    (built : ∀ i, (clients i).Built world) :
    Together stdio clients world world fun i => (clients i).start world :=
  ⟨fun i => (built i).view threaded, fun cell _ _ => World.Same.refl world cell⟩

section Run

variable [DecidableEq ι] (threaded : Threaded stdio) (clients : ι → Stack)
  (separate : ∀ i, (clients i).Separate)
  (apart : ∀ i j, i ≠ j → ∀ cell ∈ (clients i).changed, cell ∉ (clients j).changed ++ (clients j).fixed)
  {fuel : ℕ} (deep : ∀ i, (clients i).levels.length < fuel) {world : World F}

include threaded separate apart deep

/-- One call moves one client along its model and spares the others. -/
theorem clients_step (later : World F) (states : ∀ i, StackState F (clients i).depth) (i : ι)
    (call : StackCall) (together : Together stdio clients world later states)
    (allows : (clients i).Allows call) :
    ∃ reply after next,
      clientStep stdio fuel (fun i => (clients i).handle) later (i, call) = .ok ((i, reply), after) ∧
      stackStep stdio ((clients i).kind.closer stdio) (clients i).depth (states i) call =
        .ok (reply, next) ∧
      Together stdio clients world after (Function.update states i next) := by
  obtain ⟨view, kept⟩ := together
  obtain ⟨prepared, after, reply, next, prepares, called, observed, answered, moved, frame⟩ :=
    Stack.steps threaded (separate i) (deep i) (view i) allows
  refine ⟨reply, after, next, ?_, answered, ?_, ?_⟩
  · simp only [clientStep, prepares, ok_bind, called, observed]
    rfl
  · intro j
    rcases eq_or_ne j i with rfl | different
    · rw [Function.update_self]
      exact moved
    · rw [Function.update_of_ne different]
      apply (view j).same threaded (separate j)
      intro cell member
      apply frame cell _ (Stack.loud member)
      exact fun changed => apart i j different.symm cell changed member
  · exact fun cell nobody loud => (kept cell nobody loud).trans (frame cell (nobody i) loud)

/-- Clients on stacks of objects of any depth, each over its own stream, get the answers of the model. In
every interleaving of their reads, writes and closes the objects of a client hold the state that the model
reaches with the calls of this client alone, and what belongs to nobody keeps its contents. What a call on a
closed stream does is left to `stdio` on both sides. -/
theorem clients_refine (world : World F) (built : ∀ i, (clients i).Built world)
    (calls : List (ι × StackCall)) (allowed : ∀ call ∈ calls, (clients call.1).Allows call.2) :
    ∃ replies final, ∃ states : ∀ i, StackState F (clients i).depth,
      (clientStep stdio fuel fun i => (clients i).handle).run world calls = .ok (replies, final) ∧
      ((∀ i, (clients i).View stdio final (states i)) ∧
        ∀ cell, (∀ i, cell ∉ (clients i).changed) → cell ≠ .errno → world.Same final cell) ∧
      ∀ i, (stackStep stdio ((clients i).kind.closer stdio) (clients i).depth).run
        ((clients i).start world) (share i calls) = .ok (share i replies, states i) :=
  run_shares (Together stdio clients world) (fun call => (clients call.1).Allows call.2)
    (clients_step threaded clients separate apart deep) (together_start threaded built) allowed

end Run

theorem bufferedStdio_threaded : Threaded bufferedStdio where
  set_set _ _ _ := rfl
  set_errno _ := rfl
  read_room := bufferedStdio_lawful.read_room

/-- The first client reads and writes a stream through a `BufReader`, the second one reads another stream
through two of them and closes it. -/
def twoObjects : Objects Word
  | 0 => fileReadWriter 0
  | 1 => bufReader ⟨0, 0⟩ ⟨0, 0⟩ 2
  | 2 => [.size 0, .int 0]
  | 3 => fileReadCloser 1
  | 4 => bufReader ⟨3, 0⟩ ⟨2, 0⟩ 1
  | 5 => bufReader ⟨4, 0⟩ ⟨3, 0⟩ 3
  | 6 => [.size 0, .int 0]
  | _ => []

def twoArrays : ℕ → List UInt8
  | 0 => [41, 42]
  | 2 => [43]
  | 3 => [44, 45, 46]
  | _ => []

def twoWorld : World BufferedFile where
  objects := twoObjects
  arrays := twoArrays
  files file := fullDevice [UInt8.ofNat file, 7]
  errno := 0

def twoStacks (i : Fin 2) : Stack :=
  if i = 0 then
    { source := implIface ⟨0, 0⟩ [.fileReaderVtable, .fileWriterVtable] 0
      file := 0
      levels := [⟨⟨1, 0⟩, 0, ⟨2, [41, 42], rfl⟩⟩]
      writer := some (implIface ⟨0, 0⟩ [.fileReaderVtable, .fileWriterVtable] 1)
      closer := none
      array := 1
      n := ⟨2, 0⟩
      err := ⟨2, 8⟩ }
  else
    { source := implIface ⟨3, 0⟩ [.fileReaderVtable, .fileCloserVtable] 0
      file := 1
      levels := [⟨⟨5, 0⟩, 3, ⟨3, [44, 45, 46], rfl⟩⟩, ⟨⟨4, 0⟩, 2, ⟨1, [43], rfl⟩⟩]
      writer := none
      closer := some (.file, implIface ⟨3, 0⟩ [.fileReaderVtable, .fileCloserVtable] 1)
      array := 4
      n := ⟨6, 0⟩
      err := ⟨6, 8⟩ }

def twoCalls : List (Fin 2 × StackCall) :=
  [(0, { p := [61, 62], pLen := 1, room := by decide, op := .read, front := [60], n := some 9,
         err := none, errno := 4 }),
   (1, { p := [63, 64], pLen := 2, room := by decide, op := .read, front := [], n := some 9,
         err := some 9, errno := 0 }),
   (0, { p := [65, 66, 67], pLen := 3, room := by decide, op := .write, front := [68], n := none,
         err := some 9, errno := 0 }),
   (1, { p := [], pLen := 0, room := by decide, op := .close, front := [69], n := none, err := some 9,
         errno := 11 })]

/-- The second client reads its stream of two bytes up to `EOF` while the first one writes and reads. -/
def readingCalls : List (Fin 2 × StackCall) :=
  [(1, { p := [71, 72], pLen := 2, room := by decide, op := .read, front := [70], n := some 0,
         err := some 0, errno := 0 }),
   (0, { p := [73], pLen := 1, room := by decide, op := .write, front := [], n := some 9, err := none,
         errno := 0 }),
   (1, { p := [74], pLen := 1, room := by decide, op := .read, front := [], n := some 0, err := none,
         errno := 0 }),
   (0, { p := [75, 76], pLen := 2, room := by decide, op := .read, front := [], n := none,
         err := some 9, errno := 0 }),
   (1, { p := [77], pLen := 1, room := by decide, op := .read, front := [78, 79], n := some 0,
         err := some 0, errno := 0 })]

theorem placed_twoObjects (object : ℕ) : Placed twoObjects ⟨object, 0⟩ (twoObjects object) :=
  placed_inside (by rw [List.nil_append, List.append_nil])

theorem built_twoStacks (i : Fin 2) : (twoStacks i).Built twoWorld := by
  fin_cases i
  · refine ⟨⟨⟨0, 0⟩, _, 0, placed_twoObjects 0, rfl, by decide, rfl⟩,
      ⟨placed_twoObjects 1, rfl, trivial⟩, ?_, ?_, ⟨0, rfl⟩, ⟨0, rfl⟩⟩
    · rintro iface same
      cases same
      exact ⟨⟨0, 0⟩, _, 1, placed_twoObjects 0, rfl, by decide, rfl⟩
    · rintro closer same
      cases same
  · refine ⟨⟨⟨3, 0⟩, _, 0, placed_twoObjects 3, rfl, by decide, rfl⟩,
      ⟨placed_twoObjects 5, rfl, placed_twoObjects 4, rfl, trivial⟩, ?_, ?_, ⟨0, rfl⟩, ⟨0, rfl⟩⟩
    · rintro iface same
      cases same
    · rintro closer same
      cases same
      exact ⟨⟨3, 0⟩, _, 1, placed_twoObjects 3, rfl, by decide, rfl⟩

theorem separate_twoStacks (i : Fin 2) : (twoStacks i).Separate := by
  fin_cases i <;> constructor <;> decide

/-- The streams are those of a full device. -/
theorem clients_refine_buffered :
    ∃ replies final, ∃ states : ∀ i, StackState BufferedFile (twoStacks i).depth,
      (clientStep bufferedStdio 3 fun i => (twoStacks i).handle).run twoWorld twoCalls =
        .ok (replies, final) ∧
      ((∀ i, (twoStacks i).View bufferedStdio final (states i)) ∧
        ∀ cell, (∀ i, cell ∉ (twoStacks i).changed) → cell ≠ .errno → twoWorld.Same final cell) ∧
      ∀ i, (stackStep bufferedStdio ((twoStacks i).kind.closer bufferedStdio) (twoStacks i).depth).run
        ((twoStacks i).start twoWorld) (share i twoCalls) = .ok (share i replies, states i) := by
  exact clients_refine bufferedStdio_threaded twoStacks separate_twoStacks (by decide) (by decide) twoWorld
    built_twoStacks twoCalls (by decide)

end Xstd.Io.Graph
