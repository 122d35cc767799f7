import Xstd.Construction.Io.Graph

/-
This file tells which cells of the memory an access changes and what it means that an object mirrors a
reader.
-/

namespace Xstd.Io.Graph

open Library

variable {F S V : Type}

/-- A part of the world that a step can change on its own. -/
inductive Cell where
  | word (ptr : ObjectPtr)
  | array (array : ℕ)
  | file (file : ℕ)
  | errno
  deriving DecidableEq

def World.Same (first second : World F) : Cell → Prop
  | .word ptr => first.objects.load ptr = second.objects.load ptr
  | .array array => first.arrays array = second.arrays array
  | .file file => first.files file = second.files file
  | .errno => first.errno = second.errno

theorem World.Same.refl (world : World F) (cell : Cell) : world.Same world cell := by
  cases cell <;> rfl

theorem World.Same.symm {first second : World F} {cell : Cell} (same : first.Same second cell) :
    second.Same first cell := by
  cases cell <;> exact Eq.symm same

theorem World.Same.trans {first second third : World F} {cell : Cell} (left : first.Same second cell)
    (right : second.Same third cell) : first.Same third cell := by
  cases cell <;> exact Eq.trans left right

theorem World.same_errno (world : World F) (errno : Int) {cell : Cell} (loud : cell ≠ .errno) :
    ({ world with errno := errno } : World F).Same world cell := by
  cases cell with
  | errno => exact absurd rfl loud
  | _ => rfl

theorem World.Same.with_errno {first second : World F} (errno : Int) {cell : Cell}
    (same : cell ≠ .errno → first.Same second cell) :
    ({ first with errno := errno } : World F).Same { second with errno := errno } cell := by
  cases cell with
  | errno => rfl
  | _ => exact same Cell.noConfusion

theorem load_same {first second : World F} {type : WordType Word V} {ptr : ObjectPtr} {value : V}
    (found : type.load first.objects ptr = some value) (same : first.Same second (.word ptr)) :
    type.load second.objects ptr = some value := (WordType.load_congr same).symm.trans found

theorem points_same {first second : World F} {type : WordType Word V} {pointer : Option ObjectPtr}
    {value : Option V} (points : type.Points first.objects pointer value)
    (same : ∀ ptr, some ptr = pointer → first.Same second (.word ptr)) :
    type.Points second.objects pointer value := WordType.points_congr points same

@[simp] theorem World.load_of {world : World F} {type : WordType Word V} {ptr : ObjectPtr} {value : V}
    (found : type.load world.objects ptr = some value) : world.load type ptr = .ok value := by
  rw [World.load, found]
  rfl

/-- A caller that passes an output or `NULL` passes a pointer to its variable or `NULL`. -/
theorem points_map {world : World F} {type : WordType Word V} {ptr : ObjectPtr} {value : V}
    (found : type.load world.objects ptr = some value) {A : Type} (output : Option A) :
    type.Points world.objects (output.map fun _ => ptr) (output.map fun _ => value) := by
  cases output with
  | none => trivial
  | some => exact found

theorem points_bind {world : World F} {type : WordType Word V} {ptr : ObjectPtr} {value : Option V}
    {A : Type} {output : Option A} (points : type.Points world.objects (output.map fun _ => ptr) value) :
    (output.bind fun _ => type.load world.objects ptr) = value := by
  cases output <;> cases value
  · rfl
  · exact points.elim
  · exact points.elim
  · exact points

/-- A variable keeps its type, whether the caller passes it or not. -/
theorem variable_kept {world after : World F} {type : WordType Word V} {ptr : ObjectPtr} {A : Type}
    {output : Option A} {value : Option V} (before : ∃ old, type.load world.objects ptr = some old)
    (points : type.Points after.objects (output.map fun _ => ptr) value)
    (unpassed : output = none → world.Same after (.word ptr)) :
    ∃ kept, type.load after.objects ptr = some kept := by
  cases output with
  | none =>
      obtain ⟨old, loaded⟩ := before
      exact ⟨old, load_same loaded (unpassed rfl)⟩
  | some =>
      cases value with
      | none => exact points.elim
      | some kept => exact ⟨kept, points⟩

/-- A pointer other than `NULL` points to a value. -/
theorem points_value {world : World F} {type : WordType Word V} {ptr : ObjectPtr} {value : Option V}
    (points : type.Points world.objects (some ptr) value) : ∃ found, value = some found := by
  cases value with
  | none => exact points.elim
  | some found => exact ⟨found, rfl⟩

/-- A pointer to a number never points to an `int`. -/
theorem points_ne {world : World F} {n err : Option ObjectPtr} {count : Option SizeT} {code : Option Int}
    (counts : sizeWord.Points world.objects n count) (codes : intWord.Points world.objects err code)
    {ptr : ObjectPtr} (left : some ptr = n) : some ptr ≠ err := by
  rintro rfl
  subst left
  cases count with
  | none => exact counts.elim
  | some count =>
      cases code with
      | none => exact codes.elim
      | some code =>
          obtain ⟨word, loaded, number⟩ := WordType.load_word counts
          obtain ⟨word', loaded', integer⟩ := WordType.load_word codes
          rw [loaded] at loaded'
          cases loaded'
          cases word with
          | size value => cases integer
          | _ => cases number

theorem variables_ne {world : World F} {n err : ObjectPtr}
    (counts : ∃ count, sizeWord.load world.objects n = some count)
    (codes : ∃ code, intWord.load world.objects err = some code) : n ≠ err := by
  obtain ⟨count, counted⟩ := counts
  obtain ⟨code, coded⟩ := codes
  have counts : sizeWord.Points world.objects (some n) (some count) := counted
  have codes : intWord.Points world.objects (some err) (some code) := coded
  exact fun same => points_ne counts codes rfl (congrArg some same)

/-- An output of the caller receives the value, and every other cell keeps its contents. -/
theorem World.assign_spec {world : World F} {type : WordType Word V} {pointer : Option ObjectPtr}
    {old : Option V} (points : type.Points world.objects pointer old) (value : V) :
    ∃ after, world.assign type pointer value = .ok after ∧
      type.Points after.objects pointer (store old value) ∧
      ∀ cell, (∀ ptr, some ptr = pointer → cell ≠ .word ptr) → world.Same after cell := by
  obtain ⟨objects, assigned, stored, others⟩ := WordType.assign_spec points value
  refine ⟨{ world with objects := objects }, by rw [World.assign, assigned]; rfl, stored, ?_⟩
  intro cell outside
  cases cell with
  | word ptr => exact others ptr fun same => outside ptr same rfl
  | array => rfl
  | file => rfl
  | errno => rfl

/-- A value for the output of a count leaves the output of an error as it is. -/
theorem World.assign_count {world : World F} {n err : Option ObjectPtr} {count : Option SizeT}
    {code : Option Int} (counts : sizeWord.Points world.objects n count)
    (codes : intWord.Points world.objects err code) (value : SizeT) :
    ∃ after, world.assign sizeWord n value = .ok after ∧
      sizeWord.Points after.objects n (store count value) ∧ intWord.Points after.objects err code ∧
      ∀ cell, (∀ ptr, some ptr = n → cell ≠ .word ptr) → world.Same after cell := by
  obtain ⟨after, assigned, stored, others⟩ := World.assign_spec counts value
  refine ⟨after, assigned, stored, points_same codes fun ptr pointed => ?_, others⟩
  apply others
  rintro ptr' counted same
  cases same
  exact points_ne counts codes counted pointed

/-- A value for the output of an error leaves the output of a count as it is. -/
theorem World.assign_code {world : World F} {n err : Option ObjectPtr} {count : Option SizeT}
    {code : Option Int} (counts : sizeWord.Points world.objects n count)
    (codes : intWord.Points world.objects err code) (value : Int) :
    ∃ after, world.assign intWord err value = .ok after ∧ sizeWord.Points after.objects n count ∧
      intWord.Points after.objects err (store code value) ∧
      ∀ cell, (∀ ptr, some ptr = err → cell ≠ .word ptr) → world.Same after cell := by
  obtain ⟨after, assigned, stored, others⟩ := World.assign_spec codes value
  refine ⟨after, assigned, points_same counts fun ptr pointed => ?_, stored, others⟩
  apply others
  rintro ptr' coded same
  cases same
  exact points_ne counts codes pointed coded

/-- A field of an object receives the value. -/
theorem World.assign_field {world : World F} {type : WordType Word V} {ptr : ObjectPtr} {old : V}
    (found : type.load world.objects ptr = some old) (value : V) :
    ∃ after, world.assign type (some ptr) value = .ok after ∧
      type.load after.objects ptr = some value ∧ ∀ cell, cell ≠ .word ptr → world.Same after cell := by
  have points : type.Points world.objects (some ptr) (some old) := found
  obtain ⟨after, assigned, stored, others⟩ := World.assign_spec points value
  refine ⟨after, assigned, stored, fun cell outside => others cell ?_⟩
  rintro ptr' same rfl
  cases same
  exact outside rfl

/-- The array from the pointer on. -/
def World.tail (world : World F) (p : ObjectPtr) : List UInt8 := (world.arrays p.object).drop p.offset

/-- A transfer changes the array behind the pointer as it changes the tail. -/
theorem World.fill_spec {world : World F} {p : ObjectPtr} {bytes after : List UInt8} {start count : ℕ}
    (inside : p.offset ≤ (world.arrays p.object).length)
    (copied : memcpy (world.tail p) 0 bytes start count = .ok after) :
    ∃ filled, world.fill p bytes start count = .ok filled ∧
      filled.arrays p.object = (world.arrays p.object).take p.offset ++ after ∧
      ∀ cell, cell ≠ .array p.object → world.Same filled cell := by
  unfold memcpy at copied
  split at copied
  · rename_i bounds
    cases copied
    obtain ⟨source, target⟩ := bounds
    rw [World.tail, List.length_drop] at target
    have whole : start + count ≤ bytes.length ∧ p.offset + count ≤ (world.arrays p.object).length :=
      ⟨source, by omega⟩
    refine ⟨_, by rw [World.fill, memcpy, if_pos whole]; rfl, ?_, ?_⟩
    · show Function.update world.arrays p.object _ p.object = _
      rw [Function.update_self, World.tail, List.take_zero, List.nil_append, List.drop_drop, Nat.zero_add,
        List.append_assoc]
    · intro cell outside
      cases cell with
      | array array =>
          have different : array ≠ p.object := by
            rintro rfl
            exact outside rfl
          exact (Function.update_of_ne different _ _).symm
      | word => rfl
      | file => rfl
      | errno => rfl
  · cases copied

/-- The `errno` of the thread moves into the stream of a call and out of it again. -/
structure Threaded (stdio : Stdio F) : Prop where
  set_set : ∀ f first second, stdio.setErrno (stdio.setErrno f first) second = stdio.setErrno f second
  set_errno : ∀ f, stdio.setErrno f (stdio.errno f) = f
  read_room : ∀ f count, (stdio.fread f count).1.length ≤ count.toNat

theorem Threaded.stream_set {stdio : Stdio F} (threaded : Threaded stdio) (world : World F) (file : ℕ)
    (f : F) : (world.setStream stdio file f).stream stdio file = f := by
  show stdio.setErrno (Function.update world.files file f file) (stdio.errno f) = f
  rw [Function.update_self]
  exact threaded.set_errno f

theorem World.setStream_same (world : World F) (stdio : Stdio F) (file : ℕ) (f : F) {cell : Cell}
    (other : cell ≠ .file file) (quiet : cell ≠ .errno) :
    world.Same (world.setStream stdio file f) cell := by
  cases cell with
  | file file' =>
      have different : file' ≠ file := by
        rintro rfl
        exact other rfl
      exact (Function.update_of_ne different _ _).symm
  | errno => exact absurd rfl quiet
  | word => rfl
  | array => rfl

/-- The arguments of a read are addresses. -/
structure ReadArgs where
  p : ObjectPtr
  pLen : SizeT
  n : Option ObjectPtr
  err : Option ObjectPtr

/-- The cells that the caller passes to a read. -/
def ReadArgs.cells (args : ReadArgs) : List Cell :=
  .array args.p.object :: (args.n.toList ++ args.err.toList).map .word

namespace ReadArgs

variable (args : ReadArgs)

theorem mem_p : .array args.p.object ∈ args.cells := List.mem_cons_self

variable {args}

theorem mem_cells {ptr : ObjectPtr} :
    .word ptr ∈ args.cells ↔ some ptr = args.n ∨ some ptr = args.err := by
  simp [cells, eq_comm]

theorem mem_n {ptr : ObjectPtr} (pointed : some ptr = args.n) : .word ptr ∈ args.cells :=
  mem_cells.mpr (Or.inl pointed)

theorem mem_err {ptr : ObjectPtr} (pointed : some ptr = args.err) : .word ptr ∈ args.cells :=
  mem_cells.mpr (Or.inr pointed)

end ReadArgs

/-- The caller passes an array with room and outputs with these values. -/
structure ReadArgs.Ready (args : ReadArgs) (world : World F) (n : Option SizeT) (err : Option Int) :
    Prop where
  room : args.p.offset + args.pLen.toNat ≤ (world.arrays args.p.object).length
  n : sizeWord.Points world.objects args.n n
  err : intWord.Points world.objects args.err err

/-- The world after a call holds the result of the reader, whose count stays or is at most `p_len`. -/
structure ReadArgs.Answered (args : ReadArgs) (world : World F) (count : Option SizeT)
    (holds : World F → S → Prop) (changed : List Cell) (after : World F) (result : ReadResult S) :
    Prop where
  holds : holds after result.impl
  p : after.arrays args.p.object = (world.arrays args.p.object).take args.p.offset ++ result.p
  n : sizeWord.Points after.objects args.n result.n
  err : intWord.Points after.objects args.err result.err
  sized : result.p.length = (world.tail args.p).length
  stored : ∀ stored, result.n = some stored → stored ≤ args.pLen ∨ count = some stored
  others : ∀ cell, cell ∉ changed → cell ∉ args.cells → world.Same after cell

section Frames

variable {args : ReadArgs} {world next after : World F} {n : Option SizeT} {err : Option Int}
  {holds : World F → S → Prop} {changed : List Cell} {result : ReadResult S}

/-- The array has room for the request behind its pointer. -/
theorem ReadArgs.Ready.tail_room (ready : args.Ready world n err) :
    args.pLen.toNat ≤ (world.tail args.p).length := by
  have room := ready.room
  rw [World.tail, List.length_drop]
  omega

theorem ReadArgs.Ready.inside (ready : args.Ready world n err) :
    args.p.offset ≤ (world.arrays args.p.object).length :=
  Nat.le_trans (Nat.le_add_right _ _) ready.room

theorem ReadArgs.Ready.later (ready : args.Ready world n err)
    (same : ∀ cell ∈ args.cells, world.Same next cell) : args.Ready next n err where
  room := by
    have array : world.arrays args.p.object = next.arrays args.p.object := same _ args.mem_p
    rw [← array]
    exact ready.room
  n := points_same ready.n fun _ pointed => same _ (mem_n pointed)
  err := points_same ready.err fun _ pointed => same _ (mem_err pointed)

/-- The answer counts from an earlier world if the steps in between spared the caller. -/
theorem ReadArgs.Answered.earlier (answered : args.Answered next n holds changed after result)
    (outside : ∀ cell ∈ args.cells, cell ∉ changed)
    (same : ∀ cell, cell ∉ changed → world.Same next cell) :
    args.Answered world n holds changed after result := by
  have array : world.arrays args.p.object = next.arrays args.p.object :=
    same _ (outside _ args.mem_p)
  constructor
  · exact answered.holds
  · rw [array]
    exact answered.p
  · exact answered.n
  · exact answered.err
  · rw [answered.sized, World.tail, World.tail, array]
  · exact answered.stored
  · exact fun cell quiet away => (same cell quiet).trans (answered.others cell quiet away)

end Frames

/-- A call on memory behaves as the reader whose state some cells hold. It changes some of these cells and
the ones of the caller. -/
structure Mirrors (call : World F → ReadArgs → Exec (World F)) (reader : Reader S)
    (holds : World F → S → Prop) (changed footprint : List Cell) : Prop where
  within : changed ⊆ footprint
  stable : ∀ {world after state}, holds world state → (∀ cell ∈ footprint, world.Same after cell) →
    holds after state
  answers : ∀ {world state args n err}, holds world state → args.Ready world n err →
    (∀ cell ∈ args.cells, cell ∉ footprint) →
      ∃ result after, Io.readerRead reader state (world.tail args.p) args.pLen n err = .ok result ∧
        call world args = .ok after ∧ args.Answered world n holds changed after result

end Xstd.Io.Graph
