import Xstd.Proof.Io.Graph.World
import Xstd.Proof.Io.Stdio

/-
This file proves that the objects over a stream mirror the adapters of the model.
-/

namespace Xstd.Io.Graph

open Library

variable {F : Type} {stdio : Stdio F}

/-- A pointer to an interface, and the pointer that its callback receives. -/
structure Iface where
  ptr : ObjectPtr
  impl : ObjectPtr
  deriving DecidableEq

def Iface.cells (iface : Iface) : List Cell := [.word iface.ptr, .word (iface.ptr.add 8)]

structure Iface.Reaches (iface : Iface) (world : World F) (table : Table) (offset : SizeT) : Prop where
  called : tableWord.load world.objects iface.ptr = some table
  shifted : sizeWord.load world.objects (iface.ptr.add 8) = some offset
  impl : iface.impl = iface.ptr.add offset.toNat

theorem Iface.Reaches.call {iface : Iface} {world : World F} {table : Table} {offset : SizeT}
    (reaches : iface.Reaches world table offset) : ifaceCall world iface.ptr = .ok (table, iface.impl) := by
  rw [ifaceCall, World.load_of reaches.called, World.load_of reaches.shifted, reaches.impl]
  rfl

theorem Iface.Reaches.same {iface : Iface} {world after : World F} {table : Table} {offset : SizeT}
    (reaches : iface.Reaches world table offset) (same : ∀ cell ∈ iface.cells, world.Same after cell) :
    iface.Reaches after table offset where
  called := load_same reaches.called (same _ (by simp [cells]))
  shifted := load_same reaches.shifted (same _ (by simp [cells]))
  impl := reaches.impl

/-- A call on a stream changes the stream, `errno` and its outputs. -/
def Quiet (file : ℕ) (n err : Option ObjectPtr) (world after : World F) : Prop :=
  ∀ cell, cell ≠ .file file → cell ≠ .errno → (∀ ptr, some ptr = n → cell ≠ .word ptr) →
    (∀ ptr, some ptr = err → cell ≠ .word ptr) → world.Same after cell

/-- The report of a transfer fills both outputs. -/
theorem reportTransfer_spec (threaded : Threaded stdio) {world : World F} {n error : Option ObjectPtr}
    {nValue : Option SizeT} {errValue : Option Int} (counts : sizeWord.Points world.objects n nValue)
    (codes : intWord.Points world.objects error errValue) (file count : ℕ) :
    ∃ after, reportTransfer stdio world file count n error = .ok after ∧
      sizeWord.Points after.objects n (store nValue (UInt64.ofNat count)) ∧
      intWord.Points after.objects error (store errValue
        (if count = 0 ∧ stdio.feof (world.stream stdio file) then eof
          else stdio.errno (world.stream stdio file))) ∧
      after.stream stdio file = settled stdio errValue (world.stream stdio file) ∧
      Quiet file n error world after := by
  obtain ⟨first, assigned, stored, codes', others⟩ :=
    World.assign_count counts codes (UInt64.ofNat count)
  have same : first.stream stdio file = world.stream stdio file := by
    rw [World.stream, World.stream]
    have files : world.files file = first.files file := others (.file file) fun _ _ => Cell.noConfusion
    have errno : world.errno = first.errno := others .errno fun _ _ => Cell.noConfusion
    rw [files, errno]
  cases error with
  | none =>
      cases errValue with
      | some => exact codes.elim
      | none =>
          refine ⟨first, by rw [reportTransfer, assigned]; rfl, stored, trivial, same, ?_⟩
          exact fun cell _ _ outside _ => others cell outside
  | some error =>
      cases errValue with
      | none => exact codes.elim
      | some errValue =>
          obtain ⟨second, assigned', counted, stored', others'⟩ := World.assign_code stored codes'
            (if count = 0 ∧ stdio.feof (first.stream stdio file) then eof
              else stdio.errno (first.stream stdio file))
          refine ⟨second.setStream stdio file (stdio.clearerr (first.stream stdio file)), ?_, counted,
            ?_, ?_, ?_⟩
          · rw [reportTransfer, assigned]
            show (first.assign intWord (some error) _).bind _ = _
            rw [assigned']
            rfl
          · rw [← same]
            exact stored'
          · rw [← same]
            exact threaded.stream_set second file _
          · intro cell notFile notErrno outside outside'
            have first' := others cell outside
            have second' := others' cell outside'
            exact (first'.trans second').trans (second.setStream_same stdio file _ notFile notErrno)

/-- `reader_read` on a pointer, as a call on memory. -/
def callReader (stdio : Stdio F) (fuel : ℕ) (ptr : ObjectPtr) (world : World F) (args : ReadArgs) :
    Exec (World F) :=
  readerRead stdio fuel world ptr args.p args.pLen args.n args.err

/-- The interface calls a function of the table with the stream. -/
structure Iface.Serves (iface : Iface) (world : World F) (table : Table) (file : ℕ) : Prop where
  reaches : ∃ offset, iface.Reaches world table offset
  loads : fileWord.load world.objects iface.impl = some file

theorem Iface.Serves.same {iface : Iface} {world after : World F} {table : Table} {file : ℕ}
    (serves : iface.Serves world table file)
    (same : ∀ cell ∈ iface.cells ++ [.word iface.impl], world.Same after cell) :
    iface.Serves after table file where
  reaches := by
    obtain ⟨offset, reaches⟩ := serves.reaches
    exact ⟨offset, reaches.same fun cell member => same cell (List.mem_append_left _ member)⟩
  loads := load_same serves.loads (same _ (by simp))

/-- The interface is the one of a reader over the stream. -/
structure FileHolds (stdio : Stdio F) (iface : Iface) (file : ℕ) (world : World F) (f : F) : Prop where
  serves : iface.Serves world .fileReaderVtable file
  stream : world.stream stdio file = f

def fileFootprint (iface : Iface) (file : ℕ) : List Cell :=
  iface.cells ++ [.word iface.impl] ++ [.file file, .errno]

/-- The cells of an interface are neither a stream nor `errno`. -/
theorem Iface.word_of_mem {iface : Iface} {cell : Cell}
    (member : cell ∈ iface.cells ++ [.word iface.impl]) (file : ℕ) :
    cell ≠ .file file ∧ cell ≠ .errno := by
  rw [Iface.cells] at member
  rcases List.mem_append.mp member with own | body
  · rw [List.mem_cons, List.mem_singleton] at own
    rcases own with rfl | rfl <;> exact ⟨Cell.noConfusion, Cell.noConfusion⟩
  · rw [List.mem_singleton] at body
    subst body
    exact ⟨Cell.noConfusion, Cell.noConfusion⟩

/-- A read through an interface does what the adapter of the model does. -/
theorem readerRead_spec (threaded : Threaded stdio) {iface : Iface} {file : ℕ} {world : World F}
    (serves : iface.Serves world .fileReaderVtable file) {args : ReadArgs} {n : Option SizeT}
    {err : Option Int} (ready : args.Ready world n err) (fuel : ℕ) :
    ∃ result after,
      Io.readerRead stdio.fileReader (world.stream stdio file) (world.tail args.p) args.pLen n err =
        .ok result ∧
      callReader stdio (fuel + 1) iface.ptr world args = .ok after ∧
      after.stream stdio file = result.impl ∧
      after.arrays args.p.object = (world.arrays args.p.object).take args.p.offset ++ result.p ∧
      sizeWord.Points after.objects args.n result.n ∧ intWord.Points after.objects args.err result.err ∧
      ∀ cell, cell ≠ .file file → cell ≠ .errno → cell ∉ args.cells → world.Same after cell := by
  obtain ⟨offset, reaches⟩ := serves.reaches
  let read := stdio.fread (world.stream stdio file) args.pLen
  have fits : read.1.length ≤ (world.tail args.p).length :=
    Nat.le_trans (threaded.read_room (world.stream stdio file) args.pLen) ready.tail_room
  -- The stream moves on, then the bytes reach the array, and then the outputs.
  have inside : args.p.offset ≤ ((world.setStream stdio file read.2).arrays args.p.object).length :=
    ready.inside
  obtain ⟨filled, fill, array, kept⟩ := World.fill_spec inside (memcpy_front fits)
  have moved : filled.stream stdio file = read.2 := by
    rw [← threaded.stream_set world file read.2, World.stream, World.stream,
      show _ = filled.files file from kept (.file file) Cell.noConfusion,
      show _ = filled.errno from kept .errno Cell.noConfusion]
  obtain ⟨after, reported, counts, codes, left, others⟩ := reportTransfer_spec threaded
    (points_same ready.n fun ptr _ => kept (.word ptr) Cell.noConfusion)
    (points_same ready.err fun ptr _ => kept (.word ptr) Cell.noConfusion) file read.1.length
  rw [moved] at codes left
  refine ⟨_, after, Stdio.fileReaderRead_eq fits n err, ?_, left, ?_, counts, codes, ?_⟩
  · rw [callReader, readerRead, reaches.call]
    show fileReaderRead stdio world iface.impl args.p args.pLen args.n args.err = _
    rw [fileReaderRead, World.load_of serves.loads]
    show Except.bind (World.fill _ _ read.1 0 _) _ = _
    rw [fill]
    exact reported
  · have same : filled.arrays args.p.object = after.arrays args.p.object :=
      others (.array args.p.object) Cell.noConfusion Cell.noConfusion (fun _ _ => Cell.noConfusion)
        fun _ _ => Cell.noConfusion
    rw [← same, array]
    rfl
  · intro cell notFile notErrno away
    have first := world.setStream_same stdio file read.2 notFile notErrno
    have second := kept cell fun same => away (same ▸ args.mem_p)
    apply (first.trans second).trans
    apply others cell notFile notErrno
    · rintro ptr pointed rfl
      exact away (ReadArgs.mem_n pointed)
    · rintro ptr pointed rfl
      exact away (ReadArgs.mem_err pointed)

/-- A read keeps the length of the array, and its count stays or is at most `p_len`. -/
theorem fileReader_bounds (threaded : Threaded stdio) {f : F} {p : List UInt8} {pLen : SizeT}
    {n : Option SizeT} {err : Option Int} {result : ReadResult F} (room : pLen.toNat ≤ p.length)
    (called : Io.readerRead stdio.fileReader f p pLen n err = .ok result) :
    result.p.length = p.length ∧ ∀ stored, result.n = some stored → stored ≤ pLen ∨ n = some stored := by
  have small := threaded.read_room f pLen
  rw [Stdio.fileReaderRead_eq (Nat.le_trans small room)] at called
  cases called
  constructor
  · rw [List.length_append, List.length_drop]
    omega
  · intro stored counted
    cases n with
    | none => cases counted
    | some n =>
        cases counted
        exact Or.inl (ofNat_le_of_le small)

theorem fileReader_mirrors (threaded : Threaded stdio) (iface : Iface) (file fuel : ℕ) :
    Mirrors (callReader stdio (fuel + 1) iface.ptr) stdio.fileReader (FileHolds stdio iface file)
      [.file file, .errno] (fileFootprint iface file) where
  within := by
    intro cell member
    exact List.mem_append_right _ member
  stable := by
    intro world after f holds same
    refine ⟨holds.serves.same fun cell member => same cell (List.mem_append_left _ member), ?_⟩
    have files : world.files file = after.files file := same (.file file) (by simp [fileFootprint])
    have errno : world.errno = after.errno := same .errno (by simp [fileFootprint])
    rw [← holds.stream, World.stream, World.stream, files, errno]
  answers := by
    intro world f args n err holds ready outside
    obtain ⟨serves, rfl⟩ := holds
    obtain ⟨result, after, read, called, left, array, counts, codes, frame⟩ :=
      readerRead_spec threaded serves ready fuel
    obtain ⟨sized, bound⟩ := fileReader_bounds threaded ready.tail_room read
    refine ⟨result, after, read, called, ⟨serves.same fun cell member => ?_, left⟩, array, counts, codes,
      sized, bound, ?_⟩
    · have word := Iface.word_of_mem member file
      exact frame cell word.1 word.2 fun own => outside cell own (List.mem_append_left _ member)
    · intro cell unchanged away
      rw [List.mem_cons, List.mem_singleton, not_or] at unchanged
      exact frame cell unchanged.1 unchanged.2 away

/-- A write through an interface does what the adapter of the model does. -/
theorem writerWrite_spec (threaded : Threaded stdio) {iface : Iface} {file : ℕ} {world : World F}
    (serves : iface.Serves world .fileWriterVtable file) {args : ReadArgs} {n : Option SizeT}
    {err : Option Int} (ready : args.Ready world n err) :
    ∃ result after,
      Io.writerWrite stdio.fileWriter (world.stream stdio file) (world.tail args.p) args.pLen n err =
        .ok result ∧
      writerWrite stdio world iface.ptr args.p args.pLen args.n args.err = .ok after ∧
      after.stream stdio file = result.impl ∧ sizeWord.Points after.objects args.n result.n ∧
      intWord.Points after.objects args.err result.err ∧ Quiet file args.n args.err world after := by
  obtain ⟨offset, reaches⟩ := serves.reaches
  let write := stdio.fwrite (world.stream stdio file) ((world.tail args.p).take args.pLen.toNat)
  have ready' : args.Ready (world.setStream stdio file write.2) n err := ⟨ready.room, ready.n, ready.err⟩
  obtain ⟨after, reported, counts, codes, left, quiet⟩ :=
    reportTransfer_spec threaded ready'.n ready'.err file write.1
  rw [threaded.stream_set] at codes left
  refine ⟨⟨settled stdio err write.2, _, _⟩, after, ?_, ?_, left, counts, codes, ?_⟩
  · simp only [Io.writerWrite, Stdio.fileWriter, Stdio.fileWriterWrite, if_pos ready.tail_room]
    cases err <;> rfl
  · rw [writerWrite, reaches.call]
    show fileWriterWrite stdio world iface.impl args.p args.pLen args.n args.err = _
    rw [fileWriterWrite, World.load_of serves.loads]
    show (if args.pLen.toNat ≤ (world.tail args.p).length then _ else _) = _
    rw [if_pos ready.tail_room]
    exact reported
  · intro cell notFile notErrno notN notErr
    exact (world.setStream_same stdio file write.2 notFile notErrno).trans
      (quiet cell notFile notErrno notN notErr)

/-- A close through an interface does what the adapter of the model does. -/
theorem closerClose_spec (threaded : Threaded stdio) {iface : Iface} {file : ℕ} {world : World F}
    (serves : iface.Serves world .fileCloserVtable file) {error : Option ObjectPtr} {err : Option Int}
    (codes : intWord.Points world.objects error err) :
    ∃ after, closerClose stdio world iface.ptr error = .ok after ∧
      after.stream stdio file = (Io.closerClose stdio.fileCloser (world.stream stdio file) err).impl ∧
      intWord.Points after.objects error
        (Io.closerClose stdio.fileCloser (world.stream stdio file) err).error ∧
      Quiet file none error world after := by
  obtain ⟨offset, reaches⟩ := serves.reaches
  let close := stdio.fclose (world.stream stdio file)
  have moved (cell : Cell) (notFile : cell ≠ .file file) (notErrno : cell ≠ .errno) :=
    world.setStream_same stdio file close.2 notFile notErrno
  have started : closerClose stdio world iface.ptr error =
      if close.1 = 0 then (world.setStream stdio file close.2).assign intWord error (stdio.errno close.2)
      else .ok (world.setStream stdio file close.2) := by
    rw [closerClose, reaches.call]
    show fileCloserClose stdio world iface.impl error = _
    rw [fileCloserClose, World.load_of serves.loads]
    rfl
  rw [started]
  simp only [Io.closerClose, Stdio.fileCloser, Stdio.fileCloserClose]
  rcases eq_or_ne close.1 0 with stored | failed
  · rw [if_pos stored, if_pos stored]
    have codes' : intWord.Points (world.setStream stdio file close.2).objects error err := codes
    obtain ⟨after, assigned, coded, others⟩ := World.assign_spec codes' (stdio.errno close.2)
    refine ⟨after, assigned, ?_, coded, ?_⟩
    · have same := threaded.stream_set world file close.2
      rw [World.stream, show _ = after.files file from others (.file file) fun _ _ => Cell.noConfusion,
        show _ = after.errno from others .errno fun _ _ => Cell.noConfusion] at same
      exact same
    · intro cell notFile notErrno _ notErr
      exact (moved cell notFile notErrno).trans (others cell notErr)
  · rw [if_neg failed, if_neg failed]
    refine ⟨_, rfl, threaded.stream_set world file close.2, codes, ?_⟩
    exact fun cell notFile notErrno _ _ => moved cell notFile notErrno

end Xstd.Io.Graph
