import Xstd.Proof.Io.BufReader
import Xstd.Proof.Io.Graph.Files

/-
This file proves that a `BufReader` object mirrors the `BufReader` of the model over the reader that its
source mirrors.
-/

namespace Xstd.Io.Graph

open Library

variable {F S : Type} {stdio : Stdio F}

/-- A copy from the front of an array copies from the array. -/
theorem memcpy_take {dst src result : List UInt8} {dstStart length start count : ℕ}
    (copied : memcpy dst dstStart (src.take length) start count = .ok result) :
    memcpy dst dstStart src start count = .ok result := by
  unfold memcpy at copied ⊢
  split at copied
  · rename_i bounds
    obtain ⟨source, target⟩ := bounds
    rw [List.length_take] at source
    rw [if_pos ⟨by omega, target⟩, ← copied, List.drop_take, List.take_take,
      Nat.min_eq_left (by omega)]
  · cases copied

/-- A `BufReader` object has an array of its own. -/
structure Level where
  ptr : ObjectPtr
  array : ℕ
  area : Area

namespace Level

variable (level : Level)

def iface : Iface := ⟨level.ptr, level.ptr.add 16⟩

def field (offset : ℕ) : ObjectPtr := (level.ptr.add 16).add offset

/-- A read writes the fields `read_err`, `read` and `write` and the array. -/
def changed : List Cell :=
  [.word (level.field 24), .word (level.field 32), .word (level.field 40), .array level.array]

def fixed : List Cell :=
  level.iface.cells ++ [.word (level.field 0), .word (level.field 8), .word (level.field 16)]

@[simp] theorem field_inj (first second : ℕ) :
    level.field first = level.field second ↔ first = second := by
  simp [field, ObjectPtr.add]

@[simp] theorem field_add (offset : ℕ) : (level.field 0).add offset = level.field offset := rfl

theorem fixed_unchanged {cell : Cell} (member : cell ∈ level.fixed) : cell ∉ level.changed := by
  obtain ⟨⟨object, offset⟩, array, area⟩ := level
  simp only [fixed, iface, Iface.cells, field, ObjectPtr.add, List.cons_append, List.nil_append,
    List.mem_cons, List.not_mem_nil, or_false] at member
  rcases member with rfl | rfl | rfl | rfl | rfl <;> simp [changed, field, ObjectPtr.add]
  omega

end Level

/-- The words of a `BufReader` object and its array hold the state of the model. -/
structure Level.Fields (level : Level) (world : World F) (source : ObjectPtr) (b : BufReader S) :
    Prop where
  reaches : level.iface.Reaches world .bufReaderVtable 16
  reader : pointerWord.load world.objects (level.field 0) = some source
  buf : bytesWord.load world.objects (level.field 8) = some ⟨level.array, 0⟩
  bufLen : sizeWord.load world.objects (level.field 16) = some b.bufLen
  readErr : intWord.load world.objects (level.field 24) = some b.readErr
  read : sizeWord.load world.objects (level.field 32) = some b.read
  write : sizeWord.load world.objects (level.field 40) = some b.write
  bytes : world.arrays level.array = b.buf
  valid : b.Valid

namespace Level.Fields

variable {level : Level} {world after : World F} {source : ObjectPtr} {b : BufReader S}

/-- A step that spares the words of the object may replace the other parts of the state. -/
theorem replace (fields : level.Fields world source b) {T : Type} {next : BufReader T}
    (fixed : ∀ cell ∈ level.fixed, world.Same after cell) (bufLen : next.bufLen = b.bufLen)
    (readErr : intWord.load after.objects (level.field 24) = some next.readErr)
    (read : sizeWord.load after.objects (level.field 32) = some next.read)
    (write : sizeWord.load after.objects (level.field 40) = some next.write)
    (bytes : after.arrays level.array = next.buf) (valid : next.Valid) :
    level.Fields after source next where
  reaches := fields.reaches.same fun cell member => fixed cell (List.mem_append_left _ member)
  reader := load_same fields.reader (fixed _ (by simp [Level.fixed]))
  buf := load_same fields.buf (fixed _ (by simp [Level.fixed]))
  bufLen := by
    rw [bufLen]
    exact load_same fields.bufLen (fixed _ (by simp [Level.fixed]))
  readErr := readErr
  read := read
  write := write
  bytes := bytes
  valid := valid

theorem same (fields : level.Fields world source b) {T : Type} (reader : T)
    (unchanged : ∀ cell ∈ level.fixed ++ level.changed, world.Same after cell) :
    level.Fields after source (b.withReader reader) := by
  have own (cell : Cell) (member : cell ∈ level.changed) : world.Same after cell :=
    unchanged cell (List.mem_append_right _ member)
  have bytes : world.arrays level.array = after.arrays level.array :=
    own (.array level.array) (by simp [Level.changed])
  exact fields.replace (fun cell member => unchanged cell (List.mem_append_left _ member)) rfl
    (load_same fields.readErr (own _ (by simp [Level.changed])))
    (load_same fields.read (own _ (by simp [Level.changed])))
    (load_same fields.write (own _ (by simp [Level.changed]))) (bytes.symm.trans fields.bytes)
    (fields.valid.withReader_valid reader)

end Level.Fields

/-- A copy moves bytes of the array, advances the cursor and reports the count. -/
theorem bufReaderCopy_inv {b : BufReader S} {buffered : SizeT} {p : List UInt8} {pLen : SizeT}
    {n : Option SizeT} {err : Option Int} {result : ReadResult (BufReader S)}
    (copied : Io.bufReaderCopy b buffered p pLen n err = .ok result) :
    ∃ count, count = (if buffered < pLen then buffered else pLen) ∧
      memcpy p 0 b.buf b.write.toNat count.toNat = .ok result.p ∧
      result.impl = { b with write := b.write + count } ∧ result.n = store n count := by
  refine ⟨_, rfl, ?_⟩
  simp only [Io.bufReaderCopy] at copied
  cases moved : memcpy p 0 (b.buf.take b.read.toNat) b.write.toNat
      (if buffered < pLen then buffered else pLen).toNat with
  | error fault =>
      rw [moved] at copied
      cases copied
  | ok chunk =>
      rw [moved] at copied
      cases copied
      exact ⟨memcpy_take moved, rfl, rfl⟩

/-- The tail of the read copies as the model does, and of the object it changes the field `write` alone. -/
theorem bufReaderCopy_spec {level : Level} {world : World F} {source : ObjectPtr} {b : BufReader S}
    (fields : level.Fields world source b) {args : ReadArgs} {n : Option SizeT} {err : Option Int}
    (ready : args.Ready world n err) (outside : ∀ cell ∈ args.cells, cell ∉ level.fixed ++ level.changed)
    {buffered : SizeT} {result : ReadResult (BufReader S)} (valid : result.impl.Valid)
    (copied : Io.bufReaderCopy b buffered (world.tail args.p) args.pLen n err = .ok result) :
    ∃ after, bufReaderCopy world (level.field 0) buffered args.p args.pLen args.n = .ok after ∧
      level.Fields after source result.impl ∧
      after.arrays args.p.object = (world.arrays args.p.object).take args.p.offset ++ result.p ∧
      sizeWord.Points after.objects args.n result.n ∧
      ∀ cell, cell ≠ .word (level.field 40) → cell ≠ .array args.p.object →
        (∀ ptr, some ptr = args.n → cell ≠ .word ptr) → world.Same after cell := by
  obtain ⟨count, smaller, moved, state, counted⟩ := bufReaderCopy_inv copied
  rw [← fields.bytes, ← Nat.zero_add b.write.toNat] at moved
  obtain ⟨filled, fill, array, kept⟩ := World.fill_spec ready.inside moved
  have own (cell : Cell) (member : cell ∈ level.fixed ++ level.changed) : cell ∉ args.cells :=
    fun passed => outside cell passed member
  obtain ⟨moved', assigned, written, kept'⟩ := World.assign_field
    (load_same fields.write (kept _ Cell.noConfusion)) (b.write + count)
  have outputs : sizeWord.Points moved'.objects args.n n := by
    apply points_same ready.n
    intro ptr pointed
    have other : Cell.word ptr ≠ .word (level.field 40) := by
      intro same
      apply own (.word (level.field 40)) (by simp [Level.changed])
      rw [← same]
      exact ReadArgs.mem_n pointed
    exact (kept _ Cell.noConfusion).trans (kept' _ other)
  obtain ⟨after, assigned', stored, kept''⟩ := World.assign_spec outputs count
  have frame (cell : Cell) (notWrite : cell ≠ .word (level.field 40))
      (notArray : cell ≠ .array args.p.object) (notN : ∀ ptr, some ptr = args.n → cell ≠ .word ptr) :
      world.Same after cell :=
    ((kept cell notArray).trans (kept' cell notWrite)).trans (kept'' cell notN)
  have quiet (cell : Cell) (member : cell ∈ level.fixed ++ level.changed)
      (other : cell ≠ .word (level.field 40)) : world.Same after cell := by
    apply frame cell other
    · rintro rfl
      exact own _ member args.mem_p
    · rintro ptr pointed rfl
      exact own _ member (ReadArgs.mem_n pointed)
  refine ⟨after, ?_, ?_, ?_, counted ▸ stored, frame⟩
  · simp only [bufReaderCopy, Level.field_add, World.load_of fields.buf, World.load_of fields.write,
      ok_bind, ← smaller, fill, assigned, assigned']
  · have bytes : world.arrays level.array = after.arrays level.array :=
      quiet (.array level.array) (by simp [Level.changed]) Cell.noConfusion
    rw [state] at valid ⊢
    refine fields.replace ?_ rfl ?_ ?_ ?_ (bytes.symm.trans fields.bytes) valid
    · intro cell member
      apply quiet cell (List.mem_append_left _ member)
      rintro rfl
      exact level.fixed_unchanged member (by simp [Level.changed])
    · exact load_same fields.readErr (quiet _ (by simp [Level.changed]) (by simp))
    · exact load_same fields.read (quiet _ (by simp [Level.changed]) (by simp))
    · apply load_same written
      apply kept''
      rintro ptr pointed same
      exact own (.word (level.field 40)) (by simp [Level.changed]) (same ▸ ReadArgs.mem_n pointed)
  · have same : filled.arrays args.p.object = after.arrays args.p.object :=
      (kept' (.array args.p.object) Cell.noConfusion).trans
        (kept'' (.array args.p.object) fun _ _ => Cell.noConfusion)
    rw [← same, array]

section Levels

variable {level : Level} {world : World F} {source : ObjectPtr} {b : BufReader S} {reader : Reader S}
  {holds : World F → S → Prop} {changed footprint : List Cell} {fuel : ℕ}

/-- The object and the array of a level lie apart from what the source uses. -/
structure Level.Apart (level : Level) (changed footprint : List Cell) : Prop where
  own : ∀ cell ∈ level.changed, cell ∉ footprint
  fixed : ∀ cell ∈ level.fixed, cell ∉ changed

/-- The world holds the object of the level and the state of its source. -/
structure Level.Holds (level : Level) (source : ObjectPtr) (holds : World F → S → Prop) (world : World F)
    (b : BufReader S) : Prop where
  fields : level.Fields world source b
  source : holds world b.reader

/-- The arguments of the call that fills the array. -/
def Level.refill (level : Level) (bufLen : SizeT) : ReadArgs :=
  ⟨⟨level.array, 0⟩, bufLen, some (level.field 32), some (level.field 24)⟩

/-- The refill passes cells of the object and its array. -/
theorem Level.refill_cells (level : Level) (bufLen : SizeT) :
    ∀ cell ∈ (level.refill bufLen).cells, cell ∈ level.changed := by
  simp [refill, ReadArgs.cells, changed]

/-- Both cursors of the object go back to 0. -/
theorem reset_spec (fields : level.Fields world source b) :
    ∃ first second, world.assign sizeWord (some (level.field 32)) 0 = .ok first ∧
      first.assign sizeWord (some (level.field 40)) 0 = .ok second ∧
      sizeWord.load second.objects (level.field 32) = some 0 ∧
      sizeWord.load second.objects (level.field 40) = some 0 ∧
      ∀ cell, cell ≠ .word (level.field 32) → cell ≠ .word (level.field 40) →
        world.Same second cell := by
  obtain ⟨first, assigned, zero, kept⟩ := World.assign_field fields.read 0
  obtain ⟨second, assigned', zero', kept'⟩ :=
    World.assign_field (load_same fields.write (kept _ (by simp))) 0
  refine ⟨first, second, assigned, assigned', load_same zero (kept' _ (by simp)), zero', ?_⟩
  exact fun cell notRead notWrite => (kept cell notRead).trans (kept' cell notWrite)

/-- The answer to the refill leaves the fields of the object in the state of the model. -/
theorem refilled_fields (fields : level.Fields world source b) (apart : level.Apart changed footprint)
    (within : changed ⊆ footprint) {second after : World F} {result : ReadResult S}
    (fixed : ∀ cell ∈ level.fixed, world.Same second cell)
    (zero : sizeWord.load second.objects (level.field 40) = some 0)
    (bytes : second.tail (level.refill b.bufLen).p = b.buf)
    (answered : (level.refill b.bufLen).Answered second (some 0) holds changed after result) :
    level.Fields after source (b.refilled result) := by
  obtain ⟨read, counted⟩ := points_value answered.n
  obtain ⟨readErr, coded⟩ := points_value answered.err
  have loaded := answered.n
  have loaded' := answered.err
  rw [counted] at loaded
  rw [coded] at loaded'
  have stored : read ≤ b.bufLen := by
    rcases answered.stored read counted with small | zero
    · exact small
    · cases zero
      exact UInt64.zero_le
  have sized : result.p.length = b.bufLen.toNat := by
    rw [answered.sized, bytes, fields.valid.sized]
  refine fields.replace ?_ rfl ?_ ?_ ?_ answered.p (BufReader.refilled_valid ?_ sized)
  · intro cell member
    apply (fixed cell member).trans
    apply answered.others cell (apart.fixed cell member)
    exact fun passed => level.fixed_unchanged member (level.refill_cells b.bufLen cell passed)
  · rw [BufReader.refilled, coded]
    exact loaded'
  · rw [BufReader.refilled, counted]
    exact loaded
  · apply load_same zero
    apply answered.others
    · intro member
      exact apart.own _ (by simp [Level.changed]) (within member)
    · simp [Level.refill, ReadArgs.cells]
  · rw [counted]
    exact stored

/-- A refill leaves the object in the state of the model. -/
theorem refill_spec (mirrors : Mirrors (callReader stdio fuel source) reader holds changed footprint)
    (apart : level.Apart changed footprint) (held : level.Holds source holds world b)
    (clear : b.readErr = 0) :
    ∃ result first second after,
      Io.readerRead reader b.reader b.buf b.bufLen (some 0) (some 0) = .ok result ∧
      world.assign sizeWord (some (level.field 32)) 0 = .ok first ∧
      first.assign sizeWord (some (level.field 40)) 0 = .ok second ∧
      bytesWord.load second.objects (level.field 8) = some ⟨level.array, 0⟩ ∧
      callReader stdio fuel source second (level.refill b.bufLen) = .ok after ∧
      level.Holds source holds after (b.refilled result) ∧
      ∀ cell, cell ∉ level.changed → cell ∉ changed → world.Same after cell := by
  obtain ⟨fields, inner⟩ := held
  obtain ⟨first, second, assigned, assigned', read, write, reset⟩ := reset_spec fields
  have frame (cell : Cell) (quiet : cell ∉ level.changed) : world.Same second cell := by
    apply reset cell
    · rintro rfl
      exact quiet (by simp [Level.changed])
    · rintro rfl
      exact quiet (by simp [Level.changed])
  have bytes : second.arrays level.array = b.buf :=
    (show world.arrays level.array = second.arrays level.array from
      reset (.array level.array) Cell.noConfusion Cell.noConfusion).symm.trans fields.bytes
  have ready : (level.refill b.bufLen).Ready second (some 0) (some 0) := by
    refine ⟨?_, read, ?_⟩
    · show 0 + b.bufLen.toNat ≤ (second.arrays level.array).length
      rw [bytes, fields.valid.sized, Nat.zero_add]
    · rw [← clear]
      exact load_same fields.readErr (reset _ (by simp) (by simp))
  have inner' : holds second b.reader :=
    mirrors.stable inner fun cell member => frame cell fun own => apart.own cell own member
  obtain ⟨result, after, called, called', answered⟩ := mirrors.answers inner' ready fun cell member =>
    apart.own cell (level.refill_cells b.bufLen cell member)
  have whole : second.tail (level.refill b.bufLen).p = b.buf := bytes
  rw [whole] at called
  refine ⟨result, first, second, after, called, assigned, assigned',
    load_same fields.buf (reset _ (by simp) (by simp)), called', ⟨?_, answered.holds⟩, ?_⟩
  · exact refilled_fields fields apart mirrors.within
      (fun cell member => frame cell (level.fixed_unchanged member)) write whole answered
  · intro cell notLevel notSource
    apply (frame cell notLevel).trans
    apply answered.others cell notSource
    exact fun member => notLevel (level.refill_cells b.bufLen cell member)

/-- The object answers a read as the model does. -/
def Level.Answers (stdio : Stdio F) (fuel : ℕ) (level : Level) (source : ObjectPtr) (reader : Reader S)
    (holds : World F → S → Prop) (changed : List Cell) (world : World F) (b : BufReader S)
    (args : ReadArgs) (n : Option SizeT) (err : Option Int) : Prop :=
  ∃ result after,
    Io.readerRead (Io.bufReader reader) b (world.tail args.p) args.pLen n err = .ok result ∧
    bufReaderRead (readerRead stdio fuel) world (level.field 0) args.p args.pLen args.n args.err =
      .ok after ∧
    args.Answered world n (level.Holds source holds) (level.changed ++ changed) after result

variable {args : ReadArgs} {n : Option SizeT} {err : Option Int}

theorem Level.Holds.same (mirrors : Mirrors (callReader stdio fuel source) reader holds changed footprint)
    (held : level.Holds source holds world b) {after : World F}
    (unchanged : ∀ cell ∈ level.fixed ++ level.changed ++ footprint, world.Same after cell) :
    level.Holds source holds after b where
  fields := held.fields.same b.reader fun cell member => unchanged cell (List.mem_append_left _ member)
  source := mirrors.stable held.source fun cell member => unchanged cell (List.mem_append_right _ member)

/-- An empty request changes nothing. -/
theorem answers_empty (held : level.Holds source holds world b) (ready : args.Ready world n err)
    (empty : args.pLen = 0) :
    level.Answers stdio fuel source reader holds changed world b args n err := by
  refine ⟨⟨b, world.tail args.p, n, err⟩, world, ?_, ?_, held, ?_, ready.n, ready.err, rfl, ?_, ?_⟩
  · rw [empty]
    exact bufReaderRead_empty reader b _ n err
  · rw [bufReaderRead, if_pos empty]
    rfl
  · exact (List.take_append_drop _ _).symm
  · exact fun stored counted => Or.inr counted
  · exact fun cell _ _ => World.Same.refl world cell

/-- The recorded error reaches the outputs of the caller. -/
theorem answers_sticky (mirrors : Mirrors (callReader stdio fuel source) reader holds changed footprint)
    (held : level.Holds source holds world b) (ready : args.Ready world n err)
    (outside : ∀ cell ∈ args.cells, cell ∉ level.fixed ++ level.changed ++ footprint)
    (nonempty : args.pLen ≠ 0) (drained : b.window = []) (failed : b.readErr ≠ 0) :
    level.Answers stdio fuel source reader holds changed world b args n err := by
  have fields := held.fields
  obtain ⟨first, assigned, counts, codes, kept⟩ := World.assign_count ready.n ready.err 0
  obtain ⟨after, assigned', counted, coded, kept'⟩ := World.assign_code counts codes b.readErr
  have frame (cell : Cell) (away : cell ∉ args.cells) : world.Same after cell := by
    apply (kept cell _).trans (kept' cell _)
    · rintro ptr pointed rfl
      exact away (ReadArgs.mem_n pointed)
    · rintro ptr pointed rfl
      exact away (ReadArgs.mem_err pointed)
  refine ⟨_, after, bufReaderRead_sticky reader fields.valid drained failed _ nonempty n err, ?_, ?_⟩
  · simp only [bufReaderRead, if_neg nonempty, Level.field_add, World.load_of fields.read,
      World.load_of fields.write, World.load_of fields.readErr, ok_bind,
      if_pos (fields.valid.buffered_le_zero.mpr drained), if_pos failed, assigned, assigned']
  · refine ⟨?_, ?_, counted, coded, rfl, ?_, ?_⟩
    · exact held.same mirrors fun cell member => frame cell fun passed => outside cell passed member
    · have arrays : world.arrays args.p.object = after.arrays args.p.object :=
        (kept (.array _) fun _ _ => Cell.noConfusion).trans (kept' (.array _) fun _ _ => Cell.noConfusion)
      rw [← arrays]
      exact (List.take_append_drop _ _).symm
    · intro stored found
      cases n with
      | none => cases found
      | some n =>
          cases found
          exact Or.inl UInt64.zero_le
    · exact fun cell _ away => frame cell away

/-- A request above the array length gets the answer of the source. -/
theorem answers_bypass (mirrors : Mirrors (callReader stdio fuel source) reader holds changed footprint)
    (apart : level.Apart changed footprint) (held : level.Holds source holds world b)
    (ready : args.Ready world n err)
    (outside : ∀ cell ∈ args.cells, cell ∉ level.fixed ++ level.changed ++ footprint)
    (drained : b.window = []) (clear : b.readErr = 0) (large : b.bufLen < args.pLen) :
    level.Answers stdio fuel source reader holds changed world b args n err := by
  have fields := held.fields
  obtain ⟨result, after, answered, called, kind⟩ := mirrors.answers held.source ready
    fun cell passed member => outside cell passed (List.mem_append_right _ member)
  have nonempty : args.pLen ≠ 0 := by
    intro zero
    rw [zero] at large
    exact UInt64.not_lt.mpr UInt64.zero_le large
  refine ⟨_, after, bufReaderRead_bypass reader fields.valid drained clear large answered, ?_, ?_⟩
  · simp only [bufReaderRead, if_neg nonempty, Level.field_add, World.load_of fields.read,
      World.load_of fields.write, World.load_of fields.readErr, World.load_of fields.bufLen,
      World.load_of fields.reader, ok_bind, if_pos (fields.valid.buffered_le_zero.mpr drained),
      if_neg (not_not.mpr clear), if_pos (show args.pLen > b.bufLen from large)]
    exact called
  · refine ⟨⟨fields.same result.impl ?_, kind.holds⟩, kind.p, kind.n, kind.err, kind.sized, kind.stored, ?_⟩
    · intro cell member
      apply kind.others cell
      · intro moved
        rcases List.mem_append.mp member with fixed | own
        · exact apart.fixed cell fixed moved
        · exact apart.own cell own (mirrors.within moved)
      · exact fun passed => outside cell passed (List.mem_append_left _ member)
    · intro cell quiet away
      exact kind.others cell (fun moved => quiet (List.mem_append_right _ moved)) away

/-- Buffered data reaches the caller as in the model. -/
theorem copy_answered (mirrors : Mirrors (callReader stdio fuel source) reader holds changed footprint)
    (apart : level.Apart changed footprint) (held : level.Holds source holds world b)
    (ready : args.Ready world n err)
    (outside : ∀ cell ∈ args.cells, cell ∉ level.fixed ++ level.changed ++ footprint) :
    ∃ result after,
      Io.bufReaderCopy b (b.read - b.write) (world.tail args.p) args.pLen n err = .ok result ∧
      bufReaderCopy world (level.field 0) (b.read - b.write) args.p args.pLen args.n = .ok after ∧
      args.Answered world n (level.Holds source holds) (level.changed ++ changed) after result := by
  have fields := held.fields
  have room := ready.tail_room
  have own (cell : Cell) (passed : cell ∈ args.cells) : cell ∉ level.fixed ++ level.changed :=
    fun member => outside cell passed (List.mem_append_left _ member)
  have copied := bufReaderCopy_eq fields.valid (world.tail args.p) args.pLen room n err
  obtain ⟨after, called, fields', array, counted, frame⟩ :=
    bufReaderCopy_spec fields ready own (fields.valid.advance_valid args.pLen) copied
  have quiet (cell : Cell) (still : cell ∉ level.changed) (away : cell ∉ args.cells) :
      world.Same after cell := by
    apply frame cell
    · rintro rfl
      exact still (by simp [Level.changed])
    · rintro rfl
      exact away args.mem_p
    · rintro ptr pointed rfl
      exact away (ReadArgs.mem_n pointed)
  refine ⟨_, after, copied, called, ⟨fields', ?_⟩, array, counted, ?_, ?_, ?_, ?_⟩
  · apply mirrors.stable held.source
    intro cell member
    apply quiet cell
    · exact fun moved => apart.own cell moved member
    · exact fun passed => outside cell passed (List.mem_append_right _ member)
  · apply points_same ready.err
    intro ptr pointed
    apply frame
    · intro same
      apply own _ (ReadArgs.mem_err pointed)
      rw [same]
      simp [Level.changed]
    · exact Cell.noConfusion
    · rintro ptr' pointed' same
      cases same
      exact points_ne ready.n ready.err pointed' pointed
  · have length := fields.valid.window_length
    simp only [List.length_append, List.length_take, List.length_drop]
    omega
  · intro stored found
    cases n with
    | none => cases found
    | some n =>
        cases found
        exact Or.inl (ofNat_le_of_le (Nat.min_le_right _ _))
  · exact fun cell still away => quiet cell (fun moved => still (List.mem_append_left _ moved)) away

/-- Buffered data is served before the source is called. -/
theorem answers_drain (mirrors : Mirrors (callReader stdio fuel source) reader holds changed footprint)
    (apart : level.Apart changed footprint) (held : level.Holds source holds world b)
    (ready : args.Ready world n err)
    (outside : ∀ cell ∈ args.cells, cell ∉ level.fixed ++ level.changed ++ footprint)
    (nonempty : args.pLen ≠ 0) (window : b.window ≠ []) :
    level.Answers stdio fuel source reader holds changed world b args n err := by
  have fields := held.fields
  have filled : ¬b.read - b.write ≤ 0 := fun empty => window (fields.valid.buffered_le_zero.mp empty)
  obtain ⟨result, after, copied, called, answered⟩ := copy_answered mirrors apart held ready outside
  refine ⟨result, after, ?_, ?_, answered⟩
  · show Io.bufReaderRead reader b _ _ n err = _
    rw [Io.bufReaderRead, if_neg nonempty]
    simp only [if_neg filled]
    exact copied
  · simp only [bufReaderRead, if_neg nonempty, Level.field_add, World.load_of fields.read,
      World.load_of fields.write, ok_bind, if_neg filled]
    exact called

/-- A refill without data reports the recorded code and leaves the rest to the caller. -/
theorem dry_answered (mirrors : Mirrors (callReader stdio fuel source) reader holds changed footprint)
    (held : level.Holds source holds world b) (ready : args.Ready world n err)
    (outside : ∀ cell ∈ args.cells, cell ∉ level.fixed ++ level.changed ++ footprint) :
    ∃ after, world.assign intWord args.err b.readErr = .ok after ∧
      args.Answered world n (level.Holds source holds) (level.changed ++ changed) after
        ⟨b, world.tail args.p, n, store err b.readErr⟩ := by
  obtain ⟨after, assigned, counts, coded, others⟩ := World.assign_code ready.n ready.err b.readErr
  have frame (cell : Cell) (unpassed : cell ∉ args.cells) : world.Same after cell := by
    apply others
    rintro ptr pointed rfl
    exact unpassed (ReadArgs.mem_err pointed)
  refine ⟨after, assigned, ?_, ?_, counts, coded, rfl, fun stored counted => Or.inr counted, ?_⟩
  · exact held.same mirrors fun cell member => frame cell fun passed => outside cell passed member
  · have unread : world.arrays args.p.object = after.arrays args.p.object :=
      others (.array _) fun _ _ => Cell.noConfusion
    rw [← unread]
    exact (List.take_append_drop _ _).symm
  · exact fun cell _ unpassed => frame cell unpassed

/-- A request on an empty window fills the array and is served from it. -/
theorem answers_refill (mirrors : Mirrors (callReader stdio fuel source) reader holds changed footprint)
    (apart : level.Apart changed footprint) (held : level.Holds source holds world b)
    (ready : args.Ready world n err)
    (outside : ∀ cell ∈ args.cells, cell ∉ level.fixed ++ level.changed ++ footprint)
    (nonempty : args.pLen ≠ 0) (drained : b.window = []) (clear : b.readErr = 0)
    (small : args.pLen ≤ b.bufLen) :
    level.Answers stdio fuel source reader holds changed world b args n err := by
  have fields := held.fields
  obtain ⟨result, first, second, filled, answered, assigned, assigned', buf, called, held', kept⟩ :=
    refill_spec mirrors apart held clear
  have fields' := held'.fields
  have same (cell : Cell) (quiet : cell ∉ level.changed ++ changed) : world.Same filled cell :=
    kept cell (fun moved => quiet (List.mem_append_left _ moved)) fun moved =>
      quiet (List.mem_append_right _ moved)
  have away (cell : Cell) (passed : cell ∈ args.cells) : cell ∉ level.changed ++ changed := by
    intro moved
    apply outside cell passed
    rcases List.mem_append.mp moved with own | moved
    · exact List.mem_append_left _ (List.mem_append_right _ own)
    · exact List.mem_append_right _ (mirrors.within moved)
  have ready' := ready.later fun cell passed => same cell (away cell passed)
  have array : world.arrays args.p.object = filled.arrays args.p.object := same _ (away _ args.mem_p)
  have tail : filled.tail args.p = world.tail args.p := by rw [World.tail, World.tail, array]
  -- Both cases start with the same calls.
  have started := show bufReaderRead (readerRead stdio fuel) world (level.field 0) args.p args.pLen args.n
      args.err = (do
        let read ← filled.load sizeWord (level.field 32)
        if read = 0 then
          let readErr ← filled.load intWord (level.field 24)
          filled.assign intWord args.err readErr
        else
          bufReaderCopy filled (level.field 0) read args.p args.pLen args.n) by
    simp only [bufReaderRead, if_neg nonempty, Level.field_add, World.load_of fields.read,
      World.load_of fields.write, World.load_of fields.readErr, World.load_of fields.bufLen,
      World.load_of fields.reader, ok_bind, if_pos (fields.valid.buffered_le_zero.mpr drained),
      if_neg (not_not.mpr clear), if_neg (show ¬args.pLen > b.bufLen from UInt64.not_lt.mpr small),
      assigned, assigned', World.load_of buf, show readerRead stdio fuel second source ⟨level.array, 0⟩
        b.bufLen (some (level.field 32)) (some (level.field 24)) = .ok filled from called]
  rcases eq_or_ne (result.n.getD 0) 0 with dry | wet
  · obtain ⟨after, assigned'', answered'⟩ := dry_answered mirrors held' ready' outside
    have dry' : (b.refilled result).read = 0 := dry
    rw [tail] at answered'
    refine ⟨_, after,
      bufReaderRead_dry reader fields.valid drained clear _ nonempty small n err answered dry,
      ?_, answered'.earlier away same⟩
    simp only [started, World.load_of fields'.read, World.load_of fields'.readErr, ok_bind, if_pos dry',
      assigned'']
  · obtain ⟨served, after, copied, called', answered'⟩ := copy_answered mirrors apart held' ready' outside
    have wet' : ¬(b.refilled result).read = 0 := wet
    refine ⟨served, after, ?_, ?_, answered'.earlier away same⟩
    · show Io.bufReaderRead reader b _ _ n err = _
      rw [bufReaderRead_refill reader fields.valid drained clear _ nonempty small n err answered wet,
        ← tail]
      exact copied
    · rw [show (b.refilled result).write = 0 from rfl, UInt64.sub_zero] at called'
      simp only [started, World.load_of fields'.read, ok_bind, if_neg wet']
      exact called'

/-- A `BufReader` object over an object that mirrors a reader mirrors the `BufReader` over that reader. -/
theorem bufReader_mirrors
    (mirrors : Mirrors (callReader stdio fuel source) reader holds changed footprint)
    (apart : level.Apart changed footprint) :
    Mirrors (callReader stdio (fuel + 1) level.ptr) (Io.bufReader reader) (level.Holds source holds)
      (level.changed ++ changed) (level.fixed ++ level.changed ++ footprint) where
  within := by
    intro cell member
    rcases List.mem_append.mp member with own | moved
    · exact List.mem_append_left _ (List.mem_append_right _ own)
    · exact List.mem_append_right _ (mirrors.within moved)
  stable held unchanged := held.same mirrors unchanged
  answers := by
    intro world b args n err held ready outside
    have called : callReader stdio (fuel + 1) level.ptr world args = bufReaderRead (readerRead stdio fuel)
        world (level.field 0) args.p args.pLen args.n args.err := by
      rw [callReader, readerRead, show ifaceCall world level.ptr = _ from held.fields.reaches.call]
      rfl
    rw [called]
    rcases eq_or_ne args.pLen 0 with empty | nonempty
    · exact answers_empty held ready empty
    rcases eq_or_ne b.window [] with drained | window
    · rcases eq_or_ne b.readErr 0 with clear | failed
      · rcases UInt64.lt_or_le b.bufLen args.pLen with large | small
        · exact answers_bypass mirrors apart held ready outside drained clear large
        · exact answers_refill mirrors apart held ready outside nonempty drained clear small
      · exact answers_sticky mirrors held ready outside nonempty drained failed
    · exact answers_drain mirrors apart held ready outside nonempty window

end Levels

end Xstd.Io.Graph
