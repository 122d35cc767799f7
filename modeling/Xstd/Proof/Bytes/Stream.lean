import Xstd.Proof.Bytes.Adapters
import Xstd.Proof.Io.Reader

/-
This file proves what a consumer receives that reads a `BytesBuffer` through its `Reader`.
-/

namespace Xstd.Bytes

open Library Io

variable {S : Type}

/-- The bytes of the buffer in the heap of the world. -/
def World.contents (world : World S) (buffer : BytesBuffer) : List UInt8 :=
  (bytesBufferBytes buffer).contents world.heap.memory

/-- The delivered bytes are a front of the contents, and a read after all of them finds `EOF`. -/
def StreamLaw (contents delivered : List UInt8) (replies : List (List UInt8 × Int)) : Prop :=
  delivered ++ replies.flatMap Prod.fst <+: contents ∧
    ∀ earlier reply later, replies = earlier ++ reply :: later →
      delivered ++ earlier.flatMap Prod.fst = contents → reply = ([], eof)

/-- At each offset where a read starts the contents go on, and they repeat their own start. -/
def RepeatsStart (contents : List UInt8) : ℕ → List ℕ → Prop
  | _, [] => True
  | offset, count :: rest =>
      offset < contents.length ∧ contents.take count <+: contents.drop offset ∧
        RepeatsStart contents (offset + count) rest

/-- The copy stores the start of the contents at the front of the array. -/
theorem copyContents_eq (memory : Memory) (bytes : Addr) (len : SizeT) {p : List UInt8} {pLen : SizeT}
    (room : pLen.toNat ≤ p.length) (n : Option SizeT) :
    let chunk := (memory.read bytes.toNat len.toNat).take pLen.toNat
    copyContents memory bytes len p pLen n =
      .ok (chunk ++ p.drop chunk.length, store n (UInt64.ofNat chunk.length)) := by
  intro chunk
  have length : chunk.length = min len.toNat pLen.toNat := by
    rw [List.length_take, Memory.read_length, Nat.min_comm]
  have copied : (if pLen > len then len else pLen).toNat = chunk.length := by
    rw [length]
    exact toNat_smaller len pLen
  have word : UInt64.ofNat chunk.length = if pLen > len then len else pLen := by
    rw [← copied, UInt64.ofNat_toNat]
  have inside : 0 + chunk.length ≤ (memory.read bytes.toNat len.toNat).length ∧
      0 + chunk.length ≤ p.length := by
    rw [length, Memory.read_length]
    omega
  have whole : (memory.read bytes.toNat len.toNat).take chunk.length = chunk := by
    rw [length, Nat.min_comm, ← List.take_take,
      List.take_of_length_le (Nat.le_of_eq (Memory.read_length memory bytes.toNat len.toNat))]
  simp only [copyContents, memcpy, copied]
  rw [if_pos inside, List.take_zero, List.drop_zero, List.nil_append, whole, Nat.zero_add, word]

/-- Each read copies the start of the contents, sets `*n` and leaves `*err` alone. -/
theorem wrappedReader_writesOnly {world : World S} {object : ℕ} {buffer : BytesBuffer}
    (words : world.objects object = bufferWords buffer) (request : Request) :
    let chunk := (world.contents buffer).take request.pLen.toNat
    WritesOnly (wrappedReader ⟨object, 0⟩) world request
      ⟨world, chunk ++ request.p.drop chunk.length, some (UInt64.ofNat chunk.length), none⟩ := by
  intro chunk n err
  have loadLen : loadSize world.objects (ObjectPtr.add ⟨object, 0⟩ 16) = .ok buffer.len := by
    simp [loadSize, Objects.load, words, bufferWords]
  have loadBytes : loadAddr world.objects ⟨object, 0⟩ = .ok buffer.bytes := by
    simp [loadAddr, Objects.load, words, bufferWords]
  have copies := copyContents_eq world.heap.memory buffer.bytes buffer.len request.room (some n)
  simp only [readerRead, wrappedReader, bytesBufferReaderRead, loadLen, loadBytes, copies]
  rfl

/-- Each read copies the start of the contents, reports no error and moves nothing. -/
theorem wrappedReader_pull {world : World S} {object : ℕ} {buffer : BytesBuffer}
    (words : world.objects object = bufferWords buffer) (request : NonemptyRequest) :
    pullNonempty (wrappedReader ⟨object, 0⟩) world request =
      .ok (((world.contents buffer).take request.pLen.toNat, 0), world) :=
  pull_of_chunk (wrappedReader_writesOnly words request.toRequest 0 0) (List.length_take_le _ _)

/-- A law about a first reply and the others. -/
theorem streamLaw_cons (contents delivered : List UInt8) (reply : List UInt8 × Int)
    (rest : List (List UInt8 × Int)) :
    StreamLaw contents delivered (reply :: rest) ↔
      (delivered = contents → reply = ([], eof)) ∧ StreamLaw contents (delivered ++ reply.1) rest := by
  unfold StreamLaw
  rw [List.flatMap_cons, ← List.append_assoc]
  constructor
  · rintro ⟨front, ends⟩
    refine ⟨fun whole => ends [] reply rest rfl (by simpa using whole), front, ?_⟩
    intro earlier last later split whole
    apply ends (reply :: earlier) last later (by rw [split]; rfl)
    rw [List.flatMap_cons, ← List.append_assoc]
    exact whole
  · rintro ⟨first, front, ends⟩
    refine ⟨front, ?_⟩
    intro earlier last later split whole
    cases earlier with
    | nil =>
        obtain ⟨rfl, rfl⟩ := List.cons.inj split
        exact first (by simpa using whole)
    | cons head earlier =>
        obtain ⟨rfl, others⟩ := List.cons.inj split
        apply ends earlier last later others
        rw [List.flatMap_cons, ← List.append_assoc] at whole
        exact whole

theorem take_append_prefix_iff (contents chunk : List UInt8) (offset : ℕ) :
    contents.take offset ++ chunk <+: contents ↔ chunk <+: contents.drop offset := by
  have shifted : contents.take offset ++ chunk <+: contents.take offset ++ contents.drop offset ↔
      chunk <+: contents.drop offset := List.prefix_append_right_inj _
  rwa [List.take_append_drop] at shifted

/-- A start that the contents repeat at the offset is what they hold there. -/
theorem take_append_take {contents : List UInt8} {offset count : ℕ}
    (inside : offset < contents.length) (repeats : contents.take count <+: contents.drop offset) :
    contents.take offset ++ contents.take count = contents.take (offset + count) := by
  rw [List.take_add]
  congr 1
  have exact := List.prefix_iff_eq_take.mp repeats
  have bound := repeats.length_le
  rw [List.length_take, List.length_drop] at bound
  rcases Nat.lt_or_ge contents.length count with above | below
  · have first : offset = 0 := by omega
    rw [first, List.drop_zero]
  · rwa [List.length_take, Nat.min_eq_left below] at exact

/-- Copies of the start form a stream exactly when the contents repeat their start at each read. -/
theorem streamLaw_iff (contents : List UInt8) (offset : ℕ) (counts : List ℕ) :
    StreamLaw contents (contents.take offset) (counts.map fun count => (contents.take count, 0)) ↔
      RepeatsStart contents offset counts := by
  induction counts generalizing offset with
  | nil =>
      refine iff_of_true ⟨by simpa using List.take_prefix offset contents, ?_⟩ trivial
      intro earlier reply later split
      exact absurd split (by simp)
  | cons count rest ih =>
      have silent : (contents.take offset = contents → (contents.take count, (0 : Int)) = ([], eof)) ↔
          offset < contents.length := by
        rw [List.take_eq_self_iff]
        constructor
        · intro ends
          apply Nat.lt_of_not_le
          intro past
          have silence : (0 : Int) = eof := congrArg Prod.snd (ends past)
          exact absurd silence (by decide)
        · intro inside past
          omega
      rw [List.map_cons, streamLaw_cons, silent, RepeatsStart]
      apply and_congr_right
      intro inside
      constructor
      · intro law
        have front := (List.prefix_append _ _).trans law.1
        have repeats := (take_append_prefix_iff contents _ offset).mp front
        rw [take_append_take inside repeats] at law
        exact ⟨repeats, (ih (offset + count)).mp law⟩
      · rintro ⟨repeats, later⟩
        rw [take_append_take inside repeats]
        exact (ih (offset + count)).mpr later

/-- A run of reads copies the start of the contents each time. -/
theorem wrappedReader_run {world : World S} {object : ℕ} {buffer : BytesBuffer}
    (words : world.objects object = bufferWords buffer) (requests : List NonemptyRequest) :
    (pullNonempty (wrappedReader ⟨object, 0⟩)).run world requests =
      .ok ((requests.map fun request => request.pLen.toNat).map fun count =>
        ((world.contents buffer).take count, 0), world) := by
  induction requests with
  | nil => rfl
  | cons request rest ih =>
      rw [Machine.run_cons_of_ok rest (wrappedReader_pull words request), ih]
      rfl

/-- No read reports an error. -/
theorem wrappedReader_answer {world : World S} {object : ℕ} {buffer : BytesBuffer}
    (words : world.objects object = bufferWords buffer) (requests : ℕ → NonemptyRequest) (index : ℕ) :
    Pull.answer (pullNonempty (wrappedReader ⟨object, 0⟩)) index world requests =
      .ok ((world.contents buffer).take (requests index).pLen.toNat, 0) := by
  induction index generalizing requests with
  | zero => exact Pull.answer_zero_of_ok (wrappedReader_pull words (requests 0))
  | succ index ih =>
      rw [Pull.answer_succ_of_ok (wrappedReader_pull words (requests 0))]
      exact ih _

/-- The reads of a run form a stream exactly when the contents happen to repeat their own start wherever
a read begins, and no loop that waits for an error ends. -/
theorem buffer_stream_iff (world : World S) (object : ℕ) (buffer : BytesBuffer)
    (words : world.objects object = bufferWords buffer) :
    (∀ requests : List NonemptyRequest,
      ∃ replies, (pullNonempty (wrappedReader ⟨object, 0⟩)).run world requests = .ok (replies, world) ∧
        (StreamLaw (world.contents buffer) [] replies ↔
          RepeatsStart (world.contents buffer) 0 (requests.map fun request => request.pLen.toNat))) ∧
    ∀ (requests : ℕ → NonemptyRequest) (data : List UInt8) (code : Int), code ≠ 0 →
      ¬Pull.Ends (pullNonempty (wrappedReader ⟨object, 0⟩)) world requests data code := by
  constructor
  · intro requests
    exact ⟨_, wrappedReader_run words requests, streamLaw_iff (world.contents buffer) 0 _⟩
  · rintro requests data code nonzero ⟨last, ends⟩
    obtain ⟨chunk, reported⟩ := ends.reports
    rw [wrappedReader_answer words requests last] at reported
    cases reported
    exact nonzero rfl

/-- The buffer is the object 0, and it holds the bytes 1 and 0 at address 16. -/
def twoBytes : World BumpState where
  objects
    | 0 => bufferWords ⟨16, 2, 2⟩
    | _ => []
  heap := ⟨⟨18, [⟨16, 2⟩]⟩, fun address => if address = 16 then 1 else 0⟩

theorem buffer_stream_two_bytes :
    (∀ requests : List NonemptyRequest,
      ∃ replies, (pullNonempty (wrappedReader ⟨0, 0⟩)).run twoBytes requests = .ok (replies, twoBytes) ∧
        (StreamLaw (twoBytes.contents ⟨16, 2, 2⟩) [] replies ↔
          RepeatsStart (twoBytes.contents ⟨16, 2, 2⟩) 0
            (requests.map fun request => request.pLen.toNat))) ∧
    ∀ (requests : ℕ → NonemptyRequest) (data : List UInt8) (code : Int), code ≠ 0 →
      ¬Pull.Ends (pullNonempty (wrappedReader ⟨0, 0⟩)) twoBytes requests data code :=
  buffer_stream_iff twoBytes 0 ⟨16, 2, 2⟩ rfl

/-- Two reads of one byte both deliver the first byte. -/
theorem buffer_stream_repeats :
    ∃ replies, (pullNonempty (wrappedReader ⟨0, 0⟩)).run twoBytes
        [⟨⟨[0], 1, by decide⟩, by decide⟩, ⟨⟨[0], 1, by decide⟩, by decide⟩] = .ok (replies, twoBytes) ∧
      ¬StreamLaw (twoBytes.contents ⟨16, 2, 2⟩) [] replies := by
  refine ⟨_, rfl, ?_⟩
  intro law
  exact absurd law.1 (by decide)

end Xstd.Bytes
