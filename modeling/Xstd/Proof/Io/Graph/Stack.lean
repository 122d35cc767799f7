import Xstd.Construction.Io.Clients
import Xstd.Proof.Io.Graph.BufReader

/-
This file proves that a stack of reader objects of any depth mirrors the stack of the model.
-/

namespace Xstd.Io.Graph

open Library

variable {F : Type} {stdio : Stdio F}

/-- The pointer that a caller of the stack uses. -/
def topReader (source : Iface) : List Level → ObjectPtr
  | [] => source.ptr
  | level :: _ => level.ptr

def stackChanged (file : ℕ) : List Level → List Cell
  | [] => [.file file, .errno]
  | level :: below => level.changed ++ stackChanged file below

def stackFootprint (source : Iface) (file : ℕ) : List Level → List Cell
  | [] => fileFootprint source file
  | level :: below => level.fixed ++ level.changed ++ stackFootprint source file below

/-- The world holds the state of every level and of the stream below them. -/
def StackHolds (stdio : Stdio F) (source : Iface) (file : ℕ) : (levels : List Level) → World F →
    StackState F (levels.map Level.area).length → Prop
  | [] => FileHolds stdio source file
  | level :: below => level.Holds (topReader source below) (StackHolds stdio source file below)

/-- Each level lies apart from everything below it. -/
def StackApart (source : Iface) (file : ℕ) : List Level → Prop
  | [] => True
  | level :: below =>
      level.Apart (stackChanged file below) (stackFootprint source file below) ∧
        StackApart source file below

/-- A stack of objects of any depth mirrors the stack of the model. -/
theorem stack_mirrors (threaded : Threaded stdio) (source : Iface) (file extra : ℕ) {levels : List Level}
    (apart : StackApart source file levels) :
    Mirrors (callReader stdio (extra + levels.length + 1) (topReader source levels))
      (stackReader stdio.fileReader (levels.map Level.area).length) (StackHolds stdio source file levels)
      (stackChanged file levels) (stackFootprint source file levels) := by
  induction levels with
  | nil => exact fileReader_mirrors threaded source file extra
  | cons level below ih => exact bufReader_mirrors (ih apart.2) apart.1

theorem mem_stackChanged {file : ℕ} {levels : List Level} {cell : Cell} :
    cell ∈ stackChanged file levels ↔
      cell ∈ levels.flatMap Level.changed ∨ cell = .file file ∨ cell = .errno := by
  induction levels with
  | nil => simp [stackChanged]
  | cons level below ih =>
      rw [stackChanged, List.mem_append, ih, List.flatMap_cons, List.mem_append, or_assoc]

theorem mem_stackFootprint {source : Iface} {file : ℕ} {levels : List Level} {cell : Cell} :
    cell ∈ stackFootprint source file levels ↔
      cell ∈ levels.flatMap Level.fixed ∨ cell ∈ source.cells ++ [.word source.impl] ∨
        cell ∈ stackChanged file levels := by
  induction levels with
  | nil => simp [stackFootprint, fileFootprint, stackChanged, or_assoc]
  | cons level below ih =>
      simp only [stackFootprint, stackChanged, List.flatMap_cons, List.mem_append, ih]
      tauto

/-- Different cells at all levels keep the levels apart. -/
theorem stackApart_of_nodup {source : Iface} {file : ℕ} {levels : List Level}
    (different : (levels.flatMap Level.changed ++ [Cell.file file]).Nodup)
    (steady : ∀ cell ∈ levels.flatMap Level.changed ++ [Cell.file file],
      cell ∉ source.cells ++ [.word source.impl] ++ levels.flatMap Level.fixed) :
    StackApart source file levels := by
  induction levels with
  | nil => trivial
  | cons level below ih =>
      rw [List.flatMap_cons, List.append_assoc, List.nodup_append] at different
      obtain ⟨_, rest, distinct⟩ := different
      simp only [List.flatMap_cons, List.mem_append, not_or, List.mem_singleton] at steady distinct ih
      refine ⟨⟨?_, ?_⟩, ih rest ?_⟩
      · intro cell own member
        obtain ⟨outside, _, other⟩ := steady cell (Or.inl (Or.inl own))
        rcases mem_stackFootprint.mp member with fixed | passed | moved
        · exact other fixed
        · rw [List.mem_append, List.mem_singleton] at passed
          rcases passed with first | second
          · exact outside.1 first
          · exact outside.2 second
        · rcases mem_stackChanged.mp moved with lower | stream | errno
          · exact distinct cell own cell (Or.inl lower) rfl
          · exact distinct cell own cell (Or.inr stream) rfl
          · subst errno
            simp [Level.changed] at own
      · intro cell fixed moved
        rcases mem_stackChanged.mp moved with lower | stream | errno
        · exact (steady cell (Or.inl (Or.inr lower))).2.1 fixed
        · exact (steady cell (Or.inr stream)).2.1 fixed
        · subst errno
          simp [Level.fixed, Level.iface, Iface.cells] at fixed
      · intro cell moved
        have outside := steady cell (moved.imp_left Or.inr)
        exact ⟨outside.1, outside.2.2⟩

/-- The stream of a stack is the one at its bottom. -/
theorem StackHolds.source_eq {source : Iface} {file : ℕ} {levels : List Level} {world : World F}
    {state : StackState F (levels.map Level.area).length}
    (holds : StackHolds stdio source file levels world state) :
    stackSource _ state = world.stream stdio file := by
  induction levels with
  | nil => exact (FileHolds.stream holds).symm
  | cons level below ih => exact ih holds.source

/-- A step that spares the objects may give the stack another stream. -/
theorem StackHolds.setStream {source : Iface} {file : ℕ} {levels : List Level} {world after : World F}
    {state : StackState F (levels.map Level.area).length}
    (holds : StackHolds stdio source file levels world state)
    (same : ∀ cell ∈ stackFootprint source file levels, cell ≠ .file file → cell ≠ .errno →
      world.Same after cell) :
    StackHolds stdio source file levels after (stackWithSource _ state (after.stream stdio file)) := by
  induction levels with
  | nil =>
      refine ⟨holds.serves.same fun cell member => ?_, rfl⟩
      apply same cell (List.mem_append_left _ member)
      · rintro rfl
        simp [Iface.cells] at member
      · rintro rfl
        simp [Iface.cells] at member
  | cons level below ih =>
      refine ⟨holds.fields.same _ fun cell member => ?_, ih holds.source fun cell member => ?_⟩
      · apply same cell (List.mem_append_left _ member)
        · rintro rfl
          simp [Level.fixed, Level.changed, Level.iface, Iface.cells] at member
        · rintro rfl
          simp [Level.fixed, Level.changed, Level.iface, Iface.cells] at member
      · exact same cell (List.mem_append_right _ member)

theorem stackWithSource_twice {S : Type} {depth : ℕ} (state : StackState S depth) (first second : S) :
    stackWithSource depth (stackWithSource depth state first) second =
      stackWithSource depth state second := by
  induction depth with
  | zero => rfl
  | succ depth ih =>
      show BufReader.withReader _
        (stackWithSource depth (stackWithSource depth (BufReader.reader state) first) second) = _
      rw [ih]
      rfl

end Xstd.Io.Graph
