import Xstd.Construction.Io.Clients
import Xstd.Proof.Io.BufReaderPaths
import Xstd.Proof.Io.WriteClose

/-
This file proves that a stream under a stack of readers gains the bytes that its writer counts, and no
other ones.
-/

namespace Xstd.Io

open Library

variable {S F : Type}

/-- Every read that returns leaves a related state behind. -/
def Reader.Moves (reader : Reader S) (related : S → S → Prop) : Prop :=
  ∀ impl p pLen n err result, readerRead reader impl p pLen n err = .ok result → related impl result.impl

/-- A read of a level leaves the reader below it alone or calls it once. -/
theorem bufReaderRead_inner {reader : Reader S} {b : BufReader S} {p : List UInt8} {pLen : SizeT}
    {n : Option SizeT} {err : Option Int} {result : ReadResult (BufReader S)}
    (called : bufReaderRead reader b p pLen n err = .ok result) :
    result.impl.reader = b.reader ∨
      ∃ p pLen n err inner, readerRead reader b.reader p pLen n err = .ok inner ∧
        result.impl.reader = inner.impl := by
  rw [bufReaderRead] at called
  split at called
  · cases called
    exact Or.inl rfl
  simp only at called
  split at called
  · split at called
    · -- The recorded error answers without a call.
      cases called
      exact Or.inl rfl
    split at called
    · split at called
      · cases called
      · rename_i direct
        cases called
        exact Or.inr ⟨_, _, _, _, _, direct, rfl⟩
    · split at called
      · cases called
      · rename_i inner refill
        refine Or.inr ⟨_, _, _, _, inner, refill, ?_⟩
        split at called
        · cases called
          rfl
        · exact bufReaderCopy_reader called
  · exact Or.inl (bufReaderCopy_reader called)

theorem bufReader_moves {reader : Reader S} {related : S → S → Prop} (moves : reader.Moves related)
    (reflexive : ∀ impl, related impl impl) :
    (bufReader reader).Moves fun b next => related b.reader next.reader := by
  intro b p pLen n err result called
  obtain alone | ⟨p, pLen, n, err, inner, direct, moved⟩ := bufReaderRead_inner called
  · rw [alone]
    exact reflexive b.reader
  · rw [moved]
    exact moves b.reader p pLen n err inner direct

theorem stack_moves {reader : Reader S} {related : S → S → Prop} (moves : reader.Moves related)
    (reflexive : ∀ impl, related impl impl) (depth : ℕ) :
    (stackReader reader depth).Moves fun state next =>
      related (stackSource depth state) (stackSource depth next) := by
  induction depth with
  | zero => exact moves
  | succ depth ih => exact bufReader_moves ih fun state => reflexive (stackSource depth state)

@[simp] theorem stackSource_withSource {depth : ℕ} (state : StackState S depth) (source : S) :
    stackSource depth (stackWithSource depth state source) = source := by
  induction depth with
  | zero => rfl
  | succ depth ih => exact ih (BufReader.reader state)

/-- A write adds the bytes that it counts behind the content of the stream, and nothing else changes the
content. -/
structure Stdio.Appending (stdio : Stdio F) : Prop where
  write_room : ∀ f bytes, (stdio.fwrite f bytes).1 ≤ bytes.length
  write_front : ∀ f bytes, stdio.content (stdio.fwrite f bytes).2 =
    stdio.content f ++ bytes.take (stdio.fwrite f bytes).1
  read_kept : ∀ f count, stdio.content (stdio.fread f count).2 = stdio.content f
  set_kept : ∀ f errno, stdio.content (stdio.setErrno f errno) = stdio.content f
  clear_kept : ∀ f, stdio.content (stdio.clearerr f) = stdio.content f

section Stream

variable {stdio : Stdio F}

theorem Stdio.Appending.settle (appending : stdio.Appending) (err : Option Int) (f : F) :
    stdio.content (settled stdio err f) = stdio.content f := by
  cases err with
  | none => rfl
  | some _ => exact appending.clear_kept f

theorem Stdio.Appending.fileReader_moves (appending : stdio.Appending) :
    stdio.fileReader.Moves fun f next => stdio.content next = stdio.content f := by
  intro f p pLen n err result called
  simp only [readerRead, Stdio.fileReader, Stdio.fileReaderRead] at called
  split at called
  · cases called
  · split at called
    · cases called
      exact appending.read_kept f pLen
    · cases called
      exact (appending.clear_kept _).trans (appending.read_kept f pLen)

/-- A write reports the count of `fwrite`. -/
theorem Stdio.fileWriterWrite_eq {f : F} {p : List UInt8} {pLen : SizeT} (room : pLen.toNat ≤ p.length)
    (n : Option SizeT) (err : Option Int) :
    writerWrite stdio.fileWriter f p pLen n err =
      .ok ⟨settled stdio err (stdio.fwrite f (p.take pLen.toNat)).2,
        store n (UInt64.ofNat (stdio.fwrite f (p.take pLen.toNat)).1),
        store err (if (stdio.fwrite f (p.take pLen.toNat)).1 = 0 ∧
            stdio.feof (stdio.fwrite f (p.take pLen.toNat)).2 then eof
          else stdio.errno (stdio.fwrite f (p.take pLen.toNat)).2)⟩ := by
  simp only [writerWrite, fileWriter, fileWriterWrite, if_pos room]
  cases err <;> rfl

/-- The bytes that a call added to the stream, as far as its client can tell. -/
def StackCall.added (call : StackCall) (reply : Observation) : List UInt8 :=
  match call.op with
  | .write => call.p.take (reply.n.getD 0).toNat
  | _ => []

/-- The client reads, or it writes and looks at the count. -/
def StackCall.Transfers (call : StackCall) : Prop :=
  match call.op with
  | .read => True
  | .write => call.n.isSome
  | .close => False

instance (call : StackCall) : Decidable call.Transfers :=
  match call with
  | ⟨_, .read, _, _, _, _⟩ => inferInstanceAs (Decidable True)
  | ⟨_, .write, _, n, _, _⟩ => inferInstanceAs (Decidable (n.isSome = true))
  | ⟨_, .close, _, _, _, _⟩ => inferInstanceAs (Decidable False)

/-- A read keeps the content of the stream, and a write adds what it counts. -/
theorem stackStep_adds (appending : stdio.Appending) {closer : Closer F} {depth : ℕ}
    {state next : StackState F depth} {call : StackCall} {reply : Observation}
    (transfers : call.Transfers)
    (stepped : stackStep stdio closer depth state call = .ok (reply, next)) :
    stdio.content (stackSource depth next) =
      stdio.content (stackSource depth state) ++ call.added reply := by
  have ready := appending.set_kept (stackSource depth state) call.errno
  cases op : call.op with
  | read =>
      simp only [stackStep, op] at stepped
      split at stepped
      · cases stepped
      · rename_i result called
        cases stepped
        have moved := stack_moves appending.fileReader_moves (fun _ => rfl) depth _ _ _ _ _ _ called
        simp only [stackSource_withSource] at moved
        simp only [StackCall.added, op, List.append_nil]
        exact moved.trans ready
  | write =>
      simp only [StackCall.Transfers, op] at transfers
      obtain ⟨count, counted⟩ := Option.isSome_iff_exists.mp transfers
      have small := appending.write_room (stdio.setErrno (stackSource depth state) call.errno)
        (call.p.take call.pLen.toNat)
      have below := Nat.le_trans small (List.length_take_le _ _)
      simp only [stackStep, op, Stdio.fileWriterWrite_eq call.room] at stepped
      cases stepped
      rw [stackSource_withSource]
      simp only [StackCall.added, op, counted, store_some, Option.getD_some, toNat_ofNat_of_le below]
      rw [appending.settle, appending.write_front, ready, List.take_take, Nat.min_eq_left below]
  | close =>
      simp only [StackCall.Transfers, op] at transfers

end Stream

theorem bufferedStdio_appending : bufferedStdio.Appending where
  write_room := bufferedStdio_lawful.write_room
  write_front f bytes := by
    show (f.fwrite bytes).2.device ++ (f.fwrite bytes).2.pending = _
    obtain ⟨after, whole, _, stored⟩ | ⟨_, refused⟩ := bufferedFwrite_cases f bytes
    · have count : (bufferedStdio.fwrite f bytes).1 = bytes.length := congrArg Prod.fst whole
      rw [count, List.take_length, whole]
      exact stored
    · have count : (bufferedStdio.fwrite f bytes).1 = 0 := congrArg Prod.fst refused
      rw [count, List.take_zero, List.append_nil, refused]
      rfl
  read_kept _ _ := rfl
  set_kept _ _ := rfl
  clear_kept _ := rfl

end Xstd.Io
