import Xstd.Proof.Io.Graph.Clients
import Xstd.Proof.Io.Lossless
import Xstd.Proof.Io.Stored

/-
This file proves that a client that only reads receives the bytes of its stream, and that what a client
writes joins its stream, whatever the other clients do in between.
-/

namespace Xstd.Io.Graph

open Library

variable {F ι : Type} {stdio : Stdio F} {sound : F → Prop}

/-- The bytes that a client took along its calls. -/
def received (calls : List StackCall) (replies : List Observation) : List UInt8 :=
  (List.zipWith StackCall.taken calls replies).flatten

section Stack

variable {closer : Closer F} {stack : Stack} {world : World F} {final : StackState F stack.depth}
  {calls : List StackCall}

/-- A client that reads from a stack that was just built takes the front of its stream. -/
theorem received_of_run (orderly : stdio.Orderly sound) (fresh : sound (world.files stack.file))
    {replies : List Observation} (reads : ∀ call ∈ calls, call.Reads)
    (ran : (stackStep stdio closer stack.depth).run (stack.start world) calls = .ok (replies, final)) :
    received calls replies ++ stackHeld stdio.unread stack.depth final =
      stdio.unread (world.files stack.file) := by
  obtain ⟨valid, whole⟩ := stackInit_holds stdio.unread fresh (stack.levels.map Level.area)
  refine Eq.trans (Machine.taken_of_run ?_ valid reads ran).2 whole
  intro state call reply next valid reads stepped
  obtain ⟨kept, account, _⟩ := stackStep_takes orderly valid reads stepped
  exact ⟨kept, account⟩

/-- A client that finds `EOF` has received the whole stream. -/
theorem received_of_eof (orderly : stdio.Orderly sound) (fresh : sound (world.files stack.file))
    {earlier later : List Observation} {reply : Observation} (reads : ∀ call ∈ calls, call.Reads)
    (ran : (stackStep stdio closer stack.depth).run (stack.start world) calls =
      .ok (earlier ++ reply :: later, final)) (ended : reply.err = some eof) :
    received calls (earlier ++ [reply]) = stdio.unread (world.files stack.file) := by
  obtain ⟨valid, whole⟩ := stackInit_holds stdio.unread fresh (stack.levels.map Level.area)
  refine Eq.trans (Machine.taken_of_last (fun reply => reply.err = some eof) ?_ earlier valid reads ran
    ended) whole
  exact fun state call reply next => stackStep_takes orderly

end Stack

/-- No byte is lost, repeated or moved between a stream and the client that reads it. In every interleaving
with other clients, the bytes that the client took from its array, the windows of its stack in memory from
the top down, and the unread bytes of the stream are the bytes that the stream had at first, and a read
reports `EOF` only once the client has them all. -/
theorem clients_receive [DecidableEq ι] (threaded : Threaded stdio) (orderly : stdio.Orderly sound)
    (clients : ι → Stack) (separate : ∀ i, (clients i).Separate)
    (apart : ∀ i j, i ≠ j →
      ∀ cell ∈ (clients i).changed, cell ∉ (clients j).changed ++ (clients j).fixed)
    {fuel : ℕ} (deep : ∀ i, (clients i).levels.length < fuel) (world : World F)
    (built : ∀ i, (clients i).Built world) (fresh : ∀ i, sound (world.files (clients i).file))
    (calls : List (ι × StackCall)) (allowed : ∀ call ∈ calls, (clients call.1).Allows call.2) :
    ∃ replies final, ∃ states : ∀ i, StackState F (clients i).depth,
      (clientStep stdio fuel fun i => (clients i).handle).run world calls = .ok (replies, final) ∧
      (∀ i, (clients i).View stdio final (states i)) ∧
      ∀ i, (∀ call ∈ share i calls, call.Reads) →
        received (share i calls) (share i replies) ++
            stackHeld stdio.unread (clients i).depth (states i) =
          stdio.unread (world.files (clients i).file) ∧
        ∀ earlier reply later, share i replies = earlier ++ reply :: later → reply.err = some eof →
          received (share i calls) (earlier ++ [reply]) = stdio.unread (world.files (clients i).file) := by
  obtain ⟨replies, final, states, ran, together, shares⟩ :=
    run_shares (Together stdio clients world) (fun call => (clients call.1).Allows call.2)
      (clients_step threaded clients separate apart deep) (together_start threaded built) allowed
  refine ⟨replies, final, states, ran, together.1, fun i reads => ⟨?_, ?_⟩⟩
  · exact received_of_run orderly (fresh i) reads (shares i)
  · intro earlier reply later split ended
    have ran := shares i
    rw [split] at ran
    exact received_of_eof orderly (fresh i) reads ran ended

/-- The second client reads its stream of two bytes up to `EOF`. -/
theorem clients_receive_buffered :
    ∃ replies final, ∃ states : ∀ i, StackState BufferedFile (twoStacks i).depth,
      (clientStep bufferedStdio 3 fun i => (twoStacks i).handle).run twoWorld readingCalls =
        .ok (replies, final) ∧
      received (share 1 readingCalls) (share 1 replies) ++
          stackHeld bufferedStdio.unread (twoStacks 1).depth (states 1) = [1, 7] ∧
      ∀ earlier reply later, share 1 replies = earlier ++ reply :: later → reply.err = some eof →
        received (share 1 readingCalls) (earlier ++ [reply]) = [1, 7] := by
  have deep : ∀ i, (twoStacks i).levels.length < 3 := by decide
  obtain ⟨replies, final, states, ran, _, account⟩ := clients_receive bufferedStdio_threaded
    bufferedStdio_orderly twoStacks separate_twoStacks (by decide) deep twoWorld built_twoStacks
    (fun i => openFile_sound _) readingCalls (by decide)
  obtain ⟨whole, atEof⟩ := account 1 (by decide)
  exact ⟨replies, final, states, ran, whole, atEof⟩

/-- The bytes that a client added along its calls. -/
def written (calls : List StackCall) (replies : List Observation) : List UInt8 :=
  (List.zipWith StackCall.added calls replies).flatten

/-- The stream of a client that the world holds has the content that the model gives it. -/
theorem Stack.View.content {stack : Stack} {world : World F} {state : StackState F stack.depth}
    (view : stack.View stdio world state) (appending : stdio.Appending) :
    stdio.content (world.files stack.file) = stdio.content (stackSource stack.depth state) := by
  obtain ⟨errno, holds⟩ := view.holds
  rw [show stackSource stack.depth state = _ from holds.source_eq, World.stream, appending.set_kept]

/-- A stack that was just built is over the stream of its client. -/
theorem stackSource_init {S : Type} (source : S) (areas : List Area) :
    stackSource areas.length (stackInit source areas) = source := by
  induction areas with
  | nil => rfl
  | cons area below ih => exact ih

/-- A client that reads and writes adds what it was told of to its stream. -/
theorem written_of_run (appending : stdio.Appending) {closer : Closer F} {stack : Stack} {world : World F}
    {final : StackState F stack.depth} {calls : List StackCall} {replies : List Observation}
    (transfers : ∀ call ∈ calls, call.Transfers)
    (ran : (stackStep stdio closer stack.depth).run (stack.start world) calls = .ok (replies, final)) :
    stdio.content (stackSource stack.depth final) =
      stdio.content (world.files stack.file) ++ written calls replies := by
  have start : stackSource stack.depth (stack.start world) = world.files stack.file := stackSource_init _ _
  rw [← start]
  apply Machine.added_of_run (fun state => stdio.content (stackSource stack.depth state)) _ transfers ran
  intro state call reply next transfers stepped
  exact stackStep_adds appending transfers stepped

end Xstd.Io.Graph
