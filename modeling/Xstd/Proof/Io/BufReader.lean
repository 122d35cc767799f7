import Xstd.Construction.Io.BufReader
import Xstd.Library.Words

/-
This file describes each path of `buf_reader_read` by the data that the buffer holds.
-/

namespace Xstd.Io

open Library

variable {S : Type}

/-- The window `buf[write .. read)` holds the bytes that the caller has not received yet. -/
def BufReader.window (b : BufReader S) : List UInt8 := (b.buf.take b.read.toNat).drop b.write.toNat

/-- The cursors are ordered and stay inside the array. -/
structure BufReader.Valid (b : BufReader S) : Prop where
  ordered : b.write ≤ b.read
  within : b.read ≤ b.bufLen
  sized : b.buf.length = b.bufLen.toNat

/-- The state after a copy that serves a request for `pLen` bytes. -/
def BufReader.advance (b : BufReader S) (pLen : SizeT) : BufReader S :=
  { b with write := b.write + (if b.read - b.write < pLen then b.read - b.write else pLen) }

/-- Another state of the wrapped reader leaves the buffer as it is. -/
def BufReader.withReader {T : Type} (b : BufReader S) (reader : T) : BufReader T :=
  { b with reader := reader }

@[simp] theorem BufReader.withReader_window {T : Type} (b : BufReader S) (reader : T) :
    (b.withReader reader).window = b.window := rfl

theorem BufReader.Valid.withReader_valid {T : Type} {b : BufReader S} (valid : b.Valid)
    (reader : T) : (b.withReader reader).Valid := ⟨valid.ordered, valid.within, valid.sized⟩

theorem bufReaderInit_valid (source : S) (area : Area) : (bufReaderInit source area).Valid where
  ordered := UInt64.le_refl _
  within := UInt64.zero_le
  sized := area.sized

@[simp] theorem bufReaderInit_window (source : S) (area : Area) :
    (bufReaderInit source area).window = [] := by
  simp [BufReader.window, bufReaderInit]

theorem BufReader.Valid.bounds {b : BufReader S} (valid : b.Valid) :
    b.write.toNat ≤ b.read.toNat ∧ b.read.toNat ≤ b.buf.length := by
  constructor
  · exact UInt64.le_iff_toNat_le.mp valid.ordered
  · rw [valid.sized]
    exact UInt64.le_iff_toNat_le.mp valid.within

theorem BufReader.Valid.window_length {b : BufReader S} (valid : b.Valid) :
    b.window.length = b.read.toNat - b.write.toNat := by
  have bounds := valid.bounds
  simp only [BufReader.window, List.length_drop, List.length_take]
  omega

/-- The subtraction of the cursors never underflows. -/
theorem BufReader.Valid.buffered_toNat {b : BufReader S} (valid : b.Valid) :
    (bufReaderBuffered b).toNat = b.window.length := by
  rw [valid.window_length, bufReaderBuffered, UInt64.toNat_sub_of_le _ _ valid.ordered]

/-- The test `buffered <= 0` decides whether the window is empty. -/
theorem BufReader.Valid.buffered_le_zero {b : BufReader S} (valid : b.Valid) :
    b.read - b.write ≤ 0 ↔ b.window = [] := by
  have counted := valid.buffered_toNat
  rw [bufReaderBuffered] at counted
  rw [UInt64.le_iff_toNat_le, counted, ← List.length_eq_zero_iff]
  exact Nat.le_zero

/-- A copy moves the write cursor by the served length. -/
theorem BufReader.Valid.advance_write {b : BufReader S} (valid : b.Valid) (pLen : SizeT) :
    (b.advance pLen).write.toNat = b.write.toNat + min b.window.length pLen.toNat := by
  have bounds := valid.bounds
  have total := b.read.toNat_lt
  rw [valid.window_length]
  simp only [BufReader.advance, UInt64.toNat_add, toNat_smaller,
    UInt64.toNat_sub_of_le _ _ valid.ordered]
  omega

theorem BufReader.Valid.advance_valid {b : BufReader S} (valid : b.Valid) (pLen : SizeT) :
    (b.advance pLen).Valid where
  ordered := by
    have bounds := valid.bounds
    rw [UInt64.le_iff_toNat_le, valid.advance_write, valid.window_length]
    change _ ≤ b.read.toNat
    omega
  within := valid.within
  sized := valid.sized

/-- A copy takes its bytes from the front of the window. -/
theorem BufReader.Valid.advance_window {b : BufReader S} (valid : b.Valid) (pLen : SizeT) :
    (b.advance pLen).window = b.window.drop pLen.toNat := by
  have served : b.window.drop (min b.window.length pLen.toNat) = b.window.drop pLen.toNat := by
    rcases Nat.le_total b.window.length pLen.toNat with short | long
    · rw [Nat.min_eq_left short, List.drop_length, List.drop_of_length_le short]
    · rw [Nat.min_eq_right long]
  rw [← served, BufReader.window, valid.advance_write, ← List.drop_drop]
  rfl

/-- The tail of the read serves the front of the window and stays inside the window. -/
theorem bufReaderCopy_eq {b : BufReader S} (valid : b.Valid) (p : List UInt8) (pLen : SizeT)
    (room : pLen.toNat ≤ p.length) (n : Option SizeT) (err : Option Int) :
    bufReaderCopy b (b.read - b.write) p pLen n err =
      .ok ⟨b.advance pLen, b.window.take pLen.toNat ++ p.drop (min b.window.length pLen.toNat),
        store n (UInt64.ofNat (min b.window.length pLen.toNat)), err⟩ := by
  have bounds := valid.bounds
  have counted : (if b.read - b.write < pLen then b.read - b.write else pLen).toNat =
      min b.window.length pLen.toNat := by
    rw [toNat_smaller, valid.window_length, UInt64.toNat_sub_of_le _ _ valid.ordered]
  have length := valid.window_length
  have chunk : ((b.buf.take b.read.toNat).drop b.write.toNat).take (min b.window.length pLen.toNat) =
      b.window.take pLen.toNat := by
    rw [← BufReader.window, Nat.min_comm, ← List.take_take, List.take_length]
  have inside : b.write.toNat + min b.window.length pLen.toNat ≤ (b.buf.take b.read.toNat).length ∧
      0 + min b.window.length pLen.toNat ≤ p.length := by
    simp only [List.length_take]
    omega
  have word : UInt64.ofNat (min b.window.length pLen.toNat) =
      (if b.read - b.write < pLen then b.read - b.write else pLen) := by
    rw [← counted, UInt64.ofNat_toNat]
  simp only [bufReaderCopy, memcpy, counted]
  rw [if_pos inside, chunk, word, Nat.zero_add]
  rfl

/-- An empty request returns at once and writes neither output. -/
theorem bufReaderRead_empty (reader : Reader S) (b : BufReader S) (p : List UInt8)
    (n : Option SizeT) (err : Option Int) :
    bufReaderRead reader b p 0 n err = .ok ⟨b, p, n, err⟩ := rfl

/-- Buffered data is served first, and the source is not called. -/
theorem bufReaderRead_drain (reader : Reader S) {b : BufReader S} (valid : b.Valid)
    (held : b.window ≠ []) (p : List UInt8) {pLen : SizeT} (nonempty : pLen ≠ 0)
    (room : pLen.toNat ≤ p.length) (n : Option SizeT) (err : Option Int) :
    bufReaderRead reader b p pLen n err =
      .ok ⟨b.advance pLen, b.window.take pLen.toNat ++ p.drop (min b.window.length pLen.toNat),
        store n (UInt64.ofNat (min b.window.length pLen.toNat)), err⟩ := by
  have filled : ¬b.read - b.write ≤ 0 := fun empty => held (valid.buffered_le_zero.mp empty)
  rw [bufReaderRead, if_neg nonempty]
  simp only [if_neg filled]
  exact bufReaderCopy_eq valid p pLen room n err

/-- A recorded error is reported once the window is empty. -/
theorem bufReaderRead_sticky (reader : Reader S) {b : BufReader S} (valid : b.Valid)
    (drained : b.window = []) (failed : b.readErr ≠ 0) (p : List UInt8) {pLen : SizeT}
    (nonempty : pLen ≠ 0) (n : Option SizeT) (err : Option Int) :
    bufReaderRead reader b p pLen n err = .ok ⟨b, p, store n 0, store err b.readErr⟩ := by
  rw [bufReaderRead, if_neg nonempty]
  simp only [if_pos (valid.buffered_le_zero.mpr drained), if_pos failed]

/-- A request above the array length goes to the source with the outputs of the caller. -/
theorem bufReaderRead_bypass (reader : Reader S) {b : BufReader S} (valid : b.Valid)
    (drained : b.window = []) (clear : b.readErr = 0) {p : List UInt8} {pLen : SizeT}
    (large : b.bufLen < pLen) {n : Option SizeT} {err : Option Int} {result : ReadResult S}
    (called : readerRead reader b.reader p pLen n err = .ok result) :
    bufReaderRead reader b p pLen n err =
      .ok ⟨b.withReader result.impl, result.p, result.n, result.err⟩ := by
  have nonempty : pLen ≠ 0 := by
    intro zero
    subst zero
    exact absurd large (UInt64.not_lt.mpr UInt64.zero_le)
  rw [bufReaderRead, if_neg nonempty]
  simp only [if_pos (valid.buffered_le_zero.mpr drained), if_neg (not_not.mpr clear),
    if_pos (show pLen > b.bufLen from large), called]
  rfl

/-- The state after the source has filled the array. -/
def BufReader.refilled (b : BufReader S) (result : ReadResult S) : BufReader S :=
  { b with
    reader := result.impl
    buf := result.p
    readErr := result.err.getD b.readErr
    read := result.n.getD 0
    write := 0 }

/-- A refill within the contract leaves a valid state. -/
theorem BufReader.refilled_valid {b : BufReader S} {result : ReadResult S}
    (stored : result.n.getD 0 ≤ b.bufLen) (sized : result.p.length = b.bufLen.toNat) :
    (b.refilled result).Valid where
  ordered := UInt64.zero_le
  within := stored
  sized := sized

@[simp] theorem BufReader.refilled_window (b : BufReader S) (result : ReadResult S) :
    (b.refilled result).window = result.p.take (result.n.getD 0).toNat := by
  simp [BufReader.window, BufReader.refilled]

/-- A refill without data reports the error and leaves `*n` alone. -/
theorem bufReaderRead_dry (reader : Reader S) {b : BufReader S} (valid : b.Valid)
    (drained : b.window = []) (clear : b.readErr = 0) (p : List UInt8) {pLen : SizeT}
    (nonempty : pLen ≠ 0) (small : pLen ≤ b.bufLen) (n : Option SizeT) (err : Option Int)
    {result : ReadResult S}
    (called : readerRead reader b.reader b.buf b.bufLen (some 0) (some 0) = .ok result)
    (dry : result.n.getD 0 = 0) :
    bufReaderRead reader b p pLen n err =
      .ok ⟨b.refilled result, p, n, store err (b.refilled result).readErr⟩ := by
  rw [bufReaderRead, if_neg nonempty]
  simp only [if_pos (valid.buffered_le_zero.mpr drained), if_neg (not_not.mpr clear),
    if_neg (show ¬pLen > b.bufLen from UInt64.not_lt.mpr small)]
  rw [clear, called]
  simp only [dry, if_true, BufReader.refilled, clear]

/-- A refill with data serves the request from the filled array. -/
theorem bufReaderRead_refill (reader : Reader S) {b : BufReader S} (valid : b.Valid)
    (drained : b.window = []) (clear : b.readErr = 0) (p : List UInt8) {pLen : SizeT}
    (nonempty : pLen ≠ 0) (small : pLen ≤ b.bufLen) (n : Option SizeT) (err : Option Int)
    {result : ReadResult S}
    (called : readerRead reader b.reader b.buf b.bufLen (some 0) (some 0) = .ok result)
    (wet : result.n.getD 0 ≠ 0) :
    bufReaderRead reader b p pLen n err =
      bufReaderCopy (b.refilled result) ((b.refilled result).read - (b.refilled result).write)
        p pLen n err := by
  rw [bufReaderRead, if_neg nonempty]
  simp only [if_pos (valid.buffered_le_zero.mpr drained), if_neg (not_not.mpr clear),
    if_neg (show ¬pLen > b.bufLen from UInt64.not_lt.mpr small)]
  rw [clear, called]
  simp only [if_neg wet, BufReader.refilled, clear, UInt64.sub_zero]

end Xstd.Io
