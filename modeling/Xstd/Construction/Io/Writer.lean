import Xstd.Construction.Platform

/-
This file defines the Writer, Closer and WriteCloser interfaces.
-/

namespace Xstd.Io

/-- A write leaves the implementation and both output variables behind. -/
structure WriteResult (S : Type) where
  impl : S
  n : Option SizeT
  err : Option Int

/-- The virtual table of `Writer` has one method. -/
structure Writer (S : Type) where
  write : S → List UInt8 → SizeT → Option SizeT → Option Int → Exec (WriteResult S)

/-- `writer_write` calls the method of the table. -/
def writerWrite {S : Type} (writer : Writer S) (impl : S) (p : List UInt8) (pLen : SizeT)
    (n : Option SizeT) (error : Option Int) : Exec (WriteResult S) :=
  writer.write impl p pLen n error

/-- A close leaves the implementation and the output variable behind. -/
structure CloseResult (S : Type) where
  impl : S
  error : Option Int

/-- The virtual table of `Closer` has one method. -/
structure Closer (S : Type) where
  close : S → Option Int → CloseResult S

/-- `closer_close` calls the method of the table. -/
def closerClose {S : Type} (closer : Closer S) (impl : S) (error : Option Int) : CloseResult S :=
  closer.close impl error

/-- `WriteCloser` groups both interfaces over one implementation. -/
structure WriteCloser (S : Type) where
  writer : Writer S
  closer : Closer S

end Xstd.Io
