import Xstd.Construction.Io.Reader

/-
This file translates io/buf_reader.h.
-/

namespace Xstd.Io

/-- The body of `BufReader` holds the wrapped reader, its array, the recorded error and two cursors. -/
structure BufReader (S : Type) where
  reader : S
  buf : List UInt8
  bufLen : SizeT
  readErr : Int
  read : SizeT
  write : SizeT

def bufReaderInit {S : Type} (reader : S) (area : Area) : BufReader S where
  reader := reader
  buf := area.bytes
  bufLen := area.size
  readErr := 0
  read := 0
  write := 0

def bufReaderBuffered {S : Type} (b : BufReader S) : SizeT := b.read - b.write

/-- The tail of `buf_reader_read` copies buffered data and never writes `*err`. -/
def bufReaderCopy {S : Type} (b : BufReader S) (buffered : SizeT) (p : List UInt8) (pLen : SizeT)
    (n : Option SizeT) (err : Option Int) : Exec (ReadResult (BufReader S)) :=
  let copied := if buffered < pLen then buffered else pLen
  -- Only `buf[0 .. read)` holds data, so a copy that leaves it is a fault here.
  match memcpy p 0 (b.buf.take b.read.toNat) b.write.toNat copied.toNat with
  | .error fault => .error fault
  | .ok p => .ok ⟨{ b with write := b.write + copied }, p, store n copied, err⟩

def bufReaderRead {S : Type} (reader : Reader S) (b : BufReader S) (p : List UInt8) (pLen : SizeT)
    (n : Option SizeT) (err : Option Int) : Exec (ReadResult (BufReader S)) :=
  if pLen = 0 then
    .ok ⟨b, p, n, err⟩
  else
    let buffered := b.read - b.write
    if buffered ≤ 0 then
      if b.readErr ≠ 0 then
        .ok ⟨b, p, store n 0, store err b.readErr⟩
      else if pLen > b.bufLen then
        match readerRead reader b.reader p pLen n err with
        | .error fault => .error fault
        | .ok result => .ok ⟨{ b with reader := result.impl }, result.p, result.n, result.err⟩
      else
        -- The source receives `&b->read`, just reset to 0, and `&b->read_err`, which is 0 here.
        match readerRead reader b.reader b.buf b.bufLen (some 0) (some b.readErr) with
        | .error fault => .error fault
        | .ok result =>
            let b := { b with
              reader := result.impl
              buf := result.p
              readErr := result.err.getD b.readErr
              read := result.n.getD 0
              write := 0 }
            if b.read = 0 then
              .ok ⟨b, p, n, store err b.readErr⟩
            else
              bufReaderCopy b b.read p pLen n err
    else
      bufReaderCopy b buffered p pLen n err

/-- A `BufReader` implements `Reader` over the reader that it wraps. -/
def bufReader {S : Type} (reader : Reader S) : Reader (BufReader S) where
  read := bufReaderRead reader

/-- A stack of readers has one `BufReader` for each level. -/
def StackState (S : Type) : Nat → Type
  | 0 => S
  | depth + 1 => BufReader (StackState S depth)

def stackReader {S : Type} (reader : Reader S) : (depth : Nat) → Reader (StackState S depth)
  | 0 => reader
  | depth + 1 => bufReader (stackReader reader depth)

/-- The list gives the array of each level, and its head is the top. -/
def stackInit {S : Type} (source : S) : (areas : List Area) → StackState S areas.length
  | [] => source
  | area :: below => bufReaderInit (stackInit source below) area

end Xstd.Io
