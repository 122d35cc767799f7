import Xstd.Construction.Io.Stdio
import Xstd.Library.ObjectMemory

/-
This file translates the adapters of io to objects in memory: iface.h lays them out, and every call goes
through the virtual table and the offset that it finds there.
-/

namespace Xstd.Io.Graph

open Library

inductive Table where
  | fileReaderVtable
  | bufReaderVtable
  | fileWriterVtable
  | fileCloserVtable
  | nopCloserVtable
  deriving DecidableEq, Repr

/-- A word is a number, a pointer to bytes, a pointer to an object, a table, or a `FILE *`. -/
inductive Word where
  | size (value : SizeT)
  | int (value : Int)
  | bytes (value : ObjectPtr)
  | pointer (value : ObjectPtr)
  | table (value : Table)
  | file (value : ℕ)
  deriving DecidableEq, Repr

def sizeWord : WordType Word SizeT where
  make := .size
  read | .size value => some value
       | _ => none
  read_make _ := rfl

def intWord : WordType Word Int where
  make := .int
  read | .int value => some value
       | _ => none
  read_make _ := rfl

def bytesWord : WordType Word ObjectPtr where
  make := .bytes
  read | .bytes value => some value
       | _ => none
  read_make _ := rfl

def pointerWord : WordType Word ObjectPtr where
  make := .pointer
  read | .pointer value => some value
       | _ => none
  read_make _ := rfl

def tableWord : WordType Word Table where
  make := .table
  read | .table value => some value
       | _ => none
  read_make _ := rfl

def fileWord : WordType Word ℕ where
  make := .file
  read | .file value => some value
       | _ => none
  read_make _ := rfl

/-- The objects and arrays of the program, its open streams and the `errno` of its thread. -/
structure World (F : Type) where
  objects : Objects Word
  arrays : ℕ → List UInt8
  files : ℕ → F
  errno : Int

/-- An access that finds no word of its type has no defined behaviour. -/
def defined {A : Type} : Option A → Exec A
  | some value => .ok value
  | none => .error .outOfBounds

section Memory

variable {F V : Type}

def World.load (world : World F) (type : WordType Word V) (ptr : ObjectPtr) : Exec V :=
  defined (type.load world.objects ptr)

def World.assign (world : World F) (type : WordType Word V) (pointer : Option ObjectPtr) (value : V) :
    Exec (World F) :=
  (defined (type.assign world.objects pointer value)).map fun objects => { world with objects := objects }

/-- This is `memcpy` of some bytes to a place in an array. -/
def World.fill (world : World F) (p : ObjectPtr) (bytes : List UInt8) (start count : ℕ) :
    Exec (World F) :=
  (memcpy (world.arrays p.object) p.offset bytes start count).map fun array =>
    { world with arrays := Function.update world.arrays p.object array }

/-- A library call sees the `errno` of the thread. -/
def World.stream (world : World F) (stdio : Stdio F) (file : ℕ) : F :=
  stdio.setErrno (world.files file) world.errno

def World.setStream (world : World F) (stdio : Stdio F) (file : ℕ) (f : F) : World F :=
  { world with files := Function.update world.files file f, errno := stdio.errno f }

end Memory

variable {F : Type}

/-- This is `iface_call`: the callback of the table receives the interface plus its offset. -/
def ifaceCall (world : World F) (iface : ObjectPtr) : Exec (Table × ObjectPtr) := do
  let table ← world.load tableWord iface
  let offset ← world.load sizeWord (iface.add 8)
  return (table, iface.add offset.toNat)

/-- Both file adapters report a transfer in this way. -/
def reportTransfer (stdio : Stdio F) (world : World F) (file : ℕ) (count : ℕ)
    (n error : Option ObjectPtr) : Exec (World F) := do
  let world ← world.assign sizeWord n (UInt64.ofNat count)
  match error with
  | none => return world
  | some _ =>
      let f := world.stream stdio file
      let code := if count = 0 ∧ stdio.feof f then eof else stdio.errno f
      let world ← world.assign intWord error code
      return world.setStream stdio file (stdio.clearerr f)

def fileReaderRead (stdio : Stdio F) (world : World F) (impl p : ObjectPtr) (pLen : SizeT)
    (n error : Option ObjectPtr) : Exec (World F) := do
  let file ← world.load fileWord impl
  let (bytes, f) := stdio.fread (world.stream stdio file) pLen
  let world ← (world.setStream stdio file f).fill p bytes 0 bytes.length
  reportTransfer stdio world file bytes.length n error

def fileWriterWrite (stdio : Stdio F) (world : World F) (impl p : ObjectPtr) (pLen : SizeT)
    (n error : Option ObjectPtr) : Exec (World F) := do
  let file ← world.load fileWord impl
  let array := (world.arrays p.object).drop p.offset
  if pLen.toNat ≤ array.length then
    let (write, f) := stdio.fwrite (world.stream stdio file) (array.take pLen.toNat)
    reportTransfer stdio (world.setStream stdio file f) file write n error
  else
    .error .outOfBounds

def fileCloserClose (stdio : Stdio F) (world : World F) (impl : ObjectPtr) (error : Option ObjectPtr) :
    Exec (World F) := do
  let file ← world.load fileWord impl
  let (result, f) := stdio.fclose (world.stream stdio file)
  let world := world.setStream stdio file f
  if result = 0 then world.assign intWord error world.errno else return world

/-- `nop_closer_close` ignores both of its arguments. -/
def nopCloserClose (world : World F) (_impl : ObjectPtr) (_error : Option ObjectPtr) : Exec (World F) :=
  return world

/-- The body of a `BufReader` has the fields `reader`, `buf`, `buf_len`, `read_err`, `read` and `write`. -/
def bufReaderCopy (world : World F) (b : ObjectPtr) (buffered : SizeT) (p : ObjectPtr) (pLen : SizeT)
    (n : Option ObjectPtr) : Exec (World F) := do
  let copied := if buffered < pLen then buffered else pLen
  let buf ← world.load bytesWord (b.add 8)
  let write ← world.load sizeWord (b.add 40)
  let world ← world.fill p (world.arrays buf.object) (buf.offset + write.toNat) copied.toNat
  let world ← world.assign sizeWord (some (b.add 40)) (write + copied)
  world.assign sizeWord n copied

/-- The outputs of the source are the fields `read` and `read_err` of the same object. -/
def bufReaderRead (source : World F → ObjectPtr → ObjectPtr → SizeT → Option ObjectPtr →
    Option ObjectPtr → Exec (World F)) (world : World F) (b p : ObjectPtr) (pLen : SizeT)
    (n err : Option ObjectPtr) : Exec (World F) := do
  if pLen = 0 then
    return world
  else
    let buffered := (← world.load sizeWord (b.add 32)) - (← world.load sizeWord (b.add 40))
    if buffered ≤ 0 then
      let readErr ← world.load intWord (b.add 24)
      if readErr ≠ 0 then
        let world ← world.assign sizeWord n 0
        world.assign intWord err readErr
      else
        let bufLen ← world.load sizeWord (b.add 16)
        let reader ← world.load pointerWord b
        if pLen > bufLen then
          source world reader p pLen n err
        else
          let world ← world.assign sizeWord (some (b.add 32)) 0
          let world ← world.assign sizeWord (some (b.add 40)) 0
          let buf ← world.load bytesWord (b.add 8)
          let world ← source world reader buf bufLen (some (b.add 32)) (some (b.add 24))
          let read ← world.load sizeWord (b.add 32)
          if read = 0 then
            let readErr ← world.load intWord (b.add 24)
            world.assign intWord err readErr
          else
            bufReaderCopy world b read p pLen n
    else
      bufReaderCopy world b buffered p pLen n

/-- `reader_read` calls itself through a `BufReader`, once for each level that the call descends. -/
def readerRead (stdio : Stdio F) : ℕ → World F → ObjectPtr → ObjectPtr → SizeT → Option ObjectPtr →
    Option ObjectPtr → Exec (World F)
  | 0, _, _, _, _, _, _ => .error .outOfFuel
  | fuel + 1, world, reader, p, pLen, n, err => do
      match ← ifaceCall world reader with
      | (.fileReaderVtable, impl) => fileReaderRead stdio world impl p pLen n err
      | (.bufReaderVtable, impl) => bufReaderRead (readerRead stdio fuel) world impl p pLen n err
      | _ => .error .outOfBounds

def writerWrite (stdio : Stdio F) (world : World F) (writer p : ObjectPtr) (pLen : SizeT)
    (n error : Option ObjectPtr) : Exec (World F) := do
  match ← ifaceCall world writer with
  | (.fileWriterVtable, impl) => fileWriterWrite stdio world impl p pLen n error
  | _ => .error .outOfBounds

def closerClose (stdio : Stdio F) (world : World F) (closer : ObjectPtr) (error : Option ObjectPtr) :
    Exec (World F) := do
  match ← ifaceCall world closer with
  | (.fileCloserVtable, impl) => fileCloserClose stdio world impl error
  | (.nopCloserVtable, impl) => nopCloserClose world impl error
  | _ => .error .outOfBounds

section Layout

def offsetofIface (field : ℕ) : ℕ := 16 * field

/-- This is `iface_impl_init` for every interface of an implementation, whose body comes behind them. -/
def ifaceImplInit (tables : List Table) (body : List Word) : List Word :=
  (tables.zipIdx.flatMap fun (table, field) =>
    [.table table, .size (UInt64.ofNat (offsetofIface tables.length - offsetofIface field))]) ++ body

/-- This is `iface_empty_impl_init`. -/
def ifaceEmptyImplInit (table : Table) : List Word := [.table table, .size 0]

def fileReader (f : ℕ) : List Word := ifaceImplInit [.fileReaderVtable] [.file f]

def fileWriter (f : ℕ) : List Word := ifaceImplInit [.fileWriterVtable] [.file f]

def fileCloser (f : ℕ) : List Word := ifaceImplInit [.fileCloserVtable] [.file f]

def nopCloser : List Word := ifaceEmptyImplInit .nopCloserVtable

def fileReadCloser (f : ℕ) : List Word := ifaceImplInit [.fileReaderVtable, .fileCloserVtable] [.file f]

def fileReadWriter (f : ℕ) : List Word := ifaceImplInit [.fileReaderVtable, .fileWriterVtable] [.file f]

def fileWriteCloser (f : ℕ) : List Word := ifaceImplInit [.fileWriterVtable, .fileCloserVtable] [.file f]

def bufReader (r buf : ObjectPtr) (bufLen : SizeT) : List Word :=
  ifaceImplInit [.bufReaderVtable] [.pointer r, .bytes buf, .size bufLen, .int 0, .size 0, .size 0]

end Layout

end Xstd.Io.Graph
