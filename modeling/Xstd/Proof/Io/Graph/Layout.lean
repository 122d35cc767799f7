import Xstd.Proof.Io.Graph.BufReader

/-
This file proves where a call through an interface of an implementation arrives, wherever the object lies.
-/

namespace Xstd.Io.Graph

open Library

variable {F S : Type} {stdio : Stdio F}

/-- The words lie behind the pointer. -/
def Placed (objects : Objects Word) (ptr : ObjectPtr) (words : List Word) : Prop :=
  ∀ index word, words[index]? = some word → objects.load (ptr.add (8 * index)) = some word

/-- Words inside an object are placed behind the words before them, whatever surrounds them: an object may
be copied by value. -/
theorem placed_inside {objects : Objects Word} {object : ℕ} {before words after : List Word}
    (inside : objects object = before ++ words ++ after) :
    Placed objects ⟨object, 8 * before.length⟩ words := by
  intro index word found
  obtain ⟨within, _⟩ := List.getElem?_eq_some_iff.mp found
  have aligned : (8 * before.length + 8 * index) % 8 = 0 := by omega
  have position : (8 * before.length + 8 * index) / 8 = before.length + index := by omega
  show (if (8 * before.length + 8 * index) % 8 = 0 then
    (objects object)[(8 * before.length + 8 * index) / 8]? else none) = some word
  rw [if_pos aligned, position, inside, List.append_assoc,
    List.getElem?_append_right (Nat.le_add_right _ _), Nat.add_sub_cancel_left,
    List.getElem?_append_left within, found]

theorem Placed.load {objects : Objects Word} {ptr : ObjectPtr} {words : List Word}
    (placed : Placed objects ptr words) {V : Type} (type : WordType Word V) (index : ℕ) {value : V}
    (found : words[index]? = some (type.make value)) :
    type.load objects (ptr.add (8 * index)) = some value := by
  rw [WordType.load, placed index _ found, Option.bind_some, type.read_make]

/-- A list of pairs has its first and second components in turn. -/
theorem pairs_getElem {A B : Type} (first second : A → B) (list : List A) (index : ℕ) :
    (list.flatMap fun value => [first value, second value])[2 * index]? = list[index]?.map first ∧
      (list.flatMap fun value => [first value, second value])[2 * index + 1]? =
        list[index]?.map second := by
  induction list generalizing index with
  | nil => exact ⟨rfl, rfl⟩
  | cons value rest ih =>
      cases index with
      | zero => exact ⟨rfl, rfl⟩
      | succ index => exact ih index

theorem pairs_length {A B : Type} (first second : A → B) (list : List A) :
    (list.flatMap fun value => [first value, second value]).length = 2 * list.length := by
  induction list with
  | nil => rfl
  | cons value rest ih =>
      rw [List.flatMap_cons, List.length_append, ih, List.length_cons, List.length_cons, List.length_cons,
        List.length_nil]
      omega

variable {tables : List Table} {body : List Word} {field : ℕ} {table : Table}

/-- The words of an interface are its table and the distance to the body. -/
theorem ifaceImplInit_iface (body : List Word) (found : tables[field]? = some table) :
    (ifaceImplInit tables body)[2 * field]? = some (.table table) ∧
      (ifaceImplInit tables body)[2 * field + 1]? =
        some (.size (UInt64.ofNat (offsetofIface tables.length - offsetofIface field))) := by
  obtain ⟨inside, _⟩ := List.getElem?_eq_some_iff.mp found
  have pairs := pairs_getElem (fun entry : Table × ℕ => Word.table entry.1)
    (fun entry => .size (UInt64.ofNat (offsetofIface tables.length - offsetofIface entry.2)))
    tables.zipIdx field
  have length := pairs_length (fun entry : Table × ℕ => Word.table entry.1)
    (fun entry => .size (UInt64.ofNat (offsetofIface tables.length - offsetofIface entry.2))) tables.zipIdx
  rw [List.getElem?_zipIdx, found, Nat.zero_add] at pairs
  rw [List.length_zipIdx] at length
  constructor
  · rw [ifaceImplInit, List.getElem?_append_left (by rw [length]; omega)]
    exact pairs.1
  · rw [ifaceImplInit, List.getElem?_append_left (by rw [length]; omega)]
    exact pairs.2

/-- The body comes behind all interfaces. -/
theorem ifaceImplInit_body (tables : List Table) (body : List Word) (index : ℕ) :
    (ifaceImplInit tables body)[2 * tables.length + index]? = body[index]? := by
  have length := pairs_length (fun entry : Table × ℕ => Word.table entry.1)
    (fun entry => .size (UInt64.ofNat (offsetofIface tables.length - offsetofIface entry.2))) tables.zipIdx
  rw [List.length_zipIdx] at length
  rw [ifaceImplInit, List.getElem?_append_right (by rw [length]; omega), length, Nat.add_sub_cancel_left]

/-- The interface of a field and the body of its object. -/
def implIface (object : ObjectPtr) (tables : List Table) (field : ℕ) : Iface :=
  ⟨object.add (offsetofIface field), object.add (offsetofIface tables.length)⟩

/-- Every interface of an implementation calls its own table with the body that all of them share. -/
theorem implIface_reaches {world : World F} {object : ObjectPtr}
    (placed : Placed world.objects object (ifaceImplInit tables body)) (found : tables[field]? = some table)
    (small : offsetofIface tables.length < 2 ^ 64) :
    (implIface object tables field).Reaches world table
      (UInt64.ofNat (offsetofIface tables.length - offsetofIface field)) := by
  obtain ⟨inside, _⟩ := List.getElem?_eq_some_iff.mp found
  obtain ⟨called, shifted⟩ := ifaceImplInit_iface body found
  have called' := placed.load tableWord (2 * field) called
  have shifted' := placed.load sizeWord (2 * field + 1) shifted
  rw [show 8 * (2 * field) = offsetofIface field by rw [offsetofIface]; omega] at called'
  rw [show 8 * (2 * field + 1) = offsetofIface field + 8 by rw [offsetofIface]; omega] at shifted'
  constructor
  · exact called'
  · rw [implIface, ObjectPtr.add_add]
    exact shifted'
  · have forward : offsetofIface field ≤ offsetofIface tables.length := by
      rw [offsetofIface, offsetofIface]
      omega
    have distance := UInt64.toNat_ofNat_of_lt' 
      (Nat.lt_of_le_of_lt (Nat.sub_le _ (offsetofIface field)) small)
    rw [implIface, ObjectPtr.add_add, distance, Nat.add_sub_cancel' forward]

/-- The body of an implementation loads behind its interfaces. -/
theorem body_load {objects : Objects Word} {object : ObjectPtr}
    (placed : Placed objects object (ifaceImplInit tables body)) {V : Type} (type : WordType Word V)
    (index : ℕ) {value : V} (found : body[index]? = some (type.make value)) :
    type.load objects ((object.add (offsetofIface tables.length)).add (8 * index)) = some value := by
  rw [← ifaceImplInit_body tables] at found
  have loaded := placed.load type _ found
  rwa [show 8 * (2 * tables.length + index) = offsetofIface tables.length + 8 * index by
    rw [offsetofIface]; omega, ← ObjectPtr.add_add] at loaded

/-- The constructor of a `BufReader` puts it into the initial state of the model. -/
theorem bufReader_fields {world : World F} {level : Level} {source : ObjectPtr}
    (placed : Placed world.objects level.ptr (bufReader source ⟨level.array, 0⟩ level.area.size))
    (array : world.arrays level.array = level.area.bytes) (reader : S) :
    level.Fields world source (bufReaderInit reader level.area) where
  reaches := by
    show (implIface level.ptr [.bufReaderVtable] 0).Reaches world .bufReaderVtable 16
    exact implIface_reaches placed rfl (by decide)
  reader := body_load placed pointerWord 0 rfl
  buf := body_load placed bytesWord 1 rfl
  bufLen := body_load placed sizeWord 2 rfl
  readErr := body_load placed intWord 3 rfl
  read := body_load placed sizeWord 4 rfl
  write := body_load placed sizeWord 5 rfl
  bytes := array
  valid := bufReaderInit_valid reader level.area

/-- This holds of every interface of every implementation with a stream as its body: `FileReader`,
`FileWriter`, `FileCloser` and the three merged ones. -/
theorem fileImpl_serves {world : World F} {object : ObjectPtr} {file : ℕ}
    (placed : Placed world.objects object (ifaceImplInit tables [.file file]))
    (found : tables[field]? = some table) (small : offsetofIface tables.length < 2 ^ 64) :
    (implIface object tables field).Serves world table file where
  reaches := ⟨_, implIface_reaches placed found small⟩
  loads := body_load placed fileWord 0 rfl

/-- The interface belongs to some implementation over the stream. -/
def Iface.Built (iface : Iface) (world : World F) (table : Table) (file : ℕ) : Prop :=
  ∃ object tables field, Placed world.objects object (ifaceImplInit tables [.file file]) ∧
    tables[field]? = some table ∧ offsetofIface tables.length < 2 ^ 64 ∧
    iface = implIface object tables field

theorem Iface.Built.serves {iface : Iface} {world : World F} {table : Table} {file : ℕ}
    (built : iface.Built world table file) : iface.Serves world table file := by
  obtain ⟨object, tables, field, placed, found, small, rfl⟩ := built
  exact fileImpl_serves placed found small

/-- A `NopCloser` passes itself to a function that ignores it. -/
theorem nopCloser_reaches {world : World F} {iface : Iface}
    (placed : Placed world.objects iface.ptr nopCloser) (same : iface.impl = iface.ptr) :
    iface.Reaches world .nopCloserVtable 0 where
  called := placed.load tableWord 0 rfl
  shifted := placed.load sizeWord 1 rfl
  impl := same

end Xstd.Io.Graph
