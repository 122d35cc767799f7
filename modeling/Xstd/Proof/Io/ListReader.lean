import Xstd.Proof.Io.Reader

/-
This file gives two small sources. One serves a list and reports `EOF` together with its last bytes, and
the other answers its calls from a script.
-/

namespace Xstd.Io

open Library

def listReader : Reader (List UInt8) where
  read rest p pLen n err :=
    let chunk := rest.take pLen.toNat
    .ok ⟨rest.drop pLen.toNat, chunk ++ p.drop chunk.length, store n (UInt64.ofNat chunk.length),
      store err (if rest.length ≤ pLen.toNat then eof else 0)⟩

theorem listReader_count (rest : List UInt8) (pLen : SizeT) :
    (UInt64.ofNat (rest.take pLen.toNat).length).toNat = (rest.take pLen.toNat).length := by
  apply UInt64.toNat_ofNat_of_lt'
  have bound : pLen.toNat < UInt64.size := pLen.toNat_lt
  simp only [List.length_take]
  omega

theorem listReader_stored (rest : List UInt8) (pLen : SizeT) :
    UInt64.ofNat (rest.take pLen.toNat).length ≤ pLen := by
  rw [UInt64.le_iff_toNat_le, listReader_count, List.length_take]
  exact Nat.min_le_left _ _

theorem listReader_sized (rest p : List UInt8) (pLen : SizeT) (room : pLen.toNat ≤ p.length) :
    (rest.take pLen.toNat ++ p.drop (rest.take pLen.toNat).length).length = p.length := by
  simp only [List.length_append, List.length_drop, List.length_take]
  omega

theorem listReader_conforming : Conforming listReader where
  reports rest p pLen _ _ room :=
    ⟨_, _, _, rfl, rfl, rfl, listReader_stored rest pLen, listReader_sized rest p pLen room⟩

theorem listReader_pull (rest : List UInt8) (request : NonemptyRequest) :
    pullNonempty listReader rest request =
      .ok ((rest.take request.pLen.toNat, if rest.length ≤ request.pLen.toNat then eof else 0),
        rest.drop request.pLen.toNat) := by
  exact pull_of_chunk rfl (List.length_take_le _ _)

/-- The list is delivered whole, whatever the request lengths are. -/
theorem listReader_delivers (data : List UInt8) :
    Pull.Delivers (pullNonempty listReader) data data eof := by
  induction length : data.length using Nat.strong_induction_on generalizing data with
  | _ size ih =>
      apply Pull.delivers_of_step
      intro request
      have positive := request.positive
      refine ⟨_, _, _, listReader_pull data request, ?_⟩
      by_cases last : data.length ≤ request.pLen.toNat
      · right
        rw [if_pos last, List.take_of_length_le last, List.drop_of_length_le last]
        refine ⟨rfl, rfl, ?_⟩
        apply Pull.finished_of_invariant (· = [])
        · intro state later empty
          subst empty
          exact ⟨[], by rw [listReader_pull]; simp, rfl⟩
        · rfl
      · left
        rw [if_neg last]
        refine ⟨rfl, data.drop request.pLen.toNat, (List.take_append_drop _ _).symm, ?_⟩
        exact ih (data.drop request.pLen.toNat).length (by rw [List.length_drop]; omega) _ rfl

/-- Each call takes the next entry of the script, and `EOF` follows the last one. -/
def scriptReader : Reader (List (List UInt8 × Int)) where
  read
    | [], p, _, n, err => .ok ⟨[], p, store n 0, store err eof⟩
    | (bytes, code) :: rest, p, pLen, n, err =>
        let chunk := bytes.take pLen.toNat
        .ok ⟨rest, chunk ++ p.drop chunk.length, store n (UInt64.ofNat chunk.length), store err code⟩

theorem scriptReader_conforming : Conforming scriptReader where
  reports script p pLen _ _ room :=
    match script with
    | [] => ⟨_, _, _, rfl, rfl, rfl, UInt64.zero_le, rfl⟩
    | (bytes, _) :: _ =>
        ⟨_, _, _, rfl, rfl, rfl, listReader_stored bytes pLen, listReader_sized bytes p pLen room⟩

end Xstd.Io
