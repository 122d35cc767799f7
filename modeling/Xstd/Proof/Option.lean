import Xstd.Construction.Option

/-
This file proves when an `Option` keeps its tag and its payload, and that a `Result` always does.
-/

namespace Xstd

open Library

variable {V E : Type}

namespace OptionType

/-- Both tests and the payload of `OptionSome(value)` are right, and no `OptionNone` tests the same. -/
structure Faithful (type : Representation V) (value : V) : Prop where
  isSome : ∀ unspecified, optionIsSome (optionSome type unspecified value) = some true
  notNone : ∀ unspecified, optionIsNone (optionSome type unspecified value) = some false
  payload : ∀ unspecified, optionPayload type (optionSome type unspecified value) = some value
  isNone : ∀ unspecified, optionIsNone (optionNone unspecified) = some true
  apart : ∀ unspecified unspecified', optionIsSome (optionSome type unspecified value) ≠
    optionIsSome (optionNone unspecified')

theorem optionPayload_some (type : Representation V) (unspecified : Memory) (value : V) :
    optionPayload type (optionSome type unspecified value) = some value := type.load_store _ _ value

theorem optionIsSome_none (unspecified : Memory) : optionIsSome (optionNone unspecified) = some false :=
  boolBytes.load_store _ _ false

theorem optionIsNone_none (unspecified : Memory) : optionIsNone (optionNone unspecified) = some true :=
  congrArg (Option.map not) (optionIsSome_none unspecified)

/-- The payload replaces the tag, so the tag is right exactly when the first byte of the payload is 1. -/
theorem optionIsSome_some (type : Representation V) (unspecified : Memory) (value : V) :
    optionIsSome (optionSome type unspecified value) = some true ↔
      (type.encode value).head? = some 1 := by
  have first := type.store_head (boolBytes.store unspecified offsetofIsSome true) offsetofSome value
  rw [first, optionIsSome, boolBytes_load]
  show (if optionSome type unspecified value 0 = 1 then some true else _) = _ ↔
    some (optionSome type unspecified value 0) = some 1
  split
  · rename_i one
    simp only [one]
  · rename_i other
    simp only [Option.some.injEq, other, iff_false]
    split
    · exact fun same => by cases same
    · exact fun same => by cases same

/-- An `Option` is faithful for exactly the payloads whose first byte is 1. -/
theorem option_faithful_iff (type : Representation V) (value : V) :
    Faithful type value ↔ (type.encode value).head? = some 1 := by
  rw [← optionIsSome_some type (fun _ => 0) value]
  constructor
  · exact fun faithful => faithful.isSome _
  · intro tagged
    have isSome : ∀ unspecified, optionIsSome (optionSome type unspecified value) = some true :=
      fun unspecified => (optionIsSome_some type unspecified value).mpr
        ((optionIsSome_some type _ value).mp tagged)
    refine ⟨isSome, fun unspecified => ?_, fun unspecified => optionPayload_some type unspecified value,
      optionIsNone_none, fun unspecified unspecified' => ?_⟩
    · exact congrArg (Option.map not) (isSome unspecified)
    · rw [isSome, optionIsSome_none]
      exact fun same => by cases same

/-- The zero byte as a payload makes the object of `OptionNone`. -/
theorem option_zero_is_none :
    optionSome byteBytes (fun _ => 0) 0 = optionNone (fun _ => 0) ∧
      optionIsNone (optionSome byteBytes (fun _ => 0) 0) = some true := by
  refine ⟨funext fun address => ?_, rfl⟩
  cases address <;> rfl

end OptionType

namespace ResultType

variable (layout : Layout) (okType : Representation V) (errType : Representation E) (unspecified : Memory)

/-- The tag of the struct lies before the union. -/
theorem tag_apart {type : Representation V} :
    (boolBytes.region offsetofIsOk).Disjoint (type.region layout.offsetofData) :=
  Region.disjoint_of_le ((Nat.zero_add _).trans_le layout.behind)

/-- Every value of the struct keeps its tag beside its payload. -/
theorem resultOk_faithful (value : V) :
    resultIsOk (resultOk layout okType unspecified value) = some true ∧
      resultIsErr (resultOk layout okType unspecified value) = some false ∧
      resultOkPayload layout okType (resultOk layout okType unspecified value) = some value := by
  have tag : resultIsOk (resultOk layout okType unspecified value) = some true := by
    rw [resultIsOk, resultOk, Representation.load_store_apart (tag_apart layout)]
    exact boolBytes.load_store _ _ true
  exact ⟨tag, congrArg (Option.map not) tag, okType.load_store _ _ value⟩

theorem resultError_faithful (error : E) :
    resultIsOk (resultError layout errType unspecified error) = some false ∧
      resultIsErr (resultError layout errType unspecified error) = some true ∧
      resultErrPayload layout errType (resultError layout errType unspecified error) = some error := by
  have tag : resultIsOk (resultError layout errType unspecified error) = some false := by
    rw [resultIsOk, resultError, Representation.load_store_apart (tag_apart layout)]
    exact boolBytes.load_store _ _ false
  exact ⟨tag, congrArg (Option.map not) tag, errType.load_store _ _ error⟩

end ResultType

end Xstd
