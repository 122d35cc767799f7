import Xstd.Library.Representation

/-
This file translates option.h and result.h. An object of their types is the bytes from its start on.
-/

namespace Xstd

open Library

variable {V E : Type}

namespace OptionType

/-- `Option` declares a union, and the members of a union start at its first byte. -/
def offsetofIsSome : ℕ := 0

def offsetofSome : ℕ := 0

/-- The `bool` has no value when its byte is neither 0 nor 1. -/
def optionIsSome (opt : Memory) : Option Bool := boolBytes.load opt offsetofIsSome

def optionIsNone (opt : Memory) : Option Bool := (boolBytes.load opt offsetofIsSome).map not

/-- This is `opt.some`. -/
def optionPayload (type : Representation V) (opt : Memory) : Option V := type.load opt offsetofSome

/-- The initializers are stored in their order, and the other bytes of the object are unspecified. -/
def optionSome (type : Representation V) (unspecified : Memory) (value : V) : Memory :=
  type.store (boolBytes.store unspecified offsetofIsSome true) offsetofSome value

def optionNone (unspecified : Memory) : Memory := boolBytes.store unspecified offsetofIsSome false

end OptionType

namespace ResultType

/-- `Result` declares a struct with `is_ok` first and the union `data` at a multiple of its alignment. -/
structure Layout where
  offsetofData : ℕ
  behind : boolBytes.size ≤ offsetofData

def offsetofIsOk : ℕ := 0

def resultIsOk (res : Memory) : Option Bool := boolBytes.load res offsetofIsOk

def resultIsErr (res : Memory) : Option Bool := (boolBytes.load res offsetofIsOk).map not

/-- This is `res.data.ok`. -/
def resultOkPayload (layout : Layout) (okType : Representation V) (res : Memory) : Option V :=
  okType.load res layout.offsetofData

/-- This is `res.data.err`. -/
def resultErrPayload (layout : Layout) (errType : Representation E) (res : Memory) : Option E :=
  errType.load res layout.offsetofData

def resultOk (layout : Layout) (okType : Representation V) (unspecified : Memory) (value : V) : Memory :=
  okType.store (boolBytes.store unspecified offsetofIsOk true) layout.offsetofData value

def resultError (layout : Layout) (errType : Representation E) (unspecified : Memory) (error : E) :
    Memory :=
  errType.store (boolBytes.store unspecified offsetofIsOk false) layout.offsetofData error

end ResultType

end Xstd
