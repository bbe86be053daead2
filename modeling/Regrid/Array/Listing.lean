import Regrid.Array.Tensor
import Regrid.Value.Sequence

/-!
Contract: arrays as the values that list them.

Owns: reading nested rows from a value, and the value that lists an array.

A list is a row and anything else an item, so the nesting of a value is the nesting of
the array that it stands for.
-/

namespace Regrid

namespace Nested

variable {τ : Type}

mutual

def ofValue (item : Value → Except Error τ) : Value → Except Error (Nested τ)
  | .list parts => do return rows (← ofValues item parts)
  | value => do return Nested.item (← item value)

/-- The nested rows that each value of a list lists. -/
def ofValues (item : Value → Except Error τ) : List Value → Except Error (List (Nested τ))
  | [] => .ok []
  | part :: rest => do return (← ofValue item part) :: (← ofValues item rest)

end

mutual

def toValue (item : τ → Value) : Nested τ → Value
  | .item x => item x
  | .rows parts => .list (toValues item parts)

def toValues (item : τ → Value) : List (Nested τ) → List Value
  | [] => []
  | part :: rest => toValue item part :: toValues item rest

end

end Nested

/-- An integer that fits 64 bits. -/
def word (n : Int) : Except Error Int :=
  if Scalar.leastInt64 ≤ n ∧ n < -Scalar.leastInt64 then .ok n else .error .numberTooLarge

def Tensor.ofValue {τ : Type} (item : Value → Except Error τ) (value : Value) :
    Except Error (Tensor τ) := do
  (← Nested.ofValue item value).toTensor

def Tensor.ofReals (value : Value) : Except Error (Tensor Float) :=
  Tensor.ofValue Value.toReal value

/-- The array of integers of 64 bits that a value lists. -/
def Tensor.ofWords (value : Value) : Except Error (Tensor Int) :=
  Tensor.ofValue (fun item => do word (← item.toInteger)) value

def Tensor.toValue {τ : Type} (item : τ → Value) (tensor : Tensor τ) : Value :=
  tensor.nested.toValue item

end Regrid
