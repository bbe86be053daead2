/-!
Contract: the arithmetic that meshes, operators and accumulators are computed in.

Owns:
- the operations a scalar type has to offer, and nothing about their laws;
- the reasons for which a scalar has no neighbouring whole number;
- the reading of a scalar as a 64-bit integer.

Does not own: the two instances, which are the doubles that runs use and the
rationals that exact statements use.
-/

namespace Regrid

/-- Why a scalar has no neighbouring whole number. -/
inductive NotWhole where
  | notANumber
  | infinite
  deriving DecidableEq, Repr

/-- A scalar type: field operations, order tests and conversions.

`unknown` stands for a quantity that was never measured. `truncate` rounds
toward zero and `roundEven` to the nearest whole number, a half going to the even
neighbour; both fail only where no whole number is near. -/
class Scalar (α : Type) extends Add α, Sub α, Mul α, Div α, Neg α where
  ofInt : Int → α
  abs : α → α
  equal : α → α → Bool
  below : α → α → Bool
  atMost : α → α → Bool
  unknown : α
  truncate : α → Except NotWhole Int
  roundEven : α → Except NotWhole Int
  text : α → String

namespace Scalar

variable {α : Type} [Scalar α]

def zero : α := ofInt 0

def one : α := ofInt 1

/-- A scalar that equals zero, whatever its sign. -/
def isZero (x : α) : Bool := equal x zero

/-- The least integer of 64 bits. -/
def leastInt64 : Int := -0x8000000000000000

/-- The integer of 64 bits that a scalar is stored as: its truncation, and the
least such integer when the truncation does not fit or does not exist. -/
def toInt64 (x : α) : Int :=
  match truncate x with
  | .ok n => if leastInt64 ≤ n ∧ n < -leastInt64 then n else leastInt64
  | .error _ => leastInt64

end Scalar

end Regrid
