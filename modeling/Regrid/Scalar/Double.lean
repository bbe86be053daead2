import Regrid.Decimal.Layout
import Regrid.Scalar

/-!
Contract: doubles as scalars, which is what runs compute in.

Owns: the instance, with whole-number conversions and text that work on the exact
value of the double.
-/

namespace Regrid

/-- The whole number a finite double is taken to by a rule for quotients. -/
def Binary64.whole (rule : Nat → Nat → Nat) : Binary64 → Except NotWhole Int
  | .notANumber => .error .notANumber
  | .infinite _ => .error .infinite
  | .finite negative significand exponent =>
    let (numerator, denominator) := Binary64.quotient significand exponent
    .ok (Binary64.signed negative (rule numerator denominator))

/-- Doubles with the operations of the processor; an unmeasured quantity is
not-a-number. -/
instance : Scalar Float where
  ofInt := Float.ofInt
  abs := Float.abs
  equal := fun x y => x == y
  below := fun x y => decide (x < y)
  atMost := fun x y => decide (x ≤ y)
  unknown := 0.0 / 0.0
  truncate := fun x => (Binary64.ofFloat x).whole (· / ·)
  roundEven := fun x => (Binary64.ofFloat x).whole Binary64.roundQuotientEven
  text := Decimal.Layout.plain.render

end Regrid
