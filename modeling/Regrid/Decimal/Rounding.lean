import Regrid.Decimal.Shortest

/-!
Contract: doubles rounded to decimal places.

Owns: rounding to a number of places after the point and to a number of significant
digits, computed on the exact value of the double. A half goes to the even digit.
-/

namespace Regrid.Decimal

/-- The double nearest to a signed multiple of a power of ten. -/
def ofMultiple (negative : Bool) (count : Nat) (position : Int) : Float :=
  let size :=
    if position < 0 then Float.ofScientific count true position.natAbs
    else Float.ofScientific count false position.natAbs
  if negative then -size else size

/-- The number of multiples of `10 ^ position` nearest to a finite size. -/
def nearestCount (significand : Nat) (exponent position : Int) : Nat :=
  let (numerator, denominator) := Binary64.quotient significand exponent
  let (upper, lower) := Binary64.power 10 position
  Binary64.roundQuotientEven (numerator * lower) (denominator * upper)

/-- Rounds to places after the point; a zero result has no sign. -/
def roundPlaces (places : Nat) (x : Float) : Float :=
  match Binary64.ofFloat x with
  | .finite negative significand exponent =>
    let count := nearestCount significand exponent (-(places : Int))
    if count = 0 then 0.0 else ofMultiple negative count (-(places : Int))
  | _ => x

def roundDigits (digits : Nat) (x : Float) : Float :=
  match Binary64.ofFloat x with
  | .finite negative significand exponent =>
    if significand = 0 then x
    else
      let (numerator, denominator) := Binary64.quotient significand exponent
      let position := magnitude 800 numerator denominator - digits
      ofMultiple negative (nearestCount significand exponent position) position
  | _ => x

end Regrid.Decimal
