import Regrid.Scalar

/-!
Contract: exact rationals as scalars, which is what exact statements compute in.

Owns: the instance. Every rational has a neighbouring whole number, and no
rational is set apart for unmeasured quantities, so zero stands for them.
-/

namespace Regrid

/-- Rounds a rational to the nearest integer, a half to the even neighbour. -/
def roundEvenRat (x : Rat) : Int :=
  let down := x.floor
  let rest := x - (down : Rat)
  if rest < 1 / 2 then down
  else if (1 : Rat) / 2 < rest then down + 1
  else if down % 2 = 0 then down
  else down + 1

/-- The text of a rational as a quotient of integers. -/
def ratText (x : Rat) : String :=
  if x.den = 1 then toString x.num else toString x.num ++ "/" ++ toString x.den

instance : Scalar Rat where
  ofInt := fun n => (n : Rat)
  abs := fun x => if x < 0 then -x else x
  equal := fun x y => decide (x = y)
  below := fun x y => decide (x < y)
  atMost := fun x y => decide (x ≤ y)
  unknown := 0
  truncate := fun x => .ok (x.num.tdiv x.den)
  roundEven := fun x => .ok (roundEvenRat x)
  text := ratText

end Regrid
