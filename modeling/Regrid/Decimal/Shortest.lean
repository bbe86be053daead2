import Regrid.Scalar.Binary64

/-!
Contract: the fewest decimal digits that read back as a given double.

Owns:
- the interval of reals that round to a double;
- the search for the shortest decimal in it, nearest first, in exact arithmetic.

Does not own: how the digits are laid out as text.
-/

namespace Regrid

/-- A positive decimal `digits * 10 ^ exponent`. -/
structure Decimal where
  digits : Nat
  exponent : Int
  deriving DecidableEq, Repr

namespace Decimal

/-- The reals that round to a double, counted in quarters of its last place:
the double itself is at `centre`, and the ends belong to the interval when
`closed` holds. -/
structure Interval where
  low : Nat
  centre : Nat
  high : Nat
  closed : Bool
  deriving DecidableEq, Repr

/-- The interval around `significand * 2 ^ exponent`. Below a power of two the
neighbouring double is only half as far away. -/
def Interval.around (significand : Nat) (exponent : Int) : Interval where
  low := if significand = Binary64.leadingBit ∧ -1074 < exponent then 4 * significand - 1
    else 4 * significand - 2
  centre := 4 * significand
  high := 4 * significand + 2
  closed := significand % 2 = 0

/-- A natural lies between two others, the ends counting when `closed` holds. -/
def within (closed : Bool) (low value high : Nat) : Bool :=
  if closed then low ≤ value ∧ value ≤ high else low < value ∧ value < high

/-- The decimal exponent `e` with `10 ^ (e - 1) ≤ numerator / denominator < 10 ^ e`
is looked for upward and then downward from zero, one power at a time. -/
def magnitude (fuel numerator denominator : Nat) : Int :=
  match fuel with
  | 0 => 0
  | fuel + 1 =>
    if denominator ≤ numerator then magnitude fuel numerator (denominator * 10) + 1
    else if numerator * 10 < denominator then magnitude fuel (numerator * 10) denominator - 1
    else 0

/-- The point of the grid of multiples of `10 ^ position` that lies in the
interval and is nearest to its centre, an exact tie going to the even digit.
`unit` is the size of a quarter of the last place. -/
def nearestOnGrid (interval : Interval) (unit : Nat × Nat) (position : Int) : Option Nat :=
  let (numerator, denominator) := Binary64.power 10 position
  let scale := unit.1 * denominator
  let step := unit.2 * numerator
  let centre := interval.centre * scale
  let lower := centre / step
  let upper := lower + 1
  let holds (candidate : Nat) : Bool :=
    0 < candidate &&
      within interval.closed (interval.low * scale) (candidate * step) (interval.high * scale)
  match holds lower, holds upper with
  | false, false => none
  | true, false => some lower
  | false, true => some upper
  | true, true =>
    let down := centre - lower * step
    let up := upper * step - centre
    if down < up then some lower
    else if up < down then some upper
    else if lower % 2 = 0 then some lower
    else some upper

/-- Tries grids of one digit, two digits and so on. -/
def search (interval : Interval) (unit : Nat × Nat) (top : Int) : Nat → Int → Option Decimal
  | 0, _ => none
  | tries + 1, count =>
    match nearestOnGrid interval unit (top - count) with
    | some digits => some ⟨digits, top - count⟩
    | none => search interval unit top tries (count + 1)

/-- The shortest decimal that rounds to the double `significand * 2 ^ exponent`;
zero has no digits. Seventeen digits always suffice. -/
def shortest (significand : Nat) (exponent : Int) : Decimal :=
  if significand = 0 then ⟨0, 0⟩
  else
    let interval := Interval.around significand exponent
    let unit := Binary64.quotient 1 (exponent - 2)
    let top := magnitude 800 (interval.centre * unit.1) unit.2
    (search interval unit top 17 1).getD ⟨interval.centre * unit.1 / unit.2, 0⟩

end Decimal

end Regrid
