/-!
Contract: the exact value of a double, read off its bits.

Owns:
- the decomposition of a double into sign, significand and binary exponent;
- truncation and rounding to whole numbers, computed on integers alone.

Does not own: decimal text.
-/

namespace Regrid

/-- What a double stands for. A finite double is `significand * 2 ^ exponent`,
negated when `negative` holds, so both zeros are told apart. -/
inductive Binary64 where
  | notANumber
  | infinite (negative : Bool)
  | finite (negative : Bool) (significand : Nat) (exponent : Int)
  deriving DecidableEq, Repr

namespace Binary64

/-- The weight of the leading bit of a normal significand, `2 ^ 52`. -/
def leadingBit : Nat := 0x10000000000000

/-- Reads the three fields of a 64-bit word: one sign bit, eleven exponent bits
and fifty-two fraction bits, with the leading bit implied for normal numbers. -/
def ofBits (bits : Nat) : Binary64 :=
  let negative := bits / (leadingBit * 2048) % 2 == 1
  let biased := bits / leadingBit % 2048
  let fraction := bits % leadingBit
  if biased = 2047 then
    if fraction = 0 then .infinite negative else .notANumber
  else if biased = 0 then .finite negative fraction (-1074)
  else .finite negative (leadingBit + fraction) (Int.ofNat biased - 1075)

/-- The value of a double. -/
def ofFloat (x : Float) : Binary64 := ofBits x.toBits.toNat

/-- An integer of the given sign and size. -/
def signed (negative : Bool) (size : Nat) : Int :=
  if negative then -(size : Int) else size

/-- Rounds a quotient of naturals to the nearest natural, a half to the even one. -/
def roundQuotientEven (numerator denominator : Nat) : Nat :=
  let quotient := numerator / denominator
  let twice := 2 * (numerator % denominator)
  if twice < denominator then quotient
  else if denominator < twice then quotient + 1
  else if quotient % 2 = 0 then quotient
  else quotient + 1

/-- The power `base ^ exponent` as a quotient of naturals, one of which is one. -/
def power (base : Nat) (exponent : Int) : Nat × Nat :=
  (Nat.pow base exponent.toNat, Nat.pow base (-exponent).toNat)

/-- The size of a finite double as a quotient of naturals. -/
def quotient (significand : Nat) (exponent : Int) : Nat × Nat :=
  let (numerator, denominator) := power 2 exponent
  (significand * numerator, denominator)

end Binary64

end Regrid
