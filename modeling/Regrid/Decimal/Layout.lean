import Regrid.Decimal.Shortest

/-!
Contract: how the digits of a double are laid out as text.

Owns:
- a record of the layout decisions and the layout of the numbers shown in
  results and messages;
- the fixed number of significant places used for areas on a projection.

Does not own: the choice of the digits.
-/

namespace Regrid.Decimal

/-- The decisions about the text of a double: which decimal exponents are
written positionally, the least number of exponent digits, and the three words. -/
structure Layout where
  leastPositional : Int
  leastScientific : Int
  exponentDigits : Nat
  notANumber : String
  infinite : String
  deriving Repr

/-- Numbers are positional from `1e-4` up to below `1e16`, exponents have a sign
and at least two digits, and a positional number always has a fraction. -/
def Layout.plain : Layout := ⟨-4, 16, 2, "nan", "inf"⟩

def digitText (n : Nat) : String := toString n

def padded (width : Nat) (n : Nat) : String :=
  let digits := digitText n
  String.ofList (List.replicate (width - digits.length) '0') ++ digits

/-- Digits without trailing zeros, together with the number of zeros removed. -/
def stripZeros : Nat → Nat → Nat × Nat
  | 0, digits => (digits, 0)
  | fuel + 1, digits =>
    if digits ≠ 0 ∧ digits % 10 = 0 then
      let (rest, removed) := stripZeros fuel (digits / 10)
      (rest, removed + 1)
    else (digits, 0)

def Layout.decimal (layout : Layout) (value : Decimal) : String :=
  let (number, removed) := stripZeros 400 value.digits
  let digits := digitText number
  let count : Int := digits.length
  -- the exponent of the first digit
  let leading : Int := value.exponent + removed + count - 1
  if leading < layout.leastPositional ∨ layout.leastScientific ≤ leading then
    let first := String.ofList (digits.toList.take 1)
    let rest := String.ofList (digits.toList.drop 1)
    let mark := if leading < 0 then "e-" else "e+"
    let fraction := if rest.isEmpty then "" else "." ++ rest
    first ++ fraction ++ mark ++ padded layout.exponentDigits leading.natAbs
  else if leading < 0 then
    "0." ++ String.ofList (List.replicate (-leading - 1).toNat '0') ++ digits
  else if count ≤ leading + 1 then
    digits ++ String.ofList (List.replicate (leading + 1 - count).toNat '0') ++ ".0"
  else
    String.ofList (digits.toList.take (leading + 1).toNat) ++ "." ++
      String.ofList (digits.toList.drop (leading + 1).toNat)

def Layout.render (layout : Layout) (x : Float) : String :=
  match Binary64.ofFloat x with
  | .notANumber => layout.notANumber
  | .infinite negative => (if negative then "-" else "") ++ layout.infinite
  | .finite negative significand exponent =>
    let sign := if negative then "-" else ""
    if significand = 0 then sign ++ "0.0"
    else sign ++ layout.decimal (shortest significand exponent)

end Regrid.Decimal
