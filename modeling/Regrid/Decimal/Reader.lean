import Regrid.Text.Blank

/-!
Contract: the numbers that a piece of text stands for.

Owns:
- the grammar of integers: surrounding blanks, one sign, digits of any script,
  single underscores between digits;
- the grammar of reals: the same, with a fraction, an exponent and the words for
  infinity and not-a-number.

Does not own: the reading of whole documents.
-/

namespace Regrid.Decimal

open Regrid.Text

/-- Splits off a leading sign; `true` means negative. -/
def splitSign : List Char → Bool × List Char
  | '-' :: rest => (true, rest)
  | '+' :: rest => (false, rest)
  | rest => (false, rest)

/-- Removes underscores that stand between two digits; any other underscore
makes the text no number. -/
def dropUnderscores : List Char → Option (List Char)
  | [] => some []
  | first :: '_' :: second :: rest =>
    if isDigit first && isDigit second then
      (dropUnderscores (second :: rest)).map (first :: ·)
    else none
  | first :: rest => if first = '_' then none else (dropUnderscores rest).map (first :: ·)

def digitsValue (digits : List Char) : Nat :=
  digits.foldl (fun value c => 10 * value + (digitValue? c).getD 0) 0

/-- A non-empty run of digits. -/
def natural? (cs : List Char) : Option Nat :=
  if cs.isEmpty || !cs.all isDigit then none else some (digitsValue cs)

/-- The sign and the digits of a text that is an integer, if it is one. -/
def integerParts? (text : String) : Option (Bool × List Char) := do
  let (negative, digits) := splitSign (strip isPadding text.toList)
  let plain ← dropUnderscores digits
  if plain.isEmpty || !plain.all isDigit then none else return (negative, plain)

/-- The integer a text stands for, if any. -/
def integer? (text : String) : Option Int := do
  let (negative, digits) ← integerParts? text
  let size := digitsValue digits
  return if negative then -(size : Int) else size

/-- Integers of more digits than this are neither read nor written. -/
def mostDigits : Nat := 4300

/-- The double nearest to `digits * 10 ^ exponent`. Exponents far outside the
range of doubles are answered without computing the power. -/
def scaled (digits : Nat) (exponent : Int) : Float :=
  if digits = 0 then 0.0
  else
    let leading : Int := exponent + (digits.log2 : Int) / 3
    if 400 < exponent then 1.0 / 0.0
    else if leading < -800 then 0.0
    else if exponent < 0 then Float.ofScientific digits true exponent.natAbs
    else Float.ofScientific digits false exponent.natAbs

/-- An unsigned real: a word, or digits with at most one point and an exponent. -/
def unsignedReal? (cs : List Char) : Option Float :=
  let word := String.ofList (cs.map Char.toLower)
  if word = "inf" ∨ word = "infinity" then some (1.0 / 0.0)
  else if word = "nan" then some (0.0 / 0.0)
  else do
    let plain ← dropUnderscores cs
    let whole := plain.takeWhile isDigit
    let afterWhole := plain.dropWhile isDigit
    let (fraction, afterFraction) :=
      match afterWhole with
      | '.' :: rest => (rest.takeWhile isDigit, rest.dropWhile isDigit)
      | rest => ([], rest)
    if whole.isEmpty && fraction.isEmpty then none
    else
      let digits := digitsValue (whole ++ fraction)
      match afterFraction with
      | [] => return scaled digits (-(fraction.length : Int))
      | mark :: rest =>
        if mark = 'e' ∨ mark = 'E' then
          let (negative, exponentDigits) := splitSign rest
          let size ← natural? exponentDigits
          let exponent : Int := if negative then -(size : Int) else size
          return scaled digits (exponent - fraction.length)
        else none

/-- The double a text stands for, if any. -/
def real? (text : String) : Option Float := do
  let (negative, rest) := splitSign (strip isPadding text.toList)
  let size ← unsignedReal? rest
  return if negative then -size else size

end Regrid.Decimal
