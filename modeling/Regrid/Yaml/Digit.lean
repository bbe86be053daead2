/-!
Contract: digits in bases up to sixteen.
-/

namespace Regrid.Yaml

/-- The value of a digit; a character that is none has the value sixteen. -/
def digitOf (c : Char) : Nat :=
  if c.isDigit then c.toNat - 48
  else if 'a' ≤ c ∧ c ≤ 'f' then c.toNat - 87
  else if 'A' ≤ c ∧ c ≤ 'F' then c.toNat - 55
  else 16

/-- The number that digits of a base write, first digit first. -/
def inBase (base : Nat) (digits : List Char) : Nat :=
  digits.foldl (fun value c => base * value + digitOf c) 0

end Regrid.Yaml
