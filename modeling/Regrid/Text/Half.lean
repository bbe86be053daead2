/-!
Contract: halves of pairs of code units that stand alone in a text.

Owns: the characters that hold such halves, which are the last of those for private use.

A text with a half can be shown and compared, but it has no bytes, so no file takes it.
-/

namespace Regrid.Text

/-- The first code unit that is half of a pair. -/
def firstHalf : Nat := 0xD800

/-- The first code unit after those that open a pair. -/
def firstClosingHalf : Nat := 0xDC00

/-- The first code unit that is no half of a pair any more. -/
def firstAfterHalves : Nat := 0xE000

/-- The first of the characters that hold halves. -/
def firstHolder : Nat := 0x10F800

/-- The character of a code unit that stands alone. -/
def ofUnit (unit : Nat) : Char :=
  if firstHalf ≤ unit ∧ unit < firstAfterHalves then Char.ofNat (firstHolder + (unit - firstHalf))
  else Char.ofNat unit

/-- The half that a character holds, if it holds one. -/
def half? (c : Char) : Option Nat :=
  if firstHolder ≤ c.toNat then some (firstHalf + (c.toNat - firstHolder)) else none

/-- A text without halves. -/
def isWhole (text : String) : Bool := text.toList.all fun c => (half? c).isNone

end Regrid.Text
