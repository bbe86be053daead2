import Regrid.Text.Half
import Regrid.Text.Printable

/-!
Contract: how a text is quoted inside messages.

Owns:
- the choice of the quotation mark;
- the escapes of the mark, the backslash, line breaks and invisible characters.

Does not own: the text of values other than strings.
-/

namespace Regrid.Text

/-- The hexadecimal digit of a number below sixteen. -/
def hexDigit (n : Nat) : Char :=
  if n < 10 then Char.ofNat (48 + n) else Char.ofNat (87 + n)

/-- Exactly `width` hexadecimal digits of a number. -/
def hexDigits : Nat → Nat → List Char
  | 0, _ => []
  | width + 1, n => hexDigits width (n / 16) ++ [hexDigit (n % 16)]

/-- One character inside quotation marks: two, four or eight hexadecimal digits
stand for an invisible character, as many as its code point needs. -/
def escapeChar (mark c : Char) : List Char :=
  if c = mark ∨ c = '\\' then ['\\', c]
  else if c = '\n' then ['\\', 'n']
  else if c = '\r' then ['\\', 'r']
  else if c = '\t' then ['\\', 't']
  else if isPrintable c then [c]
  else if c.toNat < 0x100 then '\\' :: 'x' :: hexDigits 2 c.toNat
  else if c.toNat < 0x10000 then '\\' :: 'u' :: hexDigits 4 c.toNat
  else if let some unit := half? c then '\\' :: 'u' :: hexDigits 4 unit
  else '\\' :: 'U' :: hexDigits 8 c.toNat

/-- Single marks are used unless the text holds a single mark and no double one. -/
def quotationMark (cs : List Char) : Char :=
  if cs.contains '\'' && !cs.contains '"' then '"' else '\''

def quote (text : String) : String :=
  let mark := quotationMark text.toList
  String.ofList (mark :: (text.toList.flatMap (escapeChar mark) ++ [mark]))

end Regrid.Text
