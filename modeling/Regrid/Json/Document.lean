import Regrid.Decimal.Reader
import Regrid.Value

/-!
Contract: JSON texts of values.

Owns:
- reading a text, where a number with a fraction or an exponent is a real and every
  other number an integer of any size;
- writing a value on one line in plain ASCII, where each real has the fewest digits that
  read back, and a real without digits is written as a text.

Does not own: what the values mean.
-/

namespace Regrid.Json

/-- The number of four hexadecimal digits at the start, and what follows them. -/
def codeUnit : Nat → Nat → List Char → Option (Nat × List Char)
  | 0, unit, cs => some (unit, cs)
  | count + 1, unit, c :: rest =>
    let digit := if c.isDigit then c.toNat - 48 else c.toLower.toNat - 87
    if digit < 16 then codeUnit count (unit * 16 + digit) rest else none
  | _ + 1, _, [] => none

def shortEscape (c : Char) : Char :=
  match c with
  | 'n' => '\n'
  | 't' => '\t'
  | 'r' => '\r'
  | 'b' => '\x08'
  | 'f' => '\x0c'
  | _ => c

/-- The code unit of a further escape, if there is one that closes a pair. -/
def closingUnit (cs : List Char) : Option (Nat × List Char) :=
  match cs with
  | '\\' :: 'u' :: rest => do
    let (unit, rest) ← codeUnit 4 0 rest
    if Text.firstClosingHalf ≤ unit ∧ unit < Text.firstAfterHalves then some (unit, rest)
    else none
  | _ => none

/-- The character of an escape by code units, of which a pair stands for one character
beyond the first plane. -/
def escapedUnit (cs : List Char) : Option (Char × List Char) := do
  let (first, rest) ← codeUnit 4 0 cs
  if Text.firstHalf ≤ first ∧ first < Text.firstClosingHalf then
    match closingUnit rest with
    | some (second, rest) =>
      let code := 0x10000 + (first - Text.firstHalf) * 0x400 + (second - Text.firstClosingHalf)
      return (Char.ofNat code, rest)
    | none => return (Text.ofUnit first, rest)
  else return (Text.ofUnit first, rest)

/-- The rest of a quoted text after its opening mark, and what follows the text. -/
def textAfterMark : Nat → List Char → Option (List Char × List Char)
  | 0, _ => none
  | _ + 1, [] => none
  | _ + 1, '"' :: rest => some ([], rest)
  | fuel + 1, '\\' :: 'u' :: rest => do
    let (c, rest) ← escapedUnit rest
    let (text, after) ← textAfterMark fuel rest
    return (c :: text, after)
  | fuel + 1, '\\' :: c :: rest => do
    let (text, after) ← textAfterMark fuel rest
    return (shortEscape c :: text, after)
  | fuel + 1, c :: rest => do
    let (text, after) ← textAfterMark fuel rest
    return (c :: text, after)

/-- A character that may stand in a number or a word. -/
def isBare (c : Char) : Bool := c.isAlphanum || c == '-' || c == '+' || c == '.'

/-- The value of a number or a word. -/
def bareValue (text : String) : Option Value :=
  if text = "true" then some (.bool true)
  else if text = "false" then some (.bool false)
  else if text = "null" then some .null
  else
    match Decimal.integer? text with
    | some n => some (.int n)
    | none => (Decimal.real? text).map .float

def afterBlanks (cs : List Char) : List Char := cs.dropWhile Char.isWhitespace

mutual

/-- A value at the start, and what follows it. -/
def valueAt : Nat → List Char → Option (Value × List Char)
  | 0, _ => none
  | fuel + 1, cs =>
    match afterBlanks cs with
    | '"' :: rest =>
      (textAfterMark rest.length.succ rest).map fun (text, after) =>
        (.text (String.ofList text), after)
    | '[' :: rest => (itemsAfterMark fuel rest).map fun (items, after) => (.list items, after)
    | '\x7b' :: rest =>
      (entriesAfterMark fuel rest).map fun (entries, after) => (.map entries, after)
    | cs => (bareValue (String.ofList (cs.takeWhile isBare))).map fun value =>
      (value, cs.dropWhile isBare)

/-- The items of a list after its opening mark. -/
def itemsAfterMark : Nat → List Char → Option (List Value × List Char)
  | 0, _ => none
  | fuel + 1, cs =>
    match afterBlanks cs with
    | ']' :: rest => some ([], rest)
    | cs => do
      let (item, after) ← valueAt fuel cs
      match afterBlanks after with
      | ',' :: rest => do
        let (items, after) ← itemsAfterMark fuel rest
        return (item :: items, after)
      | ']' :: rest => return ([item], rest)
      | _ => none

/-- The entries of a mapping after its opening mark. -/
def entriesAfterMark : Nat → List Char → Option (List (Value × Value) × List Char)
  | 0, _ => none
  | fuel + 1, cs =>
    match afterBlanks cs with
    | '\x7d' :: rest => some ([], rest)
    | cs => do
      let (key, after) ← valueAt fuel cs
      match afterBlanks after with
      | ':' :: rest => do
        let (value, after) ← valueAt fuel rest
        match afterBlanks after with
        | ',' :: rest => do
          let (entries, after) ← entriesAfterMark fuel rest
          return ((key, value) :: entries, after)
        | '\x7d' :: rest => return ([(key, value)], rest)
        | _ => none
      | _ => none

end

def read (text : String) : Option Value := do
  let cs := text.toList
  let (value, after) ← valueAt cs.length.succ cs
  if (afterBlanks after).isEmpty then return value else none

def unitText (unit : Nat) : List Char := '\\' :: 'u' :: Text.hexDigits 4 unit

def charText (c : Char) : List Char :=
  let code := c.toNat
  if c = '"' ∨ c = '\\' then ['\\', c]
  else if 0x20 ≤ code ∧ code < 0x7F then [c]
  else if code < 0x10000 then unitText code
  else if let some unit := Text.half? c then unitText unit
  else
    unitText (0xD800 + (code - 0x10000) / 0x400) ++
      unitText (0xDC00 + (code - 0x10000) % 0x400)

def quoted (text : String) : String :=
  String.ofList ('"' :: (text.toList.flatMap charText ++ ['"']))

/-- A real; those without digits are quoted words. -/
def realText (x : Float) : String :=
  if x.isNaN then quoted "NaN"
  else if x.isInf then quoted (if x < 0.0 then "-Infinity" else "Infinity")
  else Decimal.Layout.plain.render x

mutual

def write : Value → String
  | .null => "null"
  | .bool b => if b then "true" else "false"
  | .int n => toString n
  | .float x => realText x
  | .text s => quoted s
  | .moment m => quoted m.text
  | .list items => "[" ++ ",".intercalate (writeItems items) ++ "]"
  | .map entries => "\x7b" ++ ",".intercalate (writeEntries entries) ++ "\x7d"

def writeItems : List Value → List String
  | [] => []
  | item :: rest => write item :: writeItems rest

def writeEntries : List (Value × Value) → List String
  | [] => []
  | entry :: rest => writeEntry entry :: writeEntries rest

def writeEntry : Value × Value → String
  | (key, value) => write key ++ ":" ++ write value

end

end Regrid.Json
