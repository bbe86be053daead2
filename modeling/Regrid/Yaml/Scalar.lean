import Regrid.Yaml.Digit
import Regrid.Yaml.Timestamp

/-!
Contract: single values of YAML documents.

Owns: which plain texts are absent values, truth values, integers, reals or moments, by
the rules of version 1.1 of the format.
-/

namespace Regrid.Yaml

/-- Texts that stand for an absent value. -/
def nullWords : List String := ["", "~", "null", "Null", "NULL"]

/-- Texts that stand for true. -/
def trueWords : List String :=
  ["yes", "Yes", "YES", "true", "True", "TRUE", "on", "On", "ON"]

/-- Texts that stand for false. -/
def falseWords : List String :=
  ["no", "No", "NO", "false", "False", "FALSE", "off", "Off", "OFF"]

/-- Digits of a base with underscores among them. Underscores alone look like a number
and are none. -/
def naturalInBase (base : Nat) (cs : List Char) : Option (Except Error Nat) :=
  let digits := cs.filter (· ≠ '_')
  if cs.isEmpty || !digits.all (digitOf · < base) then none
  else if digits.isEmpty then some (.error (.noInteger (Text.quote (String.ofList cs))))
  else some (.ok (inBase base digits))

/-- Decimal digits with underscores among them, of which there can be too many. -/
def decimalNatural (cs : List Char) : Option (Except Error Nat) :=
  let digits := cs.filter (· ≠ '_')
  if digits.isEmpty || !digits.all Char.isDigit then none
  else if Decimal.mostDigits < digits.length then some (.error (.tooManyDigits digits.length))
  else some (.ok (inBase 10 digits))

def splitAtChar (separator : Char) : List Char → List (List Char)
  | [] => [[]]
  | c :: rest =>
    match splitAtChar separator rest with
    | [] => [[c]]
    | part :: parts => if c = separator then [] :: part :: parts else (c :: part) :: parts

/-- A number of one or two digits below sixty. -/
def sixtieth (cs : List Char) : Option Nat :=
  match cs with
  | [c] => if c.isDigit then some (digitOf c) else none
  | [c, d] =>
    if '0' ≤ c ∧ c ≤ '5' ∧ d.isDigit then some (10 * digitOf c + digitOf d) else none
  | _ => none

/-- An unsigned integer: binary after `0b`, octal after `0`, hexadecimal after `0x`,
decimal, or decimal parts that count sixtieths of the part before. -/
def unsignedInteger (cs : List Char) : Option (Except Error Nat) :=
  match cs with
  | ['0'] => some (.ok 0)
  | '0' :: 'b' :: rest => naturalInBase 2 rest
  | '0' :: 'x' :: rest => naturalInBase 16 rest
  | '0' :: rest => if rest.all (· == '_') then some (.ok 0) else naturalInBase 8 rest
  | first :: _ =>
    if !first.isDigit then none
    else
      match splitAtChar ':' cs with
      | [] => none
      | whole :: parts => do
        let whole ← decimalNatural whole
        let parts ← parts.mapM sixtieth
        return whole.map fun whole => parts.foldl (fun value part => 60 * value + part) whole
  | [] => none

/-- An exponent needs a sign and digits. -/
def isExponent (cs : List Char) : Bool :=
  match cs with
  | mark :: sign :: digits =>
    (mark == 'e' || mark == 'E') && (sign == '+' || sign == '-') && !digits.isEmpty &&
      digits.all Char.isDigit
  | _ => false

/-- A character inside a decimal number. -/
def inDecimal (c : Char) : Bool := c.isDigit || c == '_'

/-- A text opens with a digit. -/
def opensWithDigit (cs : List Char) : Bool := cs.head?.any Char.isDigit

/-- What follows the point of a real: digits, and perhaps an exponent. -/
def isTail (cs : List Char) : Bool :=
  let exponent := cs.dropWhile inDecimal
  exponent.isEmpty || isExponent exponent

/-- An unsigned real with digits before its point. -/
def isUnsignedReal (cs : List Char) : Bool :=
  opensWithDigit cs &&
    match cs.dropWhile inDecimal with
    | '.' :: rest => isTail rest
    | _ => false

/-- A real that opens with its point, which never has a sign. -/
def isFraction : List Char → Bool
  | '.' :: rest => opensWithDigit rest && isTail rest
  | _ => false

/-- The real of decimal digits with a point, which may hold underscores. -/
def decimalReal? (cs : List Char) : Option Float :=
  Decimal.unsignedReal? (cs.filter (· ≠ '_'))

/-- The last part of a real in sixtieths has a point. -/
def isLastSixtieth (cs : List Char) : Bool :=
  match cs.dropWhile Char.isDigit with
  | '.' :: rest => (sixtieth (cs.takeWhile Char.isDigit)).isSome && rest.all inDecimal
  | _ => false

/-- Parts that count sixtieths of the part before, the last of them a real. The
terms are added from the last part on. -/
def sixtiethsReal? (cs : List Char) : Option Float :=
  match splitAtChar ':' cs with
  | whole :: next :: rest =>
    let parts := next :: rest
    if opensWithDigit whole && whole.all inDecimal &&
        parts.dropLast.all (sixtieth · |>.isSome) && parts.getLast?.any isLastSixtieth then do
      let terms ← ((whole :: parts).reverse).mapM decimalReal?
      let (sum, _) :=
        terms.foldl (fun (sum, unit) x => (sum + x * Float.ofNat unit, 60 * unit)) (0.0, 1)
      return sum
    else none
  | _ => none

/-- The real a plain text stands for. -/
def real? (cs : List Char) : Option Float :=
  let (negative, rest) := Decimal.splitSign cs
  let sign (x : Float) : Float := if negative then -x else x
  if [".inf", ".Inf", ".INF"].contains (String.ofList rest) then some (sign (1.0 / 0.0))
  else if [".nan", ".NaN", ".NAN"].contains (String.ofList cs) then some (0.0 / 0.0)
  else if isFraction cs then decimalReal? cs
  else if isUnsignedReal rest then (decimalReal? rest).map sign
  else (sixtiethsReal? rest).map sign

/-- The integer a plain text stands for. -/
def integer? (cs : List Char) : Option (Except Error Int) :=
  let (negative, rest) := Decimal.splitSign cs
  (unsignedInteger rest).map fun size => size.map (Binary64.signed negative)

/-- What the text of a node, or the node itself, stands for. -/
inductive Kind where
  | null
  | truth
  | integer
  | real
  | moment
  | text
  | shared
  | standard
  | list
  | mapping
  | other
  deriving DecidableEq, Repr

/-- The kind of a plain text. -/
def plainKind (cs : List Char) : Kind :=
  let text := String.ofList cs
  if nullWords.contains text then .null
  else if trueWords.contains text || falseWords.contains text then .truth
  else if text = "<<" then .shared
  else if text = "=" then .standard
  else if (integer? cs).isSome then .integer
  else if (real? cs).isSome then .real
  else if (timestamp? cs).isSome then .moment
  else .text

/-- The kind that a whole tag names. -/
def taggedKind (tag : String) : Kind :=
  let kinds : List (String × Kind) :=
    [("null", .null), ("bool", .truth), ("int", .integer), ("float", .real),
      ("timestamp", .moment), ("str", .text), ("merge", .shared), ("value", .standard),
      ("seq", .list), ("map", .mapping)]
  (kinds.find? fun entry => "tag:yaml.org,2002:" ++ entry.1 = tag).elim .other (·.2)

/-- The value of a text that is to be of a kind. A number has at least one character. -/
def scalarValue (kind : Kind) (cs : List Char) : Except Error Value :=
  let text := String.ofList cs
  let isVoid := cs.all (· == '_')
  match kind with
  | .null => .ok .null
  | .truth =>
    if trueWords.contains text.toLower then .ok (.bool true)
    else if falseWords.contains text.toLower then .ok (.bool false)
    else .error (.keyAbsent text)
  | .integer =>
    match integer? cs with
    | some n => n.map .int
    | none => .error (if isVoid then .positionOutside else .noInteger (Text.quote text))
  | .real =>
    match real? cs, integer? cs with
    | some x, _ => .ok (.float x)
    | none, some n => do return .float (← realOfInt (← n))
    | none, none => .error (if isVoid then .positionOutside else .noReal (Text.quote text))
  | .moment =>
    match timestamp? cs with
    | some moment => moment.map .moment
    | none => .error .fieldUnknown
  | .text => .ok (.text text)
  | .shared | .standard | .list | .mapping | .other => .error .documentValue

end Regrid.Yaml
