import Regrid.Decimal.Reader
import Regrid.Error
import Regrid.Scalar.Double
import Regrid.Value

/-!
Contract: numbers among values.

Owns:
- the reading of a value as an integer, as a real, and as an exact whole number;
- numbers, which are integers of any size and doubles, with their exact order;
- sums, products and remainders of values;
- the equality by which values are keys, where numbers of one value are one key.

A truth value counts as a number everywhere. Order and equality compare the exact
values, so an integer differs from every double that is only near it.
-/

namespace Regrid

open Regrid.Text

/-- The error for a real that has no neighbouring whole number. -/
def NotWhole.error : NotWhole → Error
  | .notANumber => .notANumberToInteger
  | .infinite => .infinityToInteger

/-- The whole number toward zero from a scalar. -/
def truncated {α : Type} [Scalar α] (x : α) : Except Error Int :=
  (Scalar.truncate x).mapError NotWhole.error

/-- The double nearest to an integer, if doubles reach that far. -/
def realOfInt (n : Int) : Except Error Float :=
  let x := Float.ofInt n
  if x.isInf then .error .numberTooLarge else .ok x

/-- An integer or a double. -/
inductive Number where
  | whole (n : Int)
  | real (x : Float)

namespace Number

def toValue : Number → Value
  | whole n => .int n
  | real x => .float x

/-- The double nearest to a number. -/
def toReal : Number → Except Error Float
  | whole n => realOfInt n
  | real x => .ok x

/-- How an integer compares with the value of a double. -/
def compareWhole (n : Int) : Binary64 → Option Ordering
  | .notANumber => none
  | .infinite negative => some (if negative then .gt else .lt)
  | .finite negative significand exponent =>
    let (numerator, denominator) := Binary64.quotient significand exponent
    some (compare (n * denominator) (Binary64.signed negative numerator))

/-- How two numbers compare by their exact values; not-a-number compares with nothing. -/
def order? : Number → Number → Option Ordering
  | whole m, whole n => some (compare m n)
  | whole m, real y => compareWhole m (Binary64.ofFloat y)
  | real x, whole n => (compareWhole n (Binary64.ofFloat x)).map Ordering.swap
  | real x, real y =>
    if x < y then some .lt else if y < x then some .gt else if x == y then some .eq else none

/-- The remainder of two doubles with the sign of the divisor, computed exactly. -/
def realRemainder (x y : Float) : Float :=
  match Binary64.ofFloat x, Binary64.ofFloat y with
  | .finite negative m e, .finite negativeDivisor n d =>
    let low := min e d
    let rest := (m * Nat.pow 2 (e - low).toNat) % (n * Nat.pow 2 (d - low).toNat)
    if rest = 0 then (if negativeDivisor then -0.0 else 0.0)
    else
      let size := (Float.ofNat rest).scaleB low
      let signed := if negative then -size else size
      if negative = negativeDivisor then signed else signed + y
  | .finite negative m _, .infinite negativeDivisor =>
    if m = 0 then (if negativeDivisor then -0.0 else 0.0)
    else if negative = negativeDivisor then x
    else y
  | _, _ => 0.0 / 0.0

/-- An operation on integers that doubles follow as soon as one of them takes part. -/
def combine (onWhole : Int → Int → Except Error Int)
    (onReal : Float → Float → Except Error Float)
    (first second : Number) : Except Error Number :=
  match first, second with
  | whole m, whole n => do return whole (← onWhole m n)
  | first, second => do return real (← onReal (← first.toReal) (← second.toReal))

def add : Number → Number → Except Error Number :=
  combine (fun m n => .ok (m + n)) fun x y => .ok (x + y)

def mul : Number → Number → Except Error Number :=
  combine (fun m n => .ok (m * n)) fun x y => .ok (x * y)

/-- The remainder of a division toward the floor; nothing is divided by zero. -/
def remainder : Number → Number → Except Error Number :=
  combine (fun m n => if n = 0 then .error .divisionByZero else .ok (m.fmod n))
    fun x y => if y == 0.0 then .error .divisionByZero else .ok (realRemainder x y)

end Number

namespace Value

/-- The number that a value is, if it is one. -/
def number? : Value → Option Number
  | bool b => some (.whole (if b then 1 else 0))
  | int n => some (.whole n)
  | float x => some (.real x)
  | _ => none

def number (value : Value) : Except Error Number :=
  match value.number? with
  | some number => .ok number
  | none => .error .wrongType

/-- Reads a value as an integer: reals lose their fraction, texts follow the grammar of
integers and its limit of digits, and whatever is no number at all is refused. -/
def toInteger : Value → Except Error Int
  | bool b => .ok (if b then 1 else 0)
  | int n => .ok n
  | float x => truncated x
  | text s =>
    match Decimal.integerParts? s with
    | some (negative, digits) =>
      if Decimal.mostDigits < digits.length then .error (.tooManyDigits digits.length)
      else .ok (Binary64.signed negative (Decimal.digitsValue digits))
    | none => .error (.noInteger (quote s))
  | null | moment _ | list _ | map _ => .error .wrongType

/-- Reads a value as a real. -/
def toReal : Value → Except Error Float
  | bool b => .ok (if b then 1.0 else 0.0)
  | int n => realOfInt n
  | float x => .ok x
  | text s =>
    match Decimal.real? s with
    | some x => .ok x
    | none => .error (.noReal (quote s))
  | null | moment _ | list _ | map _ => .error .wrongType

/-- The whole number that a value is: a real is none, even without a fraction. -/
def toWhole : Value → Except Error Int
  | bool b => .ok (if b then 1 else 0)
  | int n => .ok n
  | _ => .error .wrongType

/-- How two values compare. Numbers compare with numbers and texts with texts; other
values have no order. -/
def order? (first second : Value) : Except Error (Option Ordering) :=
  match first, second with
  | text s, text t => .ok (some (compare s t))
  | first, second => do return (← first.number).order? (← second.number)

def isBelow (first second : Value) : Except Error Bool := do
  return (← first.order? second) = some .lt

def isAtMost (first second : Value) : Except Error Bool := do
  match ← first.order? second with
  | some .lt | some .eq => return true
  | _ => return false

def add (first second : Value) : Except Error Value := do
  return (← (← first.number).add (← second.number)).toValue

/-- The product of two values that are numbers. -/
def mul (first second : Value) : Except Error Value := do
  return (← (← first.number).mul (← second.number)).toValue

/-- The remainder of two values that are numbers. -/
def remainder (first second : Value) : Except Error Value := do
  return (← (← first.number).remainder (← second.number)).toValue

mutual

/-- Two values are equal: numbers by their exact values, lists item by item, mappings
as sets of entries. -/
def same : Value → Value → Bool
  | null, null => true
  | text s, text t => s == t
  | moment m, moment n => m == n
  | list xs, list ys => sameItems xs ys
  | map xs, map ys => xs.length == ys.length && sameEntries xs ys
  | first, second =>
    match first.number?, second.number? with
    | some m, some n => m.order? n == some .eq
    | _, _ => false

/-- Two lists are equal item by item. -/
def sameItems : List Value → List Value → Bool
  | [], [] => true
  | x :: xs, y :: ys => same x y && sameItems xs ys
  | _, _ => false

/-- Every entry of a mapping has an equal entry in another one. -/
def sameEntries : List (Value × Value) → List (Value × Value) → Bool
  | [], _ => true
  | entry :: rest, others =>
    others.any (fun other => sameEntry entry other) && sameEntries rest others

def sameEntry : Value × Value → Value × Value → Bool
  | (key, value), other => same key other.1 && same value other.2

end

/-- A value that can be a key: lists and mappings cannot. -/
def isKey : Value → Bool
  | list _ | map _ => false
  | _ => true

/-- The integer that equals a value, if one does. -/
def wholeEqual? (value : Value) : Option Int :=
  match value.number? with
  | some (.whole n) => some n
  | some (.real x) =>
    match Scalar.truncate x with
    | .ok n => if (Number.whole n).order? (.real x) = some .eq then some n else none
    | .error _ => none
  | none => none

/-- The integer that a value equals as a key, if one does; a value that cannot be a key
is refused. -/
def integerKey? (value : Value) : Except Error (Option Int) :=
  if value.isKey then .ok value.wholeEqual? else .error .wrongType

/-- Puts an entry into a list of pairs under a value; a key that equals one in use keeps
the place and the form of the old one. -/
def putKeyed {β : Type} (key : Value) (entry : β) : List (Value × β) → List (Value × β)
  | [] => [(key, entry)]
  | (known, old) :: rest =>
    if known.same key then (known, entry) :: rest else (known, old) :: putKeyed key entry rest

/-- The entry of a list of pairs under a value. -/
def lookupKeyed {β : Type} (key : Value) (entries : List (Value × β)) : Option β :=
  (entries.find? fun entry => entry.1.same key).map (·.2)

mutual

/-- The most digits that an integer in a value has. -/
def digitCount : Value → Nat
  | int n => (toString n.natAbs).length
  | list items => digitCountOfItems items
  | map entries => digitCountOfEntries entries
  | _ => 0

/-- The most digits that an integer in the items of a list has. -/
def digitCountOfItems : List Value → Nat
  | [] => 0
  | item :: rest => max (digitCount item) (digitCountOfItems rest)

/-- The most digits that an integer in the entries of a mapping has. -/
def digitCountOfEntries : List (Value × Value) → Nat
  | [] => 0
  | entry :: rest => max (digitCountOfEntry entry) (digitCountOfEntries rest)

/-- The most digits that an integer in an entry has. -/
def digitCountOfEntry : Value × Value → Nat
  | (key, value) => max (digitCount key) (digitCount value)

end

/-- The text of a value, unless it holds an integer of too many digits to be written. -/
def writable (value : Value) : Except Error String :=
  let count := value.digitCount
  if Decimal.mostDigits < count then .error (.tooManyDigits count) else .ok value.plain

end Value

end Regrid
