import Regrid.Array.Row
import Regrid.Decimal.Layout
import Regrid.Decimal.Rounding

/-!
Contract: the text of an array.

Owns:
- reals with at most eight places, all positional or all with an exponent, their points
  standing below each other;
- integers and truth values of one width, and quoted texts;
- lines of at most 75 characters, and the ends of a long array.
-/

namespace Regrid

/-- A real of an array before it is aligned: the digits before its point, those after
it, and an exponent where all reals have one. -/
structure Numeral where
  whole : String
  fraction : String
  exponent : Option Int := none

namespace Numeral

/-- The places after the point. -/
def places : Nat := 8

/-- Digits without zeros at their end. -/
def withoutZeros (digits : String) : String :=
  String.ofList ((digits.toList.reverse.dropWhile (· = '0')).reverse)

/-- The fewest digits of a positive double, but none below a decimal position: the value
is rounded there, a half to the even digit. -/
def cut (significand : Nat) (exponent lowest : Int) : Decimal :=
  let shortest := Decimal.shortest significand exponent
  let (digits, removed) := Decimal.stripZeros 400 shortest.digits
  if lowest ≤ shortest.exponent + removed then ⟨digits, shortest.exponent + removed⟩
  else ⟨Decimal.nearestCount significand exponent lowest, lowest⟩

/-- A finite double in positional form. -/
def positional (negative : Bool) (significand : Nat) (exponent : Int) : Numeral :=
  let decimal := cut significand exponent (-(places : Int))
  let below := (-decimal.exponent).toNat
  let scale := Nat.pow 10 below
  let digits := decimal.digits * Nat.pow 10 decimal.exponent.toNat
  let fraction := if below = 0 then "" else Decimal.padded below (digits % scale)
  ⟨(if negative then "-" else "") ++ toString (digits / scale), withoutZeros fraction, none⟩

/-- A finite double with one digit before its point and an exponent. -/
def scientific (negative : Bool) (significand : Nat) (exponent : Int) : Numeral :=
  let sign := if negative then "-" else ""
  if significand = 0 then ⟨sign ++ "0", "", some 0⟩
  else
    let (numerator, denominator) := Binary64.quotient significand exponent
    let leading := Decimal.magnitude 800 numerator denominator - 1
    let decimal := cut significand exponent (leading - places)
    let digits := (toString decimal.digits).toList
    ⟨sign ++ String.ofList (digits.take 1), withoutZeros (String.ofList (digits.drop 1)),
      some (decimal.exponent + digits.length - 1)⟩

end Numeral

namespace ArrayText

def widest (texts : List String) : Nat := (texts.map String.length).foldl max 0

def blanks (count : Nat) : String := String.ofList (List.replicate count ' ')

def padLeft (width : Nat) (text : String) : String := blanks (width - text.length) ++ text

/-- The sizes of the finite reals that are not zero. -/
def sizes (reals : List Float) : List Float :=
  (reals.filter fun x => x.isFinite && !(x == 0.0)).map Float.abs

/-- Reals need an exponent when some are very large, very small or far apart. -/
def needsExponent (reals : List Float) : Bool :=
  match sizes reals with
  | [] => false
  | first :: rest =>
    let largest := rest.foldl (fun x y => if x < y then y else x) first
    let least := rest.foldl (fun x y => if y < x then y else x) first
    1e8 ≤ largest || least < 0.0001 || 1000.0 < largest / least

/-- The finite reals as numerals of one form. -/
def numerals (withExponent : Bool) (reals : List Float) : List Numeral :=
  reals.filterMap fun x =>
    match Binary64.ofFloat x with
    | .finite negative significand exponent =>
      some (if withExponent then Numeral.scientific negative significand exponent
        else Numeral.positional negative significand exponent)
    | _ => none

/-- How the reals of an array are aligned: the widths before and after the point, and
the digits of the exponent where there is one. -/
structure Alignment where
  before : Nat
  after : Nat
  exponentDigits : Option Nat

def exponentText (width : Nat) (exponent : Int) : String :=
  Decimal.padded (max 2 width) exponent.natAbs

/-- The alignment of the reals of an array; words for what is not finite may widen it. -/
def alignment (reals : List Float) : Alignment :=
  let withExponent := needsExponent reals
  let finite := numerals withExponent reals
  let before := widest (finite.map (·.whole))
  let fraction := widest (finite.map (·.fraction))
  let digits := widest (finite.map fun numeral => exponentText 2 (numeral.exponent.getD 0))
  let after := if withExponent then fraction + digits + 2 else fraction
  let words := reals.filterMap fun x =>
    if x.isFinite then none
    else some (if x.isNaN then 3 else if reals.any (· == -1.0 / 0.0) then 4 else 3)
  ⟨words.foldl (fun width word => max width (word - (after + 1))) before,
    after, if withExponent then some digits else none⟩

def realText (alignment : Alignment) (x : Float) : String :=
  match Binary64.ofFloat x with
  | .notANumber => padLeft (alignment.before + alignment.after + 1) "nan"
  | .infinite negative =>
    padLeft (alignment.before + alignment.after + 1) (if negative then "-inf" else "inf")
  | .finite negative significand exponent =>
    match alignment.exponentDigits with
    | none =>
      let numeral := Numeral.positional negative significand exponent
      padLeft alignment.before numeral.whole ++ "." ++ numeral.fraction ++
        blanks (alignment.after - numeral.fraction.length)
    | some digits =>
      let numeral := Numeral.scientific negative significand exponent
      let power := numeral.exponent.getD 0
      let zeros := alignment.after - digits - 2 - numeral.fraction.length
      padLeft alignment.before numeral.whole ++ "." ++ numeral.fraction ++
        String.ofList (List.replicate zeros '0') ++ (if power < 0 then "e-" else "e+") ++
        exponentText digits power

def realsOf (items : List Value) : List Float :=
  items.filterMap fun item => match item with
    | .float x => some x
    | _ => none

/-- The text of each item of an array, given all items that are shown. -/
def itemText (items : List Value) : Value → String :=
  match ItemType.common items with
  | .truth => fun item => padLeft 5 item.shown
  | .signed | .unsigned =>
    let width := widest (items.map Value.shown)
    fun item => padLeft width item.shown
  | .real =>
    let alignment := alignment (realsOf items)
    fun item => match item with
      | .float x => realText alignment x
      | item => item.shown
  | .text => Value.shown
  | .mixed => fun item => match item with
    | .list _ => "list(" ++ item.shown ++ ")"
    | item => item.shown

/-- The characters of a line. -/
def lineWidth : Nat := 75

/-- An array of more items than this shows only its ends. -/
def mostItems : Nat := 1000

/-- The number of items that each end of a long row shows. -/
def edge : Nat := 3

/-- The items of a row that are shown, of a long one the ends with a gap between. -/
def shownParts {τ : Type} (long : Bool) (parts : List τ) : List (Option τ) :=
  if long && 2 * edge < parts.length then
    (parts.take edge).map some ++ none :: (parts.drop (parts.length - edge)).map some
  else parts.map some

mutual

def shownItems (long : Bool) : Nested Value → List Value
  | .item x => [x]
  | .rows parts => ((shownParts long (shownItemLists long parts)).filterMap id).flatten

def shownItemLists (long : Bool) : List (Nested Value) → List (List Value)
  | [] => []
  | part :: rest => shownItems long part :: shownItemLists long rest

end

/-- Fills lines with words that a separator follows: a word goes onto the current line if
it still fits. No separator follows the last word, and no blank ends a line. -/
def fillWords (separator : String) (width : Nat) (indent : String) (done line : String) :
    List String → String
  | [] => done ++ line
  | word :: rest =>
    let breaks := width < line.length + word.length && indent.length < line.length
    let done := if breaks then done ++ String.ofList (line.toList.reverse.dropWhile
      (· = ' ')).reverse ++ "\n" else done
    let line := (if breaks then indent else line) ++ word
    fillWords separator width indent done (if rest.isEmpty then line else line ++ separator) rest

/-- How rows are written: the text of an item, whether only the ends of long rows are shown,
and what separates items. -/
structure Style where
  format : Value → String
  long : Bool
  separator : String

mutual

/-- The text of nested rows. Rows of items are filled into lines, and outer rows are put
on lines of their own, with blank lines between rows of rows. -/
def nestedText (style : Style) (indent : String) (width : Nat) : Nat → Nested Value → String
  | _, .item x => style.format x
  | axes, .rows parts =>
    let texts := (shownParts style.long
      (partTexts style (indent ++ " ") (width - 1) (axes - 1) parts)).map (·.getD "...")
    let body :=
      if axes ≤ 1 then fillWords style.separator (width - 1) indent "" indent texts
      else
        (style.separator.trimAsciiEnd.toString ++
            String.ofList ('\n' :: List.replicate (axes - 2) '\n')).intercalate
          (texts.map (indent ++ ·))
    "[" ++ String.ofList (body.toList.drop indent.length) ++ "]"

def partTexts (style : Style) (indent : String) (width : Nat) :
    Nat → List (Nested Value) → List String
  | _, [] => []
  | axes, part :: rest =>
    nestedText style indent width axes part :: partTexts style indent width axes rest

end

/-- The text of an array whose lines leave some characters free on both sides. -/
def renderWithin (separator : String) (before after : Nat) (array : Tensor Value) : String :=
  if array.items.isEmpty then "[]"
  else
    let long := decide (mostItems < array.items.length)
    let style : Style := ⟨itemText (shownItems long array.nested), long, separator⟩
    nestedText style (blanks (before + 1)) (lineWidth - after) array.rank array.nested

def render (array : Tensor Value) : String := renderWithin " " 0 0 array

/-- The text by which an array is quoted. It names the type of the items where they do not
show it. -/
def quoted (array : Tensor Value) : String :=
  let opening := "array("
  let body := opening ++ renderWithin ", " opening.length 1 array
  let type := ItemType.common array.items
  if type = .unsigned then body ++ ", dtype=uint64)"
  else if array.items.isEmpty then body ++ ", dtype=float64)"
  else body ++ ")"

end ArrayText

/-- The text of a value where a text is wanted, a list being an array. -/
def Value.rowText (value : Value) : String :=
  match value with
  | .list _ =>
    match value.toArray with
    | .ok array => ArrayText.render array
    | .error _ => value.plain
  | _ => value.plain

end Regrid
