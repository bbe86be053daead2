import Regrid.Decimal.Rounding
import Regrid.Store.Absence

/-!
Contract: arrays that are held in packed form.

Owns:
- the attributes by which a variable says that its elements are packed;
- the elements that a packed array stands for, and the packed form of elements.

An element that stands for no number is left as it is.
-/

namespace Regrid

/-- How the elements of a variable are packed. -/
structure Packing where
  scale : Option Number := none
  offset : Option Number := none
  isUnsigned : Bool := false

namespace Packing

/-- The number that an attribute is. -/
def numberOf (var : Variable Float) (key : String) : Option Number :=
  match (var.get? key).map Attribute.value with
  | some (.int n) => some (.whole n)
  | some (.float x) => some (.real x)
  | _ => none

/-- The packing that the attributes of a variable describe. Unless both are numbers, a
scale or an offset that is no number switches both off. -/
def ofVariable (var : Variable Float) : Packing :=
  let scale := numberOf var "scale_factor"
  let offset := numberOf var "add_offset"
  let isUnsigned := match (var.get? "_Unsigned").map Attribute.value with
    | some (.text s) => s == "true" || s == "True"
    | _ => false
  if (var.get? "scale_factor").isSome ≠ scale.isSome ∨
      (var.get? "add_offset").isSome ≠ offset.isSome then { isUnsigned }
  else { scale, offset, isUnsigned }

/-- A number is a given whole number. -/
def equals (number : Number) (n : Int) : Bool := number.order? (.whole n) == some .eq

/-- The packing changes elements when it is undone: a single scale of one or a single
offset of zero does nothing. -/
def changes (packing : Packing) : Bool :=
  match packing.scale, packing.offset with
  | none, none => false
  | some scale, none => !equals scale 1
  | none, some offset => !equals offset 0
  | some _, some _ => true

/-- The whole number that a number is. -/
def whole? : Number → Option Int
  | .whole n => some n
  | .real _ => none

/-- The scale and the offset as whole numbers, if they are. -/
def wholeParts? (packing : Packing) : Option (Int × Int) := do
  let scale ← whole? (packing.scale.getD (.whole 1))
  let offset ← whole? (packing.offset.getD (.whole 0))
  return (scale, offset)

def unpackReal (packing : Packing) (x : Float) : Float :=
  let scaled := packing.scale.elim x fun scale => x * Absence.double scale
  packing.offset.elim scaled fun offset => scaled + Absence.double offset

def packReal (packing : Packing) (x : Float) : Float :=
  let moved := packing.offset.elim x fun offset => x - Absence.double offset
  packing.scale.elim moved fun scale => moved / Absence.double scale

/-- An integer of a type as a packing reads it: perhaps without its sign. -/
def seen (packing : Packing) (type : IntegerType) (n : Int) : Int :=
  if packing.isUnsigned ∧ n < 0 then n + 2 * type.limit else n

/-- An element of a variable of integers as a packing reads it. -/
def seenNumber (packing : Packing) (type : IntegerType) : Number → Number
  | .whole n => .whole (packing.seen type n)
  | number => number

/-- The elements that a variable of a file stands for. -/
def unpacked (var : Variable Float) : Column Float :=
  let packing := ofVariable var
  match var.column with
  | .integers type items =>
    let absence := (Absence.ofVariable var).map (packing.seenNumber type)
    let items := items.map (packing.seen type)
    if !packing.changes then .integers type items
    else
      match packing.wholeParts? with
      | some (scale, offset) =>
        .integers type (items.map fun n =>
          if absence.covers (.whole n) then n
          else IntegerType.int64.wrap (n * scale + offset))
      | none =>
        .reals (items.map fun n =>
          if absence.covers (.whole n) then Float.ofInt n
          else packing.unpackReal (Float.ofInt n))
  | .reals items =>
    if !packing.changes then .reals items
    else
      let absence := Absence.ofVariable var
      .reals (items.map fun x => if absence.covers (.real x) then x else packing.unpackReal x)

/-- The elements that a variable has to hold to stand for the given ones. -/
def packed (var : Variable Float) (data : Column Float) : Except Error (Column Float) :=
  let packing := ofVariable var
  if packing.scale.isNone && packing.offset.isNone then .ok data
  else
    let reals := data.toReals.map packing.packReal
    match data with
    | .integers type _ => do
      return .integers type (← reals.mapM fun x => do
        return type.wrap (← IntegerType.int64.fit (← (Scalar.roundEven x).mapError
          NotWhole.error)))
    | .reals _ => .ok (.reals reals)

end Packing

namespace Archive

/-- The file with the elements that its arrays stand for. -/
def unpacked (archive : Archive Float) : Archive Float :=
  { archive with dataset := ⟨archive.dataset.entries.map fun (name, var) =>
    (name, { var with column := Packing.unpacked var })⟩ }

/-- The value that lists an array. A single number that is absent has no dimension to show
its absence in, and reads as zero. -/
def listing (var : Variable Float) : Value :=
  let held := { var with column := Packing.unpacked var }
  let isAbsent : Bool := match var.shape, var.column with
    | [], .integers _ [n] => (Absence.ofVariable var).covers (.whole n)
    | [], .reals [x] => (Absence.ofVariable var).covers (.real x)
    | _, _ => false
  if isAbsent then .float 0.0 else held.listing

/-- Writes a dataset to a file that is still empty. -/
def writeDataset (dataset : Dataset Float) : Attempt (Archive Float) Unit :=
  storeDataset dataset Packing.packed

end Archive

end Regrid
