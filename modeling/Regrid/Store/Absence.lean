import Regrid.Scalar.Double
import Regrid.Store.Archive

/-!
Contract: elements of arrays that stand for no number.

Owns:
- the attributes by which a variable names such elements: marks, and the bounds within
  which all other elements are;
- the test of an element.

What an attribute names counts only if each of its numbers is an element of the variable's
type as it is. An absent bound leaves all elements in.
-/

namespace Regrid

/-- The elements of an array that stand for no number. -/
structure Absence where
  marks : List Number
  least : Option Number := none
  most : Option Number := none

namespace Absence

/-- The double nearest to a number. -/
def double : Number → Float
  | .whole n => Float.ofInt n
  | .real x => x

/-- A value as an element of a type, if nothing is lost by it. -/
def element? (type : ElementType) (value : Value) : Option Number :=
  match type with
  | .real => value.number?.map fun number => .real (double number)
  | .integer type => do
    let n ← value.wholeEqual?
    let _ ← (type.fit n).toOption
    return .whole n

/-- The elements that an attribute names; one that names anything else names none. -/
def elementsOf (var : Variable Float) (key : String) : List Number :=
  match var.get? key with
  | none => []
  | some stored =>
    (stored.value.leaves.mapM (element? var.column.elementType)).getD []

/-- The element that an attribute names alone. -/
def elementOf? (var : Variable Float) (key : String) : Option Number :=
  match elementsOf var key with
  | [element] => some element
  | _ => none

/-- The mark of elements that were never written, for a variable that does not name one.
The smallest integers have none. -/
def unwritten : ElementType → List Number
  | .integer .int8 => []
  | .integer type => [.whole type.fill]
  | .real => [.real realFill]

/-- The elements that a variable says are absent. One attribute can name both bounds. -/
def ofVariable (var : Variable Float) : Absence :=
  let fill := match elementsOf var Archive.fillKey with
    | [] => unwritten var.column.elementType
    | marks => marks
  let marks := elementsOf var "missing_value" ++ fill
  match elementsOf var "valid_range" with
  | [least, most] => ⟨marks, least, most⟩
  | _ => ⟨marks, elementOf? var "valid_min", elementOf? var "valid_max"⟩

/-- The absence of elements that are seen in another way. -/
def map (view : Number → Number) (absence : Absence) : Absence :=
  ⟨absence.marks.map view, absence.least.map view, absence.most.map view⟩

/-- Two elements are the same; an unknown one is the same as another. -/
def isSame : Number → Number → Bool
  | .real x, .real y => x == y || (x.isNaN && y.isNaN)
  | first, second => first.order? second == some .eq

/-- An element is absent. -/
def covers (absence : Absence) (element : Number) : Bool :=
  absence.marks.any (isSame element) ||
    absence.least.any (element.order? · == some .lt) ||
    absence.most.any (element.order? · == some .gt)

end Absence

end Regrid
