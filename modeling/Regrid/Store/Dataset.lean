import Regrid.Array.Position
import Regrid.Array.Row

/-!
Contract: named arrays with named dimensions and attributes.

Owns:
- element types and columns of elements;
- attributes, variables with their attributes in the order of creation, and datasets;
- edits of a dataset by name.

Does not own: what the arrays mean.
-/

namespace Regrid

/-- The integer element types. -/
inductive IntegerType where
  | int8
  | int32
  | int64
  deriving DecidableEq, Repr

namespace IntegerType

/-- The number of bits of an integer type. -/
def bits : IntegerType → Nat
  | int8 => 8
  | int32 => 32
  | int64 => 64

def name (type : IntegerType) : String := "int" ++ toString type.bits

/-- The least integer that is too large for the type. -/
def limit (type : IntegerType) : Nat := Nat.pow 2 (type.bits - 1)

/-- An integer that fits the type; any other one is refused. -/
def fit (type : IntegerType) (n : Int) : Except Error Int :=
  if -(type.limit : Int) ≤ n ∧ n < (type.limit : Int) then .ok n
  else .error .numberTooLarge

/-- The integer of the type that has the same lowest bits. -/
def wrap (type : IntegerType) (n : Int) : Int := Int.bmod n (2 * type.limit)

/-- A value as an integer of the type. An integer has to fit. Whatever has to be made an
integer first has to fit 64 bits, of which the type keeps the lowest. -/
def ofValue (type : IntegerType) : Value → Except Error Int
  | .bool b => .ok (if b then 1 else 0)
  | .int n => type.fit n
  | .list _ => .error .shapesDisagree
  | value => do return type.wrap (← int64.fit (← value.toInteger))

end IntegerType

/-- The type of the elements of a column. -/
inductive ElementType where
  | integer (type : IntegerType)
  | real
  deriving DecidableEq, Repr

def ElementType.name : ElementType → String
  | integer type => type.name
  | real => "float64"

/-- The elements of an array, all of one type. -/
inductive Column (α : Type) where
  | integers (type : IntegerType) (items : List Int)
  | reals (items : List α)
  deriving Repr

namespace Column

variable {α : Type}

def elementType : Column α → ElementType
  | integers type _ => .integer type
  | reals _ => .real

def length : Column α → Nat
  | integers _ items => items.length
  | reals items => items.length

/-- The elements as 64-bit integers; reals lose their fractions. -/
def toIntegers [Scalar α] : Column α → List Int
  | integers _ items => items
  | reals items => items.map Scalar.toInt64

/-- The elements as reals. -/
def toReals [Scalar α] : Column α → List α
  | integers _ items => items.map Scalar.ofInt
  | reals items => items

def toValues : Column Float → List Value
  | integers _ items => items.map .int
  | reals items => items.map .float

/-- A column of integers that are given as values. -/
def ofValues (type : IntegerType) (items : List Value) : Except Error (Column α) := do
  return integers type (← items.mapM type.ofValue)

end Column

/-- A value that accompanies a variable. A row is a list whose items are of one type, and
integers that are not said to be short take 64 bits where they are stored. -/
structure Attribute where
  value : Value
  isShort : Bool := false
  isRow : Bool := false
  deriving Inhabited

namespace Attribute

/-- The attribute that holds a value as it is. -/
def ofValue (value : Value) : Attribute := { value }

/-- The attribute that is one text. -/
def text (s : String) : Attribute := { value := .text s }

/-- The attribute that is one short integer. -/
def short (n : Int) : Attribute := { value := .int n, isShort := true }

/-- The attribute of a value, where a list becomes a row. -/
def row (value : Value) : Except Error Attribute := do
  return { value := ← value.uniform, isRow := true }

/-- The attribute with a row of one item replaced by the item. -/
def unwrapped (stored : Attribute) : Attribute :=
  if stored.isRow then { stored with value := stored.value.unwrapped } else stored

end Attribute

/-- An array with the names of its dimensions and its attributes in the order of
their creation. -/
structure Variable (α : Type) where
  dimensions : List String
  shape : List Nat
  column : Column α
  attributes : List (String × Attribute) := []

namespace Variable

variable {α : Type}

def get? (var : Variable α) (key : String) : Option Attribute := var.attributes.lookup key

/-- Puts an entry into a list of pairs; a key that is present keeps its place. -/
def putEntry {β : Type} (key : String) (value : β) : List (String × β) → List (String × β)
  | [] => [(key, value)]
  | (k, v) :: rest => if k = key then (k, value) :: rest else (k, v) :: putEntry key value rest

/-- Sets an attribute; one that is present keeps its place. -/
def putAttribute (key : String) (stored : Attribute) (var : Variable α) : Variable α :=
  { var with attributes := putEntry key stored var.attributes }

/-- Sets an attribute to a value, where a list becomes a row. -/
def setAttribute (key : String) (value : Value) (var : Variable α) :
    Except Error (Variable α) := do
  return var.putAttribute key (← Attribute.row value)

/-- Removes an attribute that has to be present. -/
def dropAttribute (key : String) (var : Variable α) : Except Error (Variable α) :=
  if (var.get? key).isSome then
    .ok { var with attributes := var.attributes.filter (·.1 ≠ key) }
  else .error (.keyAbsent (Text.quote key))

/-- The value that lists the array. An array without elements shows no rows. -/
def listing (var : Variable Float) : Value :=
  if var.column.length = 0 then .list []
  else (⟨var.shape, var.column.toValues⟩ : Tensor Value).toValue id

/-- An attribute only comments on the variable or on another attribute. -/
def isComment (key : String) : Bool := key == "comment" || key.endsWith ".comment"

end Variable

/-- Variables by name. -/
structure Dataset (α : Type) where
  entries : List (String × Variable α) := []

namespace Dataset

variable {α : Type}

instance : Inhabited (Dataset α) := ⟨{}⟩

def get? (dataset : Dataset α) (name : String) : Option (Variable α) :=
  dataset.entries.lookup name

/-- The variable under a name that has to be present. -/
def get (dataset : Dataset α) (name : String) : Except Error (Variable α) :=
  match dataset.get? name with
  | some var => .ok var
  | none => .error (.keyAbsent (Text.quote name))

def put (name : String) (var : Variable α) (dataset : Dataset α) : Dataset α :=
  ⟨Variable.putEntry name var dataset.entries⟩

/-- Changes the variable under a name that has to be present. -/
def change (name : String) (f : Variable α → Except Error (Variable α))
    (dataset : Dataset α) : Except Error (Dataset α) := do
  return dataset.put name (← f (← dataset.get name))

/-- Removes a variable that has to be present. -/
def drop (name : String) (dataset : Dataset α) : Except Error (Dataset α) :=
  if (dataset.get? name).isSome then .ok ⟨dataset.entries.filter (·.1 ≠ name)⟩
  else .error .wordUnknown

/-- The variables by ascending name. -/
def sorted (dataset : Dataset α) : List (String × Variable α) :=
  dataset.entries.mergeSort fun first second => decide (first.1 ≤ second.1)

/-- The dimensions that the variables use, with their sizes, each one once. -/
def dimensions (dataset : Dataset α) : List (String × Nat) :=
  dataset.entries.foldl (fun known entry =>
    (entry.2.dimensions.zip entry.2.shape).foldl (fun known dimension =>
      if known.any (·.1 = dimension.1) then known else known ++ [dimension]) known) []

end Dataset

end Regrid
