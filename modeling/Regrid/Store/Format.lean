import Regrid.Array.Text
import Regrid.Store.Dataset

/-!
Contract: the formats of files, and attributes as a file holds them.

Owns:
- the formats and their names;
- what a file keeps of a value that becomes an attribute;
- the text by which messages quote an attribute of a file.
-/

namespace Regrid

/-- The data models of files. -/
inductive FileFormat where
  | current
  | currentClassic
  | classic
  | classicLargeOffset
  | classicLargeData
  deriving DecidableEq, Repr, Inhabited

namespace FileFormat

/-- The formats that a configuration can choose, by ascending name. -/
def offered : List FileFormat := [classicLargeOffset, classic, current, currentClassic]

def all : List FileFormat := classicLargeData :: offered

def name : FileFormat → String
  | current => "NETCDF4"
  | currentClassic => "NETCDF4_CLASSIC"
  | classic => "NETCDF3_CLASSIC"
  | classicLargeOffset => "NETCDF3_64BIT_OFFSET"
  | classicLargeData => "NETCDF3_64BIT_DATA"

/-- The format of a name, any other name being refused. One format has a shorter name
besides its own. -/
def ofName (name : String) : Except Error FileFormat :=
  if name = "NETCDF3_64BIT" then .ok classicLargeOffset
  else
    match all.find? fun format => format.name = name with
    | some format => .ok format
    | none => .error .wordUnknown

/-- The format holds integers of 64 bits, and integers without a sign. -/
def hasLongIntegers : FileFormat → Bool
  | current | classicLargeData => true
  | _ => false

/-- The format is one of the two that are kept as a hierarchy. -/
def isHierarchical : FileFormat → Bool
  | current | currentClassic => true
  | _ => false

end FileFormat

namespace Attribute

/-- A text without the NULs at its end. -/
def withoutEnd (s : String) : String :=
  String.ofList (s.toList.reverse.dropWhile fun c => c.toNat = 0).reverse

/-- A text up to its first NUL. -/
def untilNul (s : String) : String :=
  String.ofList (s.toList.takeWhile fun c => c.toNat ≠ 0)

/-- A text without NULs. -/
def withoutNuls (s : String) : String := String.ofList (s.toList.filter fun c => c.toNat ≠ 0)

def isPlainText (s : String) : Bool := s.toList.all fun c => c.toNat < 0x80

/-- One text as a format keeps it. Characters are kept one by one and lose their NULs;
only the current format keeps other texts, as a whole up to the first NUL. -/
def keptText (format : FileFormat) (s : String) : String :=
  if format = .current ∧ !isPlainText s then untilNul s else withoutNuls s

/-- The value as a vector whose items are of one type. -/
def vector (value : Value) : Except Error (Tensor Value) := do
  let array ← value.toArray
  if 1 < array.rank then throw .shapesDisagree
  return array

/-- The attribute that holds a vector, a single item standing for itself. -/
def ofVector (array : Tensor Value) (isShort : Bool) : Attribute :=
  ⟨(array.toValue id).unwrapped, isShort, true⟩

/-- What a file keeps of an attribute. Long integers lose their upper bits where a format
has no room for them, and types that a format lacks are refused. -/
def kept (format : FileFormat) (given : Attribute) : Except Error Attribute := do
  let array ← vector given.value
  match ItemType.common array.items with
  | .truth | .mixed => throw .wrongType
  | .text =>
    if array.items.any fun item => !Text.isWhole item.plain then throw .textUnwritable
    if array.items.length = 1 then
      return ofVector (array.map fun item => .text (keptText format (withoutEnd item.plain))) false
    else if format = .current then
      return ofVector (array.map fun item => .text (untilNul item.plain)) false
    else throw .textsRefused
  | .signed =>
    if given.isShort || !format.hasLongIntegers then
      let short (item : Value) : Value :=
        match item with
        | .int n => .int (IntegerType.int32.wrap n)
        | item => item
      return ofVector (array.map short) true
    else return ofVector array false
  | .unsigned =>
    if format.hasLongIntegers then return ofVector array false
    else throw .attributeRefused
  | .real => return ofVector array false

/-- What a hierarchical file has to agree on to write over an attribute in its place: the
type, its size, and the number of items or of characters. -/
def form (stored : Attribute) : ItemType × Bool × Nat :=
  let items := stored.value.leaves
  match items with
  | [.text s] =>
    if isPlainText s then (.text, true, max 1 s.length) else (.text, false, 1)
  | items => (ItemType.common items, stored.isShort, items.length)

/-- The text by which messages quote an attribute of a file: a number is shown with the
type in which it is held. -/
def shown (stored : Attribute) : String :=
  match stored.value with
  | .int n =>
    let type :=
      if stored.isShort then "int32" else if ItemType.ofValue (.int n) = .unsigned then "uint64"
      else "int64"
    "np." ++ type ++ "(" ++ toString n ++ ")"
  | .float x => "np.float64(" ++ (Value.float x).shown ++ ")"
  | value => value.shown

/-- The text by which messages quote an attribute of a file that is taken as it is held: a
row of numbers is an array. -/
def shownWhole (stored : Attribute) : String :=
  match stored.value with
  | .list (.text first :: rest) => (Value.list (.text first :: rest)).shown
  | .list items =>
    match (Value.list items).toArray with
    | .ok array => ArrayText.quoted array
    | .error _ => stored.shown
  | _ => stored.shown

/-- The text of an attribute of a file that is a name: texts come as a list, numbers as
a row. -/
def label (stored : Attribute) : String :=
  match stored.value with
  | .list (.text first :: rest) => (Value.list (.text first :: rest)).shown
  | value => value.rowText

end Attribute

end Regrid
