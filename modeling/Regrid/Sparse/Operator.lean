import Regrid.Sparse.IndexSet
import Regrid.Sparse.Matrix

/-!
Contract: operators between two native index spaces.

Owns:
- the two axes of an operator, which may be one and the same index set;
- operators as dense matrices with their axes, seen in native indices.

An operator is read through its axes as they are now: when they have grown since
the matrix was assembled, native indices beyond the matrix are refused.
-/

namespace Regrid

/-- The index sets of rows and columns: two of them, or one for both. -/
inductive Axes where
  | separate (rows columns : IndexSet)
  | joint (both : IndexSet)
  deriving Repr

namespace Axes

def rows : Axes → IndexSet
  | separate rows _ => rows
  | joint both => both

def columns : Axes → IndexSet
  | separate _ columns => columns
  | joint both => both

def setRows (set : IndexSet) : Axes → Axes
  | separate _ columns => separate set columns
  | joint _ => joint set

def setColumns (set : IndexSet) : Axes → Axes
  | separate rows _ => separate rows set
  | joint _ => joint set

/-- Two new index sets. -/
def fresh : Axes := separate {} {}

instance : Inhabited Axes := ⟨fresh⟩

end Axes

/-- Entries in native indices inside a native shape. -/
structure NativeEntries (α : Type) where
  shape : Int × Int
  entries : List (Int × Int × α)

/-- A matrix in dense numbers, the axes that number it, and the native shape. -/
structure DenseOperator (α : Type) where
  matrix : SparseMatrix α
  axes : Axes
  nativeShape : Int × Int

namespace DenseOperator

variable {α : Type} [Scalar α]

/-- The value at native indices; zero where an axis does not hold the index, the rows
being asked first. -/
def value (operator : DenseOperator α) (row column : Value) : Except Error α := do
  let some row ← operator.axes.rows.member? row | return Scalar.zero
  let some column ← operator.axes.columns.member? column | return Scalar.zero
  let r ← operator.axes.rows.toDense row
  let c ← operator.axes.columns.toDense column
  if r < operator.matrix.rowCount ∧ c < operator.matrix.columnCount then
    return (operator.matrix.entry? r c).getD Scalar.zero
  else throw .positionOutside

/-- The stored entries in native indices. -/
def toNative (operator : DenseOperator α) : Except Error (NativeEntries α) := do
  let rows ← operator.axes.rows.nativeWords
  let columns ← operator.axes.columns.nativeWords
  let entries ← operator.matrix.entries.mapM fun (r, c, x) => do
    return (← itemAt rows r, ← itemAt columns c, x)
  return ⟨(← word operator.nativeShape.1, ← word operator.nativeShape.2), entries⟩

/-- The product with a native vector as a native vector; rows that the operator
does not touch hold `fill`. A column of one item per row counts as a vector, and its
product is a column again. -/
def apply (fill : α) (operator : DenseOperator α) (vector : Tensor α) :
    Except Error (List α) := do
  let dense ← operator.axes.columns.gather vector
  let product := operator.matrix.mulVector dense.items
  if dense.shape.head? ≠ some operator.matrix.columnCount ∨ 2 < dense.rank then
    throw Error.shapesDisagree
  operator.axes.rows.spread fill
    ⟨operator.matrix.rowCount :: dense.shape.drop 1, product⟩

/-- The operator with each dense row multiplied by its factor. Factors come as a vector:
a single number is no list of factors, and rows of factors are refused. -/
def scaleRows (factors : Tensor α) (operator : DenseOperator α) :
    Except Error (DenseOperator α) :=
  if factors.rank = 0 then .error .wrongType
  else if factors.shape = [operator.matrix.rowCount] then
    .ok { operator with matrix := operator.matrix.scaleRows factors.items }
  else .error .shapesDisagree

end DenseOperator

end Regrid
