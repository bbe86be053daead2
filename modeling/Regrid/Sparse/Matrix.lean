import Regrid.Array.Position
import Regrid.Scalar

/-!
Contract: sparse matrices by rows, with the order in which entries are stored.

Owns:
- assembly from entries, where entries of one position are added in the order given;
- products with vectors, row sums and scaling of rows.

The order of stored entries decides the order of floating additions, so it is part
of a matrix. Stored zeros are entries like any others.
-/

namespace Regrid

/-- A sparse matrix: for each row its stored entries, each with its column. -/
structure SparseMatrix (α : Type) where
  columnCount : Nat
  rows : List (List (Nat × α))
  deriving Repr

namespace SparseMatrix

variable {α : Type}

def rowCount (matrix : SparseMatrix α) : Nat := matrix.rows.length

def entryCount (matrix : SparseMatrix α) : Nat :=
  matrix.rows.foldl (fun count row => count + row.length) 0

/-- All stored entries as row, column and value, row by row. -/
def entries (matrix : SparseMatrix α) : List (Nat × Nat × α) :=
  matrix.rows.zipIdx.flatMap fun (row, r) => row.map fun (c, x) => (r, c, x)

def entry? (matrix : SparseMatrix α) (row column : Nat) : Option α :=
  (matrix.rows[row]?).bind (List.lookup column)

variable [Scalar α]

/-- Adds a value onto the entry of a column, in a row sorted by column. -/
def addToRow (column : Nat) (x : α) : List (Nat × α) → List (Nat × α)
  | [] => [(column, x)]
  | (c, y) :: rest =>
    if column < c then (column, x) :: (c, y) :: rest
    else if column = c then (c, y + x) :: rest
    else (c, y) :: addToRow column x rest

/-- The matrix of a list of entries; entries of one position add up in the order
of the list, and each row is stored by ascending column. -/
def assemble (rowCount columnCount : Nat) (entries : List (Nat × Nat × α)) :
    SparseMatrix α where
  columnCount := columnCount
  rows := (List.range rowCount).map fun r =>
    (entries.filter fun entry => entry.1 = r).foldl
      (fun row entry => addToRow entry.2.1 entry.2.2 row) []

/-- The product of one row with a vector, in storage order. -/
def rowProduct (vector : List α) (row : List (Nat × α)) : α :=
  row.foldl (fun sum entry => sum + entry.2 * vector.getD entry.1 Scalar.zero) Scalar.zero

def mulVector (matrix : SparseMatrix α) (vector : List α) : List α :=
  matrix.rows.map (rowProduct vector)

/-- The sum of each row, in storage order. -/
def rowSums (matrix : SparseMatrix α) : List α :=
  matrix.rows.map fun row => row.foldl (fun sum entry => sum + entry.2) Scalar.zero

/-- A row multiplied by a factor. Products that vanish are not stored, a factor of
zero leaves no entry at all, and the order of storage is reversed. -/
def scaleRow (factor : α) (row : List (Nat × α)) : List (Nat × α) :=
  if Scalar.isZero factor then []
  else row.reverse.filterMap fun entry =>
    let product := Scalar.zero + factor * entry.2
    if Scalar.isZero product then none else some (entry.1, product)

def scaleRows (factors : List α) (matrix : SparseMatrix α) : SparseMatrix α :=
  { matrix with rows := factors.zipWith scaleRow matrix.rows }

end SparseMatrix

end Regrid
