import Regrid.Sparse.Operator

/-!
Contract: accumulation of weighted pairs of native indices into an operator.

Owns:
- the builder, and what each step leaves behind when it is refused;
- assembly of the operator.

A row is recorded before its column is looked up. When the column is refused, the
row stays recorded, and the builder can no longer be assembled.
-/

namespace Regrid

/-- Dense rows, dense columns and values, in the order in which they were added. -/
structure SparseBuilder (α : Type) where
  axes : Axes := .fresh
  rows : List Nat := []
  columns : List Nat := []
  values : List α := []

instance {α : Type} : Inhabited (SparseBuilder α) := ⟨{}⟩

namespace SparseBuilder

variable {α : Type}

def addRow (row : Int) : Attempt (SparseBuilder α) Unit :=
  .ofFunction fun builder => do
    let (dense, set) ← builder.axes.rows.add row
    return ((), { builder with
      axes := builder.axes.setRows set, rows := builder.rows ++ [dense] })

def addColumn (column : Int) : Attempt (SparseBuilder α) Unit :=
  .ofFunction fun builder => do
    let (dense, set) ← builder.axes.columns.add column
    return ((), { builder with
      axes := builder.axes.setColumns set, columns := builder.columns ++ [dense] })

def add (row column : Int) (x : α) : Attempt (SparseBuilder α) Unit := do
  addRow row
  addColumn column
  modify fun builder => { builder with values := builder.values ++ [x] }

/-- Adds a number at a row and column that are given as values. -/
def addAt (row column : Value) (x : α) : Attempt (SparseBuilder α) Unit := do
  addRow (← row.toInteger)
  addColumn (← column.toInteger)
  modify fun builder => { builder with values := builder.values ++ [x] }

/-- Adds a value at a row and column, all three given as values. -/
def addValue (row column x : Value) : Attempt (SparseBuilder Float) Unit := do
  addRow (← row.toInteger)
  addColumn (← column.toInteger)
  let x ← x.toReal
  modify fun builder => { builder with values := builder.values ++ [x] }

/-- Adds triples of row, column and value in order; those before a refused one stay. -/
def extend (triples : Value) : Attempt (SparseBuilder Float) Unit := do
  (← triples.elements).forM fun entry => do
    let (row, column, x) ← entry.triple
    addValue row column x

/-- Adds every entry of a list of native entries. -/
def addEntries (native : NativeEntries α) : Attempt (SparseBuilder α) Unit :=
  native.entries.forM fun (row, column, x) => add row column x

def fixRows (extent : Int) : Attempt (SparseBuilder α) Unit :=
  .ofFunction fun builder => do
    return ((), { builder with
      axes := builder.axes.setRows (← builder.axes.rows.fixExtent extent) })

def fixColumns (extent : Int) : Attempt (SparseBuilder α) Unit :=
  .ofFunction fun builder => do
    return ((), { builder with
      axes := builder.axes.setColumns (← builder.axes.columns.fixExtent extent) })

/-- Fixes the native shape, rows before columns. -/
def fixShape (rows columns : Value) : Attempt (SparseBuilder α) Unit := do
  fixRows (← rows.toInteger)
  fixColumns (← columns.toInteger)

/-- Fixes the native shape that a value holds as its first two elements. The columns are
looked up after the rows are fixed. -/
def fixShapeOf (shape : Value) : Attempt (SparseBuilder α) Unit := do
  fixRows (← (← shape.element 0).toInteger)
  fixColumns (← (← shape.element 1).toInteger)

def size (builder : SparseBuilder α) : Nat := builder.values.length

/-- The operator of everything that was added. -/
def toOperator [Scalar α] (builder : SparseBuilder α) : Except Error (DenseOperator α) :=
  let count := builder.values.length
  if builder.rows.length = count ∧ builder.columns.length = count then
    .ok
      { matrix := .assemble builder.axes.rows.denseExtent builder.axes.columns.denseExtent
          (builder.rows.zip (builder.columns.zip builder.values))
        axes := builder.axes
        nativeShape := (builder.axes.rows.sparseExtent, builder.axes.columns.sparseExtent) }
  else .error .shapesDisagree

end SparseBuilder

/-- The operator of a list of triples inside a native shape, on the given axes. The
shape is fixed after all triples are read. -/
def operatorOfEntries (triples shape : Value) :
    Attempt (SparseBuilder Float) (DenseOperator Float) := do
  SparseBuilder.extend triples
  SparseBuilder.fixShapeOf shape
  (← get).toOperator

/-- Entries in parallel lists of rows, columns and values. The shape is a pair of whole
numbers, and every entry lies inside it. -/
def NativeEntries.ofValues (shape rows columns values : Value) :
    Except Error (NativeEntries Float) := do
  let sizes ← (← shape.elements).mapM Value.toWhole
  let [rowCount, columnCount] := sizes | throw Error.shapesDisagree
  if rowCount < 0 ∨ columnCount < 0 then throw Error.shapesDisagree
  let _ ← word (max rowCount columnCount)
  let rows ← Tensor.ofWords rows
  let columns ← Tensor.ofWords columns
  let values ← Tensor.ofReals values
  let agree := rows.rank = 1 ∧ columns.rank = 1 ∧ values.rank = 1 ∧
    rows.shape = values.shape ∧ columns.shape = values.shape
  let inside := rows.items.all (fun r => 0 ≤ r && r < rowCount) &&
    columns.items.all (fun c => 0 ≤ c && c < columnCount)
  if agree ∧ inside then
    return ⟨(rowCount, columnCount), rows.items.zip (columns.items.zip values.items)⟩
  else throw Error.shapesDisagree

end Regrid
