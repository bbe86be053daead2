import Regrid.Mesh.Geometry
import Std.Data.HashSet

/-!
Contract: meshes of axis-parallel rectangles between two boundary vectors.

Owns:
- evenly spaced boundary vectors;
- the checks on boundary vectors;
- the numbering of cells and corners, and the realization of some or all cells.

With `nx` columns, the cell in column `i` and row `j` has index `i + j * nx` and
address `(i, j)`, and the corner `ix`, `iy` has index `ix + iy * (nx + 1)`. Every
rectangle winds counter-clockwise.
-/

namespace Regrid.Rectilinear

variable {α : Type} [Scalar α]

/-- Boundaries from one bound to the other at the given spacing. The number of
steps is the rounded quotient, so the last boundary is near the upper bound. -/
def boundaries (lower upper spacing : α) : Except Error (List α) :=
  if Scalar.atMost spacing Scalar.zero then
    .error (.spacingNotPositive (Scalar.text spacing))
  else if Scalar.atMost upper lower then
    .error (.boundsNotIncreasing (Scalar.text upper) (Scalar.text lower))
  else
    match Scalar.roundEven ((upper - lower) / spacing) with
    | .ok steps => do
      checkLength (steps + 1)
      return (List.range (steps + 1).toNat).map fun step =>
        lower + spacing * Scalar.ofInt (Int.ofNat step)
    | .error reason => .error reason.error

/-- Some boundary fails to exceed the one before it. -/
def hasFlatStep : List α → Bool
  | [] => false
  | [_] => false
  | first :: second :: rest =>
    Scalar.atMost (second - first) Scalar.zero || hasFlatStep (second :: rest)

/-- Checks that an array is a vector of at least two increasing boundaries. -/
def checkBoundaries (axis : String) (array : Tensor α) : Except Error (List α) :=
  if array.rank ≠ 1 ∨ array.items.length < 2 then .error (.tooFewBoundaries axis)
  else if hasFlatStep array.items then .error (.boundariesNotIncreasing axis)
  else .ok array.items

/-- The corner indices of a rectangle, counter-clockwise from the lower left. -/
def corners (columns : Nat) (i j : Nat) : List Int :=
  let lowerLeft : Int := i + j * (columns + 1)
  let lowerRight := lowerLeft + 1
  let upperRight := lowerRight + (columns + 1)
  let upperLeft := lowerLeft + (columns + 1)
  [lowerLeft, lowerRight, upperRight, upperLeft]

/-- The addresses of all rectangles, row by row. -/
def addresses (columns rows : Nat) : List (Nat × Nat) :=
  (List.range rows).flatMap fun j => (List.range columns).map fun i => (i, j)

/-- The index of the rectangle at an address. -/
def cellIndex (columns : Nat) (address : Nat × Nat) : Int := address.1 + address.2 * columns

def rectangle (columns : Nat) (address : Nat × Nat) : Cell α where
  vertices := (corners columns address.1 address.2).map .int
  index := .int (cellIndex columns address)
  i := .int address.1
  j := .int address.2
  area := Scalar.unknown

/-- The corners of all rectangles, row by row, each with its index. -/
def lattice (xs ys : List α) : List (Int × Vertex α) :=
  ys.zipIdx.flatMap fun (y, iy) => xs.zipIdx.map fun (x, ix) =>
    let index : Int := ix + iy * xs.length
    (index, ⟨x, y, .int index⟩)

/-- The addresses that a test accepts, in order; the test may refuse to answer. -/
def select (accept : Nat × Nat → Except Error Bool) (candidates : List (Nat × Nat)) :
    Except Error (List (Nat × Nat)) :=
  candidates.filterM accept

/-- Realizes the accepted rectangles and the corners that they need in an empty
mesh, and computes their areas. The extents are those of the whole lattice. -/
def fill (grid : Grid α) (xs ys : List α) (accept : Nat × Nat → Except Error Bool) :
    Except Error (Grid α) := do
  let columns := xs.length - 1
  let rows := ys.length - 1
  let accepted ← select accept (addresses columns rows)
  let needed := Std.HashSet.ofList
    (accepted.flatMap fun address => corners columns address.1 address.2)
  let vertices := (lattice xs ys).filter fun entry => needed.contains entry.1
  let withVertices ← vertices.foldlM (fun mesh entry => mesh.insertVertex entry.1 entry.2) grid
  let withCells ← accepted.foldlM (fun mesh address =>
    let cell := rectangle columns address
    mesh.insertCell cell.vertices (cellIndex columns address) cell) withVertices
  let covered ← withCells.fixExtent .cell (.int (columns * rows))
  let covered ← covered.fixExtent .vertex (.int ((columns + 1) * (rows + 1)))
  covered.withPolygonAreas

/-- The mesh of rectangles between planar boundaries. -/
def planar (xs ys : Tensor α) (projection name parameterization : Value)
    (accept : Nat × Nat → Except Error Bool) : Except Error (Grid α) := do
  let xs ← checkBoundaries "x" xs
  let ys ← checkBoundaries "y" ys
  let parameterization ← readTag parameterization
  let grid ← Mesh.create name .xy .xy parameterization projection
  fill grid xs ys accept

/-- The first and last latitude lie on the globe. -/
def latitudesWithin (latitudes : List α) : Bool :=
  match latitudes.head?, latitudes.getLast? with
  | some first, some last =>
    !(Scalar.below first (Scalar.ofInt (-90)) || Scalar.below (Scalar.ofInt 90) last)
  | _, _ => true

/-- The mesh of rectangles between meridians and circles of latitude. -/
def global (longitudes latitudes : Tensor α) (name parameterization : Value)
    (accept : Nat × Nat → Except Error Bool) : Except Error (Grid α) := do
  let longitudes ← checkBoundaries "lon" longitudes
  let latitudes ← checkBoundaries "lat" latitudes
  if latitudesWithin latitudes then do
    let parameterization ← readTag parameterization
    let grid ← Mesh.create name .lonLat .lonLat parameterization (.text "")
    fill grid longitudes latitudes accept
  else .error .latitudeOutside

end Regrid.Rectilinear
