import Regrid.Mesh.Rectilinear
import Regrid.Proofs.Mesh.Geometry
import Regrid.Proofs.Mesh.Insertion
import Regrid.Proofs.Polygon
import Regrid.Proofs.Scalar.Order

/-!
Contract: the mesh of rectangles between two boundary vectors is the one that it describes.

Owns:
- the numbering of cells and corners, by which no two of them collide;
- the built mesh as a function of the boundaries and of the rectangles that were chosen.

Does not own: what is left when a mesh is filtered.
-/

namespace Regrid.Rectilinear

open Attempt

variable {α : Type}

/-! ### Numbers row by row -/

/-- Places counted row by row are counted one by one. -/
theorem flatMap_range_rows (columns rows : Nat) :
    ((List.range rows).flatMap fun j => (List.range columns).map fun i => i + j * columns) =
      List.range (rows * columns) := by
  induction rows with
  | zero => simp
  | succ rows inductionHypothesis =>
      rw [List.range_succ, List.flatMap_append, inductionHypothesis, Nat.succ_mul, List.range_add,
        List.flatMap_singleton]
      simp only [Nat.add_comm]

/-- A place is told from its number by division. -/
theorem eq_of_place {columns i j i' j' : Nat} (inside : i < columns) (inside' : i' < columns)
    (same : i + j * columns = i' + j' * columns) : i = i' ∧ j = j' := by
  have column : i = i' := by
    have rest := congrArg (· % columns) same
    simpa [Nat.add_mul_mod_self_right, Nat.mod_eq_of_lt, inside, inside'] using rest
  subst column
  have positive : 0 < columns := by omega
  exact ⟨rfl, Nat.eq_of_mul_eq_mul_right positive (by omega)⟩

theorem mem_addresses {columns rows i j : Nat} :
    (i, j) ∈ addresses columns rows ↔ i < columns ∧ j < rows := by
  simp [addresses, and_comm]

theorem map_cellIndex_addresses (columns rows : Nat) :
    (addresses columns rows).map (cellIndex columns) =
      (List.range (rows * columns)).map Nat.cast := by
  rw [← flatMap_range_rows, addresses, List.map_flatMap, List.map_flatMap]
  simp only [List.map_map]
  refine List.flatMap_congr fun j _ => List.map_congr_left fun i _ => ?_
  simp [cellIndex]

theorem map_fst_lattice (xs ys : List α) :
    (lattice xs ys).map (·.1) = (List.range (ys.length * xs.length)).map Nat.cast := by
  have numbers : ∀ {ι : Type} (items : List ι),
      List.range items.length = items.zipIdx.map (·.2) := by
    intro ι items
    rw [List.range_eq_range', List.zipIdx_map_snd]
  rw [← flatMap_range_rows, lattice, List.map_flatMap, List.map_flatMap, numbers xs, numbers ys,
    List.flatMap_map]
  simp only [List.map_map]
  refine List.flatMap_congr fun row _ => List.map_congr_left fun column _ => ?_
  simp

theorem mem_lattice {xs ys : List α} {entry : Int × Vertex α} :
    entry ∈ lattice xs ys ↔ ∃ (ix iy : Nat) (x y : α), xs[ix]? = some x ∧ ys[iy]? = some y ∧
      entry = ((ix : Int) + iy * xs.length, ⟨x, y, .int ((ix : Int) + iy * xs.length)⟩) := by
  simp only [lattice, List.mem_flatMap, List.mem_map, Prod.exists, List.mk_mem_zipIdx_iff_getElem?]
  constructor
  · rintro ⟨y, iy, row, x, ix, column, rfl⟩
    exact ⟨ix, iy, x, y, column, row, rfl⟩
  · rintro ⟨ix, iy, x, y, column, row, rfl⟩
    exact ⟨y, iy, row, x, ix, column, rfl⟩

/-! ### Corners and rectangles -/

/-- The corners of the rectangle at an address, counter-clockwise from the lower left. -/
def outline (xs ys : List α) (address : Nat × Nat) : Polygon α :=
  match xs[address.1]?, xs[address.1 + 1]?, ys[address.2]?, ys[address.2 + 1]? with
  | some left, some right, some bottom, some top => .box left right bottom top
  | _, _, _, _ => []

/-- The corners that some of the chosen rectangles have. -/
def vertexRows (xs ys : List α) (chosen : List (Nat × Nat)) : List (Int × Vertex α) :=
  (lattice xs ys).filter fun entry => chosen.any fun address =>
    (corners (xs.length - 1) address.1 address.2).contains entry.1

variable {xs ys : List α} {chosen : List (Nat × Nat)}

theorem nodup_range_cast (count : Nat) : ((List.range count).map (Nat.cast : Nat → Int)).Nodup :=
  List.nodup_range.map fun _ _ same => Int.ofNat.inj same

theorem nodup_vertexRows (xs ys : List α) (chosen : List (Nat × Nat)) :
    ((vertexRows xs ys chosen).map (·.1)).Nodup := by
  have numbers := nodup_range_cast (ys.length * xs.length)
  rw [← map_fst_lattice] at numbers
  exact numbers.sublist (List.filter_sublist.map _)

theorem vertexRows_bounds {key : Int} (used : key ∈ (vertexRows xs ys chosen).map (·.1)) :
    0 ≤ key ∧ key < ys.length * xs.length := by
  have inLattice := (List.filter_sublist.map _).subset used
  rw [map_fst_lattice] at inLattice
  obtain ⟨number, below, rfl⟩ := List.mem_map.mp inLattice
  have bound := List.mem_range.mp below
  exact ⟨Int.natCast_nonneg number, by exact_mod_cast bound⟩

/-- The corners of a rectangle are numbered like those of the lattice. -/
theorem corners_eq (several : 2 ≤ xs.length) (i j : Nat) :
    corners (xs.length - 1) i j =
      [(i : Int) + j * xs.length, ((i + 1 : Nat) : Int) + j * xs.length,
        ((i + 1 : Nat) : Int) + (j + 1 : Nat) * xs.length,
        (i : Int) + (j + 1 : Nat) * xs.length] := by
  obtain ⟨columns, width⟩ : ∃ columns, xs.length = columns + 1 := ⟨xs.length - 1, by omega⟩
  rw [width, Nat.add_sub_cancel]
  simp only [corners, List.cons.injEq, and_true]
  push_cast
  refine ⟨rfl, ?_, ?_, ?_⟩ <;> ring

theorem mem_corners (several : 2 ≤ xs.length) {i j : Nat} {key : Int} :
    key ∈ corners (xs.length - 1) i j ↔ ∃ ix iy : Nat, (ix = i ∨ ix = i + 1) ∧
      (iy = j ∨ iy = j + 1) ∧ key = (ix : Int) + iy * xs.length := by
  rw [corners_eq several]
  simp only [List.mem_cons, List.not_mem_nil, or_false]
  constructor
  · rintro (rfl | rfl | rfl | rfl)
    · exact ⟨i, j, .inl rfl, .inl rfl, rfl⟩
    · exact ⟨i + 1, j, .inr rfl, .inl rfl, rfl⟩
    · exact ⟨i + 1, j + 1, .inr rfl, .inr rfl, rfl⟩
    · exact ⟨i, j + 1, .inl rfl, .inr rfl, rfl⟩
  · rintro ⟨ix, iy, rfl | rfl, rfl | rfl, rfl⟩
    · exact .inl rfl
    · exact .inr (.inr (.inr rfl))
    · exact .inr (.inl rfl)
    · exact .inr (.inr (.inl rfl))

/-- The corners that are realized lie beside and above a chosen address. -/
theorem mem_vertexRows (several : 2 ≤ xs.length)
    (inside : chosen.Sublist (addresses (xs.length - 1) (ys.length - 1)))
    {entry : Int × Vertex α} :
    entry ∈ vertexRows xs ys chosen ↔ ∃ (ix iy : Nat) (x y : α), xs[ix]? = some x ∧
      ys[iy]? = some y ∧ entry = ((ix : Int) + iy * xs.length, ⟨x, y, .int (ix + iy * xs.length)⟩) ∧
        ∃ i j, (i, j) ∈ chosen ∧ (ix = i ∨ ix = i + 1) ∧ (iy = j ∨ iy = j + 1) := by
  simp only [vertexRows, List.mem_filter, mem_lattice, List.any_eq_true, List.contains_iff_mem,
    mem_corners several, Prod.exists]
  constructor
  · rintro ⟨⟨ix, iy, x, y, column, row, rfl⟩, i, j, member, ix', iy', beside, above, same⟩
    have bound := (List.getElem?_eq_some_iff.mp column).1
    have bounds := mem_addresses.mp (inside.subset member)
    have place : (ix : Int) + iy * xs.length = ix' + iy' * xs.length := same
    -- the corner is the one that the lattice has under its number
    obtain ⟨rfl, rfl⟩ := eq_of_place bound (by omega : ix' < xs.length) (by exact_mod_cast place)
    exact ⟨ix, iy, x, y, column, row, rfl, i, j, member, beside, above⟩
  · rintro ⟨ix, iy, x, y, column, row, rfl, i, j, member, beside, above⟩
    exact ⟨⟨ix, iy, x, y, column, row, rfl⟩, i, j, member, ix, iy, beside, above, rfl⟩

/-- Two neighbouring boundaries. -/
def Spans (boundaries : List α) (place : Nat) (lower upper : α) : Prop :=
  boundaries[place]? = some lower ∧ boundaries[place + 1]? = some upper

theorem exists_spans {boundaries : List α} {place : Nat} (inside : place < boundaries.length - 1) :
    ∃ lower upper, Spans boundaries place lower upper :=
  ⟨_, _, List.getElem?_eq_getElem (by omega), List.getElem?_eq_getElem (by omega)⟩

theorem Spans.inside {boundaries : List α} {place : Nat} {lower upper : α}
    (span : Spans boundaries place lower upper) : place < boundaries.length - 1 := by
  have bound := (List.getElem?_eq_some_iff.mp span.2).1
  omega

theorem outline_eq {i j : Nat} {left right bottom top : α} (column : Spans xs i left right)
    (row : Spans ys j bottom top) :
    outline xs ys (i, j) = .box left right bottom top := by
  obtain ⟨first, second⟩ := column
  obtain ⟨lower, upper⟩ := row
  simp only [outline, first, second, lower, upper]

/-- In a mesh with the corners of the chosen rectangles, each of them has its outline. -/
theorem polygon_rectangle {grid : Grid α} (several : 2 ≤ xs.length)
    (inside : chosen.Sublist (addresses (xs.length - 1) (ys.length - 1)))
    (rows : grid.vertices.entries = vertexRows xs ys chosen) {address : Nat × Nat}
    (member : address ∈ chosen) {cell : Cell α}
    (references : cell.vertices = (corners (xs.length - 1) address.1 address.2).map .int) :
    grid.polygon cell = .ok (outline xs ys address) := by
  obtain ⟨i, j⟩ := address
  have bounds := mem_addresses.mp (inside.subset member)
  obtain ⟨left, right, column⟩ := exists_spans bounds.1
  obtain ⟨bottom, top, row⟩ := exists_spans bounds.2
  have distinct : grid.vertices.keys.Nodup := by
    rw [Table.keys, rows]
    exact nodup_vertexRows ..
  have corner : ∀ (ix iy : Nat) (x y : α), xs[ix]? = some x → ys[iy]? = some y →
      (ix = i ∨ ix = i + 1) → (iy = j ∨ iy = j + 1) →
      (do return (← grid.vertices.getAt (.int ((ix : Int) + iy * xs.length))).point) =
        Except.ok (ε := Error) (x, y) := by
    intro ix iy x y first second beside above
    have realized : ((ix : Int) + iy * xs.length, ⟨x, y, .int (ix + iy * xs.length)⟩) ∈
        grid.vertices.entries := by
      rw [rows]
      exact (mem_vertexRows several inside).mpr
        ⟨ix, iy, x, y, first, second, rfl, i, j, member, beside, above⟩
    rw [Table.getAt_of_mem distinct realized (Value.integerKey?_int _)]
    rfl
  rw [outline_eq column row, Mesh.polygon, references, corners_eq several, mapM_eq_ok_iff]
  refine .cons ?_ (.cons ?_ (.cons ?_ (.cons ?_ .nil)))
  · exact corner i j left bottom column.1 row.1 (.inl rfl) (.inl rfl)
  · exact corner (i + 1) j right bottom column.2 row.1 (.inr rfl) (.inl rfl)
  · exact corner (i + 1) (j + 1) right top column.2 row.2 (.inr rfl) (.inr rfl)
  · exact corner i (j + 1) left top column.1 row.2 (.inl rfl) (.inr rfl)

/-- Every corner of a chosen rectangle is in the lattice. -/
theorem corners_subset (several : 2 ≤ xs.length)
    (inside : chosen.Sublist (addresses (xs.length - 1) (ys.length - 1))) {address : Nat × Nat}
    (member : address ∈ chosen) {key : Int}
    (corner : key ∈ corners (xs.length - 1) address.1 address.2) :
    key ∈ (vertexRows xs ys chosen).map (·.1) := by
  obtain ⟨i, j⟩ := address
  have bounds := mem_addresses.mp (inside.subset member)
  obtain ⟨ix, iy, beside, above, rfl⟩ := (mem_corners several).mp corner
  have column : ix < xs.length := by omega
  have row : iy < ys.length := by omega
  exact List.mem_map.mpr ⟨_, (mem_vertexRows several inside).mpr ⟨ix, iy, _, _,
    List.getElem?_eq_getElem column, List.getElem?_eq_getElem row, rfl, i, j, member, beside,
    above⟩, rfl⟩

/-- The extent of the whole lattice has room for every corner. -/
theorem topOf_vertexRows_lt (several : 2 ≤ xs.length) (chosen : List (Nat × Nat)) :
    Table.topOf ((vertexRows xs ys chosen).map (·.1)) <
      (((xs.length - 1 : Nat) : Int) + 1) * (((ys.length - 1 : Nat) : Int) + 1) := by
  have room : (ys.length : Int) * xs.length ≤
      (((xs.length - 1 : Nat) : Int) + 1) * (((ys.length - 1 : Nat) : Int) + 1) := by
    have width : ((xs.length - 1 : Nat) : Int) + 1 = xs.length := by omega
    have height : (ys.length : Int) ≤ ((ys.length - 1 : Nat) : Int) + 1 := by omega
    rw [width, mul_comm]
    exact Int.mul_le_mul_of_nonneg_left height (Int.natCast_nonneg _)
  have natural : (0 : Int) ≤ (((xs.length - 1 : Nat) : Int) + 1) *
      (((ys.length - 1 : Nat) : Int) + 1) :=
    Int.le_trans (Int.mul_nonneg (Int.natCast_nonneg _) (Int.natCast_nonneg _)) room
  refine (Table.topOf_lt_iff natural).mpr fun key used => ?_
  exact lt_of_lt_of_le (vertexRows_bounds used).2 room

/-- Rows with different natural keys make a table of their own. -/
theorem foldlM_insert_empty {ι : Type} (kind : EntityKind) {rows : List (Int × ι)}
    (distinct : (rows.map (·.1)).Nodup) (natural : ∀ key ∈ rows.map (·.1), 0 ≤ key) :
    rows.foldlM (Table.insert kind) {} = .ok ⟨rows, Table.topOf (rows.map (·.1)), none⟩ := by
  refine (Table.foldlM_insert_eq_ok_iff kind rows rfl _).mpr ⟨distinct, ?_, ?_⟩
  · intro row member
    exact ⟨natural row.1 (List.mem_map_of_mem member), List.not_mem_nil⟩
  · simp only [Table.append, List.nil_append, Table.topOf]

/-- A mesh with the corners of the chosen rectangles for its vertices. -/
def withCorners (mesh : Grid α) (xs ys : List α) (chosen : List (Nat × Nat)) : Grid α :=
  { mesh with
    vertices := ⟨vertexRows xs ys chosen, Table.topOf ((vertexRows xs ys chosen).map (·.1)), none⟩ }

theorem foldlM_insertVertex_corners {mesh : Grid α} (noVertices : mesh.vertices = {})
    (xs ys : List α) (chosen : List (Nat × Nat)) :
    (vertexRows xs ys chosen).foldlM
      (fun (mesh : Grid α) entry => mesh.insertVertex entry.1 entry.2) mesh =
        .ok (withCorners mesh xs ys chosen) := by
  refine (Mesh.foldlM_insertVertex_eq_ok_iff ..).mpr ⟨_, ?_, rfl⟩
  rw [noVertices]
  exact foldlM_insert_empty .vertex (nodup_vertexRows ..) fun key used =>
    (vertexRows_bounds used).1

variable [Scalar α]

/-! ### Checks -/

/-- An array is a vector of at least two boundaries, each of them below the next one. -/
structure Ascending (boundaries : Tensor α) : Prop where
  vector : boundaries.rank = 1
  several : 2 ≤ boundaries.items.length
  ascending : boundaries.items.IsChain fun first second => Scalar.below first second = true

theorem Ascending.width {boundaries : Tensor α} (ascending : Ascending boundaries) :
    (boundaries.items.length : Int) = (boundaries.items.length - 1 : Nat) + 1 := by
  have several := ascending.several
  omega

theorem Ascending.below {boundaries : Tensor α} (ascending : Ascending boundaries) {place : Nat}
    {lower upper : α} (span : Spans boundaries.items place lower upper) :
    Scalar.below lower upper = true := by
  obtain ⟨bound, rfl⟩ := List.getElem?_eq_some_iff.mp span.2
  obtain ⟨_, rfl⟩ := List.getElem?_eq_some_iff.mp span.1
  exact List.isChain_iff_getElem.mp ascending.ascending place bound

theorem hasFlatStep_of_ascending [Scalar.Separated α] {items : List α}
    (ascending : items.IsChain fun first second => Scalar.below first second = true) :
    hasFlatStep items = false := by
  induction items with
  | nil => rfl
  | cons first rest inductionHypothesis =>
      cases rest with
      | nil => rfl
      | cons second rest =>
          obtain ⟨step, later⟩ := List.isChain_cons_cons.mp ascending
          rw [hasFlatStep, Scalar.Separated.atMost_sub step, inductionHypothesis later]
          rfl

theorem Ascending.checkBoundaries [Scalar.Separated α] {boundaries : Tensor α}
    (ascending : Ascending boundaries) (axis : String) :
    checkBoundaries axis boundaries = .ok boundaries.items := by
  have enough : ¬ (boundaries.rank ≠ 1 ∨ boundaries.items.length < 2) := by
    rintro (other | few)
    · exact other ascending.vector
    · exact absurd ascending.several (by omega)
  have steep := hasFlatStep_of_ascending ascending.ascending
  rw [Rectilinear.checkBoundaries, if_neg enough, steep]
  rfl

/-! ### Filling an empty mesh -/

/-- The chosen rectangles with their areas. -/
def cellRows (xs ys : List α) (chosen : List (Nat × Nat)) : List (Int × Cell α) :=
  chosen.map fun address => (cellIndex (xs.length - 1) address,
    { rectangle (α := α) (xs.length - 1) address with area := (outline xs ys address).area })

/-- A mesh with the chosen rectangles and their corners, in the extents of the whole lattice. -/
def built (mesh : Grid α) (xs ys : List α) (chosen : List (Nat × Nat)) : Grid α :=
  { mesh with
    vertices := ⟨vertexRows xs ys chosen, Table.topOf ((vertexRows xs ys chosen).map (·.1)),
      some ((((xs.length - 1 : Nat) : Int) + 1) * (((ys.length - 1 : Nat) : Int) + 1))⟩
    cells := ⟨cellRows xs ys chosen, Table.topOf ((cellRows xs ys chosen).map (·.1)),
      some (((xs.length - 1 : Nat) : Int) * ((ys.length - 1 : Nat) : Int))⟩ }

theorem map_fst_cellRows (xs ys : List α) (chosen : List (Nat × Nat)) :
    (cellRows xs ys chosen).map (·.1) = chosen.map (cellIndex (xs.length - 1)) := by
  simp [cellRows, Function.comp_def]

theorem nodup_cellRows
    (inside : chosen.Sublist (addresses (xs.length - 1) (ys.length - 1))) :
    ((cellRows xs ys chosen).map (·.1)).Nodup := by
  have numbers := nodup_range_cast ((ys.length - 1) * (xs.length - 1))
  rw [← map_cellIndex_addresses] at numbers
  rw [map_fst_cellRows]
  exact numbers.sublist (inside.map _)

theorem cellRows_bounds (inside : chosen.Sublist (addresses (xs.length - 1) (ys.length - 1)))
    {key : Int} (used : key ∈ (cellRows xs ys chosen).map (·.1)) :
    0 ≤ key ∧ key < ((ys.length - 1) * (xs.length - 1) : Nat) := by
  rw [map_fst_cellRows] at used
  have listed := (inside.map _).subset used
  rw [map_cellIndex_addresses] at listed
  obtain ⟨number, below, rfl⟩ := List.mem_map.mp listed
  have bound := List.mem_range.mp below
  exact ⟨Int.natCast_nonneg number, by exact_mod_cast bound⟩

theorem select_eq_ok {accept : Nat × Nat → Except Error Bool} {p : Nat × Nat → Bool}
    {candidates : List (Nat × Nat)}
    (answers : ∀ address ∈ candidates, accept address = .ok (p address)) :
    select accept candidates = .ok (candidates.filter p) := by
  obtain ⟨kept, done⟩ := exists_filterM_eq_ok fun address member => ⟨_, answers address member⟩
  have agree : ∀ address verdict, accept address = .ok verdict →
      (accept address).toOption.getD false = verdict := by
    intro address verdict answered
    rw [answered]
    rfl
  rw [select, done, filterM_eq_ok agree done]
  refine congrArg Except.ok (List.filter_congr fun address member => ?_)
  rw [answers address member]
  rfl

/-- The extent of the whole lattice has room for every rectangle. -/
theorem topOf_cellRows_lt
    (inside : chosen.Sublist (addresses (xs.length - 1) (ys.length - 1))) :
    Table.topOf ((cellRows xs ys chosen).map (·.1)) <
      ((xs.length - 1 : Nat) : Int) * ((ys.length - 1 : Nat) : Int) := by
  refine (Table.topOf_lt_iff (Int.mul_nonneg (Int.natCast_nonneg _) (Int.natCast_nonneg _))).mpr ?_
  intro key used
  have below := (cellRows_bounds inside used).2
  rwa [Nat.cast_mul, mul_comm] at below

/-- The cells of the rectangles before their areas are computed. -/
def plainRows (columns : Nat) (chosen : List (Nat × Nat)) : List (Int × Cell α) :=
  chosen.map fun address => (cellIndex columns address, rectangle columns address)

theorem map_fst_plainRows (xs ys : List α) (chosen : List (Nat × Nat)) :
    (plainRows (α := α) (xs.length - 1) chosen).map (·.1) =
      (cellRows xs ys chosen).map (·.1) := by
  simp [plainRows, cellRows, Function.comp_def]

/-- Every cell gets the area of its rectangle. -/
theorem withPolygonAreas_eq_ok {grid : Grid α} (several : 2 ≤ xs.length)
    (inside : chosen.Sublist (addresses (xs.length - 1) (ys.length - 1)))
    (vertices : grid.vertices.entries = vertexRows xs ys chosen)
    (cells : grid.cells.entries = plainRows (xs.length - 1) chosen) :
    grid.withPolygonAreas =
      .ok { grid with cells := { grid.cells with entries := cellRows xs ys chosen } } := by
  have measured : grid.cells.entries.mapM (fun entry => do
      return (entry.1, { entry.2 with area := ← grid.polygonArea entry.2 })) =
        .ok (cellRows xs ys chosen) := by
    rw [cells, plainRows, cellRows, mapM_eq_ok_iff, List.forall₂_map_left_iff,
      List.forall₂_map_right_iff, List.forall₂_same]
    intro address member
    have drawn : grid.polygon (rectangle (xs.length - 1) address) = .ok (outline xs ys address) :=
      polygon_rectangle several inside vertices member rfl
    simp only [Mesh.polygonArea, drawn, bind, Except.bind, pure, Except.pure]
  exact bind_eq_ok_iff.mpr ⟨_, measured, rfl⟩

/-- Rectangles whose corners are realized are inserted one after the other. -/
theorem foldlM_insertCell_rectangles {mesh : Grid α} (noCells : mesh.cells = {})
    (several : 2 ≤ xs.length)
    (inside : chosen.Sublist (addresses (xs.length - 1) (ys.length - 1))) :
    chosen.foldlM (fun (mesh : Grid α) address =>
        let cell := rectangle (xs.length - 1) address
        mesh.insertCell cell.vertices (cellIndex (xs.length - 1) address) cell)
        (withCorners mesh xs ys chosen) =
      .ok { withCorners mesh xs ys chosen with
        cells := ⟨plainRows (xs.length - 1) chosen,
          Table.topOf ((cellRows xs ys chosen).map (·.1)), none⟩ } := by
  have inserted : (plainRows (α := α) (xs.length - 1) chosen).foldlM (Table.insert .cell)
      (withCorners mesh xs ys chosen).cells = .ok ⟨plainRows (xs.length - 1) chosen,
        Table.topOf ((cellRows xs ys chosen).map (·.1)), none⟩ := by
    have distinct := nodup_cellRows inside
    show (plainRows (xs.length - 1) chosen).foldlM (Table.insert .cell) mesh.cells = _
    rw [noCells]
    rw [← map_fst_plainRows] at distinct ⊢
    refine foldlM_insert_empty .cell distinct fun key used => ?_
    rw [map_fst_plainRows xs ys] at used
    exact (cellRows_bounds inside used).1
  have named : ∀ row ∈ plainRows (α := α) (xs.length - 1) chosen, ∀ reference ∈ row.2.vertices,
      (withCorners mesh xs ys chosen).Names reference := by
    intro row member reference referenceMember
    obtain ⟨address, chosenMember, rfl⟩ := List.mem_map.mp member
    obtain ⟨key, corner, rfl⟩ := List.mem_map.mp referenceMember
    exact (Mesh.names_int ..).mpr (corners_subset several inside chosenMember corner)
  have done := (Mesh.foldlM_insertCell_eq_ok_iff Cell.vertices _ _ _).mpr
    ⟨named, _, inserted, rfl⟩
  rw [plainRows, List.foldlM_map] at done
  exact done

/-- An empty mesh is filled with the accepted rectangles. -/
theorem fill_eq_ok {mesh : Grid α} (noVertices : mesh.vertices = {}) (noCells : mesh.cells = {})
    (several : 2 ≤ xs.length) {accept : Nat × Nat → Except Error Bool} {p : Nat × Nat → Bool}
    (answers : ∀ address ∈ addresses (xs.length - 1) (ys.length - 1),
      accept address = .ok (p address)) :
    fill mesh xs ys accept =
      .ok (built mesh xs ys ((addresses (xs.length - 1) (ys.length - 1)).filter p)) := by
  have inside : ((addresses (xs.length - 1) (ys.length - 1)).filter p).Sublist
      (addresses (xs.length - 1) (ys.length - 1)) := List.filter_sublist
  have selected := select_eq_ok answers
  generalize (addresses (xs.length - 1) (ys.length - 1)).filter p = chosen at inside selected ⊢
  have needed : (lattice xs ys).filter (fun entry => (Std.HashSet.ofList
      (chosen.flatMap fun address => corners (xs.length - 1) address.1 address.2)).contains
        entry.1) = vertexRows xs ys chosen := by
    refine List.filter_congr fun entry _ => ?_
    rw [Std.HashSet.contains_ofList, Bool.eq_iff_iff, List.contains_iff_mem, List.mem_flatMap,
      List.any_eq_true]
    simp only [List.contains_iff_mem]
  have corners : ((lattice xs ys).filter fun entry => (Std.HashSet.ofList
      (chosen.flatMap fun address => corners (xs.length - 1) address.1 address.2)).contains
        entry.1).foldlM (fun (mesh : Grid α) entry => mesh.insertVertex entry.1 entry.2) mesh =
          .ok (withCorners mesh xs ys chosen) := by
    rw [needed]
    exact foldlM_insertVertex_corners noVertices ..
  refine bind_eq_ok_iff.mpr ⟨_, selected, bind_eq_ok_iff.mpr ⟨_, corners, bind_eq_ok_iff.mpr
    ⟨_, foldlM_insertCell_rectangles noCells several inside, ?_⟩⟩⟩
  refine bind_eq_ok_iff.mpr ⟨_, (Mesh.fixExtent_cell_eq_ok_iff ..).mpr
    ⟨Int.mul_nonneg (Int.natCast_nonneg _) (Int.natCast_nonneg _), topOf_cellRows_lt inside, rfl⟩,
    ?_⟩
  refine bind_eq_ok_iff.mpr ⟨_, (Mesh.fixExtent_vertex_eq_ok_iff ..).mpr
    ⟨Int.mul_nonneg (by omega) (by omega), topOf_vertexRows_lt several chosen, rfl⟩, ?_⟩
  exact withPolygonAreas_eq_ok several inside rfl rfl

end Regrid.Rectilinear
