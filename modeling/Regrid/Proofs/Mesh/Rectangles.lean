import Regrid.Proofs.Mesh.Rectilinear
import Regrid.Proofs.Scalar.Double

/-!
Contract: a plan of boundary vectors is realized as the mesh of rectangles that it describes.

Owns:
- plans in the plane and on the globe, and when they can be realized;
- what the realized mesh answers about each rectangle, and areas and midpoints over rationals.

Does not own: the filtering of realized meshes.
-/

namespace Regrid.Rectilinear

open Attempt

variable {α : Type}

/-! ### Plans -/

/-- Where the boundaries of a mesh lie: in the plane of a projection, or on the globe. -/
inductive Surface where
  | plane (projection : Value)
  | globe

/-- What a mesh of rectangles is built from, apart from the choice of rectangles. -/
structure Plan (α : Type) where
  surface : Surface
  xs : Tensor α
  ys : Tensor α
  name : Value
  parameterization : Value

namespace Plan

def columns (plan : Plan α) : Nat := plan.xs.items.length - 1

def rows (plan : Plan α) : Nat := plan.ys.items.length - 1

/-- The rectangles that a test selects, row by row. -/
def chosen (plan : Plan α) (p : Nat → Nat → Bool) : List (Nat × Nat) :=
  (addresses plan.columns plan.rows).filter fun address => p address.1 address.2

theorem mem_chosen {plan : Plan α} {p : Nat → Nat → Bool} {i j : Nat} :
    (i, j) ∈ plan.chosen p ↔ i < plan.columns ∧ j < plan.rows ∧ p i j = true := by
  rw [chosen, List.mem_filter, mem_addresses, and_assoc]

theorem chosen_sublist (plan : Plan α) (p : Nat → Nat → Bool) :
    (plan.chosen p).Sublist (addresses plan.columns plan.rows) :=
  List.filter_sublist

variable [Scalar α]

/-- The mesh of the accepted rectangles. -/
def build (plan : Plan α) (accept : Nat × Nat → Except Error Bool) : Except Error (Grid α) :=
  match plan.surface with
  | .plane projection =>
      planar plan.xs plan.ys projection plan.name plan.parameterization accept
  | .globe => global plan.xs plan.ys plan.name plan.parameterization accept

/-- Both boundary vectors ascend. -/
structure Ascends (plan : Plan α) : Prop where
  xs : Ascending plan.xs
  ys : Ascending plan.ys

/-- The plan can be realized: the projection of a plane is given, no circle of latitude lies beyond
a pole, and the parameterization is the text of a tag. -/
structure Sensible (plan : Plan α) (parameterization : Parameterization) : Prop extends
    plan.Ascends where
  projection : ∀ projection, plan.surface = .plane projection → projection.isBlankOption = false
  latitudes : plan.surface = .globe → ∀ y ∈ plan.ys.items,
    Scalar.below y (Scalar.ofInt (-90)) = false ∧ Scalar.below (Scalar.ofInt 90) y = false
  tag : readTag plan.parameterization = .ok parameterization

/-- The mesh before any rectangle is realized. -/
def empty (plan : Plan α) : Except Error (Grid α) :=
  match plan.surface with
  | .plane projection => do
      let parameterization ← readTag plan.parameterization
      Mesh.create plan.name .xy .xy parameterization projection
  | .globe =>
      if latitudesWithin plan.ys.items then do
        let parameterization ← readTag plan.parameterization
        Mesh.create plan.name .lonLat .lonLat parameterization (.text "")
      else .error .latitudeOutside

variable {plan : Plan α}

/-- Ascending boundaries are taken as they are. -/
theorem build_eq [Scalar.Separated α] (ascends : plan.Ascends)
    (accept : Nat × Nat → Except Error Bool) :
    plan.build accept = (do
      let mesh ← plan.empty
      fill mesh plan.xs.items plan.ys.items accept) := by
  unfold build empty
  cases plan.surface with
  | plane projection =>
      simp only [planar, ascends.xs.checkBoundaries, ascends.ys.checkBoundaries, bind_assoc]
      rfl
  | globe =>
      rw [global, ascends.xs.checkBoundaries, ascends.ys.checkBoundaries]
      show (if latitudesWithin plan.ys.items then _ else _) = _
      cases latitudesWithin plan.ys.items with
      | true =>
          simp only [if_true, bind_assoc]
      | false => rfl

/-- A plan begins with a mesh that was created. -/
theorem created_of_empty {mesh : Grid α} (made : plan.empty = .ok mesh) :
    ∃ type coordinates parameterization projection,
      Mesh.create plan.name type coordinates parameterization projection = .ok mesh := by
  unfold empty at made
  cases surface : plan.surface with
  | plane projection =>
      rw [surface] at made
      obtain ⟨_, _, created⟩ := bind_eq_ok made
      exact ⟨_, _, _, _, created⟩
  | globe =>
      rw [surface] at made
      by_cases within : latitudesWithin plan.ys.items = true
      · simp only [within, if_true] at made
        obtain ⟨_, _, created⟩ := bind_eq_ok made
        exact ⟨_, _, _, _, created⟩
      · simp only [within] at made
        cases made

theorem tables_empty {mesh : Grid α} (made : plan.empty = .ok mesh) :
    mesh.vertices = {} ∧ mesh.cells = {} := by
  obtain ⟨_, _, _, _, created⟩ := created_of_empty made
  obtain ⟨_, _, same⟩ := bind_eq_ok created
  cases same
  exact ⟨rfl, rfl⟩

theorem latitudesWithin_of_forall {latitudes : List α} (within : ∀ y ∈ latitudes,
    Scalar.below y (Scalar.ofInt (-90)) = false ∧ Scalar.below (Scalar.ofInt 90) y = false) :
    latitudesWithin latitudes = true := by
  unfold latitudesWithin
  cases first : latitudes.head? with
  | none => rfl
  | some south =>
      cases last : latitudes.getLast? with
      | none => rfl
      | some north =>
          have lower := (within south (List.mem_of_head? first)).1
          have upper := (within north (List.mem_of_getLast? last)).2
          simp only [lower, upper]
          rfl

/-- A sensible plan begins with an empty mesh that has its name and its tag. -/
theorem Sensible.exists_empty {parameterization : Parameterization}
    (sensible : plan.Sensible parameterization) : ∃ mesh : Grid α, plan.empty = .ok mesh ∧
      mesh.name = plan.name ∧ mesh.parameterization = parameterization := by
  unfold empty
  cases surface : plan.surface with
  | plane projection =>
      have present := sensible.projection projection surface
      refine ⟨⟨plan.name, .xy, .xy, parameterization, projection, {}, {}⟩, ?_, rfl, rfl⟩
      have kept : projection.orEmpty = projection := by
        rw [Value.orEmpty, present]
        rfl
      simp only [sensible.tag, bind, Except.bind, Mesh.create, Mesh.validate, kept, present]
      rfl
  | globe =>
      have within := latitudesWithin_of_forall (sensible.latitudes surface)
      refine ⟨⟨plan.name, .lonLat, .lonLat, parameterization, .text "", {}, {}⟩, ?_, rfl, rfl⟩
      simp only [within, sensible.tag, bind, Except.bind]
      rfl

theorem Ascends.build_eq_ok [Scalar.Separated α] (ascends : plan.Ascends)
    {accept : Nat × Nat → Except Error Bool} {p : Nat → Nat → Bool}
    (answers : ∀ i j, i < plan.columns → j < plan.rows → accept (i, j) = .ok (p i j))
    {mesh : Grid α} (made : plan.empty = .ok mesh) :
    plan.build accept = .ok (built mesh plan.xs.items plan.ys.items (plan.chosen p)) := by
  obtain ⟨noVertices, noCells⟩ := tables_empty made
  rw [build_eq ascends, made]
  refine fill_eq_ok noVertices noCells ascends.xs.several ?_
  rintro ⟨i, j⟩ member
  obtain ⟨column, row⟩ := mem_addresses.mp member
  exact answers i j column row

/-- The bookkeeping of the built mesh is intact. -/
theorem Ascends.sound_built (ascends : plan.Ascends) (p : Nat → Nat → Bool) {mesh : Grid α}
    (made : plan.empty = .ok mesh) :
    (built mesh plan.xs.items plan.ys.items (plan.chosen p)).Sound (.held α) := by
  have inside := plan.chosen_sublist p
  obtain ⟨_, _, _, _, created⟩ := created_of_empty made
  have tags : mesh.Sound (.held α) := Mesh.sound_create created
  refine ⟨?_, ?_, ?_, tags.projection⟩
  · refine Table.wellKeyed_rows (nodup_vertexRows ..) (fun key used => (vertexRows_bounds used).1)
      ?_ (Int.mul_nonneg (by omega) (by omega)) ?_
    · intro key vertex member
      obtain ⟨_, _, _, _, _, _, same⟩ := mem_lattice.mp (List.mem_of_mem_filter member)
      cases same
      rfl
    · exact fun key used => lt_of_le_of_lt (Table.le_topOf used)
        (topOf_vertexRows_lt ascends.xs.several _)
  · refine Table.wellKeyed_rows (nodup_cellRows inside)
      (fun key used => (cellRows_bounds inside used).1) ?_
      (Int.mul_nonneg (Int.natCast_nonneg _) (Int.natCast_nonneg _)) ?_
    · intro key cell member
      obtain ⟨address, _, same⟩ := List.mem_map.mp member
      cases same
      rfl
    · exact fun key used => lt_of_le_of_lt (Table.le_topOf used) (topOf_cellRows_lt inside)
  · intro cell member reference referenceMember
    obtain ⟨_, rowMember, rfl⟩ := List.mem_map.mp member
    obtain ⟨address, chosen, rfl⟩ := List.mem_map.mp rowMember
    obtain ⟨key, corner, rfl⟩ := List.mem_map.mp referenceMember
    exact (Mesh.names_int ..).mpr (corners_subset ascends.xs.several inside chosen corner)

/-! ### What the mesh answers -/

/-- A mesh holds the rectangles that a test selects, under their indices and with their addresses,
polygons and areas, and the corners of these rectangles. Its extents are those of all rectangles
and corners. -/
structure Realizes (plan : Plan α) (p : Nat → Nat → Bool) (mesh : Grid α) : Prop where
  cellKeys : ∀ key, key ∈ mesh.cells.keys ↔
    ∃ i j : Nat, i < plan.columns ∧ j < plan.rows ∧ p i j = true ∧ key = i + j * plan.columns
  ascending : mesh.cells.keys.Pairwise (· < ·)
  cells : ∀ (i j : Nat) (left right bottom top : α), Spans plan.xs.items i left right →
    Spans plan.ys.items j bottom top → p i j = true → ∃ cell,
      mesh.cells.get (i + j * plan.columns) = .ok cell ∧
      cell.index = .int (i + j * plan.columns) ∧ cell.address = [.int i, .int j, .int (-1)] ∧
      mesh.polygonAt (i + j * plan.columns) =
        .ok [(left, bottom), (right, bottom), (right, top), (left, top)] ∧
      cell.area = Polygon.area [(left, bottom), (right, bottom), (right, top), (left, top)]
  vertexKeys : ∀ key, key ∈ mesh.vertices.keys ↔ ∃ i j ix iy : Nat, i < plan.columns ∧
    j < plan.rows ∧ p i j = true ∧ (ix = i ∨ ix = i + 1) ∧ (iy = j ∨ iy = j + 1) ∧
    key = ix + iy * (plan.columns + 1)
  vertices : ∀ (ix iy : Nat) (x y : α), plan.xs.items[ix]? = some x → plan.ys.items[iy]? = some y →
    (ix + iy * (plan.columns + 1) : Int) ∈ mesh.vertices.keys →
      mesh.vertices.get (ix + iy * (plan.columns + 1)) =
        .ok ⟨x, y, .int (ix + iy * (plan.columns + 1))⟩
  cellExtent : mesh.cells.extent = plan.columns * plan.rows
  vertexExtent : mesh.vertices.extent = (plan.columns + 1) * (plan.rows + 1)

omit [Scalar α] in
theorem mem_map_cellIndex_chosen {p : Nat → Nat → Bool} {key : Int} :
    key ∈ (plan.chosen p).map (cellIndex plan.columns) ↔ ∃ i j : Nat, i < plan.columns ∧
      j < plan.rows ∧ p i j = true ∧ key = i + j * plan.columns := by
  rw [List.mem_map, Prod.exists]
  constructor
  · rintro ⟨i, j, member, rfl⟩
    obtain ⟨column, row, accepted⟩ := mem_chosen.mp member
    exact ⟨i, j, column, row, accepted, rfl⟩
  · rintro ⟨i, j, column, row, accepted, rfl⟩
    exact ⟨i, j, mem_chosen.mpr ⟨column, row, accepted⟩, rfl⟩

omit [Scalar α] in
/-- Row by row the indices of rectangles ascend. -/
theorem ascending_map_cellIndex_chosen (plan : Plan α) (p : Nat → Nat → Bool) :
    ((plan.chosen p).map (cellIndex plan.columns)).Pairwise (· < ·) := by
  have all : ((addresses plan.columns plan.rows).map (cellIndex plan.columns)).Pairwise
      (· < ·) := by
    rw [map_cellIndex_addresses]
    exact List.pairwise_map.mpr (List.pairwise_lt_range.imp Int.ofNat_lt.mpr)
  exact all.sublist ((plan.chosen_sublist p).map _)

theorem get_built_cell {p : Nat → Nat → Bool} (mesh : Grid α) {i j : Nat}
    (chosen : (i, j) ∈ plan.chosen p) :
    (built mesh plan.xs.items plan.ys.items (plan.chosen p)).cells.get (i + j * plan.columns) =
      .ok { rectangle (α := α) plan.columns (i, j) with
        area := (outline plan.xs.items plan.ys.items (i, j)).area } := by
  have distinct : (built mesh plan.xs.items plan.ys.items (plan.chosen p)).cells.keys.Nodup :=
    nodup_cellRows (plan.chosen_sublist p)
  exact Table.get_of_mem distinct (List.mem_map.mpr ⟨(i, j), chosen, rfl⟩)

theorem Ascends.polygonAt_built (ascends : plan.Ascends) {p : Nat → Nat → Bool} (mesh : Grid α)
    {i j : Nat} (chosen : (i, j) ∈ plan.chosen p) :
    (built mesh plan.xs.items plan.ys.items (plan.chosen p)).polygonAt (i + j * plan.columns) =
      .ok (outline plan.xs.items plan.ys.items (i, j)) := by
  rw [Mesh.polygonAt, get_built_cell mesh chosen]
  exact polygon_rectangle ascends.xs.several (plan.chosen_sublist p) rfl chosen rfl

/-- The vertices are the corners of the chosen rectangles. -/
theorem Ascends.mem_keys_vertexRows (ascends : plan.Ascends) {p : Nat → Nat → Bool} {key : Int} :
    key ∈ (vertexRows plan.xs.items plan.ys.items (plan.chosen p)).map (·.1) ↔
      ∃ i j ix iy : Nat, i < plan.columns ∧ j < plan.rows ∧ p i j = true ∧
        (ix = i ∨ ix = i + 1) ∧ (iy = j ∨ iy = j + 1) ∧ key = ix + iy * (plan.columns + 1) := by
  have width := ascends.xs.width
  constructor
  · intro used
    obtain ⟨_, member, rfl⟩ := List.mem_map.mp used
    obtain ⟨ix, iy, x, y, _, _, rfl, i, j, chosen, beside, above⟩ :=
      (mem_vertexRows ascends.xs.several (plan.chosen_sublist p)).mp member
    obtain ⟨column, row, accepted⟩ := mem_chosen.mp chosen
    exact ⟨i, j, ix, iy, column, row, accepted, beside, above, by rw [width]; rfl⟩
  · rintro ⟨i, j, ix, iy, column, row, accepted, beside, above, rfl⟩
    have corner := (mem_corners ascends.xs.several).mpr ⟨ix, iy, beside, above, rfl⟩
    rw [width] at corner
    exact corners_subset ascends.xs.several (plan.chosen_sublist p)
      (mem_chosen.mpr ⟨column, row, accepted⟩) corner

theorem Ascends.get_built_vertex (ascends : plan.Ascends) {p : Nat → Nat → Bool} (mesh : Grid α)
    {ix iy : Nat} {x y : α} (column : plan.xs.items[ix]? = some x)
    (row : plan.ys.items[iy]? = some y)
    (used : (ix + iy * (plan.columns + 1) : Int) ∈
      (built mesh plan.xs.items plan.ys.items (plan.chosen p)).vertices.keys) :
    (built mesh plan.xs.items plan.ys.items (plan.chosen p)).vertices.get
      (ix + iy * (plan.columns + 1)) = .ok ⟨x, y, .int (ix + iy * (plan.columns + 1))⟩ := by
  obtain ⟨entry, member, same⟩ := List.mem_map.mp used
  have needed := (List.mem_filter.mp member).2
  rw [same] at needed
  have inLattice := mem_lattice.mpr ⟨ix, iy, x, y, column, row, rfl⟩
  rw [ascends.xs.width] at inLattice
  have distinct : (built mesh plan.xs.items plan.ys.items (plan.chosen p)).vertices.keys.Nodup :=
    nodup_vertexRows ..
  exact Table.get_of_mem distinct (List.mem_filter.mpr ⟨inLattice, needed⟩)

theorem Ascends.realizes_built (ascends : plan.Ascends) (p : Nat → Nat → Bool) (mesh : Grid α) :
    plan.Realizes p (built mesh plan.xs.items plan.ys.items (plan.chosen p)) where
  cellKeys := by
    intro key
    show key ∈ (cellRows _ _ _).map _ ↔ _
    rw [map_fst_cellRows]
    exact mem_map_cellIndex_chosen
  ascending := by
    show ((cellRows _ _ _).map _).Pairwise _
    rw [map_fst_cellRows]
    exact plan.ascending_map_cellIndex_chosen p
  cells := by
    intro i j left right bottom top column row accepted
    have chosen := mem_chosen.mpr ⟨column.inside, row.inside, accepted⟩
    have polygon := ascends.polygonAt_built mesh chosen
    have drawn := outline_eq column row
    rw [drawn] at polygon
    exact ⟨_, get_built_cell mesh chosen, rfl, rfl, polygon, by rw [drawn]; rfl⟩
  vertexKeys := fun _ => ascends.mem_keys_vertexRows
  vertices := fun _ _ _ _ column row used => ascends.get_built_vertex mesh column row used
  cellExtent := rfl
  vertexExtent := rfl

theorem Sensible.exists_realized [Scalar.Separated α] {parameterization : Parameterization}
    (sensible : plan.Sensible parameterization) {accept : Nat × Nat → Except Error Bool}
    {p : Nat → Nat → Bool}
    (answers : ∀ i j, i < plan.columns → j < plan.rows → accept (i, j) = .ok (p i j)) :
    ∃ mesh, plan.build accept = .ok mesh ∧ mesh.name = plan.name ∧
      mesh.parameterization = parameterization ∧ plan.Realizes p mesh := by
  obtain ⟨mesh, made, name, tag⟩ := sensible.exists_empty
  exact ⟨_, sensible.build_eq_ok answers made, name, tag, sensible.realizes_built p mesh⟩

/-! ### Exact measures -/

/-- Each rectangle that a test selects has the area between its boundaries, and its midpoint for the
location of its datum where data lie on cells. -/
def Measures (plan : Plan Rat) (p : Nat → Nat → Bool) (mesh : Grid Rat) : Prop :=
  ∀ (i j : Nat) (left right bottom top : Rat), Spans plan.xs.items i left right →
    Spans plan.ys.items j bottom top → p i j = true → ∃ cell,
      mesh.cells.get (i + j * plan.columns) = .ok cell ∧
      cell.area = (right - left) * (top - bottom) ∧ 0 < cell.area ∧
      (mesh.parameterization = .onCells → mesh.location (i + j * plan.columns) =
        .ok ((left + right) / 2, (bottom + top) / 2))

theorem Ascends.measures {plan : Plan Rat} (ascends : plan.Ascends) {p : Nat → Nat → Bool}
    {mesh : Grid Rat} (realizes : plan.Realizes p mesh) : plan.Measures p mesh := by
  intro i j left right bottom top column row accepted
  obtain ⟨cell, stored, _, _, drawn, area⟩ :=
    realizes.cells i j left right bottom top column row accepted
  have wide : left < right := (Scalar.below_rat ..).mp (ascends.xs.below column)
  have high : bottom < top := (Scalar.below_rat ..).mp (ascends.ys.below row)
  have exactly : cell.area = (right - left) * (top - bottom) :=
    area.trans (Polygon.area_box left right bottom top)
  refine ⟨cell, stored, exactly, ?_, fun onCells => ?_⟩
  · rw [exactly]
    exact mul_pos (sub_pos.mpr wide) (sub_pos.mpr high)
  · rw [Mesh.location, onCells]
    show (do (← mesh.polygonAt _).centroid) = _
    rw [drawn]
    exact Polygon.centroid_box wide high

end Plan

/-- Every sensible plan is realized, whatever the choice of rectangles and in any arithmetic that
tells ascending numbers apart. The mesh holds exactly the chosen rectangles and their corners, each
under its number. In exact arithmetic the areas and midpoints are those of the rectangles. -/
theorem sensible_plans_are_realized :
    (∀ (α : Type) [Scalar α] [Scalar.Separated α] (plan : Plan α)
      (parameterization : Parameterization) (accept : Nat × Nat → Except Error Bool)
      (p : Nat → Nat → Bool), plan.Sensible parameterization →
      (∀ i j, i < plan.columns → j < plan.rows → accept (i, j) = .ok (p i j)) →
      ∃ mesh, plan.build accept = .ok mesh ∧ mesh.name = plan.name ∧
        mesh.parameterization = parameterization ∧ plan.Realizes p mesh) ∧
    ∀ (plan : Plan Rat) (parameterization : Parameterization)
      (accept : Nat × Nat → Except Error Bool) (p : Nat → Nat → Bool),
      plan.Sensible parameterization →
      (∀ i j, i < plan.columns → j < plan.rows → accept (i, j) = .ok (p i j)) →
      ∃ mesh, plan.build accept = .ok mesh ∧ mesh.parameterization = parameterization ∧
        plan.Measures p mesh := by
  constructor
  · intro α _ _ plan parameterization accept p sensible answers
    exact sensible.exists_realized answers
  · intro plan parameterization accept p sensible answers
    obtain ⟨mesh, built, _, tag, realizes⟩ := sensible.exists_realized answers
    exact ⟨mesh, built, tag, sensible.measures realizes⟩

/-- Two rectangles of different widths side by side. -/
def strip (α : Type) [Scalar α] : Plan α where
  surface := .plane (.text "+proj=laea")
  xs := .ofList [Scalar.ofInt 0, Scalar.ofInt 1, Scalar.ofInt 3]
  ys := .ofList [Scalar.ofInt 0, Scalar.ofInt 2]
  name := .text "strip"
  parameterization := .text " l0"

theorem strip_sensible {α : Type} [Scalar α] (ascends : (strip α).Ascends) :
    (strip α).Sensible .onCells where
  toAscends := ascends
  projection := by
    rintro _ ⟨⟩
    decide
  latitudes := nofun
  tag := by
    show readTag (.text " l0") = _
    decide

theorem strip_ascends : (strip Rat).Ascends where
  xs := ⟨rfl, by decide, by decide⟩
  ys := ⟨rfl, by decide, by decide⟩

theorem strip_ascends_double : (strip Float).Ascends where
  xs := ⟨rfl, by decide, by decide +kernel⟩
  ys := ⟨rfl, by decide, by decide +kernel⟩

/-- Of two rectangles the second one is chosen. -/
theorem strip_is_realized :
    (∃ mesh, (strip Float).build (fun address => .ok (address.1 == 1)) = .ok mesh ∧
      (∀ key, key ∈ mesh.cells.keys ↔ key = 1) ∧ 0 ∉ mesh.vertices.keys) ∧
    ∃ mesh, (strip Rat).build (fun address => .ok (address.1 == 1)) = .ok mesh ∧
      mesh.location 1 = .ok (2, 1) := by
  constructor
  · obtain ⟨mesh, built, _, _, realizes⟩ := sensible_plans_are_realized.1 Float (strip Float)
      .onCells (fun address => .ok (address.1 == 1)) (fun i _ => i == 1)
      (strip_sensible strip_ascends_double) fun _ _ _ _ => rfl
    refine ⟨mesh, built, ?_, ?_⟩
    · intro key
      rw [realizes.cellKeys]
      constructor
      · rintro ⟨i, j, column, row, chosen, rfl⟩
        obtain rfl := beq_iff_eq.mp chosen
        obtain rfl : j = 0 := Nat.lt_one_iff.mp row
        rfl
      · rintro rfl
        exact ⟨1, 0, by decide, by decide, rfl, by decide⟩
    · rw [realizes.vertexKeys]
      rintro ⟨i, j, ix, iy, _, _, chosen, beside, _, number⟩
      have second := beq_iff_eq.mp chosen
      have natural : (0 : Int) ≤ iy * ((strip Float).columns + 1) :=
        Int.mul_nonneg (by omega) (by omega)
      omega
  · obtain ⟨mesh, built, tag, measures⟩ := sensible_plans_are_realized.2 (strip Rat) .onCells
      (fun address => .ok (address.1 == 1)) (fun i _ => i == 1)
      (strip_sensible strip_ascends) fun _ _ _ _ => rfl
    refine ⟨mesh, built, ?_⟩
    obtain ⟨_, _, _, _, midpoint⟩ := measures 1 0 1 3 0 2 ⟨rfl, rfl⟩ ⟨rfl, rfl⟩ rfl
    have located := midpoint tag
    norm_num at located
    exact located

end Regrid.Rectilinear
