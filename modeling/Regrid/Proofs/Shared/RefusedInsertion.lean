import Regrid.Proofs.Mesh.Insertion
import Regrid.Proofs.Shared.Reachable

/-!
Contract: what insertions into a mesh leave behind when they are refused.

Owns:
- the label that a refused vertex or cell keeps, and when inserting it again is like inserting it
  for the first time;
- polygons whose points and fields are read one after the other, and the vertices that stay of a
  refused one.

Does not own: insertions that are answered.

An entity without an index gets one before the mesh checks it, and the vertices of a polygon are
inserted before its cell. Apart from these two the mesh and its entities are as they were.
-/

namespace Regrid

open Attempt

theorem indexOr_eq_self_iff (next : Int) {index : Value} :
    indexOr next index = index ↔ index ≠ .null := by
  cases index <;> simp [indexOr]

/-! ### Vertices at points -/

namespace Mesh

variable {α : Type}

/-- The mesh with a vertex at a point, under the next free key. -/
def withPoint (mesh : Grid α) (point : α × α) : Grid α :=
  { mesh with
    vertices := mesh.vertices.push mesh.vertices.nextKey
      ⟨point.1, point.2, .int mesh.vertices.nextKey⟩ }

/-- The mesh with a vertex at each of several points, in their order. -/
def withPoints (points : List (α × α)) (mesh : Grid α) : Grid α := points.foldl withPoint mesh

/-- No vertex can be added under the next free key. -/
def IsFull (mesh : Grid α) : Prop := mesh.vertices.fixedExtent = some mesh.vertices.nextKey

/-- Why no vertex is added at the points that are left: the first of them cannot be read, or the
mesh is full. -/
inductive Stops (mesh : Grid α) : Error → List (Except Error (α × α)) → Prop where
  | unread (reason : Error) (later : List (Except Error (α × α))) :
      Stops mesh reason (.error reason :: later)
  | full (full : mesh.IsFull) (point : α × α) (later : List (Except Error (α × α))) :
      Stops mesh (.beyondExtent .vertex mesh.vertices.nextKey mesh.vertices.nextKey)
        (.ok point :: later)

theorem nextKey_withPoints (points : List (α × α)) (mesh : Grid α) :
    (mesh.withPoints points).vertices.nextKey = mesh.vertices.nextKey + points.length := by
  induction points generalizing mesh with
  | nil => simp [withPoints]
  | cons point rest inductionHypothesis =>
      have later := inductionHypothesis (mesh.withPoint point)
      have first : (mesh.withPoint point).vertices.nextKey = mesh.vertices.nextKey + 1 := by
        simp only [withPoint, Table.push, Table.nextKey]
        omega
      rw [first] at later
      rw [List.length_cons, Nat.cast_succ, add_comm (rest.length : Int), ← add_assoc]
      exact later

theorem withPoints_eq_self_iff (points : List (α × α)) (mesh : Grid α) :
    mesh.withPoints points = mesh ↔ points = [] := by
  constructor
  · intro same
    have next := nextKey_withPoints points mesh
    rw [same] at next
    exact List.length_eq_zero_iff.mp (by omega)
  · rintro rfl
    rfl

end Mesh

namespace MeshSpace

variable {α : Type} [Scalar α] {grid other : Ref (SharedGrid α)} {space later after : MeshSpace α}
  {reason : Error}

/-! ### Vertices -/

theorem addVertex_refused {ref : Ref (Vertex α)}
    (refused : (addVertex grid ref).outcome space = (.error reason, after)) :
    after = space.setVertex ref (space.labelVertex grid ref) := by
  rw [outcome_addVertex] at refused
  cases placed : placeVertex (space.labelVertex grid ref).index ref (space.grids.get grid) with
  | ok answer =>
      rw [placed] at refused
      cases refused
  | error other =>
      rw [placed] at refused
      exact (Prod.mk.inj refused).2.symm

theorem setVertex_label_iff {ref : Ref (Vertex α)} (held : space.vertices.Holds ref) :
    space.setVertex ref (space.labelVertex grid ref) = space ↔
      (space.vertices.get ref).index ≠ .null := by
  rw [← indexOr_eq_self_iff (space.grids.get grid).vertices.nextKey]
  constructor
  · intro same
    have now := Heap.get_set_same held (space.labelVertex grid ref)
    rw [show space.vertices.set ref (space.labelVertex grid ref) = space.vertices from
      congrArg MeshSpace.vertices same] at now
    exact (congrArg Vertex.index now).symm
  · intro same
    rw [labelVertex, same, setVertex, Heap.set_get]

/-- Whether it is inserted or not, a vertex is left with its label. -/
theorem get_addVertex {ref : Ref (Vertex α)} (held : space.vertices.Holds ref) {key : Int}
    (label : (space.labelVertex grid ref).index = .int key) :
    ((addVertex grid ref).outcome space).2.vertices.get ref = space.labelVertex grid ref := by
  rw [outcome_addVertex, label]
  cases placed : placeVertex (.int key) ref (space.grids.get grid) with
  | error reason => exact Heap.get_set_same held _
  | ok answer =>
      obtain ⟨index, read, insertion⟩ := bind_eq_ok placed
      obtain ⟨_, _, same⟩ := bind_eq_ok insertion
      cases same
      cases read
      refine (Heap.get_set_same held _).trans ?_
      rw [← label]
      rfl

/-- A vertex that kept a label is inserted again like a vertex without index exactly if the mesh
would label it the same now. -/
theorem addVertex_again_iff {ref : Ref (Vertex α)} (held : later.vertices.Holds ref)
    {vertex : Vertex α} (unset : vertex.index = .null) {key : Int}
    (left : later.vertices.get ref = { vertex with index := .int key }) :
    (addVertex other ref).outcome later =
        (addVertex other ref).outcome (later.setVertex ref vertex) ↔
      (later.grids.get other).vertices.nextKey = key := by
  have blank : (later.setVertex ref vertex).vertices.get ref = vertex :=
    Heap.get_set_same held vertex
  have first : (later.setVertex ref vertex).labelVertex other ref =
      { vertex with index := .int (later.grids.get other).vertices.nextKey } := by
    rw [labelVertex, blank, unset]
    rfl
  have again : later.labelVertex other ref = { vertex with index := .int key } := by
    rw [labelVertex, left]
    rfl
  constructor
  · intro same
    have one := get_addVertex held (congrArg Vertex.index again)
    have two := get_addVertex (Heap.holds_set.mpr held) (congrArg Vertex.index first)
    rw [same, two, first, again] at one
    exact Value.int.inj (congrArg Vertex.index one)
  · intro next
    have grids : (later.setVertex ref vertex).grids = later.grids := rfl
    rw [outcome_addVertex, outcome_addVertex, first, again, blank, left, next, grids]
    cases placeVertex (.int key) ref (later.grids.get other) with
    | error reason => simp only [setVertex_setVertex]
    | ok answer => simp only [setVertex_setVertex]

/-! ### Cells -/

theorem addCell_refused {ref : Ref (Cell α)}
    (refused : (addCell grid ref).outcome space = (.error reason, after)) :
    after = space.setCell ref (space.labelCell grid ref) := by
  rw [outcome_addCell] at refused
  cases placed : placeCell (space.cells.get ref).vertices (space.labelCell grid ref).index ref
      (space.grids.get grid) with
  | ok answer =>
      rw [placed] at refused
      cases refused
  | error other =>
      rw [placed] at refused
      exact (Prod.mk.inj refused).2.symm

theorem setCell_label_iff {ref : Ref (Cell α)} (held : space.cells.Holds ref) :
    space.setCell ref (space.labelCell grid ref) = space ↔
      (space.cells.get ref).index ≠ .null := by
  rw [← indexOr_eq_self_iff (space.grids.get grid).cells.nextKey]
  constructor
  · intro same
    have now := Heap.get_set_same held (space.labelCell grid ref)
    rw [show space.cells.set ref (space.labelCell grid ref) = space.cells from
      congrArg MeshSpace.cells same] at now
    exact (congrArg Cell.index now).symm
  · intro same
    rw [labelCell, same, setCell, Heap.set_get]

/-- Whether it is inserted or not, a cell is left with its label. -/
theorem get_addCell {ref : Ref (Cell α)} (held : space.cells.Holds ref) {key : Int}
    (label : (space.labelCell grid ref).index = .int key) :
    ((addCell grid ref).outcome space).2.cells.get ref = space.labelCell grid ref := by
  rw [outcome_addCell, label]
  cases placed : placeCell (space.cells.get ref).vertices (.int key) ref
      (space.grids.get grid) with
  | error reason => exact Heap.get_set_same held _
  | ok answer =>
      obtain ⟨index, read, insertion⟩ := bind_eq_ok placed
      obtain ⟨_, _, same⟩ := bind_eq_ok insertion
      cases same
      cases read
      refine (Heap.get_set_same held _).trans ?_
      rw [← label]
      rfl

/-- A cell that kept a label is inserted again like a cell without index exactly if the mesh would
label it the same now. -/
theorem addCell_again_iff {ref : Ref (Cell α)} (held : later.cells.Holds ref)
    {cell : Cell α} (unset : cell.index = .null) {key : Int}
    (left : later.cells.get ref = { cell with index := .int key }) :
    (addCell other ref).outcome later = (addCell other ref).outcome (later.setCell ref cell) ↔
      (later.grids.get other).cells.nextKey = key := by
  have blank : (later.setCell ref cell).cells.get ref = cell := Heap.get_set_same held cell
  have first : (later.setCell ref cell).labelCell other ref =
      { cell with index := .int (later.grids.get other).cells.nextKey } := by
    rw [labelCell, blank, unset]
    rfl
  have again : later.labelCell other ref = { cell with index := .int key } := by
    rw [labelCell, left]
    rfl
  constructor
  · intro same
    have one := get_addCell held (congrArg Cell.index again)
    have two := get_addCell (Heap.holds_set.mpr held) (congrArg Cell.index first)
    rw [same, two, first, again] at one
    exact Value.int.inj (congrArg Cell.index one)
  · intro next
    have grids : (later.setCell ref cell).grids = later.grids := rfl
    rw [outcome_addCell, outcome_addCell, first, again, blank, left, next, grids]
    cases placeCell cell.vertices (.int key) ref (later.grids.get other) with
    | error reason => simp only [setCell_setCell]
    | ok answer => simp only [setCell_setCell]

/-! ### Labels that stay -/

/-- After a refused insertion the vertex is left with its label, and nothing else is changed. If
the mesh had to label it, inserting it into some mesh later is like inserting it for the first
time exactly if that mesh would choose the same label then. -/
structure LeavesVertex (grid : Ref (SharedGrid α)) (ref : Ref (Vertex α))
    (space after : MeshSpace α) : Prop where
  labelled : after = space.setVertex ref (space.labelVertex grid ref)
  unchanged_iff : after = space ↔ (space.vertices.get ref).index ≠ .null
  again_iff : (space.vertices.get ref).index = .null → ∀ later other,
    later.vertices.Holds ref → later.vertices.get ref = after.vertices.get ref →
      ((addVertex other ref).outcome later =
          (addVertex other ref).outcome (later.setVertex ref (space.vertices.get ref)) ↔
        (later.grids.get other).vertices.nextKey = (space.grids.get grid).vertices.nextKey)

/-- The same of a cell. -/
structure LeavesCell (grid : Ref (SharedGrid α)) (ref : Ref (Cell α))
    (space after : MeshSpace α) : Prop where
  labelled : after = space.setCell ref (space.labelCell grid ref)
  unchanged_iff : after = space ↔ (space.cells.get ref).index ≠ .null
  again_iff : (space.cells.get ref).index = .null → ∀ later other,
    later.cells.Holds ref → later.cells.get ref = after.cells.get ref →
      ((addCell other ref).outcome later =
          (addCell other ref).outcome (later.setCell ref (space.cells.get ref)) ↔
        (later.grids.get other).cells.nextKey = (space.grids.get grid).cells.nextKey)

theorem leavesVertex {ref : Ref (Vertex α)} (held : space.vertices.Holds ref)
    (refused : (addVertex grid ref).outcome space = (.error reason, after)) :
    LeavesVertex grid ref space after := by
  obtain rfl := addVertex_refused refused
  refine ⟨rfl, setVertex_label_iff held, fun unset later other laterHeld left => ?_⟩
  refine addVertex_again_iff laterHeld unset (left.trans ((Heap.get_set_same held _).trans ?_))
  rw [labelVertex, unset]
  rfl

theorem leavesCell {ref : Ref (Cell α)} (held : space.cells.Holds ref)
    (refused : (addCell grid ref).outcome space = (.error reason, after)) :
    LeavesCell grid ref space after := by
  obtain rfl := addCell_refused refused
  refine ⟨rfl, setCell_label_iff held, fun unset later other laterHeld left => ?_⟩
  refine addCell_again_iff laterHeld unset (left.trans ((Heap.get_set_same held _).trans ?_))
  rw [labelCell, unset]
  rfl

/-! ### Points and fields that are still to be read -/

/-- Adds a new vertex at a point that is read first. -/
def addPointRead (grid : Ref (SharedGrid α)) (point : Except Error (α × α)) :
    Attempt (MeshSpace α) Value := do
  addPoint grid (← point)

/-- Adds one new vertex for each point, which is read in its turn, and a cell through them, whose
other fields are read after all points. If all can be read it is `addPolygon`. -/
def addPolygonRead (grid : Ref (SharedGrid α)) (points : List (Except Error (α × α)))
    (cell : Except Error (Cell α)) : Attempt (MeshSpace α) (Ref (Cell α)) := do
  let references ← points.mapM (addPointRead grid)
  let cell ← cell
  let ref ← makeCell { cell with vertices := references }
  addCell grid ref
  return ref

theorem addPolygonRead_ok (points : List (α × α)) (cell : Cell α) :
    addPolygonRead grid (points.map .ok) (.ok cell) = addPolygon grid points cell := by
  have references : (points.map Except.ok).mapM (addPointRead grid) =
      points.mapM (addPoint grid) := by
    rw [List.mapM_map]
    rfl
  rw [addPolygonRead, addPolygon, references]
  rfl

/-! ### Vertices that stay -/

/-- Old records and all other meshes are as they were, and one mesh has a new vertex at each of
several points. -/
structure Gains (grid : Ref (SharedGrid α)) (points : List (α × α)) (space after : MeshSpace α) :
    Prop where
  others : ∀ other, other ≠ grid → after.grids.get other = space.grids.get other
  vertices : ∀ ref, space.vertices.Holds ref →
    after.vertices.Holds ref ∧ after.vertices.get ref = space.vertices.get ref
  cells : ∀ ref, space.cells.Holds ref →
    after.cells.Holds ref ∧ after.cells.get ref = space.cells.get ref
  seen : after.view grid = (space.view grid).withPoints points

theorem Gains.refl (grid : Ref (SharedGrid α)) (space : MeshSpace α) :
    Gains grid [] space space where
  others := fun _ _ => rfl
  vertices := fun _ held => ⟨held, rfl⟩
  cells := fun _ held => ⟨held, rfl⟩
  seen := rfl

theorem Gains.trans {between : MeshSpace α} {points more : List (α × α)}
    (first : Gains grid points space between) (second : Gains grid more between after) :
    Gains grid (points ++ more) space after where
  others := fun other different => (second.others other different).trans
    (first.others other different)
  vertices := fun ref held =>
    have early := first.vertices ref held
    have late := second.vertices ref early.1
    ⟨late.1, late.2.trans early.2⟩
  cells := fun ref held =>
    have early := first.cells ref held
    have late := second.cells ref early.1
    ⟨late.1, late.2.trans early.2⟩
  seen := by
    rw [second.seen, first.seen, Mesh.withPoints, Mesh.withPoints, Mesh.withPoints,
      List.foldl_append]

/-- A mesh is seen as before if only records were made. -/
theorem Keeps.gains_nothing (keeps : space.Keeps grid) (grids : after.grids = space.grids)
    (vertices : ∀ ref, space.vertices.Holds ref →
      after.vertices.Holds ref ∧ after.vertices.get ref = space.vertices.get ref)
    (cells : ∀ ref, space.cells.Holds ref →
      after.cells.Holds ref ∧ after.cells.get ref = space.cells.get ref) :
    Gains grid [] space after where
  others := fun other _ => by rw [grids]
  vertices := vertices
  cells := cells
  seen := by
    have mesh : after.grids.get grid = space.grids.get grid := by rw [grids]
    have sameVertices := Table.map_congr fun vertex member =>
      (vertices vertex (keeps.verticesHeld vertex member)).2
    have sameCells := Table.map_congr fun cell member =>
      (cells cell (keeps.cellsHeld cell member)).2
    rw [MeshSpace.view, snapshot, Mesh.map, mesh, sameVertices, sameCells]
    rfl

/-- The space with one more record of a vertex. -/
def withVertex (vertex : Vertex α) (space : MeshSpace α) : MeshSpace α :=
  { space with vertices := (space.vertices.make vertex).2 }

/-- The record at a point carries the next key of the mesh, whether it is inserted or not. -/
theorem outcome_addPoint (point : α × α) {key : Int}
    (next : (space.grids.get grid).vertices.nextKey = key) :
    (addPoint grid point).outcome space =
      match (space.grids.get grid).insertVertex key (space.vertices.make
        ⟨point.1, point.2, .int key⟩).1 with
      | .ok inserted => (.ok (.int key),
          (space.withVertex ⟨point.1, point.2, .int key⟩).setGrid grid inserted)
      | .error reason => (.error reason, space.withVertex ⟨point.1, point.2, .int key⟩) := by
  let made := space.withVertex ⟨point.1, point.2, .null⟩
  let ref := (space.vertices.make ⟨point.1, point.2, .null⟩).1
  have new : made.vertices.get ref = ⟨point.1, point.2, .null⟩ := Heap.get_make_new ..
  have label : made.labelVertex grid ref = ⟨point.1, point.2, .int key⟩ := by
    rw [labelVertex, new, ← next]
    rfl
  have labelled : made.setVertex ref ⟨point.1, point.2, .int key⟩ =
      space.withVertex ⟨point.1, point.2, .int key⟩ := by
    rw [setVertex, withVertex]
    exact congrArg (fun vertices => { space with vertices }) (Heap.set_make ..)
  have placing : placeVertex (.int key) ref (made.grids.get grid) =
      ((space.grids.get grid).insertVertex key ref).map fun inserted => (key, inserted) := by
    show (space.grids.get grid).insertVertex key ref >>= (fun inserted => .ok (key, inserted)) = _
    cases (space.grids.get grid).insertVertex key ref <;> rfl
  unfold addPoint
  refine (outcome_bind_of_ok (outcome_makeVertex ..) _).trans ?_
  show (addVertex grid ref >>= fun _ => _).outcome made = _
  rw [outcome_bind, outcome_addVertex, label, placing, new]
  show _ = match (space.grids.get grid).insertVertex key ref with
    | .ok inserted => _
    | .error reason => _
  cases (space.grids.get grid).insertVertex key ref with
  | error reason =>
      simp only [Except.map, labelled]
  | ok inserted =>
      have read : ((space.withVertex ⟨point.1, point.2, .int key⟩).vertices.get ref).index =
          .int key := congrArg Vertex.index (Heap.get_make_new ..)
      simp only [Except.map, labelled]
      exact congrArg (fun index => (Except.ok index, _)) read

theorem withVertex_stays (vertex : Vertex α) (ref : Ref (Vertex α))
    (held : space.vertices.Holds ref) : (space.withVertex vertex).vertices.Holds ref ∧
      (space.withVertex vertex).vertices.get ref = space.vertices.get ref :=
  ⟨held.make vertex, Heap.get_make_held held vertex⟩

/-- A new record that goes into the table of a mesh is seen there. -/
theorem Keeps.view_push (keeps : space.Keeps grid) (key : Int) (vertex : Vertex α) :
    ((space.withVertex vertex).setGrid grid { space.grids.get grid with
      vertices := (space.grids.get grid).vertices.push key (space.vertices.make vertex).1 }).view
        grid =
      { space.view grid with vertices := (space.view grid).vertices.push key vertex } := by
  have mesh : ∀ changed, (space.grids.set grid changed).get grid = changed :=
    Heap.get_set_same keeps.placed
  have same : (space.grids.get grid).vertices.map (space.withVertex vertex).vertices.get =
      (space.grids.get grid).vertices.map space.vertices.get :=
    Table.map_congr fun ref member =>
      Heap.get_make_held (keeps.verticesHeld ref member) vertex
  have new : (space.withVertex vertex).vertices.get (space.vertices.make vertex).1 = vertex :=
    Heap.get_make_new ..
  show (space.withVertex vertex).snapshot ((space.grids.set grid _).get grid) = _
  rw [mesh, snapshot, Mesh.map, Table.map_push, new, same]
  rfl

/-- A new vertex is added at a point unless the mesh is full, and then it is a record outside the
mesh. -/
theorem Keeps.addPoint_gains (keeps : space.Keeps grid) (point : α × α)
    (later : List (Except Error (α × α))) :
    ∃ answer after, (addPoint grid point).outcome space = (answer, after) ∧
      ((∃ reference, answer = .ok reference ∧ Gains grid [point] space after) ∨
        ∃ reason, answer = .error reason ∧ Gains grid [] space after ∧
          (space.view grid).Stops reason (.ok point :: later)) := by
  have outcome := outcome_addPoint point (rfl : (space.grids.get grid).vertices.nextKey = _)
  cases done : (space.grids.get grid).insertVertex (space.grids.get grid).vertices.nextKey
      (space.vertices.make ⟨point.1, point.2,
        .int (space.grids.get grid).vertices.nextKey⟩).1 with
  | error reason =>
      rw [done] at outcome
      refine ⟨_, _, outcome, .inr ⟨reason, rfl, ?_, ?_⟩⟩
      · exact keeps.gains_nothing rfl (withVertex_stays _) fun _ held => ⟨held, rfl⟩
      · cases checked : (space.grids.get grid).vertices.checkKey .vertex
            (space.grids.get grid).vertices.nextKey with
        | ok _ =>
            rw [Mesh.insertVertex, checked] at done
            cases done
        | error refusal =>
            rw [Mesh.insertVertex, checked] at done
            cases done
            obtain ⟨full, rfl⟩ := Table.checkKey_nextKey_eq_error keeps.sound.vertices checked
            exact Mesh.Stops.full (show (space.view grid).IsFull from full) point later
  | ok inserted =>
      rw [done] at outcome
      obtain ⟨_, rfl⟩ := (Mesh.insertVertex_eq_ok_iff ..).mp done
      refine ⟨_, _, outcome, .inl ⟨_, rfl, ?_⟩⟩
      exact ⟨fun other different => Heap.get_set_other different .., withVertex_stays _,
        fun _ held => ⟨held, rfl⟩, keeps.view_push ..⟩

/-- Points are taken in their order, up to one that cannot be read or finds the mesh full. The
induction is on the points, and the mesh that the first of them leaves is kept. -/
theorem Keeps.mapM_addPointRead (keeps : space.Keeps grid)
    (points : List (Except Error (α × α))) :
    ∃ answer after taken rest, (points.mapM (addPointRead grid)).outcome space = (answer, after) ∧
      points = taken.map .ok ++ rest ∧ after.Keeps grid ∧ Gains grid taken space after ∧
      ((∃ references, answer = .ok references ∧ rest = []) ∨
        ∃ reason, answer = .error reason ∧ (after.view grid).Stops reason rest) := by
  induction points generalizing space with
  | nil =>
      exact ⟨_, space, [], [], rfl, rfl, keeps, .refl grid space, .inl ⟨[], rfl, rfl⟩⟩
  | cons head later inductionHypothesis =>
      rw [List.mapM_cons, outcome_bind]
      cases head with
      | error refusal =>
          exact ⟨_, space, [], _, rfl, rfl, keeps, .refl grid space,
            .inr ⟨refusal, rfl, .unread refusal later⟩⟩
      | ok point =>
          obtain ⟨_, between, first, result⟩ := keeps.addPoint_gains point later
          have kept : between.Keeps grid := by
            have preserved := addPoint_preserves point space keeps
            rwa [first] at preserved
          rw [show (addPointRead grid (.ok point)).outcome space = _ from first]
          rcases result with ⟨reference, rfl, gains⟩ | ⟨reason, rfl, gains, stops⟩
          · obtain ⟨answer, after, taken, rest, second, split, keptAfter, more, ends⟩ :=
              inductionHypothesis kept
            refine ⟨answer.map (reference :: ·), after, point :: taken, rest, ?_, ?_, keptAfter,
              gains.trans more, ?_⟩
            · simp only [outcome_bind, second]
              cases answer <;> rfl
            · rw [split]
              rfl
            · rcases ends with ⟨references, rfl, complete⟩ | ⟨reason, rfl, stops⟩
              · exact .inl ⟨_, rfl, complete⟩
              · exact .inr ⟨_, rfl, stops⟩
          · refine ⟨_, between, [], _, rfl, rfl, kept, gains, .inr ⟨reason, rfl, ?_⟩⟩
            rw [gains.seen]
            exact stops

/-- The cell of a polygon is a record outside the mesh when it is refused. -/
theorem Keeps.refused_cell_gains (keeps : space.Keeps grid) (cell : Cell α)
    (refused : (MeshSpace.addCell grid (space.cells.make cell).1).outcome
      { space with cells := (space.cells.make cell).2 } = (.error reason, after)) :
    Gains grid [] space after := by
  obtain rfl := addCell_refused refused
  refine keeps.gains_nothing rfl (fun _ held => ⟨held, rfl⟩) fun ref held => ?_
  rw [MeshSpace.setCell, Heap.set_make]
  exact ⟨held.make _, Heap.get_make_held held _⟩

/-- A refused polygon leaves a vertex at each of the points that were taken before it was refused,
and no trace exactly if none was taken. Without points left, its cell was refused. -/
structure LeavesPoints (grid : Ref (SharedGrid α)) (points : List (Except Error (α × α)))
    (reason : Error) (space after : MeshSpace α) (taken : List (α × α))
    (rest : List (Except Error (α × α))) : Prop where
  split : points = taken.map .ok ++ rest
  gains : Gains grid taken space after
  ends : rest = [] ∨ (after.view grid).Stops reason rest
  unchanged_iff : after.view grid = space.view grid ↔ taken = []
  next : (after.view grid).vertices.nextKey =
    (space.view grid).vertices.nextKey + taken.length

theorem Keeps.leavesPoints (keeps : space.Keeps grid) {points : List (Except Error (α × α))}
    {cell : Except Error (Cell α)}
    (refused : (addPolygonRead grid points cell).outcome space = (.error reason, after)) :
    ∃ taken rest, LeavesPoints grid points reason space after taken rest := by
  obtain ⟨_, between, taken, rest, run, split, kept, gains, ends⟩ :=
    keeps.mapM_addPointRead points
  rw [addPolygonRead, outcome_bind, run] at refused
  have left : Gains grid taken space after ∧
      (rest = [] ∨ (after.view grid).Stops reason rest) := by
    rcases ends with ⟨references, rfl, complete⟩ | ⟨_, rfl, stops⟩
    · refine ⟨?_, .inl complete⟩
      rw [← List.append_nil taken]
      refine gains.trans ?_
      cases cell with
      | error refusal =>
          cases refused
          exact .refl grid _
      | ok cell =>
          simp only [outcome_bind, outcome_lift, outcome_makeCell] at refused
          split at refused
          next => cases refused
          next insertion =>
            cases refused
            exact kept.refused_cell_gains _ insertion
    · cases refused
      exact ⟨gains, .inr stops⟩
  refine ⟨taken, rest, split, left.1, left.2, ?_, ?_⟩
  · rw [left.1.seen]
    exact Mesh.withPoints_eq_self_iff taken _
  · rw [left.1.seen]
    exact Mesh.nextKey_withPoints taken _

/-- A vertex or a cell that a mesh refuses is left with the label that it was given, and nothing
else is changed. So a refused call leaves no trace exactly if the entity had an index of its own,
and otherwise it can be made again like a first call exactly as long as the mesh would choose the
same label. A refused polygon leaves the vertices at the points that were taken before. -/
theorem refused_insertions_leave_labels_and_points (keeps : space.Keeps grid) :
    (∀ ref reason after, space.vertices.Holds ref →
      (addVertex grid ref).outcome space = (.error reason, after) →
        LeavesVertex grid ref space after) ∧
      (∀ ref reason after, space.cells.Holds ref →
        (addCell grid ref).outcome space = (.error reason, after) →
          LeavesCell grid ref space after) ∧
      ∀ points cell reason after,
        (addPolygonRead grid points cell).outcome space = (.error reason, after) →
          ∃ taken rest, LeavesPoints grid points reason space after taken rest :=
  ⟨fun _ _ _ held refused => leavesVertex held refused,
    fun _ _ _ held refused => leavesCell held refused,
    fun _ _ _ _ refused => keeps.leavesPoints refused⟩

/-- An empty mesh that may get one vertex, a vertex beyond its extent, and a cell without index
that refers to no vertex of the mesh. -/
def oneSlot : MeshSpace Rat where
  vertices := ⟨#[⟨0, 0, .int 5⟩]⟩
  cells := ⟨#[{ vertices := [.int 1], area := 0 }]⟩
  grids := ⟨#[{ vertices := { fixedExtent := some 1 } }]⟩

theorem oneSlot_reached : Reached ⟨0⟩ oneSlot := by
  have created : Reached (α := Rat) ⟨0⟩ { grids := ⟨#[{}]⟩ } :=
    .created {} (rfl : Mesh.create (.text "") .generic .lonLat .onCells (.text "") = .ok {}) rfl
  have vertex := created.performed (.makeVertex ⟨0, 0, .int 5⟩) trivial
  have cell := vertex.performed (.makeCell { vertices := [.int 1], area := 0 }) trivial
  exact cell.performed (.fixExtent .vertex 1) trivial

/-- Two points, of which the mesh has room for one. -/
def twoPoints : List (Rat × Rat) := [(0, 0), (1, 0)]

/-- The vertex is as before, the cell is labelled, and of a polygon with two points the vertex at
the first one stays. -/
theorem oneSlot_leaves_a_label_and_a_point :
    ((addVertex ⟨0⟩ ⟨0⟩).outcome oneSlot).2 = oneSlot ∧
      ((addCell ⟨0⟩ ⟨0⟩).outcome oneSlot).2 = oneSlot.setCell ⟨0⟩
        ⟨[.int 1], .int 0, .int (-1), .int (-1), .int (-1), 0⟩ ∧
      ∃ taken rest, taken.length = 1 ∧
        LeavesPoints ⟨0⟩ (twoPoints.map .ok) (.beyondExtent .vertex 1 1) oneSlot
          ((addPolygon ⟨0⟩ twoPoints { area := 0 }).outcome oneSlot).2 taken rest := by
  obtain ⟨vertices, cells, polygons⟩ :=
    refused_insertions_leave_labels_and_points oneSlot_reached.keeps
  have vertex := vertices ⟨0⟩ (.beyondExtent .vertex 5 1) _ (by decide) rfl
  have cell := cells ⟨0⟩ (.danglingReference 0 "1") _ (by decide) rfl
  obtain ⟨taken, rest, left⟩ := polygons (twoPoints.map .ok) (.ok { area := 0 })
    (.beyondExtent .vertex 1 1) _ (congrArg (·.outcome oneSlot) (addPolygonRead_ok ..))
  refine ⟨vertex.unchanged_iff.mpr nofun, cell.labelled, taken, rest, ?_, left⟩
  have next : (1 : Int) = 0 + taken.length := left.next
  omega

/-- A cell without index has one after it was refused. -/
theorem refused_cell_is_labelled :
    ¬ ∀ (space after : MeshSpace Rat) (ref : Ref (Cell Rat)) (reason : Error),
      Reached ⟨0⟩ space → space.cells.Holds ref →
      (addCell ⟨0⟩ ref).outcome space = (.error reason, after) →
        (after.cells.get ref).index = (space.cells.get ref).index := by
  intro claimed
  have same := claimed oneSlot _ ⟨0⟩ (.danglingReference 0 "1") oneSlot_reached (by decide) rfl
  cases same

end MeshSpace

end Regrid
