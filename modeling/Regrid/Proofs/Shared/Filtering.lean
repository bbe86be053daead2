import Regrid.Proofs.Coupling.Restriction
import Regrid.Proofs.Mesh.Restriction
import Regrid.Proofs.Shared.CouplingSpace

/-!
Contract: what filtering the sheets of a coupling leaves behind.

Owns:
- the space with the meshes and overlaps of a coupling restricted to some model cells;
- that filtering reaches this space, from listed overlaps and also by listing them afterwards;
- that filtering twice is filtering once, by both tests.

Does not own: the operators of the restricted space.
-/

namespace Regrid

open Attempt

variable {α : Type} [Scalar α]

/-! ### One mesh -/

namespace MeshSpace

/-- The mesh has a record, its cells have different keys, and their references can be looked
up. -/
structure Filters (grid : Ref (SharedGrid α)) (space : MeshSpace α) : Prop where
  placed : space.grids.Holds grid
  distinct : (space.grids.get grid).cells.keys.Nodup
  known : ∀ cell ∈ (space.grids.get grid).cells.items,
    ∀ reference ∈ (space.cells.get cell).vertices, ∃ key, reference.integerKey? = .ok key

/-- The shared cells that pass a test, and the vertices that they refer to. -/
def restrictGrid (cells : Heap (Cell α)) (keeps : Int → Cell α → Bool) (grid : SharedGrid α) :
    SharedGrid α :=
  grid.restricted (fun ref => (cells.get ref).vertices) fun key ref => keeps key (cells.get ref)

variable {space : MeshSpace α} {grid : Ref (SharedGrid α)}

/-- Filtering restricts the mesh if the test answers on all cells. -/
theorem Filters.outcome_filterCells (filters : space.Filters grid)
    (accept : Int → Except Error Bool) (keeps : Int → Cell α → Bool)
    (answers : ∀ entry ∈ (space.grids.get grid).cells.entries,
      accept entry.1 = .ok (keeps entry.1 (space.cells.get entry.2))) :
    (filterCells grid accept).outcome space =
      (.ok (), space.setGrid grid (restrictGrid space.cells keeps (space.grids.get grid))) := by
  have frozen : (space.setGrid grid (space.grids.get grid).freeze).grids.get grid =
      (space.grids.get grid).freeze := Heap.get_set_same filters.placed _
  have restricted : (space.grids.get grid).freeze.restrict
      (fun ref => (space.cells.get ref).vertices) accept =
        .ok (restrictGrid space.cells keeps (space.grids.get grid)) :=
    Mesh.restrict_freeze_eq_ok answers filters.known
  unfold filterCells
  rw [outcome_bind, outcome_change]
  simp only [outcome_bind, outcome_get, outcome_change, frozen]
  have cells : (space.setGrid grid (space.grids.get grid).freeze).cells = space.cells := rfl
  rw [cells, restricted]
  simp only [setGrid, Heap.set_set]

/-- What is left of a mesh can be filtered again. -/
theorem Filters.restricted (filters : space.Filters grid) {other : MeshSpace α}
    {keeps : Int → Cell α → Bool} (placed : other.grids.Holds grid)
    (cells : other.cells = space.cells)
    (now : other.grids.get grid = restrictGrid space.cells keeps (space.grids.get grid)) :
    other.Filters grid where
  placed := placed
  distinct := by
    rw [now]
    exact filters.distinct.sublist (Table.keys_restricted_sublist ..)
  known := by
    intro cell member
    rw [now] at member
    rw [cells]
    exact filters.known cell ((List.filter_sublist.map _).subset member)

/-- The cells that are left are seen in their order. -/
theorem items_restrictGrid (space : MeshSpace α) (test : Cell α → Bool) (grid : SharedGrid α) :
    (space.snapshot (restrictGrid space.cells (fun _ => test) grid)).cells.items =
      (space.snapshot grid).cells.items.filter test := by
  show ((grid.cells.restricted fun _ ref => test (space.cells.get ref)).map
    space.cells.get).items = (grid.cells.map space.cells.get).items.filter test
  rw [Table.items_map, Table.items_map,
    Table.items_restricted fun ref => test (space.cells.get ref), List.filter_map]
  rfl

end MeshSpace

namespace CouplingSpace

/-! ### One sheet -/

/-- The exchange mesh of a sheet can be filtered, is not its ice mesh, and lies on model cells with
integer addresses. Overlaps that the sheet has listed are those that it would list now. -/
structure SheetFilters (space : CouplingSpace α) (sheet : Ref (SharedSheet α)) : Prop where
  mesh : space.meshes.Filters (space.sheets.get sheet).exchangeMesh
  apart : (space.sheets.get sheet).iceMesh ≠ (space.sheets.get sheet).exchangeMesh
  addresses : ∀ cell ∈ (space.viewSheet sheet).exchangeMesh.cells.items, ∃ i, cell.i = .int i
  listed : ∀ overlaps, (space.sheets.get sheet).overlaps = some overlaps →
    (space.viewSheet sheet).listOverlaps = .ok overlaps

/-- The exchange mesh of a sheet restricted to the model cells that pass. -/
def restrictExchange (p : Int → Bool) (space : CouplingSpace α) (sheet : Ref (SharedSheet α)) :
    SharedGrid α :=
  MeshSpace.restrictGrid space.meshes.cells (fun _ cell => cell.passes p)
    (space.meshes.grids.get (space.sheets.get sheet).exchangeMesh)

/-- The space with the exchange mesh of one sheet restricted. -/
def restrictMeshOf (p : Int → Bool) (sheet : Ref (SharedSheet α)) (space : CouplingSpace α) :
    CouplingSpace α :=
  { space with
    meshes := space.meshes.setGrid (space.sheets.get sheet).exchangeMesh
      (space.restrictExchange p sheet) }

variable {space : CouplingSpace α} {p : Int → Bool} {accept : Value → Except Error Bool}

/-- Exchange cells are accepted by the model cell that they lie on. -/
theorem SheetFilters.answers {sheet : Ref (SharedSheet α)} (filters : space.SheetFilters sheet)
    (answers : ∀ i, accept (.int i) = .ok (p i)) :
    ∀ entry ∈ (space.meshes.grids.get (space.sheets.get sheet).exchangeMesh).cells.entries,
      (do accept (← (space.viewSheet sheet).exchangeMesh.cells.get entry.1).i) =
        .ok ((space.meshes.cells.get entry.2).passes p) := by
  intro entry member
  have seen : (entry.1, space.meshes.cells.get entry.2) ∈
      (space.viewSheet sheet).exchangeMesh.cells.entries :=
    List.mem_map.mpr ⟨entry, member, rfl⟩
  have distinct : (space.viewSheet sheet).exchangeMesh.cells.keys.Nodup := by
    rw [show (space.viewSheet sheet).exchangeMesh.cells.keys =
      (space.meshes.grids.get (space.sheets.get sheet).exchangeMesh).cells.keys from
        Table.keys_map ..]
    exact filters.mesh.distinct
  obtain ⟨i, address⟩ := filters.addresses _ (Table.mem_items_of_mem seen)
  rw [Table.get_of_mem distinct seen]
  show accept (space.meshes.cells.get entry.2).i = _
  rw [Cell.passes, address]
  exact answers i

theorem SheetFilters.viewSheet_restrictMeshOf {sheet : Ref (SharedSheet α)}
    (filters : space.SheetFilters sheet) : (space.restrictMeshOf p sheet).viewSheet sheet =
      { space.viewSheet sheet with
        exchangeMesh := space.meshes.snapshot (space.restrictExchange p sheet) } := by
  have exchange : (space.restrictMeshOf p sheet).meshes.grids.get
      (space.sheets.get sheet).exchangeMesh = space.restrictExchange p sheet :=
    Heap.get_set_same filters.mesh.placed _
  have ice : (space.restrictMeshOf p sheet).meshes.grids.get (space.sheets.get sheet).iceMesh =
      space.meshes.grids.get (space.sheets.get sheet).iceMesh :=
    Heap.get_set_other filters.apart ..
  have own : (space.restrictMeshOf p sheet).sheets.get sheet = space.sheets.get sheet := rfl
  simp only [viewSheet, Sheet.withMeshes, MeshSpace.view, own, exchange, ice]
  rfl

/-- What the sheet lists on its restricted exchange mesh are the overlaps that pass. -/
theorem SheetFilters.listOverlaps_restrictMeshOf {sheet : Ref (SharedSheet α)}
    (filters : space.SheetFilters sheet) {overlaps : List (Overlap α)}
    (listed : (space.viewSheet sheet).listOverlaps = .ok overlaps) :
    ((space.restrictMeshOf p sheet).viewSheet sheet).listOverlaps =
      .ok (overlaps.filter (·.passes p)) := by
  have items := MeshSpace.items_restrictGrid space.meshes (·.passes p)
    (space.meshes.grids.get (space.sheets.get sheet).exchangeMesh)
  rw [filters.viewSheet_restrictMeshOf]
  exact Sheet.listOverlaps_restricted listed p rfl items

/-- Filtering a sheet restricts its exchange mesh, and its overlaps if they were listed. -/
theorem SheetFilters.outcome_filterSheet {sheet : Ref (SharedSheet α)}
    (filters : space.SheetFilters sheet) (answers : ∀ i, accept (.int i) = .ok (p i)) :
    (filterSheet accept sheet).outcome space =
      (.ok (), (space.restrictMeshOf p sheet).setOverlaps sheet
        ((space.sheets.get sheet).overlaps.map (·.filter (·.passes p)))) := by
  have filtered := filters.mesh.outcome_filterCells
    (fun key => do accept (← (space.viewSheet sheet).exchangeMesh.cells.get key).i)
    (fun _ cell => cell.passes p) (filters.answers answers)
  have onMesh : (onMeshes (MeshSpace.filterCells (space.sheets.get sheet).exchangeMesh fun key => do
      accept (← (space.viewSheet sheet).exchangeMesh.cells.get key).i)).outcome space =
        (.ok (), space.restrictMeshOf p sheet) := by
    rw [onMeshes, outcome_within, filtered]
    rfl
  have realized : (space.viewSheet sheet).isRealized =
      (space.sheets.get sheet).overlaps.isSome := rfl
  unfold filterSheet
  simp only [outcome_bind, outcome_get, onMesh, realized]
  cases kept : (space.sheets.get sheet).overlaps with
  | none =>
      -- nothing was listed, so nothing is listed again, and writing that back changes nothing
      have same : (space.restrictMeshOf p sheet).setOverlaps sheet none =
          space.restrictMeshOf p sheet := by
        have own : { space.sheets.get sheet with overlaps := none } = space.sheets.get sheet := by
          rw [← kept]
        show { space.restrictMeshOf p sheet with
          sheets := space.sheets.set sheet { space.sheets.get sheet with overlaps := none } } = _
        rw [own, Heap.set_get]
        rfl
      rw [Option.map_none, same]
      rfl
  | some overlaps =>
      show (realize sheet).outcome (space.restrictMeshOf p sheet) = _
      rw [outcome_realize, filters.listOverlaps_restrictMeshOf (filters.listed overlaps kept)]
      rfl

/-! ### All sheets of a coupling -/

/-- The exchange meshes of some sheets. -/
def exchangeMeshes (space : CouplingSpace α) (sheets : List (Ref (SharedSheet α))) :
    List (Ref (SharedGrid α)) :=
  sheets.map fun sheet => (space.sheets.get sheet).exchangeMesh

omit [Scalar α] in
/-- Sheets that differ in their overlaps at most have the same exchange meshes. -/
theorem exchangeMeshes_congr {other : CouplingSpace α} (same : ∀ sheet, ∃ overlaps,
    other.sheets.get sheet = { space.sheets.get sheet with overlaps })
    (sheets : List (Ref (SharedSheet α))) :
    other.exchangeMeshes sheets = space.exchangeMeshes sheets := by
  refine List.map_congr_left fun sheet _ => ?_
  obtain ⟨overlaps, own⟩ := same sheet
  rw [own]

/-- A mesh after filtering: the model mesh holds the model cells that pass, the exchange meshes of
some sheets hold the exchange cells on these, and other meshes are as they were. -/
def gridAfter (p : Int → Bool) (modelMesh : Ref (SharedGrid α))
    (sheets : List (Ref (SharedSheet α))) (space : CouplingSpace α) (ref : Ref (SharedGrid α))
    (grid : SharedGrid α) : SharedGrid α :=
  if ref = modelMesh then MeshSpace.restrictGrid space.meshes.cells (fun key _ => p key) grid
  else if ref ∈ space.exchangeMeshes sheets then
    MeshSpace.restrictGrid space.meshes.cells (fun _ cell => cell.passes p) grid
  else grid

/-- A sheet after filtering: some sheets have listed the overlaps on model cells that pass, and
other sheets are as they were. -/
def sheetAfter (p : Int → Bool) (sheets : List (Ref (SharedSheet α))) (ref : Ref (SharedSheet α))
    (sheet : SharedSheet α) : SharedSheet α :=
  if ref ∈ sheets then { sheet with overlaps := sheet.overlaps.map (·.filter (·.passes p)) }
  else sheet

/-- The space in which only the model cells that pass count for some sheets. Vertices, cells and
couplings are as they were. -/
def restrictedTo (p : Int → Bool) (modelMesh : Ref (SharedGrid α))
    (sheets : List (Ref (SharedSheet α))) (space : CouplingSpace α) : CouplingSpace α :=
  { space with
    meshes := { space.meshes with
      grids := space.meshes.grids.adjust (space.gridAfter p modelMesh sheets) }
    sheets := space.sheets.adjust (sheetAfter p sheets) }

/-- The model mesh and the exchange meshes of some sheets can be filtered, are different, and are
no ice meshes. Exchange cells lie on model cells with integer addresses, and the overlaps that the
sheets have listed are those that they would list now. -/
structure Filterable (modelMesh : Ref (SharedGrid α)) (sheets : List (Ref (SharedSheet α)))
    (space : CouplingSpace α) : Prop where
  meshes : ∀ grid ∈ modelMesh :: space.exchangeMeshes sheets, space.meshes.Filters grid
  different : (modelMesh :: space.exchangeMeshes sheets).Nodup
  iceMeshes : ∀ sheet ∈ sheets,
    (space.sheets.get sheet).iceMesh ∉ modelMesh :: space.exchangeMeshes sheets
  held : ∀ sheet ∈ sheets, space.sheets.Holds sheet
  addresses : ∀ sheet ∈ sheets, ∀ cell ∈ (space.viewSheet sheet).exchangeMesh.cells.items,
    ∃ i, cell.i = .int i
  listed : ∀ sheet ∈ sheets, ∀ overlaps, (space.sheets.get sheet).overlaps = some overlaps →
    (space.viewSheet sheet).listOverlaps = .ok overlaps

variable {modelMesh : Ref (SharedGrid α)} {sheets : List (Ref (SharedSheet α))}

theorem sheet_restrictedTo {sheet : Ref (SharedSheet α)} (outside : sheet ∉ sheets) :
    (space.restrictedTo p modelMesh sheets).sheets.get sheet = space.sheets.get sheet :=
  Heap.get_adjust_of_same (if_neg outside)

theorem grid_restrictedTo {grid : Ref (SharedGrid α)}
    (outside : grid ∉ modelMesh :: space.exchangeMeshes sheets) :
    (space.restrictedTo p modelMesh sheets).meshes.grids.get grid =
      space.meshes.grids.get grid := by
  obtain ⟨notModel, notExchange⟩ := not_or.mp (mt List.mem_cons.mpr outside)
  exact Heap.get_adjust_of_same ((if_neg notModel).trans (if_neg notExchange))

theorem viewSheet_restrictedTo {sheet : Ref (SharedSheet α)} (outside : sheet ∉ sheets)
    (ice : (space.sheets.get sheet).iceMesh ∉ modelMesh :: space.exchangeMeshes sheets)
    (exchange : (space.sheets.get sheet).exchangeMesh ∉ modelMesh :: space.exchangeMeshes sheets) :
    (space.restrictedTo p modelMesh sheets).viewSheet sheet = space.viewSheet sheet := by
  simp only [viewSheet, Sheet.withMeshes, MeshSpace.view, sheet_restrictedTo outside,
    grid_restrictedTo ice, grid_restrictedTo exchange]
  rfl

/-- A sheet can be filtered after some others, whose meshes are different ones. -/
theorem Filterable.sheetFilters {done rest : List (Ref (SharedSheet α))}
    {sheet : Ref (SharedSheet α)}
    (filterable : space.Filterable modelMesh (done ++ sheet :: rest)) :
    (space.restrictedTo p modelMesh done).SheetFilters sheet ∧ sheet ∉ done ∧
      (space.sheets.get sheet).exchangeMesh ∉ modelMesh :: space.exchangeMeshes done := by
  have member : sheet ∈ done ++ sheet :: rest := by simp
  have split : space.exchangeMeshes (done ++ sheet :: rest) = space.exchangeMeshes done ++
      (space.sheets.get sheet).exchangeMesh :: space.exchangeMeshes rest := by
    simp [exchangeMeshes]
  have exchange : (space.sheets.get sheet).exchangeMesh ∉
      modelMesh :: space.exchangeMeshes done := by
    have different := filterable.different
    rw [split, ← List.cons_append] at different
    intro inside
    exact (List.nodup_append.mp different).2.2 _ inside _ (List.mem_cons_self ..) rfl
  have outside : sheet ∉ done := fun inside =>
    exchange (List.mem_cons_of_mem _ (List.mem_map_of_mem inside))
  have ice : (space.sheets.get sheet).iceMesh ∉ modelMesh :: space.exchangeMeshes done := by
    intro inside
    apply filterable.iceMeshes sheet member
    rw [split, ← List.cons_append]
    exact List.mem_append_left _ inside
  -- none of the meshes restricted so far is one of this sheet, so it looks as it did before
  have view := viewSheet_restrictedTo (p := p) outside ice exchange
  refine ⟨⟨?_, ?_, ?_, ?_⟩, outside, exchange⟩
  · have filters := filterable.meshes (space.sheets.get sheet).exchangeMesh
      (List.mem_cons_of_mem _ (List.mem_map_of_mem member))
    have same := grid_restrictedTo (p := p) exchange
    rw [sheet_restrictedTo outside]
    refine ⟨Heap.holds_adjust.mpr filters.placed, ?_, ?_⟩
    · rw [same]
      exact filters.distinct
    · rw [same]
      exact filters.known
  · rw [sheet_restrictedTo outside]
    intro same
    apply filterable.iceMeshes sheet member
    rw [same]
    exact List.mem_cons_of_mem _ (List.mem_map_of_mem member)
  · rw [view]
    exact filterable.addresses sheet member
  · rw [view, sheet_restrictedTo outside]
    exact filterable.listed sheet member

/-- Restricting one more sheet restricts its exchange mesh and its overlaps. -/
theorem restrictedTo_append {done : List (Ref (SharedSheet α))} {sheet : Ref (SharedSheet α)}
    (outside : sheet ∉ done)
    (exchange : (space.sheets.get sheet).exchangeMesh ∉ modelMesh :: space.exchangeMeshes done) :
    ((space.restrictedTo p modelMesh done).restrictMeshOf p sheet).setOverlaps sheet
        (((space.restrictedTo p modelMesh done).sheets.get sheet).overlaps.map
          (·.filter (·.passes p))) =
      space.restrictedTo p modelMesh (done ++ [sheet]) := by
  obtain ⟨notModel, notExchange⟩ := not_or.mp (mt List.mem_cons.mpr exchange)
  have own : (space.restrictedTo p modelMesh done).sheets.get sheet = space.sheets.get sheet :=
    sheet_restrictedTo outside
  have mesh := grid_restrictedTo (p := p) exchange
  have meshes : (space.meshes.grids.adjust (space.gridAfter p modelMesh done)).set
      (space.sheets.get sheet).exchangeMesh (space.restrictExchange p sheet) =
      space.meshes.grids.adjust (space.gridAfter p modelMesh (done ++ [sheet])) := by
    have exchanges : space.exchangeMeshes (done ++ [sheet]) =
        space.exchangeMeshes done ++ [(space.sheets.get sheet).exchangeMesh] := by
      simp [exchangeMeshes]
    rw [Heap.adjust_set]
    refine Heap.adjust_congr fun ref _ => ?_
    rw [gridAfter, gridAfter, exchanges]
    by_cases here : ref = (space.sheets.get sheet).exchangeMesh
    · subst here
      rw [if_pos rfl, if_neg notModel, if_pos (by simp)]
      rfl
    · rw [if_neg here]
      simp only [List.mem_append, List.mem_singleton, here, or_false]
  have records : (space.sheets.adjust (sheetAfter p done)).set sheet
      { space.sheets.get sheet with
        overlaps := (space.sheets.get sheet).overlaps.map (·.filter (·.passes p)) } =
      space.sheets.adjust (sheetAfter p (done ++ [sheet])) :=
    Heap.adjust_mem_set space.sheets sheet
  have exchangeNow : (space.restrictedTo p modelMesh done).restrictExchange p sheet =
      space.restrictExchange p sheet := by
    rw [restrictExchange, own, mesh]
    rfl
  rw [setOverlaps, restrictMeshOf, exchangeNow, own]
  simp only [restrictedTo, MeshSpace.setGrid]
  rw [meshes, records]

/-- Filtering the model mesh comes first, and restricts nothing else. -/
theorem Filterable.outcome_filterCells (filterable : space.Filterable modelMesh sheets)
    (answers : ∀ i, accept (.int i) = .ok (p i)) :
    (onMeshes (MeshSpace.filterCells modelMesh fun key => accept (.int key))).outcome space =
      (.ok (), space.restrictedTo p modelMesh []) := by
  have filtered := (filterable.meshes modelMesh (List.mem_cons_self ..)).outcome_filterCells
    (fun key => accept (.int key)) (fun key _ => p key) fun entry _ => answers entry.1
  have meshes : space.meshes.grids.set modelMesh (MeshSpace.restrictGrid space.meshes.cells
      (fun key _ => p key) (space.meshes.grids.get modelMesh)) =
      space.meshes.grids.adjust (space.gridAfter p modelMesh []) := by
    rw [Heap.set_eq_adjust]
    refine Heap.adjust_congr fun ref _ => ?_
    rw [gridAfter]
    by_cases here : ref = modelMesh
    · rw [if_pos here, if_pos here, here]
    · rw [if_neg here, if_neg here]
      exact (if_neg List.not_mem_nil).symm
  have records : space.sheets.adjust (sheetAfter p []) = space.sheets :=
    Heap.adjust_same fun ref => if_neg List.not_mem_nil
  rw [onMeshes, outcome_within, filtered]
  simp only [MeshSpace.setGrid, restrictedTo]
  rw [meshes, records]

/-- The sheets of a coupling. -/
def sheetRefs (space : CouplingSpace α) (ref : Ref (Coupling α)) : List (Ref (SharedSheet α)) :=
  (space.couplings.get ref).sheets.map (·.2)

/-- The space in which only the model cells that pass count for a coupling. -/
def restricted (p : Int → Bool) (ref : Ref (Coupling α)) (space : CouplingSpace α) :
    CouplingSpace α :=
  space.restrictedTo p (space.couplings.get ref).modelMesh (space.sheetRefs ref)

/-- The meshes and sheets of a coupling can be filtered. -/
def FilterableAt (ref : Ref (Coupling α)) (space : CouplingSpace α) : Prop :=
  space.Filterable (space.couplings.get ref).modelMesh (space.sheetRefs ref)

variable {ref : Ref (Coupling α)}

/-- Filtering a coupling restricts it. -/
theorem FilterableAt.outcome_filterAll (filterable : space.FilterableAt ref)
    (answers : ∀ i, accept (.int i) = .ok (p i)) :
    (filterAll accept ref).outcome space = (.ok (), space.restricted p ref) := by
  -- what a prefix of the sheets leaves is the space restricted for these sheets
  have looped := outcome_forM (fun entry => filterSheet accept entry.2)
    (space.couplings.get ref).sheets (fun done =>
      space.restrictedTo p (space.couplings.get ref).modelMesh (done.map (·.2)))
    fun done entry rest split => by
      have refs : space.sheetRefs ref = done.map (·.2) ++ entry.2 :: rest.map (·.2) := by
        rw [sheetRefs, split]
        simp
      rw [FilterableAt, refs] at filterable
      obtain ⟨filters, outside, exchange⟩ := filterable.sheetFilters (p := p)
      rw [filters.outcome_filterSheet answers, restrictedTo_append outside exchange,
        List.map_append]
      rfl
  unfold filterAll
  rw [outcome_bind_of_ok (outcome_get space), outcome_bind_of_ok
    (filterable.outcome_filterCells answers)]
  exact looped

/-! ### Filtering again -/

/-- Filtering changes nothing about a sheet but its overlaps. -/
theorem exists_overlaps_restrictedTo (p : Int → Bool) (modelMesh : Ref (SharedGrid α))
    (sheets : List (Ref (SharedSheet α))) (space : CouplingSpace α)
    (sheet : Ref (SharedSheet α)) :
    ∃ overlaps, (space.restrictedTo p modelMesh sheets).sheets.get sheet =
      { space.sheets.get sheet with overlaps } := by
  refine Heap.holds_get_adjust (P := fun after => ∃ overlaps,
    after = { space.sheets.get sheet with overlaps }) ⟨_, rfl⟩ ?_
  by_cases member : sheet ∈ sheets
  · exact ⟨_, if_pos member⟩
  · exact ⟨_, if_neg member⟩

/-- Filtering twice is filtering once, by both tests. -/
theorem restrictedTo_restrictedTo (q : Int → Bool) :
    (space.restrictedTo p modelMesh sheets).restrictedTo q modelMesh sheets =
      space.restrictedTo (fun i => p i && q i) modelMesh sheets := by
  have meshes : (space.meshes.grids.adjust (space.gridAfter p modelMesh sheets)).adjust
      ((space.restrictedTo p modelMesh sheets).gridAfter q modelMesh sheets) =
      space.meshes.grids.adjust (space.gridAfter (fun i => p i && q i) modelMesh sheets) := by
    rw [Heap.adjust_adjust]
    refine Heap.adjust_congr fun grid _ => ?_
    rw [gridAfter, gridAfter, gridAfter,
      exchangeMeshes_congr (exists_overlaps_restrictedTo p modelMesh sheets space)]
    by_cases model : grid = modelMesh
    · rw [if_pos model, if_pos model, if_pos model]
      exact Mesh.restricted_restricted ..
    · by_cases exchange : grid ∈ space.exchangeMeshes sheets
      · rw [if_neg model, if_neg model, if_neg model, if_pos exchange, if_pos exchange,
          if_pos exchange]
        have both : (fun (_ : Int) (cell : Cell α) => cell.passes fun i => p i && q i) =
            fun _ cell => cell.passes p && cell.passes q :=
          funext fun _ => funext fun cell => Value.passes_and p q cell.i
        rw [both]
        exact Mesh.restricted_restricted ..
      · rw [if_neg model, if_neg model, if_neg model, if_neg exchange, if_neg exchange,
          if_neg exchange]
  have records : (space.sheets.adjust (sheetAfter p sheets)).adjust (sheetAfter q sheets) =
      space.sheets.adjust (sheetAfter (fun i => p i && q i) sheets) := by
    rw [Heap.adjust_adjust]
    refine Heap.adjust_congr fun sheet _ => ?_
    rw [sheetAfter, sheetAfter, sheetAfter]
    by_cases member : sheet ∈ sheets
    · have overlaps : ∀ overlaps : List (Overlap α),
          (overlaps.filter (·.passes p)).filter (·.passes q) =
            overlaps.filter (·.passes fun i => p i && q i) := by
        intro overlaps
        rw [List.filter_filter]
        refine List.filter_congr fun overlap _ => ?_
        rw [Overlap.passes, Overlap.passes, Overlap.passes, Value.passes_and, Bool.and_comm]
      rw [if_pos member, if_pos member, if_pos member]
      cases (space.sheets.get sheet).overlaps with
      | none => rfl
      | some listed => simp only [Option.map_some, overlaps]
    · rw [if_neg member, if_neg member, if_neg member]
  simp only [restrictedTo] at meshes ⊢
  rw [meshes, records]

theorem Filterable.sheet_restricted (filterable : space.Filterable modelMesh sheets)
    {sheet : Ref (SharedSheet α)} (member : sheet ∈ sheets) :
    (space.restrictedTo p modelMesh sheets).sheets.get sheet =
      { space.sheets.get sheet with
        overlaps := (space.sheets.get sheet).overlaps.map (·.filter (·.passes p)) } :=
  (Heap.get_adjust (filterable.held sheet member) _).trans (if_pos member)

/-- A restricted exchange mesh is seen with the cells that pass. -/
theorem Filterable.viewSheet_restricted (filterable : space.Filterable modelMesh sheets)
    {sheet : Ref (SharedSheet α)} (member : sheet ∈ sheets) :
    (space.restrictedTo p modelMesh sheets).viewSheet sheet =
      (space.viewSheet sheet).restricted p
        (space.meshes.snapshot (space.restrictExchange p sheet)) := by
  have inside : (space.sheets.get sheet).exchangeMesh ∈ space.exchangeMeshes sheets :=
    List.mem_map_of_mem member
  have notModel : (space.sheets.get sheet).exchangeMesh ≠ modelMesh := by
    intro same
    exact (List.nodup_cons.mp filterable.different).1 (same ▸ inside)
  have own := filterable.sheet_restricted (p := p) member
  have placed := (filterable.meshes _ (List.mem_cons_of_mem _ inside)).placed
  have exchange : (space.restrictedTo p modelMesh sheets).meshes.grids.get
      (space.sheets.get sheet).exchangeMesh = space.restrictExchange p sheet :=
    (Heap.get_adjust placed _).trans ((if_neg notModel).trans (if_pos inside))
  have ice := grid_restrictedTo (p := p) (filterable.iceMeshes sheet member)
  simp only [viewSheet, Sheet.withMeshes, MeshSpace.view, own, exchange, ice]
  rfl

/-- What a sheet lists in the restricted space are the overlaps that pass. -/
theorem Filterable.listOverlaps_restricted (filterable : space.Filterable modelMesh sheets)
    {sheet : Ref (SharedSheet α)} (member : sheet ∈ sheets) {overlaps : List (Overlap α)}
    (listed : (space.viewSheet sheet).listOverlaps = .ok overlaps) :
    ((space.restrictedTo p modelMesh sheets).viewSheet sheet).listOverlaps =
      .ok (overlaps.filter (·.passes p)) := by
  have items := MeshSpace.items_restrictGrid space.meshes (·.passes p)
    (space.meshes.grids.get (space.sheets.get sheet).exchangeMesh)
  rw [filterable.viewSheet_restricted member]
  exact Sheet.listOverlaps_restricted listed p rfl items

/-- What is left of a coupling can be filtered again. -/
theorem Filterable.restrictedTo (filterable : space.Filterable modelMesh sheets) :
    (space.restrictedTo p modelMesh sheets).Filterable modelMesh sheets := by
  have exchanges : (space.restrictedTo p modelMesh sheets).exchangeMeshes sheets =
      space.exchangeMeshes sheets :=
    exchangeMeshes_congr (exists_overlaps_restrictedTo p modelMesh sheets space) sheets
  constructor
  · intro grid member
    rw [exchanges] at member
    have filters := filterable.meshes grid member
    have placed : (space.restrictedTo p modelMesh sheets).meshes.grids.Holds grid :=
      Heap.holds_adjust.mpr filters.placed
    by_cases model : grid = modelMesh
    · exact filters.restricted placed rfl
        ((Heap.get_adjust filters.placed _).trans (if_pos model))
    · have exchange := (List.mem_cons.mp member).resolve_left model
      exact filters.restricted placed rfl
        ((Heap.get_adjust filters.placed _).trans ((if_neg model).trans (if_pos exchange)))
  · rw [exchanges]
    exact filterable.different
  · intro sheet member
    obtain ⟨overlaps, same⟩ := exists_overlaps_restrictedTo p modelMesh sheets space sheet
    rw [exchanges, same]
    exact filterable.iceMeshes sheet member
  · intro sheet member
    exact Heap.holds_adjust.mpr (filterable.held sheet member)
  · intro sheet member cell cellMember
    have items := MeshSpace.items_restrictGrid space.meshes (·.passes p)
      (space.meshes.grids.get (space.sheets.get sheet).exchangeMesh)
    rw [filterable.viewSheet_restricted member] at cellMember
    apply filterable.addresses sheet member cell
    apply List.mem_of_mem_filter
    exact items ▸ cellMember
  · intro sheet member overlaps kept
    rw [filterable.sheet_restricted member] at kept
    obtain ⟨before, keptBefore, rfl⟩ := Option.map_eq_some_iff.mp kept
    exact filterable.listOverlaps_restricted member (filterable.listed sheet member _ keptBefore)

/-! ### Filtering before listing -/

/-- The space in which some sheets have the given lists of overlaps. -/
def withOverlaps (overlaps : Ref (SharedSheet α) → Option (List (Overlap α)))
    (sheets : List (Ref (SharedSheet α))) (space : CouplingSpace α) : CouplingSpace α :=
  { space with
    sheets := space.sheets.adjust fun ref sheet =>
      if ref ∈ sheets then { sheet with overlaps := overlaps ref } else sheet }

omit [Scalar α] in
theorem withOverlaps_nil (overlaps : Ref (SharedSheet α) → Option (List (Overlap α))) :
    space.withOverlaps overlaps [] = space := by
  have records : (space.sheets.adjust fun ref sheet =>
      if ref ∈ ([] : List (Ref (SharedSheet α))) then { sheet with overlaps := overlaps ref }
      else sheet) = space.sheets :=
    Heap.adjust_same fun ref => if_neg List.not_mem_nil
  rw [withOverlaps, records]

omit [Scalar α] in
/-- Giving a list gives nothing else. -/
theorem exists_overlaps_withOverlaps (overlaps : Ref (SharedSheet α) → Option (List (Overlap α)))
    (sheets : List (Ref (SharedSheet α))) (space : CouplingSpace α)
    (sheet : Ref (SharedSheet α)) : ∃ others,
      (space.withOverlaps overlaps sheets).sheets.get sheet =
        { space.sheets.get sheet with overlaps := others } := by
  refine Heap.holds_get_adjust (P := fun after => ∃ others,
    after = { space.sheets.get sheet with overlaps := others }) ⟨_, rfl⟩ ?_
  by_cases member : sheet ∈ sheets
  · exact ⟨_, if_pos member⟩
  · exact ⟨_, if_neg member⟩

omit [Scalar α] in
theorem withOverlaps_append (overlaps : Ref (SharedSheet α) → Option (List (Overlap α)))
    (done : List (Ref (SharedSheet α))) (sheet : Ref (SharedSheet α)) :
    (space.withOverlaps overlaps done).setOverlaps sheet (overlaps sheet) =
      space.withOverlaps overlaps (done ++ [sheet]) := by
  obtain ⟨others, own⟩ := exists_overlaps_withOverlaps overlaps done space sheet
  have records : (space.sheets.adjust fun ref old =>
      if ref ∈ done then { old with overlaps := overlaps ref } else old).set sheet
        { space.sheets.get sheet with overlaps := overlaps sheet } =
      space.sheets.adjust fun ref old =>
        if ref ∈ done ++ [sheet] then { old with overlaps := overlaps ref } else old :=
    Heap.adjust_mem_set space.sheets sheet
  rw [setOverlaps, own]
  simp only [withOverlaps]
  rw [records]

theorem listOverlaps_withOverlaps (overlaps : Ref (SharedSheet α) → Option (List (Overlap α)))
    (sheet : Ref (SharedSheet α)) :
    ((space.withOverlaps overlaps sheets).viewSheet sheet).listOverlaps =
      (space.viewSheet sheet).listOverlaps := by
  obtain ⟨others, own⟩ := exists_overlaps_withOverlaps overlaps sheets space sheet
  rw [viewSheet, own]
  rfl

omit [Scalar α] in
/-- A loop that gives each sheet of a coupling its list. -/
theorem outcome_forM_sheets {step : Ref (SharedSheet α) → Attempt (CouplingSpace α) Unit}
    (overlaps : Ref (SharedSheet α) → Option (List (Overlap α)))
    (each : ∀ done, ∀ sheet ∈ space.sheetRefs ref,
      (step sheet).outcome (space.withOverlaps overlaps done) =
        (.ok (), (space.withOverlaps overlaps done).setOverlaps sheet (overlaps sheet))) :
    ((space.couplings.get ref).sheets.forM fun entry => step entry.2 :
        Attempt (CouplingSpace α) Unit).outcome space =
      (.ok (), space.withOverlaps overlaps (space.sheetRefs ref)) := by
  have looped := outcome_forM (fun entry => step entry.2) (space.couplings.get ref).sheets
    (fun done => space.withOverlaps overlaps (done.map (·.2))) fun done entry rest split => by
      have member : entry.2 ∈ space.sheetRefs ref := by
        rw [sheetRefs, split]
        simp
      rw [each _ entry.2 member, withOverlaps_append, List.map_append]
      rfl
  rw [List.map_nil, withOverlaps_nil] at looped
  exact looped

omit [Scalar α] in
theorem outcome_unrealizeAll (ref : Ref (Coupling α)) :
    ((space.couplings.get ref).sheets.forM fun entry => unrealize entry.2 :
        Attempt (CouplingSpace α) Unit).outcome space =
      (.ok (), space.withOverlaps (fun _ => none) (space.sheetRefs ref)) :=
  outcome_forM_sheets _ fun _ sheet _ => outcome_unrealize sheet _

theorem outcome_realizeAll {overlaps : Ref (SharedSheet α) → List (Overlap α)}
    (listed : ∀ sheet ∈ space.sheetRefs ref,
      (space.viewSheet sheet).listOverlaps = .ok (overlaps sheet)) :
    (realizeAll ref).outcome space =
      (.ok (), space.withOverlaps (fun sheet => some (overlaps sheet)) (space.sheetRefs ref)) := by
  unfold realizeAll
  rw [outcome_bind_of_ok (outcome_get space)]
  refine outcome_forM_sheets _ fun done sheet member => ?_
  rw [outcome_realize, listOverlaps_withOverlaps, listed sheet member]

/-- Sheets that have forgotten their overlaps can be filtered as before. -/
theorem Filterable.withOverlaps_none (filterable : space.Filterable modelMesh sheets) :
    (space.withOverlaps (fun _ => none) sheets).Filterable modelMesh sheets := by
  have same : ∀ sheet ∈ sheets, (space.withOverlaps (fun _ => none) sheets).sheets.get sheet =
      { space.sheets.get sheet with overlaps := none } := fun sheet member =>
    (Heap.get_adjust (filterable.held sheet member) _).trans (if_pos member)
  have exchanges : (space.withOverlaps (fun _ => none) sheets).exchangeMeshes sheets =
      space.exchangeMeshes sheets :=
    exchangeMeshes_congr (exists_overlaps_withOverlaps (fun _ => none) sheets space) sheets
  constructor
  · rw [exchanges]
    exact filterable.meshes
  · rw [exchanges]
    exact filterable.different
  · intro sheet member
    rw [exchanges, same sheet member]
    exact filterable.iceMeshes sheet member
  · intro sheet member
    exact Heap.holds_adjust.mpr (filterable.held sheet member)
  · intro sheet member
    rw [viewSheet, same sheet member]
    exact filterable.addresses sheet member
  · intro sheet member overlaps kept
    rw [same sheet member] at kept
    cases kept

/-- Listing the overlaps anew on restricted meshes gives those that pass. -/
theorem FilterableAt.listOverlaps_forgotten (filterable : space.FilterableAt ref)
    {sheet : Ref (SharedSheet α)} (member : sheet ∈ space.sheetRefs ref)
    {overlaps : List (Overlap α)} (kept : (space.sheets.get sheet).overlaps = some overlaps) :
    (((space.withOverlaps (fun _ => none) (space.sheetRefs ref)).restricted p ref).viewSheet
      sheet).listOverlaps = .ok (overlaps.filter (·.passes p)) := by
  have forgotten : (space.withOverlaps (fun _ => none) (space.sheetRefs ref)).FilterableAt ref :=
    Filterable.withOverlaps_none filterable
  apply Filterable.listOverlaps_restricted forgotten member
  rw [listOverlaps_withOverlaps]
  exact filterable.listed sheet member overlaps kept

/-- The overlaps that pass are put back into the space in which they were forgotten. -/
theorem withOverlaps_forgotten {passing : Ref (SharedSheet α) → List (Overlap α)}
    (each : ∀ sheet ∈ space.sheetRefs ref,
      (space.sheets.get sheet).overlaps.map (·.filter (·.passes p)) = some (passing sheet)) :
    ((space.withOverlaps (fun _ => none) (space.sheetRefs ref)).restricted p ref).withOverlaps
      (fun sheet => some (passing sheet)) (space.sheetRefs ref) = space.restricted p ref := by
  have meshes : (space.withOverlaps (fun _ => none) (space.sheetRefs ref)).gridAfter p
      (space.couplings.get ref).modelMesh (space.sheetRefs ref) =
      space.gridAfter p (space.couplings.get ref).modelMesh (space.sheetRefs ref) := by
    funext grid
    unfold gridAfter
    rw [exchangeMeshes_congr (exists_overlaps_withOverlaps (fun _ => none) _ space)]
    rfl
  have records : ((space.sheets.adjust fun other sheet =>
      if other ∈ space.sheetRefs ref then { sheet with overlaps := none } else sheet).adjust
        (sheetAfter p (space.sheetRefs ref))).adjust (fun other sheet =>
          if other ∈ space.sheetRefs ref then { sheet with overlaps := some (passing other) }
          else sheet) = space.sheets.adjust (sheetAfter p (space.sheetRefs ref)) := by
    rw [Heap.adjust_adjust, Heap.adjust_adjust]
    refine Heap.adjust_congr fun sheet _ => ?_
    rw [sheetAfter, sheetAfter]
    by_cases member : sheet ∈ space.sheetRefs ref
    · rw [if_pos member, if_pos member, if_pos member, if_pos member, each sheet member]
    · rw [if_neg member, if_neg member, if_neg member, if_neg member]
  unfold restricted restrictedTo
  rw [← meshes, ← records]
  rfl

/-- Where all sheets of a coupling have listed their overlaps, filtering restricts these as
listing them after the filtering does. -/
theorem FilterableAt.outcome_filter_realize (filterable : space.FilterableAt ref)
    (realized : ∀ sheet ∈ space.sheetRefs ref, ∃ overlaps,
      (space.sheets.get sheet).overlaps = some overlaps)
    (answers : ∀ i, accept (.int i) = .ok (p i)) :
    (do
      (space.couplings.get ref).sheets.forM fun entry => unrealize entry.2
      filterAll accept ref
      realizeAll ref : Attempt (CouplingSpace α) Unit).outcome space =
        (.ok (), space.restricted p ref) := by
  let passing (sheet : Ref (SharedSheet α)) : List (Overlap α) :=
    ((space.sheets.get sheet).overlaps.getD []).filter (·.passes p)
  have each : ∀ sheet ∈ space.sheetRefs ref,
      (space.sheets.get sheet).overlaps.map (·.filter (·.passes p)) = some (passing sheet) := by
    intro sheet member
    obtain ⟨overlaps, kept⟩ := realized sheet member
    show _ = some (((space.sheets.get sheet).overlaps.getD []).filter (·.passes p))
    rw [kept]
    rfl
  have forgotten : (space.withOverlaps (fun _ => none) (space.sheetRefs ref)).FilterableAt ref :=
    Filterable.withOverlaps_none filterable
  have relisted : ∀ sheet ∈ space.sheetRefs ref,
      (((space.withOverlaps (fun _ => none) (space.sheetRefs ref)).restricted p ref).viewSheet
        sheet).listOverlaps = .ok (passing sheet) := by
    intro sheet member
    obtain ⟨overlaps, kept⟩ := realized sheet member
    have same := each sheet member
    rw [kept, Option.map_some, Option.some_inj] at same
    rw [filterable.listOverlaps_forgotten member kept, same]
  have put : (realizeAll ref).outcome
      ((space.withOverlaps (fun _ => none) (space.sheetRefs ref)).restricted p ref) =
        (.ok (), space.restricted p ref) := by
    rw [← withOverlaps_forgotten each]
    exact outcome_realizeAll relisted
  rw [outcome_bind_of_ok (outcome_unrealizeAll ref),
    outcome_bind_of_ok (forgotten.outcome_filterAll answers)]
  exact put

end CouplingSpace

end Regrid
