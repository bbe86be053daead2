import Regrid.Coupling.Regridding
import Regrid.Shared.MeshSpace

/-!
Contract: ice sheets and the couplings that hold them, on shared meshes.

Owns:
- the heap of sheets and couplings, and each sheet with its meshes as they are now;
- realization and filtering of one sheet and of all sheets of a coupling;
- the operators of a coupling.

A sheet takes the number of model cells and of height points from a coupling when
it is added to it. The coupling itself asks its model mesh each time.
-/

namespace Regrid

/-- A sheet on shared meshes. -/
abbrev SharedSheet (α : Type) := Sheet (Ref (SharedGrid α)) α

instance {γ α : Type} [Inhabited γ] : Inhabited (Sheet γ α) :=
  ⟨{ variant := .onCells, name := .text "", iceMesh := default, exchangeMesh := default }⟩

/-- Several ice sheets of different names on one model mesh, in the order in which
they were added. A sheet is known by the name it had then. -/
structure Coupling (α : Type) where
  modelMesh : Ref (SharedGrid α)
  heightPoints : Value := .int 1
  sheets : List (Value × Ref (SharedSheet α)) := []
  deriving Inhabited

/-- All meshes, sheets and couplings. -/
structure CouplingSpace (α : Type) where
  meshes : MeshSpace α := {}
  sheets : Heap (SharedSheet α) := {}
  couplings : Heap (Coupling α) := {}

namespace CouplingSpace

variable {α τ : Type} [Scalar α]

/-- A step on the meshes. -/
def onMeshes (step : Attempt (MeshSpace α) τ) : Attempt (CouplingSpace α) τ :=
  step.within (fun space => space.meshes) fun meshes space => { space with meshes }

/-- The sheet behind a reference with its meshes as they are now. -/
def viewSheet (space : CouplingSpace α) (ref : Ref (SharedSheet α)) : Sheet (Grid α) α :=
  (space.sheets.get ref).withMeshes space.meshes.view

def makeSheet (sheet : SharedSheet α) : Attempt (CouplingSpace α) (Ref (SharedSheet α)) :=
  .ofFunction fun space =>
    let (ref, sheets) := space.sheets.make sheet
    .ok (ref, { space with sheets })

/-- Gives a sheet that holds its meshes a place of its own, with new meshes. -/
def adoptSheet (sheet : Sheet (Grid α) α) :
    Attempt (CouplingSpace α) (Ref (SharedSheet α)) := do
  let iceMesh ← onMeshes (MeshSpace.adopt sheet.iceMesh)
  let exchangeMesh ← onMeshes (MeshSpace.adopt sheet.exchangeMesh)
  makeSheet { sheet with iceMesh, exchangeMesh }

def changeSheet (ref : Ref (SharedSheet α)) (f : SharedSheet α → SharedSheet α) :
    Attempt (CouplingSpace α) Unit :=
  modify fun space => { space with sheets := space.sheets.set ref (f (space.sheets.get ref)) }

/-- Lists the overlaps of a sheet. When that is refused, an earlier list stays. -/
def realize (ref : Ref (SharedSheet α)) : Attempt (CouplingSpace α) Unit := do
  let overlaps ← ((← get).viewSheet ref).listOverlaps
  changeSheet ref fun sheet => { sheet with overlaps := some overlaps }

def unrealize (ref : Ref (SharedSheet α)) : Attempt (CouplingSpace α) Unit :=
  changeSheet ref fun sheet => { sheet with overlaps := none }

/-- Keeps the exchange cells of a sheet whose model cell passes a test, and lists the
overlaps again if they were listed before. -/
def filterSheet (accept : Value → Except Error Bool) (ref : Ref (SharedSheet α)) :
    Attempt (CouplingSpace α) Unit := do
  let space ← get
  let sheet := space.viewSheet ref
  onMeshes <| MeshSpace.filterCells (space.sheets.get ref).exchangeMesh fun key => do
    accept (← sheet.exchangeMesh.cells.get key).i
  if sheet.isRealized then realize ref

def makeCoupling (modelMesh : Ref (SharedGrid α)) (heightPoints : Value) :
    Attempt (CouplingSpace α) (Ref (Coupling α)) :=
  .ofFunction fun space =>
    let (ref, couplings) := space.couplings.make { modelMesh, heightPoints }
    .ok (ref, { space with couplings })

/-- The number of model cells that a coupling sees now. -/
def modelExtent (space : CouplingSpace α) (ref : Ref (Coupling α)) : Int :=
  (space.meshes.grids.get (space.couplings.get ref).modelMesh).fieldLength

/-- The sheets of a coupling with their meshes as they are now. -/
def viewSheets (space : CouplingSpace α) (ref : Ref (Coupling α)) :
    List (Sheet (Grid α) α) :=
  (space.couplings.get ref).sheets.map fun entry => space.viewSheet entry.2

/-- The sheet of a name in a coupling, if there is one. -/
def sheetNamed? (space : CouplingSpace α) (ref : Ref (Coupling α)) (name : Value) :
    Except Error (Option (Ref (SharedSheet α))) :=
  if name.isKey then .ok (Value.lookupKeyed name (space.couplings.get ref).sheets)
  else .error .wrongType

def sheetNamed (space : CouplingSpace α) (ref : Ref (Coupling α)) (name : Value) :
    Except Error (Ref (SharedSheet α)) := do
  match ← space.sheetNamed? ref name with
  | some sheet => return sheet
  | none => throw (.keyAbsent name.shown)

/-- Adds a sheet to a coupling, from which it takes its place and its extents. -/
def addSheet (ref : Ref (Coupling α)) (sheetRef : Ref (SharedSheet α)) :
    Attempt (CouplingSpace α) Unit := do
  let space ← get
  let coupling := space.couplings.get ref
  let name := (space.sheets.get sheetRef).name
  if (← space.sheetNamed? ref name).isSome then throw (Error.sheetRepeated name.shown)
  changeSheet sheetRef fun sheet =>
    { sheet with
      index := coupling.sheets.length
      modelExtent := .int (space.modelExtent ref)
      heightPoints := coupling.heightPoints }
  modify fun space =>
    { space with
      couplings := space.couplings.set ref
        { coupling with sheets := coupling.sheets ++ [(name, sheetRef)] } }

/-- Lists the overlaps of all sheets of a coupling, up to the first refusal. -/
def realizeAll (ref : Ref (Coupling α)) : Attempt (CouplingSpace α) Unit := do
  ((← get).couplings.get ref).sheets.forM fun entry => realize entry.2

/-- Keeps the model cells that pass a test, and the exchange cells on them. -/
def filterAll (accept : Value → Except Error Bool) (ref : Ref (Coupling α)) :
    Attempt (CouplingSpace α) Unit := do
  let coupling := (← get).couplings.get ref
  onMeshes (MeshSpace.filterCells coupling.modelMesh fun key => accept (.int key))
  coupling.sheets.forM fun entry => filterSheet accept entry.2

/-- The ice-covered area of each model cell of a coupling. -/
def coveredAreas (space : CouplingSpace α) (ref : Ref (Coupling α)) :
    Except Error (Accumulator α) :=
  Regrid.coveredAreas (space.viewSheets ref)

/-- The averages of a coupling from height points to model cells, and the ice-covered
area of each model cell. -/
def heightToModel (space : CouplingSpace α) (ref : Ref (Coupling α)) :
    Except Error (DenseOperator α × Accumulator α) :=
  Regrid.heightToModel (space.modelExtent ref) (space.couplings.get ref).heightPoints
    (space.viewSheets ref)

/-- The averages of each sheet of a coupling from height points to ice data points. -/
def heightToIce (space : CouplingSpace α) (ref : Ref (Coupling α)) :
    Except Error (List (Value × DenseOperator α)) :=
  (space.couplings.get ref).sheets.mapM fun (name, sheet) => do
    return (name, ← (space.viewSheet sheet).heightToIce)

end CouplingSpace

end Regrid
