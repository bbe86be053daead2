import Regrid.Proofs.Mesh.Soundness
import Regrid.Proofs.Refusal

/-!
Contract: meshes whose extents are fixed where they were not fixed yet.

Owns:
- tables and meshes with such a fence around them;
- that insertions and the fixing of extents do the same with and without it, as long as they ask
  for no key behind it;
- that they are refused for another reason, or not refused, if they do and there is no fence.

Does not own: who puts up the fence.
-/

namespace Regrid

open Attempt

/-! ### Fenced tables -/

namespace Table

variable {ι : Type} {table : Table ι} {bound key : Int}

/-- The table with its extent fixed at a bound, unless it is fixed already. -/
def fence (bound : Int) (table : Table ι) : Table ι :=
  { table with fixedExtent := some (table.fixedExtent.getD bound) }

theorem fence_eq_self_iff (bound : Int) (table : Table ι) :
    table.fence bound = table ↔ table.fixedExtent ≠ none := by
  obtain ⟨entries, top, fixedExtent⟩ := table
  cases fixedExtent <;> simp [fence]

theorem fixExtent_fence (kind : EntityKind) (extent : Value) :
    (table.fence bound).fixExtent kind extent =
      (table.fixExtent kind extent).map (fence bound) := by
  have same : (table.fence bound).fixExtent kind extent = table.fixExtent kind extent := rfl
  rw [same]
  cases done : table.fixExtent kind extent with
  | error reason => rfl
  | ok fixed =>
      obtain ⟨_, _, done⟩ := bind_eq_ok done
      obtain ⟨_, done⟩ := refuse_eq_ok_iff.mp done
      obtain ⟨_, _, done⟩ := bind_eq_ok done
      obtain ⟨_, done⟩ := refuse_eq_ok_iff.mp done
      obtain ⟨_, _, done⟩ := bind_eq_ok done
      cases done
      rfl

/-- A key below the bound is admitted as it was. -/
theorem checkKey_fence (kind : EntityKind) (inside : table.fixedExtent = none → key < bound) :
    (table.fence bound).checkKey kind key = table.checkKey kind key := by
  obtain ⟨entries, top, fixedExtent⟩ := table
  cases fixedExtent with
  | some extent => rfl
  | none =>
      have below : ¬ bound ≤ key := not_le.mpr (inside rfl)
      simp only [checkKey, fence, Option.getD_none, below, if_false]
      rfl

/-- A key beyond the bound was refused for any other reason, if it was refused. -/
theorem checkKey_fence_ne (kind : EntityKind) (unfixed : table.fixedExtent = none)
    (natural : 0 ≤ bound) (beyond : bound ≤ key) :
    (table.fence bound).checkKey kind key = .error (.beyondExtent kind key bound) ∧
      table.checkKey kind key ≠ .error (.beyondExtent kind key bound) := by
  have natural : ¬ key < 0 := by omega
  constructor
  · simp [checkKey, fence, unfixed, natural, beyond]
  · simp only [checkKey, unfixed, natural, if_false]
    split <;> simp

end Table

/-! ### Fenced meshes -/

namespace Mesh

variable {ν κ : Type} {mesh : Mesh ν κ} {vertexBound cellBound index : Int}

/-- The mesh with both extents fixed at bounds, unless they are fixed already. -/
def fence (vertexBound cellBound : Int) (mesh : Mesh ν κ) : Mesh ν κ :=
  { mesh with
    vertices := mesh.vertices.fence vertexBound
    cells := mesh.cells.fence cellBound }

/-- What a filter fixes is a fence at the next keys. -/
theorem freeze_eq_fence (mesh : Mesh ν κ) :
    mesh.freeze = mesh.fence mesh.vertices.nextKey mesh.cells.nextKey := rfl

theorem fence_eq_self_iff (vertexBound cellBound : Int) (mesh : Mesh ν κ) :
    mesh.fence vertexBound cellBound = mesh ↔
      mesh.vertices.fixedExtent ≠ none ∧ mesh.cells.fixedExtent ≠ none := by
  rw [← Table.fence_eq_self_iff vertexBound, ← Table.fence_eq_self_iff cellBound]
  constructor
  · intro same
    exact ⟨congrArg Mesh.vertices same, congrArg Mesh.cells same⟩
  · rintro ⟨vertices, cells⟩
    rw [fence, vertices, cells]

theorem dangling?_fence (references : List Value) :
    (mesh.fence vertexBound cellBound).dangling? references = mesh.dangling? references := by
  induction references with
  | nil => rfl
  | cons reference rest inductionHypothesis =>
      rw [dangling?, dangling?, inductionHypothesis]
      rfl

theorem fixExtent_fence (kind : EntityKind) (extent : Value) :
    (mesh.fence vertexBound cellBound).fixExtent kind extent =
      (mesh.fixExtent kind extent).map (fence vertexBound cellBound) := by
  cases kind with
  | vertex =>
      rw [fixExtent, fixExtent, fence, Table.fixExtent_fence]
      cases mesh.vertices.fixExtent .vertex extent <;> rfl
  | cell =>
      rw [fixExtent, fixExtent, fence, Table.fixExtent_fence]
      cases mesh.cells.fixExtent .cell extent <;> rfl

theorem insertVertex_fence (vertex : ν)
    (inside : mesh.vertices.fixedExtent = none → index < vertexBound) :
    (mesh.fence vertexBound cellBound).insertVertex index vertex =
      (mesh.insertVertex index vertex).map (fence vertexBound cellBound) := by
  rw [insertVertex, insertVertex, fence, Table.checkKey_fence .vertex inside]
  cases mesh.vertices.checkKey .vertex index <;> rfl

theorem insertCell_fence (references : List Value) (cell : κ)
    (inside : mesh.cells.fixedExtent = none → index < cellBound) :
    (mesh.fence vertexBound cellBound).insertCell references index cell =
      (mesh.insertCell references index cell).map (fence vertexBound cellBound) := by
  rw [insertCell, insertCell, dangling?_fence, fence, Table.checkKey_fence .cell inside]
  cases mesh.cells.checkKey .cell index with
  | error reason => rfl
  | ok _ =>
      cases mesh.dangling? references with
      | error reason => rfl
      | ok known => cases known <;> rfl

theorem insertVertex_fence_ne (cellBound : Int) (vertex : ν)
    (unfixed : mesh.vertices.fixedExtent = none)
    (natural : 0 ≤ vertexBound) (beyond : vertexBound ≤ index) :
    (mesh.fence vertexBound cellBound).insertVertex index vertex =
        .error (.beyondExtent .vertex index vertexBound) ∧
      mesh.insertVertex index vertex ≠ .error (.beyondExtent .vertex index vertexBound) := by
  obtain ⟨refused, other⟩ := Table.checkKey_fence_ne .vertex unfixed natural beyond
  refine ⟨bind_eq_error_iff.mpr (.inl refused), fun same => ?_⟩
  rcases bind_eq_error_iff.mp same with early | ⟨_, _, late⟩
  · exact other early
  · cases late

theorem insertCell_fence_ne (vertexBound : Int) (references : List Value) (cell : κ)
    (unfixed : mesh.cells.fixedExtent = none) (natural : 0 ≤ cellBound)
    (beyond : cellBound ≤ index) :
    (mesh.fence vertexBound cellBound).insertCell references index cell =
        .error (.beyondExtent .cell index cellBound) ∧
      mesh.insertCell references index cell ≠ .error (.beyondExtent .cell index cellBound) := by
  obtain ⟨refused, other⟩ := Table.checkKey_fence_ne .cell unfixed natural beyond
  refine ⟨bind_eq_error_iff.mpr (.inl refused), fun same => ?_⟩
  rcases bind_eq_error_iff.mp same with early | ⟨_, _, late⟩
  · exact other early
  · -- the extent is checked before the references are looked up
    rcases bind_eq_error_iff.mp late with unreadable | ⟨known, _, dangling⟩
    · cases dangling?_eq_error unreadable
    · cases known <;> cases dangling

end Mesh

end Regrid
