import Regrid.Proofs.Mesh.Fence
import Regrid.Proofs.Shared.Reachable

/-!
Contract: what is left of a mesh whose cells were filtered by a test that refused.

Owns:
- at which cell a filter is refused, and the extents that it has fixed by then;
- which calls notice them, among those that add to a mesh or fix its extents;
- that a refused filter changes nothing else.

Does not own: filters whose test answers.

The extents are fixed before the test is asked. A later call notices that only if it asks for a
key at or beyond an extent which nothing but the filter has fixed.
-/

namespace Regrid

open Attempt

/-! ### Tests that refuse -/

/-- The reason for which a test refuses the first of several keys that it does not answer. -/
def FirstRefusal (accept : Int → Except Error Bool) (keys : List Int) (reason : Error) : Prop :=
  ∃ done key rest, keys = done ++ key :: rest ∧
    (∀ other ∈ done, ∃ verdict, accept other = .ok verdict) ∧ accept key = .error reason

namespace Mesh

variable {ν κ : Type}

/-- A cell that a test accepts, with the keys that it refers to. -/
def pick (references : κ → List Value) (accept : Int → Except Error Bool) (entry : Int × κ) :
    Except Error (Option (Int × List (Option Int))) := do
  if ← accept entry.1 then
    return some (entry.1, ← (references entry.2).mapM Value.integerKey?)
  else return none

theorem exists_verdict {references : κ → List Value} {accept : Int → Except Error Bool}
    {entry : Int × κ} {picked : Option (Int × List (Option Int))}
    (done : pick references accept entry = .ok picked) :
    ∃ verdict, accept entry.1 = .ok verdict := by
  obtain ⟨verdict, answered, _⟩ := bind_eq_ok done
  exact ⟨verdict, answered⟩

/-- A cell whose references can be looked up is refused by the test, if it is. -/
theorem accept_eq_error {references : κ → List Value} {accept : Int → Except Error Bool}
    {entry : Int × κ} {reason : Error}
    (known : ∀ reference ∈ references entry.2, ∃ key, reference.integerKey? = .ok key)
    (refused : pick references accept entry = .error reason) :
    accept entry.1 = .error reason := by
  rcases bind_eq_error_iff.mp refused with early | ⟨verdict, _, late⟩
  · exact early
  · obtain ⟨names, read⟩ := exists_mapM_eq_ok known
    cases verdict with
    | false => cases late
    | true =>
        rcases bind_eq_error_iff.mp late with unread | ⟨_, _, impossible⟩
        · cases read.symm.trans unread
        · cases impossible

/-- A mesh is not restricted by a test that refuses one of its cells. -/
theorem restrict_refused (mesh : Mesh ν κ) (references : κ → List Value)
    {accept : Int → Except Error Bool}
    (refuses : ∃ key ∈ mesh.cells.keys, ∃ refusal, accept key = .error refusal) :
    ∃ reason, mesh.restrict references accept = .error reason ∧
      ((∀ cell ∈ mesh.cells.items, ∀ reference ∈ references cell,
        ∃ key, reference.integerKey? = .ok key) →
          FirstRefusal accept mesh.cells.keys reason) := by
  obtain ⟨key, used, refusal, refused⟩ := refuses
  obtain ⟨entry, member, rfl⟩ := List.mem_map.mp used
  have unpicked : pick references accept entry = .error refusal :=
    bind_eq_error_iff.mpr (.inl refused)
  obtain ⟨done, first, rest, reason, split, answered, stops⟩ :=
    exists_first_refusal ⟨entry, member, refusal, unpicked⟩
  refine ⟨reason, ?_, fun known => ⟨done.map (·.1), first.1, rest.map (·.1), ?_, ?_, ?_⟩⟩
  · rw [restrict, split]
    exact bind_eq_error_iff.mpr (.inl (filterMapM_eq_error answered stops))
  · rw [Table.keys, split, List.map_append, List.map_cons]
  · intro other otherMember
    obtain ⟨earlier, earlierMember, rfl⟩ := List.mem_map.mp otherMember
    obtain ⟨picked, pickedDone⟩ := answered earlier earlierMember
    exact exists_verdict pickedDone
  · have inside : first ∈ mesh.cells.entries := by simp [split]
    exact accept_eq_error (known first.2 (Table.mem_items_of_mem inside)) stops

end Mesh

/-! ### Calls on a fenced mesh -/

namespace MeshSpace

variable {α : Type} {grid : Ref (SharedGrid α)} {space : MeshSpace α}
  {vertexBound cellBound : Int}

/-- The space with both extents of one mesh fixed, unless they are fixed already. -/
def fence (grid : Ref (SharedGrid α)) (vertexBound cellBound : Int) (space : MeshSpace α) :
    MeshSpace α :=
  space.setGrid grid ((space.grids.get grid).fence vertexBound cellBound)

theorem get_fence (placed : space.grids.Holds grid) :
    (space.fence grid vertexBound cellBound).grids.get grid =
      (space.grids.get grid).fence vertexBound cellBound :=
  Heap.get_set_same placed _

theorem setVertex_fence (ref : Ref (Vertex α)) (vertex : Vertex α) :
    (space.fence grid vertexBound cellBound).setVertex ref vertex =
      (space.setVertex ref vertex).fence grid vertexBound cellBound := rfl

theorem setCell_fence (ref : Ref (Cell α)) (cell : Cell α) :
    (space.fence grid vertexBound cellBound).setCell ref cell =
      (space.setCell ref cell).fence grid vertexBound cellBound := rfl

theorem fence_setGrid (mesh : SharedGrid α) :
    (space.fence grid vertexBound cellBound).setGrid grid mesh = space.setGrid grid mesh := by
  simp only [fence, setGrid, Heap.set_set]

theorem setGrid_fence (placed : space.grids.Holds grid) (mesh : SharedGrid α) :
    (space.setGrid grid mesh).fence grid vertexBound cellBound =
      space.setGrid grid (mesh.fence vertexBound cellBound) := by
  have now : (space.setGrid grid mesh).grids.get grid = mesh := Heap.get_set_same placed mesh
  simp only [fence, now]
  simp only [setGrid, Heap.set_set]

theorem fence_eq_self_iff (placed : space.grids.Holds grid) :
    space.fence grid vertexBound cellBound = space ↔
      (space.grids.get grid).vertices.fixedExtent ≠ none ∧
        (space.grids.get grid).cells.fixedExtent ≠ none := by
  rw [← Mesh.fence_eq_self_iff vertexBound cellBound]
  constructor
  · intro same
    rw [← get_fence placed, same]
  · intro same
    rw [fence, same, setGrid, Heap.set_get]

theorem placeVertex_fence {label : Value} (ref : Ref (Vertex α)) {mesh : SharedGrid α}
    (inside : mesh.vertices.fixedExtent = none →
      ∀ key, label.toInteger = .ok key → key < vertexBound) :
    placeVertex label ref (mesh.fence vertexBound cellBound) =
      (placeVertex label ref mesh).map fun placed =>
        (placed.1, placed.2.fence vertexBound cellBound) := by
  rw [placeVertex, placeVertex]
  cases read : label.toInteger with
  | error reason => rfl
  | ok index =>
      simp only [bind, Except.bind]
      rw [Mesh.insertVertex_fence ref fun unfixed => inside unfixed index read]
      cases mesh.insertVertex index ref <;> rfl

theorem placeCell_fence {label : Value} (references : List Value) (ref : Ref (Cell α))
    {mesh : SharedGrid α} (inside : mesh.cells.fixedExtent = none →
      ∀ key, label.toInteger = .ok key → key < cellBound) :
    placeCell references label ref (mesh.fence vertexBound cellBound) =
      (placeCell references label ref mesh).map fun placed =>
        (placed.1, placed.2.fence vertexBound cellBound) := by
  rw [placeCell, placeCell]
  cases read : label.toInteger with
  | error reason => rfl
  | ok index =>
      simp only [bind, Except.bind]
      rw [Mesh.insertCell_fence references ref fun unfixed => inside unfixed index read]
      cases mesh.insertCell references index ref <;> rfl

variable [Scalar α]

theorem labelVertex_fence (placed : space.grids.Holds grid) (ref : Ref (Vertex α)) :
    (space.fence grid vertexBound cellBound).labelVertex grid ref = space.labelVertex grid ref := by
  rw [labelVertex, get_fence placed]
  rfl

theorem labelCell_fence (placed : space.grids.Holds grid) (ref : Ref (Cell α)) :
    (space.fence grid vertexBound cellBound).labelCell grid ref = space.labelCell grid ref := by
  rw [labelCell, get_fence placed]
  rfl

/-- A call that adds to a mesh or fixes one of its extents, or the making of an entity for one. -/
inductive Growth (α : Type) where
  | makeVertex (vertex : Vertex α)
  | makeCell (cell : Cell α)
  | addVertex (vertex : Ref (Vertex α))
  | addCell (cell : Ref (Cell α))
  | fixExtent (kind : EntityKind) (extent : Value)

namespace Growth

/-- What a call does to the space. -/
def perform (grid : Ref (SharedGrid α)) : Growth α → Attempt (MeshSpace α) Unit
  | makeVertex vertex => do let _ ← MeshSpace.makeVertex vertex
  | makeCell cell => do let _ ← MeshSpace.makeCell cell
  | addVertex vertex => MeshSpace.addVertex grid vertex
  | addCell cell => MeshSpace.addCell grid cell
  | fixExtent kind extent => change grid (Mesh.fixExtent kind extent)

/-- A call asks for a key at or beyond a bound, in a table whose extent is not fixed. -/
def Crosses (grid : Ref (SharedGrid α)) (vertexBound cellBound : Int) (space : MeshSpace α) :
    Growth α → Prop
  | addVertex vertex => (space.grids.get grid).vertices.fixedExtent = none ∧
      ∃ key, (space.labelVertex grid vertex).index.toInteger = .ok key ∧ vertexBound ≤ key
  | addCell cell => (space.grids.get grid).cells.fixedExtent = none ∧
      ∃ key, (space.labelCell grid cell).index.toInteger = .ok key ∧ cellBound ≤ key
  | _ => False

theorem placed_perform (call : Growth α) : (call.perform grid).Preserves (·.grids.Holds grid) := by
  intro space placed
  cases call with
  | makeVertex vertex => exact placed
  | makeCell cell => exact placed
  | addVertex vertex =>
      rw [perform, outcome_addVertex]
      cases placeVertex (space.labelVertex grid vertex).index vertex (space.grids.get grid) with
      | error reason => exact placed
      | ok answer => exact Heap.holds_set.mpr placed
  | addCell cell =>
      rw [perform, outcome_addCell]
      cases placeCell (space.cells.get cell).vertices (space.labelCell grid cell).index cell
          (space.grids.get grid) with
      | error reason => exact placed
      | ok answer => exact Heap.holds_set.mpr placed
  | fixExtent kind extent =>
      rw [perform, outcome_change]
      cases (space.grids.get grid).fixExtent kind extent with
      | error reason => exact placed
      | ok fixed => exact Heap.holds_set.mpr placed

/-- A call that does not cross the fence does what it did without one. -/
theorem outcome_fence (placed : space.grids.Holds grid) {call : Growth α}
    (clear : ¬ call.Crosses grid vertexBound cellBound space) :
    (call.perform grid).outcome (space.fence grid vertexBound cellBound) =
      (((call.perform grid).outcome space).1,
        ((call.perform grid).outcome space).2.fence grid vertexBound cellBound) := by
  cases call with
  | makeVertex vertex => rfl
  | makeCell cell => rfl
  | addVertex vertex =>
      have inside : (space.grids.get grid).vertices.fixedExtent = none → ∀ key,
          (space.labelVertex grid vertex).index.toInteger = .ok key → key < vertexBound :=
        fun unfixed key read => not_le.mp fun beyond => clear ⟨unfixed, key, read, beyond⟩
      simp only [perform, outcome_addVertex, labelVertex_fence placed, get_fence placed,
        placeVertex_fence vertex inside, setVertex_fence]
      cases placeVertex (space.labelVertex grid vertex).index vertex (space.grids.get grid) with
      | error reason => rfl
      | ok answer =>
          have stays : (space.setVertex vertex { space.vertices.get vertex with
            index := .int answer.1 }).grids.Holds grid := placed
          simp only [Except.map, setGrid_fence stays]
          rw [fence_setGrid]
          rfl
  | addCell cell =>
      have inside : (space.grids.get grid).cells.fixedExtent = none → ∀ key,
          (space.labelCell grid cell).index.toInteger = .ok key → key < cellBound :=
        fun unfixed key read => not_le.mp fun beyond => clear ⟨unfixed, key, read, beyond⟩
      have vertices : ((space.fence grid vertexBound cellBound).cells.get cell).vertices =
        (space.cells.get cell).vertices := rfl
      simp only [perform, outcome_addCell, labelCell_fence placed, get_fence placed, vertices,
        placeCell_fence _ cell inside, setCell_fence]
      cases placeCell (space.cells.get cell).vertices (space.labelCell grid cell).index cell
          (space.grids.get grid) with
      | error reason => rfl
      | ok answer =>
          have stays : (space.setCell cell { space.cells.get cell with
            index := .int answer.1 }).grids.Holds grid := placed
          simp only [Except.map, setGrid_fence stays]
          rw [fence_setGrid]
          rfl
  | fixExtent kind extent =>
      simp only [perform, outcome_change, get_fence placed, Mesh.fixExtent_fence]
      cases (space.grids.get grid).fixExtent kind extent with
      | error reason => rfl
      | ok fixed =>
          simp only [Except.map, fence_setGrid, setGrid_fence placed]

/-- A call that crosses the fence is refused for that, and was not before. -/
theorem answer_fence_ne (placed : space.grids.Holds grid)
    (natural : 0 ≤ vertexBound ∧ 0 ≤ cellBound) {call : Growth α}
    (crosses : call.Crosses grid vertexBound cellBound space) :
    ((call.perform grid).outcome (space.fence grid vertexBound cellBound)).1 ≠
      ((call.perform grid).outcome space).1 := by
  cases call with
  | makeVertex vertex => cases crosses
  | makeCell cell => cases crosses
  | addVertex vertex =>
      obtain ⟨unfixed, key, read, beyond⟩ := crosses
      obtain ⟨refused, other⟩ :=
        Mesh.insertVertex_fence_ne cellBound vertex unfixed natural.1 beyond
      simp only [perform, outcome_addVertex, labelVertex_fence placed, get_fence placed,
        placeVertex, read, bind, Except.bind, refused]
      cases inserted : (space.grids.get grid).insertVertex key vertex with
      | ok mesh =>
          intro same
          cases same
      | error reason =>
          intro same
          obtain rfl : _ = reason := Except.error.inj same
          exact other inserted
  | addCell cell =>
      obtain ⟨unfixed, key, read, beyond⟩ := crosses
      obtain ⟨refused, other⟩ := Mesh.insertCell_fence_ne vertexBound
        (space.cells.get cell).vertices cell unfixed natural.2 beyond
      have vertices : ((space.fence grid vertexBound cellBound).cells.get cell).vertices =
        (space.cells.get cell).vertices := rfl
      simp only [perform, outcome_addCell, labelCell_fence placed, get_fence placed, vertices,
        placeCell, read, bind, Except.bind, refused]
      cases inserted : (space.grids.get grid).insertCell (space.cells.get cell).vertices key
          cell with
      | ok mesh =>
          intro same
          cases same
      | error reason =>
          intro same
          obtain rfl : _ = reason := Except.error.inj same
          exact other inserted
  | fixExtent kind extent => cases crosses

/-! ### Runs on a fenced mesh -/

/-- What calls answer that are made one after the other, whether they are refused or not. -/
def answers (grid : Ref (SharedGrid α)) : List (Growth α) → MeshSpace α → List (Except Error Unit)
  | [], _ => []
  | call :: rest, space => ((call.perform grid).outcome space).1 ::
      answers grid rest ((call.perform grid).outcome space).2

/-- The space after calls that are made one after the other. -/
def finish (grid : Ref (SharedGrid α)) (calls : List (Growth α)) (space : MeshSpace α) :
    MeshSpace α :=
  calls.foldl (fun space call => ((call.perform grid).outcome space).2) space

/-- No call of a run asks for a key at or beyond a bound in a table whose extent is not fixed by
then. -/
def StaysClear (grid : Ref (SharedGrid α)) (vertexBound cellBound : Int) :
    List (Growth α) → MeshSpace α → Prop
  | [], _ => True
  | call :: rest, space => ¬ call.Crosses grid vertexBound cellBound space ∧
      StaysClear grid vertexBound cellBound rest ((call.perform grid).outcome space).2

/-- A run notices the fence exactly if one of its calls crosses it. -/
theorem answers_fence_iff (placed : space.grids.Holds grid)
    (natural : 0 ≤ vertexBound ∧ 0 ≤ cellBound) (calls : List (Growth α)) :
    answers grid calls (space.fence grid vertexBound cellBound) = answers grid calls space ↔
      StaysClear grid vertexBound cellBound calls space := by
  induction calls generalizing space with
  | nil => simp [answers, StaysClear]
  | cons call rest inductionHypothesis =>
      simp only [answers, StaysClear, List.cons.injEq]
      by_cases crosses : call.Crosses grid vertexBound cellBound space
      · have differs := answer_fence_ne placed natural crosses
        simp [differs, crosses]
      · have placedNext := placed_perform call space placed
        simp [outcome_fence placed crosses, inductionHypothesis placedNext, crosses]

/-- After a run that stays clear of the fence the spaces differ by the fence and nothing else. -/
theorem finish_fence (placed : space.grids.Holds grid) {calls : List (Growth α)}
    (clear : StaysClear grid vertexBound cellBound calls space) :
    finish grid calls (space.fence grid vertexBound cellBound) =
      (finish grid calls space).fence grid vertexBound cellBound := by
  induction calls generalizing space with
  | nil => rfl
  | cons call rest inductionHypothesis =>
      have next := inductionHypothesis (placed_perform call space placed) clear.2
      rw [finish, List.foldl_cons, outcome_fence placed clear.1]
      exact next

end Growth

/-! ### Refused filters -/

/-- A refused filter leaves the mesh with its extents fixed, whichever cell it is refused at. Its
reason is that of the first cell that the test does not answer, if all references can be looked
up. -/
theorem outcome_filterCells_refused (placed : space.grids.Holds grid)
    {accept : Int → Except Error Bool} (refuses : ∃ key ∈ (space.grids.get grid).cells.keys,
      ∃ refusal, accept key = .error refusal) :
    ∃ reason, (filterCells grid accept).outcome space =
        (.error reason, space.setGrid grid (space.grids.get grid).freeze) ∧
      ((∀ cell ∈ (space.grids.get grid).cells.items,
        ∀ reference ∈ (space.cells.get cell).vertices, ∃ key, reference.integerKey? = .ok key) →
          FirstRefusal accept (space.grids.get grid).cells.keys reason) := by
  have frozen : (space.setGrid grid (space.grids.get grid).freeze).grids.get grid =
      (space.grids.get grid).freeze := Heap.get_set_same placed _
  obtain ⟨reason, refused, first⟩ := (space.grids.get grid).freeze.restrict_refused
    (fun ref => (space.cells.get ref).vertices) refuses
  refine ⟨reason, ?_, first⟩
  unfold filterCells
  rw [outcome_bind, outcome_change]
  simp only [outcome_bind, outcome_get, outcome_change, frozen]
  have cells : (space.setGrid grid (space.grids.get grid).freeze).cells = space.cells := rfl
  rw [cells, refused]

/-- A filter whose test refuses a cell is refused, and fixes both extents at what they are. That
changes nothing if both were fixed before, and is the only change. A later run notices it exactly
if one of its calls asks for a key at or beyond an extent that was fixed by the filter alone, and
otherwise leaves what it would have left, but for these extents. -/
theorem refused_filter_fixes_extents (placed : space.grids.Holds grid)
    (natural : -1 ≤ (space.grids.get grid).vertices.top ∧ -1 ≤ (space.grids.get grid).cells.top)
    {accept : Int → Except Error Bool} (refuses : ∃ key ∈ (space.grids.get grid).cells.keys,
      ∃ refusal, accept key = .error refusal) :
    ∃ reason after, (filterCells grid accept).outcome space = (.error reason, after) ∧
      after = space.setGrid grid (space.grids.get grid).freeze ∧
      ((∀ cell ∈ (space.grids.get grid).cells.items,
        ∀ reference ∈ (space.cells.get cell).vertices, ∃ key, reference.integerKey? = .ok key) →
          FirstRefusal accept (space.grids.get grid).cells.keys reason) ∧
      (after = space ↔ (space.grids.get grid).vertices.fixedExtent ≠ none ∧
        (space.grids.get grid).cells.fixedExtent ≠ none) ∧
      ∀ calls, (Growth.answers grid calls after = Growth.answers grid calls space ↔
          Growth.StaysClear grid (space.grids.get grid).vertices.nextKey
            (space.grids.get grid).cells.nextKey calls space) ∧
        (Growth.StaysClear grid (space.grids.get grid).vertices.nextKey
            (space.grids.get grid).cells.nextKey calls space →
          Growth.finish grid calls after = (Growth.finish grid calls space).fence grid
            (space.grids.get grid).vertices.nextKey (space.grids.get grid).cells.nextKey) := by
  obtain ⟨reason, refused, first⟩ := outcome_filterCells_refused placed refuses
  have bounds : 0 ≤ (space.grids.get grid).vertices.nextKey ∧
      0 ≤ (space.grids.get grid).cells.nextKey := by
    unfold Table.nextKey
    omega
  have fenced : space.setGrid grid (space.grids.get grid).freeze = space.fence grid
      (space.grids.get grid).vertices.nextKey (space.grids.get grid).cells.nextKey := by
    rw [Mesh.freeze_eq_fence, fence]
  refine ⟨reason, _, refused, rfl, first, ?_, fun calls => ?_⟩
  · rw [fenced]
    exact fence_eq_self_iff placed
  · rw [fenced]
    exact ⟨Growth.answers_fence_iff placed bounds calls, Growth.finish_fence placed⟩

/-- A mesh of one cell without vertices, neither of whose extents is fixed. -/
def oneCell : MeshSpace Rat where
  cells := ⟨#[{ index := .int 0, area := 0 }]⟩
  grids := ⟨#[{ cells := Table.empty.push 0 ⟨0⟩ }]⟩

theorem oneCell_reached : Reached ⟨0⟩ oneCell := by
  have created : Reached (α := Rat) ⟨0⟩ { grids := ⟨#[{}]⟩ } :=
    .created {} (rfl : Mesh.create (.text "") .generic .lonLat .onCells (.text "") = .ok {}) rfl
  exact (created.performed (.makeCell { area := 0 }) trivial).performed (.addCell ⟨0⟩)
    (by decide : 0 < 1)

/-- A test that fails on every cell. -/
def failing (_ : Int) : Except Error Bool := .error .callbackFailed

/-- A new cell, for which the mesh is to find an index. -/
def secondCell : List (Growth Rat) := [.makeCell { area := 0 }, .addCell ⟨1⟩]

/-- A refused filter changes the mesh of one cell, but a run that fixes its extent before it adds
a second cell does not notice. -/
theorem oneCell_grows_after_refused_filter :
    ∃ after, (filterCells ⟨0⟩ failing).outcome oneCell = (.error .callbackFailed, after) ∧
      after ≠ oneCell ∧ Growth.answers ⟨0⟩ (.fixExtent .cell (.int 2) :: secondCell) after =
        [.ok (), .ok (), .ok ()] := by
  have refuses : ∃ key ∈ (oneCell.grids.get ⟨0⟩).cells.keys, ∃ refusal,
      failing key = .error refusal := ⟨0, by decide, _, rfl⟩
  obtain ⟨reason, after, refused, _, first, changes, runs⟩ :=
    refused_filter_fixes_extents (by decide) (by decide) refuses
  have known : ∀ cell ∈ (oneCell.grids.get ⟨0⟩).cells.items,
      ∀ reference ∈ (oneCell.cells.get cell).vertices, ∃ key, reference.integerKey? = .ok key :=
    fun cell member => by
      obtain rfl := List.mem_singleton.mp member
      exact nofun
  obtain ⟨_, key, _, _, _, same⟩ := first known
  cases same
  refine ⟨after, refused, fun same => (changes.mp same).1 rfl, ?_⟩
  have clear : Growth.StaysClear ⟨0⟩ 0 1 (.fixExtent .cell (.int 2) :: secondCell) oneCell :=
    ⟨nofun, ⟨nofun, ⟨(fun crosses => nomatch crosses.1), trivial⟩⟩⟩
  exact ((runs _).1.mpr clear).trans rfl

/-- A run that adds a second cell at once is refused after the filter. -/
theorem refused_filter_is_noticed :
    ¬ ∀ (space : MeshSpace Rat) (accept : Int → Except Error Bool) (reason : Error)
        (after : MeshSpace Rat) (calls : List (Growth Rat)), Reached ⟨0⟩ space →
      (filterCells ⟨0⟩ accept).outcome space = (.error reason, after) →
        Growth.answers ⟨0⟩ calls after = Growth.answers ⟨0⟩ calls space := by
  intro claimed
  have same := claimed oneCell failing .callbackFailed _ secondCell oneCell_reached rfl
  cases same

end MeshSpace

end Regrid
