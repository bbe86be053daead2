import Regrid.Proofs.Mesh.Rectangles
import Regrid.Proofs.Shared.Adoption

/-!
Contract: choosing rectangles while a mesh is built is filtering them afterwards.

Owns:
- the mesh of all rectangles restricted to some of them;
- the run that builds everything and filters, and the run that builds the chosen rectangles only.

Does not own: meshes of other polygons.
-/

namespace Regrid.Rectilinear

open Attempt

variable {α : Type} [Scalar α] {plan : Plan α}

namespace Plan

/-- The test of indices that a test of addresses amounts to. -/
def testIndex (plan : Plan α) (p : Nat → Nat → Bool) (index : Int) : Bool :=
  p (index % plan.columns).toNat (index / plan.columns).toNat

omit [Scalar α] in
/-- An index leads back to its address. -/
theorem testIndex_cellIndex {i j : Nat} (inside : i < plan.columns) (p : Nat → Nat → Bool) :
    plan.testIndex p (cellIndex plan.columns (i, j)) = p i j := by
  have column : ((i + j * plan.columns : Int) % plan.columns).toNat = i := by
    rw [Int.add_mul_emod_self_right, Int.emod_eq_of_lt (Int.natCast_nonneg i) (by omega)]
    exact Int.toNat_natCast i
  have row : ((i + j * plan.columns : Int) / plan.columns).toNat = j := by
    rw [Int.add_mul_ediv_right _ _ (by omega),
      Int.ediv_eq_zero_of_lt (Int.natCast_nonneg i) (by omega), Int.zero_add]
    exact Int.toNat_natCast j
  show p ((i + j * plan.columns : Int) % plan.columns).toNat
    ((i + j * plan.columns : Int) / plan.columns).toNat = p i j
  rw [column, row]

/-- Every rectangle. -/
def all (plan : Plan α) : List (Nat × Nat) := plan.chosen fun _ _ => true

omit [Scalar α] in
theorem filter_all (p : Nat → Nat → Bool) :
    plan.all.filter (fun address => plan.testIndex p (cellIndex plan.columns address)) =
      plan.chosen p := by
  rw [all, chosen, List.filter_filter, chosen]
  refine List.filter_congr fun address member => ?_
  obtain ⟨i, j⟩ := address
  rw [Bool.and_true]
  exact testIndex_cellIndex (mem_addresses.mp member).1 p

theorem filter_cellRows (p : Nat → Nat → Bool) :
    (cellRows plan.xs.items plan.ys.items plan.all).filter (fun row => plan.testIndex p row.1) =
      cellRows plan.xs.items plan.ys.items (plan.chosen p) := by
  rw [cellRows, List.filter_map, cellRows, ← filter_all p]
  rfl

/-- A corner is needed by a rectangle that is left exactly if a chosen one has it. -/
theorem any_names (p : Nat → Nat → Bool) (key : Int) :
    ((cellRows plan.xs.items plan.ys.items plan.all).any fun row =>
        plan.testIndex p row.1 && row.2.vertices.any (·.name? = some key)) =
      (plan.chosen p).any fun address =>
        (corners plan.columns address.1 address.2).contains key := by
  rw [← List.any_filter, filter_cellRows, cellRows, List.any_map]
  refine congrArg (List.any (plan.chosen p)) (funext fun address => ?_)
  show ((corners plan.columns address.1 address.2).map Value.int).any
    (fun reference => decide (reference.name? = some key)) = _
  rw [List.any_map, Bool.eq_iff_iff, List.any_eq_true, List.contains_iff_mem]
  constructor
  · rintro ⟨corner, member, named⟩
    have same : some corner = some key := of_decide_eq_true named
    exact Option.some.inj same ▸ member
  · exact fun member => ⟨key, member, decide_eq_true rfl⟩

theorem filter_vertexRows (p : Nat → Nat → Bool) :
    ((vertexRows plan.xs.items plan.ys.items plan.all).filter fun row =>
        (cellRows plan.xs.items plan.ys.items plan.all).any fun cell =>
          plan.testIndex p cell.1 && cell.2.vertices.any (·.name? = some row.1)) =
      vertexRows plan.xs.items plan.ys.items (plan.chosen p) := by
  rw [vertexRows, List.filter_filter, vertexRows]
  refine List.filter_congr fun row _ => ?_
  let needs (address : Nat × Nat) : Bool :=
    (corners plan.columns address.1 address.2).contains row.1
  rw [any_names]
  show ((plan.chosen p).any needs && plan.all.any needs) = (plan.chosen p).any needs
  rw [Bool.and_eq_left_iff_imp]
  intro needed
  obtain ⟨address, member, corner⟩ := List.any_eq_true.mp needed
  have listed : address ∈ plan.all := by
    rw [← filter_all p] at member
    exact List.mem_of_mem_filter member
  exact List.any_eq_true.mpr ⟨address, listed, corner⟩

/-- The mesh of all rectangles, restricted to those that a test selects, is the mesh of these. -/
theorem restricted_built (mesh : Grid α) (p : Nat → Nat → Bool) :
    (built mesh plan.xs.items plan.ys.items plan.all).restricted Cell.vertices
        (fun key _ => plan.testIndex p key) =
      built mesh plan.xs.items plan.ys.items (plan.chosen p) := by
  have cells : (built mesh plan.xs.items plan.ys.items plan.all).cells.restricted
      (fun key _ => plan.testIndex p key) =
        (built mesh plan.xs.items plan.ys.items (plan.chosen p)).cells := by
    show Table.mk (List.filter _ (cellRows ..)) (Table.topOf ((List.filter _ (cellRows ..)).map _))
      _ = _
    rw [filter_cellRows]
    rfl
  have vertices : (built mesh plan.xs.items plan.ys.items plan.all).vertices.restricted
      (fun key _ => (built mesh plan.xs.items plan.ys.items plan.all).cells.entries.any fun cell =>
        plan.testIndex p cell.1 && cell.2.vertices.any (·.name? = some key)) =
        (built mesh plan.xs.items plan.ys.items (plan.chosen p)).vertices := by
    show Table.mk ((vertexRows ..).filter fun row => (cellRows ..).any _)
      (Table.topOf (((vertexRows ..).filter fun row => (cellRows ..).any _).map _)) _ = _
    rw [filter_vertexRows]
    rfl
  rw [Mesh.restricted, cells, vertices]
  rfl

/-- The mesh of all rectangles is filtered in a place of its own. -/
theorem Ascends.exists_filtered (ascends : plan.Ascends) (p : Nat → Nat → Bool) {mesh : Grid α}
    (made : plan.empty = .ok mesh) (space : MeshSpace α) : ∃ ref after, (do
      let ref ← MeshSpace.adopt (built mesh plan.xs.items plan.ys.items plan.all)
      MeshSpace.filterCells ref fun index => .ok (plan.testIndex p index)
      return ref : Attempt (MeshSpace α) (Ref (SharedGrid α))).outcome space = (.ok ref, after) ∧
        after.view ref = built mesh plan.xs.items plan.ys.items (plan.chosen p) := by
  obtain ⟨ref, after, adopted, placed, seen⟩ := MeshSpace.exists_adopted
    (built mesh plan.xs.items plan.ys.items plan.all) space
  have sound := ascends.sound_built (fun _ _ => true) made
  have filters := MeshSpace.filters_of_view placed (by rw [seen]; exact sound)
  refine ⟨ref, after.filtered ref (plan.testIndex p), ?_, ?_⟩
  · rw [outcome_bind_of_ok adopted]
    exact outcome_bind_of_ok (filters.outcome_filtered (plan.testIndex p)) _
  · rw [filters.view_filtered, seen]
    exact restricted_built mesh p

end Plan

/-- Building the chosen rectangles of ascending boundaries ends like building all of them and then
filtering the cells by the test of their addresses. A plan that is refused with all rectangles is
refused for the same reason with some of them, and a sensible plan is not refused. -/
theorem choosing_is_filtering [Scalar.Separated α] (ascends : plan.Ascends)
    (accept : Nat × Nat → Except Error Bool) (p : Nat → Nat → Bool)
    (answers : ∀ i j, i < plan.columns → j < plan.rows → accept (i, j) = .ok (p i j)) :
    (∀ parameterization, plan.Sensible parameterization →
      ∃ whole, plan.build (fun _ => .ok true) = .ok whole) ∧
    (∀ reason, plan.build (fun _ => .ok true) = .error reason →
      plan.build accept = .error reason) ∧
    ∀ whole, plan.build (fun _ => .ok true) = .ok whole →
      ∃ part, plan.build accept = .ok part ∧ ∀ space : MeshSpace α,
        (∃ ref after, (MeshSpace.adopt part).outcome space = (.ok ref, after) ∧
          after.view ref = part) ∧
        ∃ ref after, (do
          let ref ← MeshSpace.adopt whole
          MeshSpace.filterCells ref fun index =>
            .ok (p (index % plan.columns).toNat (index / plan.columns).toNat)
          return ref : Attempt (MeshSpace α) (Ref (SharedGrid α))).outcome space =
            (.ok ref, after) ∧ after.view ref = part := by
  have every : ∀ {mesh : Grid α}, plan.empty = .ok mesh → plan.build (fun _ => .ok true) =
      .ok (built mesh plan.xs.items plan.ys.items plan.all) := fun made =>
    ascends.build_eq_ok (p := fun _ _ => true) (fun _ _ _ _ => rfl) made
  refine ⟨?_, ?_, ?_⟩
  · intro parameterization sensible
    obtain ⟨mesh, made, _⟩ := sensible.exists_empty
    exact ⟨_, every made⟩
  · intro reason refused
    cases made : plan.empty with
    | error other =>
        rw [Plan.build_eq ascends, made] at refused ⊢
        exact refused
    | ok mesh =>
        rw [every made] at refused
        cases refused
  · intro whole done
    cases made : plan.empty with
    | error reason =>
        rw [Plan.build_eq ascends, made] at done
        cases done
    | ok mesh =>
        cases (every made).symm.trans done
        refine ⟨_, ascends.build_eq_ok answers made, fun space => ⟨?_, ?_⟩⟩
        · obtain ⟨ref, after, adopted, _, seen⟩ := MeshSpace.exists_adopted
            (built mesh plan.xs.items plan.ys.items (plan.chosen p)) space
          exact ⟨ref, after, adopted, seen⟩
        · exact ascends.exists_filtered p made space

/-- The second of two rectangles is built alone, and is what is left of both of them. -/
theorem strip_chosen_is_filtered : ∃ whole part,
    (strip Float).build (fun _ => .ok true) = .ok whole ∧
      (strip Float).build (fun address => .ok (address.1 == 1)) = .ok part ∧
      ∃ ref after, (do
        let ref ← MeshSpace.adopt whole
        MeshSpace.filterCells ref fun index => .ok ((index % (strip Float).columns).toNat == 1)
        return ref : Attempt (MeshSpace Float) (Ref (SharedGrid Float))).outcome {} =
          (.ok ref, after) ∧ after.view ref = part := by
  obtain ⟨builds, _, agree⟩ := choosing_is_filtering strip_ascends_double
    (fun address => .ok (address.1 == 1)) (fun i _ => i == 1) fun _ _ _ _ => rfl
  obtain ⟨whole, done⟩ := builds .onCells (strip_sensible strip_ascends_double)
  obtain ⟨part, chosen, ends⟩ := agree whole done
  exact ⟨whole, part, done, chosen, (ends {}).2⟩

end Regrid.Rectilinear
