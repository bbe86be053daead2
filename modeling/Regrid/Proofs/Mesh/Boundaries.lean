import Regrid.Proofs.Mesh.Rectangles
import Regrid.Proofs.Scalar.Difference

/-!
Contract: what the checks on boundary vectors let pass.

Owns:
- boundary vectors that pass, and that a mesh is returned only for such vectors;
- which of them ascend when boundaries are doubles, and that no corner is then unknown.

Does not own: the mesh that is built between ascending boundaries.

The check refuses a step that is known not to rise. A step between boundaries that are not numbers,
or between two equal infinities, is not known to rise or fall, and passes. So the statements about
doubles have two sides: what is known of every vector that passes, and the vectors for which this is
the whole order.
-/

namespace Regrid.Rectilinear

open Attempt

variable {α : Type} [Scalar α]

/-! ### Checks -/

/-- An array passes as a vector of boundaries: no step is known not to rise. -/
structure Passes (boundaries : Tensor α) : Prop where
  vector : boundaries.rank = 1
  several : 2 ≤ boundaries.items.length
  steep : boundaries.items.IsChain fun first second =>
    Scalar.atMost (second - first) Scalar.zero = false

theorem hasFlatStep_eq_false_iff {items : List α} :
    hasFlatStep items = false ↔ items.IsChain fun first second =>
      Scalar.atMost (second - first) Scalar.zero = false := by
  induction items with
  | nil => exact ⟨fun _ => .nil, fun _ => rfl⟩
  | cons first rest inductionHypothesis =>
      cases rest with
      | nil => exact ⟨fun _ => .singleton first, fun _ => rfl⟩
      | cons second rest =>
          rw [hasFlatStep, Bool.or_eq_false_iff, inductionHypothesis, List.isChain_cons_cons]

theorem checkBoundaries_eq_ok_iff {axis : String} {boundaries : Tensor α} {items : List α} :
    checkBoundaries axis boundaries = .ok items ↔ Passes boundaries ∧ items = boundaries.items := by
  unfold checkBoundaries
  rw [ite_error_eq_ok_iff, ite_error_eq_ok_iff, Bool.not_eq_true, hasFlatStep_eq_false_iff, not_or,
    not_not, not_lt]
  constructor
  · rintro ⟨⟨vector, several⟩, steep, same⟩
    exact ⟨⟨vector, several, steep⟩, (Except.ok.inj same).symm⟩
  · rintro ⟨passes, rfl⟩
    exact ⟨⟨passes.vector, passes.several⟩, passes.steep, rfl⟩

namespace Plan

variable {plan : Plan α} {accept : Nat × Nat → Except Error Bool} {mesh : Grid α}

/-- A plan is realized by filling an empty mesh, after both boundary vectors have passed. -/
theorem build_eq_ok_iff : plan.build accept = .ok mesh ↔ Passes plan.xs ∧ Passes plan.ys ∧
    ∃ start, plan.empty = .ok start ∧
      fill start plan.xs.items plan.ys.items accept = .ok mesh := by
  unfold build empty
  cases plan.surface with
  | plane projection =>
      simp only [planar, bind_eq_ok_iff, checkBoundaries_eq_ok_iff, and_assoc, exists_and_left,
        exists_eq_left]
      grind
  | globe =>
      by_cases within : latitudesWithin plan.ys.items = true
      · simp only [global, bind_eq_ok_iff, checkBoundaries_eq_ok_iff, and_assoc, exists_and_left,
          exists_eq_left, within, if_true]
        grind
      · simp [global, bind_eq_ok_iff, checkBoundaries_eq_ok_iff, within]

/-- Whatever was returned is the mesh of some of the rectangles, all of which were asked about. -/
theorem exists_built (done : plan.build accept = .ok mesh) : Passes plan.xs ∧ Passes plan.ys ∧
    ∃ start p, plan.empty = .ok start ∧
      (∀ i j, i < plan.columns → j < plan.rows → accept (i, j) = .ok (p i j)) ∧
      mesh = built start plan.xs.items plan.ys.items (plan.chosen p) := by
  obtain ⟨xs, ys, start, made, filled⟩ := build_eq_ok_iff.mp done
  obtain ⟨noVertices, noCells⟩ := tables_empty made
  obtain ⟨kept, selected, _⟩ := bind_eq_ok filled
  let p (i j : Nat) : Bool := (accept (i, j)).toOption.getD false
  have answers : ∀ address ∈ addresses plan.columns plan.rows,
      accept address = .ok (p address.1 address.2) := by
    intro address member
    obtain ⟨verdict, answered⟩ := exists_answer_of_filterM selected member
    rw [answered]
    show _ = Except.ok ((accept address).toOption.getD false)
    rw [answered]
    rfl
  refine ⟨xs, ys, start, p, made, ?_, ?_⟩
  · exact fun i j column row => answers (i, j) (mem_addresses.mpr ⟨column, row⟩)
  · exact Except.ok.inj (filled.symm.trans (fill_eq_ok noVertices noCells xs.several answers))

/-- A mesh on the globe is begun only if no end of the latitudes lies beyond a pole. -/
theorem latitudesWithin_of_empty {start : Grid α} (made : plan.empty = .ok start)
    (globe : plan.surface = .globe) : latitudesWithin plan.ys.items = true := by
  by_contra outside
  simp only [empty, globe, outside] at made
  cases made

/-- Corners of the built mesh lie on the boundaries. -/
theorem mem_items_of_built {start : Grid α} {chosen : List (Nat × Nat)} {vertex : Vertex α}
    (member : vertex ∈ (built start plan.xs.items plan.ys.items chosen).vertices.items) :
    vertex.x ∈ plan.xs.items ∧ vertex.y ∈ plan.ys.items := by
  obtain ⟨entry, realized, rfl⟩ := List.mem_map.mp member
  obtain ⟨_, _, _, _, column, row, rfl⟩ := mem_lattice.mp (List.mem_of_mem_filter realized)
  exact ⟨List.mem_of_getElem? column, List.mem_of_getElem? row⟩

end Plan

/-! ### Doubles -/

open Double

/-- Boundaries are numbers, and no two neighbours are one infinity. -/
structure Measured (boundaries : List Float) : Prop where
  numbers : ∀ x ∈ boundaries, Scalar.equal x x = true
  apart : boundaries.IsChain fun first second => ¬ SameInfinity first second

/-- An accepted step rises, or it cannot be measured. -/
theorem rises_or_unmeasured {x y : Float}
    (passes : Scalar.atMost (y - x) Scalar.zero = false) :
    Scalar.below x y = true ∨ Scalar.equal x x = false ∨ Scalar.equal y y = false ∨
      SameInfinity x y := by
  by_cases first : Scalar.equal x x = true
  · by_cases second : Scalar.equal y y = true
    · by_cases same : SameInfinity x y
      · exact .inr (.inr (.inr same))
      · exact .inl ((atMost_sub_iff first second same).mp passes)
    · exact .inr (.inr (.inl (Bool.eq_false_iff.mpr second)))
  · exact .inr (.inl (Bool.eq_false_iff.mpr first))

variable {boundaries : Tensor Float}

theorem Ascending.measured (ascending : Ascending boundaries) : Measured boundaries.items where
  numbers x member := by
    obtain ⟨place, bound, rfl⟩ := List.getElem_of_mem member
    have steps := List.isChain_iff_getElem.mp ascending.ascending
    have several := ascending.several
    by_cases last : place + 1 < boundaries.items.length
    · exact (equal_self_of_below (steps place last)).1
    · obtain ⟨before, rfl⟩ : ∃ before, place = before + 1 := ⟨place - 1, by omega⟩
      exact (equal_self_of_below (steps before bound)).2
  apart := ascending.ascending.imp fun _ _ rises same => not_equal_of_below rises same.2

theorem Passes.ascending (passes : Passes boundaries) (measured : Measured boundaries.items) :
    Ascending boundaries where
  vector := passes.vector
  several := passes.several
  ascending := by
    rw [List.isChain_iff_getElem]
    intro place bound
    have first := measured.numbers _ (List.getElem_mem (Nat.lt_of_succ_lt bound))
    have second := measured.numbers _ (List.getElem_mem bound)
    have apart := List.isChain_iff_getElem.mp measured.apart place bound
    have steep := List.isChain_iff_getElem.mp passes.steep place bound
    exact (atMost_sub_iff first second apart).mp steep

/-- Boundaries that ascend step by step ascend over any distance. -/
theorem Ascending.rank_le (ascending : Ascending boundaries) {place other : Nat}
    (before : place ≤ other) (inside : other < boundaries.items.length) :
    Scalar.Ordered.rank boundaries.items[place] ≤ Scalar.Ordered.rank boundaries.items[other] := by
  have ranked : (boundaries.items.map Scalar.Ordered.rank).IsChain (· < ·) := by
    rw [List.isChain_map]
    refine ascending.ascending.imp fun x y rises => ?_
    obtain ⟨first, second⟩ := equal_self_of_below rises
    exact (Scalar.Ordered.below_iff first second).mp rises
  have apart := List.pairwise_map.mp (List.isChain_iff_pairwise.mp ranked)
  rcases before.lt_or_eq with earlier | rfl
  · exact (List.pairwise_iff_getElem.mp apart place other (by omega) inside earlier).le
  · exact le_refl _

/-- Ascending latitudes lie on the globe, since the first and the last one do. -/
theorem Ascending.latitudes_within (ascending : Ascending boundaries)
    (within : latitudesWithin boundaries.items = true) : ∀ y ∈ boundaries.items,
      Scalar.atMost (Scalar.ofInt (-90)) y = true ∧ Scalar.atMost y (Scalar.ofInt 90) = true := by
  have south : Scalar.equal (Scalar.ofInt (-90) : Float) (Scalar.ofInt (-90)) = true := by
    decide +kernel
  have north : Scalar.equal (Scalar.ofInt 90 : Float) (Scalar.ofInt 90) = true := by
    decide +kernel
  have several := ascending.several
  have number : ∀ (place : Nat) (bound : place < boundaries.items.length),
      Scalar.equal boundaries.items[place] boundaries.items[place] = true :=
    fun place bound => ascending.measured.numbers _ (List.getElem_mem bound)
  rw [latitudesWithin, List.head?_eq_getElem?, List.getLast?_eq_getElem?,
    List.getElem?_eq_getElem (by omega), List.getElem?_eq_getElem (by omega)] at within
  obtain ⟨first, last⟩ := Bool.or_eq_false_iff.mp ((Bool.not_eq_true' _).mp within)
  intro y member
  obtain ⟨place, bound, rfl⟩ := List.getElem_of_mem member
  rw [atMost_iff_rank south (number place bound), atMost_iff_rank (number place bound) north]
  constructor
  · refine le_trans (not_lt.mp fun beyond => ?_) (ascending.rank_le (Nat.zero_le place) bound)
    exact Bool.false_ne_true (first.symm.trans
      ((Scalar.Ordered.below_iff (number 0 (by omega)) south).mpr beyond))
  · refine le_trans (ascending.rank_le (Nat.le_sub_one_of_lt bound) (by omega))
      (not_lt.mp fun beyond => ?_)
    exact Bool.false_ne_true (last.symm.trans
      ((Scalar.Ordered.below_iff north (number _ (by omega))).mpr beyond))

/-- The boundaries of a returned mesh of doubles rise at every step that can be measured. They
ascend throughout, and no circle of latitude lies beyond a pole and no corner is unknown, exactly if
all boundaries are numbers and no two neighbours are one infinity. -/
theorem returned_boundaries_ascend_iff (plan : Plan Float)
    (accept : Nat × Nat → Except Error Bool) (mesh : Grid Float)
    (returned : plan.build accept = .ok mesh) :
    (∀ boundaries ∈ [plan.xs.items, plan.ys.items], boundaries.IsChain fun first second =>
      Scalar.below first second = true ∨ Scalar.equal first first = false ∨
        Scalar.equal second second = false ∨ SameInfinity first second) ∧
    ((plan.Ascends ∧
      (plan.surface = .globe → ∀ y ∈ plan.ys.items, Scalar.atMost (Scalar.ofInt (-90)) y = true ∧
        Scalar.atMost y (Scalar.ofInt 90) = true) ∧
      ∀ vertex ∈ mesh.vertices.items, Scalar.equal vertex.x vertex.x = true ∧
        Scalar.equal vertex.y vertex.y = true) ↔
      Measured plan.xs.items ∧ Measured plan.ys.items) := by
  obtain ⟨xs, ys, start, p, made, _, rfl⟩ := Plan.exists_built returned
  refine ⟨?_, ?_, ?_⟩
  · intro boundaries member
    rcases List.mem_pair.mp member with rfl | rfl
    · exact xs.steep.imp fun _ _ => rises_or_unmeasured
    · exact ys.steep.imp fun _ _ => rises_or_unmeasured
  · exact fun ⟨ascends, _, _⟩ => ⟨ascends.xs.measured, ascends.ys.measured⟩
  · rintro ⟨xsMeasured, ysMeasured⟩
    have ascends : plan.Ascends := ⟨xs.ascending xsMeasured, ys.ascending ysMeasured⟩
    refine ⟨ascends, fun globe => ?_, fun vertex member => ?_⟩
    · exact ascends.ys.latitudes_within (Plan.latitudesWithin_of_empty made globe)
    · obtain ⟨column, row⟩ := Plan.mem_items_of_built member
      exact ⟨xsMeasured.numbers _ column, ysMeasured.numbers _ row⟩

/-- Two columns in the plane, the second of which ends at the given boundary. -/
def columnsUpTo (last : Float) : Plan Float where
  surface := .plane (.text "+proj=laea")
  xs := .ofList [Scalar.ofInt 0, Scalar.ofInt 1, last]
  ys := .ofList [Scalar.ofInt 0, Scalar.ofInt 2]
  name := .text "columns"
  parameterization := .text "L0"

/-- Boundaries that pass are realized, corners and all. -/
theorem exists_columnsUpTo {last : Float} (xs : Passes (columnsUpTo last).xs) :
    ∃ mesh, (columnsUpTo last).build (fun _ => .ok true) = .ok mesh ∧
      ∃ vertex ∈ mesh.vertices.items, vertex.x = last := by
  have ys : Passes (columnsUpTo last).ys := by
    have steep : hasFlatStep [(Scalar.ofInt 0 : Float), Scalar.ofInt 2] = false := by decide +kernel
    exact ⟨rfl, le_refl _, hasFlatStep_eq_false_iff.mp steep⟩
  obtain ⟨start, made⟩ : ∃ start, (columnsUpTo last).empty = .ok start := by
    have tag : readTag (.text "L0") = .ok Parameterization.onCells := by decide
    refine ⟨⟨.text "columns", .xy, .xy, .onCells, .text "+proj=laea", {}, {}⟩, ?_⟩
    show (do
      let parameterization ← readTag (.text "L0")
      Mesh.create (.text "columns") .xy .xy parameterization (.text "+proj=laea")) = _
    rw [tag]
    rfl
  obtain ⟨noVertices, noCells⟩ := Plan.tables_empty made
  have filled : fill start (columnsUpTo last).xs.items (columnsUpTo last).ys.items
      (fun _ => .ok true) = .ok (built start _ _ ((addresses 2 1).filter fun _ => true)) :=
    fill_eq_ok noVertices noCells xs.several fun _ _ => rfl
  have corner : (2, ⟨last, Scalar.ofInt 0, .int 2⟩) ∈ vertexRows (columnsUpTo last).xs.items
      (columnsUpTo last).ys.items ((addresses 2 1).filter fun _ => true) :=
    (mem_vertexRows xs.several List.filter_sublist).mpr
      ⟨2, 0, last, Scalar.ofInt 0, rfl, rfl, rfl, 1, 0,
        List.mem_filter.mpr ⟨mem_addresses.mpr ⟨Nat.one_lt_two, Nat.one_pos⟩, rfl⟩, .inr rfl,
        .inl rfl⟩
  exact ⟨_, Plan.build_eq_ok_iff.mpr ⟨xs, ys, start, made, filled⟩, _,
    List.mem_map.mpr ⟨_, corner, rfl⟩, rfl⟩

/-- A column without an end has boundaries that ascend. -/
theorem endless_column_ascends :
    ∃ mesh, (columnsUpTo (1.0 / 0.0)).build (fun _ => .ok true) = .ok mesh ∧
      (columnsUpTo (1.0 / 0.0)).Ascends ∧
      ∀ vertex ∈ mesh.vertices.items, Scalar.equal vertex.x vertex.x = true := by
  have steep : hasFlatStep [(Scalar.ofInt 0 : Float), Scalar.ofInt 1, 1.0 / 0.0] = false := by
    decide +kernel
  obtain ⟨mesh, returned, _⟩ :=
    exists_columnsUpTo ⟨rfl, by decide, hasFlatStep_eq_false_iff.mp steep⟩
  have columns : Measured [(Scalar.ofInt 0 : Float), Scalar.ofInt 1, 1.0 / 0.0] :=
    ⟨by decide +kernel, by decide +kernel⟩
  have rows : Measured [(Scalar.ofInt 0 : Float), Scalar.ofInt 2] :=
    ⟨by decide +kernel, by decide +kernel⟩
  obtain ⟨ascends, _, known⟩ := (returned_boundaries_ascend_iff _ _ mesh returned).2.mpr
    ⟨columns, rows⟩
  exact ⟨mesh, returned, ascends, fun vertex member => (known vertex member).1⟩

/-- A boundary that is not a number is accepted as the end of a column, and then no order holds and
a corner is unknown. -/
theorem unknown_boundary_is_accepted :
    ∃ mesh, (columnsUpTo Scalar.unknown).build (fun _ => .ok true) = .ok mesh ∧
      ¬ (columnsUpTo Scalar.unknown).Ascends ∧
      ∃ vertex ∈ mesh.vertices.items, Scalar.equal vertex.x vertex.x = false := by
  have steep : hasFlatStep [(Scalar.ofInt 0 : Float), Scalar.ofInt 1, Scalar.unknown] = false := by
    decide +kernel
  obtain ⟨mesh, returned, vertex, member, same⟩ :=
    exists_columnsUpTo ⟨rfl, by decide, hasFlatStep_eq_false_iff.mp steep⟩
  have unknown : Scalar.equal (Scalar.unknown : Float) Scalar.unknown = false := by decide +kernel
  refine ⟨mesh, returned, fun ascends => ?_, vertex, member, by rw [same, unknown]⟩
  refine Bool.false_ne_true (unknown.symm.trans (ascends.xs.measured.numbers _ ?_))
  show _ ∈ [Scalar.ofInt 0, Scalar.ofInt 1, Scalar.unknown]
  simp

end Regrid.Rectilinear
