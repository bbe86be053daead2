import Mathlib.Algebra.Order.Ring.Abs
import Mathlib.Tactic.Linarith
import Regrid.Config.GridConfig
import Regrid.Proofs.Mesh.Boundaries

/-!
Contract: which rectangle the mesh of a configuration covers, in exact arithmetic.

Owns:
- the boundaries of an axis, and the last one of them, which is the nearest to the stop that whole
  steps reach;
- configurations that are built, and the rectangle that the built mesh fills;
- that the configured rectangle is covered exactly if whole steps lead from start to stop.

Does not own: meshes in other arithmetic, and how configurations are read.

The number of steps is a rounded quotient, and no check compares the last boundary with the stop. So
the mesh always fills a rectangle from the start, and its far side is the one that the rounding
chose.
-/

namespace Regrid

open Attempt Rectilinear

/-! ### Rounding -/

theorem roundEvenRat_intCast (n : Int) : roundEvenRat (n : Rat) = n := by
  have down : (n : Rat).floor = n := Rat.floor_intCast n
  have rest : (n : Rat) - n < 1 / 2 := by
    rw [sub_self]
    norm_num
  simp only [roundEvenRat, down, if_pos rest]

/-- The nearest whole number is at most a half away. -/
theorem abs_roundEvenRat_sub_le (x : Rat) : |(roundEvenRat x : Rat) - x| ≤ 1 / 2 := by
  have low := Rat.floor_le x
  have high := Rat.lt_floor_add_one x
  push_cast at high
  unfold roundEvenRat
  dsimp only
  rw [abs_le]
  split_ifs <;> push_cast <;> constructor <;> linarith

theorem roundEvenRat_nonneg {x : Rat} (positive : 0 < x) : 0 ≤ roundEvenRat x := by
  have near := (abs_le.mp (abs_roundEvenRat_sub_le x)).1
  have above : ((-1 : Int) : Rat) < roundEvenRat x := by
    push_cast
    linarith
  have bound := Int.cast_lt.mp above
  omega

/-! ### Evenly spaced boundaries -/

/-- Boundaries lead from a start to a stop in steps of one width. -/
structure RunsEvenly (boundaries : List Rat) (start stop width : Rat) : Prop where
  first : boundaries.head? = some start
  last : boundaries.getLast? = some stop
  even : boundaries.IsChain fun lower upper => upper = lower + width

namespace AxisConfig

variable (axis : AxisConfig Rat)

/-- The number of steps from the start to the last boundary. -/
def steps : Int := roundEvenRat ((axis.stop - axis.start) / axis.step)

/-- The last boundary. -/
def reach : Rat := axis.start + axis.step * axis.steps

/-- All boundaries from the start to the last one. -/
def marks : List Rat :=
  (List.range (axis.steps + 1).toNat).map fun place : Nat => axis.start + axis.step * place

/-- An axis along which a mesh can be built: it leads upwards, there is at least one step, and the
boundaries find room. -/
structure Buildable : Prop where
  upwards : 0 < axis.step
  wide : axis.start < axis.stop
  nonempty : 1 ≤ axis.steps
  short : axis.steps + 1 < unaffordableLength

instance : Decidable axis.Buildable :=
  decidable_of_iff (0 < axis.step ∧ axis.start < axis.stop ∧ 1 ≤ axis.steps ∧
      axis.steps + 1 < unaffordableLength)
    ⟨fun ⟨upwards, wide, nonempty, short⟩ => ⟨upwards, wide, nonempty, short⟩,
      fun ⟨upwards, wide, nonempty, short⟩ => ⟨upwards, wide, nonempty, short⟩⟩

/-- Whole steps lead from the start to the stop. -/
def StepsFit : Prop := ∃ count : Int, axis.stop = axis.start + axis.step * count

variable {axis}

theorem steps_nonneg (upwards : 0 < axis.step) (wide : axis.start < axis.stop) : 0 ≤ axis.steps :=
  roundEvenRat_nonneg (div_pos (sub_pos.mpr wide) upwards)

/-- The last boundary is at most half a step away from the stop. -/
theorem abs_reach_sub_stop_le (upwards : 0 < axis.step) :
    |axis.reach - axis.stop| ≤ axis.step / 2 := by
  have near := abs_roundEvenRat_sub_le ((axis.stop - axis.start) / axis.step)
  have apart : axis.reach - axis.stop =
      axis.step * (axis.steps - (axis.stop - axis.start) / axis.step) := by
    rw [reach, mul_sub, mul_div_cancel₀ _ upwards.ne']
    ring
  calc |axis.reach - axis.stop|
      = axis.step * |(axis.steps : Rat) - (axis.stop - axis.start) / axis.step| := by
        rw [apart, abs_mul, abs_of_pos upwards]
    _ ≤ axis.step * (1 / 2) := mul_le_mul_of_nonneg_left near upwards.le
    _ = axis.step / 2 := by ring

/-- The last boundary is the stop exactly if whole steps lead there. -/
theorem reach_eq_stop_iff (upwards : 0 < axis.step) : axis.reach = axis.stop ↔ axis.StepsFit := by
  constructor
  · exact fun same => ⟨axis.steps, same.symm⟩
  · rintro ⟨count, fits⟩
    have quotient : (axis.stop - axis.start) / axis.step = count := by
      rw [fits, add_sub_cancel_left, mul_div_cancel_left₀ _ upwards.ne']
    rw [reach, steps, quotient, roundEvenRat_intCast, fits]

theorem boundaries_eq_ok_iff {boundaries : List Rat} : axis.boundaries = .ok boundaries ↔
    0 < axis.step ∧ axis.start < axis.stop ∧ axis.steps + 1 < unaffordableLength ∧
      boundaries = axis.marks := by
  have rounded : axis.boundaries =
      if decide (axis.step ≤ ((0 : Int) : Rat)) = true then
        .error (.spacingNotPositive (Scalar.text axis.step))
      else if decide (axis.stop ≤ axis.start) = true then
        .error (.boundsNotIncreasing (Scalar.text axis.stop) (Scalar.text axis.start))
      else do
        checkLength (axis.steps + 1)
        return axis.marks := rfl
  rw [rounded, ite_error_eq_ok_iff, ite_error_eq_ok_iff, decide_eq_true_iff, decide_eq_true_iff,
    Int.cast_zero, not_le, not_le, bind_eq_ok_iff]
  refine and_congr_right fun upwards => and_congr_right fun wide => ?_
  have natural := steps_nonneg upwards wide
  constructor
  · rintro ⟨_, checked, same⟩
    exact ⟨(checkLength_eq_ok_iff.mp checked).2, (Except.ok.inj same).symm⟩
  · rintro ⟨short, rfl⟩
    exact ⟨(), checkLength_eq_ok_iff.mpr ⟨by omega, short⟩, rfl⟩

theorem length_marks : axis.marks.length = (axis.steps + 1).toNat := by
  rw [marks, List.length_map, List.length_range]

theorem getElem?_marks {place : Nat} (inside : place ≤ axis.steps) :
    axis.marks[place]? = some (axis.start + axis.step * place) := by
  rw [marks, List.getElem?_map, List.getElem?_range (by omega)]
  rfl

theorem isChain_marks : axis.marks.IsChain fun lower upper => upper = lower + axis.step := by
  rw [List.isChain_iff_getElem]
  intro place bound
  simp only [marks, List.getElem_map, List.getElem_range]
  push_cast
  ring

theorem runsEvenly_marks (natural : 0 ≤ axis.steps) :
    RunsEvenly axis.marks axis.start axis.reach axis.step where
  first := by
    rw [List.head?_eq_getElem?, getElem?_marks (by omega), Nat.cast_zero, mul_zero, add_zero]
  last := by
    obtain ⟨count, same⟩ := Int.eq_ofNat_of_zero_le natural
    have final : axis.marks.length - 1 = count := by
      rw [length_marks]
      omega
    rw [List.getLast?_eq_getElem?, final, getElem?_marks (by omega), reach, same]
    rfl
  even := isChain_marks

/-- Boundaries of an axis pass exactly if there is at least one step. -/
theorem passes_marks_iff (upwards : 0 < axis.step) :
    Passes (.ofList axis.marks) ↔ 1 ≤ axis.steps := by
  constructor
  · intro passes
    have several : 2 ≤ axis.marks.length := passes.several
    rw [length_marks] at several
    omega
  · intro nonempty
    have several : 2 ≤ axis.marks.length := by
      rw [length_marks]
      omega
    refine ⟨rfl, several, isChain_marks.imp fun lower upper step => ?_⟩
    show decide (upper - lower ≤ ((0 : Int) : Rat)) = false
    rw [step, add_sub_cancel_left, Int.cast_zero]
    exact decide_eq_false upwards.not_ge

theorem Buildable.ascending (buildable : axis.Buildable) : Ascending (.ofList axis.marks) where
  vector := rfl
  several := ((passes_marks_iff buildable.upwards).mpr buildable.nonempty).several
  ascending := isChain_marks.imp fun lower upper step => by
    rw [Scalar.below_rat, step]
    exact lt_add_of_pos_right lower buildable.upwards

/-- The boundaries of an axis are computed and pass exactly if a mesh can be built along it. -/
theorem passing_iff {boundaries : List Rat} :
    axis.boundaries = .ok boundaries ∧ Passes (.ofList boundaries) ↔
      axis.Buildable ∧ boundaries = axis.marks := by
  rw [boundaries_eq_ok_iff]
  constructor
  · rintro ⟨⟨upwards, wide, short, rfl⟩, passes⟩
    exact ⟨⟨upwards, wide, (passes_marks_iff upwards).mp passes, short⟩, rfl⟩
  · rintro ⟨⟨upwards, wide, nonempty, short⟩, rfl⟩
    exact ⟨⟨upwards, wide, short, rfl⟩, (passes_marks_iff upwards).mpr nonempty⟩

theorem Buildable.columns_eq (buildable : axis.Buildable) :
    ((axis.marks.length - 1 : Nat) : Int) = axis.steps := by
  have nonempty := buildable.nonempty
  rw [length_marks]
  omega

theorem Buildable.span_eq (buildable : axis.Buildable) :
    axis.step * (axis.marks.length - 1 : Nat) = axis.reach - axis.start := by
  rw [← Int.cast_natCast, buildable.columns_eq, reach, add_sub_cancel_left]

end AxisConfig

/-! ### Meshes between evenly spaced boundaries -/

/-- Every step between evenly spaced boundaries has their width. -/
theorem RunsEvenly.sub_eq {boundaries : List Rat} {start stop width lower upper : Rat} {place : Nat}
    (even : RunsEvenly boundaries start stop width)
    (span : Spans boundaries place lower upper) : upper - lower = width := by
  obtain ⟨bound, rfl⟩ := List.getElem?_eq_some_iff.mp span.2
  obtain ⟨_, rfl⟩ := List.getElem?_eq_some_iff.mp span.1
  rw [List.isChain_iff_getElem.mp even.even place bound, add_sub_cancel_left]

namespace Rectilinear.Plan

variable {plan : Plan Rat} {mesh : Grid Rat}

/-- The last cell of a mesh that is realized throughout ends at the last boundaries. -/
theorem Realizes.last_polygon (realizes : plan.Realizes (fun _ _ => true) mesh)
    (nonempty : 0 < mesh.cells.extent) : ∃ left right bottom top,
      plan.xs.items.getLast? = some right ∧ plan.ys.items.getLast? = some top ∧
      mesh.polygonAt (mesh.cells.extent - 1) = .ok (.box left right bottom top) := by
  rw [realizes.cellExtent] at nonempty ⊢
  have wide : plan.columns ≠ 0 := by
    rintro none
    simp [none] at nonempty
  have high : plan.rows ≠ 0 := by
    rintro none
    simp [none] at nonempty
  obtain ⟨i, columns⟩ := Nat.exists_eq_succ_of_ne_zero wide
  obtain ⟨j, rows⟩ := Nat.exists_eq_succ_of_ne_zero high
  obtain ⟨left, right, column⟩ := exists_spans (show i < plan.columns by omega)
  obtain ⟨bottom, top, row⟩ := exists_spans (show j < plan.rows by omega)
  have key : (plan.columns : Int) * plan.rows - 1 = i + j * plan.columns := by
    rw [columns, rows]
    push_cast
    ring
  obtain ⟨_, _, _, _, drawn, _⟩ := realizes.cells i j left right bottom top column row rfl
  refine ⟨left, right, bottom, top, ?_, ?_, by rw [key, drawn]; rfl⟩
  · rw [List.getLast?_eq_getElem?, show plan.xs.items.length - 1 = i + 1 from columns, column.2]
  · rw [List.getLast?_eq_getElem?, show plan.ys.items.length - 1 = j + 1 from rows, row.2]

/-- The cells of a mesh determine where its boundaries end. -/
theorem Realizes.last_unique {other : Plan Rat} (realizes : plan.Realizes (fun _ _ => true) mesh)
    (also : other.Realizes (fun _ _ => true) mesh) (nonempty : 0 < mesh.cells.extent) :
    plan.xs.items.getLast? = other.xs.items.getLast? ∧
      plan.ys.items.getLast? = other.ys.items.getLast? := by
  obtain ⟨left, right, bottom, top, column, row, drawn⟩ := realizes.last_polygon nonempty
  obtain ⟨left', right', bottom', top', column', row', drawn'⟩ := also.last_polygon nonempty
  have same := Except.ok.inj (drawn.symm.trans drawn')
  simp only [Polygon.box, List.cons.injEq, Prod.mk.injEq] at same
  rw [column, column', row, row', same.2.1.1, same.2.2.1.2]
  exact ⟨rfl, rfl⟩

/-- The areas of all cells between evenly spaced boundaries add up. -/
theorem sum_areas_built (plan : Plan Rat) {start : Grid Rat}
    {left right bottom top width height : Rat} (columns : RunsEvenly plan.xs.items left right width)
    (rows : RunsEvenly plan.ys.items bottom top height) :
    ((built start plan.xs.items plan.ys.items
      (addresses plan.columns plan.rows)).cells.items.map Cell.area).sum =
        (width * plan.columns) * (height * plan.rows) := by
  have each : ∀ area ∈ (built start plan.xs.items plan.ys.items
      (addresses plan.columns plan.rows)).cells.items.map Cell.area, area = width * height := by
    intro area member
    obtain ⟨_, listed, rfl⟩ := List.mem_map.mp member
    obtain ⟨_, row, rfl⟩ := List.mem_map.mp listed
    obtain ⟨⟨i, j⟩, inside, rfl⟩ := List.mem_map.mp row
    obtain ⟨column, row⟩ := mem_addresses.mp inside
    obtain ⟨lower, upper, across⟩ := exists_spans column
    obtain ⟨down, up, along⟩ := exists_spans row
    show (outline plan.xs.items plan.ys.items (i, j)).area = _
    rw [outline_eq across along, Polygon.area_box, columns.sub_eq across, rows.sub_eq along]
  have count : ((built start plan.xs.items plan.ys.items
      (addresses plan.columns plan.rows)).cells.items.map Cell.area).length =
        plan.rows * plan.columns := by
    have numbered := congrArg List.length (map_cellIndex_addresses plan.columns plan.rows)
    rw [List.length_map, List.length_map, List.length_range] at numbered
    simpa [Table.items, built, cellRows] using numbered
  rw [List.sum_eq_card_nsmul _ _ each, count, nsmul_eq_mul]
  push_cast
  ring

end Rectilinear.Plan

namespace GridConfig

variable {config : GridConfig Rat} {mesh : Grid Rat}

/-- The plan of a configuration between given boundaries. -/
def plan (config : GridConfig Rat) (xs ys : List Rat) : Plan Rat where
  surface := .plane (.text config.projection)
  xs := .ofList xs
  ys := .ofList ys
  name := .text config.name
  parameterization := .text (tagText config.parameterization)

/-- The mesh holds all cells between evenly spaced boundaries that lead from the configured starts
to the given sides, and their areas add up to that of the rectangle. -/
def Fills (config : GridConfig Rat) (mesh : Grid Rat) (right top : Rat) : Prop :=
  ∃ xs ys width height, RunsEvenly xs config.x.start right width ∧
    RunsEvenly ys config.y.start top height ∧
    (config.plan xs ys).Realizes (fun _ _ => true) mesh ∧
    (mesh.cells.items.map Cell.area).sum = (right - config.x.start) * (top - config.y.start)

/-- The mesh fills the rectangle that is configured. -/
def Covers (config : GridConfig Rat) (mesh : Grid Rat) : Prop :=
  config.Fills mesh config.x.stop config.y.stop

theorem build_eq_ok_iff : config.build = .ok mesh ↔ ∃ xs ys, config.x.boundaries = .ok xs ∧
    config.y.boundaries = .ok ys ∧ (config.plan xs ys).build (fun _ => .ok true) = .ok mesh := by
  simp only [build, bind_eq_ok_iff, exists_and_left]
  rfl

/-- A mesh is begun exactly if there is a projection. -/
theorem exists_empty_iff {xs ys : List Rat} :
    (∃ start, (config.plan xs ys).empty = .ok start) ↔ config.projection ≠ "" := by
  have tag : readTag (.text (tagText config.parameterization)) = .ok config.parameterization := by
    cases config.parameterization <;> decide
  have begun : (config.plan xs ys).empty = (do
      let parameterization ← readTag (.text (tagText config.parameterization))
      Mesh.create (.text config.name) .xy .xy parameterization (.text config.projection)) := rfl
  have present : (Value.text config.projection).orEmpty.isBlankOption = false ↔
      config.projection ≠ "" := by
    by_cases blank : config.projection = ""
    · simp [Value.orEmpty, Value.isBlankOption, blank]
    · simp [Value.orEmpty, Value.isBlankOption, blank]
  rw [begun, tag, ← present]
  constructor
  · rintro ⟨start, made⟩
    obtain ⟨_, _, created⟩ := bind_eq_ok made
    obtain ⟨_, validated, _⟩ := bind_eq_ok created
    exact ((Mesh.validate_eq_ok_iff _).mp validated).mp rfl
  · intro filled
    refine ⟨_, bind_eq_ok_iff.mpr ⟨_, rfl, bind_eq_ok_iff.mpr ⟨(), ?_, rfl⟩⟩⟩
    exact (Mesh.validate_eq_ok_iff _).mpr ⟨fun _ => filled, fun _ => rfl⟩

/-- What is built is the mesh of all cells between the boundaries of the axes. -/
theorem built_eq (done : config.build = .ok mesh) :
    config.projection ≠ "" ∧ config.x.Buildable ∧ config.y.Buildable ∧
      ∃ start, mesh = built start config.x.marks config.y.marks
        (addresses (config.x.marks.length - 1) (config.y.marks.length - 1)) := by
  obtain ⟨xs, ys, columns, rows, returned⟩ := build_eq_ok_iff.mp done
  obtain ⟨passesX, passesY, start, p, made, accepted, rfl⟩ := Plan.exists_built returned
  obtain ⟨buildableX, rfl⟩ := AxisConfig.passing_iff.mp ⟨columns, passesX⟩
  obtain ⟨buildableY, rfl⟩ := AxisConfig.passing_iff.mp ⟨rows, passesY⟩
  refine ⟨exists_empty_iff.mp ⟨start, made⟩, buildableX, buildableY, start, ?_⟩
  have all : (config.plan config.x.marks config.y.marks).chosen p =
      addresses (config.x.marks.length - 1) (config.y.marks.length - 1) := by
    refine List.filter_eq_self.mpr fun address member => ?_
    obtain ⟨column, row⟩ := mem_addresses.mp member
    exact (Except.ok.inj (accepted address.1 address.2 column row)).symm
  rw [all]
  rfl

theorem exists_build_iff : (∃ mesh, config.build = .ok mesh) ↔
    config.projection ≠ "" ∧ config.x.Buildable ∧ config.y.Buildable := by
  constructor
  · rintro ⟨mesh, done⟩
    obtain ⟨projection, buildableX, buildableY, _⟩ := built_eq done
    exact ⟨projection, buildableX, buildableY⟩
  · rintro ⟨projection, buildableX, buildableY⟩
    obtain ⟨start, made⟩ := exists_empty_iff.mpr projection
    have ascends : (config.plan config.x.marks config.y.marks).Ascends :=
      ⟨buildableX.ascending, buildableY.ascending⟩
    exact ⟨_, build_eq_ok_iff.mpr ⟨_, _, (AxisConfig.passing_iff.mpr ⟨buildableX, rfl⟩).1,
      (AxisConfig.passing_iff.mpr ⟨buildableY, rfl⟩).1,
      ascends.build_eq_ok (p := fun _ _ => true) (fun _ _ _ _ => rfl) made⟩⟩

/-- The built mesh fills the rectangle up to the last boundaries. -/
theorem fills_built (done : config.build = .ok mesh) :
    config.Fills mesh config.x.reach config.y.reach := by
  obtain ⟨_, buildableX, buildableY, start, rfl⟩ := built_eq done
  have columns := AxisConfig.runsEvenly_marks (Int.le_of_lt buildableX.nonempty)
  have rows := AxisConfig.runsEvenly_marks (Int.le_of_lt buildableY.nonempty)
  have ascends : (config.plan config.x.marks config.y.marks).Ascends :=
    ⟨buildableX.ascending, buildableY.ascending⟩
  have realizes := ascends.realizes_built (fun _ _ => true) start
  rw [Plan.chosen, List.filter_true] at realizes
  refine ⟨_, _, _, _, columns, rows, realizes, ?_⟩
  rw [← buildableX.span_eq, ← buildableY.span_eq]
  exact Plan.sum_areas_built (config.plan config.x.marks config.y.marks) columns rows

/-- The built mesh covers the configured rectangle exactly if whole steps fit on both axes. -/
theorem covers_built_iff (done : config.build = .ok mesh) :
    config.Covers mesh ↔ config.x.StepsFit ∧ config.y.StepsFit := by
  have fills := fills_built done
  obtain ⟨_, buildableX, buildableY, start, same⟩ := built_eq done
  have nonempty : 0 < mesh.cells.extent := by
    have extent : mesh.cells.extent = config.x.steps * config.y.steps := by
      rw [← buildableX.columns_eq, ← buildableY.columns_eq, same]
      rfl
    rw [extent]
    exact Int.mul_pos buildableX.nonempty buildableY.nonempty
  rw [← AxisConfig.reach_eq_stop_iff buildableX.upwards,
    ← AxisConfig.reach_eq_stop_iff buildableY.upwards]
  constructor
  · rintro ⟨xs, ys, _, _, columns, rows, realizes, _⟩
    obtain ⟨_, _, _, _, filledColumns, filledRows, realizesAll, _⟩ := fills
    -- both readings of the mesh agree on its last cell, and so on the far sides
    obtain ⟨sameX, sameY⟩ := realizesAll.last_unique realizes nonempty
    exact ⟨Option.some.inj (filledColumns.last.symm.trans (sameX.trans columns.last)),
      Option.some.inj (filledRows.last.symm.trans (sameY.trans rows.last))⟩
  · rintro ⟨right, top⟩
    rwa [right, top] at fills

/-- A mesh is built exactly if there is a projection and both axes lead upwards, by at least one
step and by no more than find room. It fills the rectangle from the starts to the sides that are
nearest to the stops among those that whole steps reach. So it covers the configured rectangle
exactly if whole steps lead from start to stop on both axes. -/
theorem built_mesh_covers_iff (config : GridConfig Rat) :
    ((∃ mesh, config.build = .ok mesh) ↔
      config.projection ≠ "" ∧ config.x.Buildable ∧ config.y.Buildable) ∧
    ∀ mesh, config.build = .ok mesh →
      config.Fills mesh config.x.reach config.y.reach ∧
      |config.x.reach - config.x.stop| ≤ config.x.step / 2 ∧
      |config.y.reach - config.y.stop| ≤ config.y.step / 2 ∧
      (config.Covers mesh ↔ config.x.StepsFit ∧ config.y.StepsFit) := by
  refine ⟨exists_build_iff, fun mesh done => ?_⟩
  obtain ⟨_, buildableX, buildableY, _⟩ := built_eq done
  exact ⟨fills_built done, AxisConfig.abs_reach_sub_stop_le buildableX.upwards,
    AxisConfig.abs_reach_sub_stop_le buildableY.upwards, covers_built_iff done⟩

/-- A row that is three units long, in steps of the given width. -/
def threeLong (step : Rat) : GridConfig Rat where
  name := "row"
  projection := "+proj=cea +R=6371000"
  x := ⟨0, 3, step⟩
  y := ⟨0, 1, 1⟩

/-- Steps of one unit lead from start to stop. -/
theorem unit_steps_cover :
    ∃ mesh, (threeLong 1).build = .ok mesh ∧ (threeLong 1).Covers mesh := by
  obtain ⟨built, filled⟩ := built_mesh_covers_iff (threeLong 1)
  obtain ⟨mesh, done⟩ := built.mpr ⟨by decide, by decide +kernel, by decide +kernel⟩
  obtain ⟨_, _, _, covers⟩ := filled mesh done
  exact ⟨mesh, done, covers.mpr ⟨⟨3, by decide +kernel⟩, ⟨1, by decide +kernel⟩⟩⟩

/-- Steps of two units pass the stop, and the mesh is built all the same. -/
theorem double_steps_do_not_cover :
    ∃ mesh, (threeLong 2).build = .ok mesh ∧ ¬ (threeLong 2).Covers mesh := by
  have built : ∃ mesh, (threeLong 2).build = .ok mesh :=
    exists_build_iff.mpr ⟨by decide, by decide +kernel, by decide +kernel⟩
  obtain ⟨mesh, done⟩ := built
  refine ⟨mesh, done, fun covers => ?_⟩
  obtain ⟨count, fits⟩ := ((covers_built_iff done).mp covers).1
  have same : (3 : Rat) = 0 + 2 * count := fits
  have whole : 3 = 0 + 2 * count := by exact_mod_cast same
  omega

end GridConfig

end Regrid
