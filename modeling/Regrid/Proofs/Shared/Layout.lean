import Regrid.Proofs.Coupling.Layout
import Regrid.Proofs.Shared.CouplingSpace

/-!
Contract: the layout of height-point space along runs.

Owns:
- that the operator of a sheet is laid out with the extent that the sheet has now, and when its
  model cells can be told from that;
- that the operator of a coupling is laid out with the extents that its sheets took over, and when
  these are its own.

A coupling asks its mesh for the number of model cells each time, a sheet took it over once and
checks it against its exchange cells only when overlaps are listed.
-/

namespace Regrid

open Attempt

variable {α : Type} [Scalar α]

/-- Listed overlaps lie on model cells inside the extent that the sheet has now. -/
def Sheet.Current {γ : Type} (sheet : Sheet γ α) : Prop :=
  ∀ overlaps, sheet.overlaps = some overlaps → ∃ n, sheet.modelExtent = .int n ∧
    ∀ overlap ∈ overlaps, ∃ i, overlap.modelCell = .int i ∧ 0 ≤ i ∧ i < n

/-- The sheet has taken over an extent, and the given number of height points. -/
structure Sheet.TakesOver {γ : Type} (sheet : Sheet γ α) (heightPoints : Value) : Prop where
  heights : sheet.heightPoints = heightPoints
  extent : ∃ n, sheet.modelExtent = .int n

/-- Each entry of an operator comes from a listed overlap on its ice data point, whose model cell
and height point its column names in the layout that the sheet has now. -/
def Sheet.Explains {γ : Type} (sheet : Sheet γ α) (operator : DenseOperator α) : Prop :=
  ∃ n heights overlaps, sheet.modelExtent = .int n ∧ sheet.heightPoints = .int heights ∧
    sheet.overlaps = some overlaps ∧ ∀ entry ∈ operator.nativeEntries, ∃ overlap ∈ overlaps,
      overlap.icePoint.toInteger = .ok entry.1 ∧ overlap.modelCell = .int (entry.2.1 % n) ∧
      sheet.heightPoint overlap.modelCell overlap.elevation = .ok (entry.2.1 / n) ∧
      0 ≤ entry.2.1 / n ∧ entry.2.1 / n < heights

/-- Each entry of an operator stands in the row of the model cell that its column names, at one
of the height points. -/
def DenseOperator.InLayout (operator : DenseOperator α) (modelExtent heightPoints : Int) : Prop :=
  ∀ entry ∈ operator.nativeEntries, entry.2.1 % modelExtent = entry.1 ∧
    0 ≤ entry.2.1 / modelExtent ∧ entry.2.1 / modelExtent < heightPoints

namespace CouplingSpace

variable {space start : CouplingSpace α} {allowed : CouplingSpace α → Step α → Prop}

theorem Reaches.integral (reaches : Reaches allowed start space) (initially : start.Integral)
    (admissible : ∀ space step, allowed space step → step.Admissible space) : space.Integral :=
  reaches.invariant initially fun _ _ permitted integral =>
    integral.perform (admissible _ _ permitted)

/-! ### One sheet -/

/-- The step adds a sheet to a coupling with too few model cells for the overlaps that the sheet
has listed. -/
def Step.Outdates (ref : Ref (SharedSheet α)) (space : CouplingSpace α) : Step α → Prop
  | addSheet coupling sheet => sheet = ref ∧ ∃ overlaps,
      (space.sheets.get ref).overlaps = some overlaps ∧
        ∃ overlap ∈ overlaps, ∃ i, overlap.modelCell = .int i ∧ space.modelExtent coupling ≤ i
  | _ => False

/-- Extents are integers throughout, and the overlaps listed for one sheet lie inside its own. -/
structure CurrentAt (ref : Ref (SharedSheet α)) (space : CouplingSpace α) : Prop where
  integral : space.Integral
  current : (space.sheets.get ref).Current

theorem CurrentAt.setOverlaps {ref : Ref (SharedSheet α)} (holds : space.CurrentAt ref)
    {other : Ref (SharedSheet α)} {overlaps : List (Overlap α)}
    (listed : (space.viewSheet other).listOverlaps = .ok overlaps) :
    (space.setOverlaps other (some overlaps)).CurrentAt ref where
  integral := holds.integral.setOverlaps_listed listed
  current := by
    refine Heap.holds_get_set holds.current fun _ others same => ?_
    obtain rfl := Option.some.inj same
    exact holds.integral.listed listed

theorem CurrentAt.joinSheet {ref : Ref (SharedSheet α)} (holds : space.CurrentAt ref)
    {coupling : Ref (Coupling α)} (held : space.couplings.Holds coupling)
    {sheet : Ref (SharedSheet α)} (fits : ¬ Step.Outdates ref space (.addSheet coupling sheet)) :
    (space.joinSheet coupling sheet).CurrentAt ref where
  integral := holds.integral.joinSheet held sheet
  current := by
    refine Heap.holds_get_set holds.current fun same overlaps kept =>
      ⟨_, rfl, fun overlap member => ?_⟩
    subst same
    obtain ⟨i, modelCell, natural⟩ :=
      (holds.integral.sheets ref).cached overlaps kept overlap member
    refine ⟨i, modelCell, natural, ?_⟩
    by_contra beyond
    exact fits ⟨rfl, overlaps, kept, overlap, member, i, modelCell, by omega⟩

/-- As long as no step outdates them, the listed overlaps of a sheet lie inside its extent. -/
theorem CurrentAt.perform {ref : Ref (SharedSheet α)} (holds : space.CurrentAt ref)
    {step : Step α} (admissible : step.Admissible space) (fits : ¬ step.Outdates ref space) :
    (step.perform.outcome space).2.CurrentAt ref := by
  refine Step.perform_preserves ?_ ?_ ?_ ?_ ?_ holds
  · intro between other overlaps listed kept
    exact kept.setOverlaps listed
  · intro between other kept
    exact ⟨kept.integral.setOverlaps other nofun, Heap.holds_get_set kept.current fun _ => nofun⟩
  · intro between grid accept kept
    exact ⟨kept.integral.filtered grid accept, kept.current⟩
  · rintro grid operation rfl kept
    exact ⟨kept.integral.onMesh grid admissible, kept.current⟩
  · rintro coupling sheet rfl kept
    exact kept.joinSheet admissible.1 fits

/-- Where a sheet answers, its extents are integers, and every entry stands at the position of a
listed overlap in their layout. -/
theorem Integral.heightToIce_places (integral : space.Integral) {ref : Ref (SharedSheet α)}
    {operator : DenseOperator α} (done : (space.viewSheet ref).heightToIce = .ok operator) :
    ∃ n heights overlaps, (space.sheets.get ref).modelExtent = .int n ∧
      (space.sheets.get ref).heightPoints = .int heights ∧
      (space.sheets.get ref).overlaps = some overlaps ∧
      ∀ entry ∈ operator.nativeEntries, ∃ overlap ∈ overlaps,
        overlap.icePoint.toInteger = .ok entry.1 ∧ ∃ i height,
          (space.viewSheet ref).Places n heights overlap i height entry.2.1 := by
  obtain ⟨heights, points⟩ := (integral.sheets ref).heights
  rcases (integral.sheets ref).extent with unset | ⟨n, extent⟩
  · obtain ⟨_, columns, _, _, spaceRead, _⟩ := Sheet.heightToIce_eq_ok done
    have own : (space.viewSheet ref).modelExtent = .null := unset
    have heightsOwn : (space.viewSheet ref).heightPoints = .int heights := points
    rw [Sheet.heightExtent, Sheet.heightSpace, own, heightsOwn] at spaceRead
    cases spaceRead
  · have own : (space.viewSheet ref).modelExtent = .int n := extent
    obtain ⟨overlaps, kept, places⟩ := Sheet.exists_places_of_mem_heightToIce own points done
    refine ⟨n, heights, overlaps, extent, points, kept, places fun overlap member => ?_⟩
    obtain ⟨i, modelCell, _⟩ := (integral.sheets ref).cached overlaps kept overlap member
    exact ⟨i, modelCell⟩

/-- Along every run a sheet that answers lays its operator out with its present extents: each
entry stands at the position of a listed overlap on its ice data point. Model cell and height
point can be told from the column as long as the sheet is not added, with overlaps listed, to a
coupling that has too few model cells for them. -/
theorem heightToIce_layout (integral : start.Integral) {ref : Ref (SharedSheet α)}
    (unrealized : (start.sheets.get ref).overlaps = none) :
    (∀ space, Reaches (fun space step => step.Admissible space) start space →
      ∀ operator, (space.viewSheet ref).heightToIce = .ok operator →
        ∃ n heights overlaps, (space.sheets.get ref).modelExtent = .int n ∧
          (space.sheets.get ref).heightPoints = .int heights ∧
          (space.sheets.get ref).overlaps = some overlaps ∧
          ∀ entry ∈ operator.nativeEntries, ∃ overlap ∈ overlaps,
            overlap.icePoint.toInteger = .ok entry.1 ∧ ∃ i height,
              (space.viewSheet ref).Places n heights overlap i height entry.2.1) ∧
    ∀ space, Reaches (fun space step => step.Admissible space ∧ ¬ step.Outdates ref space)
        start space →
      ∀ operator, (space.viewSheet ref).heightToIce = .ok operator →
        (space.viewSheet ref).Explains operator := by
  constructor
  · intro space reaches operator done
    exact (reaches.integral integral fun _ _ admissible => admissible).heightToIce_places done
  · intro space reaches operator done
    have initially : start.CurrentAt ref := ⟨integral, fun overlaps kept => by
      rw [unrealized] at kept
      cases kept⟩
    have currently : space.CurrentAt ref := reaches.invariant initially
      fun _ _ permitted holds => holds.perform permitted.1 permitted.2
    obtain ⟨n, heights, overlaps, extent, points, kept, entries⟩ :=
      currently.integral.heightToIce_places done
    refine ⟨n, heights, overlaps, extent, points, kept, fun entry member => ?_⟩
    obtain ⟨overlap, overlapMember, icePoint, i, height, places⟩ := entries entry member
    obtain ⟨_, same, inside⟩ := currently.current overlaps kept
    obtain rfl := Value.int.inj (extent.symm.trans same)
    obtain ⟨_, modelCell, natural, below⟩ := inside overlap overlapMember
    obtain rfl := Value.int.inj (places.modelCell.symm.trans modelCell)
    obtain ⟨cell, point⟩ := places.decode natural below
    refine ⟨overlap, overlapMember, icePoint, ?_, ?_, ?_⟩
    · rw [cell]
      exact modelCell
    · rw [point]
      exact places.classified
    · rw [point]
      exact ⟨places.natural, places.below⟩

/-! ### A coupling -/

/-- Sheets are added to no other coupling. -/
def Step.OnlyOn (ref : Ref (Coupling α)) : Step α → Prop
  | addSheet coupling _ => coupling = ref
  | _ => True

/-- The sheets of a coupling have taken over its number of height points, and an extent. -/
structure LaidOut (ref : Ref (Coupling α)) (space : CouplingSpace α) : Prop where
  integral : space.Integral
  held : space.couplings.Holds ref
  sheets : ∀ entry ∈ (space.couplings.get ref).sheets, space.sheets.Holds entry.2 ∧
    (space.sheets.get entry.2).TakesOver (space.couplings.get ref).heightPoints

variable {ref : Ref (Coupling α)}

theorem LaidOut.setOverlaps (laidOut : space.LaidOut ref) {sheet : Ref (SharedSheet α)}
    {overlaps : Option (List (Overlap α))}
    (integral : (space.setOverlaps sheet overlaps).Integral) :
    (space.setOverlaps sheet overlaps).LaidOut ref where
  integral := integral
  held := laidOut.held
  sheets := by
    intro entry member
    obtain ⟨entryHeld, extents⟩ := laidOut.sheets entry member
    refine ⟨Heap.holds_set.mpr entryHeld, ?_⟩
    refine Heap.holds_get_set
      (P := (Sheet.TakesOver · (space.couplings.get ref).heightPoints)) extents
      fun same => ?_
    rw [same] at extents
    exact ⟨extents.heights, extents.extent⟩

theorem LaidOut.joinSheet (laidOut : space.LaidOut ref) {sheet : Ref (SharedSheet α)}
    (held : space.sheets.Holds sheet) : (space.joinSheet ref sheet).LaidOut ref where
  integral := laidOut.integral.joinSheet laidOut.held sheet
  held := Heap.holds_set.mpr laidOut.held
  sheets := by
    have joined : (space.joinSheet ref sheet).couplings.get ref = { space.couplings.get ref with
        sheets := (space.couplings.get ref).sheets ++ [((space.sheets.get sheet).name, sheet)] } :=
      Heap.get_set_same laidOut.held _
    rw [joined]
    intro entry member
    show (space.joinSheet ref sheet).sheets.Holds entry.2 ∧
      Sheet.TakesOver _ (space.couplings.get ref).heightPoints
    rcases List.mem_append.mp member with earlier | new
    · obtain ⟨entryHeld, extents⟩ := laidOut.sheets entry earlier
      refine ⟨Heap.holds_set.mpr entryHeld, ?_⟩
      exact Heap.holds_get_set
        (P := (Sheet.TakesOver · (space.couplings.get ref).heightPoints)) extents
        fun _ => ⟨rfl, _, rfl⟩
    · obtain rfl := List.mem_singleton.mp new
      refine ⟨Heap.holds_set.mpr held, ?_⟩
      rw [CouplingSpace.joinSheet, Heap.get_set_same held]
      exact ⟨rfl, _, rfl⟩

theorem LaidOut.perform (laidOut : space.LaidOut ref) {step : Step α}
    (admissible : step.Admissible space) (only : step.OnlyOn ref) :
    (step.perform.outcome space).2.LaidOut ref := by
  refine Step.perform_preserves ?_ ?_ ?_ ?_ ?_ laidOut
  · intro between sheet overlaps listed kept
    apply kept.setOverlaps
    exact kept.integral.setOverlaps_listed listed
  · intro between sheet kept
    apply kept.setOverlaps
    exact kept.integral.setOverlaps sheet nofun
  · intro between grid accept kept
    exact { kept with integral := kept.integral.filtered grid accept }
  · rintro grid operation rfl kept
    exact { kept with integral := kept.integral.onMesh grid admissible }
  · rintro coupling sheet rfl kept
    obtain rfl : coupling = ref := only
    exact kept.joinSheet admissible.2

/-- Along every run on a coupling, each entry of its operator stands where the extent that one of
its sheets took over puts it, in the row of its model cell. Where all sheets have the extent that
the coupling has now, row and height point can be told from the column. -/
theorem heightToModel_layout (integral : start.Integral) (held : start.couplings.Holds ref)
    (empty : (start.couplings.get ref).sheets = []) (space : CouplingSpace α)
    (reaches : Reaches (fun space step => step.Admissible space ∧ step.OnlyOn ref) start space)
    {operator : DenseOperator α} {areas : Accumulator α}
    (done : space.heightToModel ref = .ok (operator, areas)) :
    ∃ heights, (space.couplings.get ref).heightPoints = .int heights ∧
      (∀ entry ∈ operator.nativeEntries, ∃ sheet ∈ space.viewSheets ref, ∃ n height,
        sheet.modelExtent = .int n ∧ (0 ≤ entry.1 ∧ entry.1 < n) ∧
        (0 ≤ height ∧ height < heights) ∧ entry.2.1 = height * n + entry.1) ∧
      ((∀ sheet ∈ space.viewSheets ref, sheet.modelExtent = .int (space.modelExtent ref)) →
        operator.InLayout (space.modelExtent ref) heights) := by
  have laidOut : space.LaidOut ref := by
    refine reaches.invariant ⟨integral, held, ?_⟩ fun _ _ permitted holds =>
      holds.perform permitted.1 permitted.2
    rw [empty]
    exact nofun
  obtain ⟨heights, points⟩ := laidOut.integral.couplings ref laidOut.held
  have stands : ∀ entry ∈ operator.nativeEntries, ∃ sheet ∈ space.viewSheets ref, ∃ n height,
      sheet.modelExtent = .int n ∧ (0 ≤ entry.1 ∧ entry.1 < n) ∧ ∃ overlap : Overlap α,
        sheet.Places n heights overlap entry.1 height entry.2.1 := by
    intro entry member
    obtain ⟨sheet, sheetMember, overlaps, kept, placed⟩ :=
      exists_places_of_mem_heightToModel done member
    obtain ⟨⟨name, sheetRef⟩, listed, rfl⟩ := List.mem_map.mp sheetMember
    obtain ⟨_, pointsTaken, n, extent⟩ := laidOut.sheets _ listed
    obtain ⟨inside, overlap, _, height, places⟩ :=
      placed n heights extent (pointsTaken.trans points) fun overlap overlapMember => by
        obtain ⟨i, modelCell, _⟩ :=
          (laidOut.integral.sheets sheetRef).cached overlaps kept overlap overlapMember
        exact ⟨i, modelCell⟩
    exact ⟨_, sheetMember, n, height, extent, inside, overlap, places⟩
  refine ⟨heights, points, fun entry member => ?_, fun agree entry member => ?_⟩
  · obtain ⟨sheet, sheetMember, n, height, extent, inside, overlap, places⟩ := stands entry member
    exact ⟨sheet, sheetMember, n, height, extent, inside, ⟨places.natural, places.below⟩,
      places.column⟩
  · obtain ⟨sheet, sheetMember, n, height, extent, inside, overlap, places⟩ := stands entry member
    obtain rfl := Value.int.inj (extent.symm.trans (agree sheet sheetMember))
    obtain ⟨cell, point⟩ := places.decode inside.1 inside.2
    rw [cell, point]
    exact ⟨rfl, places.natural, places.below⟩

/-! ### A sheet that is added late, and a mesh that grows -/

/-- An ice cell that an exchange cell on the given model cell overlaps, and a coupling over one
model cell with two height points, which holds no sheet yet. -/
def soleSheet (modelCell : Int) (extent : Value) (height : Int) : CouplingSpace Rat where
  meshes :=
    { cells := ⟨#[{ index := .int 0, area := 1 },
        { index := .int 0, i := .int modelCell, j := .int 0, area := 1 }]⟩
      grids := ⟨#[{ cells := Table.empty.push 0 ⟨0⟩ }, { cells := Table.empty.push 0 ⟨0⟩ },
        { type := .exchange, cells := Table.empty.push 0 ⟨1⟩ }]⟩ }
  sheets := ⟨#[
    { variant := .onCells, name := .text "ice", iceMesh := ⟨1⟩, exchangeMesh := ⟨2⟩
      modelExtent := extent, classifier := some fun _ _ => .ok (.int height) }]⟩
  couplings := ⟨#[{ modelMesh := ⟨0⟩, heightPoints := .int 2 }]⟩

theorem soleSheet_integral (modelCell height : Int) {extent : Value}
    (extents : extent = .null ∨ ∃ n, extent = .int n) :
    (soleSheet modelCell extent height).Integral where
  addresses := by
    refine Heap.forall_get ⟨-1, rfl⟩ fun cell member => ?_
    simp only [soleSheet, List.mem_toArray, List.mem_cons, List.not_mem_nil, or_false] at member
    rcases member with rfl | rfl
    · exact ⟨-1, rfl⟩
    · exact ⟨modelCell, rfl⟩
  sheets := by
    refine Heap.forall_get ⟨nofun, .inl rfl, 1, rfl⟩ fun sheet member => ?_
    obtain rfl : sheet = _ := by simpa [soleSheet] using member
    exact ⟨nofun, extents, 1, rfl⟩
  couplings := by
    rintro ⟨place⟩ held
    obtain rfl : place = 0 := by simpa [Heap.Holds, soleSheet] using held
    exact ⟨2, rfl⟩

/-- The space after some steps. -/
def after (steps : List (Step Rat)) (space : CouplingSpace Rat) : CouplingSpace Rat :=
  steps.foldl (fun space step => (step.perform.outcome space).2) space

/-- The sheet is realized for two model cells, and then added to the coupling over one. -/
def lateSheet : CouplingSpace Rat :=
  after [.realize ⟨0⟩, .addSheet ⟨0⟩ ⟨0⟩] (soleSheet 1 (.int 2) 0)

theorem lateSheet_reached :
    Reaches (fun space step => step.Admissible space) (soleSheet 1 (.int 2) 0) lateSheet := by
  refine .step (.step .start _ trivial) _ ⟨?_, ?_⟩
  · show 0 < _
    decide +kernel
  · show 0 < _
    decide +kernel

theorem lateSheet_answers :
    (lateSheet.viewSheet ⟨0⟩).heightToIce.toOption.map (·.nativeEntries) = some [(0, 1, 1)] := by
  decide +kernel

/-- The sheet is added to the coupling over one model cell, whose mesh then gets a second one. -/
def grownMesh : CouplingSpace Rat :=
  after [.addSheet ⟨0⟩ ⟨0⟩, .onMesh ⟨0⟩ (.makeCell { area := 1 }), .onMesh ⟨0⟩ (.addCell ⟨2⟩),
    .realizeAll ⟨0⟩] (soleSheet 0 .null 1)

/-- On its own the sheet answers for two model cells. Added to the coupling over one, it still
answers with the position of its overlap. -/
theorem soleSheet_heightToIce_layout :
    (∃ operator, ((after [.realize ⟨0⟩] (soleSheet 1 (.int 2) 0)).viewSheet ⟨0⟩).heightToIce =
      .ok operator ∧ operator.nativeEntries = [(0, 1, 1)] ∧
      ((after [.realize ⟨0⟩] (soleSheet 1 (.int 2) 0)).viewSheet ⟨0⟩).Explains operator) ∧
    ∃ operator, (lateSheet.viewSheet ⟨0⟩).heightToIce = .ok operator ∧
      ∃ n heights overlaps, (lateSheet.sheets.get ⟨0⟩).modelExtent = .int n ∧
        (lateSheet.sheets.get ⟨0⟩).heightPoints = .int heights ∧
        (lateSheet.sheets.get ⟨0⟩).overlaps = some overlaps ∧
        ∀ entry ∈ operator.nativeEntries, ∃ overlap ∈ overlaps,
          overlap.icePoint.toInteger = .ok entry.1 ∧ ∃ i height,
            (lateSheet.viewSheet ⟨0⟩).Places n heights overlap i height entry.2.1 := by
  have unrealized : ((soleSheet 1 (.int 2) 0).sheets.get ⟨0⟩).overlaps = none := rfl
  obtain ⟨always, aligned⟩ :=
    heightToIce_layout (soleSheet_integral 1 0 (.inr ⟨2, rfl⟩)) unrealized
  constructor
  · have answers : ((after [.realize ⟨0⟩] (soleSheet 1 (.int 2) 0)).viewSheet
        ⟨0⟩).heightToIce.toOption.map (·.nativeEntries) = some [(0, 1, 1)] := by
      decide +kernel
    obtain ⟨operator, answered, entries⟩ := Option.map_eq_some_iff.mp answers
    have done := eq_ok_of_toOption answered
    exact ⟨operator, done, entries,
      aligned _ (.step .start (.realize ⟨0⟩) ⟨trivial, id⟩) operator done⟩
  · obtain ⟨operator, answered, _⟩ := Option.map_eq_some_iff.mp lateSheet_answers
    have done := eq_ok_of_toOption answered
    exact ⟨operator, done, always _ lateSheet_reached operator done⟩

/-- A sheet that was realized for more model cells than its coupling has answers with the overlap
on model cell one in the column of model cell zero. -/
theorem late_sheet_is_misread :
    ¬ ∀ space, Reaches (fun space step => step.Admissible space) (soleSheet 1 (.int 2) 0) space →
      ∀ operator, (space.viewSheet ⟨0⟩).heightToIce = .ok operator →
        (space.viewSheet ⟨0⟩).Explains operator := by
  intro claimed
  have extents : (lateSheet.viewSheet ⟨0⟩).modelExtent.toInteger.toOption = some 1 := by
    decide +kernel
  have cells : (lateSheet.viewSheet ⟨0⟩).overlaps.map (·.map (·.modelCell.toInteger.toOption)) =
      some [some 1] := by
    decide +kernel
  obtain ⟨operator, answered, entries⟩ := Option.map_eq_some_iff.mp lateSheet_answers
  obtain ⟨n, heights, overlaps, extent, _, kept, explained⟩ :=
    claimed lateSheet lateSheet_reached operator (eq_ok_of_toOption answered)
  obtain ⟨overlap, member, _, modelCell, _⟩ := explained (0, 1, 1) (by rw [entries]; simp)
  rw [extent] at extents
  obtain rfl : n = 1 := Option.some.inj extents
  rw [kept] at cells
  have cell : overlap.modelCell.toInteger.toOption ∈ [some 1] := by
    rw [← Option.some.inj cells]
    exact List.mem_map_of_mem member
  rw [modelCell] at cell
  exact absurd cell (by decide)

/-- Realized after it was added, the sheet answers at the second height point of the only model
cell. -/
theorem soleSheet_heightToModel_layout : ∃ operator areas,
    (after [.addSheet ⟨0⟩ ⟨0⟩, .realizeAll ⟨0⟩] (soleSheet 0 .null 1)).heightToModel ⟨0⟩ =
      .ok (operator, areas) ∧ operator.nativeEntries = [(0, 1, 1)] ∧ operator.InLayout 1 2 := by
  have answers : ((after [.addSheet ⟨0⟩ ⟨0⟩, .realizeAll ⟨0⟩] (soleSheet 0 .null 1)).heightToModel
      ⟨0⟩).toOption.map (·.1.nativeEntries) = some [(0, 1, 1)] := by
    decide +kernel
  obtain ⟨⟨operator, areas⟩, answered, entries⟩ := Option.map_eq_some_iff.mp answers
  have done := eq_ok_of_toOption answered
  obtain ⟨heights, points, _, aligned⟩ := heightToModel_layout
    (soleSheet_integral 0 1 (.inl rfl)) Nat.one_pos rfl _
    (.step (.step .start (.addSheet ⟨0⟩ ⟨0⟩) ⟨⟨Nat.one_pos, Nat.one_pos⟩, rfl⟩) (.realizeAll ⟨0⟩)
      ⟨trivial, trivial⟩) done
  obtain rfl : 2 = heights := Value.int.inj points
  refine ⟨operator, areas, done, entries, aligned fun sheet member => ?_⟩
  obtain rfl := List.mem_singleton.mp member
  rfl

/-- A coupling over two model cells answers with an entry on model cell zero in a column of model
cell one, since its sheet still counts one model cell. -/
theorem grown_mesh_is_misread :
    ¬ ∀ space, Reaches (fun space step => step.Admissible space ∧ step.OnlyOn ⟨0⟩)
        (soleSheet 0 .null 1) space →
      ∀ operator areas, space.heightToModel ⟨0⟩ = .ok (operator, areas) →
        ∀ heights, (space.couplings.get ⟨0⟩).heightPoints = .int heights →
          operator.InLayout (space.modelExtent ⟨0⟩) heights := by
  intro claimed
  have reaches : Reaches (fun space step => step.Admissible space ∧ step.OnlyOn ⟨0⟩)
      (soleSheet 0 .null 1) grownMesh := by
    refine .step (.step (.step (.step .start _ ⟨⟨?_, ?_⟩, rfl⟩) _ ⟨⟨-1, rfl⟩, trivial⟩) _
      ⟨trivial, trivial⟩) _ ⟨trivial, trivial⟩
    · exact Nat.one_pos
    · exact Nat.one_pos
  have answers : (grownMesh.heightToModel ⟨0⟩).toOption.map (·.1.nativeEntries) =
      some [(0, 1, 1)] := by
    decide +kernel
  have extent : grownMesh.modelExtent ⟨0⟩ = 2 := by
    decide +kernel
  obtain ⟨⟨operator, areas⟩, answered, entries⟩ := Option.map_eq_some_iff.mp answers
  have inLayout := claimed grownMesh reaches operator areas (eq_ok_of_toOption answered) 2 rfl
  rw [extent] at inLayout
  have row := (inLayout (0, 1, 1) (by rw [entries]; simp)).1
  exact absurd row (by decide)

end CouplingSpace

end Regrid
