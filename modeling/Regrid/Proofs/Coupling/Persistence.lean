import Regrid.Proofs.Coupling.Reordering
import Regrid.Proofs.Store.SheetArchive

/-!
Contract: a sheet that was written to a file and read from it computes what it did.

Owns:
- the agreement of a sheet that a file keeps with the one that is read;
- that the sheet that is read lists the same pieces and has operators of the same values and the
  same areas.

Does not own: what the file holds, and why agreeing sheets compute the same.
-/

namespace Regrid

open Attempt Schema GridTables

namespace GridTables

variable {α : Type} {grid : Grid α}

/-- The mesh that is read agrees by keys with the sound mesh that was written. -/
theorem Storable.agreesByKey (storable : Storable grid) (sound : grid.Sound (.held α)) :
    AgreesByKey (Contents.shown grid).mesh grid :=
  have own := storable.written sound
  { own.shows.agrees own.admitted (Contents.ofGrid_ordered _ _ _) with
    readKeyed := (own.admitted.sound own.planar).cells
    writtenKeyed := sound.cells }

end GridTables

namespace Sheet

variable {sheet : Sheet (Grid Rat) Rat} {overlaps : List (Overlap Rat)}

/-- The classifier of a sheet, if there is one, finds a height point of the sheet for each
overlap. -/
def Classifies (sheet : Sheet (Grid Rat) Rat) (overlaps : List (Overlap Rat)) : Prop :=
  ∀ heightPoints, sheet.heightPoints = .int heightPoints →
    ∀ classify, sheet.classifier = some classify → ∀ overlap ∈ overlaps,
      ∃ answer height, classify overlap.modelCell overlap.elevation = .ok answer ∧
        answer.toInteger = .ok height ∧ 0 ≤ height ∧ height < heightPoints

/-- A sheet that a file keeps is realized once it has listed its overlaps. -/
theorem Storable.realized (storable : sheet.Storable) {modelExtent heightPoints : Int}
    (extent : sheet.modelExtent = .int modelExtent)
    (heights : sheet.heightPoints = .int heightPoints)
    (listed : sheet.listOverlaps = .ok overlaps) (classifies : sheet.Classifies overlaps) :
    { sheet with overlaps := some overlaps }.Realized modelExtent heightPoints overlaps where
  extent := extent
  heights := heights
  iceMesh := storable.iceMesh.1
  addresses := fun cell member =>
    have word := storable.exchangeMesh.2.words.addresses cell member cell.i (by simp [Cell.address])
    let ⟨i, same, _⟩ := word.exists_int
    ⟨i, same⟩
  listed := ⟨sheet.mask, sheet.elevation, listed⟩
  kept := rfl
  classified := classifies heightPoints heights

end Sheet

namespace Archive

variable {sheet : Sheet (Grid Rat) Rat} {overlaps : List (Overlap Rat)} {group : String}

/-- A sheet that can be realized is written to a new file, and with the same classifier the file
gives back a sheet that agrees with it. That one can be realized too, with the same pieces of ice,
and then has operators of the same values and the same areas. -/
theorem readSheet_writeSheet_computesLike (storable : sheet.Storable)
    (keeps : KeepsSheetNames group) (listed : sheet.listOverlaps = .ok overlaps)
    (classifies : sheet.Classifies overlaps) :
    ∃ archive read own, (writeSheet sheet group).outcome {} = (.ok (), archive) ∧
      archive.readSheet group sheet.classifier = .ok read ∧ read.Agrees sheet ∧
      read.listOverlaps = .ok own ∧ SamePieces own overlaps ∧
      { read with overlaps := some own }.ComputesLike { sheet with overlaps := some overlaps } := by
  obtain ⟨name, named, keptName⟩ := storable.name
  obtain ⟨modelExtent, extent, extentWord⟩ := storable.modelExtent.exists_int
  obtain ⟨heightPoints, heights, heightsWord⟩ := storable.heightPoints.exists_int
  obtain ⟨checked, _⟩ := Sheet.listOverlaps_eq_ok_iff.mp listed
  have iceCells := storable.iceMesh.2.agreesByKey storable.iceMesh.1
  have exchangeCells := storable.exchangeMesh.2.agreesByKey storable.exchangeMesh.1
  obtain ⟨archive, wrote, holds⟩ := exists_writeSheet storable keeps checked named keptName extent
    extentWord heights heightsWord
  have readBack := holds.readSheet (fieldsFit_of_check storable checked)
    (written_of_storable storable group) sheet.classifier
  have agrees : Sheet.Agrees { sheet with
      name := .text name, iceMesh := (Contents.shown sheet.iceMesh).mesh
      exchangeMesh := (Contents.shown sheet.exchangeMesh).mesh, modelExtent := .int modelExtent
      heightPoints := .int heightPoints, index := -1, overlaps := none } sheet :=
    ⟨rfl, named.symm, iceCells.toAgrees, exchangeCells.toAgrees, extent.symm, heights.symm, rfl,
      rfl, rfl⟩
  obtain ⟨own, ownListed, same⟩ :=
    Sheet.AgreesByKey.exists_listOverlaps ⟨agrees, iceCells⟩ listed
  have realized := storable.realized extent heights listed classifies
  exact ⟨archive, _, own, wrote, readBack, agrees, ownListed, same,
    Sheet.Agrees.computesLike { agrees with } realized rfl same⟩

/-- The triangle of the sample with one masked vertex, with elevations and a classifier. -/
def sampleSheet : Sheet (Grid Rat) Rat :=
  { CouplingSpace.sampleCoupling.viewSheet ⟨1⟩ with
    elevation := some ⟨[3], [100, 200, 600]⟩
    classifier := some fun _ _ => .ok (.int 1) }

theorem storable_sampleSheet : sampleSheet.Storable where
  name := ⟨_, rfl, keptText_of_eq rfl (by decide)⟩
  modelExtent := by decide +kernel
  heightPoints := by decide +kernel
  iceMesh := ⟨CouplingSpace.sampleCoupling_triangle_sound,
    ⟨⟨_, rfl, keptText_of_eq rfl (by decide)⟩, ⟨_, rfl, keptText_of_eq rfl (by decide)⟩,
      ⟨by decide +kernel, by decide +kernel, by decide +kernel, by decide +kernel⟩⟩⟩
  exchangeMesh := ⟨
    { vertices := Table.wellKeyed_empty _
      cells := CouplingSpace.wellKeyed_single rfl
      references := by
        intro cell member
        obtain rfl := List.mem_singleton.mp member
        exact nofun
      projection := by decide },
    ⟨⟨_, rfl, keptText_of_eq rfl (by decide)⟩, ⟨_, rfl, keptText_of_eq rfl (by decide)⟩,
      ⟨by decide +kernel, by decide +kernel, by decide +kernel, by decide +kernel⟩⟩⟩
  mask := by
    intro mask same
    obtain rfl := Option.some.inj same
    rfl
  elevation := by
    intro elevation same
    obtain rfl := Option.some.inj same
    rfl

/-- The triangle has two pieces of ice, and so has the one that is read from the file. -/
theorem sampleSheet_persists :
    sampleSheet.listOverlaps = .ok [⟨.int 0, .int 0, 2, 300⟩, ⟨.int 0, .int 2, 2, 300⟩] ∧
    ∃ archive read own, (writeSheet sampleSheet "ice").outcome {} = (.ok (), archive) ∧
      archive.readSheet "ice" sampleSheet.classifier = .ok read ∧
      read.listOverlaps = .ok own ∧ own.length = 2 ∧
      ({ read with overlaps := some own } : Sheet (Grid Rat) Rat).ComputesLike
        { sampleSheet with
          overlaps := some [⟨.int 0, .int 0, 2, 300⟩, ⟨.int 0, .int 2, 2, 300⟩] } := by
  have share : (6 : Rat) / ((3 : Int) : Rat) = 2 := by decide +kernel
  have mean : Regrid.mean ([100, 200, 600] : List Rat) = 300 := by decide +kernel
  have listed : sampleSheet.listOverlaps =
      .ok [⟨.int 0, .int 0, 2, 300⟩, ⟨.int 0, .int 2, 2, 300⟩] := by
    rw [← share, ← mean]
    rfl
  have classifies : sampleSheet.Classifies
      [⟨.int 0, .int 0, 2, 300⟩, ⟨.int 0, .int 2, 2, 300⟩] := by
    intro heightPoints heights classify same overlap _
    cases heights
    obtain rfl := Option.some.inj same
    exact ⟨.int 1, 1, rfl, rfl, by decide, by decide⟩
  obtain ⟨archive, read, own, wrote, readBack, _, ownListed, ⟨middle, perm, matching⟩, like⟩ :=
    readSheet_writeSheet_computesLike storable_sampleSheet
      (keepsSheetNames_of_opens (by decide) (by decide) : KeepsSheetNames "ice") listed classifies
  exact ⟨listed, archive, read, own, wrote, readBack, ownListed,
    perm.length_eq.trans matching.length_eq, like⟩

end Archive

end Regrid
