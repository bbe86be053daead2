import Regrid.Proofs.Store.GridArchive

/-!
Contract: meshes that are written to one file do not disturb each other, and each one is read
as if it had been kept alone.

Owns:
- meshes whose texts and integers a file keeps;
- the definition of all meshes and the writing of all of them, whatever points the groups have;
- the agreement of a file with a dataset.

Does not own: a single mesh in a file.
-/

namespace Regrid

open Attempt StoredName Schema GridTables

/-! ### Meshes that a file keeps -/

namespace GridTables

variable {α : Type}

/-- The text of a value that is one. -/
def textOf : Value → String
  | .text text => text
  | _ => ""

/-- What a mesh shows in the order of its keys. -/
def Contents.shown (grid : Grid α) : Contents α :=
  Contents.ofGrid (textOf grid.name) (textOf grid.projection) grid

/-- The name and the projection of a mesh are texts that a file keeps, and its integers fit 32
bits. -/
structure Storable (grid : Grid α) : Prop where
  name : ∃ name, grid.name = .text name ∧ KeptText name
  projection : ∃ projection, grid.projection = .text projection ∧ KeptText projection
  words : FitsWords grid

theorem Storable.written {grid : Grid α} (storable : Storable grid)
    (sound : grid.Sound (.held α)) : (Contents.shown grid).WrittenFor grid := by
  obtain ⟨name, named, nameKept⟩ := storable.name
  obtain ⟨projection, projected, projectionKept⟩ := storable.projection
  have texts : Contents.shown grid = Contents.ofGrid name projection grid := by
    rw [Contents.shown, named, projected]
    rfl
  rw [texts]
  refine ⟨Contents.ofGrid_shows sound storable.words named projected,
    Contents.ofGrid_admitted sound name projected,
    Contents.ofGrid_fits sound storable.words name projected, ?_, nameKept, projectionKept⟩
  have consistent := sound.projection
  rw [projected] at consistent
  change grid.coordinates = .xy ↔ projection ≠ ""
  simpa [Value.isBlankOption] using consistent

end GridTables

namespace Archive

variable {α : Type}

/-! ### Names of several groups -/

theorem not_mem_of_under {β : Type} {suffixes : List String} (free : SuffixFree suffixes)
    {group other suffix : String} (different : group ≠ other) (listed : suffix ∈ suffixes)
    {entries : List (String × β)} (under : Under suffixes other entries) :
    qualified group suffix ∉ entries.map (·.1) := by
  intro member
  obtain ⟨entry, entryMember, same⟩ := List.mem_map.mp member
  obtain ⟨otherSuffix, otherListed, name⟩ := under entry entryMember
  rw [name] at same
  exact different ((qualified_inj free otherListed listed).mp same).1.symm

/-- No name under a group is one of the shared dimensions or of those of other groups. -/
theorem not_mem_sizes {grids : List (String × Grid α)} {group suffix : String}
    (different : ∀ entry ∈ grids, group ≠ entry.1) (listed : suffix ∈ dimensionSuffixes) :
    qualified group suffix ∉
      (grids.flatMap fun entry => (Contents.shown entry.2).sizes entry.1).map (·.1) := by
  intro member
  obtain ⟨size, sizeMember, same⟩ := List.mem_map.mp member
  obtain ⟨entry, entryMember, inSizes⟩ := List.mem_flatMap.mp sizeMember
  rcases List.mem_append.mp inSizes with shared | own
  · exact shared_ne_qualified shared group suffix same
  · exact not_mem_of_under suffixFree_dimensions (different entry entryMember) listed
      ((Contents.shown entry.2).under_ownSizes entry.1) (same ▸ List.mem_map_of_mem own)

theorem unambiguous_grids {grids : List (String × Grid α)} (distinct : (grids.map (·.1)).Nodup) :
    Unambiguous (sharedSizes ++
      grids.flatMap fun entry => (Contents.shown entry.2).sizes entry.1) := by
  have own : Unambiguous (grids.flatMap fun entry => (Contents.shown entry.2).ownSizes entry.1) :=
    unambiguous_flatMap suffixFree_dimensions distinct
      (fun entry _ => (Contents.shown entry.2).under_ownSizes entry.1)
      fun entry _ => unambiguous_of_nodup ((Contents.shown entry.2).nodup_ownSizes entry.1)
  have named : ∀ size ∈ grids.flatMap fun entry => (Contents.shown entry.2).ownSizes entry.1,
      ∃ group suffix, size.1 = qualified group suffix := by
    intro size member
    obtain ⟨entry, _, inOwn⟩ := List.mem_flatMap.mp member
    obtain ⟨suffix, _, name⟩ := (Contents.shown entry.2).under_ownSizes entry.1 size inOwn
    exact ⟨entry.1, suffix, name⟩
  refine (unambiguous_shared_append own named).mono fun size member => ?_
  rcases List.mem_append.mp member with shared | inGrids
  · exact List.mem_append_left _ shared
  · obtain ⟨entry, entryMember, inSizes⟩ := List.mem_flatMap.mp inGrids
    rcases List.mem_append.mp inSizes with shared | own
    · exact List.mem_append_left _ shared
    · exact List.mem_append_right _ (List.mem_flatMap.mpr ⟨entry, entryMember, own⟩)

variable [Scalar α]

theorem not_mem_defined {grids : List (String × Grid α)} {group suffix : String}
    (different : ∀ entry ∈ grids, group ≠ entry.1) (listed : suffix ∈ variableSuffixes) :
    qualified group suffix ∉
      (grids.flatMap fun entry => (Contents.shown entry.2).defined entry.1).map (·.1) := by
  intro member
  obtain ⟨var, varMember, same⟩ := List.mem_map.mp member
  obtain ⟨entry, entryMember, inDefined⟩ := List.mem_flatMap.mp varMember
  exact not_mem_of_under suffixFree_variables (different entry entryMember) listed
    ((Contents.shown entry.2).under_defined entry.1) (same ▸ List.mem_map_of_mem inDefined)

/-! ### All meshes -/

variable {before : Archive α} {grids : List (String × Grid α)}

/-- Names that are free in a file stay free while meshes are defined under other groups. -/
theorem FreeFor.becomes {after : Archive α} {group : String} (free : before.FreeFor group)
    (distinct : (grids.map (·.1)).Nodup) (different : ∀ entry ∈ grids, group ≠ entry.1)
    (becomes : before.Becomes
      (grids.flatMap fun entry => (Contents.shown entry.2).sizes entry.1)
      (grids.flatMap fun entry => (Contents.shown entry.2).defined entry.1) after) :
    after.FreeFor group :=
  free.of_becomes becomes (unambiguous_grids distinct)
    (fun _ listed => not_mem_sizes different listed)
    fun _ listed => not_mem_defined different listed

/-- Meshes are defined one after the other under different groups. -/
theorem Settled.exists_defineGrids (settled : before.Settled)
    (distinct : (grids.map (·.1)).Nodup)
    (keeps : ∀ entry ∈ grids, KeepsNames entry.1 gridSuffixes)
    (written : ∀ entry ∈ grids, (Contents.shown entry.2).WrittenFor entry.2)
    (free : ∀ entry ∈ grids, before.FreeFor entry.1) :
    ∃ after, Attempt.outcome (grids.forM fun entry => defineGrid entry.2 entry.1) before =
        (.ok (), after) ∧
      before.Becomes (grids.flatMap fun entry => (Contents.shown entry.2).sizes entry.1)
        (grids.flatMap fun entry => (Contents.shown entry.2).defined entry.1) after := by
  refine settled.exists_forM _ _ _ grids
    ((unambiguous_grids distinct).mono (List.subset_append_right _ _))
    (unambiguous_flatMap suffixFree_variables distinct
      (fun entry _ => (Contents.shown entry.2).under_defined entry.1)
      fun entry _ => unambiguous_of_nodup ((Contents.shown entry.2).nodup_defined entry.1))
    fun done entry rest between split early => ?_
  have listed : entry ∈ grids := by simp [split]
  rw [split, List.map_append, List.map_cons, List.nodup_append] at distinct
  have different : ∀ other ∈ done, entry.1 ≠ other.1 := fun other member same =>
    distinct.2.2 other.1 (List.mem_map_of_mem member) entry.1 List.mem_cons_self same.symm
  exact early.settled.exists_defineGrid (written entry listed) (keeps entry listed)
    ((free entry listed).becomes distinct.1 different early)

/-- The variables of a mesh in a file whose arrays are written. -/
def partsHeld (entry : String × Grid α) : List (String × Variable α) :=
  parts.map fun part => (part.fullName entry.1, (Contents.shown entry.2).partHeld entry.1 part)

omit [Scalar α] in
theorem under_partsHeld (entry : String × Grid α) :
    Under variableSuffixes entry.1 (partsHeld entry) := by
  intro var member
  obtain ⟨part, _, rfl⟩ := List.mem_map.mp member
  exact ⟨part.name, (mem_suffixes part).2.2, rfl⟩

omit [Scalar α] in
theorem unambiguous_partsHeld (entry : String × Grid α) : Unambiguous (partsHeld entry) :=
  unambiguous_of_nodup (by simpa [partsHeld, Function.comp_def] using nodup_fullNames entry.1)

omit [Scalar α] in
/-- Writing the arrays of some meshes touches no name under another group. -/
theorem not_mem_partsHeld {group suffix : String} (different : ∀ entry ∈ grids, group ≠ entry.1)
    (listed : suffix ∈ variableSuffixes) :
    qualified group suffix ∉ (grids.flatMap partsHeld).map (·.1) := by
  intro member
  obtain ⟨var, varMember, same⟩ := List.mem_map.mp member
  obtain ⟨entry, entryMember, inParts⟩ := List.mem_flatMap.mp varMember
  exact not_mem_of_under suffixFree_variables (different entry entryMember) listed
    (under_partsHeld entry) (same ▸ List.mem_map_of_mem inParts)

/-- Meshes that were defined under different groups are written one after the other. -/
theorem Settled.exists_writeGrids (settled : before.Settled)
    (distinct : (grids.map (·.1)).Nodup)
    (keeps : ∀ entry ∈ grids, KeepsNames entry.1 gridSuffixes)
    (written : ∀ entry ∈ grids, (Contents.shown entry.2).WrittenFor entry.2)
    (defined : ∀ entry ∈ grids, ∀ part : Part, before.dataset.get? (part.fullName entry.1) =
      some ((Contents.shown entry.2).partDefined entry.1 part)) :
    ∃ after, Attempt.outcome (grids.forM fun entry => writeGrid entry.2 entry.1) before =
        (.ok (), after) ∧ before.Becomes [] (grids.flatMap partsHeld) after := by
  have none : ∀ some : List (String × Grid α),
      (some.flatMap fun _ => ([] : List (String × Nat))) = [] :=
    fun some => List.flatMap_eq_nil_iff.mpr fun _ _ => rfl
  have loop := settled.exists_forM (fun entry => writeGrid entry.2 entry.1) (fun _ => [])
    partsHeld grids
  simp only [none] at loop
  refine loop (by simp [Unambiguous])
    (unambiguous_flatMap suffixFree_variables distinct (fun entry _ => under_partsHeld entry)
      fun entry _ => unambiguous_partsHeld entry)
    fun done entry rest between split early => ?_
  have listed : entry ∈ grids := by simp [split]
  rw [split, List.map_append, List.map_cons, List.nodup_append] at distinct
  have different : ∀ other ∈ done, entry.1 ≠ other.1 := fun other member same =>
    distinct.2.2 other.1 (List.mem_map_of_mem member) entry.1 List.mem_cons_self same.symm
  refine early.settled.exists_writeGrid (written entry listed) (keeps entry listed) fun part => ?_
  have untouched := early.otherVariable _ (not_mem_partsHeld different (mem_suffixes part).2.2)
  exact untouched.trans (defined entry listed part)

omit [Scalar α] in
/-- A mesh whose arrays were written is held under its group, if its attributes were. -/
theorem Becomes.holdsGrid_of_info {middle last : Archive α}
    (late : middle.Becomes [] (grids.flatMap partsHeld) last) {entry : String × Grid α}
    (listed : entry ∈ grids) (info : middle.dataset.get? (infoVariable entry.1) =
      some ((Contents.shown entry.2).infoHeld entry.1)) :
    last.HoldsGrid entry.1 (Contents.shown entry.2) where
  info := by
    have untouched : infoVariable entry.1 ∉ (grids.flatMap partsHeld).map (·.1) := by
      intro member
      obtain ⟨var, varMember, same⟩ := List.mem_map.mp member
      obtain ⟨other, otherMember, inParts⟩ := List.mem_flatMap.mp varMember
      obtain ⟨part, _, rfl⟩ := List.mem_map.mp inParts
      have groups := (qualified_inj suffixFree_variables (mem_suffixes part).2.2
        (by simp [variableSuffixes] : "info" ∈ variableSuffixes)).mp
          (same.trans (infoVariable_eq entry.1))
      exact part.fullName_ne_infoVariable entry.1 (groups.1 ▸ same)
    rw [late.otherVariable _ untouched]
    exact info
  part := fun part => late.held _ (List.mem_flatMap.mpr ⟨entry, listed,
    List.mem_map.mpr ⟨part, (mem_suffixes part).1, rfl⟩⟩)

/-- What was defined and then written is held under its group. -/
theorem Becomes.holdsGrid {first middle last : Archive α} {sizes : List (String × Nat)}
    (early : first.Becomes sizes
      (grids.flatMap fun entry => (Contents.shown entry.2).defined entry.1) middle)
    (late : middle.Becomes [] (grids.flatMap partsHeld) last) {entry : String × Grid α}
    (listed : entry ∈ grids) : last.HoldsGrid entry.1 (Contents.shown entry.2) :=
  late.holdsGrid_of_info listed
    (early.held _ (List.mem_flatMap.mpr ⟨entry, listed, List.mem_cons_self⟩))

omit [Scalar α] in
theorem settled_empty : ({} : Archive α).Settled := ⟨rfl, by simp⟩

omit [Scalar α] in
theorem freeFor_empty (group : String) : ({} : Archive α).FreeFor group :=
  ⟨fun _ _ => .inl rfl, fun _ _ => rfl, fun _ _ => rfl⟩

/-- Meshes that operations reach are written to one new file under different groups, whatever
points the groups have, and each one is read from the file as it is read from a dataset of its
own. -/
theorem readGrid_writeGrids (grids : List (String × Grid α))
    (distinct : (grids.map (·.1)).Nodup)
    (keeps : ∀ entry ∈ grids, KeepsNames entry.1 gridSuffixes)
    (reached : ∀ entry ∈ grids, ∃ (ref : Ref (SharedGrid α)) (space : MeshSpace α),
      MeshSpace.Reached ref space ∧ space.view ref = entry.2)
    (storable : ∀ entry ∈ grids, Storable entry.2) :
    ∃ archive, (writeGrids grids).outcome {} = (.ok (), archive) ∧
      ∀ entry ∈ grids, ∃ dataset read, encode entry.2 entry.1 = .ok dataset ∧
        decode .dataset dataset entry.1 = .ok read ∧ archive.readGrid entry.1 = .ok read ∧
        Agrees read entry.2 := by
  have written : ∀ entry ∈ grids, (Contents.shown entry.2).WrittenFor entry.2 := by
    intro entry member
    obtain ⟨ref, space, reaches, view⟩ := reached entry member
    exact (storable entry member).written (view ▸ reaches.keeps.view)
  obtain ⟨middle, defined, early⟩ := settled_empty.exists_defineGrids distinct keeps written
    fun entry _ => freeFor_empty entry.1
  obtain ⟨archive, wrote, late⟩ := early.settled.exists_writeGrids distinct keeps written
    fun entry member part => early.held _ (List.mem_flatMap.mpr ⟨entry, member,
      List.mem_cons_of_mem _ (List.mem_map.mpr ⟨part, (mem_suffixes part).1, rfl⟩)⟩)
  refine ⟨archive, (outcome_bind_of_ok defined _).trans wrote, fun entry member => ?_⟩
  have own := written entry member
  have holds : archive.HoldsGrid entry.1 (Contents.shown entry.2) :=
    early.holdsGrid late member
  exact ⟨_, _, encode_eq_ok own.shows own.fits own.admitted.cuts own.planar entry.1,
    own.decode_dataset entry.1, holds.readGrid own,
    own.shows.agrees own.admitted (Contents.ofGrid_ordered _ _ _)⟩

/-- A triangle and an empty mesh stand in one file, where the group of the one continues the
group of the other by a part of a name. -/
theorem triangle_beside_empty : ∃ (space : MeshSpace Rat) (archive : Archive Rat),
    MeshSpace.Reached ⟨0⟩ space ∧ (space.view ⟨0⟩).vertices.size = 4 ∧
      (writeGrids [("a", space.view ⟨0⟩), ("a.cells", {})]).outcome {} = (.ok (), archive) ∧
      ∃ first second, archive.readGrid "a" = .ok first ∧ Agrees first (space.view ⟨0⟩) ∧
        archive.readGrid "a.cells" = .ok second ∧ Agrees second {} := by
  have created : MeshSpace.Reached (α := Rat) ⟨0⟩ { grids := ⟨#[{}]⟩ } :=
    .created {} (rfl : Mesh.create (.text "") .generic .lonLat .onCells (.text "") = .ok {}) rfl
  have made := created.performed (.makeVertex ⟨5, 5, .int 7⟩) trivial
  have lone := made.performed (.addVertex ⟨0⟩) (Nat.zero_lt_one : 0 < 1)
  have filled := lone.performed
    (.addPolygon [(0, 0), (1, 0), (0, 1)] { i := .int 2, area := 3 }) trivial
  have plain : KeptText "" := keptText_of_eq rfl (by decide)
  have names : KeepsNames "a" gridSuffixes ∧ KeepsNames "a.cells" gridSuffixes :=
    ⟨keepsNames_of_opens (by decide) (by decide), keepsNames_of_opens (by decide) (by decide)⟩
  obtain ⟨archive, written, each⟩ := readGrid_writeGrids [("a", _), ("a.cells", {})] (by simp)
    (by simpa using names)
    (by simpa only [List.forall_mem_cons, List.not_mem_nil, false_imp_iff, implies_true, and_true]
      using ⟨⟨_, _, filled, rfl⟩, ⟨_, _, created, rfl⟩⟩)
    (by
      simp only [List.forall_mem_cons, List.not_mem_nil, false_imp_iff, implies_true, and_true]
      exact ⟨⟨⟨_, rfl, plain⟩, ⟨_, rfl, plain⟩,
          ⟨by decide +kernel, by decide +kernel, by decide +kernel, by decide +kernel⟩⟩,
        ⟨⟨_, rfl, plain⟩, ⟨_, rfl, plain⟩,
          ⟨by decide +kernel, by decide +kernel, by decide +kernel, by decide +kernel⟩⟩⟩)
  obtain ⟨_, first, _, _, firstRead, firstAgrees⟩ := each _ List.mem_cons_self
  obtain ⟨_, second, _, _, secondRead, secondAgrees⟩ := each ("a.cells", {}) (by simp)
  exact ⟨_, archive, filled, by decide +kernel, written, first, second, firstRead, firstAgrees,
    secondRead, secondAgrees⟩

end Archive
end Regrid
