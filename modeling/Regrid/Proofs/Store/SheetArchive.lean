import Regrid.Proofs.Coupling.Overlaps
import Regrid.Proofs.Store.SeveralGrids
import Regrid.Store.SheetArchive

/-!
Contract: a sheet is written to a new file with its meshes and its fields, and read from it.

Owns:
- sheets that a file keeps, and groups whose names a file keeps for a sheet;
- the attributes and the fields of a sheet in a file;
- defining and writing a sheet, and the sheet that is read.

Does not own: what the sheet that was read computes.

A field over no ice data points is defined on a dimension that can grow and is never written. It
is read as it was, since it has no elements either way.
-/

namespace Regrid

open Attempt StoredName Schema GridTables

/-! ### Names -/

namespace Schema

/-- The group of the ice mesh of a sheet. -/
def iceGroup (group : String) : String := group ++ ".grid2"

/-- The group of the exchange mesh of a sheet. -/
def exchangeGroup (group : String) : String := group ++ ".exgrid"

/-- What follows the group and the point in the names that a sheet needs besides its meshes. -/
def sheetSuffixes : List String := ["info", "mask2", "elev2", "n2"]

/-- A file keeps all names that a sheet needs under a group. -/
structure KeepsSheetNames (group : String) : Prop where
  own : KeepsNames group sheetSuffixes
  iceMesh : KeepsNames (iceGroup group) gridSuffixes
  exchangeMesh : KeepsNames (exchangeGroup group) gridSuffixes

/-- The names of a sheet are kept under every short group of plain characters. -/
theorem keepsSheetNames_of_opens {group : String} (opens : opensName group = true)
    (short : group.utf8ByteSize ≤ 219) : KeepsSheetNames group where
  own :=
    have closes : ∀ suffix ∈ sheetSuffixes, closesName ("." ++ suffix) = true ∧
        ("." ++ suffix).utf8ByteSize ≤ 6 := by decide +kernel
    keepsNames_append opens closes (by rw [mostBytes]; omega)
  iceMesh := by
    have size : ".grid2".utf8ByteSize = 6 := by decide
    exact keepsNames_of_opens (opensName_append opens (by decide))
      (by rw [iceGroup, String.utf8ByteSize_append]; omega)
  exchangeMesh := by
    have size : ".exgrid".utf8ByteSize = 7 := by decide
    exact keepsNames_of_opens (opensName_append opens (by decide))
      (by rw [exchangeGroup, String.utf8ByteSize_append]; omega)

theorem ne_append {group more : String} (some : more ≠ "") : group ≠ group ++ more := by
  intro same
  have lengths := congrArg String.length same
  rw [String.length_append] at lengths
  exact some (String.length_eq_zero_iff.mp (by omega))

theorem iceGroup_ne_exchangeGroup (group : String) : iceGroup group ≠ exchangeGroup group := by
  rw [iceGroup, exchangeGroup, ne_eq, String.append_right_inj]
  decide

end Schema

/-! ### Sheets that a file keeps -/

variable {α : Type}

/-- The name of a sheet is a text that a file keeps, its numbers of model cells and of height
points are integers that fit 32 bits, its meshes are sound, as meshes are that operations reach,
and a file keeps them, and its fields have as many items as their shapes say. -/
structure Sheet.Storable (sheet : Sheet (Grid α) α) : Prop where
  name : ∃ name, sheet.name = .text name ∧ KeptText name
  modelExtent : HoldsWord sheet.modelExtent
  heightPoints : HoldsWord sheet.heightPoints
  iceMesh : sheet.iceMesh.Sound (.held α) ∧ GridTables.Storable sheet.iceMesh
  exchangeMesh : sheet.exchangeMesh.Sound (.held α) ∧ GridTables.Storable sheet.exchangeMesh
  mask : ∀ mask, sheet.mask = some mask → mask.items.length = Tensor.volume mask.shape
  elevation : ∀ elevation, sheet.elevation = some elevation →
    elevation.items.length = Tensor.volume elevation.shape

namespace Archive

/-! ### Attributes -/

/-- The attributes of a sheet with the given name and numbers. -/
def sheetTags (variant : Parameterization) (name : String) (modelExtent heightPoints : Int) :
    List (String × Attribute) :=
  (if name.isEmpty then [] else [("name", .text name)]) ++
    [("parameterization", .text (tagText variant)), ("nhp", .short heightPoints),
      ("n1", .short modelExtent)]

/-- The variable of the attributes of a sheet in a file. It has one element and no dimension. -/
def sheetInfo (tags : List (String × Attribute)) : Variable α :=
  ⟨[], [], .integers .int32 [IntegerType.int32.fill], heldEntries tags⟩

variable {sheet : Sheet (Grid α) α} {group name : String} {modelExtent heightPoints : Int}

theorem keptEntry_sheetTags (variant : Parameterization) (keptName : KeptText name)
    (extent : IsWord modelExtent) (heights : IsWord heightPoints) :
    ∀ entry ∈ sheetTags variant name modelExtent heightPoints, KeptEntry entry := by
  have keys : ∀ key ∈ ["name", "parameterization", "nhp", "n1"], Kept key ∧ key ≠ fillKey := by
    decide +kernel
  have own : ∀ (key : String) {given : Attribute},
      key ∈ ["name", "parameterization", "nhp", "n1"] → given.KeptAs → KeptEntry (key, given) :=
    fun key _ listed keeps => ⟨(keys key listed).1, (keys key listed).2, keeps⟩
  have tag := own "parameterization" (by simp) (Attribute.kept_text (keptText_tagText.2.2 variant))
  have nhp := own "nhp" (by simp) (Attribute.kept_short heights)
  have n1 := own "n1" (by simp) (Attribute.kept_short extent)
  have label := own "name" (by simp) (Attribute.kept_text keptName)
  unfold sheetTags
  split
  · simp [tag, nhp, n1]
  · simp [label, tag, nhp, n1]

theorem nodup_sheetTags (variant : Parameterization) (name : String)
    (modelExtent heightPoints : Int) :
    ((sheetTags variant name modelExtent heightPoints).map (·.1)).Nodup := by
  unfold sheetTags
  split <;> simp

theorem get?_sheetInfo (tags : List (String × Attribute)) (key : String) :
    (sheetInfo tags : Variable α).get? key = (tags.lookup key).map Attribute.held :=
  Variable.lookup_mapValues (fun _ (stored : Attribute) => stored.held) key _

/-- The attributes of a sheet are set one after the other. -/
theorem annotateSheet_eq (named : sheet.name = .text name)
    (extent : sheet.modelExtent = .int modelExtent) (extentWord : IsWord modelExtent)
    (heights : sheet.heightPoints = .int heightPoints) (heightsWord : IsWord heightPoints)
    (info : String) :
    annotateSheet sheet info =
      annotateAll info (sheetTags sheet.variant name modelExtent heightPoints) := by
  have short : ∀ {n : Int}, IsWord n → shortAttribute (.int n) = .ok (.short n) := by
    intro n word
    rw [shortAttribute, IntegerType.ofValue, word.fit]
    rfl
  have lifted : ∀ stored : Attribute, (liftM (.ok stored : Except Error Attribute) :
      Attempt (Archive α) Attribute) = pure stored := fun _ => rfl
  rw [annotateSheet, annotateAll, sheetTags, named, heights, extent]
  simp only [short extentWord, short heightsWord, lifted, pure_bind]
  by_cases empty : name.isEmpty = true
  · simp [Value.isBlankOption, empty]
  · simp [Value.isBlankOption, empty, Attribute.text, Attribute.ofValue]

/-! ### Fields -/

/-- A field over ice data points in a file, by its full name. -/
def fieldHeld (group : String) (field : String × List Nat × Column α) : String × Variable α :=
  (qualified group field.1, ⟨[qualified group "n2"], field.2.1, field.2.2, []⟩)

/-- Fields are vectors of one length and have the names that fields of sheets have. -/
def FieldsFit (fields : List (String × List Nat × Column α)) (count : Nat) : Prop :=
  ∀ field ∈ fields, field.1 ∈ ["mask2", "elev2"] ∧ field.2.1 = [count] ∧ field.2.2.length = count

theorem nodup_sheetFields (sheet : Sheet (Grid α) α) :
    ((sheetFields sheet).map (·.1)).Nodup := by
  unfold sheetFields
  cases sheet.mask <;> cases sheet.elevation <;> simp

/-- The fields of a sheet whose inputs were checked have one item for each ice data point. -/
theorem fieldsFit_of_check (storable : sheet.Storable) (checked : sheet.check = .ok ()) :
    FieldsFit (sheetFields sheet) sheet.iceMesh.fieldLength.toNat := by
  obtain ⟨maskChecked, elevationChecked⟩ := Sheet.fields_of_check checked
  unfold FieldsFit sheetFields
  rw [List.forall_mem_append]
  constructor
  · cases masked : sheet.mask with
    | none => simp
    | some mask =>
        rw [masked] at maskChecked
        obtain ⟨shape, items⟩ :=
          Sheet.vector_of_checkField maskChecked (storable.mask mask masked)
        simp [shape, Column.length, ← items]
  · cases raised : sheet.elevation with
    | none => simp
    | some elevation =>
        rw [raised] at elevationChecked
        obtain ⟨shape, items⟩ :=
          Sheet.vector_of_checkField elevationChecked (storable.elevation elevation raised)
        simp [shape, Column.length, ← items]

theorem fieldDimension_eq (group : String) : group ++ ".n2" = qualified group "n2" := by
  rw [qualified, String.append_assoc]
  rfl

variable [Scalar α] {before : Archive α} {fields : List (String × List Nat × Column α)}
  {count : Nat}

/-- A field in a file before it is written. -/
def fieldDefined (group : String) (field : String × List Nat × Column α) : String × Variable α :=
  (qualified group field.1, { (fieldHeld group field).2 with
    column := field.2.2.elementType.fill (Tensor.volume field.2.1) })

/-- The fields are defined on the dimension that counts ice data points. -/
theorem Settled.exists_defineFields (settled : before.Settled)
    (keeps : KeepsNames group sheetSuffixes) (distinct : (fields.map (·.1)).Nodup)
    (fit : FieldsFit fields count)
    (sized : before.dimension? (qualified group "n2") = some (.made (qualified group "n2") count))
    (free : ∀ field ∈ fields, before.dataset.get? (qualified group field.1) = none) :
    ∃ after, Attempt.outcome (fields.forM fun field =>
        define (group ++ "." ++ field.1) field.2.2.elementType [group ++ ".n2"]) before =
        (.ok (), after) ∧ before.Becomes [] (fields.map (fieldDefined group)) after := by
  have names : (fields.map fun field => (fieldDefined group field).1).Nodup := by
    have full := distinct.map fun first second => (qualified_right_inj group first second).mp
    rwa [List.map_map] at full
  have ofFields : ∀ name ∈ ["mask2", "elev2"], name ∈ sheetSuffixes := by decide
  refine settled.exists_forM_variables _ fields (fieldDefined group) names
    fun field member between wasSettled dimensions own => ?_
  obtain ⟨known, shape, _⟩ := fit field member
  rw [fieldDimension_eq]
  refine wasSettled.exists_define (keeps field.1 (ofFields _ known))
    (own.trans (free field member)) field.2.2.elementType
    (by simpa using keeps "n2" (by simp [sheetSuffixes])) ?_
  rw [fieldHeld, shape]
  exact .cons ((dimensions _).trans sized) .nil

/-- The fields that have elements are written, and the others are there already. -/
theorem Settled.exists_storeFields (settled : before.Settled)
    (keeps : KeepsNames group sheetSuffixes) (distinct : (fields.map (·.1)).Nodup)
    (fit : FieldsFit fields count)
    (defined : ∀ field ∈ fields, before.dataset.get? (qualified group field.1) =
      some (fieldDefined group field).2) :
    ∃ after, Attempt.outcome (fields.forM fun field => do
        if field.2.2.length ≠ 0 then store (group ++ "." ++ field.1) field.2.1 field.2.2) before =
        (.ok (), after) ∧ before.Becomes [] (fields.map (fieldHeld group)) after := by
  have names : (fields.map fun field => (fieldHeld group field).1).Nodup := by
    have full := distinct.map fun first second => (qualified_right_inj group first second).mp
    rwa [List.map_map] at full
  have ofFields : ∀ name ∈ ["mask2", "elev2"], name ∈ sheetSuffixes := by decide
  refine settled.exists_forM_variables _ fields (fieldHeld group) names
    fun field member between wasSettled _ own => ?_
  obtain ⟨known, shape, length⟩ := fit field member
  have found := own.trans (defined field member)
  have rectangular : Tensor.volume field.2.1 = field.2.2.length := by
    rw [shape, length]
    simp [Tensor.volume]
  exact wasSettled.exists_storeDefined (keeps field.1 (ofFields _ known)) found rectangular

/-! ### Writing -/

/-- The meshes of a sheet with their groups. -/
def sheetGrids (sheet : Sheet (Grid α) α) (group : String) : List (String × Grid α) :=
  [(iceGroup group, sheet.iceMesh), (exchangeGroup group, sheet.exchangeMesh)]

omit [Scalar α] in
theorem nodup_sheetGrids (sheet : Sheet (Grid α) α) (group : String) :
    ((sheetGrids sheet group).map (·.1)).Nodup := by
  simp [sheetGrids, iceGroup_ne_exchangeGroup]

omit [Scalar α] in
/-- A file keeps the meshes of a sheet that it keeps. -/
theorem written_of_storable (storable : sheet.Storable) (group : String) :
    ∀ entry ∈ sheetGrids sheet group, (Contents.shown entry.2).WrittenFor entry.2 := by
  simpa [sheetGrids] using ⟨storable.iceMesh.2.written storable.iceMesh.1,
    storable.exchangeMesh.2.written storable.exchangeMesh.1⟩

omit [Scalar α] in
theorem keepsNames_sheetGrids (keeps : KeepsSheetNames group) (sheet : Sheet (Grid α) α) :
    ∀ entry ∈ sheetGrids sheet group, KeepsNames entry.1 gridSuffixes := by
  simpa [sheetGrids] using ⟨keeps.iceMesh, keeps.exchangeMesh⟩

omit [Scalar α] in
/-- The groups of the meshes differ from the group of the sheet. -/
theorem ne_of_mem_sheetGrids (sheet : Sheet (Grid α) α) (group : String) :
    ∀ entry ∈ sheetGrids sheet group, group ≠ entry.1 := by
  simp only [sheetGrids, List.forall_mem_cons, List.not_mem_nil, false_imp_iff, implies_true,
    and_true]
  exact ⟨ne_append (by decide), ne_append (by decide)⟩

omit [Scalar α] in
theorem under_fields (fit : FieldsFit fields count)
    {entryOf : String × List Nat × Column α → String × Variable α}
    (named : ∀ field, (entryOf field).1 = qualified group field.1) :
    Under variableSuffixes group (fields.map entryOf) := by
  intro entry member
  obtain ⟨field, fieldMember, rfl⟩ := List.mem_map.mp member
  have known := (fit field fieldMember).1
  have within : ∀ name ∈ ["mask2", "elev2"], name ∈ variableSuffixes := by decide
  exact ⟨field.1, within _ known, named field⟩

omit [Scalar α] in
theorem mem_fieldNames {entryOf : String × List Nat × Column α → String × Variable α}
    (named : ∀ field, (entryOf field).1 = qualified group field.1) (name : String) :
    qualified group name ∈ (fields.map entryOf).map (·.1) ↔ name ∈ fields.map (·.1) := by
  simp only [List.map_map, List.mem_map, Function.comp_apply, named, qualified_right_inj]

omit [Scalar α] in
theorem info_not_mem_fields (fit : FieldsFit fields count) : "info" ∉ fields.map (·.1) := by
  intro member
  obtain ⟨field, fieldMember, same⟩ := List.mem_map.mp member
  have known := (fit field fieldMember).1
  rw [same] at known
  revert known
  decide

/-- The fields come with their dimension, if there are any. -/
theorem Settled.exists_makeFields (settled : before.Settled)
    (keeps : KeepsNames group sheetSuffixes) (distinct : (fields.map (·.1)).Nodup)
    (fit : FieldsFit fields count) (unsized : before.dimension? (qualified group "n2") = none)
    (free : ∀ field ∈ fields, before.dataset.get? (qualified group field.1) = none) :
    ∃ sizes after, before.Becomes sizes (fields.map (fieldDefined group)) after ∧
      ∀ next : Attempt (Archive α) Unit,
        Attempt.outcome (if !fields.isEmpty then do
          makeDimension (group ++ ".n2") count
          fields.forM fun field =>
            define (group ++ "." ++ field.1) field.2.2.elementType [group ++ ".n2"]
          next
        else next) before = next.outcome after := by
  by_cases none : fields = []
  · subst none
    exact ⟨[], before, settled.becomes, fun next => by simp⟩
  · obtain ⟨sized, made, early⟩ := settled.exists_makeDimension
      (keeps "n2" (by simp [sheetSuffixes])) unsized count
    obtain ⟨after, defined, late⟩ := early.settled.exists_defineFields keeps distinct fit
      (early.made _ (List.mem_singleton_self _))
      fun field member => (early.otherVariable _ (by simp)).trans (free field member)
    have names : ((fields.map (fieldDefined group)).map (·.1)).Nodup := by
      have full := distinct.map fun first second => (qualified_right_inj group first second).mp
      rw [List.map_map] at full ⊢
      exact full
    have both := early.trans late (by simp [Unambiguous]) (unambiguous_of_nodup names)
    refine ⟨_, after, both, fun next => ?_⟩
    rw [if_pos (by simpa using none), fieldDimension_eq, outcome_bind_of_ok made]
    rw [fieldDimension_eq] at defined
    exact outcome_bind_of_ok defined _

/-- A file in which the attributes of a sheet are set and its meshes are defined. -/
structure DefinesMeshes (archive : Archive α) (group : String) (sheet : Sheet (Grid α) α)
    (tags : List (String × Attribute)) : Prop where
  settled : archive.Settled
  info : archive.dataset.get? (infoVariable group) = some (sheetInfo tags)
  gridInfo : ∀ entry ∈ sheetGrids sheet group, archive.dataset.get? (infoVariable entry.1) =
    some ((Contents.shown entry.2).infoHeld entry.1)
  gridPart : ∀ entry ∈ sheetGrids sheet group, ∀ part : Part,
    archive.dataset.get? (part.fullName entry.1) =
      some ((Contents.shown entry.2).partDefined entry.1 part)

/-- A file in which a sheet is defined under a group: besides its meshes its fields are there with
fill values, and the names of fields that the sheet does not have are free. -/
structure DefinesSheet (archive : Archive α) (group : String) (sheet : Sheet (Grid α) α)
    (tags : List (String × Attribute)) : Prop extends DefinesMeshes archive group sheet tags where
  fields : ∀ field ∈ sheetFields sheet,
    archive.dataset.get? (qualified group field.1) = some (fieldDefined group field).2
  absent : ∀ name ∈ ["mask2", "elev2"], name ∉ (sheetFields sheet).map (·.1) →
    archive.dataset.get? (qualified group name) = none

/-- A file that holds a sheet under a group: its attributes, its meshes and its fields, and
nothing where the sheet has no field. -/
structure HoldsSheet (archive : Archive α) (group : String) (sheet : Sheet (Grid α) α)
    (tags : List (String × Attribute)) : Prop where
  info : archive.dataset.get? (infoVariable group) = some (sheetInfo tags)
  grids : ∀ entry ∈ sheetGrids sheet group,
    archive.HoldsGrid entry.1 (Contents.shown entry.2)
  fields : ∀ field ∈ sheetFields sheet,
    archive.dataset.get? (qualified group field.1) = some (fieldHeld group field).2
  absent : ∀ name ∈ ["mask2", "elev2"], name ∉ (sheetFields sheet).map (·.1) →
    archive.dataset.get? (qualified group name) = none

section Writing

variable {tags : List (String × Attribute)}

/-- The attributes of a sheet and its meshes come first, in a file without any other name. The
names that the fields need are free after them. -/
theorem exists_defineMeshes (keeps : KeepsSheetNames group)
    (written : ∀ entry ∈ sheetGrids sheet group, (Contents.shown entry.2).WrittenFor entry.2)
    (kept : ∀ entry ∈ tags, KeptEntry entry) (distinct : (tags.map (·.1)).Nodup) :
    ∃ archive : Archive α, archive.DefinesMeshes group sheet tags ∧
      (∀ name ∈ ["mask2", "elev2"], archive.dataset.get? (qualified group name) = none) ∧
      archive.dimension? (qualified group "n2") = none ∧
      ∀ next : Attempt (Archive α) Unit, Attempt.outcome (do
        define (infoVariable group) (.integer .int32) []
        annotateAll (infoVariable group) tags
        (sheetGrids sheet group).forM fun (name, grid) => defineGrid grid name
        next) {} = next.outcome archive := by
  have infoName := infoVariable_eq group
  have infoSuffix : "info" ∈ variableSuffixes := by simp [variableSuffixes]
  have different := ne_of_mem_sheetGrids sheet group
  have infoKept : Kept (infoVariable group) := infoName ▸ keeps.own "info" (by simp [sheetSuffixes])
  have infoNew : ({} : Archive α).dataset.get? (infoVariable group) = none := rfl
  obtain ⟨bare, tagged, infoDefined, infoTagged, infoMade⟩ :=
    settled_empty.exists_defineAnnotated infoKept infoNew (.integer .int32) (by simp) .nil kept
      distinct
  have infoUnder : Under variableSuffixes group
      [(infoVariable group, (sheetInfo tags : Variable α))] := by
    simpa [Under] using ⟨"info", infoSuffix, infoName⟩
  -- Each mesh finds its names free, since its group is another one.
  have gridFree : ∀ entry ∈ sheetGrids sheet group, tagged.FreeFor entry.1 := fun entry member =>
    (freeFor_empty entry.1).of_becomes infoMade (unambiguous_of_nodup (by decide)) (by simp)
      fun suffix listed =>
        not_mem_of_under suffixFree_variables (different entry member).symm listed infoUnder
  obtain ⟨archive, gridsDefined, gridsMade⟩ :=
    infoMade.settled.exists_defineGrids (nodup_sheetGrids sheet group)
      (keepsNames_sheetGrids keeps sheet) written gridFree
  have gridHeld : ∀ entry ∈ sheetGrids sheet group,
      ∀ var ∈ (Contents.shown entry.2).defined entry.1,
        archive.dataset.get? var.1 = some var.2 := fun entry member var inDefined =>
    gridsMade.held var (List.mem_flatMap.mpr ⟨entry, member, inDefined⟩)
  refine ⟨archive,
    ⟨gridsMade.settled, ?_, fun entry member => gridHeld entry member _ List.mem_cons_self,
      fun entry member part => gridHeld entry member _
        (List.mem_cons_of_mem _ (List.mem_map_of_mem (mem_suffixes part).1))⟩,
    fun name listed => ?_, ?_, fun next => ?_⟩
  · rw [infoName, gridsMade.otherVariable _ (not_mem_defined different infoSuffix), ← infoName]
    exact infoMade.held _ (List.mem_singleton_self _)
  · have known : ∀ name ∈ ["mask2", "elev2"], name ∈ variableSuffixes ∧ name ≠ "info" := by
      decide
    obtain ⟨suffix, other⟩ := known name listed
    rw [gridsMade.otherVariable _ (not_mem_defined different suffix), infoMade.otherVariable]
    · rfl
    · rw [infoName]
      simpa [qualified_right_inj] using other
  · rw [gridsMade.otherDimension _ (not_mem_sizes different (by simp [dimensionSuffixes])),
      infoMade.otherDimension _ (by simp)]
    rfl
  · rw [outcome_bind_of_ok infoDefined, outcome_bind_of_ok infoTagged,
      outcome_bind_of_ok gridsDefined]

/-- The meshes stay as they were defined when the fields are, since no field is in a group of
theirs. -/
theorem DefinesMeshes.of_becomes {middle last : Archive α} {sizes : List (String × Nat)}
    (defines : middle.DefinesMeshes group sheet tags) (fit : FieldsFit (sheetFields sheet) count)
    (becomes : middle.Becomes sizes ((sheetFields sheet).map (fieldDefined group)) last) :
    last.DefinesMeshes group sheet tags := by
  have fieldsUnder : Under variableSuffixes group
      ((sheetFields sheet).map (fieldDefined group)) := under_fields fit fun _ => rfl
  have stays : ∀ entry ∈ sheetGrids sheet group, ∀ suffix ∈ variableSuffixes,
      last.dataset.get? (qualified entry.1 suffix) =
        middle.dataset.get? (qualified entry.1 suffix) := fun entry member suffix listed =>
    becomes.otherVariable _ (not_mem_of_under suffixFree_variables
      (ne_of_mem_sheetGrids sheet group entry member).symm listed fieldsUnder)
  refine ⟨becomes.settled, ?_, fun entry member => ?_, fun entry member part => ?_⟩
  · rw [infoVariable_eq, becomes.otherVariable _
      (mt (mem_fieldNames (fun _ => rfl) _).mp (info_not_mem_fields fit)), ← infoVariable_eq]
    exact defines.info
  · have infoStays := stays entry member "info" (by simp [variableSuffixes])
    rw [← infoVariable_eq] at infoStays
    exact infoStays.trans (defines.gridInfo entry member)
  · exact (stays entry member part.name (mem_suffixes part).2.2).trans
      (defines.gridPart entry member part)

/-- A sheet is defined in a new file. -/
theorem exists_defineSheet (keeps : KeepsSheetNames group)
    (written : ∀ entry ∈ sheetGrids sheet group, (Contents.shown entry.2).WrittenFor entry.2)
    (fit : FieldsFit (sheetFields sheet) count) (kept : ∀ entry ∈ tags, KeptEntry entry)
    (distinct : (tags.map (·.1)).Nodup) :
    ∃ archive : Archive α, archive.DefinesSheet group sheet tags ∧
      ∀ next : Attempt (Archive α) Unit, Attempt.outcome (do
        define (infoVariable group) (.integer .int32) []
        annotateAll (infoVariable group) tags
        (sheetGrids sheet group).forM fun (name, grid) => defineGrid grid name
        if !(sheetFields sheet).isEmpty then
          makeDimension (group ++ ".n2") count
          (sheetFields sheet).forM fun field =>
            define (group ++ "." ++ field.1) field.2.2.elementType [group ++ ".n2"]
        next) {} = next.outcome archive := by
  obtain ⟨middle, meshes, free, unsized, meshesDefined⟩ :=
    exists_defineMeshes keeps written kept distinct
  obtain ⟨sizes, archive, made, fieldsDefined⟩ := meshes.settled.exists_makeFields keeps.own
    (nodup_sheetFields sheet) fit unsized fun field member => free field.1 (fit field member).1
  refine ⟨archive, ⟨meshes.of_becomes fit made,
    fun field member => made.held _ (List.mem_map_of_mem member), fun name listed none => ?_⟩,
    fun next => (meshesDefined _).trans (fieldsDefined next)⟩
  rw [made.otherVariable _ (mt (mem_fieldNames (fun _ => rfl) _).mp none)]
  exact free name listed

/-- A sheet that was defined is written. -/
theorem DefinesSheet.exists_write {defined : Archive α}
    (defines : defined.DefinesSheet group sheet tags) (keeps : KeepsSheetNames group)
    (written : ∀ entry ∈ sheetGrids sheet group, (Contents.shown entry.2).WrittenFor entry.2)
    (fit : FieldsFit (sheetFields sheet) count) :
    ∃ archive, archive.HoldsSheet group sheet tags ∧ Attempt.outcome (do
        (sheetGrids sheet group).forM fun (name, grid) => writeGrid grid name
        (sheetFields sheet).forM fun field => do
          if field.2.2.length ≠ 0 then store (group ++ "." ++ field.1) field.2.1 field.2.2)
        defined = (.ok (), archive) := by
  have infoSuffix : "info" ∈ variableSuffixes := by simp [variableSuffixes]
  have fieldSuffix : ∀ name ∈ ["mask2", "elev2"], name ∈ variableSuffixes := by decide
  have different := ne_of_mem_sheetGrids sheet group
  have fieldsUnder : Under variableSuffixes group
      ((sheetFields sheet).map (fieldHeld group)) := under_fields fit fun _ => rfl
  obtain ⟨middle, gridsWritten, gridsHeld⟩ :=
    defines.settled.exists_writeGrids (nodup_sheetGrids sheet group)
      (keepsNames_sheetGrids keeps sheet) written defines.gridPart
  have ownStays : ∀ suffix ∈ variableSuffixes, middle.dataset.get? (qualified group suffix) =
      defined.dataset.get? (qualified group suffix) := fun suffix listed =>
    gridsHeld.otherVariable _ (not_mem_partsHeld different listed)
  obtain ⟨archive, fieldsWritten, fieldsHeld⟩ := gridsHeld.settled.exists_storeFields keeps.own
    (nodup_sheetFields sheet) fit fun field member =>
      (ownStays field.1 (fieldSuffix _ (fit field member).1)).trans (defines.fields field member)
  refine ⟨archive, ⟨?_, fun entry member => ?_,
    fun field member => fieldsHeld.held _ (List.mem_map_of_mem member), fun name listed none => ?_⟩,
    (outcome_bind_of_ok gridsWritten _).trans fieldsWritten⟩
  · have stays := ownStays "info" infoSuffix
    rw [infoVariable_eq, fieldsHeld.otherVariable _
      (mt (mem_fieldNames (fun _ => rfl) _).mp (info_not_mem_fields fit)), stays, ← infoVariable_eq]
    exact defines.info
  · exact (gridsHeld.holdsGrid_of_info member (defines.gridInfo entry member)).of_becomes fieldsHeld
      fun suffix listed =>
        not_mem_of_under suffixFree_variables (different entry member).symm listed fieldsUnder
  · rw [fieldsHeld.otherVariable _ (mt (mem_fieldNames (fun _ => rfl) _).mp none),
      ownStays name (fieldSuffix name listed)]
    exact defines.absent name listed none

/-- A sheet whose inputs were checked is written to a new file, which then holds it. -/
theorem exists_writeSheet (storable : sheet.Storable) (keeps : KeepsSheetNames group)
    (checked : sheet.check = .ok ()) (named : sheet.name = .text name) (keptName : KeptText name)
    (extent : sheet.modelExtent = .int modelExtent) (extentWord : IsWord modelExtent)
    (heights : sheet.heightPoints = .int heightPoints) (heightsWord : IsWord heightPoints) :
    ∃ archive, (writeSheet sheet group).outcome {} = (.ok (), archive) ∧
      archive.HoldsSheet group sheet
        (sheetTags sheet.variant name modelExtent heightPoints) := by
  have fit := fieldsFit_of_check storable checked
  have written := written_of_storable storable group
  obtain ⟨defined, defines, early⟩ := exists_defineSheet keeps written fit
    (keptEntry_sheetTags sheet.variant keptName extentWord heightsWord)
    (nodup_sheetTags sheet.variant name modelExtent heightPoints)
  obtain ⟨archive, holds, late⟩ := defines.exists_write keeps written fit
  refine ⟨archive, ?_, holds⟩
  rw [writeSheet, annotateSheet_eq named extent extentWord heights heightsWord]
  exact (early _).trans late

end Writing

/-! ### Reading -/

omit [Scalar α] in
/-- A field over no ice data points has the shape of a vector without items. -/
theorem fieldShape_fieldHeld (fit : FieldsFit fields count) (group : String)
    {field : String × List Nat × Column α} (member : field ∈ fields) :
    fieldShape (fieldHeld group field).2 = field.2.1 := by
  obtain ⟨_, shape, length⟩ := fit field member
  rw [fieldShape, fieldHeld, shape, length]
  split
  next empty => rw [empty]
  next => rfl

theorem lookup_sheetTags (variant : Parameterization) (name : String)
    (modelExtent heightPoints : Int) :
    let tags := sheetTags variant name modelExtent heightPoints
    tags.lookup "parameterization" = some (.text (tagText variant)) ∧
      tags.lookup "nhp" = some (.short heightPoints) ∧
      tags.lookup "n1" = some (.short modelExtent) ∧
      tags.lookup "name" = if name.isEmpty then none else some (.text name) := by
  unfold sheetTags
  by_cases empty : name.isEmpty = true
  · simp only [empty, if_true]
    exact ⟨rfl, rfl, rfl, rfl⟩
  · simp only [empty, if_false, Bool.false_eq_true]
    exact ⟨rfl, rfl, rfl, rfl⟩

namespace HoldsSheet

variable {archive : Archive α} {tags : List (String × Attribute)}

/-- The elevations are read as they were written. -/
theorem elevation (holds : archive.HoldsSheet group sheet tags)
    (fit : FieldsFit (sheetFields sheet) count) :
    ((archive.dataset.get? (qualified group "elev2")).map fun var =>
      Tensor.mk (fieldShape var) var.column.toReals) = sheet.elevation := by
  cases raised : sheet.elevation with
  | none =>
      have absent : "elev2" ∉ (sheetFields sheet).map (·.1) := by
        unfold sheetFields
        cases sheet.mask <;> simp [raised]
      rw [holds.absent "elev2" (by simp) absent]
      rfl
  | some elevation =>
      have member : ("elev2", elevation.shape, Column.reals elevation.items) ∈
          sheetFields sheet := by simp [sheetFields, raised]
      rw [holds.fields _ member, Option.map_some, fieldShape_fieldHeld fit group member]
      rfl

end HoldsSheet

/-- The mask is read as it was written, as ones and zeros. -/
theorem HoldsSheet.mask {sheet : Sheet (Grid Rat) Rat} {archive : Archive Rat}
    {tags : List (String × Attribute)} (holds : archive.HoldsSheet group sheet tags)
    (fit : FieldsFit (sheetFields sheet) count) :
    ((archive.dataset.get? (qualified group "mask2")).map fun var =>
      Tensor.mk (fieldShape var) (var.column.toReals.map fun x => !Scalar.isZero x)) =
        sheet.mask := by
  cases masked : sheet.mask with
  | none =>
      have absent : "mask2" ∉ (sheetFields sheet).map (·.1) := by
        unfold sheetFields
        cases sheet.elevation <;> simp [masked]
      rw [holds.absent "mask2" (by simp) absent]
      rfl
  | some mask =>
      have member : ("mask2", mask.shape, Column.integers .int8
          (mask.items.map fun masked => if masked then 1 else 0)) ∈ sheetFields sheet := by
        simp [sheetFields, masked]
      have items : ∀ masked : Bool,
          (!Scalar.isZero (Scalar.ofInt (if masked then 1 else 0) : Rat)) = masked := by decide
      rw [holds.fields _ member, Option.map_some, fieldShape_fieldHeld fit group member]
      simp only [fieldHeld, Column.toReals, List.map_map, Function.comp_def, items, List.map_id']

/-- A sheet that a file holds is read with the meshes in the order of their keys. -/
theorem HoldsSheet.readSheet {sheet : Sheet (Grid Rat) Rat} {archive : Archive Rat}
    (holds : archive.HoldsSheet group sheet (sheetTags sheet.variant name modelExtent heightPoints))
    (fit : FieldsFit (sheetFields sheet) count)
    (written : ∀ entry ∈ sheetGrids sheet group, (Contents.shown entry.2).WrittenFor entry.2)
    (classifier : Option (HeightClassifier Rat)) :
    archive.readSheet group classifier = .ok
      { variant := sheet.variant, name := .text name
        iceMesh := (Contents.shown sheet.iceMesh).mesh
        exchangeMesh := (Contents.shown sheet.exchangeMesh).mesh
        modelExtent := .int modelExtent, heightPoints := .int heightPoints
        mask := sheet.mask, elevation := sheet.elevation, classifier } := by
  obtain ⟨parameterization, nhp, n1, label⟩ :=
    lookup_sheetTags sheet.variant name modelExtent heightPoints
  have iceListed : (iceGroup group, sheet.iceMesh) ∈ sheetGrids sheet group := by simp [sheetGrids]
  have exchangeListed : (exchangeGroup group, sheet.exchangeMesh) ∈ sheetGrids sheet group := by
    simp [sheetGrids]
  have iceRead := (holds.grids _ iceListed).readGrid (written _ iceListed)
  have exchangeRead := (holds.grids _ exchangeListed).readGrid (written _ exchangeListed)
  have mask := holds.mask fit
  have elevation := holds.elevation fit
  have tag : readTag (Attribute.held (.text (tagText sheet.variant))).value
      (fun _ => (Attribute.held (.text (tagText sheet.variant))).shownWhole) =
        .ok sheet.variant := by
    cases sheet.variant <;> rfl
  rw [iceGroup] at iceRead
  rw [exchangeGroup] at exchangeRead
  rw [qualified] at mask elevation
  have tagRead : wrapValue (Error.sheetParameterization group)
      (readTag (Attribute.held (.text (tagText sheet.variant))).value
        fun _ => (Attribute.held (.text (tagText sheet.variant))).shownWhole) =
        .ok sheet.variant := by rw [tag]; rfl
  rw [Archive.readSheet, holds.info]
  simp only [get?_sheetInfo, parameterization, nhp, n1, label, Option.map_some, bind, Except.bind,
    tagRead, iceRead, exchangeRead, mask, elevation]
  by_cases empty : name.isEmpty = true
  · rw [if_pos empty, String.isEmpty_iff.mp empty]
    rfl
  · rw [if_neg empty]
    rfl

end Archive
end Regrid
