import Regrid.Proofs.Refusal
import Regrid.Proofs.Store.Acceptance

/-!
Contract: the kinds of refusal with which the reading of a dataset ends.

Owns:
- the refusals of each reader, and which of them reach the caller without being said to concern
  a stored mesh;
- a version that is no integer, whose refusal is one of these.

Does not own: which datasets are read.

A reader of tables refuses what is malformed, what refers to an absent vertex and what occurs
twice, each with a kind of its own. A stretch that is guarded turns the refusal of a value into
the first of these kinds. The version, the projection and the name are read outside such a
stretch, and a guard passes on what is no refusal of a value.
-/

namespace Regrid

open Attempt

/-! ### Insertion -/

section Insertion

variable {ι ν κ : Type}

theorem Table.checkKey_refusesWith (kind : EntityKind) (table : Table ι) (key : Int) :
    RefusesWith [.value, .repeatedIndex] (table.checkKey kind key) := by
  unfold Table.checkKey
  split
  · exact refusesWith_error (.head _)
  · split
    · split
      · exact refusesWith_error (.head _)
      · split
        · exact refusesWith_error (.tail _ (.head _))
        · exact refusesWith_ok ()
    · split
      · exact refusesWith_error (.tail _ (.head _))
      · exact refusesWith_ok ()

theorem Mesh.insertVertex_refusesWith (mesh : Mesh ν κ) (index : Int) (vertex : ν) :
    RefusesWith [.value, .repeatedIndex] (mesh.insertVertex index vertex) :=
  refusesWith_bind (Table.checkKey_refusesWith _ _ _) fun _ => refusesWith_ok _

/-- References that are integers are always looked up. -/
theorem Mesh.dangling?_refusesWith (mesh : Mesh ν κ) (references : List Int) :
    RefusesWith [] (mesh.dangling? (references.map .int)) := by
  induction references with
  | nil => exact refusesWith_ok _
  | cons reference rest inductionHypothesis =>
      rw [List.map_cons, Mesh.dangling?]
      refine refusesWith_bind (refusesWith_bind (refusesWith_ok _) fun _ => refusesWith_ok _) ?_
      rintro (_ | key)
      · exact refusesWith_ok _
      · exact inductionHypothesis

theorem Mesh.insertCell_refusesWith (mesh : Mesh ν κ) (references : List Int) (index : Int)
    (cell : κ) : RefusesWith [.value, .repeatedIndex, .danglingReference]
      (mesh.insertCell (references.map .int) index cell) := by
  refine refusesWith_bind ((Table.checkKey_refusesWith _ _ _).mono (by simp)) fun _ =>
    refusesWith_bind ((mesh.dangling?_refusesWith references).mono (by simp)) ?_
  rintro (_ | reference)
  · exact refusesWith_ok _
  · exact refusesWith_error (.tail _ (.tail _ (.head _)))

theorem Table.fixExtent_refusesWith (kind : EntityKind) (table : Table ι) (extent : Int) :
    RefusesWith [.value] (table.fixExtent kind (.int extent)) := by
  unfold Table.fixExtent
  rw [Value.isBelow_int, Value.isAtMost_int]
  refine refusesWith_bind (refusesWith_ok _) fun _ => refusesWith_refuse (.head _) ?_
  refine refusesWith_bind (refusesWith_ok _) fun _ => refusesWith_refuse (.head _) ?_
  exact refusesWith_ok _

theorem Mesh.fixExtent_refusesWith (kind : EntityKind) (mesh : Mesh ν κ) (extent : Int) :
    RefusesWith [.value] (mesh.fixExtent kind (.int extent)) := by
  cases kind with
  | vertex => exact refusesWith_bind (Table.fixExtent_refusesWith _ _ _) fun _ => refusesWith_ok _
  | cell => exact refusesWith_bind (Table.fixExtent_refusesWith _ _ _) fun _ => refusesWith_ok _

end Insertion

namespace GridTables

open Regrid.Schema

variable {α : Type} {keeper : Keeper} {dataset : Dataset α} {group : String} {info : Variable α}

/-! ### Readers -/

/-- The kinds of refusal that concern a stored mesh: it is malformed, refers to an absent vertex or
uses an index twice. -/
def reportedKinds : List ErrorKind := [.format, .danglingReference, .repeatedIndex]

theorem fetch_refusesWith (name : String) :
    RefusesWith [.format] (fetch keeper dataset name) := by
  unfold fetch
  split
  · exact refusesWith_ok _
  · exact refusesWith_error (.head _)

theorem vector_refusesWith (name : String) :
    RefusesWith [.format] (vector keeper dataset name) := by
  refine refusesWith_bind (fetch_refusesWith name) fun var => ?_
  split
  · exact refusesWith_ok _
  · exact refusesWith_error (.head _)

theorem columns_refusesWith (count : Nat) (name : String) :
    RefusesWith [.format] (columns count keeper dataset name) := by
  refine refusesWith_bind (fetch_refusesWith name) fun var => ?_
  split
  · exact refusesWith_ok _
  · split
    · split
      · exact refusesWith_ok _
      · exact refusesWith_error (.head _)
    · exact refusesWith_error (.head _)

theorem wrapValue_eq_error_iff {τ : Type} {wrap : Error → Error} {step : Except Error τ}
    {reason : Error} : wrapValue wrap step = .error reason ↔
      ∃ cause, step = .error cause ∧
        reason = if cause.kind = .value then wrap cause else cause := by
  cases step with
  | ok answer => simp [wrapValue]
  | error cause =>
      simp only [wrapValue, Except.error.injEq, exists_eq_left']
      split <;> simp [eq_comm]

/-- A guarded stretch reports the refusal of a value as a malformed mesh. -/
theorem wrapValue_refusesWith {τ : Type} {wrap : Error → Error} {step : Except Error τ}
    (wrapped : ∀ cause, (wrap cause).kind = .format)
    (refuses : RefusesWith (.value :: reportedKinds) step) :
    RefusesWith reportedKinds (wrapValue wrap step) := by
  intro reason refused
  obtain ⟨cause, early, rfl⟩ := wrapValue_eq_error_iff.mp refused
  by_cases value : cause.kind = .value
  · simp [value, wrapped, reportedKinds]
  · rw [if_neg value]
    exact (List.mem_cons.mp (refuses cause early)).resolve_left value

variable [Scalar α]

theorem readVertices_refusesWith (grid : Grid α) :
    RefusesWith reportedKinds (readVertices keeper group dataset grid) := by
  have format : [ErrorKind.format] ⊆ reportedKinds := by decide
  refine refusesWith_bind ((vector_refusesWith _).mono format) fun index =>
    refusesWith_bind ((columns_refusesWith 2 _).mono format) fun points =>
      refusesWith_refuse (.head _) ?_
  refine wrapValue_refusesWith (fun _ => rfl) (refusesWith_foldlM _ (fun grid row => ?_) _)
  exact (Mesh.insertVertex_refusesWith _ _ _).mono (by simp [reportedKinds])

theorem readCells_refusesWith (tags : Info) (grid : Grid α) :
    RefusesWith reportedKinds (readCells keeper group dataset tags grid) := by
  have format : [ErrorKind.format] ⊆ reportedKinds := by decide
  have value : [ErrorKind.value] ⊆ .value :: reportedKinds := by simp
  refine refusesWith_bind ((vector_refusesWith _).mono format) fun index =>
    refusesWith_bind ((columns_refusesWith 3 _).mono format) fun addresses =>
    refusesWith_bind ((vector_refusesWith _).mono format) fun areas =>
    refusesWith_bind ((vector_refusesWith _).mono format) fun references =>
    refusesWith_bind ((vector_refusesWith _).mono format) fun offsets =>
      refusesWith_refuse (.head _)
        (refusesWith_refuse (.head _) ?_)
  refine wrapValue_refusesWith (fun _ => rfl) (refusesWith_bind
    (refusesWith_foldlM _ (fun grid row => ?_) _) fun filled => refusesWith_bind
      ((Mesh.fixExtent_refusesWith _ _ _).mono value) fun fixed =>
        (Mesh.fixExtent_refusesWith _ _ _).mono value)
  exact (Mesh.insertCell_refusesWith _ _ _ _).mono (by simp [reportedKinds])

omit [Scalar α] in
/-- Texts make a mesh unless planar coordinates come without a projection. -/
theorem create_eq_error_iff {ν κ : Type} (name projection : String) (type : GridType)
    (coordinates : Coordinates) (parameterization : Parameterization) (reason : Error)
    (absent : coordinates = .lonLat → projection = "") :
    (Mesh.create (.text name) type coordinates parameterization (.text projection) :
      Except Error (Mesh ν κ)) = .error reason ↔
        coordinates = .xy ∧ projection = "" ∧
          reason = .projectionMissing (Value.text name).shown := by
  have kept : (Value.text projection).orEmpty = .text projection := Value.orEmpty_text projection
  simp only [Mesh.create, kept, bind_eq_error_iff, pure, Except.pure, reduceCtorEq, and_false,
    exists_false, or_false]
  cases coordinates with
  | xy =>
      by_cases empty : projection = ""
      · subst empty
        constructor
        · intro refused
          exact ⟨rfl, rfl, (Except.error.inj refused).symm⟩
        · rintro ⟨_, _, rfl⟩
          rfl
      · simp [Mesh.validate, Value.isBlankOption, empty]
  | lonLat => simp [Mesh.validate, Value.isBlankOption, absent rfl]

/-! ### The dataset as a whole -/

/-- An attribute outside the guarded stretches is refused, or a guard passes its refusal on: the
version, then an extent, the projection and the name, each reached because all before it
could be read. -/
inductive RefusesAttribute (keeper : Keeper) (group : String) (info : Variable α)
    (reason : Error) : Prop
  | version (refused : infoInteger group info "version" = .error reason)
  | extent {stored : Int} (read : infoInteger group info "version" = .ok stored)
      (known : stored ≤ version) (refused : readInfo keeper group info = .error reason)
      (passed : reason.kind ≠ .value)
  | projection {stored : Int} {tags : Info}
      (read : infoInteger group info "version" = .ok stored) (known : stored ≤ version)
      (tagged : readInfo keeper group info = .ok tags)
      (refused : readProjection group info tags.coordinates = .error reason)
  | name {stored : Int} {tags : Info} {projection : String}
      (read : infoInteger group info "version" = .ok stored) (known : stored ≤ version)
      (tagged : readInfo keeper group info = .ok tags)
      (projected : readProjection group info tags.coordinates = .ok projection)
      (refused : readName keeper info = .error reason)
  | noProjection {stored : Int} {tags : Info} {name : String}
      (read : infoInteger group info "version" = .ok stored) (known : stored ≤ version)
      (tagged : readInfo keeper group info = .ok tags) (planar : tags.coordinates = .xy)
      (projected : readProjection group info tags.coordinates = .ok "")
      (named : readName keeper info = .ok name)
      (same : reason = .projectionMissing (Value.text name).shown)

/-- A refusal is not reported as one of a stored mesh exactly when it is one of an attribute. -/
theorem decode_refuses_attribute_iff {reason : Error} (bare : reason.kind ∉ reportedKinds) :
    decode keeper dataset group = .error reason ↔
      ∃ info, dataset.get? (infoVariable group) = some info ∧
        RefusesAttribute keeper group info reason := by
  have foreign : ∀ {τ : Type} {step : Except Error τ}, RefusesWith reportedKinds step →
      step ≠ .error reason := fun refuses refused => bare (refuses reason refused)
  have format : [ErrorKind.format] ⊆ reportedKinds := by decide
  have lonLat : ∀ {info : Variable α} {coordinates : Coordinates} {projection : String},
      readProjection group info coordinates = .ok projection →
        coordinates = .lonLat → projection = "" := by
    rintro info coordinates projection read rfl
    exact (Except.ok.inj read).symm
  rw [decode_eq_steps]
  constructor
  · intro refused
    rcases bind_eq_error_iff.mp refused with early | ⟨info, found, refused⟩
    · exact absurd early (foreign ((fetch_refusesWith _).mono format))
    refine ⟨info, (fetch_eq_ok_iff ..).mp found, ?_⟩
    rcases bind_eq_error_iff.mp refused with early | ⟨stored, read, refused⟩
    · exact .version early
    split at refused
    · cases refused
      exact absurd (.head _) bare
    next known =>
    rcases bind_eq_error_iff.mp refused with early | ⟨tags, tagged, refused⟩
    · obtain ⟨cause, inner, rfl⟩ := wrapValue_eq_error_iff.mp early
      by_cases value : cause.kind = .value
      · rw [if_pos value] at bare
        exact absurd (.head _) bare
      · rw [if_neg value]
        exact .extent read (Int.not_lt.mp known) inner value
    have tagged := (wrapValue_eq_ok_iff ..).mp tagged
    rcases bind_eq_error_iff.mp refused with early | ⟨projection, projected, refused⟩
    · exact .projection read (Int.not_lt.mp known) tagged early
    rcases bind_eq_error_iff.mp refused with early | ⟨name, named, refused⟩
    · exact .name read (Int.not_lt.mp known) tagged projected early
    rcases bind_eq_error_iff.mp refused with early | ⟨grid, _, refused⟩
    · obtain ⟨planar, rfl, same⟩ :=
        (create_eq_error_iff name projection _ _ _ reason (lonLat projected)).mp early
      exact .noProjection read (Int.not_lt.mp known) tagged planar projected named same
    · exact absurd refused (foreign (refusesWith_bind (readVertices_refusesWith grid)
        fun filled => readCells_refusesWith tags filled))
  · rintro ⟨info, found, refuses⟩
    refine bind_eq_error_iff.mpr (.inr ⟨info, (fetch_eq_ok_iff ..).mpr found, ?_⟩)
    cases refuses with
    | version refused => exact bind_eq_error_iff.mpr (.inl refused)
    | extent read known refused passed =>
        refine bind_eq_error_iff.mpr (.inr ⟨_, read, ?_⟩)
        rw [if_neg (Int.not_lt.mpr known)]
        exact bind_eq_error_iff.mpr
          (.inl (wrapValue_eq_error_iff.mpr ⟨reason, refused, (if_neg passed).symm⟩))
    | projection read known tagged refused =>
        refine bind_eq_error_iff.mpr (.inr ⟨_, read, ?_⟩)
        rw [if_neg (Int.not_lt.mpr known)]
        refine bind_eq_error_iff.mpr (.inr ⟨_, (wrapValue_eq_ok_iff ..).mpr tagged, ?_⟩)
        exact bind_eq_error_iff.mpr (.inl refused)
    | name read known tagged projected refused =>
        refine bind_eq_error_iff.mpr (.inr ⟨_, read, ?_⟩)
        rw [if_neg (Int.not_lt.mpr known)]
        refine bind_eq_error_iff.mpr (.inr ⟨_, (wrapValue_eq_ok_iff ..).mpr tagged, ?_⟩)
        exact bind_eq_error_iff.mpr (.inr ⟨_, projected, bind_eq_error_iff.mpr (.inl refused)⟩)
    | noProjection read known tagged planar projected named same =>
        refine bind_eq_error_iff.mpr (.inr ⟨_, read, ?_⟩)
        rw [if_neg (Int.not_lt.mpr known)]
        refine bind_eq_error_iff.mpr (.inr ⟨_, (wrapValue_eq_ok_iff ..).mpr tagged, ?_⟩)
        exact bind_eq_error_iff.mpr (.inr ⟨_, projected, bind_eq_error_iff.mpr (.inr ⟨_, named,
          bind_eq_error_iff.mpr (.inl ((create_eq_error_iff _ "" _ _ _ reason fun _ => rfl).mpr
            ⟨planar, rfl, same⟩))⟩)⟩)

/-! ### Attributes that are read without refusal -/

/-- What is read outside the guarded stretches can be read where it is present, and an extent is
refused as a value if at all. Only planar coordinates ask for a projection. -/
structure ReadableAttributes (keeper : Keeper) (group : String) (info : Variable α) : Prop where
  version : ∀ stored, info.get? "version" = some stored →
    ∃ n, stored.unwrapped.value.toInteger = .ok n
  extents : ∀ key ∈ [InfoKey.cellExtent, .vertexExtent], ∀ stored,
    info.get? key.name = some stored → RefusesWith [.value] stored.unwrapped.value.toInteger
  projection : infoTag keeper group info .coordinates = .ok Coordinates.xy → ∀ stored,
    info.get? InfoKey.projection.name = some stored →
      ∃ text, stored.unwrapped.value.writable = .ok text ∧ text ≠ ""
  name : ∀ stored, info.get? "name" = some stored → ∃ text, keeper.labelOf stored = .ok text

omit [Scalar α]

theorem infoValue_refusesWith (key : String) :
    RefusesWith [.format] (infoValue group info key) := by
  unfold infoValue
  split
  · exact refusesWith_ok _
  · exact refusesWith_error (.head _)

theorem readTag_refusesWith {τ : Type} [TagFamily τ] (value : Value) (shown : Value → String) :
    RefusesWith [.value] (readTag value shown : Except Error τ) := by
  refine refusesWith_bind ?_ fun written => ?_
  · unfold Value.writable
    simp only []
    split
    · exact refusesWith_error (.head _)
    · exact refusesWith_ok _
  · split
    · exact refusesWith_ok _
    · exact refusesWith_error (.head _)

theorem infoTag_refusesWith {τ : Type} [TagFamily τ] (key : InfoKey) :
    RefusesWith [.value, .format] (infoTag keeper group info key : Except Error τ) :=
  refusesWith_bind ((infoValue_refusesWith _).mono (by simp)) fun _ =>
    (readTag_refusesWith _ _).mono (by simp)

theorem infoInteger_refusesWith {key : String} {kinds : List ErrorKind}
    (refuses : ∀ stored, info.get? key = some stored →
      RefusesWith kinds stored.unwrapped.value.toInteger) :
    RefusesWith (.format :: kinds) (infoInteger group info key) := by
  intro reason refused
  rcases bind_eq_error_iff.mp refused with early | ⟨value, read, late⟩
  · exact List.mem_cons.mpr (.inl (List.mem_singleton.mp (infoValue_refusesWith key reason early)))
  · obtain ⟨stored, present, rfl⟩ := (infoValue_eq_ok_iff ..).mp read
    exact List.mem_cons_of_mem _ (refuses stored present reason late)

/-- The tags and extents are refused as values, or one of them is absent. -/
theorem ReadableAttributes.readInfo_refusesWith (readable : ReadableAttributes keeper group info) :
    RefusesWith [.value, .format] (readInfo keeper group info) := by
  have extent : ∀ key ∈ [InfoKey.cellExtent, .vertexExtent],
      RefusesWith [.value, .format] (infoInteger group info key.name) := fun key member =>
    (infoInteger_refusesWith (readable.extents key member)).mono (by simp)
  exact refusesWith_bind (infoTag_refusesWith _) fun _ => refusesWith_bind (infoTag_refusesWith _)
    fun _ => refusesWith_bind (infoTag_refusesWith _) fun _ =>
      refusesWith_bind (extent .cellExtent (by simp)) fun _ =>
        refusesWith_bind (extent .vertexExtent (by simp)) fun _ => refusesWith_ok _

theorem coordinates_of_readInfo {tags : Info} (tagged : readInfo keeper group info = .ok tags) :
    infoTag keeper group info .coordinates = .ok tags.coordinates := by
  simp only [readInfo, bind_eq_ok_iff] at tagged
  obtain ⟨_, _, _, coordinates, _, _, _, _, _, _, same⟩ := tagged
  cases same
  exact coordinates

/-- A projection that is asked for is absent or is read as a text that is not empty. -/
theorem ReadableAttributes.readProjection (readable : ReadableAttributes keeper group info)
    {coordinates : Coordinates}
    (tagged : infoTag keeper group info .coordinates = .ok coordinates) :
    RefusesWith [.format] (readProjection group info coordinates) ∧
      (coordinates = .xy → readProjection group info coordinates ≠ .ok "") := by
  cases coordinates with
  | lonLat => exact ⟨refusesWith_ok _, nofun⟩
  | xy =>
      refine ⟨fun reason refused => ?_, fun _ read => ?_⟩
      · rcases bind_eq_error_iff.mp refused with early | ⟨value, found, late⟩
        · exact infoValue_refusesWith _ reason early
        · obtain ⟨stored, present, rfl⟩ := (infoValue_eq_ok_iff ..).mp found
          obtain ⟨text, written, _⟩ := readable.projection tagged stored present
          cases written.symm.trans late
      · obtain ⟨value, found, written⟩ := bind_eq_ok read
        obtain ⟨stored, present, rfl⟩ := (infoValue_eq_ok_iff ..).mp found
        obtain ⟨text, kept, filled⟩ := readable.projection tagged stored present
        exact filled (Except.ok.inj (kept.symm.trans written))

theorem ReadableAttributes.readName (readable : ReadableAttributes keeper group info) :
    RefusesWith [] (readName keeper info) := by
  unfold GridTables.readName
  cases present : info.get? "name" with
  | none => exact refusesWith_ok _
  | some stored =>
      obtain ⟨text, read⟩ := readable.name stored present
      simp only [read]
      exact refusesWith_ok text

theorem ReadableAttributes.not_refusesAttribute (readable : ReadableAttributes keeper group info)
    {reason : Error} (bare : reason.kind ∉ reportedKinds) :
    ¬ RefusesAttribute keeper group info reason := by
  have notFormat : reason.kind ≠ .format := fun same => bare (by simp [same, reportedKinds])
  intro refuses
  cases refuses with
  | version refused =>
      have converts : RefusesWith [.format] (infoInteger group info "version") :=
        infoInteger_refusesWith fun stored present => by
          obtain ⟨n, read⟩ := readable.version stored present
          exact read ▸ refusesWith_ok n
      exact notFormat (List.mem_singleton.mp (converts reason refused))
  | extent _ _ refused passed =>
      have listed := readable.readInfo_refusesWith reason refused
      simp [passed, notFormat] at listed
  | projection _ _ tagged refused =>
      have listed := (readable.readProjection (coordinates_of_readInfo tagged)).1 reason refused
      exact notFormat (List.mem_singleton.mp listed)
  | name _ _ _ _ refused => exact nomatch readable.readName reason refused
  | noProjection _ _ tagged planar projected _ _ =>
      exact (readable.readProjection (coordinates_of_readInfo tagged)).2 planar projected

/-- A dataset whose attributes can be read gives a mesh, or it is refused as malformed, for a
reference to an absent vertex or for an index that is used twice. -/
theorem decode_refusal_reported [Scalar α]
    (readable : ∀ info, dataset.get? (infoVariable group) = some info →
      ReadableAttributes keeper group info) :
    (∃ grid, decode keeper dataset group = .ok grid) ∨
      ∃ reason, decode keeper dataset group = .error reason ∧ reason.kind ∈ reportedKinds := by
  cases done : decode keeper dataset group with
  | ok grid => exact .inl ⟨grid, rfl⟩
  | error reason =>
      refine .inr ⟨reason, rfl, ?_⟩
      by_contra bare
      obtain ⟨info, found, refuses⟩ := (decode_refuses_attribute_iff bare).mp done
      exact (readable info found).not_refusesAttribute bare refuses

/-! ### A version that is no integer -/

theorem sampleDataset_attributes {offsets : List Int} {info : Variable Rat}
    (found : (sampleDataset offsets).get? (infoVariable "g") = some info) :
    ReadableAttributes .dataset "g" info where
  version := by
    cases found
    rintro stored ⟨⟩
    exact ⟨1, rfl⟩
  extents := by
    cases found
    intro key member stored present
    simp only [List.mem_cons, List.not_mem_nil, or_false] at member
    rcases member with rfl | rfl <;> cases present <;> exact refusesWith_ok _
  projection := by
    cases found
    rintro tagged stored ⟨⟩
  name := by
    cases found
    rintro stored ⟨⟩

/-- Offsets that do not end at the number of references are reported as malformed. -/
theorem short_offsets_are_reported :
    decode .dataset (sampleDataset [0, 3, 5, 5]) "g" = .error (.offsetsMalformed "g") ∧
      (Error.offsetsMalformed "g").kind ∈ reportedKinds := by
  have refused : decode .dataset (sampleDataset [0, 3, 5, 5]) "g" =
      .error (.offsetsMalformed "g") := rfl
  refine ⟨refused, ?_⟩
  rcases decode_refusal_reported (fun _ found => sampleDataset_attributes found) with
    ⟨grid, done⟩ | ⟨reason, done, reported⟩
  · cases refused.symm.trans done
  · cases refused.symm.trans done
    exact reported

/-- A dataset that is read when its version is a supported number is refused as a value when its
version is a text that is no integer, and nothing says that the mesh is malformed. -/
theorem textual_version_is_a_bare_refusal :
    (∃ grid, decode .dataset (sampleDataset [0, 3, 5, 6]) "g" = .ok grid) ∧
    ∃ dataset, (sampleDataset [0, 3, 5, 6]).change "g.info"
        (·.setAttribute "version" (.text "abc")) = .ok dataset ∧
      decode .dataset dataset "g" = .error (.noInteger (Text.quote "abc")) ∧
      (Error.noInteger (Text.quote "abc")).kind = .value ∧
      (Error.noInteger (Text.quote "abc")).kind ∉ reportedKinds :=
  ⟨⟨_, rfl⟩, _, rfl, rfl, rfl, by decide⟩

end GridTables

end Regrid
