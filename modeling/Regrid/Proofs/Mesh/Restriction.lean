import Regrid.Proofs.Mesh.Soundness

/-!
Contract: a mesh restricted to some of its cells, as a function of the mesh.

Owns:
- tables and meshes that hold fewer entries in the same key space;
- that filtering the cells of a mesh answers with the restricted mesh;
- that restricting twice is restricting once, by both tests.

Does not own: the tests, and meshes that share their cells.
-/

namespace Regrid

open Attempt

/-! ### Tables -/

namespace Table

variable {ι : Type}

/-- The entries that pass a test, in the whole key space of the table. -/
def restricted (keeps : Int → ι → Bool) (table : Table ι) : Table ι where
  entries := table.entries.filter fun entry => keeps entry.1 entry.2
  top := topOf ((table.entries.filter fun entry => keeps entry.1 entry.2).map (·.1))
  fixedExtent := some table.extent

@[simp]
theorem extent_restricted (keeps : Int → ι → Bool) (table : Table ι) :
    (table.restricted keeps).extent = table.extent := rfl

theorem restrict_freeze (keep : Int → Bool) (table : Table ι) :
    table.freeze.restrict keep = table.restricted fun key _ => keep key := rfl

theorem restricted_congr {table : Table ι} {first second : Int → ι → Bool}
    (agree : ∀ entry ∈ table.entries, first entry.1 entry.2 = second entry.1 entry.2) :
    table.restricted first = table.restricted second := by
  have same : (table.entries.filter fun entry => first entry.1 entry.2) =
      table.entries.filter fun entry => second entry.1 entry.2 := List.filter_congr agree
  simp only [restricted, same]

theorem restricted_restricted (first second : Int → ι → Bool) (table : Table ι) :
    (table.restricted first).restricted second =
      table.restricted fun key item => first key item && second key item := by
  have same : ((table.restricted first).entries.filter fun entry => second entry.1 entry.2) =
      table.entries.filter fun entry => first entry.1 entry.2 && second entry.1 entry.2 := by
    rw [restricted, List.filter_filter]
    exact List.filter_congr fun entry _ => Bool.and_comm ..
  rw [restricted, same, extent_restricted]
  rfl

theorem items_restricted (test : ι → Bool) (table : Table ι) :
    (table.restricted fun _ item => test item).items = table.items.filter test := by
  simp only [items, restricted, List.filter_map]
  rfl

theorem keys_restricted (test : Int → Bool) (table : Table ι) :
    (table.restricted fun key _ => test key).keys = table.keys.filter test := by
  simp only [keys, restricted, List.filter_map]
  rfl

theorem keys_restricted_sublist (keeps : Int → ι → Bool) (table : Table ι) :
    (table.restricted keeps).keys.Sublist table.keys :=
  List.filter_sublist.map _

end Table

/-! ### Meshes -/

/-- The key that a reference names, if there can be one. -/
def Value.name? (reference : Value) : Option Int := reference.integerKey?.toOption.bind id

namespace Mesh

variable {ν κ : Type} {mesh : Mesh ν κ} {references : κ → List Value}

/-- The cells that pass a test and the vertices that they refer to, in the whole domain of the
mesh. -/
def restricted (references : κ → List Value) (keeps : Int → κ → Bool) (mesh : Mesh ν κ) :
    Mesh ν κ :=
  { mesh with
    vertices := mesh.vertices.restricted fun key _ => mesh.cells.entries.any fun entry =>
      keeps entry.1 entry.2 && (references entry.2).any (·.name? = some key)
    cells := mesh.cells.restricted keeps }

@[simp]
theorem fieldLength_restricted (references : κ → List Value) (keeps : Int → κ → Bool)
    (mesh : Mesh ν κ) : (mesh.restricted references keeps).fieldLength = mesh.fieldLength := by
  cases kind : mesh.parameterization <;> simp only [fieldLength, restricted, kind] <;> rfl

theorem restricted_restricted (first second : Int → κ → Bool) :
    (mesh.restricted references first).restricted references second =
      mesh.restricted references fun key cell => first key cell && second key cell := by
  simp only [restricted, Table.restricted_restricted, mk.injEq, true_and]
  refine ⟨Table.restricted_congr fun entry _ => ?_, trivial⟩
  -- what both tests accept is needed by cells that the first one accepts
  rw [Bool.eq_iff_iff]
  simp only [Table.restricted, Bool.and_eq_true, List.any_eq_true, List.mem_filter]
  constructor
  · rintro ⟨_, other, ⟨member, one⟩, two, named⟩
    exact ⟨other, member, ⟨one, two⟩, named⟩
  · rintro ⟨other, member, ⟨one, two⟩, named⟩
    exact ⟨⟨other, member, one, named⟩, other, ⟨member, one⟩, two, named⟩

/-- The cells that a test accepts, with the keys that they refer to. -/
theorem exists_picked {accept : Int → Except Error Bool} {keeps : Int → κ → Bool}
    (answers : ∀ entry ∈ mesh.cells.entries, accept entry.1 = .ok (keeps entry.1 entry.2))
    (known : ∀ cell ∈ mesh.cells.items, ∀ reference ∈ references cell,
      ∃ key, reference.integerKey? = .ok key) :
    ∃ kept : List (Int × List (Option Int)),
      mesh.cells.entries.filterMapM (fun entry => do
        if ← accept entry.1 then
          return some (entry.1, ← (references entry.2).mapM Value.integerKey?)
        else return none) = .ok kept ∧
      ∀ key names, (key, names) ∈ kept ↔ ∃ cell, (key, cell) ∈ mesh.cells.entries ∧
        keeps key cell = true ∧ (references cell).map Value.name? = names := by
  have named : ∀ cell ∈ mesh.cells.items, (references cell).mapM Value.integerKey? =
      .ok ((references cell).map Value.name?) := by
    intro cell member
    refine (mapM_eq_ok_iff ..).mpr (List.forall₂_map_right_iff.mpr (List.forall₂_same.mpr ?_))
    intro reference referenceMember
    obtain ⟨key, read⟩ := known cell member reference referenceMember
    rw [Value.name?, read]
    rfl
  refine ⟨mesh.cells.entries.filterMap fun entry => if keeps entry.1 entry.2 then
    some (entry.1, (references entry.2).map Value.name?) else none,
    filterMapM_of_ok fun entry member => ?_, fun key names => ?_⟩
  · rw [answers entry member, named _ (Table.mem_items_of_mem member)]
    cases keeps entry.1 entry.2 <;> rfl
  · simp only [List.mem_filterMap, Option.ite_none_right_eq_some, Option.some.injEq,
      Prod.mk.injEq, Prod.exists]
    constructor
    · rintro ⟨_, cell, member, accepted, rfl, same⟩
      exact ⟨cell, member, accepted, same⟩
    · rintro ⟨cell, member, accepted, same⟩
      exact ⟨key, cell, member, accepted, rfl, same⟩

/-- A test that answers on every cell picks the restricted mesh, if references can be looked
up. -/
theorem restrict_freeze_eq_ok {accept : Int → Except Error Bool} {keeps : Int → κ → Bool}
    (answers : ∀ entry ∈ mesh.cells.entries, accept entry.1 = .ok (keeps entry.1 entry.2))
    (known : ∀ cell ∈ mesh.cells.items, ∀ reference ∈ references cell,
      ∃ key, reference.integerKey? = .ok key) :
    mesh.freeze.restrict references accept = .ok (mesh.restricted references keeps) := by
  obtain ⟨kept, picked, mem_kept⟩ := exists_picked answers known
  have cells : mesh.freeze.cells.restrict (kept.map (·.1)).contains =
      mesh.cells.restricted keeps := by
    refine (Table.restrict_freeze ..).trans (Table.restricted_congr fun entry member => ?_)
    rw [Bool.eq_iff_iff, List.contains_iff_mem]
    constructor
    · intro listed
      obtain ⟨⟨_, names⟩, keptMember, rfl⟩ := List.mem_map.mp listed
      obtain ⟨cell, cellMember, accepted, _⟩ := (mem_kept _ _).mp keptMember
      -- the test knows only the key, so it answers alike on cells of one key
      have alike := (answers _ cellMember).symm.trans (answers entry member)
      rw [← Except.ok.inj alike]
      exact accepted
    · intro accepted
      exact List.mem_map.mpr ⟨_, (mem_kept _ _).mpr ⟨entry.2, member, accepted, rfl⟩, rfl⟩
  have vertices : mesh.freeze.vertices.restrict
      (kept.flatMap fun entry => entry.2.filterMap id).contains =
      mesh.vertices.restricted fun key _ => mesh.cells.entries.any fun entry =>
        keeps entry.1 entry.2 && (references entry.2).any (·.name? = some key) := by
    refine (Table.restrict_freeze ..).trans (Table.restricted_congr fun entry _ => ?_)
    rw [Bool.eq_iff_iff, List.contains_iff_mem]
    simp only [List.mem_flatMap, List.mem_filterMap, List.any_eq_true, Bool.and_eq_true,
      decide_eq_true_eq, id]
    constructor
    · rintro ⟨⟨cellKey, names⟩, keptMember, _, nameMember, rfl⟩
      obtain ⟨cell, cellMember, accepted, rfl⟩ := (mem_kept _ _).mp keptMember
      obtain ⟨reference, referenceMember, same⟩ := List.mem_map.mp nameMember
      exact ⟨(cellKey, cell), cellMember, accepted, reference, referenceMember, same⟩
    · rintro ⟨⟨cellKey, cell⟩, cellMember, accepted, reference, referenceMember, same⟩
      exact ⟨(cellKey, _), (mem_kept _ _).mpr ⟨cell, cellMember, accepted, rfl⟩, some entry.1,
        List.mem_map.mpr ⟨reference, referenceMember, same⟩, rfl⟩
  have done : mesh.freeze.restrict references accept = .ok (mesh.freeze.keep (kept.map (·.1))
      (kept.flatMap fun entry => entry.2.filterMap id)) :=
    bind_eq_ok_iff.mpr ⟨kept, picked, rfl⟩
  rw [done, keep, cells, vertices]
  rfl

end Mesh

end Regrid
