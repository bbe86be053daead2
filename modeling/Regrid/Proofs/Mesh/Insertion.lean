import Regrid.Proofs.Mesh.Soundness

/-!
Contract: inserting rows one after the other succeeds exactly for rows that fit together.

Owns:
- the table that rows in their order make;
- when all rows are admitted, for vertices and for cells;
- when an extent can be fixed.

Does not own: where rows come from.
-/

namespace Regrid

open Attempt

variable {ι ν κ : Type}

/-! ### Rows of a table -/

def Table.append (rows : List (Int × ι)) (table : Table ι) : Table ι :=
  { table with
    entries := table.entries ++ rows
    top := (rows.map (·.1)).foldl max table.top }

theorem Table.append_nil (table : Table ι) : table.append [] = table := by
  simp [Table.append]

theorem Table.append_cons (row : Int × ι) (rest : List (Int × ι)) (table : Table ι) :
    table.append (row :: rest) = (table.push row.1 row.2).append rest := by
  simp [Table.append, Table.push]

def Table.insert (kind : EntityKind) (table : Table ι) (row : Int × ι) :
    Except Error (Table ι) := do
  table.checkKey kind row.1
  return table.push row.1 row.2

theorem Table.insert_eq_ok_iff (kind : EntityKind) {table : Table ι}
    (unfixed : table.fixedExtent = none) (row : Int × ι) (next : Table ι) :
    Table.insert kind table row = .ok next ↔
      0 ≤ row.1 ∧ row.1 ∉ table.keys ∧ next = table.push row.1 row.2 := by
  have admitted := Table.checkKey_eq_ok_iff kind table row.1
  simp only [unfixed, reduceCtorEq, false_implies, implies_true, true_and] at admitted
  rw [Table.insert, bind_eq_ok_iff, ← and_assoc, ← admitted]
  constructor
  · rintro ⟨_, checked, same⟩
    exact ⟨checked, (Except.ok.inj same).symm⟩
  · rintro ⟨checked, rfl⟩
    exact ⟨(), checked, rfl⟩

/-- Rows are inserted when their keys are natural, different, and new to the table. -/
theorem Table.foldlM_insert_eq_ok_iff (kind : EntityKind) (rows : List (Int × ι))
    {table : Table ι} (unfixed : table.fixedExtent = none) (filled : Table ι) :
    rows.foldlM (Table.insert kind) table = .ok filled ↔
      (rows.map (·.1)).Nodup ∧ (∀ row ∈ rows, 0 ≤ row.1 ∧ row.1 ∉ table.keys) ∧
        filled = table.append rows := by
  induction rows generalizing table with
  | nil => simp [Table.append_nil, pure, Except.pure, eq_comm]
  | cons row rest inductionHypothesis =>
      have pushed : (table.push row.1 row.2).fixedExtent = none := unfixed
      have later := inductionHypothesis pushed
      rw [List.foldlM_cons, bind_eq_ok_iff, Table.append_cons, List.map_cons, List.nodup_cons,
        List.forall_mem_cons]
      constructor
      · rintro ⟨_, first, others⟩
        obtain ⟨natural, new, rfl⟩ := (Table.insert_eq_ok_iff kind unfixed ..).mp first
        obtain ⟨distinct, fits, same⟩ := later.mp others
        simp only [Table.keys_push, List.mem_append, List.mem_singleton, not_or] at fits
        refine ⟨⟨?_, distinct⟩, ⟨⟨natural, new⟩, fun other member => ?_⟩, same⟩
        · intro repeated
          obtain ⟨other, member, same⟩ := List.mem_map.mp repeated
          exact (fits other member).2.2 same
        · exact ⟨(fits other member).1, (fits other member).2.1⟩
      · rintro ⟨⟨fresh, distinct⟩, ⟨⟨natural, new⟩, fits⟩, same⟩
        refine ⟨_, (Table.insert_eq_ok_iff kind unfixed ..).mpr ⟨natural, new, rfl⟩,
          later.mpr ⟨distinct, fun other member => ?_, same⟩⟩
        simp only [Table.keys_push, List.mem_append, List.mem_singleton, not_or]
        refine ⟨(fits other member).1, (fits other member).2, fun repeated => ?_⟩
        exact fresh (List.mem_map.mpr ⟨other, member, repeated⟩)

/-- An extent can be fixed when it is natural and lies above the largest key. -/
theorem Table.fixExtent_eq_ok_iff (kind : EntityKind) (extent : Int)
    (table fixed : Table ι) :
    table.fixExtent kind (.int extent) = .ok fixed ↔
      0 ≤ extent ∧ table.top < extent ∧ fixed = { table with fixedExtent := some extent } := by
  rw [Table.fixExtent_int]
  split
  next negative => simp; omega
  next natural =>
    split
    next small => simp; omega
    next large =>
      rw [Except.ok.injEq, eq_comm]
      exact ⟨fun same => ⟨by omega, by omega, same⟩, fun fits => fits.2.2⟩

/-! ### Rows of a mesh -/

namespace Mesh

theorem insertVertex_eq_ok_iff (mesh : Mesh ν κ) (index : Int) (vertex : ν)
    (inserted : Mesh ν κ) :
    mesh.insertVertex index vertex = .ok inserted ↔
      mesh.vertices.checkKey .vertex index = .ok () ∧
        inserted = { mesh with vertices := mesh.vertices.push index vertex } := by
  rw [Mesh.insertVertex, bind_eq_ok_iff]
  constructor
  · rintro ⟨_, admitted, same⟩
    exact ⟨admitted, (Except.ok.inj same).symm⟩
  · rintro ⟨admitted, rfl⟩
    exact ⟨(), admitted, rfl⟩

theorem foldlM_insertVertex_eq_ok_iff (rows : List (Int × ν)) (mesh filled : Mesh ν κ) :
    rows.foldlM (fun mesh row => mesh.insertVertex row.1 row.2) mesh = .ok filled ↔
      ∃ table, rows.foldlM (Table.insert .vertex) mesh.vertices = .ok table ∧
        filled = { mesh with vertices := table } := by
  induction rows generalizing mesh with
  | nil => simp [pure, Except.pure, eq_comm]
  | cons row rest inductionHypothesis =>
      simp only [List.foldlM_cons, bind_eq_ok_iff, inductionHypothesis,
        insertVertex_eq_ok_iff, Table.insert]
      constructor
      · rintro ⟨_, ⟨admitted, rfl⟩, table, done, rfl⟩
        exact ⟨table, ⟨_, ⟨(), admitted, rfl⟩, done⟩, rfl⟩
      · rintro ⟨table, ⟨_, ⟨_, admitted, same⟩, done⟩, rfl⟩
        cases same
        exact ⟨_, ⟨admitted, rfl⟩, table, done, rfl⟩

/-- The vertices that cells refer to do not change while cells are inserted. -/
theorem foldlM_insertCell_eq_ok_iff (references : κ → List Value) (rows : List (Int × κ))
    (mesh filled : Mesh ν κ) :
    rows.foldlM (fun mesh row => mesh.insertCell (references row.2) row.1 row.2) mesh =
        .ok filled ↔
      (∀ row ∈ rows, ∀ reference ∈ references row.2, mesh.Names reference) ∧
        ∃ table, rows.foldlM (Table.insert .cell) mesh.cells = .ok table ∧
          filled = { mesh with cells := table } := by
  induction rows generalizing mesh with
  | nil => simp [pure, Except.pure, eq_comm]
  | cons row rest inductionHypothesis =>
      simp only [List.foldlM_cons, bind_eq_ok_iff, inductionHypothesis, Table.insert,
        Mesh.insertCell_eq_ok_iff, List.forall_mem_cons]
      constructor
      · rintro ⟨_, ⟨admitted, named, rfl⟩, others, table, done, rfl⟩
        exact ⟨⟨named, others⟩, table, ⟨_, ⟨(), admitted, rfl⟩, done⟩, rfl⟩
      · rintro ⟨⟨named, others⟩, table, ⟨_, ⟨_, admitted, same⟩, done⟩, rfl⟩
        cases same
        exact ⟨_, ⟨admitted, named, rfl⟩, others, table, done, rfl⟩

/-! ### Extents -/

theorem fixExtent_cell_eq_ok_iff (extent : Int) (mesh fixed : Mesh ν κ) :
    mesh.fixExtent .cell (.int extent) = .ok fixed ↔
      0 ≤ extent ∧ mesh.cells.top < extent ∧
        fixed = { mesh with cells := { mesh.cells with fixedExtent := some extent } } := by
  simp only [Mesh.fixExtent, bind_eq_ok_iff, Table.fixExtent_eq_ok_iff]
  constructor
  · rintro ⟨_, ⟨natural, above, rfl⟩, same⟩
    exact ⟨natural, above, (Except.ok.inj same).symm⟩
  · rintro ⟨natural, above, rfl⟩
    exact ⟨_, ⟨natural, above, rfl⟩, rfl⟩

theorem fixExtent_vertex_eq_ok_iff (extent : Int) (mesh fixed : Mesh ν κ) :
    mesh.fixExtent .vertex (.int extent) = .ok fixed ↔
      0 ≤ extent ∧ mesh.vertices.top < extent ∧
        fixed = { mesh with vertices := { mesh.vertices with fixedExtent := some extent } } := by
  simp only [Mesh.fixExtent, bind_eq_ok_iff, Table.fixExtent_eq_ok_iff]
  constructor
  · rintro ⟨_, ⟨natural, above, rfl⟩, same⟩
    exact ⟨natural, above, (Except.ok.inj same).symm⟩
  · rintro ⟨natural, above, rfl⟩
    exact ⟨_, ⟨natural, above, rfl⟩, rfl⟩

end Mesh

end Regrid
