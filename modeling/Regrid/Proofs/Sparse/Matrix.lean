import Regrid.Proofs.Scalar
import Regrid.Proofs.Sparse.Rows
import Regrid.Proofs.Sparse.Total

/-!
Contract: what the rows of a sparse matrix add up to, in exact arithmetic.

Owns:
- the weighted sum of a function of the columns over one stored row;
- assembly, scaling, products and row sums in these terms;
- the columns that stored entries may have.

Does not own: native indices.
-/

namespace Regrid.SparseMatrix

/-- The weighted sum of a function of the columns over a stored row. -/
def weighRow (f : Nat → Rat) (row : List (Nat × Rat)) : Rat :=
  (row.map fun entry => f entry.1 * entry.2).sum

theorem weighRow_addToRow (f : Nat → Rat) (column : Nat) (x : Rat) (row : List (Nat × Rat)) :
    weighRow f (addToRow column x row) = weighRow f row + f column * x := by
  induction row with
  | nil => simp [addToRow, weighRow]
  | cons entry rest inductionHypothesis =>
      simp only [weighRow, List.map_cons, List.sum_cons] at inductionHypothesis ⊢
      unfold addToRow
      split
      · simp only [List.map_cons, List.sum_cons]
        ring
      · split
        next same =>
          subst same
          simp only [List.map_cons, List.sum_cons]
          ring
        next =>
          simp only [List.map_cons, List.sum_cons, inductionHypothesis]
          ring

theorem weighRow_foldl_addToRow (f : Nat → Rat) (entries : List (Nat × Nat × Rat))
    (row : List (Nat × Rat)) :
    weighRow f (entries.foldl (fun row entry => addToRow entry.2.1 entry.2.2 row) row) =
      weighRow f row + entryTotal f entries := by
  induction entries generalizing row with
  | nil => simp [entryTotal]
  | cons entry rest inductionHypothesis =>
      rw [List.foldl_cons, inductionHypothesis, weighRow_addToRow, entryTotal, entryTotal,
        List.map_cons, List.sum_cons, add_assoc]

/-- Each assembled row weighs what the entries of that row weigh. -/
theorem map_weighRow_assemble (f : Nat → Rat) (rowCount columnCount : Nat)
    (entries : List (Nat × Nat × Rat)) :
    (assemble rowCount columnCount entries).rows.map (weighRow f) =
      (List.range rowCount).map (rowTotal f entries) := by
  simp only [assemble, List.map_map]
  refine List.map_congr_left fun r _ => ?_
  rw [Function.comp_apply, weighRow_foldl_addToRow]
  simp [weighRow, rowTotal]

/-! ### Scaling -/

theorem weighRow_scaleRow (f : Nat → Rat) (factor : Rat) (row : List (Nat × Rat)) :
    weighRow f (scaleRow factor row) = factor * weighRow f row := by
  have product : ∀ x : Rat, (Scalar.zero : Rat) + factor * x = factor * x :=
    fun x => zero_add (factor * x)
  have reversed : weighRow f row = weighRow f row.reverse := by simp [weighRow]
  unfold scaleRow
  rw [reversed]
  split
  next vanishes =>
    rw [(Scalar.isZero_rat factor).mp vanishes]
    simp [weighRow]
  next =>
    simp only [product]
    induction row.reverse with
    | nil => simp [weighRow]
    | cons entry rest inductionHypothesis =>
        rw [List.filterMap_cons]
        by_cases vanishes : factor * entry.2 = 0
        · rw [if_pos ((Scalar.isZero_rat _).mpr vanishes)]
          rw [inductionHypothesis, weighRow, weighRow, List.map_cons, List.sum_cons, mul_add,
            mul_left_comm, vanishes, mul_zero, zero_add]
        · rw [if_neg (mt (Scalar.isZero_rat _).mp vanishes)]
          simp only [weighRow, List.map_cons, List.sum_cons] at inductionHypothesis ⊢
          rw [inductionHypothesis]
          ring

/-- Scaling rows scales what they weigh. -/
theorem map_weighRow_scaleRows (f : Nat → Rat) (factors : List Rat) (matrix : SparseMatrix Rat) :
    (matrix.scaleRows factors).rows.map (weighRow f) =
      factors.zipWith (· * ·) (matrix.rows.map (weighRow f)) := by
  simp only [scaleRows, List.map_zipWith, List.zipWith_map_right, weighRow_scaleRow]

theorem column_lt_of_mem_scaleRows {matrix : SparseMatrix Rat} {columnCount : Nat}
    (inside : ∀ row ∈ matrix.rows, ∀ entry ∈ row, entry.1 < columnCount) (factors : List Rat) :
    ∀ row ∈ (matrix.scaleRows factors).rows, ∀ entry ∈ row, entry.1 < columnCount := by
  intro scaled scaledMember entry member
  obtain ⟨factor, row, rowMember, rfl⟩ :
      ∃ factor, ∃ row ∈ matrix.rows, scaleRow factor row = scaled := by
    obtain ⟨place, bound, rfl⟩ := List.mem_iff_getElem.mp scaledMember
    simp only [scaleRows, List.getElem_zipWith]
    exact ⟨_, _, List.getElem_mem _, rfl⟩
  unfold scaleRow at member
  split at member
  · cases member
  · obtain ⟨known, knownMember, kept⟩ := List.mem_filterMap.mp member
    simp only [Option.ite_none_left_eq_some, Option.some.injEq] at kept
    obtain ⟨_, rfl⟩ := kept
    exact inside row rowMember known (List.mem_reverse.mp knownMember)

/-! ### Products and row sums -/

theorem rowProduct_eq (vector : List Rat) (row : List (Nat × Rat)) :
    rowProduct vector row = weighRow (fun column => vector.getD column 0) row := by
  have swapped : weighRow (fun column => vector.getD column 0) row =
      (row.map fun entry => entry.2 * vector.getD entry.1 0).sum := by
    simp only [weighRow, mul_comm]
  rw [swapped, List.sum_eq_foldl, List.foldl_map]
  rfl

theorem mulVector_eq (matrix : SparseMatrix Rat) (vector : List Rat) :
    matrix.mulVector vector =
      matrix.rows.map (weighRow fun column => vector.getD column 0) :=
  List.map_congr_left fun row _ => rowProduct_eq vector row

theorem rowSums_eq (matrix : SparseMatrix Rat) :
    matrix.rowSums = matrix.rows.map (weighRow fun _ => 1) := by
  refine List.map_congr_left fun row _ => ?_
  simp only [weighRow, one_mul]
  rw [List.sum_eq_foldl, List.foldl_map]
  rfl

end Regrid.SparseMatrix
