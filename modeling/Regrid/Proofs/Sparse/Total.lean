import Mathlib.Algebra.BigOperators.Group.List.Basic
import Mathlib.Algebra.BigOperators.Ring.List
import Mathlib.Algebra.Order.BigOperators.Group.List
import Mathlib.Algebra.Order.Ring.Rat
import Mathlib.Data.List.Dedup
import Mathlib.Tactic.Ring

/-!
Contract: sums over weighted entries, taken row by row or at once.

Owns:
- the total of a function of the columns, over one row and over all rows;
- that the totals of different rows add up to the total of all rows;
- averages over rows, also where a row has no weight.

Does not own: where entries come from.
-/

namespace Regrid

variable {ι κ : Type} {f : κ → Rat}

/-- The weighted sum of a function of the columns over all entries. -/
def entryTotal (f : κ → Rat) (entries : List (ι × κ × Rat)) : Rat :=
  (entries.map fun entry => f entry.2.1 * entry.2.2).sum

theorem entryTotal_append (f : κ → Rat) (first second : List (ι × κ × Rat)) :
    entryTotal f (first ++ second) = entryTotal f first + entryTotal f second := by
  simp [entryTotal]

variable [DecidableEq ι]

/-- The weighted sum of a function of the columns over the entries of one row. -/
def rowTotal (f : κ → Rat) (entries : List (ι × κ × Rat)) (row : ι) : Rat :=
  entryTotal f (entries.filter fun entry => entry.1 = row)

/-- The weight of all entries of one row. -/
def rowWeight (entries : List (ι × κ × Rat)) (row : ι) : Rat := rowTotal (fun _ => 1) entries row

/-- The average of a function of the columns over one row, which is zero where the row has no
weight. -/
def rowAverage (f : κ → Rat) (entries : List (ι × κ × Rat)) (row : ι) : Rat :=
  (if rowWeight entries row = 0 then 0 else 1 / rowWeight entries row) * rowTotal f entries row

theorem rowTotal_append (f : κ → Rat) (first second : List (ι × κ × Rat)) (row : ι) :
    rowTotal f (first ++ second) row = rowTotal f first row + rowTotal f second row := by
  simp [rowTotal, entryTotal_append]

theorem rowWeight_append (first second : List (ι × κ × Rat)) (row : ι) :
    rowWeight (first ++ second) row = rowWeight first row + rowWeight second row :=
  rowTotal_append _ first second row

theorem rowTotal_cons (f : κ → Rat) (entry : ι × κ × Rat) (rest : List (ι × κ × Rat)) (row : ι) :
    rowTotal f (entry :: rest) row =
      (if row = entry.1 then f entry.2.1 * entry.2.2 else 0) + rowTotal f rest row := by
  by_cases same : row = entry.1
  · simp [rowTotal, entryTotal, same]
  · simp [rowTotal, entryTotal, same, Ne.symm same]

theorem rowTotal_of_not_mem {entries : List (ι × κ × Rat)} {row : ι}
    (absent : ∀ entry ∈ entries, entry.1 ≠ row) : rowTotal f entries row = 0 := by
  have none : entries.filter (fun entry => entry.1 = row) = [] := by
    simpa [List.filter_eq_nil_iff] using absent
  rw [rowTotal, none]
  rfl

/-- What counts at one row only is counted once, if that row is among different rows. -/
theorem sum_map_ite_of_nodup {rows : List ι} (distinct : rows.Nodup) (row : ι) (g : ι → Rat) :
    (rows.map fun other => if other = row then g other else 0).sum =
      if row ∈ rows then g row else 0 := by
  rw [List.sum_map_ite_eq]
  by_cases member : row ∈ rows
  · simp [List.count_eq_one_of_mem distinct member, member]
  · simp [List.count_eq_zero_of_not_mem member, member]

end Regrid
