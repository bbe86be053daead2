import Regrid.Proofs.Shared.Numbering
import Regrid.Proofs.Sparse.Views

/-!
Contract: the views of an operator whose axes are shared, while these stay as they are.

Owns:
- the operators that are assembled in reached spaces and then scaled any number of times;
- that all views of such an operator agree.

Does not own: axes that grow after an operator was assembled.

Each view works on the sets as they are now. Spaces that differ in other sets and in all builders
are allowed, because an operator sees nothing but its own axes.
-/

namespace Regrid

open Attempt OperatorSpace

/-- An operator as it is seen after it was assembled in a reached space, with the sets of its axes
as they were then, or what becomes of such an operator when its rows are scaled. -/
inductive DenseOperator.Made {α : Type} [Scalar α] : DenseOperator α → Prop where
  | assembled {space left later : OperatorSpace α} (reached : Reached space)
      {ref : Ref (SharedBuilder α)} {operator : SharedOperator α}
      (done : (assemble ref).outcome space = (.ok operator, left))
      (unchanged : later.axes operator.axes = left.axes operator.axes) :
      Made (later.view operator)
  | scaled {operator scaled : DenseOperator α} (made : Made operator) {factors : List α}
      (done : operator.scaleRows (.ofList factors) = .ok scaled) : Made scaled

namespace DenseOperator

theorem Made.represents {α : Type} [Scalar α] {operator : DenseOperator α}
    (made : operator.Made) : ∃ cell, operator.Represents cell := by
  induction made with
  | @assembled space left later reached ref operator done unchanged =>
      obtain ⟨rfl, built⟩ := assemble_eq_ok done
      have same : later.view operator = left.view operator := by
        rw [OperatorSpace.view, unchanged]
        rfl
      rw [same]
      exact (reached.proper.viewBuilder ref).represents built
  | scaled _ done inductionHypothesis =>
      obtain ⟨cell, represents⟩ := inductionHypothesis
      exact represents.of_scaleRows done

/-- The views of an operator that was assembled and scaled any number of times agree, while the
sets of its axes stay as they were. For one function of native row and column:
- it is the single value at every row and column;
- entries are read back exactly when the native shape fits 64 bits, and then lie inside that shape
  and add up to it at every position;
- the product with a vector that covers the columns is the sum over the columns at the rows of the
  operator, and `fill` at all other rows below the row extent, if a vector of this length finds
  room;
- factors, one for each dense row, multiply it, and the products that do not vanish are stored. -/
theorem views_agree {operator : DenseOperator Rat} (made : operator.Made) :
    ∃ value, operator.Views value := by
  obtain ⟨_, represents⟩ := made.represents
  exact ⟨_, represents.views⟩

end DenseOperator

namespace OperatorSpace

/-- A new builder with two new sets that was given one entry. -/
def oneEntry (row column : Int) (x : Rat) : OperatorSpace Rat :=
  ((Call.add ⟨0⟩ (.int row) (.int column) x).perform.outcome
    ((Call.makeBuilder none).perform.outcome {}).2).2

theorem oneEntry_reached (row column : Int) (x : Rat) : Reached (oneEntry row column x) :=
  (Reached.empty.called (.makeBuilder none) trivial).called (.add ⟨0⟩ (.int row) (.int column) x)
    Nat.one_pos

/-- The operator of one entry at the second row and the third column. -/
def oneEntryOperator (x : Rat) : DenseOperator Rat :=
  ⟨⟨1, [[(0, x)]]⟩, .separate ⟨[1], none⟩ ⟨[2], none⟩, (2, 3)⟩

theorem oneEntryOperator_made (x : Rat) : (oneEntryOperator x).Made := by
  have assembled : (assemble ⟨0⟩).outcome (oneEntry 1 2 x) =
      (.ok ⟨⟨1, [[(0, x)]]⟩, (⟨0⟩, ⟨1⟩), (2, 3)⟩, oneEntry 1 2 x) := rfl
  exact .assembled (oneEntry_reached 1 2 x) assembled rfl

/-- The entry is the only value of its operator, and is doubled with its row. -/
theorem views_of_one_entry : ∃ value, (oneEntryOperator 3).Views value ∧
    value 1 2 = 3 ∧ value 0 2 = 0 ∧
    ∃ scaled, (oneEntryOperator 3).scaleRows (.ofList [2]) = .ok scaled ∧
      scaled.value (.int 1) (.int 2) = .ok (2 * 3) := by
  obtain ⟨value, views⟩ := DenseOperator.views_agree (oneEntryOperator_made 3)
  have held : value 1 2 = 3 := Except.ok.inj (views.single 1 2).symm
  obtain ⟨scaled, done, scaledBy⟩ := views.scaling [2] rfl
  have doubled := scaledBy.touched 1 0 rfl 2
  rw [held] at doubled
  exact ⟨value, views, held, Except.ok.inj (views.single 0 2).symm, scaled, done, doubled⟩

/-- A row of 2⁶³ lies inside the native shape, but no integer of 64 bits stands for it, so the
value that is there cannot be read back. A row of 2³⁶ is read back, but a product of this length
finds no room. -/
theorem wide_row_is_not_read_back :
    (∃ operator : DenseOperator Rat, operator.Made ∧
      operator.nativeShape = (0x8000000000000001, 1) ∧
      operator.value (.int 0x8000000000000000) (.int 0) = .ok 1 ∧
      operator.toNative = .error .numberTooLarge) ∧
    ∃ operator : DenseOperator Rat, operator.Made ∧ operator.FitsWords ∧
      operator.nativeShape = (0x1000000001, 1) ∧
      operator.apply 0 (.ofList [1]) = .error .memoryExhausted := by
  have assembled : (assemble ⟨0⟩).outcome (oneEntry 0x8000000000000000 0 1) = (.ok _, _) := rfl
  have shorter : (assemble ⟨0⟩).outcome (oneEntry 0x1000000000 0 1) = (.ok _, _) := rfl
  exact ⟨⟨_, .assembled (oneEntry_reached _ _ _) assembled rfl, rfl, rfl, rfl⟩,
    _, .assembled (oneEntry_reached _ _ _) shorter rfl, ⟨rfl, rfl⟩, rfl, rfl⟩

end OperatorSpace

end Regrid
