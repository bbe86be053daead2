import Regrid.Value.Sequence

/-!
Contract: integers and texts among values.

Owns:
- comparison, arithmetic and equality of values that are integers;
- the integer that a value equals as a key, which is also the integer it is read as;
- tests of integers as tests of values.
-/

namespace Regrid.Value

@[simp]
theorem toInteger_int (n : Int) : (int n).toInteger = .ok n := rfl

@[simp]
theorem integerKey?_int (n : Int) : (int n).integerKey? = .ok (some n) := rfl

@[simp]
theorem wholeEqual?_int (n : Int) : (int n).wholeEqual? = some n := rfl

theorem mul_int (m n : Int) : (int m).mul (int n) = .ok (int (m * n)) := rfl

theorem add_int (m n : Int) : (int m).add (int n) = .ok (int (m + n)) := rfl

theorem orEmpty_text (s : String) : (text s).orEmpty = text s := by
  by_cases empty : s = "" <;> simp [orEmpty, isBlankOption, empty]

private theorem order?_int (m n : Int) :
    (int m).order? (int n) = .ok (some (compare m n)) := rfl

private theorem compare_int (m n : Int) :
    (compare m n = .lt ∧ m < n) ∨ (compare m n = .eq ∧ m = n) ∨ (compare m n = .gt ∧ n < m) := by
  cases order : compare m n with
  | lt => exact .inl ⟨rfl, Int.compare_eq_lt.mp order⟩
  | eq => exact .inr (.inl ⟨rfl, Int.compare_eq_eq.mp order⟩)
  | gt => exact .inr (.inr ⟨rfl, Int.compare_eq_gt.mp order⟩)

theorem isBelow_int (m n : Int) : (int m).isBelow (int n) = .ok (decide (m < n)) := by
  simp only [isBelow, order?_int, bind, Except.bind, pure, Except.pure]
  rcases compare_int m n with ⟨order, below⟩ | ⟨order, equal⟩ | ⟨order, above⟩ <;> rw [order]
  · simpa using below
  · simp [equal]
  · simpa using Int.le_of_lt above

theorem isAtMost_int (m n : Int) : (int m).isAtMost (int n) = .ok (decide (m ≤ n)) := by
  simp only [isAtMost, order?_int, bind, Except.bind, pure, Except.pure]
  rcases compare_int m n with ⟨order, below⟩ | ⟨order, equal⟩ | ⟨order, above⟩ <;> rw [order]
  · simpa using Int.le_of_lt below
  · simp [equal]
  · simpa using above

theorem same_int (m n : Int) : (int m).same (int n) = decide (m = n) := by
  have comparison : (int m).same (int n) = (some (compare m n) == some Ordering.eq) := by
    simp [same, number?, Number.order?]
  rw [comparison]
  rcases compare_int m n with ⟨order, below⟩ | ⟨order, equal⟩ | ⟨order, above⟩ <;> rw [order]
  · simpa using Int.ne_of_lt below
  · simp [equal]
  · simpa using Int.ne_of_gt above

/-- A double has the exact value of one integer at most. -/
theorem eq_of_compareWhole {x : Binary64} {m n : Int}
    (first : Number.compareWhole m x = some .eq) (second : Number.compareWhole n x = some .eq) :
    m = n := by
  cases x with
  | notANumber => cases first
  | infinite negative => cases negative <;> cases first
  | finite negative significand exponent =>
      simp only [Number.compareWhole, Option.some.injEq, Int.compare_eq_eq] at first second
      have positive : 0 < (Binary64.quotient significand exponent).2 :=
        Nat.pow_pos (Nat.zero_lt_succ 1)
      exact Int.eq_of_mul_eq_mul_right (by omega) (first.trans second.symm)

/-- A value equals one integer at most. -/
theorem eq_of_same_int {value : Value} {m n : Int} (first : value.same (int m) = true)
    (second : value.same (int n) = true) : m = n := by
  cases value with
  | int k =>
      rw [same_int, decide_eq_true_eq] at first second
      exact first.symm.trans second
  | bool b =>
      have asInteger : ∀ k, (bool b).same (int k) = (int (if b then 1 else 0)).same (int k) :=
        fun k => by simp [same, number?]
      rw [asInteger, same_int, decide_eq_true_eq] at first second
      exact first.symm.trans second
  | float x =>
      have swapped : ∀ {order : Option Ordering},
          (order.map Ordering.swap == some .eq) = true → order = some .eq := by
        rintro (_ | _ | _ | _) <;> decide
      simp only [same, number?, Number.order?] at first second
      exact eq_of_compareWhole (swapped first) (swapped second)
  | null | text _ | moment _ | list _ | map _ => simp [same, number?] at first

/-- A value that equals an integer as a key is read as that integer. -/
theorem toInteger_of_integerKey? {value : Value} {n : Int}
    (key : value.integerKey? = .ok (some n)) : value.toInteger = .ok n := by
  unfold integerKey? at key
  cases value with
  | bool b => cases b <;> simp_all [isKey, wholeEqual?, number?, toInteger]
  | int m => simp_all [isKey]
  | float x =>
      simp only [isKey, if_true, wholeEqual?, number?, Except.ok.injEq] at key
      simp only [toInteger, truncated]
      split at key
      next whole truncates =>
        split at key
        · obtain rfl := Option.some.inj key
          rw [truncates]
          rfl
        · cases key
      next => cases key
  | null | text _ | moment _ | list _ | map _ => simp_all [isKey, wholeEqual?, number?]

/-- An integer that passes a test. Other values do not pass. -/
def passes (p : Int → Bool) : Value → Bool
  | int n => p n
  | _ => false

@[simp]
theorem passes_int (p : Int → Bool) (n : Int) : (int n).passes p = p n := rfl

theorem passes_and (p q : Int → Bool) (value : Value) :
    value.passes (fun n => p n && q n) = (value.passes p && value.passes q) := by
  cases value <;> rfl

end Regrid.Value
