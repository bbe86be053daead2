import Regrid.Proofs.Coupling.Reordering
import Regrid.Proofs.Sparse.Triples

/-!
Contract: the operator of a list of native entries.

Owns:
- the order of native indices on an axis, which is that of their first occurrence;
- the number of stored entries;
- which lists and shapes are answered on new axes, and what the operator then holds;
- what the operator holds on axes that are in use already.

Does not own: lists of which some triples are refused.
-/

namespace Regrid

open Attempt SparseMatrix

variable {α : Type}

/-! ### First sight -/

/-- A set holds the native indices of a list in the order of their first occurrence. -/
def IndexSet.FirstSeen (set : IndexSet) (natives : List Int) : Prop :=
  set.natives = natives.eraseDups

theorem IndexSet.FirstSeen.added {set changed : IndexSet} {natives : List Int} {native : Int}
    {number : Nat} (seen : set.FirstSeen natives) (done : set.add native = .ok (number, changed)) :
    changed.FirstSeen (natives ++ [native]) := by
  unfold FirstSeen at seen ⊢
  obtain ⟨found, _, rfl | ⟨new, _, appended⟩⟩ := add_eq_ok done
  · have known : native ∈ natives := by
      rw [← List.mem_eraseDups, ← seen]
      exact List.mem_of_getElem? found
    rw [List.eraseDups_append, seen]
    simp [List.removeAll, known]
  · have unknown : native ∉ natives := by
      rwa [seen, List.mem_eraseDups] at new
    rw [List.eraseDups_append, appended, seen]
    simp [List.removeAll, unknown, List.eraseDups_cons]

/-- Both axes of a builder are separate, and number native indices in the order of their first
occurrence among entries. -/
structure SparseBuilder.SeesFirst (builder : SparseBuilder α) (entries : List (Int × Int × α)) :
    Prop where
  separate : builder.axes = .separate builder.axes.rows builder.axes.columns
  rows : builder.axes.rows.FirstSeen (entries.map (·.1))
  columns : builder.axes.columns.FirstSeen (entries.map (·.2.1))

theorem SparseBuilder.SeesFirst.added {builder changed : SparseBuilder α}
    {entries : List (Int × Int × α)} {row column : Int} {x : α} (sees : builder.SeesFirst entries)
    (done : (SparseBuilder.add row column x).outcome builder = (.ok (), changed)) :
    changed.SeesFirst (entries ++ [(row, column, x)]) := by
  obtain ⟨number, rows, place, columns, rowAdded, columnAdded, rfl⟩ := SparseBuilder.add_eq_ok done
  rw [sees.separate] at rowAdded columnAdded ⊢
  refine ⟨rfl, ?_, ?_⟩
  · rw [List.map_append]
    exact sees.rows.added rowAdded
  · rw [List.map_append]
    exact sees.columns.added columnAdded

/-! ### Stored entries -/

/-- The row and the column of an entry. -/
def positionOf (entry : Int × Int × α) : Int × Int := (entry.1, entry.2.1)

theorem count_positions (entries : List (Int × Int × α)) (row column : Int) :
    (entries.map positionOf).count (row, column) = (valuesAt entries row column).length := by
  induction entries with
  | nil => rfl
  | cons entry rest inductionHypothesis =>
      obtain ⟨r, c, x⟩ := entry
      rw [List.map_cons, List.count_cons, valuesAt_cons, inductionHypothesis, List.length_append,
        Nat.add_comm]
      by_cases here : r = row ∧ c = column
      · simp [positionOf, here]
      · simp [positionOf, here]

theorem mem_positions_iff (entries : List (Int × Int × α)) (row column : Int) :
    (row, column) ∈ entries.map positionOf ↔ valuesAt entries row column ≠ [] := by
  rw [← List.count_pos_iff, count_positions, List.length_pos_iff]

theorem SparseMatrix.entryCount_eq_length (matrix : SparseMatrix α) :
    matrix.entryCount = matrix.entries.length := by
  have steps : ∀ (rows : List (List (Nat × α))) (first count : Nat),
      rows.foldl (fun count row => count + row.length) count =
        count + ((rows.zipIdx first).flatMap fun item =>
          item.1.map fun stored => (item.2, stored)).length := by
    intro rows
    induction rows with
    | nil => simp
    | cons row rest inductionHypothesis =>
        intro first count
        rw [List.foldl_cons, inductionHypothesis (first + 1), List.zipIdx_cons, List.flatMap_cons,
          List.length_append, List.length_map]
        exact Nat.add_assoc ..
  have counted := steps matrix.rows 0 0
  rwa [Nat.zero_add] at counted

namespace DenseOperator

variable [Scalar α] {operator : DenseOperator α} {entries : List (Int × Int × α)}

/-- An operator has at each position the sum in order of the values that entries have there, zero
where none of them is, and stores one value for each of their positions. -/
structure SumsUp (operator : DenseOperator α) (entries : List (Int × Int × α)) : Prop where
  value : ∀ row column : Int, operator.value (.int row) (.int column) =
    .ok ((sum? (valuesAt entries row column)).getD Scalar.zero)
  entryCount : operator.matrix.entryCount = (entries.map positionOf).toFinset.card

/-- An operator that stores the sums of entries stores one value for each of their positions. -/
theorem Stores.sumsUp
    (stores : operator.Stores fun row column => sum? (valuesAt entries row column)) :
    operator.SumsUp entries := by
  refine ⟨fun row column => stores.value row column, ?_⟩
  have once : ∀ position, (operator.nativeEntries.map positionOf).count position =
      (sum? (valuesAt entries position.1 position.2)).toList.length := by
    intro position
    rw [count_positions, stores.valuesAt_nativeEntries]
  have distinct : (operator.nativeEntries.map positionOf).Nodup := by
    rw [List.nodup_iff_count_le_one]
    intro position
    rw [once]
    cases sum? (valuesAt entries position.1 position.2) <;> simp
  have samePositions : (operator.nativeEntries.map positionOf).toFinset =
      (entries.map positionOf).toFinset := by
    ext ⟨row, column⟩
    rw [List.mem_toFinset, List.mem_toFinset, mem_positions_iff, mem_positions_iff,
      stores.valuesAt_nativeEntries, not_iff_not, Option.toList_eq_nil_iff, sum?_eq_none_iff]
  rw [← samePositions, List.toFinset_card_of_nodup distinct, List.length_map, nativeEntries,
    List.length_map, entryCount_eq_length]

end DenseOperator

/-! ### Entries on axes that are in use -/

namespace SparseBuilder

variable {builder changed : SparseBuilder α} {entries : List (Int × Int × α)}

/-- An entry that is added is recorded. -/
theorem Records.added (records : builder.Records entries) {row column : Int} {x : α}
    (done : (SparseBuilder.add row column x).outcome builder = (.ok (), changed)) :
    changed.Records (entries ++ [(row, column, x)]) := by
  obtain ⟨number, rows, place, columns, rowAdded, columnAdded, rfl⟩ := add_eq_ok done
  exact records.taken (row, column, x) rowAdded columnAdded

/-- Axes that hold the same native indices serve as well. -/
theorem Records.onAxes (records : builder.Records entries) {axes : Axes}
    (rows : axes.rows.natives = builder.axes.rows.natives)
    (columns : axes.columns.natives = builder.axes.columns.natives) :
    Records { builder with axes } entries :=
  ⟨⟨rows ▸ records.distinct.rows, columns ▸ records.distinct.columns⟩, rows ▸ records.rows,
    columns ▸ records.columns, records.values⟩

theorem fixRows_records (extent : Int) :
    (fixRows extent).Preserves fun builder : SparseBuilder α => builder.Records entries := by
  refine preserves_ofFunction fun builder _ changed records done => ?_
  obtain ⟨set, fixed, same⟩ := bind_eq_ok done
  cases same
  obtain ⟨rfl, _⟩ := IndexSet.lt_of_fixExtent fixed
  exact records.onAxes (by rw [Axes.rows_setRows]) (Axes.natives_columns_setRows rfl)

theorem fixColumns_records (extent : Int) :
    (fixColumns extent).Preserves fun builder : SparseBuilder α => builder.Records entries := by
  refine preserves_ofFunction fun builder _ changed records done => ?_
  obtain ⟨set, fixed, same⟩ := bind_eq_ok done
  cases same
  obtain ⟨rfl, _⟩ := IndexSet.lt_of_fixExtent fixed
  exact records.onAxes (Axes.natives_rows_setColumns rfl) (by rw [Axes.columns_setColumns])

theorem fixShape_records (rows columns : Value) :
    (fixShape rows columns).Preserves fun builder : SparseBuilder α => builder.Records entries :=
  preserves_bind (preserves_lift _) fun rows => preserves_bind (fixRows_records rows) fun _ =>
    preserves_bind (preserves_lift _) fun columns => fixColumns_records columns

theorem toOperator_axes [Scalar α] {operator : DenseOperator α}
    (done : builder.toOperator = .ok operator) : operator.axes = builder.axes := by
  rw [(toOperator_eq_ok done).2]

end SparseBuilder

/-! ### The operator of a list -/

section Operator

variable [Scalar α]

/-- The operator of native entries on given axes, in any arithmetic. The shape is fixed after all
entries are added. -/
def operatorOf (native : NativeEntries α) : Attempt (SparseBuilder α) (DenseOperator α) := do
  SparseBuilder.addEntries native
  SparseBuilder.fixShape (.int native.shape.1) (.int native.shape.2)
  (← get).toOperator

/-- A shape of natural numbers that has all entries inside. -/
def NativeEntries.Fits (native : NativeEntries α) : Prop :=
  0 ≤ native.shape.1 ∧ 0 ≤ native.shape.2 ∧
    ∀ entry ∈ native.entries, Inside native.shape.1 native.shape.2 entry

variable {native : NativeEntries α} {builder left : SparseBuilder α} {operator : DenseOperator α}

/-- The steps of an answer: the entries are added, the shape is fixed, the rest is assembled. -/
theorem operatorOf_eq_ok (done : (operatorOf native).outcome builder = (.ok operator, left)) :
    ∃ added, (SparseBuilder.addEntries native).outcome builder = (.ok (), added) ∧
      (SparseBuilder.fixShape (.int native.shape.1) (.int native.shape.2)).outcome added =
        (.ok (), left) ∧ left.toOperator = .ok operator := by
  obtain ⟨_, added, first, rest⟩ := outcome_bind_eq_ok done
  obtain ⟨_, fixed, second, rest⟩ := outcome_bind_eq_ok rest
  obtain ⟨_, _, same, last⟩ := outcome_bind_eq_ok rest
  cases same
  obtain ⟨assembled, rfl⟩ := outcome_lift_eq_ok last
  exact ⟨added, first, second, assembled⟩

/-- An answer on new axes is assembled from entries that fit, and numbers them by first sight. -/
theorem operatorOf_new_eq_ok (done : (operatorOf native).outcome {} = (.ok operator, left)) :
    native.Fits ∧ operator.Assembles native.entries native.shape.1 native.shape.2 ∧
      operator.axes.rows.FirstSeen (native.entries.map (·.1)) ∧
      operator.axes.columns.FirstSeen (native.entries.map (·.2.1)) := by
  obtain ⟨added, first, second, assembled⟩ := operatorOf_eq_ok done
  have collects := SparseBuilder.collects_empty.addedEntries first
  have sees := SparseBuilder.addEntries_induction SparseBuilder.SeesFirst.added
    (⟨rfl, rfl, rfl⟩ : SparseBuilder.SeesFirst ({} : SparseBuilder α) []) first
  rw [List.nil_append] at collects sees
  obtain ⟨_, _, rowRead, columnRead, rfl, natural, inside⟩ := collects.fixedShape second
  cases rowRead
  cases columnRead
  refine ⟨⟨natural.1, natural.2, inside⟩, ⟨added, collects, assembled⟩, ?_⟩
  rw [SparseBuilder.toOperator_axes assembled]
  exact ⟨sees.rows, sees.columns⟩

/-- Entries that fit are answered on new axes. -/
theorem exists_operatorOf_new (fits : native.Fits) :
    ∃ operator left, (operatorOf native).outcome {} = (.ok operator, left) := by
  obtain ⟨rowNatural, columnNatural, inside⟩ := fits
  obtain ⟨added, first⟩ := SparseBuilder.collects_empty.exists_addEntries native
    fun entry member => ⟨(inside entry member).1.1, (inside entry member).2.1⟩
  have collects := SparseBuilder.collects_empty.addedEntries first
  have second := collects.fixShape rowNatural columnNatural fun entry member =>
    ⟨(inside entry member).1.2, (inside entry member).2.2⟩
  obtain ⟨operator, assembled, _⟩ := collects.exists_toOperator native.shape.1 native.shape.2
  refine ⟨operator, added.shaped native.shape.1 native.shape.2, ?_⟩
  rw [operatorOf, outcome_bind_of_ok first, outcome_bind_of_ok second,
    outcome_bind_of_ok (outcome_get _), assembled]
  rfl

/-- An answer on axes in use has the same sums, and the axes only grow. -/
theorem operatorOf_used_eq_ok {axes : Axes} (distinct : axes.Distinct)
    (done : (operatorOf native).outcome { axes } = (.ok operator, left)) :
    operator.SumsUp native.entries ∧ axes.Grows operator.axes := by
  obtain ⟨added, first, second, assembled⟩ := operatorOf_eq_ok done
  have recorded := SparseBuilder.addEntries_induction (fun records => records.added)
    (SparseBuilder.records_empty distinct) first
  rw [List.nil_append] at recorded
  have kept := SparseBuilder.fixShape_records (.int native.shape.1) (.int native.shape.2) added
    recorded
  rw [second] at kept
  obtain ⟨other, otherDone, stores⟩ := kept.exists_toOperator
  obtain rfl := Except.ok.inj (assembled.symm.trans otherDone)
  have early := (SparseBuilder.grows_keptByParts axes).addEntries native { axes } (.refl axes)
  rw [first] at early
  have late := (SparseBuilder.grows_keptByParts axes).fixShape (.int native.shape.1)
    (.int native.shape.2) added early
  rw [second] at late
  rw [SparseBuilder.toOperator_axes assembled]
  exact ⟨stores.sumsUp, late⟩

end Operator

/-! ### Lists of triples -/

/-- A value lists triples that are read as native entries, and another one holds their shape. -/
structure NativeEntries.ReadFrom (native : NativeEntries Float) (triples shape : Value) :
    Prop where
  entries : ∃ items, triples.elements = .ok items ∧ List.Forall₂
    (fun item entry => ∃ triple, item.triple = .ok triple ∧
      SparseBuilder.nativeEntry triple = .ok entry) items native.entries
  rowExtent : ∃ value, shape.element 0 = .ok value ∧ value.toInteger = .ok native.shape.1
  columnExtent : ∃ value, shape.element 1 = .ok value ∧ value.toInteger = .ok native.shape.2

theorem SparseBuilder.outcome_offer {triple : Value × Value × Value} {entry : Int × Int × Float}
    (read : nativeEntry triple = .ok entry) (builder : SparseBuilder Float) :
    (offer triple).outcome builder =
      (SparseBuilder.add entry.1 entry.2.1 entry.2.2).outcome builder := by
  obtain ⟨row, rowRead, rest⟩ := bind_eq_ok read
  obtain ⟨column, columnRead, rest⟩ := bind_eq_ok rest
  obtain ⟨x, valueRead, same⟩ := bind_eq_ok rest
  cases same
  rw [offer, addValue, rowRead, columnRead, valueRead]
  rfl

theorem NativeEntries.ReadFrom.outcome_extend {native : NativeEntries Float}
    {triples shape : Value} (reads : native.ReadFrom triples shape)
    (builder : SparseBuilder Float) : (SparseBuilder.extend triples).outcome builder =
      (SparseBuilder.addEntries native).outcome builder := by
  obtain ⟨items, listed, each⟩ := reads.entries
  rw [SparseBuilder.extend, SparseBuilder.addEntries, listed]
  refine (outcome_bind_of_ok (outcome_lift _ _) _).trans
    (outcome_forM_congr (each.imp ?_) builder)
  intro item entry ⟨triple, taken, read⟩ state
  rw [taken]
  exact SparseBuilder.outcome_offer read state

/-- Triples that can be read make the operator of their native entries. -/
theorem NativeEntries.ReadFrom.outcome_operator {native : NativeEntries Float}
    {triples shape : Value} (reads : native.ReadFrom triples shape)
    (builder : SparseBuilder Float) :
    (operatorOfEntries triples shape).outcome builder = (operatorOf native).outcome builder := by
  obtain ⟨rows, rowsFound, rowsRead⟩ := reads.rowExtent
  obtain ⟨columns, columnsFound, columnsRead⟩ := reads.columnExtent
  have shaped : ∀ after : SparseBuilder Float, (SparseBuilder.fixShapeOf shape).outcome after =
      (SparseBuilder.fixShape (.int native.shape.1) (.int native.shape.2)).outcome after := by
    intro after
    rw [SparseBuilder.fixShapeOf, SparseBuilder.fixShape, rowsFound, columnsFound]
    simp only [outcome_bind, outcome_lift, rowsRead, columnsRead, Value.toInteger_int]
  rw [operatorOfEntries, operatorOf, outcome_bind, outcome_bind, reads.outcome_extend]
  rcases (SparseBuilder.addEntries native).outcome builder with ⟨reason | answer, after⟩
  · rfl
  · simp only [outcome_bind, shaped]

/-- A list of triples is answered on new axes exactly when the shape is natural and all entries lie
inside. The operator then has at each position the sum in order of the values there, with one
stored value for each position and dense numbers by first occurrence. On axes in use an answer
has the same values, and native indices keep their numbers. In exact arithmetic the order of
the list does not matter for the values. -/
theorem operatorOfEntries_sums_entries {native : NativeEntries Float} {triples shape : Value}
    (reads : native.ReadFrom triples shape) :
    (∀ builder, (operatorOfEntries triples shape).outcome builder =
      (operatorOf native).outcome builder) ∧
    ((∃ operator left, (operatorOfEntries triples shape).outcome {} = (.ok operator, left)) ↔
      native.Fits) ∧
    (∀ operator left, (operatorOfEntries triples shape).outcome {} = (.ok operator, left) →
      operator.SumsUp native.entries ∧ operator.nativeShape = native.shape ∧
      operator.axes.rows.natives = (native.entries.map (·.1)).eraseDups ∧
      operator.axes.columns.natives = (native.entries.map (·.2.1)).eraseDups) ∧
    (∀ axes : Axes, axes.Distinct → ∀ operator left,
      (operatorOfEntries triples shape).outcome { axes } = (.ok operator, left) →
        operator.SumsUp native.entries ∧ axes.Grows operator.axes) ∧
    ∀ (exact : NativeEntries Rat) (others : List (Int × Int × Rat)), others.Perm exact.entries →
      ∀ operator left, (operatorOf exact).outcome {} = (.ok operator, left) →
        ∃ other after, (operatorOf { exact with entries := others }).outcome {} =
          (.ok other, after) ∧ operator.SameValues other := by
  refine ⟨reads.outcome_operator, ?_, ?_, ?_, ?_⟩
  · rw [reads.outcome_operator]
    refine ⟨fun ⟨operator, left, done⟩ => (operatorOf_new_eq_ok done).1, exists_operatorOf_new⟩
  · intro operator left done
    rw [reads.outcome_operator] at done
    obtain ⟨_, assembles, rows, columns⟩ := operatorOf_new_eq_ok done
    exact ⟨assembles.stores.sumsUp, assembles.nativeShape, rows, columns⟩
  · intro axes distinct operator left done
    rw [reads.outcome_operator] at done
    exact operatorOf_used_eq_ok distinct done
  · intro exact others perm operator left done
    obtain ⟨⟨rowNatural, columnNatural, inside⟩, assembles, _⟩ := operatorOf_new_eq_ok done
    have fits : ({ exact with entries := others } : NativeEntries Rat).Fits :=
      ⟨rowNatural, columnNatural, fun entry member => inside entry (perm.mem_iff.mp member)⟩
    obtain ⟨other, after, otherDone⟩ := exists_operatorOf_new fits
    obtain ⟨_, otherAssembles, _⟩ := operatorOf_new_eq_ok otherDone
    refine ⟨other, after, otherDone, fun row column => ⟨_, assembles.value row column, ?_⟩⟩
    rw [otherAssembles.value, (sameSums_of_perm perm).sums]

/-- Three triples of two positions. -/
def repeatedTriples : NativeEntries Float := ⟨(2, 3), [(1, 0, 1.5), (0, 2, 2.0), (1, 0, 2.5)]⟩

theorem repeatedTriples_read : repeatedTriples.ReadFrom
    (.list [.list [.int 1, .int 0, .float 1.5], .list [.int 0, .int 2, .float 2.0],
      .list [.int 1, .int 0, .float 2.5]]) (.list [.int 2, .int 3]) where
  entries := ⟨_, rfl, .cons ⟨_, rfl, rfl⟩ (.cons ⟨_, rfl, rfl⟩ (.cons ⟨_, rfl, rfl⟩ .nil))⟩
  rowExtent := ⟨_, rfl, rfl⟩
  columnExtent := ⟨_, rfl, rfl⟩

/-- The value of the position that occurs twice is the sum of both, and two values are stored. -/
theorem repeatedTriples_summed : ∃ operator left,
    (operatorOfEntries (.list [.list [.int 1, .int 0, .float 1.5],
      .list [.int 0, .int 2, .float 2.0], .list [.int 1, .int 0, .float 2.5]])
      (.list [.int 2, .int 3])).outcome {} = (.ok operator, left) ∧
    operator.value (.int 1) (.int 0) = .ok (1.5 + 2.5) ∧
    operator.value (.int 0) (.int 0) = .ok Scalar.zero ∧ operator.matrix.entryCount = 2 ∧
    operator.axes.rows.natives = [1, 0] ∧ operator.axes.columns.natives = [0, 2] := by
  obtain ⟨_, answers, sums, _⟩ := operatorOfEntries_sums_entries repeatedTriples_read
  have fits : repeatedTriples.Fits := by
    refine ⟨by decide, by decide, fun entry member => ?_⟩
    simp only [repeatedTriples, List.mem_cons, List.not_mem_nil, or_false] at member
    rcases member with rfl | rfl | rfl <;> simp [Inside, repeatedTriples]
  obtain ⟨operator, left, done⟩ := answers.mpr fits
  obtain ⟨summed, _, rows, columns⟩ := sums operator left done
  exact ⟨operator, left, done, summed.value 1 0, summed.value 0 0, summed.entryCount.trans rfl,
    rows.trans rfl, columns.trans rfl⟩

end Regrid
