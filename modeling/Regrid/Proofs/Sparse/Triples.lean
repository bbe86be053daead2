import Regrid.Proofs.Sparse.Growth
import Regrid.Proofs.Sparse.Stored

/-!
Contract: a builder that is offered triples of which it refuses some.

Owns:
- runs of offers in which refused calls are passed over;
- what one offer leaves behind, whatever it answers;
- when the builder can still be assembled, and what the operator then holds.

A call looks up its row, its column and its number in this order, and records each one
before it looks at the next. A refusal of the row leaves no trace. A refusal of the column
or of the number leaves a row without a number, and no later call makes up for it.
-/

namespace Regrid

open Attempt

/-! ### Records of native entries -/

/-- A builder has recorded native entries on axes that may hold further indices. -/
structure SparseBuilder.Records {α : Type} (builder : SparseBuilder α)
    (entries : List (Int × Int × α)) : Prop where
  distinct : builder.axes.Distinct
  rows : List.Forall₂ (fun number native => builder.axes.rows.natives[number]? = some native)
    builder.rows (entries.map (·.1))
  columns : List.Forall₂
    (fun number native => builder.axes.columns.natives[number]? = some native)
    builder.columns (entries.map (·.2.1))
  values : builder.values = entries.map (·.2.2)

namespace SparseBuilder

section Records

variable {α : Type} {builder : SparseBuilder α} {entries : List (Int × Int × α)}

theorem records_empty {axes : Axes} (distinct : axes.Distinct) :
    Records ({ axes } : SparseBuilder α) [] :=
  ⟨distinct, .nil, .nil, rfl⟩

/-- A triple that is taken is recorded after the entries that were there. -/
theorem Records.taken (records : builder.Records entries) (entry : Int × Int × α)
    {rowNumber columnNumber : Nat} {rows columns : IndexSet}
    (rowAdded : builder.axes.rows.add entry.1 = .ok (rowNumber, rows))
    (columnAdded :
      (builder.axes.setRows rows).columns.add entry.2.1 = .ok (columnNumber, columns)) :
    Records ⟨(builder.axes.setRows rows).setColumns columns, builder.rows ++ [rowNumber],
      builder.columns ++ [columnNumber], builder.values ++ [entry.2.2]⟩ (entries ++ [entry]) := by
  have between := records.distinct.setRows (IndexSet.nodup_add records.distinct.rows rowAdded)
  have early := Axes.grows_setRows (IndexSet.add_grows rowAdded)
  have late := Axes.grows_setColumns (IndexSet.add_grows columnAdded)
  have rowFound : (builder.axes.setRows rows).rows.natives[rowNumber]? = some entry.1 := by
    rw [Axes.rows_setRows]
    exact (IndexSet.add_eq_ok rowAdded).1
  have columnFound : ((builder.axes.setRows rows).setColumns columns).columns.natives[columnNumber]?
      = some entry.2.1 := by
    rw [Axes.columns_setColumns]
    exact (IndexSet.add_eq_ok columnAdded).1
  refine ⟨between.setColumns (IndexSet.nodup_add between.columns columnAdded), ?_, ?_, ?_⟩
  · rw [List.map_append]
    refine List.rel_append (records.rows.imp fun number native found => ?_)
      (.cons (late.rows.getElem? rowFound) .nil)
    exact late.rows.getElem? (early.rows.getElem? found)
  · rw [List.map_append]
    refine List.rel_append (records.columns.imp fun number native found => ?_)
      (.cons columnFound .nil)
    exact late.columns.getElem? (early.columns.getElem? found)
  · simp [records.values]

variable [Scalar α]

/-- Recorded entries are assembled to an operator that stores their sums. -/
theorem Records.exists_toOperator (records : builder.Records entries) :
    ∃ operator, builder.toOperator = .ok operator ∧
      operator.Stores fun row column => sum? (valuesAt entries row column) := by
  have rowsLength := records.rows.length_eq
  have columnsLength := records.columns.length_eq
  have lengths : builder.rows.length = builder.values.length ∧
      builder.columns.length = builder.values.length := by
    rw [records.values, rowsLength, columnsLength]
    simp
  have stands := stands_zip records.rows records.columns
  rw [← records.values] at stands
  refine ⟨_, if_pos lengths, records.distinct.rows, records.distinct.columns, rfl,
    rowStores_assemble records.distinct.rows records.distinct.columns stands _, ?_⟩
  intro row column x held
  have listed : valuesAt entries row column ≠ [] := by
    intro none
    rw [(sum?_eq_none_iff _).mpr none] at held
    cases held
  obtain ⟨y, member⟩ := List.exists_mem_of_ne_nil _ listed
  have entry := mem_valuesAt.mp member
  obtain ⟨_, _, rowFound⟩ := exists_item_of_mem records.rows (List.mem_map_of_mem entry)
  obtain ⟨_, _, columnFound⟩ := exists_item_of_mem records.columns
    (List.mem_map.mpr ⟨_, entry, rfl⟩)
  exact ⟨List.mem_of_getElem? rowFound, List.mem_of_getElem? columnFound⟩

end Records

/-! ### Offers -/

/-- The call that offers a triple to a builder. -/
def offer (triple : Value × Value × Value) : Attempt (SparseBuilder Float) Unit :=
  addValue triple.1 triple.2.1 triple.2.2

/-- What a builder holds after triples were offered to it in order. A refused call is passed
over, with whatever it has left behind. -/
def offerAll (triples : List (Value × Value × Value)) (builder : SparseBuilder Float) :
    SparseBuilder Float :=
  triples.foldl (fun builder triple => ((offer triple).outcome builder).2) builder

/-- A triple as a native entry. -/
def nativeEntry (triple : Value × Value × Value) : Except Error (Int × Int × Float) := do
  return (← triple.1.toInteger, ← triple.2.1.toInteger, ← triple.2.2.toReal)

/-- The native entries of the triples whose calls answer, in the order of the offers. -/
def taken : List (Value × Value × Value) → SparseBuilder Float → List (Int × Int × Float)
  | [], _ => []
  | triple :: rest, builder =>
    match (offer triple).outcome builder with
    | (.ok _, after) => (nativeEntry triple).toOption.toList ++ taken rest after
    | (.error _, after) => taken rest after

/-- The row of a triple is read as an integer that the rows hold or can take in. -/
def TakesRow (builder : SparseBuilder Float) (triple : Value × Value × Value) : Prop :=
  ∃ row number rows, triple.1.toInteger = .ok row ∧
    builder.axes.rows.add row = .ok (number, rows)

/-- Every call of a run whose row is taken answers. -/
def CompletesRows (triples : List (Value × Value × Value)) (builder : SparseBuilder Float) :
    Prop :=
  ∀ before triple rest, triples = before ++ triple :: rest →
    TakesRow (offerAll before builder) triple →
      ((offer triple).outcome (offerAll before builder)).1 = .ok ()

section Steps

variable {α : Type} {builder : SparseBuilder α} {native : Int} {number : Nat} {set : IndexSet}
  {reason : Error}

theorem outcome_addRow_of_ok (added : builder.axes.rows.add native = .ok (number, set)) :
    (addRow native).outcome builder = (.ok (), { builder with
      axes := builder.axes.setRows set, rows := builder.rows ++ [number] }) := by
  rw [addRow, outcome_ofFunction, added]
  rfl

theorem outcome_addRow_of_error (refused : builder.axes.rows.add native = .error reason) :
    (addRow native).outcome builder = (.error reason, builder) := by
  rw [addRow, outcome_ofFunction, refused]
  rfl

theorem outcome_addColumn_of_ok (added : builder.axes.columns.add native = .ok (number, set)) :
    (addColumn native).outcome builder = (.ok (), { builder with
      axes := builder.axes.setColumns set, columns := builder.columns ++ [number] }) := by
  rw [addColumn, outcome_ofFunction, added]
  rfl

theorem outcome_addColumn_of_error (refused : builder.axes.columns.add native = .error reason) :
    (addColumn native).outcome builder = (.error reason, builder) := by
  rw [addColumn, outcome_ofFunction, refused]
  rfl

end Steps

variable {builder : SparseBuilder Float} {triple : Value × Value × Value}
  {triples : List (Value × Value × Value)} {entries : List (Int × Int × Float)}

/-- What comes after the row: something is refused, which leaves the rows and the values, or the
column and the value are recorded. -/
theorem addColumnValue_cases (builder : SparseBuilder Float) (column number : Value) :
    let call : Attempt (SparseBuilder Float) Unit := do
      addColumn (← column.toInteger)
      let x ← number.toReal
      modify fun builder => { builder with values := builder.values ++ [x] }
    (∃ reason left, call.outcome builder = (.error reason, left) ∧ left.rows = builder.rows ∧
      left.values = builder.values) ∨
    (∃ native x dense columns, column.toInteger = .ok native ∧ number.toReal = .ok x ∧
      builder.axes.columns.add native = .ok (dense, columns) ∧
      call.outcome builder = (.ok (),
        ⟨builder.axes.setColumns columns, builder.rows, builder.columns ++ [dense],
          builder.values ++ [x]⟩)) := by
  intro call
  cases columnRead : column.toInteger with
  | error reason =>
      exact .inl ⟨reason, builder, by simp [call, outcome_bind, columnRead], rfl, rfl⟩
  | ok native =>
      cases columnAdded : builder.axes.columns.add native with
      | error reason =>
          have refused := outcome_addColumn_of_error columnAdded
          exact .inl ⟨reason, builder, by simp [call, outcome_bind, columnRead, refused], rfl, rfl⟩
      | ok both =>
          obtain ⟨dense, columns⟩ := both
          have done := outcome_addColumn_of_ok columnAdded
          cases numberRead : number.toReal with
          | error reason =>
              refine .inl ⟨reason, { builder with
                axes := builder.axes.setColumns columns
                columns := builder.columns ++ [dense] }, ?_, rfl, rfl⟩
              simp [call, outcome_bind, columnRead, done, numberRead]
          | ok x =>
              refine .inr ⟨native, x, dense, columns, rfl, rfl, columnAdded, ?_⟩
              simp [call, outcome_bind, columnRead, done, numberRead]

/-- What an offer does: the row is refused and nothing changes, or the row is recorded and
something later is refused, or the whole triple is recorded. -/
theorem offer_cases (builder : SparseBuilder Float) (triple : Value × Value × Value) :
    (∃ reason, (offer triple).outcome builder = (.error reason, builder) ∧
      ¬ TakesRow builder triple) ∨
    (∃ reason number left, (offer triple).outcome builder = (.error reason, left) ∧
      TakesRow builder triple ∧ left.rows = builder.rows ++ [number] ∧
      left.values = builder.values) ∨
    (∃ entry rowNumber columnNumber rows columns, nativeEntry triple = .ok entry ∧
      builder.axes.rows.add entry.1 = .ok (rowNumber, rows) ∧
      (builder.axes.setRows rows).columns.add entry.2.1 = .ok (columnNumber, columns) ∧
      (offer triple).outcome builder = (.ok (),
        ⟨(builder.axes.setRows rows).setColumns columns, builder.rows ++ [rowNumber],
          builder.columns ++ [columnNumber], builder.values ++ [entry.2.2]⟩)) := by
  obtain ⟨row, column, number⟩ := triple
  cases rowRead : row.toInteger with
  | error reason =>
      refine .inl ⟨reason, ?_, by simp [TakesRow, rowRead]⟩
      simp [offer, addValue, outcome_bind, rowRead]
  | ok native =>
      cases rowAdded : builder.axes.rows.add native with
      | error reason =>
          refine .inl ⟨reason, ?_, by simp [TakesRow, rowRead, rowAdded]⟩
          simp [offer, addValue, outcome_bind, rowRead, outcome_addRow_of_error rowAdded]
      | ok both =>
          obtain ⟨rowNumber, rows⟩ := both
          have takes : TakesRow builder (row, column, number) :=
            ⟨native, rowNumber, rows, rowRead, rowAdded⟩
          have rowDone := outcome_addRow_of_ok rowAdded
          obtain ⟨reason, left, refused, sameRows, sameValues⟩ |
              ⟨other, x, dense, columns, columnRead, numberRead, columnAdded, recorded⟩ :=
            addColumnValue_cases { builder with
              axes := builder.axes.setRows rows, rows := builder.rows ++ [rowNumber] } column number
          · refine .inr (.inl ⟨reason, rowNumber, left, ?_, takes, sameRows, sameValues⟩)
            rw [offer, addValue, rowRead]
            exact (outcome_bind_of_ok rowDone _).trans refused
          · refine .inr (.inr ⟨(native, other, x), rowNumber, dense, rows, columns, ?_, rowAdded,
              columnAdded, ?_⟩)
            · simp only [nativeEntry, rowRead, columnRead, numberRead, bind, Except.bind, pure,
                Except.pure]
            · rw [offer, addValue, rowRead]
              exact (outcome_bind_of_ok rowDone _).trans recorded

/-! ### Runs of offers -/

theorem offerAll_cons (triple : Value × Value × Value) (rest : List (Value × Value × Value))
    (builder : SparseBuilder Float) :
    offerAll (triple :: rest) builder = offerAll rest ((offer triple).outcome builder).2 := rfl

theorem completesRows_cons {rest : List (Value × Value × Value)} :
    CompletesRows (triple :: rest) builder ↔
      (TakesRow builder triple → ((offer triple).outcome builder).1 = .ok ()) ∧
        CompletesRows rest ((offer triple).outcome builder).2 := by
  constructor
  · intro completes
    refine ⟨completes [] triple rest rfl, fun before other later split => ?_⟩
    exact completes (triple :: before) other later (by rw [split]; rfl)
  · rintro ⟨first, others⟩ before other later split
    cases before with
    | nil =>
        obtain ⟨rfl, rfl⟩ := List.cons.inj split
        exact first
    | cons known before =>
        obtain ⟨rfl, rfl⟩ := List.cons.inj split
        exact others before other later rfl

/-- When every taken row is completed, the builder records what was taken. -/
theorem Records.offerAll (records : builder.Records entries)
    (completes : CompletesRows triples builder) :
    (offerAll triples builder).Records (entries ++ SparseBuilder.taken triples builder) := by
  induction triples generalizing builder entries with
  | nil => simpa [SparseBuilder.offerAll, SparseBuilder.taken] using records
  | cons triple rest inductionHypothesis =>
      obtain ⟨first, others⟩ := completesRows_cons.mp completes
      rw [offerAll_cons, SparseBuilder.taken]
      rcases offer_cases builder triple with ⟨reason, refused, _⟩ |
        ⟨reason, number, left, refused, takes, _⟩ |
        ⟨entry, rowNumber, columnNumber, rows, columns, read, rowAdded, columnAdded, done⟩
      · rw [refused] at others ⊢
        exact inductionHypothesis records others
      · rw [refused] at first
        cases first takes
      · rw [done] at others ⊢
        have all := inductionHypothesis (records.taken _ rowAdded columnAdded) others
        simpa [read, Except.toOption] using all

/-- A row without a number stays without one. -/
theorem lacks_offerAll (lacks : builder.values.length < builder.rows.length) :
    (SparseBuilder.offerAll triples builder).values.length <
      (SparseBuilder.offerAll triples builder).rows.length := by
  induction triples generalizing builder with
  | nil => exact lacks
  | cons triple rest inductionHypothesis =>
      rw [offerAll_cons]
      apply inductionHypothesis
      rcases offer_cases builder triple with ⟨reason, refused, _⟩ |
        ⟨reason, number, left, refused, _, rows, values⟩ |
        ⟨entry, rowNumber, columnNumber, rows, columns, _, _, _, done⟩
      · rw [refused]
        exact lacks
      · rw [refused]
        simp only [rows, values, List.length_append, List.length_singleton]
        omega
      · rw [done]
        simpa using lacks

/-- When some row is taken and not completed, a row lacks its number. -/
theorem lacks_of_not_completesRows (balanced : builder.values.length = builder.rows.length)
    (incomplete : ¬ CompletesRows triples builder) :
    (SparseBuilder.offerAll triples builder).values.length <
      (SparseBuilder.offerAll triples builder).rows.length := by
  induction triples generalizing builder with
  | nil => exact absurd (fun before triple rest split => by simp at split) incomplete
  | cons triple rest inductionHypothesis =>
      rw [offerAll_cons]
      rw [completesRows_cons] at incomplete
      rcases offer_cases builder triple with ⟨reason, refused, leaves⟩ |
        ⟨reason, number, left, refused, _, rows, values⟩ |
        ⟨entry, rowNumber, columnNumber, rows, columns, _, _, _, done⟩
      · rw [refused] at incomplete ⊢
        exact inductionHypothesis balanced fun others =>
          incomplete ⟨fun takes => absurd takes leaves, others⟩
      · rw [refused]
        apply lacks_offerAll
        simp only [rows, values, List.length_append, List.length_singleton]
        omega
      · rw [done] at incomplete ⊢
        refine inductionHypothesis ?_ fun others => incomplete ⟨fun _ => rfl, others⟩
        simpa using balanced

/-- A refused call leaves the builder as it was exactly when it refused the row. -/
theorem refused_keeps_iff {reason : Error} {left : SparseBuilder Float}
    (refused : (offer triple).outcome builder = (.error reason, left)) :
    left = builder ↔ ¬ TakesRow builder triple := by
  rcases offer_cases builder triple with
    ⟨_, early, leaves⟩ | ⟨_, number, changed, late, takes, rows, _⟩ | ⟨_, _, _, _, _, _, _, _, done⟩
  · rw [early] at refused
    exact ⟨fun _ => leaves, fun _ => (Prod.mk.inj refused).2.symm⟩
  · rw [late] at refused
    obtain rfl := (Prod.mk.inj refused).2
    refine ⟨fun same => ?_, fun leaves => absurd takes leaves⟩
    rw [same] at rows
    simp at rows
  · rw [done] at refused
    cases refused

/-- A builder that can be assembled has as many rows as values, so no call was cut short. -/
theorem completesRows_of_toOperator {axes : Axes} {operator : DenseOperator Float}
    (done : (offerAll triples { axes }).toOperator = .ok operator) :
    CompletesRows triples { axes } := by
  by_contra incomplete
  have lacks := lacks_of_not_completesRows (rfl : ([] : List Float).length = 0) incomplete
  have lengths := (toOperator_eq_ok done).1
  omega

/-- For triples offered to a new builder on any axes, refusals being passed over: a refused call
leaves the builder as it was exactly when it refused the row. The builder can be assembled
exactly when every call that took its row answered, and the operator then has, at each
native row and column, the sum in order of the numbers of the triples that were taken. -/
theorem offered_triples_assemble {axes : Axes} (distinct : axes.Distinct)
    (triples : List (Value × Value × Value)) :
    (∀ before triple rest reason left, triples = before ++ triple :: rest →
      (offer triple).outcome (SparseBuilder.offerAll before { axes }) = (.error reason, left) →
        (left = SparseBuilder.offerAll before { axes } ↔
          ¬ TakesRow (SparseBuilder.offerAll before { axes }) triple)) ∧
    ((∃ operator, (SparseBuilder.offerAll triples { axes }).toOperator = .ok operator) ↔
      CompletesRows triples { axes }) ∧
    ∀ operator, (SparseBuilder.offerAll triples { axes }).toOperator = .ok operator →
      ∀ row column : Int, operator.value (.int row) (.int column) =
        .ok ((sum? (valuesAt (SparseBuilder.taken triples { axes }) row column)).getD
          Scalar.zero) := by
  have complete := fun completes : CompletesRows triples { axes } =>
    ((records_empty distinct).offerAll completes).exists_toOperator
  refine ⟨fun _ _ _ _ _ _ refused => refused_keeps_iff refused,
    ⟨fun ⟨operator, done⟩ => completesRows_of_toOperator done, fun completes => ?_⟩, ?_⟩
  · obtain ⟨operator, done, _⟩ := complete completes
    exact ⟨operator, done⟩
  · intro operator done row column
    obtain ⟨other, otherDone, stores⟩ := complete (completesRows_of_toOperator done)
    obtain rfl := Except.ok.inj (done.symm.trans otherDone)
    rw [stores.value, List.nil_append]

/-- Two rows and one column. -/
def narrowAxes : Axes := .separate { fixedExtent := some 2 } { fixedExtent := some 1 }

theorem narrowAxes_distinct : narrowAxes.Distinct := ⟨List.nodup_nil, List.nodup_nil⟩

/-- A row that is refused between two triples does no harm to them. -/
theorem refused_row_leaves_no_trace :
    CompletesRows [(.int 1, .int 0, .float 3.0), (.int 5, .int 0, .float 2.0),
      (.int 0, .int 0, .float 1.0)] { axes := narrowAxes } ∧
    ∃ operator, (offerAll [(.int 1, .int 0, .float 3.0), (.int 5, .int 0, .float 2.0),
        (.int 0, .int 0, .float 1.0)] { axes := narrowAxes }).toOperator = .ok operator ∧
      operator.value (.int 1) (.int 0) = .ok 3.0 ∧
      operator.value (.int 5) (.int 0) = .ok Scalar.zero := by
  obtain ⟨_, assembles, values⟩ := offered_triples_assemble narrowAxes_distinct
    [(.int 1, .int 0, .float 3.0), (.int 5, .int 0, .float 2.0), (.int 0, .int 0, .float 1.0)]
  refine ⟨assembles.mp ⟨_, rfl⟩, _, rfl, ?_, ?_⟩
  · exact (values _ rfl 1 0).trans rfl
  · exact (values _ rfl 5 0).trans rfl

/-- A column that is refused leaves its row recorded, and the builder cannot be assembled any
more, although a triple was taken before. -/
theorem refused_column_leaves_its_row :
    (offer (.int 0, .int 0, .float 1.0)).outcome { axes := narrowAxes } =
      (.ok (), ⟨.separate ⟨[0], some 2⟩ ⟨[0], some 1⟩, [0], [0], [1.0]⟩) ∧
    (offer (.int 0, .int 5, .float 2.0)).outcome
        ⟨.separate ⟨[0], some 2⟩ ⟨[0], some 1⟩, [0], [0], [1.0]⟩ =
      (.error (.nativeOutside 5 1),
        ⟨.separate ⟨[0], some 2⟩ ⟨[0], some 1⟩, [0, 0], [0], [1.0]⟩) ∧
    ¬ ∃ operator, (offerAll [(.int 0, .int 0, .float 1.0), (.int 0, .int 5, .float 2.0)]
      { axes := narrowAxes }).toOperator = .ok operator := by
  refine ⟨rfl, rfl, ?_⟩
  rintro ⟨operator, done⟩
  cases done

end SparseBuilder

end Regrid
