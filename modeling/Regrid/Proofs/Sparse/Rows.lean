import Mathlib.Data.List.Forall2
import Mathlib.Data.List.Nodup
import Regrid.Sparse.Matrix

/-!
Contract: what the rows of a sparse matrix store, in any arithmetic.

Owns:
- the values that a list of entries has at a position, and their sum in order;
- stored rows as partial functions of the column;
- assembled and scaled rows in these terms.

Does not own: native indices, and laws of the arithmetic.
-/

namespace Regrid

variable {ι κ α : Type}

/-! ### Values at a position -/

section Positions

variable [DecidableEq ι] [DecidableEq κ]

/-- The values of all entries at a position, in order. -/
def valuesAt (entries : List (ι × κ × α)) (row : ι) (column : κ) : List α :=
  (entries.filter fun entry => entry.1 = row ∧ entry.2.1 = column).map (·.2.2)

theorem mem_valuesAt {entries : List (ι × κ × α)} {row : ι} {column : κ} {x : α} :
    x ∈ valuesAt entries row column ↔ (row, column, x) ∈ entries := by
  constructor
  · intro member
    obtain ⟨⟨r, c, y⟩, kept, same⟩ := List.mem_map.mp member
    obtain ⟨inside, here⟩ := List.mem_filter.mp kept
    obtain ⟨rfl, rfl⟩ := of_decide_eq_true here
    obtain rfl : y = x := same
    exact inside
  · intro member
    exact List.mem_map.mpr ⟨_, List.mem_filter.mpr ⟨member, by simp⟩, rfl⟩

theorem valuesAt_eq_nil {entries : List (ι × κ × α)} {row : ι} {column : κ}
    (absent : ∀ entry ∈ entries, entry.1 = row → entry.2.1 ≠ column) :
    valuesAt entries row column = [] := by
  apply List.eq_nil_iff_forall_not_mem.mpr
  intro x member
  exact absent _ (mem_valuesAt.mp member) rfl rfl

theorem valuesAt_append (first second : List (ι × κ × α)) (row : ι) (column : κ) :
    valuesAt (first ++ second) row column =
      valuesAt first row column ++ valuesAt second row column := by
  simp [valuesAt]

theorem valuesAt_cons (entry : ι × κ × α) (rest : List (ι × κ × α)) (row : ι) (column : κ) :
    valuesAt (entry :: rest) row column =
      (if entry.1 = row ∧ entry.2.1 = column then [entry.2.2] else []) ++
        valuesAt rest row column := by
  by_cases here : entry.1 = row ∧ entry.2.1 = column <;> simp [valuesAt, here]

theorem valuesAt_flatMap {τ : Type} (items : List τ) (entries : τ → List (ι × κ × α)) (row : ι)
    (column : κ) :
    valuesAt (items.flatMap entries) row column =
      items.flatMap fun item => valuesAt (entries item) row column := by
  induction items with
  | nil => rfl
  | cons item rest inductionHypothesis =>
      rw [List.flatMap_cons, valuesAt_append, inductionHypothesis, List.flatMap_cons]

/-- Entries of a row are all kept or all dropped by a test of the row. -/
theorem valuesAt_filter (keep : ι → Bool) (entries : List (ι × κ × α)) (row : ι) (column : κ) :
    valuesAt (entries.filter fun entry => keep entry.1) row column =
      if keep row then valuesAt entries row column else [] := by
  induction entries with
  | nil => simp [valuesAt]
  | cons entry rest inductionHypothesis =>
      rw [valuesAt_cons, List.filter_cons]
      by_cases here : entry.1 = row ∧ entry.2.1 = column
      · obtain ⟨rfl, rfl⟩ := here
        by_cases kept : keep entry.1 <;> simp [kept, valuesAt_cons, inductionHypothesis]
      · by_cases kept : keep entry.1 <;> simp [kept, here, valuesAt_cons, inductionHypothesis]

end Positions

/-! ### Sums in order -/

section Sums

variable [Scalar α]

/-- A value added onto a sum, which is the value itself where there is no sum yet. -/
def addOnto (sum : Option α) (x : α) : α :=
  match sum with
  | none => x
  | some y => y + x

/-- The sum of values in their order, if there are any. -/
def sum? (values : List α) : Option α := values.foldl (fun sum x => some (addOnto sum x)) none

theorem sum?_eq_none_iff (values : List α) : sum? values = none ↔ values = [] := by
  have grows : ∀ (rest : List α) (sum : α),
      rest.foldl (fun sum x => some (addOnto sum x)) (some sum) ≠ none := by
    intro rest
    induction rest with
    | nil => simp
    | cons x rest inductionHypothesis => exact fun sum => inductionHypothesis _
  cases values with
  | nil => simp [sum?]
  | cons x rest => simpa [sum?] using grows rest (addOnto none x)

end Sums

/-! ### Stored rows -/

namespace SparseMatrix

/-- A stored row holds each column at most once, with the value of a partial function. -/
structure RowStores (row : List (Nat × α)) (cell : Nat → Option α) : Prop where
  distinct : (row.map (·.1)).Nodup
  stored : ∀ column x, (column, x) ∈ row ↔ cell column = some x

theorem lookup_entry (column : Nat) (entry : Nat × α) (rest : List (Nat × α)) :
    (entry :: rest).lookup column =
      if column = entry.1 then some entry.2 else rest.lookup column := by
  obtain ⟨own, x⟩ := entry
  rw [List.lookup_cons]
  by_cases here : column = own
  · simp [here]
  · simp [here, beq_eq_false_iff_ne.mpr here]

theorem lookup_eq_some_iff {row : List (Nat × α)} (distinct : (row.map (·.1)).Nodup)
    (column : Nat) (x : α) : row.lookup column = some x ↔ (column, x) ∈ row := by
  induction row with
  | nil => simp
  | cons entry rest inductionHypothesis =>
      obtain ⟨new, others⟩ := List.nodup_cons.mp distinct
      by_cases here : column = entry.1
      · subst here
        have later : ∀ y, (entry.1, y) ∉ rest := fun y member =>
          new (List.mem_map.mpr ⟨_, member, rfl⟩)
        rw [lookup_entry, if_pos rfl, Option.some.injEq, List.mem_cons, or_iff_left (later x)]
        exact ⟨fun same => by rw [← same], fun same => by rw [← same]⟩
      · have different : (column, x) ≠ entry := fun same => here (by rw [← same])
        rw [lookup_entry, if_neg here, inductionHypothesis others, List.mem_cons,
          or_iff_right different]

theorem RowStores.lookup {row : List (Nat × α)} {cell : Nat → Option α}
    (stores : RowStores row cell) (column : Nat) : row.lookup column = cell column := by
  apply Option.ext
  intro x
  rw [lookup_eq_some_iff stores.distinct, stores.stored]

/-- The values of a column in a row are the one that is stored for it, if there is one. -/
theorem RowStores.values {row : List (Nat × α)} {cell : Nat → Option α}
    (stores : RowStores row cell) (column : Nat) :
    (row.filter (·.1 = column)).map (·.2) = (cell column).toList := by
  rw [← stores.lookup column]
  have distinct := stores.distinct
  clear stores
  induction row with
  | nil => rfl
  | cons entry rest inductionHypothesis =>
      obtain ⟨new, others⟩ := List.nodup_cons.mp distinct
      by_cases here : column = entry.1
      · subst here
        have none : rest.filter (·.1 = entry.1) = [] := by
          simp only [List.filter_eq_nil_iff, decide_eq_true_eq]
          exact fun other member same => new (List.mem_map.mpr ⟨other, member, same⟩)
        rw [List.filter_cons_of_pos (by simp), none, lookup_entry, if_pos rfl]
        rfl
      · rw [List.filter_cons_of_neg (by simpa using Ne.symm here), lookup_entry, if_neg here]
        exact inductionHypothesis others

variable [Scalar α]

/-! ### Assembled rows -/

/-- The columns of a row ascend. -/
def Ascends (row : List (Nat × α)) : Prop := row.Pairwise fun first second => first.1 < second.1

theorem column_of_mem_addToRow {column : Nat} {x : α} {row : List (Nat × α)}
    {entry : Nat × α} (member : entry ∈ addToRow column x row) :
    entry.1 = column ∨ ∃ known ∈ row, known.1 = entry.1 := by
  induction row with
  | nil =>
      obtain rfl := List.mem_singleton.mp member
      exact .inl rfl
  | cons first rest inductionHypothesis =>
      unfold addToRow at member
      split at member
      · rcases List.mem_cons.mp member with rfl | later
        · exact .inl rfl
        · exact .inr ⟨entry, later, rfl⟩
      · split at member
        · rcases List.mem_cons.mp member with rfl | later
          · exact .inr ⟨first, by simp, rfl⟩
          · exact .inr ⟨entry, by simp [later], rfl⟩
        · rcases List.mem_cons.mp member with rfl | later
          · exact .inr ⟨first, by simp, rfl⟩
          · rcases inductionHypothesis later with same | ⟨known, knownMember, same⟩
            · exact .inl same
            · exact .inr ⟨known, by simp [knownMember], same⟩

omit [Scalar α] in
theorem Ascends.lookup_eq_none {row : List (Nat × α)} {column : Nat}
    (below : ∀ entry ∈ row, column < entry.1) : row.lookup column = none := by
  apply List.lookup_eq_none_iff.mpr
  intro entry member
  have less := below entry member
  simp only [bne_iff_ne, ne_eq]
  omega

theorem Ascends.addToRow {row : List (Nat × α)} (ascends : Ascends row) (column : Nat) (x : α) :
    Ascends (addToRow column x row) ∧ ∀ other, (addToRow column x row).lookup other =
      if other = column then some (addOnto (row.lookup column) x) else row.lookup other := by
  induction row with
  | nil =>
      refine ⟨List.pairwise_singleton _ _, fun other => ?_⟩
      rw [SparseMatrix.addToRow, lookup_entry]
      rfl
  | cons entry rest inductionHypothesis =>
      obtain ⟨first, y⟩ := entry
      obtain ⟨least, later⟩ := List.pairwise_cons.mp ascends
      unfold SparseMatrix.addToRow
      by_cases before : column < first
      · have absent : ((first, y) :: rest).lookup column = none := by
          apply Ascends.lookup_eq_none
          intro entry member
          rcases List.mem_cons.mp member with rfl | inRest
          · exact before
          · exact Nat.lt_trans before (least entry inRest)
        rw [if_pos before, absent]
        refine ⟨List.pairwise_cons.mpr ⟨?_, ascends⟩, fun other => ?_⟩
        · intro entry member
          rcases List.mem_cons.mp member with rfl | inRest
          · exact before
          · exact Nat.lt_trans before (least entry inRest)
        · rw [lookup_entry]
          rfl
      · rw [if_neg before]
        by_cases same : column = first
        · subst same
          rw [if_pos rfl]
          refine ⟨List.pairwise_cons.mpr ⟨least, later⟩, fun other => ?_⟩
          simp only [lookup_entry, if_true, addOnto]
          split <;> rfl
        · rw [if_neg same]
          obtain ⟨restAscends, restLookup⟩ := inductionHypothesis later
          refine ⟨List.pairwise_cons.mpr ⟨?_, restAscends⟩, fun other => ?_⟩
          · intro entry member
            rcases column_of_mem_addToRow member with here | ⟨known, knownMember, here⟩
            · show first < entry.1
              omega
            · exact here ▸ least known knownMember
          · simp only [lookup_entry, restLookup other, if_neg same]
            by_cases atFirst : other = first
            · rw [if_pos atFirst, if_pos atFirst, if_neg (atFirst ▸ Ne.symm same)]
            · rw [if_neg atFirst, if_neg atFirst]

/-- Adding entries to a row adds the values of each column up, in order. -/
theorem Ascends.foldl_addToRow {row : List (Nat × α)} (ascends : Ascends row)
    (entries : List (Nat × α)) :
    Ascends (entries.foldl (fun row entry => SparseMatrix.addToRow entry.1 entry.2 row) row) ∧
      ∀ column,
        (entries.foldl (fun row entry => SparseMatrix.addToRow entry.1 entry.2 row) row).lookup
            column =
          ((entries.filter (·.1 = column)).map (·.2)).foldl
            (fun sum x => some (addOnto sum x)) (row.lookup column) := by
  induction entries generalizing row with
  | nil => exact ⟨ascends, fun _ => rfl⟩
  | cons entry rest inductionHypothesis =>
      obtain ⟨added, looked⟩ := ascends.addToRow entry.1 entry.2
      obtain ⟨all, each⟩ := inductionHypothesis added
      refine ⟨all, fun column => ?_⟩
      rw [List.foldl_cons, each, looked]
      by_cases here : column = entry.1
      · simp [here]
      · simp [here, Ne.symm here]

/-- An assembled row stores the sums of its entries, column by column. -/
theorem rowStores_assembled (entries : List (Nat × Nat × α)) (number : Nat) :
    RowStores ((entries.filter fun entry => entry.1 = number).foldl
      (fun row entry => addToRow entry.2.1 entry.2.2 row) [])
      fun column => sum? (valuesAt entries number column) := by
  have folded : (entries.filter fun entry => entry.1 = number).foldl
      (fun row entry => addToRow entry.2.1 entry.2.2 row) [] =
      ((entries.filter fun entry => entry.1 = number).map (·.2)).foldl
        (fun row entry => addToRow entry.1 entry.2 row) [] := by
    rw [List.foldl_map]
  obtain ⟨ascends, looked⟩ := Ascends.foldl_addToRow (List.Pairwise.nil (α := Nat × α))
    ((entries.filter fun entry => entry.1 = number).map (·.2))
  have distinct := (List.pairwise_map.mpr ascends).imp fun less => Nat.ne_of_lt less
  have values : ∀ column, (((entries.filter fun entry => entry.1 = number).map (·.2)).filter
      (·.1 = column)).map (·.2) = valuesAt entries number column := by
    intro column
    simp only [valuesAt, List.filter_map, List.map_map, List.filter_filter, Function.comp_def,
      Bool.decide_and, Bool.and_comm]
  rw [folded]
  refine ⟨distinct, fun column x => ?_⟩
  rw [← lookup_eq_some_iff distinct, looked column, values]
  rfl

/-! ### Scaled rows -/

/-- What is stored for a value that is multiplied by a factor. -/
def scaled? (factor x : α) : Option α :=
  if Scalar.isZero factor then none
  else if Scalar.isZero (Scalar.zero + factor * x) then none
  else some (Scalar.zero + factor * x)

theorem RowStores.scaleRow {row : List (Nat × α)} {cell : Nat → Option α}
    (stores : RowStores row cell) (factor : α) :
    RowStores (SparseMatrix.scaleRow factor row)
      fun column => (cell column).bind (scaled? factor) := by
  have kept : SparseMatrix.scaleRow factor row = row.reverse.filterMap fun entry =>
      (scaled? factor entry.2).map (entry.1, ·) := by
    unfold SparseMatrix.scaleRow scaled?
    by_cases vanishes : Scalar.isZero factor
    · simp [vanishes]
    · simp only [vanishes, Bool.false_eq_true, if_false]
      apply List.filterMap_congr
      intro entry _
      split <;> rfl
  rw [kept]
  constructor
  · have columns : ((row.reverse.filterMap fun entry =>
        (scaled? factor entry.2).map (entry.1, ·)).map (·.1)).Sublist (row.reverse.map (·.1)) := by
      induction row.reverse with
      | nil => exact List.Sublist.slnil
      | cons entry rest inductionHypothesis =>
          rw [List.filterMap_cons]
          cases scaled? factor entry.2 with
          | none => exact inductionHypothesis.cons _
          | some product => exact inductionHypothesis.cons_cons _
    refine List.Nodup.sublist columns ?_
    rw [List.map_reverse, List.nodup_reverse]
    exact stores.distinct
  · intro column x
    rw [List.mem_filterMap, Option.bind_eq_some_iff]
    constructor
    · rintro ⟨⟨c, y⟩, member, scaled⟩
      obtain ⟨product, same, pair⟩ := Option.map_eq_some_iff.mp scaled
      cases pair
      exact ⟨y, (stores.stored c y).mp (List.mem_reverse.mp member), same⟩
    · rintro ⟨y, known, same⟩
      refine ⟨(column, y), List.mem_reverse.mpr ((stores.stored column y).mpr known), ?_⟩
      rw [same]
      rfl

end SparseMatrix

end Regrid
