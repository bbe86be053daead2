import Mathlib.Data.List.Nodup
import Mathlib.Data.Finset.Card
import Mathlib.Data.Int.Interval
import Regrid.Mesh.Table
import Regrid.Proofs.Value

/-!
Contract: tables whose bookkeeping agrees with their entries.

Owns:
- what it means that keys, largest key and extent of a table agree;
- one lemma for each operation on tables, which says that they still agree afterwards;
- when a key is admitted.

Does not own: the meshes that hold the tables.
-/

namespace Regrid.Table

variable {ι κ : Type}

/-- The keys of a table are different natural numbers, each of them the own index of its
item, the top is the largest one, and the extent lies above it. -/
structure WellKeyed (indexOf : ι → Value) (table : Table ι) : Prop where
  distinct : table.keys.Nodup
  natural : ∀ key ∈ table.keys, 0 ≤ key
  indexed : ∀ key item, (key, item) ∈ table.entries → indexOf item = .int key
  top_none : table.keys = [] → table.top = -1
  top_mem : table.keys ≠ [] → table.top ∈ table.keys
  le_top : ∀ key ∈ table.keys, key ≤ table.top
  top_lt_extent : table.top < table.extent

/-! ### Largest keys -/

private theorem foldl_max_bounds (keys : List Int) (start : Int) :
    start ≤ keys.foldl max start ∧ (∀ key ∈ keys, key ≤ keys.foldl max start) ∧
      (keys.foldl max start = start ∨ keys.foldl max start ∈ keys) := by
  induction keys generalizing start with
  | nil => simp
  | cons key rest inductionHypothesis =>
      obtain ⟨least, all, attained⟩ := inductionHypothesis (max start key)
      simp only [List.foldl_cons, List.mem_cons, forall_eq_or_imp]
      refine ⟨by omega, ⟨by omega, all⟩, ?_⟩
      rcases attained with same | member
      · rw [same]
        rcases le_total start key with below | above
        · exact .inr (.inl (max_eq_right below))
        · exact .inl (max_eq_left above)
      · exact .inr (.inr member)

theorem le_topOf {keys : List Int} {key : Int} (member : key ∈ keys) : key ≤ topOf keys :=
  (foldl_max_bounds keys (-1)).2.1 key member

theorem neg_one_le_topOf (keys : List Int) : -1 ≤ topOf keys := (foldl_max_bounds keys (-1)).1

theorem topOf_mem {keys : List Int} (natural : ∀ key ∈ keys, 0 ≤ key) (some : keys ≠ []) :
    topOf keys ∈ keys := by
  rcases (foldl_max_bounds keys (-1)).2.2 with least | member
  · obtain ⟨key, rest, rfl⟩ := List.exists_cons_of_ne_nil some
    have first := natural key (by simp)
    have atMost : key ≤ topOf (key :: rest) := le_topOf (by simp)
    unfold topOf at atMost
    omega
  · exact member

theorem topOf_lt_iff {keys : List Int} {bound : Int} (natural : 0 ≤ bound) :
    topOf keys < bound ↔ ∀ key ∈ keys, key < bound := by
  constructor
  · intro below key member
    exact lt_of_le_of_lt (le_topOf member) below
  · intro below
    rcases (foldl_max_bounds keys (-1)).2.2 with least | member
    · unfold topOf
      omega
    · exact below _ member

/-- The largest of natural keys is the only number that is one of them and bounds them. -/
theorem WellKeyed.top_eq {indexOf : ι → Value} {table : Table ι}
    (wellKeyed : table.WellKeyed indexOf) : table.top = topOf table.keys := by
  by_cases none : table.keys = []
  · rw [wellKeyed.top_none none, none]
    rfl
  · exact le_antisymm (le_topOf (wellKeyed.top_mem none))
      (wellKeyed.le_top _ (topOf_mem wellKeyed.natural none))

theorem WellKeyed.neg_one_le_top {indexOf : ι → Value} {table : Table ι}
    (wellKeyed : table.WellKeyed indexOf) : -1 ≤ table.top := by
  rw [wellKeyed.top_eq]
  exact neg_one_le_topOf table.keys

theorem WellKeyed.extent_natural {indexOf : ι → Value} {table : Table ι}
    (wellKeyed : table.WellKeyed indexOf) : 0 ≤ table.extent := by
  have least := wellKeyed.neg_one_le_top
  have below := wellKeyed.top_lt_extent
  omega

theorem WellKeyed.lt_extent {indexOf : ι → Value} {table : Table ι}
    (wellKeyed : table.WellKeyed indexOf) {key : Int} (used : key ∈ table.keys) :
    key < table.extent :=
  lt_of_le_of_lt (wellKeyed.le_top key used) wellKeyed.top_lt_extent

/-! ### Keys in use -/

theorem contains_iff {table : Table ι} {key : Int} :
    table.contains key = true ↔ key ∈ table.keys := by
  simp [contains, keys]

theorem mem_keys_of_mem {table : Table ι} {key : Int} {item : ι}
    (member : (key, item) ∈ table.entries) : key ∈ table.keys :=
  List.mem_map.mpr ⟨(key, item), member, rfl⟩

theorem mem_items_of_mem {table : Table ι} {key : Int} {item : ι}
    (member : (key, item) ∈ table.entries) : item ∈ table.items :=
  List.mem_map.mpr ⟨(key, item), member, rfl⟩

theorem keys_map (f : κ → ι) (table : Table κ) : (table.map f).keys = table.keys := by
  simp [keys, map]

theorem items_map (f : κ → ι) (table : Table κ) : (table.map f).items = table.items.map f := by
  simp [items, map]

theorem map_congr {table : Table ι} {f g : ι → κ} (same : ∀ item ∈ table.items, f item = g item) :
    table.map f = table.map g := by
  have entries : table.entries.map (fun entry => (entry.1, f entry.2)) =
      table.entries.map fun entry => (entry.1, g entry.2) :=
    List.map_congr_left fun entry member => by rw [same _ (mem_items_of_mem member)]
  rw [map, map, entries]

theorem get?_map (f : κ → ι) (table : Table κ) (key : Int) :
    (table.map f).get? key = (table.get? key).map f := by
  simp only [get?, map, List.find?_map, Option.map_map]
  rfl

theorem get_map (f : κ → ι) (table : Table κ) (key : Int) :
    (table.map f).get key = do return f (← table.get key) := by
  rw [get, get, get?_map]
  cases table.get? key <;> rfl

theorem getAt_map (f : κ → ι) (table : Table κ) (value : Value) :
    (table.map f).getAt value = do return f (← table.getAt value) := by
  have members : (table.map f).member? value = table.member? value := by
    have used : (table.map f).contains = table.contains := by
      funext key
      simp only [contains, map, List.any_map]
      rfl
    rw [member?, member?, used]
  rw [getAt, getAt, members]
  cases table.member? value with
  | error reason => rfl
  | ok found =>
      cases found with
      | none => rfl
      | some key => exact get_map f table key

theorem get?_eq_some {table : Table ι} (distinct : table.keys.Nodup) {key : Int} {item : ι}
    (member : (key, item) ∈ table.entries) : table.get? key = some item := by
  unfold get?
  unfold keys at distinct
  generalize table.entries = entries at distinct member
  induction entries with
  | nil => simp at member
  | cons entry rest inductionHypothesis =>
      simp only [List.map_cons, List.nodup_cons] at distinct
      rcases List.mem_cons.mp member with same | later
      · simp [← same]
      · have other : entry.1 ≠ key := by
          intro same
          exact distinct.1 (List.mem_map.mpr ⟨(key, item), later, same.symm⟩)
        rw [List.find?_cons_of_neg (by simpa using other)]
        exact inductionHypothesis distinct.2 later

theorem eq_of_mem {table : Table ι} (distinct : table.keys.Nodup) {key : Int} {first second : ι}
    (firstMember : (key, first) ∈ table.entries) (secondMember : (key, second) ∈ table.entries) :
    first = second :=
  Option.some.inj ((get?_eq_some distinct firstMember).symm.trans
    (get?_eq_some distinct secondMember))

theorem not_mem_keys_of_get? {table : Table ι} {key : Int} (absent : table.get? key = none) :
    key ∉ table.keys := by
  intro used
  obtain ⟨entry, member, rfl⟩ := List.mem_map.mp used
  rw [get?, Option.map_eq_none_iff, List.find?_eq_none] at absent
  exact absent entry member (beq_self_eq_true _)

theorem member?_int (table : Table ι) (key : Int) :
    table.member? (.int key) = .ok (if key ∈ table.keys then some key else none) := by
  have filtered : (some key).filter table.contains =
      if key ∈ table.keys then some key else none := by
    by_cases used : key ∈ table.keys
    · simp [used, contains_iff.mpr used]
    · have unused : table.contains key = false := by
        rw [Bool.eq_false_iff, ne_eq, contains_iff]
        exact used
      simp [used, unused]
  rw [← filtered]
  rfl

/-- A value that is found equals a key in use. -/
theorem member?_eq_some {table : Table ι} {value : Value} {key : Int}
    (found : table.member? value = .ok (some key)) :
    value.integerKey? = .ok (some key) ∧ key ∈ table.keys := by
  unfold member? at found
  cases same : value.integerKey? with
  | error reason => simp [same, bind, Except.bind] at found
  | ok known =>
      simp only [same, bind, Except.bind, pure, Except.pure, Except.ok.injEq] at found
      obtain ⟨rfl, used⟩ := Option.filter_eq_some_iff.mp found
      exact ⟨rfl, contains_iff.mp used⟩

theorem member?_of_integerKey? {table : Table ι} {value : Value} {key : Int}
    (same : value.integerKey? = .ok (some key)) (used : key ∈ table.keys) :
    table.member? value = .ok (some key) := by
  rw [member?, same]
  exact congrArg Except.ok (Option.filter_eq_some_iff.mpr ⟨rfl, contains_iff.mpr used⟩)

theorem exists_get {table : Table ι} {key : Int} (used : key ∈ table.keys) :
    ∃ item, table.get key = .ok item := by
  unfold get
  cases found : table.get? key with
  | none => exact absurd used (not_mem_keys_of_get? found)
  | some item => exact ⟨item, rfl⟩

theorem get_of_mem {table : Table ι} (distinct : table.keys.Nodup) {key : Int} {item : ι}
    (member : (key, item) ∈ table.entries) : table.get key = .ok item := by
  rw [get, get?_eq_some distinct member]

/-- A value that equals a key leads to its entity. -/
theorem getAt_of_mem {table : Table ι} (distinct : table.keys.Nodup) {key : Int} {item : ι}
    (member : (key, item) ∈ table.entries) {value : Value}
    (same : value.integerKey? = .ok (some key)) : table.getAt value = .ok item := by
  rw [getAt, member?_of_integerKey? same (mem_keys_of_mem member)]
  exact get_of_mem distinct member

theorem mem_of_get {table : Table ι} {key : Int} {item : ι} (found : table.get key = .ok item) :
    (key, item) ∈ table.entries := by
  unfold get get? at found
  cases entry : table.entries.find? fun entry => entry.1 == key with
  | none => simp [entry] at found
  | some known =>
      have same := List.find?_some entry
      simp only [entry, Option.map_some, Except.ok.injEq] at found
      obtain rfl := found
      obtain rfl := beq_iff_eq.mp same
      exact List.mem_of_find?_eq_some entry

/-- A key is admitted when it is natural, inside a fixed extent, and new. -/
theorem checkKey_eq_ok_iff (kind : EntityKind) (table : Table ι) (key : Int) :
    table.checkKey kind key = .ok () ↔
      0 ≤ key ∧ (∀ extent, table.fixedExtent = some extent → key < extent) ∧
        key ∉ table.keys := by
  have used : (table.contains key = true) = (key ∈ table.keys) := propext contains_iff
  unfold checkKey
  split
  next negative => simp [show ¬ 0 ≤ key by omega]
  next natural =>
    cases table.fixedExtent with
    | none => by_cases known : key ∈ table.keys <;> simp [used, known]; omega
    | some extent =>
        by_cases outside : extent ≤ key
        · simp [outside]
        · by_cases known : key ∈ table.keys <;> simp [used, known, outside]; omega

/-- The next free key is refused only at a fixed extent. -/
theorem checkKey_nextKey_eq_error {indexOf : ι → Value} {table : Table ι}
    (wellKeyed : table.WellKeyed indexOf) {kind : EntityKind} {reason : Error}
    (refused : table.checkKey kind table.nextKey = .error reason) :
    table.fixedExtent = some table.nextKey ∧
      reason = .beyondExtent kind table.nextKey table.nextKey := by
  have natural : ¬ table.nextKey < 0 := by
    have least := wellKeyed.neg_one_le_top
    unfold nextKey
    omega
  have new : table.contains table.nextKey = false := by
    rw [Bool.eq_false_iff, ne_eq, contains_iff]
    intro used
    have atMost := wellKeyed.le_top _ used
    unfold nextKey at atMost
    omega
  have above := wellKeyed.top_lt_extent
  rw [checkKey, if_neg natural, new] at refused
  cases fixed : table.fixedExtent with
  | none =>
      rw [fixed] at refused
      cases refused
  | some extent =>
      rw [fixed] at refused
      simp only [Bool.false_eq_true, if_false] at refused
      split at refused
      next beyond =>
        rw [Table.extent, fixed, Option.getD_some] at above
        obtain rfl : extent = table.nextKey := by
          unfold nextKey at beyond ⊢
          omega
        exact ⟨rfl, (Except.error.inj refused).symm⟩
      next => cases refused

/-- The key that is next is never refused as a repeated one. -/
theorem checkKey_nextKey_ne_repeated {indexOf : ι → Value} {table : Table ι}
    (wellKeyed : table.WellKeyed indexOf) (kind repeated : EntityKind) (key : Int) :
    table.checkKey kind table.nextKey ≠ .error (.repeatedIndex repeated key) := by
  intro refused
  cases (checkKey_nextKey_eq_error wellKeyed refused).2

/-! ### The order by key -/

theorem sorted_perm (table : Table ι) : table.sorted.Perm table.entries :=
  List.mergeSort_perm _ _

theorem keys_sorted_perm (table : Table ι) : (table.sorted.map (·.1)).Perm table.keys :=
  table.sorted_perm.map _

theorem pairwise_sorted (table : Table ι) :
    table.sorted.Pairwise fun first second => first.1 ≤ second.1 := by
  let atMost (first second : Int × ι) : Bool := decide (first.1 ≤ second.1)
  have transitive : ∀ first second third, atMost first second → atMost second third →
      atMost first third := by
    intro first second third
    simp only [atMost, decide_eq_true_eq]
    omega
  have total : ∀ first second, (atMost first second || atMost second first) = true := by
    intro first second
    simp only [atMost, Bool.or_eq_true, decide_eq_true_eq]
    omega
  exact (List.pairwise_mergeSort transitive total table.entries).imp of_decide_eq_true

/-- Entries in the order of their keys stay as they are. -/
theorem sorted_of_pairwise {table : Table ι}
    (ascending : table.entries.Pairwise fun first second => first.1 ≤ second.1) :
    table.sorted = table.entries :=
  List.mergeSort_of_pairwise (ascending.imp decide_eq_true)

/-! ### Operations -/

variable {indexOf : ι → Value} {table : Table ι}

theorem wellKeyed_empty (indexOf : ι → Value) : (empty : Table ι).WellKeyed indexOf where
  distinct := List.nodup_nil
  natural := by simp [empty, keys]
  indexed := by simp [empty]
  top_none := fun _ => rfl
  top_mem := fun some => absurd rfl some
  le_top := by simp [empty, keys]
  top_lt_extent := (by decide : (-1 : Int) < 0)

/-- Only what the items of a table say about their index matters. -/
theorem WellKeyed.congr (wellKeyed : table.WellKeyed indexOf) {other : ι → Value}
    (same : ∀ key item, (key, item) ∈ table.entries → other item = indexOf item) :
    table.WellKeyed other :=
  { wellKeyed with
    indexed := fun key item member =>
      (same key item member).trans (wellKeyed.indexed key item member) }

/-- No item stands under two keys. -/
theorem WellKeyed.items_nodup (wellKeyed : table.WellKeyed indexOf) : table.items.Nodup := by
  have indices : table.items.map indexOf = table.keys.map .int := by
    simp only [items, keys, List.map_map]
    apply List.map_congr_left
    intro entry member
    exact wellKeyed.indexed entry.1 entry.2 member
  apply List.Nodup.of_map indexOf
  rw [indices]
  exact wellKeyed.distinct.map fun _ _ same => Value.int.inj same

/-- Natural keys up to the top leave no room for more entries than that. -/
theorem WellKeyed.size_le (wellKeyed : table.WellKeyed indexOf) :
    (table.items.length : Int) ≤ table.top + 1 := by
  have inside : table.keys.toFinset ⊆ Finset.Icc 0 table.top := by
    intro key member
    have used := List.mem_toFinset.mp member
    exact Finset.mem_Icc.mpr ⟨wellKeyed.natural key used, wellKeyed.le_top key used⟩
  have counted := Finset.card_le_card inside
  rw [List.toFinset_card_of_nodup wellKeyed.distinct, Int.card_Icc] at counted
  have sameLength : table.items.length = table.keys.length := by simp [items, keys]
  have top := wellKeyed.neg_one_le_top
  omega

theorem wellKeyed_map_iff (f : κ → ι) (table : Table κ) :
    (table.map f).WellKeyed indexOf ↔ table.WellKeyed fun item => indexOf (f item) := by
  have sameKeys := keys_map f table
  constructor
  · intro wellKeyed
    obtain ⟨distinct, natural, indexed, top_none, top_mem, le_top, top_lt_extent⟩ := wellKeyed
    rw [sameKeys] at distinct natural top_none top_mem le_top
    refine ⟨distinct, natural, ?_, top_none, top_mem, le_top, top_lt_extent⟩
    intro key item member
    exact indexed key (f item) (List.mem_map.mpr ⟨(key, item), member, rfl⟩)
  · intro wellKeyed
    obtain ⟨distinct, natural, indexed, top_none, top_mem, le_top, top_lt_extent⟩ := wellKeyed
    rw [← sameKeys] at distinct natural top_none top_mem le_top
    refine ⟨distinct, natural, ?_, top_none, top_mem, le_top, top_lt_extent⟩
    intro key item member
    obtain ⟨⟨_, shared⟩, sharedMember, same⟩ := List.mem_map.mp member
    cases same
    exact indexed _ shared sharedMember

theorem keys_push (table : Table ι) (key : Int) (item : ι) :
    (table.push key item).keys = table.keys ++ [key] := by
  simp [keys, push]

theorem items_push (table : Table ι) (key : Int) (item : ι) :
    (table.push key item).items = table.items ++ [item] := by
  simp [items, push]

theorem map_push (f : ι → κ) (table : Table ι) (key : Int) (item : ι) :
    (table.push key item).map f = (table.map f).push key (f item) := by
  simp [push, map]

theorem WellKeyed.push (wellKeyed : table.WellKeyed indexOf) {kind : EntityKind} {key : Int}
    (admitted : table.checkKey kind key = .ok ()) {item : ι} (own : indexOf item = .int key) :
    (table.push key item).WellKeyed indexOf := by
  obtain ⟨natural, inside, new⟩ := (checkKey_eq_ok_iff kind table key).mp admitted
  have members : ∀ other, other ∈ (table.push key item).keys ↔
      other ∈ table.keys ∨ other = key := by
    simp [keys_push]
  constructor
  · rw [keys_push, List.nodup_append]
    refine ⟨wellKeyed.distinct, List.nodup_singleton key, ?_⟩
    intro used usedMember other otherMember same
    rw [List.mem_singleton.mp otherMember] at same
    exact new (same ▸ usedMember)
  · intro other member
    rcases (members other).mp member with used | rfl
    · exact wellKeyed.natural other used
    · exact natural
  · intro other entity member
    simp only [Table.push, List.mem_append, List.mem_singleton, Prod.mk.injEq] at member
    rcases member with earlier | ⟨rfl, rfl⟩
    · exact wellKeyed.indexed other entity earlier
    · exact own
  · simp [keys_push]
  · intro _
    rw [members]
    simp only [Table.push]
    rcases le_total table.top key with below | above
    · exact .inr (max_eq_right below)
    · by_cases none : table.keys = []
      · have top := wellKeyed.top_none none
        omega
      · rw [max_eq_left above]
        exact .inl (wellKeyed.top_mem none)
  · intro other member
    simp only [Table.push]
    rcases (members other).mp member with used | rfl
    · have atMost := wellKeyed.le_top other used
      omega
    · omega
  · have below := wellKeyed.top_lt_extent
    simp only [Table.push, extent] at below ⊢
    cases fixed : table.fixedExtent with
    | none => simp
    | some extent =>
        have keyInside := inside extent fixed
        simp only [fixed, Option.getD_some] at below ⊢
        omega

/-- The table that numbers items from zero in their order. -/
theorem wellKeyed_zipIdx (items : List ι)
    (indexed : ∀ item number, (item, number) ∈ items.zipIdx → indexOf item = .int number)
    (fixedExtent : Option Int) (inside : ∀ extent, fixedExtent = some extent →
      (items.length : Int) ≤ extent) :
    (Table.mk (items.zipIdx.map fun entry => ((entry.2 : Int), entry.1))
      ((items.length : Int) - 1) fixedExtent).WellKeyed indexOf := by
  have keys : (Table.mk (items.zipIdx.map fun entry => ((entry.2 : Int), entry.1))
      ((items.length : Int) - 1) fixedExtent).keys = (List.range items.length).map Nat.cast := by
    simp only [Table.keys, List.map_map, List.range_eq_range', ← List.zipIdx_map_snd 0 items]
    rfl
  constructor
  · rw [keys]
    exact List.nodup_range.map fun _ _ same => Int.ofNat.inj same
  · rw [keys]
    simp
  · intro key item member
    obtain ⟨⟨_, number⟩, entryMember, same⟩ := List.mem_map.mp member
    cases same
    exact indexed _ _ entryMember
  · rw [keys]
    simp
  · rw [keys]
    intro some
    have positive : 0 < items.length := by
      rcases Nat.eq_zero_or_pos items.length with none | positive
      · simp [none] at some
      · exact positive
    refine List.mem_map.mpr ⟨items.length - 1, List.mem_range.mpr (by omega), ?_⟩
    change ((items.length - 1 : Nat) : Int) = (items.length : Int) - 1
    omega
  · rw [keys]
    intro key member
    obtain ⟨number, below, rfl⟩ := List.mem_map.mp member
    have bound := List.mem_range.mp below
    simp only []
    omega
  · cases fixedExtent with
    | none => simp [extent]
    | some extent =>
        have atMost := inside extent rfl
        simp only [Table.extent, Option.getD_some]
        omega

/-- The table of rows with different natural keys below its extent. -/
theorem wellKeyed_rows {rows : List (Int × ι)} (distinct : (rows.map (·.1)).Nodup)
    (natural : ∀ key ∈ rows.map (·.1), 0 ≤ key)
    (indexed : ∀ key item, (key, item) ∈ rows → indexOf item = .int key) {extent : Int}
    (extentNatural : 0 ≤ extent) (below : ∀ key ∈ rows.map (·.1), key < extent) :
    (Table.mk rows (topOf (rows.map (·.1))) (some extent)).WellKeyed indexOf where
  distinct := distinct
  natural := natural
  indexed := indexed
  top_none := by
    intro none
    have empty : rows.map (·.1) = [] := none
    simp only [empty, topOf, List.foldl_nil]
  top_mem := fun some => topOf_mem natural some
  le_top := fun _ member => le_topOf member
  top_lt_extent := (topOf_lt_iff extentNatural).mpr below

theorem WellKeyed.freeze (wellKeyed : table.WellKeyed indexOf) :
    table.freeze.WellKeyed indexOf :=
  { wellKeyed with }

theorem keys_restrict (keep : Int → Bool) (table : Table ι) :
    (table.restrict keep).keys = table.keys.filter keep := by
  simp only [keys, restrict, List.filter_map]
  rfl

theorem WellKeyed.restrict (wellKeyed : table.WellKeyed indexOf) (keep : Int → Bool) :
    (table.restrict keep).WellKeyed indexOf := by
  have sub : ∀ key ∈ (table.restrict keep).keys, key ∈ table.keys := by
    intro key member
    rw [keys_restrict] at member
    exact (List.mem_filter.mp member).1
  have natural : ∀ key ∈ (table.restrict keep).keys, 0 ≤ key := fun key member =>
    wellKeyed.natural key (sub key member)
  have top : (table.restrict keep).top = topOf (table.restrict keep).keys := rfl
  constructor
  · rw [keys_restrict]
    exact wellKeyed.distinct.filter keep
  · exact natural
  · intro key item member
    exact wellKeyed.indexed key item (List.mem_of_mem_filter member)
  · intro none
    rw [top, none]
    rfl
  · intro some
    rw [top]
    exact topOf_mem natural some
  · intro key member
    rw [top]
    exact le_topOf member
  · rw [top]
    have lower : topOf (table.restrict keep).keys ≤ table.top := by
      by_cases none : (table.restrict keep).keys = []
      · rw [none]
        exact wellKeyed.neg_one_le_top
      · exact wellKeyed.le_top _ (sub _ (topOf_mem natural none))
    generalize (table.restrict keep).keys = kept at lower top
    have below := wellKeyed.top_lt_extent
    have sameFixed : (table.restrict keep).fixedExtent = table.fixedExtent := rfl
    simp only [extent, sameFixed, top] at below ⊢
    cases fixed : table.fixedExtent with
    | none => simp
    | some extent =>
        simp only [fixed, Option.getD_some] at below ⊢
        omega

/-- Fixing an extent at an integer. -/
theorem fixExtent_int (kind : EntityKind) (extent : Int) (table : Table ι) :
    table.fixExtent kind (.int extent) =
      if extent < 0 then .error (.negativeExtent kind (Value.int extent).plain)
      else if extent ≤ table.top then
        .error (.extentTooSmall kind (Value.int extent).plain table.top)
      else .ok { table with fixedExtent := some extent } := by
  simp only [fixExtent, Value.isBelow_int, Value.isAtMost_int, Value.toInteger_int]
  by_cases negative : extent < 0
  · simp [negative]
    rfl
  · by_cases small : extent ≤ table.top
    · simp [negative, small]
      rfl
    · simp [negative, small]
      rfl

theorem entries_fixExtent {kind : EntityKind} {extent : Int} {fixed : Table ι}
    (done : table.fixExtent kind (.int extent) = .ok fixed) :
    fixed.entries = table.entries := by
  rw [fixExtent_int] at done
  split at done
  · cases done
  · split at done
    · cases done
    · cases done
      rfl

theorem WellKeyed.fixExtent (wellKeyed : table.WellKeyed indexOf) {kind : EntityKind}
    {extent : Int} {fixed : Table ι} (done : table.fixExtent kind (.int extent) = .ok fixed) :
    fixed.WellKeyed indexOf := by
  rw [fixExtent_int] at done
  split at done
  · cases done
  · split at done
    · cases done
    · cases done
      exact { wellKeyed with top_lt_extent := by simp only [Table.extent, Option.getD_some]; omega }

end Regrid.Table
