import Mathlib.Data.List.TakeWhile
import Regrid.Proofs.Attempt
import Regrid.Proofs.Store.Encoding
import Regrid.Proofs.Store.Name
import Regrid.Store.Archive

/-!
Contract: what each step of writing a file changes, and that it changes nothing else.

Owns:
- files in which every array covers its dimensions and no dimension has grown;
- the difference between two files by names, and how differences add up;
- one difference for each step: making a dimension, defining a variable, setting
  attributes, and writing an array without empty dimensions.

Does not own: the order of these steps, and files of other formats.
-/

namespace Regrid

open Attempt StoredName

/-! ### Attributes and elements -/

/-- A text that a file keeps as it is: it has bytes and no NUL. -/
structure KeptText (text : String) : Prop where
  whole : Text.isWhole text = true
  plain : ∀ c ∈ text.toList, c.toNat ≠ 0

theorem keptText_iff (text : String) :
    KeptText text ↔ ∀ c ∈ text.toList, (Text.half? c).isNone = true ∧ c.toNat ≠ 0 := by
  refine ⟨fun ⟨whole, plain⟩ c member => ?_, fun both => ⟨?_, fun c member => (both c member).2⟩⟩
  · exact ⟨List.all_eq_true.mp whole c member, plain c member⟩
  · exact List.all_eq_true.mpr fun c member => (both c member).1

theorem keptText_append (first second : String) :
    KeptText (first ++ second) ↔ KeptText first ∧ KeptText second := by
  simp only [keptText_iff, String.toList_append, List.forall_mem_append]

/-- A text is kept if its characters, which are given, are. -/
theorem keptText_of_eq {text : String} {cs : List Char} (listed : text = String.ofList cs)
    (plain : (cs.all fun c => (Text.half? c).isNone && c.toNat ≠ 0) = true) : KeptText text := by
  rw [listed, keptText_iff, String.toList_ofList]
  simpa using plain

theorem keptText_fillParagraph {paragraph : String} (kept : KeptText paragraph) (width : Nat) :
    KeptText (Text.fillParagraph width paragraph) := by
  rw [keptText_iff] at kept ⊢
  exact Text.forall_fillParagraph (by decide) (by decide) kept

namespace Attribute

/-- An attribute as a file hands it out. -/
def held (given : Attribute) : Attribute := { given with isRow := true }

/-- A file keeps an attribute with its value. -/
def KeptAs (given : Attribute) : Prop := given.kept .current = .ok given.held

theorem withoutEnd_of_plain {text : String} (plain : ∀ c ∈ text.toList, c.toNat ≠ 0) :
    withoutEnd text = text := by
  have kept : text.toList.reverse.dropWhile (fun c => c.toNat = 0) = text.toList.reverse := by
    cases reversed : text.toList.reverse with
    | nil => rfl
    | cons last rest =>
        have member : last ∈ text.toList := List.mem_reverse.mp (reversed ▸ List.mem_cons_self)
        rw [List.dropWhile_cons, if_neg (by simpa using plain last member)]
  rw [withoutEnd, kept, List.reverse_reverse, String.ofList_toList]

theorem keptText_of_plain {text : String} (plain : ∀ c ∈ text.toList, c.toNat ≠ 0)
    (format : FileFormat) : keptText format text = text := by
  have taken : text.toList.takeWhile (fun c => c.toNat ≠ 0) = text.toList :=
    List.takeWhile_eq_self_iff.mpr fun c member => decide_eq_true (plain c member)
  have filtered : text.toList.filter (fun c => c.toNat ≠ 0) = text.toList :=
    List.filter_eq_self.mpr fun c member => decide_eq_true (plain c member)
  rw [keptText, untilNul, withoutNuls, taken, filtered, String.ofList_toList, ite_self]

theorem kept_text {text : String} (kept : KeptText text) : (Attribute.text text).KeptAs := by
  obtain ⟨bytes, plain⟩ := kept
  have read : vector (.text text) = .ok ⟨[], [.text text]⟩ := rfl
  have type : ItemType.common [.text text] = .text := rfl
  have whole : ([Value.text text].any fun item => !Text.isWhole item.plain) = false := by
    simp [Value.plain, bytes]
  simp only [KeptAs, Attribute.kept, Attribute.text, read, bind, Except.bind, type, whole]
  have same : keptText .current (withoutEnd text) = text := by
    rw [withoutEnd_of_plain plain, keptText_of_plain plain]
  simp only [Tensor.map, List.map_cons, List.map_nil, Value.plain, same]
  rfl

theorem kept_short {n : Int} (word : IsWord n) : (Attribute.short n).KeptAs := by
  have small : Scalar.leastInt64 ≤ n ∧ n < -Scalar.leastInt64 := by
    obtain ⟨least, most⟩ := word
    simp only [Scalar.leastInt64]
    omega
  have type : ItemType.common [.int n] = .signed := by
    rw [ItemType.common, List.foldl_nil, ItemType.ofValue, if_pos small]
  have wrapped : IntegerType.int32.wrap n = n := Int.bmod_eq_of_le word.1 word.2
  have single : Tensor.ofValue (fun item => .ok item) (.int n) = .ok ⟨[], [.int n]⟩ := rfl
  have read : vector (.int n) = .ok ⟨[], [.int n]⟩ := by
    rw [vector, Value.toArray, single]
    simp only [bind, Except.bind, pure, Except.pure, type]
    rfl
  simp only [KeptAs, Attribute.kept, Attribute.short, read, bind, Except.bind, type, Bool.true_or,
    if_true]
  simp only [Tensor.map, List.map_cons, List.map_nil, wrapped]
  rfl

end Attribute

/-! ### Names in a dataset -/

namespace Variable

theorem lookup_cons_eq_ite {β : Type} (key : String) (entry : String × β)
    (rest : List (String × β)) :
    (entry :: rest).lookup key = if key = entry.1 then some entry.2 else rest.lookup key := by
  rw [List.lookup_cons]
  by_cases here : key = entry.1
  · simp [here]
  · simp [here, beq_eq_false_iff_ne.mpr here]

theorem lookup_putEntry {β : Type} (key other : String) (value : β)
    (entries : List (String × β)) :
    (putEntry key value entries).lookup other =
      if other = key then some value else entries.lookup other := by
  induction entries with
  | nil => rw [putEntry, lookup_cons_eq_ite]
  | cons entry rest inductionHypothesis =>
      unfold putEntry
      by_cases own : entry.1 = key
      · subst own
        rw [if_pos rfl, lookup_cons_eq_ite, lookup_cons_eq_ite]
        split <;> rfl
      · rw [if_neg own, lookup_cons_eq_ite, lookup_cons_eq_ite, inductionHypothesis]
        by_cases first : other = entry.1
        · rw [if_pos first, if_pos first, if_neg (first ▸ own)]
        · rw [if_neg first, if_neg first]

theorem lookup_mapValues {β : Type} (f : String → β → β) (key : String)
    (entries : List (String × β)) :
    (entries.map fun entry => (entry.1, f entry.1 entry.2)).lookup key =
      (entries.lookup key).map (f key) := by
  induction entries with
  | nil => rfl
  | cons entry rest inductionHypothesis =>
      rw [List.map_cons, lookup_cons_eq_ite, lookup_cons_eq_ite, inductionHypothesis]
      by_cases here : key = entry.1
      · simp [here]
      · simp [here]

theorem mem_of_lookup {β : Type} {key : String} {value : β} {entries : List (String × β)}
    (found : entries.lookup key = some value) : (key, value) ∈ entries := by
  obtain ⟨early, late, rfl, _⟩ := List.lookup_eq_some_iff.mp found
  simp

theorem mem_putEntry {β : Type} {key : String} {value : β} {entries : List (String × β)}
    {entry : String × β} (member : entry ∈ putEntry key value entries) :
    entry = (key, value) ∨ entry ∈ entries := by
  induction entries with
  | nil => exact .inl (List.mem_singleton.mp member)
  | cons known rest inductionHypothesis =>
      unfold putEntry at member
      split at member
      next own =>
        rcases List.mem_cons.mp member with rfl | later
        · exact .inl (by rw [own])
        · exact .inr (List.mem_cons_of_mem _ later)
      next =>
        rcases List.mem_cons.mp member with rfl | later
        · exact .inr List.mem_cons_self
        · exact (inductionHypothesis later).imp id (List.mem_cons_of_mem _)

theorem putEntry_of_lookup {β : Type} {key : String} {entries : List (String × β)}
    (absent : entries.lookup key = none) (value : β) :
    putEntry key value entries = entries ++ [(key, value)] := by
  induction entries with
  | nil => rfl
  | cons known rest inductionHypothesis =>
      rw [lookup_cons_eq_ite] at absent
      by_cases own : key = known.1
      · rw [if_pos own] at absent
        cases absent
      · rw [if_neg own] at absent
        rw [putEntry, if_neg (Ne.symm own), inductionHypothesis absent, List.cons_append]

end Variable

/-! ### Differences between files -/

/-- A dimension that is as it was made. -/
def Dimension.made (name : String) (size : Nat) : Dimension := ⟨name, size, size = 0⟩

namespace Archive

variable {α : Type}

/-- A variable covers dimensions that are as they were made. -/
def Covers (archive : Archive α) (var : Variable α) : Prop :=
  List.Forall₂ (fun name size => archive.dimension? name = some (.made name size))
    var.dimensions var.shape

/-- A file of the current format in which every array covers its dimensions. -/
structure Settled (archive : Archive α) : Prop where
  format : archive.format = .current
  covers : ∀ entry ∈ archive.dataset.entries, archive.Covers entry.2

/-- A file is settled, holds dimensions and variables, and is otherwise like an earlier one. -/
structure Becomes (before : Archive α) (sizes : List (String × Nat))
    (vars : List (String × Variable α)) (after : Archive α) : Prop where
  settled : after.Settled
  made : ∀ entry ∈ sizes, after.dimension? entry.1 = some (.made entry.1 entry.2)
  otherDimension : ∀ name, name ∉ sizes.map (·.1) →
    after.dimension? name = before.dimension? name
  held : ∀ entry ∈ vars, after.dataset.get? entry.1 = some entry.2
  otherVariable : ∀ name, name ∉ vars.map (·.1) →
    after.dataset.get? name = before.dataset.get? name

variable {first second third before : Archive α} {sizes moreSizes : List (String × Nat)}
  {vars moreVars : List (String × Variable α)}

theorem Settled.becomes (settled : before.Settled) : before.Becomes [] [] before :=
  ⟨settled, by simp, fun _ _ => rfl, by simp, fun _ _ => rfl⟩

/-- The order of the entries does not matter, nor how often they are listed. -/
theorem Becomes.congr (becomes : first.Becomes sizes vars second)
    (sameSizes : ∀ entry, entry ∈ moreSizes ↔ entry ∈ sizes)
    (sameVars : ∀ entry, entry ∈ moreVars ↔ entry ∈ vars) :
    first.Becomes moreSizes moreVars second where
  settled := becomes.settled
  made := fun entry member => becomes.made entry ((sameSizes entry).mp member)
  otherDimension := fun name absent => becomes.otherDimension name fun member => absent <| by
    obtain ⟨entry, listed, rfl⟩ := List.mem_map.mp member
    exact List.mem_map_of_mem ((sameSizes entry).mpr listed)
  held := fun entry member => becomes.held entry ((sameVars entry).mp member)
  otherVariable := fun name absent => becomes.otherVariable name fun member => absent <| by
    obtain ⟨entry, listed, rfl⟩ := List.mem_map.mp member
    exact List.mem_map_of_mem ((sameVars entry).mpr listed)

/-- A name stands for one thing only. -/
def Unambiguous {β : Type} (entries : List (String × β)) : Prop :=
  ∀ first ∈ entries, ∀ second ∈ entries, first.1 = second.1 → first = second

theorem Unambiguous.mono {β : Type} {few many : List (String × β)} (agree : Unambiguous many)
    (within : few ⊆ many) : Unambiguous few :=
  fun first firstMember second secondMember =>
    agree first (within firstMember) second (within secondMember)

theorem unambiguous_of_nodup {β : Type} {entries : List (String × β)}
    (distinct : (entries.map (·.1)).Nodup) : Unambiguous entries :=
  fun _ firstMember _ secondMember =>
    List.inj_on_of_nodup_map distinct firstMember secondMember

/-- An entry is one of the later ones, or none of them touches its name. -/
theorem Unambiguous.mem_or_untouched {β : Type} {early late : List (String × β)}
    (agree : Unambiguous (early ++ late)) {entry : String × β} (member : entry ∈ early) :
    entry ∈ late ∨ entry.1 ∉ late.map (·.1) := by
  by_cases touched : entry.1 ∈ late.map (·.1)
  · obtain ⟨other, otherMember, same⟩ := List.mem_map.mp touched
    have one := agree other (List.mem_append_right early otherMember) entry
      (List.mem_append_left late member) same
    exact .inl (one ▸ otherMember)
  · exact .inr touched

/-- Differences that agree about their names add up. -/
theorem Becomes.trans (early : first.Becomes sizes vars second)
    (late : second.Becomes moreSizes moreVars third)
    (sizesAgree : Unambiguous (sizes ++ moreSizes)) (varsAgree : Unambiguous (vars ++ moreVars)) :
    first.Becomes (sizes ++ moreSizes) (vars ++ moreVars) third where
  settled := late.settled
  made := by
    intro entry member
    rcases List.mem_append.mp member with known | new
    · rcases sizesAgree.mem_or_untouched known with again | untouched
      · exact late.made entry again
      · rw [late.otherDimension entry.1 untouched, early.made entry known]
    · exact late.made entry new
  otherDimension := by
    intro name absent
    rw [List.map_append, List.mem_append, not_or] at absent
    rw [late.otherDimension name absent.2, early.otherDimension name absent.1]
  held := by
    intro entry member
    rcases List.mem_append.mp member with known | new
    · rcases varsAgree.mem_or_untouched known with again | untouched
      · exact late.held entry again
      · rw [late.otherVariable entry.1 untouched, early.held entry known]
    · exact late.held entry new
  otherVariable := by
    intro name absent
    rw [List.map_append, List.mem_append, not_or] at absent
    rw [late.otherVariable name absent.2, early.otherVariable name absent.1]

/-- Variables that are changed again, all of them, are as they were changed last. -/
theorem Becomes.replace (early : first.Becomes sizes vars second)
    (late : second.Becomes [] moreVars third)
    (all : vars.map (·.1) ⊆ moreVars.map (·.1)) :
    first.Becomes sizes moreVars third where
  settled := late.settled
  made := fun entry member => (late.otherDimension _ (by simp)).trans (early.made entry member)
  otherDimension := fun name absent =>
    (late.otherDimension _ (by simp)).trans (early.otherDimension name absent)
  held := late.held
  otherVariable := fun name absent => (late.otherVariable name absent).trans
    (early.otherVariable name fun member => absent (all member))

/-- A loop adds up the differences that its steps make. -/
theorem Settled.exists_forM {ι : Type} (settled : before.Settled)
    (step : ι → Attempt (Archive α) PUnit) (sizesOf : ι → List (String × Nat))
    (varsOf : ι → List (String × Variable α)) (items : List ι)
    (sizesAgree : Unambiguous (items.flatMap sizesOf))
    (varsAgree : Unambiguous (items.flatMap varsOf))
    (each : ∀ done item rest between, items = done ++ item :: rest →
      before.Becomes (done.flatMap sizesOf) (done.flatMap varsOf) between →
      ∃ after, (step item).outcome between = (.ok (), after) ∧
        between.Becomes (sizesOf item) (varsOf item) after) :
    ∃ after, Attempt.outcome (items.forM step) before = (.ok (), after) ∧
      before.Becomes (items.flatMap sizesOf) (items.flatMap varsOf) after := by
  refine exists_outcome_forM
    (fun done state => before.Becomes (done.flatMap sizesOf) (done.flatMap varsOf) state)
    settled.becomes fun done item rest between split early => ?_
  obtain ⟨after, outcome, late⟩ := each done item rest between split early
  have parts : ∀ {β : Type} (f : ι → List β),
      done.flatMap f ++ f item ⊆ items.flatMap f := by
    intro β f entry member
    rw [split, List.flatMap_append, List.flatMap_cons]
    rcases List.mem_append.mp member with first | second
    · simp [first]
    · simp [second]
  have both := early.trans late (sizesAgree.mono (parts sizesOf)) (varsAgree.mono (parts varsOf))
  exact ⟨after, outcome, by simpa only [List.flatMap_append, List.flatMap_cons, List.flatMap_nil,
    List.append_nil] using both⟩

/-! ### Single steps -/

/-- Putting a variable that covers its dimensions. -/
theorem Settled.put (settled : before.Settled) {name : String} {var : Variable α}
    (covers : before.Covers var) :
    before.Becomes [] [(name, var)] { before with dataset := before.dataset.put name var } where
  settled := ⟨settled.format, fun entry member => by
    rcases Variable.mem_putEntry member with rfl | known
    · exact covers
    · exact settled.covers entry known⟩
  made := by simp
  otherDimension := fun _ _ => rfl
  held := by
    intro entry member
    obtain rfl := List.mem_singleton.mp member
    simp [Dataset.put, Dataset.get?, Variable.lookup_putEntry]
  otherVariable := by
    intro other absent
    have different : other ≠ name := by simpa using absent
    simp [Dataset.put, Dataset.get?, Variable.lookup_putEntry, different]

theorem Settled.exists_makeDimension (settled : before.Settled) {name : String}
    (kept : Kept name) (new : before.dimension? name = none) (size : Nat) :
    ∃ after, (makeDimension name size).outcome before = (.ok (), after) ∧
      before.Becomes [(name, size)] [] after := by
  let made : Archive α :=
    { before with dimensions := before.dimensions ++ [.made name size] }
  have looked : ∀ other, made.dimension? other =
      if other = name then some (.made name size) else before.dimension? other := by
    intro other
    have split : made.dimension? other = (before.dimension? other).or
        ([Dimension.made name size].find? fun dimension => dimension.name = other) :=
      List.find?_append
    by_cases here : other = name
    · subst here
      simp [split, new, Dimension.made]
    · have different : ¬ (Dimension.made name size).name = other := Ne.symm here
      simp [split, here, different]
  refine ⟨made, ?_, ⟨settled.format, fun entry member => ?_⟩, ?_, ?_, by simp, fun _ _ => rfl⟩
  · rw [makeDimension, outcome_ofFunction]
    simp only [kept.checkBytes, bind, Except.bind, kept.ofText?, new, Option.isSome_none,
      Bool.false_eq_true, if_false]
    rfl
  · refine (settled.covers entry member).imp fun other held known => ?_
    have different : other ≠ name := by
      rintro rfl
      rw [new] at known
      cases known
    rw [looked, if_neg different, known]
  · intro entry member
    obtain rfl := List.mem_singleton.mp member
    rw [looked, if_pos rfl]
  · intro other absent
    rw [looked, if_neg (by simpa using absent)]

/-- A dimension that several meshes share is there already or is made. -/
theorem Settled.exists_requireDimension (settled : before.Settled) {name : String}
    (kept : Kept name) {size : Nat}
    (known : before.dimension? name = none ∨ before.dimension? name = some (.made name size)) :
    ∃ after, (requireDimension name size).outcome before = (.ok (), after) ∧
      before.Becomes [(name, size)] [] after := by
  rcases known with new | present
  · obtain ⟨after, done, becomes⟩ := settled.exists_makeDimension kept new size
    refine ⟨after, ?_, becomes⟩
    rw [requireDimension, outcome_bind_of_ok (outcome_get before)]
    simpa only [new, Option.isNone_none, if_true] using done
  · refine ⟨before, ?_, settled, ?_, fun _ _ => rfl, by simp, fun _ _ => rfl⟩
    · rw [requireDimension, outcome_bind_of_ok (outcome_get before)]
      simp [present]
    · intro entry member
      obtain rfl := List.mem_singleton.mp member
      exact present

/-- An attribute is kept under its key, which is not the one of the fill value. -/
structure KeptEntry (entry : String × Attribute) : Prop where
  key : Kept entry.1
  ordinary : entry.1 ≠ fillKey
  value : entry.2.KeptAs

/-- Attributes as a file hands them out. -/
def heldEntries (attributes : List (String × Attribute)) : List (String × Attribute) :=
  attributes.map fun entry => (entry.1, entry.2.held)

/-- An attribute under a new key is put behind the others. -/
theorem Settled.exists_annotate (settled : before.Settled) {name : String} (kept : Kept name)
    {var : Variable α} (found : before.dataset.get? name = some var)
    {entry : String × Attribute} (keeps : KeptEntry entry) (absent : var.get? entry.1 = none) :
    ∃ after, (annotate true name entry.1 entry.2).outcome before = (.ok (), after) ∧
      before.Becomes [] [(name, { var with
        attributes := var.attributes ++ heldEntries [entry] })] after := by
  have covers : before.Covers var :=
    settled.covers (name, var) (Variable.mem_of_lookup found)
  have placed : placeAttribute before.format entry.1 entry.2.held var =
      { var with attributes := var.attributes ++ heldEntries [entry] } := by
    rw [placeAttribute, absent, Variable.putAttribute, Variable.putEntry_of_lookup absent]
    rfl
  have stored : entry.2.kept before.format = .ok entry.2.held := settled.format ▸ keeps.value
  have held : before.dataset.get name = .ok var := by rw [Dataset.get, found]
  refine ⟨_, ?_, settled.put covers⟩
  rw [annotate, outcome_ofFunction]
  simp only [keeps.key.checkBytes, stored, bind, Except.bind, kept.soughtPath, changeHeld,
    kept.not_isNested, Dataset.change, held, keeps.key.ofText?, keeps.ordinary, false_and, placed,
    Bool.false_eq_true, if_false, pure, Except.pure]

/-- Attributes under new keys are put behind the others in their order. -/
theorem Settled.exists_annotateAll (settled : before.Settled) {name : String} (kept : Kept name)
    {var : Variable α} (found : before.dataset.get? name = some var)
    {attributes : List (String × Attribute)} (keeps : ∀ entry ∈ attributes, KeptEntry entry)
    (distinct : (var.attributes.map (·.1) ++ attributes.map (·.1)).Nodup) :
    ∃ after, (annotateAll name attributes).outcome before = (.ok (), after) ∧
      before.Becomes [] [(name, { var with
        attributes := var.attributes ++ heldEntries attributes })] after := by
  induction attributes generalizing before var with
  | nil =>
      refine ⟨before, rfl, settled, by simp, fun _ _ => rfl, ?_, fun _ _ => rfl⟩
      intro entry member
      obtain rfl := List.mem_singleton.mp member
      simpa [heldEntries] using found
  | cons entry rest inductionHypothesis =>
      have absent : var.get? entry.1 = none := by
        refine List.lookup_eq_none_iff.mpr fun known member => bne_iff_ne.mpr fun same => ?_
        exact (List.nodup_append.mp distinct).2.2 known.1 (List.mem_map_of_mem member) entry.1
          (by simp) same.symm
      obtain ⟨between, first, early⟩ :=
        settled.exists_annotate kept found (keeps entry (by simp)) absent
      obtain ⟨after, others, late⟩ := inductionHypothesis early.settled
        (early.held _ (List.mem_singleton_self _))
        (fun other member => keeps other (by simp [member]))
        (by simpa [heldEntries] using distinct)
      refine ⟨after, (outcome_bind_of_ok first _).trans others, ?_⟩
      have both := early.replace late (List.Subset.refl _)
      simpa only [heldEntries, List.append_assoc, ← List.map_append, List.singleton_append]
        using both

variable [Scalar α]

/-- A variable is defined under a new name, on dimensions that are there. -/
theorem Settled.exists_define (settled : before.Settled) {name : String} (kept : Kept name)
    (new : before.dataset.get? name = none) (type : ElementType) {dimensions : List String}
    {shape : List Nat} (named : ∀ dimension ∈ dimensions, Kept dimension)
    (sized : List.Forall₂ (fun dimension size =>
      before.dimension? dimension = some (.made dimension size)) dimensions shape) :
    ∃ after, (define name type dimensions).outcome before = (.ok (), after) ∧
      before.Becomes [] [(name, ⟨dimensions, shape, type.fill (Tensor.volume shape), []⟩)]
        after := by
  have soughtAll : dimensions.map StoredName.sought = dimensions := by
    conv_rhs => rw [← List.map_id dimensions]
    exact List.map_congr_left fun dimension member => (named dimension member).sought
  have sizes : (dimensions.map fun key =>
      ((before.dimension? key).map Dimension.size).getD 0) = shape := by
    rw [← List.forall₂_eq_eq_eq, List.forall₂_map_left_iff]
    refine sized.imp fun dimension size known => ?_
    rw [known]
    rfl
  refine ⟨_, ?_, settled.put sized⟩
  rw [define, outcome_ofFunction]
  simp only [kept.checkBytes, bind, Except.bind, kept.ofPath?, changeHeld, kept.not_isNested,
    Bool.false_eq_true, if_false, new, Option.isSome_none, soughtAll, sizes, pure, Except.pure]

/-- A variable is defined with its attributes under a new name. -/
theorem Settled.exists_defineAnnotated (settled : before.Settled) {name : String}
    (kept : Kept name) (new : before.dataset.get? name = none) (type : ElementType)
    {dimensions : List String} {shape : List Nat}
    (named : ∀ dimension ∈ dimensions, Kept dimension)
    (sized : List.Forall₂ (fun dimension size =>
      before.dimension? dimension = some (.made dimension size)) dimensions shape)
    {attributes : List (String × Attribute)} (keeps : ∀ entry ∈ attributes, KeptEntry entry)
    (distinct : (attributes.map (·.1)).Nodup) :
    ∃ between after, (define name type dimensions).outcome before = (.ok (), between) ∧
      (annotateAll name attributes).outcome between = (.ok (), after) ∧
      before.Becomes [] [(name, ⟨dimensions, shape, type.fill (Tensor.volume shape),
        heldEntries attributes⟩)] after := by
  obtain ⟨between, defined, early⟩ := settled.exists_define kept new type named sized
  obtain ⟨after, annotated, late⟩ := early.settled.exists_annotateAll kept
    (early.held _ (List.mem_singleton_self _)) keeps (by simpa using distinct)
  exact ⟨between, after, defined, annotated, early.replace late (List.Subset.refl _)⟩

end Archive

/-! ### Arrays -/

/-- An array with elements is not empty in any direction. -/
theorem Tensor.ne_zero_of_volume {shape : List Nat} (filled : Tensor.volume shape ≠ 0) :
    ∀ size ∈ shape, size ≠ 0 := by
  rw [Tensor.volume, ← List.prod_eq_foldl] at filled
  exact fun size member =>
    Nat.ne_of_gt (List.prod_pos_iff_forall_pos_nat.mp (Nat.pos_of_ne_zero filled) size member)

theorem Column.conform_same {α : Type} [Scalar α] (shape : List Nat) (column : Column α) :
    column.conform shape shape = .ok column := by
  cases column <;> simp [Column.conform, Tensor.conform, bind, Except.bind, pure, Except.pure]

/-- A block of the shape of an array replaces the whole array. -/
theorem Column.overlay_whole {α : Type} [Scalar α] {column block : Column α}
    (same : block.elementType = column.elementType) (shape : List Nat) :
    column.overlay shape shape block shape = block := by
  cases column <;> cases block <;> simp_all [Column.overlay, Tensor.overlay, Column.elementType]

theorem ElementType.elementType_fill {α : Type} [Scalar α] (type : ElementType) (count : Nat) :
    (type.fill count : Column α).elementType = type := by
  cases type <;> rfl

/-- Without elements there is nothing to fill. -/
theorem Column.fill_of_empty {α : Type} [Scalar α] {column : Column α}
    (empty : column.length = 0) : column.elementType.fill 0 = column := by
  cases column <;> simp_all [Column.length, Column.elementType, ElementType.fill]

namespace Archive

variable {α : Type} {before : Archive α}

theorem target_of_fixed {dimensions : List Dimension}
    (fixed : ∀ dimension ∈ dimensions, dimension.grows = false) (shape : List Nat) :
    target dimensions shape = .ok (dimensions.map Dimension.size) := by
  rw [target, mapM_eq_ok_iff]
  have sizes : dimensions.map Dimension.size =
      dimensions.zipIdx.map fun entry => entry.1.size := by
    conv_lhs => rw [← List.zipIdx_map_fst 0 dimensions, List.map_map]
    rfl
  rw [sizes]
  refine List.forall₂_map_right_iff.mpr (List.forall₂_same.mpr fun entry member => ?_)
  have stays := fixed entry.1 (List.fst_mem_of_mem_zipIdx member)
  simp [stays]

theorem Covers.dimensionsOf_eq {var : Variable α} (covers : before.Covers var) :
    before.dimensionsOf var =
      (var.dimensions.zip var.shape).map fun entry => Dimension.made entry.1 entry.2 := by
  rw [dimensionsOf]
  have pairs : ∀ {names : List String} {sizes : List Nat},
      List.Forall₂ (fun name size => before.dimension? name = some (.made name size)) names sizes →
        names.filterMap before.dimension? =
          (names.zip sizes).map fun entry => Dimension.made entry.1 entry.2 := by
    intro names sizes each
    induction each with
    | nil => rfl
    | cons first _ inductionHypothesis =>
        rw [List.filterMap_cons_some first, List.zip_cons_cons, List.map_cons,
          inductionHypothesis]
  exact pairs covers

theorem Covers.map_size {var : Variable α} (covers : before.Covers var) :
    (before.dimensionsOf var).map Dimension.size = var.shape := by
  rw [covers.dimensionsOf_eq, List.map_map]
  exact List.map_snd_zip (Nat.le_of_eq covers.length_eq.symm)

/-- A file after the dimensions of a variable that can grow have reached its shape. -/
def grownFor (before : Archive α) (var : Variable α) : Archive α :=
  { before with dimensions := before.dimensions.map (grown (var.dimensions.zip var.shape)) }

/-- Writing to dimensions that have a size makes no dimension grow. -/
theorem Covers.dimension?_grownFor {var : Variable α} (covers : before.Covers var)
    (filled : ∀ size ∈ var.shape, size ≠ 0) (name : String) :
    (before.grownFor var).dimension? name = before.dimension? name := by
  have named : ∀ dimension : Dimension,
      (grown (var.dimensions.zip var.shape) dimension).name = dimension.name := by
    intro dimension
    rw [grown]
    split <;> rfl
  simp only [dimension?, grownFor, List.find?_map, Function.comp_def, named]
  cases found : before.dimensions.find? fun dimension => dimension.name = name with
  | none => rfl
  | some dimension =>
      rw [Option.map_some, grown]
      split
      next grows =>
        have own : dimension.name = name := by simpa using List.find?_some found
        have none : (var.dimensions.zip var.shape).filter
            (fun entry => entry.1 = dimension.name) = [] := by
          refine List.filter_eq_nil_iff.mpr fun entry member same => ?_
          have here : entry.1 = name := (of_decide_eq_true same).trans own
          have known := List.forall₂_zip covers member
          rw [here, dimension?, found] at known
          have size := filled entry.2 (List.of_mem_zip member).2
          rw [Option.some.inj known] at grows
          exact size (of_decide_eq_true grows)
        simp [none]
      next => rfl

variable [Scalar α]

theorem Covers.extended_eq {var : Variable α} (covers : before.Covers var) :
    before.extended var = var := by
  rw [extended, covers.map_size, if_pos rfl]

/-- What a variable with a name of its own is after an array was written under a name. -/
def overlaid (name : String) (shape : List Nat) (column : Column α) (other : String)
    (known : Variable α) : Variable α :=
  if other = name then
    { known with column := known.column.overlay known.shape known.shape column shape }
  else known

/-- A file after an array of the size of a variable was written to it. -/
def stored (before : Archive α) (name : String) (var : Variable α) (column : Column α) :
    Archive α :=
  { before.grownFor var with
    dataset := ⟨before.dataset.entries.map fun entry =>
      (entry.1, overlaid name var.shape column entry.1 entry.2)⟩ }

section Storing

variable {name : String} {var : Variable α} {column : Column α}

theorem get?_stored (other : String) : (before.stored name var column).dataset.get? other =
    (before.dataset.get? other).map (overlaid name var.shape column other) :=
  Variable.lookup_mapValues (overlaid name var.shape column) other before.dataset.entries

omit [Scalar α] in
theorem Settled.covers_grownFor (settled : before.Settled) (covers : before.Covers var)
    (filled : ∀ size ∈ var.shape, size ≠ 0) :
    ∀ entry ∈ before.dataset.entries, (before.grownFor var).Covers entry.2 := fun entry member =>
  (settled.covers entry member).imp fun other _ present =>
    (covers.dimension?_grownFor filled other).trans present

/-- Variables keep the shapes that their dimensions ask for. -/
theorem Settled.covers_stored (settled : before.Settled) (covers : before.Covers var)
    (filled : ∀ size ∈ var.shape, size ≠ 0) : ∀ entry ∈ before.dataset.entries,
      (before.stored name var column).Covers
        (overlaid name var.shape column entry.1 entry.2) := by
  intro entry member
  have again := settled.covers_grownFor covers filled entry member
  unfold overlaid
  split
  · exact again
  · exact again

/-- A variable whose dimensions have a size takes an array of this size as it is. -/
theorem Settled.outcome_store (settled : before.Settled) (kept : Kept name)
    (found : before.dataset.get? name = some var) (filled : ∀ size ∈ var.shape, size ≠ 0) :
    (store name var.shape column).outcome before =
      (.ok (), before.stored name var column) := by
  have covers : before.Covers var := settled.covers (name, var) (Variable.mem_of_lookup found)
  have held : before.dataset.get name = .ok var := by rw [Dataset.get, found]
  have fixed : ∀ dimension ∈ before.dimensionsOf var, dimension.grows = false := by
    intro dimension member
    rw [covers.dimensionsOf_eq] at member
    obtain ⟨entry, inZip, rfl⟩ := List.mem_map.mp member
    exact decide_eq_false (filled entry.2 (List.of_mem_zip inZip).2)
  have aimed : target (before.dimensionsOf var) var.shape = .ok var.shape := by
    rw [target_of_fixed fixed, covers.map_size]
  -- No dimension has grown, so all other variables cover theirs already.
  have entries : (before.dataset.entries.map fun entry =>
      let known := (before.grownFor var).extended entry.2
      if entry.1 = name then
        (entry.1, { known with
          column := known.column.overlay known.shape known.shape column var.shape })
      else (entry.1, known)) =
      before.dataset.entries.map fun entry =>
        (entry.1, overlaid name var.shape column entry.1 entry.2) := by
    refine List.map_congr_left fun entry member => ?_
    have again := settled.covers_grownFor covers filled entry member
    simp only [again.extended_eq, overlaid]
    split <;> rfl
  rw [store, outcome_ofFunction]
  simp only [kept.sought, held, bind, Except.bind, aimed, Column.conform_same, pure, Except.pure]
  exact congrArg (fun entries => (Except.ok (), { before.grownFor var with dataset := ⟨entries⟩ }))
    entries

/-- An array of the size of its dimensions, none of which is empty, is replaced as a whole, and
nothing else changes. -/
theorem Settled.exists_store (settled : before.Settled) (kept : Kept name)
    (found : before.dataset.get? name = some var) (filled : ∀ size ∈ var.shape, size ≠ 0)
    (same : column.elementType = var.column.elementType) :
    ∃ after, (store name var.shape column).outcome before = (.ok (), after) ∧
      before.Becomes [] [(name, { var with column })] after := by
  have covers : before.Covers var := settled.covers (name, var) (Variable.mem_of_lookup found)
  refine ⟨_, settled.outcome_store kept found filled, ⟨settled.format, fun entry member => ?_⟩,
    by simp, fun other _ => covers.dimension?_grownFor filled other, fun entry member => ?_,
    fun other absent => ?_⟩
  · obtain ⟨known, knownMember, rfl⟩ := List.mem_map.mp member
    exact settled.covers_stored covers filled known knownMember
  · obtain rfl := List.mem_singleton.mp member
    rw [get?_stored, found, Option.map_some]
    simp only [overlaid, if_true, Column.overlay_whole same]
  · have different : other ≠ name := by simpa using absent
    rw [get?_stored]
    cases before.dataset.get? other <;> simp [overlaid, different]

end Storing

/-- An array that holds fill values is written unless it has no elements, in which case it is as
it should be. -/
theorem Settled.exists_storeDefined (settled : before.Settled) {name : String} (kept : Kept name)
    {dimensions : List String} {shape : List Nat} {column : Column α}
    {attributes : List (String × Attribute)}
    (found : before.dataset.get? name =
      some ⟨dimensions, shape, column.elementType.fill (Tensor.volume shape), attributes⟩)
    (rectangular : Tensor.volume shape = column.length) :
    ∃ after, Attempt.outcome (if column.length ≠ 0 then store name shape column else pure ())
        before = (.ok (), after) ∧
      before.Becomes [] [(name, ⟨dimensions, shape, column, attributes⟩)] after := by
  by_cases empty : column.length = 0
  · refine ⟨before, by simp [empty], settled, by simp, fun _ _ => rfl, ?_, fun _ _ => rfl⟩
    rw [List.forall_mem_singleton, found, rectangular, empty, Column.fill_of_empty empty]
  · rw [if_pos empty]
    exact settled.exists_store kept found (Tensor.ne_zero_of_volume (rectangular ▸ empty))
      (ElementType.elementType_fill _ _).symm

end Archive

end Regrid
