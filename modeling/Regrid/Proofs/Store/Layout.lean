import Regrid.Proofs.Store.Archive

/-!
Contract: files keep the names and attributes of the layout, and names of the layout differ.

Owns:
- the names of variables and dimensions as a group with a suffix;
- groups whose names a file keeps, and that all short groups of plain characters are such;
- the comments and attributes of the layout;
- names under different groups, and names that all groups share.

Does not own: what a file holds under these names.
-/

namespace Regrid

open StoredName

/-! ### Names -/

namespace Schema

/-- What follows the group and the point in the names of variables, those of fields included. -/
def variableSuffixes : List String := ["info", "mask2", "elev2"] ++ parts.map Part.name

/-- What follows the group and the point in the names of dimensions. -/
def dimensionSuffixes : List String :=
  ["vertices.num_realized", "cells.num_realized", "cells.num_realized_plus1",
    "cells.num_vertex_refs", "n2"]

/-- What follows the group and the point in the names that a mesh needs. -/
def gridSuffixes : List String :=
  ["info", "vertices.num_realized.comment"] ++ parts.map Part.name ++
    ["vertices.num_realized", "cells.num_realized", "cells.num_realized_plus1",
      "cells.num_vertex_refs"]

theorem suffixFree_variables : SuffixFree variableSuffixes := by decide

theorem suffixFree_dimensions : SuffixFree dimensionSuffixes := by decide

theorem infoVariable_eq (group : String) : infoVariable group = qualified group "info" := by
  rw [qualified, String.append_assoc]
  rfl

theorem vertexDimension_eq (group : String) :
    vertexDimension group = qualified group "vertices.num_realized" := by
  rw [qualified, String.append_assoc]
  rfl

theorem cellDimension_eq (group : String) :
    cellDimension group = qualified group "cells.num_realized" := by
  rw [qualified, String.append_assoc]
  rfl

theorem offsetDimension_eq (group : String) :
    offsetDimension group = qualified group "cells.num_realized_plus1" := by
  rw [qualified, String.append_assoc]
  rfl

theorem referenceDimension_eq (group : String) :
    referenceDimension group = qualified group "cells.num_vertex_refs" := by
  rw [qualified, String.append_assoc]
  rfl

theorem realizedKey_eq (group : String) :
    vertexDimension group ++ ".comment" = qualified group "vertices.num_realized.comment" := by
  rw [vertexDimension_eq, qualified, qualified, String.append_assoc]
  rfl

theorem mem_suffixes (part : Part) :
    part ∈ parts ∧ part.name ∈ gridSuffixes ∧ part.name ∈ variableSuffixes := by
  cases part <;> decide

theorem nodup_fullNames (group : String) :
    (parts.map fun part => part.fullName group).Nodup := by
  have distinct : parts.Nodup := by decide
  exact distinct.map fun first second => (Part.fullName_inj group first second).mp

/-- A file keeps the names under a group that end in one of the suffixes. -/
def KeepsNames (group : String) (suffixes : List String) : Prop :=
  ∀ suffix ∈ suffixes, Kept (qualified group suffix)

/-- Names are kept under a group of plain characters that leaves room for the suffixes. -/
theorem keepsNames_append {group : String} {suffixes : List String} {most : Nat}
    (opens : opensName group = true)
    (closes : ∀ suffix ∈ suffixes, closesName ("." ++ suffix) = true ∧
      ("." ++ suffix).utf8ByteSize ≤ most)
    (short : group.utf8ByteSize + most ≤ mostBytes) : KeepsNames group suffixes := by
  intro suffix member
  obtain ⟨closed, length⟩ := closes suffix member
  rw [qualified, String.append_assoc]
  exact kept_append opens closed (by omega)

/-- The names of a mesh are kept under every short group of plain characters. -/
theorem keepsNames_of_opens {group : String} (opens : opensName group = true)
    (short : group.utf8ByteSize ≤ 226) : KeepsNames group gridSuffixes :=
  have closes : ∀ suffix ∈ gridSuffixes, closesName ("." ++ suffix) = true ∧
      ("." ++ suffix).utf8ByteSize ≤ 30 := by decide
  keepsNames_append opens closes (by rw [mostBytes]; omega)

/-! ### Shared names -/

/-- The dimensions that all groups share. -/
def sharedSizes : List (String × Nat) := [("one", 1), ("two", 2), ("three", 3)]

theorem kept_shared : ∀ entry ∈ sharedSizes, Kept entry.1 := by decide

theorem shared_ne_qualified {entry : String × Nat} (shared : entry ∈ sharedSizes)
    (group suffix : String) : entry.1 ≠ qualified group suffix := by
  have pointless : ∀ entry ∈ sharedSizes, '.' ∉ entry.1.toList := by decide
  intro same
  apply pointless entry shared
  rw [same]
  simp [qualified]

theorem unambiguous_shared_append {own : List (String × Nat)} (agree : Archive.Unambiguous own)
    (named : ∀ entry ∈ own, ∃ group suffix, entry.1 = qualified group suffix) :
    Archive.Unambiguous (sharedSizes ++ own) := by
  have shared : Archive.Unambiguous sharedSizes := Archive.unambiguous_of_nodup (by decide)
  intro first firstMember second secondMember same
  rcases List.mem_append.mp firstMember with firstShared | firstOwn <;>
    rcases List.mem_append.mp secondMember with secondShared | secondOwn
  · exact shared first firstShared second secondShared same
  · obtain ⟨group, suffix, name⟩ := named second secondOwn
    exact absurd (same.trans name) (shared_ne_qualified firstShared group suffix)
  · obtain ⟨group, suffix, name⟩ := named first firstOwn
    exact absurd (same.symm.trans name) (shared_ne_qualified secondShared group suffix)
  · exact agree first firstOwn second secondOwn same

/-! ### Several groups -/

/-- The names of entries are one group with some of the suffixes. -/
def Under {β : Type} (suffixes : List String) (group : String) (entries : List (String × β)) :
    Prop :=
  ∀ entry ∈ entries, ∃ suffix ∈ suffixes, entry.1 = qualified group suffix

/-- Entries under different groups agree if those of each group do. -/
theorem unambiguous_flatMap {β ι : Type} {suffixes : List String} (free : SuffixFree suffixes)
    {groupOf : ι → String} {entriesOf : ι → List (String × β)} {items : List ι}
    (distinct : (items.map groupOf).Nodup)
    (under : ∀ item ∈ items, Under suffixes (groupOf item) (entriesOf item))
    (agree : ∀ item ∈ items, Archive.Unambiguous (entriesOf item)) :
    Archive.Unambiguous (items.flatMap entriesOf) := by
  intro first firstMember second secondMember same
  obtain ⟨firstItem, firstListed, firstMember⟩ := List.mem_flatMap.mp firstMember
  obtain ⟨secondItem, secondListed, secondMember⟩ := List.mem_flatMap.mp secondMember
  obtain ⟨firstSuffix, firstKnown, firstName⟩ := under firstItem firstListed first firstMember
  obtain ⟨secondSuffix, secondKnown, secondName⟩ :=
    under secondItem secondListed second secondMember
  have groups : groupOf firstItem = groupOf secondItem := by
    rw [firstName, secondName] at same
    exact ((qualified_inj free firstKnown secondKnown).mp same).1
  obtain rfl := List.inj_on_of_nodup_map distinct firstListed secondListed groups
  exact agree firstItem firstListed first firstMember second secondMember same

theorem ne_qualified {name suffix : String} (inside : ¬ '.' :: suffix.toList <:+ name.toList)
    (group : String) : name ≠ qualified group suffix := by
  rintro rfl
  exact inside ⟨group.toList, by simp [qualified]⟩

end Schema

/-! ### Attributes -/

namespace Schema

open Archive

/-- The attributes of a mesh that can be present, and the one of its other variables. -/
def tagKeys : List String :=
  ["comment", "version", "name"] ++
    [InfoKey.type, .coordinates, .parameterization, .projection, .cellExtent, .vertexExtent].flatMap
      fun key => [key.name, key.name ++ ".comment"]

theorem kept_tagKeys : ∀ key ∈ tagKeys, Kept key ∧ key ≠ fillKey := by decide

/-- No comment has characters that a file would not keep. -/
theorem keptText_comment : (∀ key : InfoKey, KeptText key.comment) ∧
    (∀ part : Part, KeptText part.comment) ∧ KeptText realizedComment := by
  refine ⟨fun key => ?_, fun part => ?_, ?_⟩
  -- Each comment is split where it is joined, since a long text is slow to take apart.
  · cases key
    all_goals
      unfold InfoKey.comment
      simp only [keptText_append, -String.reduceAppend]
      repeat' apply And.intro
      all_goals exact keptText_of_eq rfl (by decide +kernel)
  · cases part
    all_goals
      unfold Part.comment
      simp only [keptText_append, -String.reduceAppend]
      repeat' apply And.intro
      all_goals exact keptText_of_eq rfl (by decide +kernel)
  · unfold realizedComment
    simp only [keptText_append, -String.reduceAppend]
    repeat' apply And.intro
    all_goals exact keptText_of_eq rfl (by decide +kernel)

theorem keptAs_wrapped {comment : String} (kept : KeptText comment) : (wrapped comment).KeptAs :=
  Attribute.kept_text (keptText_fillParagraph kept 72)

theorem keptEntry_of_mem {entry : String × Attribute} (known : entry.1 ∈ tagKeys)
    (keeps : entry.2.KeptAs) : KeptEntry entry :=
  ⟨(kept_tagKeys _ known).1, (kept_tagKeys _ known).2, keeps⟩

theorem keptEntry_comment (part : Part) : KeptEntry ("comment", wrapped part.comment) :=
  keptEntry_of_mem (by simp [tagKeys]) (keptAs_wrapped (keptText_comment.2.1 part))

theorem keptAs_entries (key : InfoKey) {value : Attribute} (keeps : value.KeptAs) :
    ∀ entry ∈ key.entries value, entry.2.KeptAs := by
  simpa [InfoKey.entries, keeps] using keptAs_wrapped (keptText_comment.1 key)

theorem keptText_tagText :
    (∀ type : GridType, KeptText (tagText type)) ∧
      (∀ coordinates : Coordinates, KeptText (tagText coordinates)) ∧
      ∀ parameterization : Parameterization, KeptText (tagText parameterization) := by
  refine ⟨fun type => ?_, fun coordinates => ?_, fun parameterization => ?_⟩
  · cases type <;> exact keptText_of_eq rfl (by decide)
  · cases coordinates <;> exact keptText_of_eq rfl (by decide)
  · cases parameterization <;> exact keptText_of_eq rfl (by decide)

end Schema

namespace GridTables

open Schema Archive

variable {α : Type}

/-- A file keeps the texts of the contents. -/
structure Contents.KeptTexts (contents : Contents α) : Prop where
  name : KeptText contents.name
  projection : KeptText contents.projection

variable {contents : Contents α} {group : String}

/-- The keys of the tags are some of the keys that there are, in their order. -/
theorem Contents.sublist_keys_tags (contents : Contents α) :
    (contents.tags.map (·.1)).Sublist tagKeys := by
  unfold tags
  cases contents.coordinates <;> by_cases empty : contents.name.isEmpty
  all_goals
    simp only [empty, if_true, if_false, Bool.false_eq_true, InfoKey.entries, List.map_append,
      List.map_cons, List.map_nil]
    decide

theorem Contents.nodup_keys_attributes (contents : Contents α) (group : String) :
    ((contents.attributes group).map (·.1)).Nodup := by
  have within := contents.sublist_keys_tags
  have distinct : tagKeys.Nodup := by decide
  have outside : ∀ key ∈ tagKeys,
      ¬ '.' :: "vertices.num_realized.comment".toList <:+ key.toList := by decide
  rw [attributes, List.map_append, List.map_singleton, realizedKey_eq, List.nodup_append]
  refine ⟨within.nodup distinct, List.nodup_singleton _, fun key member other last => ?_⟩
  obtain rfl := List.mem_singleton.mp last
  exact ne_qualified (outside key (within.subset member)) group

theorem Contents.keptAs_tags (texts : contents.KeptTexts) (fits : contents.Fits) :
    ∀ entry ∈ contents.tags, entry.2.KeptAs := by
  have name : ∀ entry ∈ (if contents.name.isEmpty then []
      else [("name", Attribute.text contents.name)]), entry.2.KeptAs := by
    split
    · simp
    · simpa using Attribute.kept_text texts.name
  have projection := keptAs_entries .projection (Attribute.kept_text texts.projection)
  have version : (Attribute.short version).KeptAs := Attribute.kept_short (by decide)
  have type := Attribute.kept_text (keptText_tagText.1 contents.type)
  have coordinates := fun tag : Coordinates => Attribute.kept_text (keptText_tagText.2.1 tag)
  have parameterization := Attribute.kept_text (keptText_tagText.2.2 contents.parameterization)
  have cellExtent := keptAs_entries .cellExtent (Attribute.kept_short fits.cellExtent)
  have vertexExtent := keptAs_entries .vertexExtent (Attribute.kept_short fits.vertexExtent)
  unfold tags
  cases contents.coordinates <;>
    simp only [List.forall_mem_append, List.forall_mem_singleton, List.not_mem_nil,
      false_imp_iff, implies_true, and_true]
  · exact ⟨⟨⟨⟨⟨⟨⟨version, name⟩, keptAs_entries _ type⟩, keptAs_entries _ (coordinates .xy)⟩,
      keptAs_entries _ parameterization⟩, projection⟩, cellExtent⟩, vertexExtent⟩
  · exact ⟨⟨⟨⟨⟨⟨version, name⟩, keptAs_entries _ type⟩, keptAs_entries _ (coordinates .lonLat)⟩,
      keptAs_entries _ parameterization⟩, cellExtent⟩, vertexExtent⟩

/-- A file keeps all attributes that are written for contents with texts and integers that it
keeps. -/
theorem Contents.keptEntry_attributes (texts : contents.KeptTexts) (fits : contents.Fits)
    (keeps : KeepsNames group gridSuffixes) :
    ∀ entry ∈ contents.attributes group, KeptEntry entry := by
  intro entry member
  rcases List.mem_append.mp member with tag | last
  · exact keptEntry_of_mem (contents.sublist_keys_tags.subset (List.mem_map_of_mem tag))
      (keptAs_tags texts fits entry tag)
  · obtain rfl := List.mem_singleton.mp last
    have key := realizedKey_eq group
    refine ⟨key ▸ keeps _ (by simp [gridSuffixes]), ?_, keptAs_wrapped keptText_comment.2.2⟩
    exact key ▸ (ne_qualified (by decide) group).symm

end GridTables

end Regrid
