import Mathlib.Data.List.TakeWhile
import Regrid.Proofs.Text.Paragraph
import Regrid.Store.Name

/-!
Contract: names that a file keeps as they are written.

Owns:
- when a file keeps a text as a name, and that it then finds it again as a name and as a path;
- texts of plain characters, which are kept when they are valid;
- that names made of different groups or different suffixes differ, whatever points they have.

Does not own: what is stored under a name.
-/

namespace Regrid

namespace StoredName

/-! ### Names that are kept -/

/-- A text is a valid name in its common form, and has bytes: a file holds it as it is. -/
structure Kept (name : String) : Prop where
  whole : Text.isWhole name = true
  valid : isValid name = true
  composed : Text.composed name = name

instance (name : String) : Decidable (Kept name) :=
  decidable_of_iff
    (Text.isWhole name = true ∧ isValid name = true ∧ Text.composed name = name)
    ⟨fun ⟨whole, valid, composed⟩ => ⟨whole, valid, composed⟩,
      fun kept => ⟨kept.whole, kept.valid, kept.composed⟩⟩

variable {name : String}

/-- The characters of a valid name: none is a NUL or a slash, and the first one is no point. -/
theorem cons_of_isValid (valid : isValid name = true) :
    ∃ first rest, name.toList = first :: rest ∧ isInitial first = true ∧
      ∀ c ∈ name.toList, c.toNat ≠ 0 ∧ c ≠ '/' := by
  unfold isValid at valid
  cases listed : name.toList with
  | nil =>
      rw [listed] at valid
      cases valid
  | cons first rest =>
      rw [listed] at valid
      simp only [Bool.and_eq_true, List.all_eq_true] at valid
      obtain ⟨⟨⟨initial, inner⟩, _⟩, _⟩ := valid
      refine ⟨first, rest, rfl, initial, fun c member => ?_⟩
      rcases List.mem_cons.mp member with rfl | later
      · constructor
        · intro zero
          have : c = Char.ofNat 0 := by rw [← zero, Char.ofNat_toNat]
          rw [this] at initial
          revert initial
          decide
        · rintro rfl
          revert initial
          decide
      · have allowed := inner c later
        simp only [isInner, Bool.and_eq_true, decide_eq_true_eq, ne_eq] at allowed
        exact ⟨by omega, allowed.2⟩

namespace Kept

theorem visiblePart (kept : Kept name) : visiblePart name = name := by
  obtain ⟨_, _, _, _, plain⟩ := cons_of_isValid kept.valid
  have all : name.toList.takeWhile (fun c => c.toNat ≠ 0) = name.toList :=
    List.takeWhile_eq_self_iff.mpr fun c member => decide_eq_true (plain c member).1
  rw [StoredName.visiblePart, all, String.ofList_toList]

theorem ofText? (kept : Kept name) : ofText? name = some name := by
  rw [StoredName.ofText?]
  simp only [kept.visiblePart, kept.valid, if_true, kept.composed]

theorem checkBytes (kept : Kept name) : checkBytes name = .ok () := by
  rw [StoredName.checkBytes, if_pos kept.whole]

theorem sought (kept : Kept name) : sought name = name := by
  rw [StoredName.sought, kept.ofText?, Option.getD_some]

theorem not_isNested (kept : Kept name) : isNested name = false := by
  obtain ⟨_, _, _, _, plain⟩ := cons_of_isValid kept.valid
  rw [isNested, String.contains_char_eq, decide_eq_false_iff_not]
  exact fun member => (plain _ member).2 rfl

theorem parts (kept : Kept name) : parts name = [name] := by
  obtain ⟨first, rest, listed, initial, plain⟩ := cons_of_isValid kept.valid
  have starts : ∀ {other : String}, other.toList.head? ≠ some first → name ≠ other := by
    rintro other differs rfl
    rw [listed] at differs
    exact differs rfl
  have point : first ≠ '.' := by
    rintro rfl
    revert initial
    decide
  have empty : name ≠ "" := starts (by simp)
  have single : name ≠ "." := starts (by simpa using Ne.symm point)
  have double : name ≠ ".." := starts (by simpa using Ne.symm point)
  have whole := Text.cutAt_of_not_mem fun member => (plain '/' member).2 rfl
  simp [StoredName.parts, whole, empty, single, double]

theorem ofPath? (kept : Kept name) (hasGroups : Bool) : ofPath? hasGroups name = some name := by
  simp [StoredName.ofPath?, kept.parts, kept.ofText?]

theorem soughtPath (kept : Kept name) : soughtPath name = name := by
  rw [StoredName.soughtPath, kept.parts, List.map_singleton, kept.sought,
    String.intercalate_singleton]

end Kept

/-- A valid name of characters that take in no marks is kept. -/
theorem kept_of_plain (valid : isValid name = true) (plain : ∀ c ∈ name.toList, c.toNat < 0x300) :
    Kept name where
  whole := by
    rw [Text.isWhole, List.all_eq_true]
    intro c member
    have small := plain c member
    rw [Text.half?, if_neg (by simp only [Text.firstHolder]; omega)]
    rfl
  valid := valid
  composed := by
    rw [Text.composed, if_pos]
    simpa using plain

/-- A text can be followed by more to make a valid name of plain characters. -/
def opensName (text : String) : Bool :=
  match text.toList with
  | [] => false
  | first :: rest =>
    isInitial first && rest.all isInner && (first :: rest).all fun c => c.toNat < 0x300

theorem opensName_append {opening more : String} (opens : opensName opening = true)
    (plain : (more.toList.all fun c => isInner c && c.toNat < 0x300) = true) :
    opensName (opening ++ more) = true := by
  unfold opensName at opens ⊢
  rw [String.toList_append]
  cases listed : opening.toList with
  | nil =>
      rw [listed] at opens
      cases opens
  | cons first rest =>
      simp only [listed, Bool.and_eq_true, List.all_eq_true, List.cons_append, List.mem_cons,
        List.mem_append] at opens plain ⊢
      obtain ⟨⟨initial, inner⟩, short⟩ := opens
      refine ⟨⟨initial, ?_⟩, ?_⟩
      · rintro c (early | late)
        · exact inner c early
        · exact (plain c late).1
      · rintro c (rfl | early | late)
        · exact short c (.inl rfl)
        · exact short c (.inr early)
        · exact (plain c late).2

/-- A text can end a valid name of plain characters. -/
def closesName (text : String) : Bool :=
  text.toList.all (fun c => isInner c && c.toNat < 0x300) &&
    text.toList.getLast?.any fun c => c ≠ ' '

/-- An opening and a closing text make a name that is kept if it is not too long. -/
theorem kept_append {opening closing : String} (opens : opensName opening = true)
    (closes : closesName closing = true)
    (short : opening.utf8ByteSize + closing.utf8ByteSize ≤ mostBytes) :
    Kept (opening ++ closing) := by
  unfold opensName at opens
  cases listed : opening.toList with
  | nil =>
      rw [listed] at opens
      cases opens
  | cons first rest =>
      simp only [listed, Bool.and_eq_true, List.all_eq_true] at opens
      obtain ⟨⟨initial, inner⟩, plain⟩ := opens
      simp only [closesName, Bool.and_eq_true, List.all_eq_true] at closes
      obtain ⟨ended, last⟩ := closes
      have characters : (opening ++ closing).toList = first :: (rest ++ closing.toList) := by
        rw [String.toList_append, listed, List.cons_append]
      obtain ⟨c, closed, unblank⟩ := (Option.any_eq_true _ _).mp last
      refine kept_of_plain ?_ fun d member => ?_
      · have final : (rest ++ closing.toList).getLast? = some c := by
          rw [List.getLast?_append, closed, Option.some_or]
        simp only [isValid, characters, initial, final, Bool.true_and, Bool.and_eq_true,
          List.all_append, List.all_eq_true, bne_iff_ne, ne_eq, Option.some.injEq,
          decide_eq_true_eq, String.utf8ByteSize_append]
        exact ⟨⟨⟨inner, fun d member => (ended d member).1⟩, of_decide_eq_true unblank⟩, short⟩
      · rw [String.toList_append, listed] at member
        rcases List.mem_append.mp member with early | late
        · exact of_decide_eq_true (plain d early)
        · exact of_decide_eq_true (ended d late).2

/-! ### Names with a group in front -/

/-- A name that starts with a group and a point. -/
def qualified (group suffix : String) : String := group ++ "." ++ suffix

theorem qualified_right_inj (group first second : String) :
    qualified group first = qualified group second ↔ first = second := by
  rw [qualified, qualified, String.append_right_inj]

/-- No suffix ends, behind a point, with another one of the list. -/
def SuffixFree (suffixes : List String) : Prop :=
  ∀ first ∈ suffixes, ∀ second ∈ suffixes,
    '.' :: first.toList <:+ '.' :: second.toList → first = second

instance (suffixes : List String) : Decidable (SuffixFree suffixes) :=
  inferInstanceAs (Decidable (∀ first ∈ suffixes, ∀ second ∈ suffixes, _ → _))

/-- Names with suffixes of such a list are different when their groups or their suffixes are,
whatever points the groups have. -/
theorem qualified_inj {suffixes : List String} (free : SuffixFree suffixes)
    {group other first second : String} (firstListed : first ∈ suffixes)
    (secondListed : second ∈ suffixes) :
    qualified group first = qualified other second ↔ group = other ∧ first = second := by
  refine ⟨fun same => ?_, fun ⟨groups, suffixes⟩ => by rw [groups, suffixes]⟩
  have characters : group.toList ++ '.' :: first.toList = other.toList ++ '.' :: second.toList := by
    have listed := congrArg String.toList same
    simpa [qualified] using listed
  have ends : '.' :: second.toList <:+ group.toList ++ '.' :: first.toList :=
    ⟨other.toList, characters.symm⟩
  have suffixSame : first = second := by
    rcases List.suffix_or_suffix_of_suffix (List.suffix_append _ _) ends with inner | outer
    · exact free first firstListed second secondListed inner
    · exact (free second secondListed first firstListed outer).symm
  subst suffixSame
  exact ⟨String.toList_inj.mp (List.append_cancel_right characters), rfl⟩

end StoredName

end Regrid
