import Regrid.Text.Paragraph

/-!
Contract: cutting a text and filling lines with its words put no character in that was not there.

Owns:
- the pieces of a text without separators, and the characters of pieces;
- the characters of a paragraph that was broken into lines.

Does not own: where the lines are broken.
-/

namespace Regrid.Text

/-! ### Pieces -/

theorem pieces_of_not_mem {separator : Char} {cs : List Char} (absent : separator ∉ cs) :
    pieces separator cs = [cs] := by
  induction cs with
  | nil => rfl
  | cons c rest inductionHypothesis =>
      have other : c ≠ separator := fun same => absent (same ▸ List.mem_cons_self)
      have later : separator ∉ rest := fun member => absent (List.mem_cons_of_mem c member)
      rw [pieces, if_neg other, inductionHypothesis later]

theorem cutAt_of_not_mem {separator : Char} {text : String} (absent : separator ∉ text.toList) :
    cutAt separator text = [text] := by
  rw [cutAt, pieces_of_not_mem absent, List.map_singleton, String.ofList_toList]

theorem mem_of_mem_pieces {separator c : Char} {cs piece : List Char}
    (listed : piece ∈ pieces separator cs) (member : c ∈ piece) : c ∈ cs := by
  induction cs generalizing piece with
  | nil =>
      obtain rfl := List.mem_singleton.mp listed
      cases member
  | cons d rest inductionHypothesis =>
      rw [pieces] at listed
      split at listed
      next =>
        rcases List.mem_cons.mp listed with rfl | later
        · cases member
        · exact List.mem_cons_of_mem d (inductionHypothesis later member)
      next =>
        split at listed
        next first others cut =>
          rcases List.mem_cons.mp listed with rfl | later
          · rcases List.mem_cons.mp member with rfl | inFirst
            · exact List.mem_cons_self
            · exact List.mem_cons_of_mem d
                (inductionHypothesis (cut ▸ List.mem_cons_self) inFirst)
          · exact List.mem_cons_of_mem d
              (inductionHypothesis (cut ▸ List.mem_cons_of_mem first later) member)
        next =>
          obtain rfl := List.mem_singleton.mp listed
          obtain rfl := List.mem_singleton.mp member
          exact List.mem_cons_self

theorem mem_of_mem_cutAt {separator c : Char} {text piece : String}
    (listed : piece ∈ cutAt separator text) (member : c ∈ piece.toList) : c ∈ text.toList := by
  obtain ⟨characters, cut, rfl⟩ := List.mem_map.mp listed
  rw [String.toList_ofList] at member
  exact mem_of_mem_pieces cut member

/-! ### Lines -/

variable {P : Char → Prop} {width : Nat}

theorem forall_fillLines (blank : P ' ') {line : String} {words : List String}
    (started : ∀ c ∈ line.toList, P c) (coming : ∀ word ∈ words, ∀ c ∈ word.toList, P c) :
    ∀ filled ∈ fillLines width line words, ∀ c ∈ filled.toList, P c := by
  induction words generalizing line with
  | nil =>
      intro filled listed
      obtain rfl := List.mem_singleton.mp listed
      exact started
  | cons word rest inductionHypothesis =>
      have own : ∀ c ∈ word.toList, P c := coming word List.mem_cons_self
      have later : ∀ word ∈ rest, ∀ c ∈ word.toList, P c :=
        fun other member => coming other (List.mem_cons_of_mem word member)
      have joined : ∀ c ∈ (line ++ " " ++ word).toList, P c := by
        intro c member
        have split : (c ∈ line.toList ∨ c = ' ') ∨ c ∈ word.toList := by
          simpa [or_assoc] using member
        rcases split with (early | rfl) | late
        · exact started c early
        · exact blank
        · exact own c late
      rw [fillLines]
      split
      · exact inductionHypothesis own later
      · split
        · exact inductionHypothesis joined later
        · intro filled listed
          rcases List.mem_cons.mp listed with rfl | others
          · exact started
          · exact inductionHypothesis own later filled others

theorem mem_of_mem_intersperse {ι : Type} {separator item : ι} {items : List ι}
    (listed : item ∈ items.intersperse separator) : item = separator ∨ item ∈ items := by
  fun_induction List.intersperse separator items with
  | case1 => exact .inr listed
  | case2 only => exact .inr listed
  | case3 first second rest inductionHypothesis =>
      rcases List.mem_cons.mp listed with rfl | later
      · exact .inr List.mem_cons_self
      · rcases List.mem_cons.mp later with rfl | after
        · exact .inl rfl
        · exact (inductionHypothesis after).imp id (List.mem_cons_of_mem first)

/-- A paragraph in lines has the characters of the paragraph, blanks and line breaks. -/
theorem forall_fillParagraph (blank : P ' ') (lineBreak : P '\n') {paragraph : String}
    (plain : ∀ c ∈ paragraph.toList, P c) :
    ∀ c ∈ (fillParagraph width paragraph).toList, P c := by
  intro c member
  have words : ∀ word ∈ (cutAt ' ' paragraph).filter (· ≠ ""), ∀ c ∈ word.toList, P c :=
    fun word listed c inWord => plain c (mem_of_mem_cutAt (List.mem_filter.mp listed).1 inWord)
  rw [fillParagraph, String.toList_intercalate, List.intercalate, List.mem_flatten] at member
  obtain ⟨characters, listed, inCharacters⟩ := member
  rcases mem_of_mem_intersperse listed with rfl | inLines
  · obtain rfl : c = '\n' := by simpa using inCharacters
    exact lineBreak
  · obtain ⟨line, filled, rfl⟩ := List.mem_map.mp inLines
    exact forall_fillLines blank (by simp) words line filled c inCharacters

end Regrid.Text
