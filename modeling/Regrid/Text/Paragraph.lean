import Regrid.Text.Pieces

/-!
Contract: breaking a paragraph into lines.

Owns: greedy filling of lines up to a width, with breaks only between words.
-/

namespace Regrid.Text

/-- Fills lines greedily: a word goes onto the current line if it still fits there. -/
def fillLines (width : Nat) (line : String) : List String → List String
  | [] => [line]
  | word :: rest =>
    if line.isEmpty then fillLines width word rest
    else if line.length + 1 + word.length ≤ width then
      fillLines width (line ++ " " ++ word) rest
    else line :: fillLines width word rest

/-- A paragraph with line breaks between words so that no line of several words is
longer than the width. -/
def fillParagraph (width : Nat) (paragraph : String) : String :=
  "\n".intercalate (fillLines width "" ((cutAt ' ' paragraph).filter (· ≠ "")))

end Regrid.Text
