/-!
Contract: a text cut at every occurrence of one character.

Owns: the parts between the occurrences, of which there is always one more than of these.
-/

namespace Regrid.Text

/-- The characters between the occurrences of a separator. -/
def pieces (separator : Char) : List Char → List (List Char)
  | [] => [[]]
  | c :: rest =>
    if c = separator then [] :: pieces separator rest
    else
      match pieces separator rest with
      | first :: others => (c :: first) :: others
      | [] => [[c]]

/-- The parts of a text between the occurrences of a separator. -/
def cutAt (separator : Char) (text : String) : List String :=
  (pieces separator text.toList).map String.ofList

end Regrid.Text
