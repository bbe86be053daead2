import Regrid.Error
import Regrid.Text.Composition
import Regrid.Text.Pieces

/-!
Contract: the names that a file can hold.

Owns:
- which texts can be the name of a variable, a dimension or an attribute, and the form in
  which such a name is held;
- paths, which name a variable inside groups.
-/

namespace Regrid.StoredName

/-- The part of a text before its first NUL, which is all that a file sees of it. -/
def visiblePart (text : String) : String :=
  String.ofList (text.toList.takeWhile fun c => c.toNat ≠ 0)

/-- A character that a name can start with: an ASCII letter or digit, the underscore, or
any character outside ASCII. -/
def isInitial (c : Char) : Bool := c.isAlphanum || c = '_' || 0x80 ≤ c.toNat

/-- A character that a name can go on with. -/
def isInner (c : Char) : Bool := 0x20 ≤ c.toNat && c.toNat ≠ 0x7f && c ≠ '/'

/-- The largest number of bytes that a name can take. -/
def mostBytes : Nat := 256

/-- A text can be a name. A name does not end in a blank. -/
def isValid (name : String) : Bool :=
  match name.toList with
  | [] => false
  | first :: rest =>
    isInitial first && rest.all isInner && rest.getLast? != some ' ' &&
      name.utf8ByteSize ≤ mostBytes

/-- The name that a file holds for a text, if the text can be a name. -/
def ofText? (text : String) : Option String :=
  let name := visiblePart text
  if isValid name then some (Text.composed name) else none

/-- Checks that a text can be written as bytes. -/
def checkBytes (text : String) : Except Error Unit :=
  if Text.isWhole text then .ok () else .error .textUnwritable

/-- The name that a file looks for, given a text. -/
def sought (text : String) : String := (ofText? text).getD (visiblePart text)

/-- The parts of a path. Empty parts and single points say nothing, and two points take
back the part before them. -/
def parts (path : String) : List String :=
  let step (known : List String) (part : String) : List String :=
    if part = "" ∨ part = "." then known
    else if part ≠ ".." then part :: known
    else
      match known with
      | last :: before => if last = ".." then part :: known else before
      | [] => if path.startsWith "/" then [] else [part]
  ((Text.cutAt '/' path).foldl step []).reverse

/-- The form in which a file holds a path, if each of its parts can be a name. A path leads
through groups, which not every file has. -/
def ofPath? (hasGroups : Bool) (path : String) : Option String :=
  match (parts path).mapM ofText? with
  | none | some [] => none
  | some [name] => some name
  | some names => if hasGroups then some ("/".intercalate names) else none

/-- The path that a file looks for, given a text. -/
def soughtPath (path : String) : String := "/".intercalate ((parts path).map sought)

/-- The name of a variable inside a group. -/
def isNested (name : String) : Bool := name.contains '/'

end Regrid.StoredName
