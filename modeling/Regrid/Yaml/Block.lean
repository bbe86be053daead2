import Regrid.Yaml.Quoted

/-!
Contract: block texts of YAML documents, whose lines stand below a mark.

Owns:
- the header of a block text: how its last breaks count, and how deep it is;
- the lines of a block text, with their breaks as they are or folded into blanks.
-/

namespace Regrid.Yaml

/-- What the header of a block text says: whether all last breaks are kept or none, and
how much deeper the text is than what it belongs to. -/
structure BlockHeader where
  keeps : Option Bool
  depth : Option Nat

/-- The sign of a header, and the place after it. -/
def headerSign (cursor : Cursor) : Option Bool × Cursor :=
  match cursor.peek? with
  | some '+' => (some true, cursor.next)
  | some '-' => (some false, cursor.next)
  | _ => (none, cursor)

/-- The digit of a header, which is not zero, and the place after it. -/
def headerDepth (cursor : Cursor) : Except Error (Option Nat × Cursor) :=
  match cursor.peek? with
  | some c =>
    if !c.isDigit then .ok (none, cursor)
    else if c = '0' then noPart
    else .ok (some (digitOf c), cursor.next)
  | none => .ok (none, cursor)

/-- The header of a block text, sign and digit in either order, and the place on the next
line. -/
def blockHeader (cursor : Cursor) : Except Error (BlockHeader × Cursor) := do
  let (early, cursor) := headerSign cursor
  let (depth, cursor) ← headerDepth cursor
  let (late, cursor) := if early.isNone && depth.isSome then headerSign cursor else (none, cursor)
  if !endsOr (fun c => c == ' ' || isBreak c) cursor.rest then noPart
  match cursor.pastLine? with
  | some after => return (⟨early.or late, depth⟩, after)
  | none => noPart

/-- Marks of the empty lines at the head of a block text, the greatest column reached in
them, and the place after them. -/
def leadingLines : Nat → Cursor → List Char × Nat × Cursor
  | 0, cursor => ([], 0, cursor)
  | fuel + 1, cursor =>
    let cursor := cursor.skip (· == ' ')
    match cursor.peek? with
    | some c =>
      if isBreak c then
        let (marks, deepest, after) := leadingLines fuel cursor.pastBreak
        (breakMark c :: marks, max cursor.column deepest, after)
      else ([], cursor.column, cursor)
    | none => ([], cursor.column, cursor)

/-- The place after blanks up to a column. -/
def indented (column : Nat) (cursor : Cursor) : Cursor :=
  cursor.forward (min (column - cursor.column) (cursor.span (· == ' ')).length)

/-- Marks of the empty lines before the next line of a block text, and the place after
them. -/
def blockBreaks (column : Nat) : Nat → Cursor → List Char × Cursor
  | 0, cursor => ([], cursor)
  | fuel + 1, cursor =>
    let cursor := indented column cursor
    match cursor.peek? with
    | some c =>
      if isBreak c then
        let (marks, after) := blockBreaks column fuel cursor.pastBreak
        (breakMark c :: marks, after)
      else ([], cursor)
    | none => ([], cursor)

/-- The lines of a block text in a column after the marks of empty lines: their text, the
mark of the last break, the marks after it, and the place after all of them. A folded
break between two lines that do not open with a blank reads as a blank, or as the empty
lines after it. -/
def blockLines (folded : Bool) (column : Nat) :
    Nat → List Char → Cursor → List Char × List Char × List Char × Cursor
  | 0, marks, cursor => ([], [], marks, cursor)
  | fuel + 1, marks, cursor =>
    if cursor.column ≠ column || cursor.rest.isEmpty then ([], [], marks, cursor)
    else
      let line := cursor.span (!isBreak ·)
      let ending := cursor.skip (!isBreak ·)
      let mark := (ending.peek?.map breakMark).toList
      let (empties, next) := blockBreaks column (ending.rest.length + 1) ending.pastBreak
      if next.column = column ∧ !next.rest.isEmpty then
        let folds := folded && mark == ['\n'] && !cursor.peek?.any isSpace &&
          !next.peek?.any isSpace
        let joint := if !folds then mark else if empties.isEmpty then [' '] else []
        let (text, lastMark, others, last) := blockLines folded column fuel empties next
        (marks ++ line ++ joint ++ text, lastMark, others, last)
      else (marks ++ line, mark, empties, next)

/-- A block text after its mark, inside a block in a column, and the place after it. -/
def blockText (folded : Bool) (parent : Int) (cursor : Cursor) :
    Except Error (List Char × Cursor) := do
  let (header, cursor) ← blockHeader cursor
  let least := (parent + 1).toNat.max 1
  let fuel := cursor.rest.length + 1
  let (column, marks, first) :=
    match header.depth with
    | some depth =>
      let column := least + depth - 1
      (column, blockBreaks column fuel cursor)
    | none =>
      let (marks, deepest, after) := leadingLines fuel cursor
      (max least deepest, marks, after)
  let (text, mark, others, last) := blockLines folded column fuel marks first
  let ending :=
    match header.keeps with
    | some true => mark ++ others
    | some false => []
    | none => mark
  return (text ++ ending, last)

end Regrid.Yaml
