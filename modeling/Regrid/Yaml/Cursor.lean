import Regrid.Error

/-!
Contract: places in YAML documents.

Owns:
- the classes of characters that end lines or part words;
- places with their line and column, and the moves between them;
- the way to the next part of a document past blanks, comments and line breaks.
-/

namespace Regrid.Yaml

/-- A blank on a line. -/
def isSpace (c : Char) : Bool := c == ' ' || c == '\t'

/-- A character that ends a line. -/
def isBreak (c : Char) : Bool :=
  c == '\n' || c == '\r' || c == '\u0085' || c == '\u2028' || c == '\u2029'

/-- A blank or the end of a line. -/
def isGap (c : Char) : Bool := isSpace c || isBreak c

/-- A text is at its end, or goes on with a character of a class. -/
def endsOr (inClass : Char → Bool) (cs : List Char) : Bool := cs.head?.all inClass

/-- A text is at its end, or goes on with a blank. -/
def opensWithGap (cs : List Char) : Bool := endsOr isGap cs

/-- The character that a line break reads as; only two kinds are told from the others. -/
def breakMark (c : Char) : Char := if c = '\u2028' ∨ c = '\u2029' then c else '\n'

/-- A letter or digit of names, or one of the two marks that join them. -/
def isWordChar (c : Char) : Bool := c.isAlphanum || c == '-' || c == '_'

/-- A place in a document: what follows it, how many characters are before it, and where
it is. -/
structure Cursor where
  rest : List Char
  index : Nat := 0
  column : Nat := 0
  line : Nat := 0
  deriving Repr, Inhabited

namespace Cursor

/-- The next character. -/
def peek? (cursor : Cursor) : Option Char := cursor.rest.head?

/-- The place after the next character. A carriage return before a line feed ends no line
yet, and a byte order mark takes no column. -/
def next (cursor : Cursor) : Cursor :=
  match cursor.rest with
  | [] => cursor
  | c :: rest =>
    if isBreak c && !(c == '\r' && rest.head? == some '\n') then
      ⟨rest, cursor.index + 1, 0, cursor.line + 1⟩
    else
      let column := if c = '\ufeff' then cursor.column else cursor.column + 1
      ⟨rest, cursor.index + 1, column, cursor.line⟩

/-- The place after so many characters. -/
def forward : Nat → Cursor → Cursor
  | 0, cursor => cursor
  | count + 1, cursor => forward count cursor.next

/-- The characters of a class that follow a place. -/
def span (inClass : Char → Bool) (cursor : Cursor) : List Char := cursor.rest.takeWhile inClass

def skip (inClass : Char → Bool) (cursor : Cursor) : Cursor :=
  cursor.forward (cursor.span inClass).length

/-- The place is at the end of a line. -/
def isAtBreak (cursor : Cursor) : Bool := cursor.peek?.any isBreak

/-- The place after a line break, which a carriage return and a line feed make together. -/
def pastBreak (cursor : Cursor) : Cursor :=
  match cursor.rest with
  | '\r' :: '\n' :: _ => cursor.forward 2
  | _ => cursor.next

/-- The place is at a mark that separates documents. -/
def isAtMark (cursor : Cursor) : Bool :=
  cursor.column = 0 &&
    match cursor.rest with
    | '-' :: '-' :: '-' :: rest => opensWithGap rest
    | '.' :: '.' :: '.' :: rest => opensWithGap rest
    | _ => false

/-- The place after blanks and a comment. -/
def pastComment (cursor : Cursor) : Cursor :=
  let cursor := cursor.skip (· == ' ')
  if cursor.peek? = some '#' then cursor.skip (!isBreak ·) else cursor

/-- The next thing that is no blank, comment or line break, and whether lines ended on the
way to it. -/
def toPart : Nat → Cursor → Cursor × Bool
  | 0, cursor => (cursor, false)
  | fuel + 1, cursor =>
    let cursor := cursor.pastComment
    if cursor.isAtBreak then ((toPart fuel cursor.pastBreak).1, true) else (cursor, false)

/-- The place after the rest of a line that holds nothing but a comment. -/
def pastLine? (cursor : Cursor) : Option Cursor :=
  let cursor := cursor.pastComment
  if cursor.isAtBreak then some cursor.pastBreak
  else if cursor.rest.isEmpty then some cursor
  else none

end Cursor

end Regrid.Yaml
