import Regrid.Yaml.Digit
import Regrid.Yaml.Plain

/-!
Contract: quoted texts of YAML documents.

Owns:
- the escapes of double-quoted texts;
- quoted texts on any number of lines, whose breaks fold as in plain texts.
-/

namespace Regrid.Yaml

/-- The refusal of a text whose parts cannot be told. -/
def noPart {τ : Type} : Except Error τ := .error .documentPart

def simpleEscape (c : Char) : Option Char :=
  ([('0', '\x00'), ('a', '\x07'), ('b', '\x08'), ('t', '\t'), ('\t', '\t'), ('n', '\n'),
    ('v', '\x0b'), ('f', '\x0c'), ('r', '\r'), ('e', '\x1b'), (' ', ' '), ('"', '"'),
    ('/', '/'), ('\\', '\\'), ('N', '\u0085'), ('_', '\u00a0'), ('L', '\u2028'),
    ('P', '\u2029')] : List (Char × Char)).lookup c

/-- The length of the number after an escape letter. -/
def numberEscape (c : Char) : Option Nat :=
  ([('x', 2), ('u', 4), ('U', 8)] : List (Char × Nat)).lookup c

/-- The character of a number, which has to be in the range of characters. -/
def characterOf (number : Nat) : Except Error Char :=
  if 0x7fffffff < number then .error .numberTooLarge
  else if 0x10ffff < number then .error .wordUnknown
  else .ok (Text.ofUnit number)

/-- Marks of the line breaks from the start of a line on, with blanks between them, and the
place after them. No mark between documents stands inside a quoted text. -/
def quotedBreaks : Nat → Cursor → Except Error (List Char × Cursor)
  | 0, _ => noPart
  | fuel + 1, cursor =>
    if cursor.isAtMark then noPart
    else
      let cursor := cursor.skip isSpace
      match cursor.peek? with
      | some c =>
        if isBreak c then do
          let (marks, after) ← quotedBreaks fuel cursor.pastBreak
          return (breakMark c :: marks, after)
        else .ok ([], cursor)
      | none => .ok ([], cursor)

/-- What a gap inside a quoted text reads as, and the place after it. -/
def quotedGap (cursor : Cursor) : Except Error (List Char × Cursor) :=
  let blanks := cursor.span isSpace
  let cursor := cursor.skip isSpace
  match cursor.peek? with
  | some c =>
    if isBreak c then do
      let (marks, after) ← quotedBreaks (cursor.rest.length + 1) cursor.pastBreak
      return (foldedBreaks c marks, after)
    else .ok (blanks, cursor)
  | none => noPart

/-- What an escape reads as, without its backslash, and the place after it. A backslash
before a line break joins the lines without a blank. -/
def escape (cursor : Cursor) : Except Error (List Char × Cursor) :=
  match cursor.peek? with
  | none => noPart
  | some c =>
    match simpleEscape c, numberEscape c with
    | some x, _ => .ok ([x], cursor.next)
    | none, some count => do
      let digits := cursor.next.rest.take count
      if digits.length < count || !digits.all (digitOf · < 16) then noPart
      return ([← characterOf (inBase 16 digits)], cursor.forward (count + 1))
    | none, none =>
      if isBreak c then quotedBreaks (cursor.rest.length + 1) cursor.pastBreak else noPart

/-- A quoted text after its opening mark, and the place after the closing mark. In a
single-quoted text the mark is written twice, in a double-quoted one it is escaped. -/
def quotedText (double : Bool) : Nat → Cursor → Except Error (List Char × Cursor)
  | 0, _ => noPart
  | fuel + 1, cursor =>
    match cursor.rest with
    | [] => noPart
    | c :: rest =>
      if c = (if double then '"' else '\'') then
        if !double && rest.head? == some '\'' then do
          let (text, last) ← quotedText double fuel (cursor.forward 2)
          return ('\'' :: text, last)
        else .ok ([], cursor.next)
      else do
        let (piece, after) ←
          if double && c == '\\' then escape cursor.next
          else if isGap c then quotedGap cursor
          else .ok ([c], cursor.next)
        let (text, last) ← quotedText double fuel after
        return (piece ++ text, last)

end Regrid.Yaml
