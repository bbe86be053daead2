import Regrid.Yaml.Cursor

/-!
Contract: plain texts of YAML documents, which stand without quotes.

Owns:
- where a plain text can start and where its parts end;
- plain texts that go on on further lines.

Inside a text that goes on, a single line break reads as a blank, and more of them as one
break less.
-/

namespace Regrid.Yaml

/-- A character that separates the parts of a flow form. -/
def isFlowMark (c : Char) : Bool :=
  c == ',' || c == '[' || c == ']' || c == '\x7b' || c == '\x7d'

/-- The characters of a plain text up to a gap, to a colon before a gap, and in flow form
up to one of its marks. -/
def plainPart (inFlow : Bool) : List Char → List Char
  | [] => []
  | c :: rest =>
    let ends := isGap c || (inFlow && (isFlowMark c || c == '?')) ||
      (c == ':' && (opensWithGap rest || (inFlow && rest.head?.any isFlowMark)))
    if ends then [] else c :: plainPart inFlow rest

/-- A text can open with these characters; some marks open one only before a character
that is no gap. -/
def opensPlain (inFlow : Bool) : List Char → Bool
  | [] => false
  | c :: rest =>
    let isMark := isFlowMark c ||
      ['-', '?', ':', '#', '&', '*', '!', '|', '>', '\'', '"', '%', '@', '\x60'].contains c
    !(isGap c || isMark) ||
      (!opensWithGap rest && (c == '-' || (!inFlow && (c == '?' || c == ':'))))

/-- Marks of the line breaks from the start of a line on, with blanks between them, and the
place after them; nothing when they lead to a mark between documents. -/
def plainBreaks : Nat → Cursor → Option (List Char) × Cursor
  | 0, cursor => (some [], cursor)
  | fuel + 1, cursor =>
    if cursor.isAtMark then (none, cursor)
    else
      let cursor := cursor.skip (· == ' ')
      match cursor.peek? with
      | some c =>
        if isBreak c then
          let (marks?, after) := plainBreaks fuel cursor.pastBreak
          (marks?.map (breakMark c :: ·), after)
        else (some [], cursor)
      | none => (some [], cursor)

/-- What a line break and the marks of those after it read as. -/
def foldedBreaks (c : Char) (marks : List Char) : List Char :=
  if breakMark c ≠ '\n' then c :: marks else if marks.isEmpty then [' '] else marks

/-- What the gap after a part of a plain text reads as, the place after it, and whether a
line ended in it. -/
def plainGap (cursor : Cursor) : List Char × Cursor × Bool :=
  let blanks := cursor.span (· == ' ')
  let cursor := cursor.skip (· == ' ')
  match cursor.peek? with
  | some c =>
    if isBreak c then
      match plainBreaks (cursor.rest.length + 1) cursor.pastBreak with
      | (some marks, after) => (foldedBreaks c marks, after, true)
      | (none, after) => ([], after, true)
    else (blanks, cursor, false)
  | none => (blanks, cursor, false)

/-- A plain text, the place after it, and whether a line ended before that place. The text
goes on after a gap unless a comment follows, or, outside flow forms, a line that is not
indented deeply enough. -/
def plainText (inFlow : Bool) (least : Nat) :
    Nat → Bool → Cursor → List Char × Cursor × Bool
  | 0, crossed, cursor => ([], cursor, crossed)
  | fuel + 1, crossed, cursor =>
    let part := plainPart inFlow cursor.rest
    if part.isEmpty then ([], cursor, crossed)
    else
      let (gap, after, crossed) := plainGap (cursor.forward part.length)
      let ends := gap.isEmpty || after.peek? == some '#' || (!inFlow && after.column < least)
      if ends then (part, after, crossed)
      else
        let (more, last, crossed) := plainText inFlow least fuel crossed after
        (if more.isEmpty then part else part ++ gap ++ more, last, crossed)

end Regrid.Yaml
