import Regrid.Yaml.Quoted

/-!
Contract: what YAML documents say about their nodes and about themselves.

Owns:
- the names of nodes, by which other places refer to them;
- tags, with a handle that stands for their beginning;
- directives for a whole document.
-/

namespace Regrid.Yaml

/-- A tag: its handle, if it has one, and the rest of it. -/
structure Tag where
  handle : Option String
  suffix : String
  deriving DecidableEq, Repr

/-- What a directive says: the version of the format, the beginning that a handle of tags
stands for, or something unknown. -/
inductive Directive where
  | version (major : Nat)
  | handle (name start : String)
  | other
  deriving DecidableEq, Repr

/-- A blank that is no tab, or the end of a line. -/
def isPartEnd (c : Char) : Bool := c == ' ' || isBreak c

/-- A place where nothing but the end, a blank or a line break follows. -/
def closed (cursor : Cursor) : Except Error Unit :=
  if endsOr isPartEnd cursor.rest then .ok () else noPart

/-- The name after a mark of one character, and the place after it. -/
def nodeName (cursor : Cursor) : Except Error (String × Cursor) :=
  let cursor := cursor.next
  let name := cursor.span isWordChar
  let after := cursor.skip isWordChar
  let mayFollow (c : Char) : Bool :=
    isGap c || ['?', ':', ',', ']', '\x7d', '%', '@', '\x60'].contains c
  if name.isEmpty || !endsOr mayFollow after.rest then noPart
  else .ok (String.ofList name, after)

/-- A character of an address. -/
def isAddressChar (c : Char) : Bool :=
  c.isAlphanum || ['-', ';', '/', '?', ':', '@', '&', '=', '+', '$', ',', '_', '.', '!', '~', '*',
    '\'', '(', ')', '[', ']', '%'].contains c

/-- The bytes that escapes of an address write, and the place after them. -/
def addressBytes : Nat → Cursor → Except Error (List UInt8 × Cursor)
  | 0, cursor => .ok ([], cursor)
  | fuel + 1, cursor =>
    if cursor.peek? ≠ some '%' then .ok ([], cursor)
    else do
      let digits := cursor.next.rest.take 2
      if digits.length < 2 || !digits.all (digitOf · < 16) then noPart
      let (bytes, after) ← addressBytes fuel (cursor.forward 3)
      return ((inBase 16 digits).toUInt8 :: bytes, after)

/-- The characters of an address, and the place after it. Escapes have to write characters. -/
def addressText : Nat → Cursor → Except Error (List Char × Cursor)
  | 0, cursor => .ok ([], cursor)
  | fuel + 1, cursor =>
    match cursor.peek? with
    | none => .ok ([], cursor)
    | some c =>
      if !isAddressChar c then .ok ([], cursor)
      else do
        let (piece, after) ←
          if c = '%' then do
            let (bytes, after) ← addressBytes (cursor.rest.length + 1) cursor
            match String.fromUTF8? ⟨bytes.toArray⟩ with
            | some text => pure (text.toList, after)
            | none => noPart
          else pure ([c], cursor.next)
        let (text, last) ← addressText fuel after
        return (piece ++ text, last)

/-- An address of at least one character, and the place after it. -/
def address (cursor : Cursor) : Except Error (String × Cursor) := do
  let (text, after) ← addressText (cursor.rest.length + 1) cursor
  if text.isEmpty then noPart
  return (String.ofList text, after)

/-- A handle of tags between its marks, and the place after it. -/
def tagHandle (cursor : Cursor) : Except Error (String × Cursor) :=
  match cursor.rest with
  | '!' :: ' ' :: _ => .ok ("!", cursor.next)
  | '!' :: _ =>
    let name := cursor.next.span isWordChar
    let after := cursor.forward (name.length + 1)
    if after.peek? = some '!' then .ok (String.ofList ('!' :: name ++ ['!']), after.next)
    else noPart
  | _ => noPart

/-- A tag at its mark, and the place after it. -/
def nodeTag (cursor : Cursor) : Except Error (Tag × Cursor) := do
  let (tag, after) ←
    match cursor.next.peek? with
    | some '<' => do
      let (suffix, after) ← address (cursor.forward 2)
      if after.peek? ≠ some '>' then noPart
      pure (Tag.mk none suffix, after.next)
    | opening =>
      if opening.all isGap then pure (Tag.mk none "!", cursor.next)
      else do
        let word := cursor.next.span fun c => !isPartEnd c
        let (handle, start) ←
          if word.contains '!' then tagHandle cursor else pure ("!", cursor.next)
        let (suffix, after) ← address start
        pure (Tag.mk (some handle) suffix, after)
  closed after
  return (tag, after)

/-- A number of a directive, and the place after it. -/
def directiveNumber (cursor : Cursor) : Except Error (Nat × Cursor) :=
  let digits := cursor.span Char.isDigit
  if digits.isEmpty then noPart
  else if 4300 < digits.length then .error (.tooManyDigits digits.length)
  else .ok (inBase 10 digits, cursor.skip Char.isDigit)

/-- A directive at its mark, and the place on the next line. -/
def directive (cursor : Cursor) : Except Error (Directive × Cursor) := do
  let start := cursor.next
  let name := start.span isWordChar
  let after := start.skip isWordChar
  if name.isEmpty then noPart
  closed after
  let (directive, last) ←
    match String.ofList name with
    | "YAML" => do
      let (major, after) ← directiveNumber (after.skip (· == ' '))
      if after.peek? ≠ some '.' then noPart
      let (_, after) ← directiveNumber after.next
      closed after
      pure (Directive.version major, after)
    | "TAG" => do
      let (handle, after) ← tagHandle (after.skip (· == ' '))
      if after.peek? ≠ some ' ' then noPart
      let (start, after) ← address (after.skip (· == ' '))
      closed after
      pure (Directive.handle handle start, after)
    | _ => pure (Directive.other, after.skip (!isBreak ·))
  match last.pastLine? with
  | some next => return (directive, next)
  | none => noPart

end Regrid.Yaml
