import Regrid.Yaml.Block
import Regrid.Yaml.Label

/-!
Contract: the parts that YAML documents are made of, in their order.

Owns:
- the kinds of parts, among them the starts and ends of blocks, which columns tell;
- keys without a mark of their own, which are only known by the colon after them;
- the reading of parts one after the other.

A part is handed out as soon as nothing behind it can put another part in front of it. A
key without a mark stands on one line with its colon and is at most 1024 characters long.
-/

namespace Regrid.Yaml

/-- A part of a document. -/
inductive Token where
  | directive (directive : Directive)
  | documentStart
  | documentEnd
  | finish
  | blockList
  | blockMapping
  | blockEnd
  | flowList
  | flowListEnd
  | flowMapping
  | flowMappingEnd
  | comma
  | item
  | key
  | value
  | reference (name : String)
  | name (name : String)
  | tag (tag : Tag)
  | scalar (text : List Char) (isPlain : Bool)
  deriving DecidableEq, Repr

/-- A place that turns out to be a key as soon as a colon follows: the number of the part
there, and whether only a key can stand at the place. -/
structure KeyPlace where
  number : Nat
  required : Bool
  start : Cursor

/-- Reading that has come to a place: the parts that are not handed out yet, how many
were, how deep flow forms are open, the columns of open blocks from the innermost on, and
the places that may be keys by the depth of flow forms there. -/
structure Reading where
  cursor : Cursor
  pending : List Token := []
  taken : Nat := 0
  depth : Int := 0
  columns : List Nat := []
  admitsKey : Bool := true
  keys : List (Int × KeyPlace) := []
  isDone : Bool := false

namespace Reading

/-- The column of the innermost block. -/
def column (reading : Reading) : Int := (reading.columns.head?.map Int.ofNat).getD (-1)

/-- Adds a part at the end, with the place after it. -/
def push (token : Token) (after : Cursor) (reading : Reading) : Reading :=
  { reading with cursor := after, pending := reading.pending ++ [token] }

/-- A place is no key any more: its line is over, or it is too long. -/
def isStale (reading : Reading) (place : KeyPlace) : Bool :=
  place.start.line != reading.cursor.line || 1024 < reading.cursor.index - place.start.index

/-- Gives up the places that are no keys any more. -/
def dropStale (reading : Reading) : Except Error Reading :=
  if reading.keys.any fun key => reading.isStale key.2 && key.2.required then noPart
  else .ok { reading with keys := reading.keys.filter fun key => !reading.isStale key.2 }

/-- The place that may be a key at the depth that has been reached. -/
def keyPlace? (reading : Reading) : Option KeyPlace := reading.keys.lookup reading.depth

/-- Forgets the place that may be a key at the depth that has been reached. -/
def forgetKey (reading : Reading) : Reading :=
  { reading with keys := reading.keys.filter fun key => key.1 ≠ reading.depth }

/-- Gives up the place that may be a key at the depth that has been reached. -/
def dropKey (reading : Reading) : Except Error Reading :=
  if reading.keyPlace?.any (·.required) then noPart else .ok reading.forgetKey

/-- Notes that the next part may be a key. -/
def noteKey (reading : Reading) : Except Error Reading :=
  if !reading.admitsKey then .ok reading
  else do
    let reading ← reading.dropKey
    let place : KeyPlace :=
      { number := reading.taken + reading.pending.length
        required := reading.depth = 0 && reading.column = reading.cursor.column
        start := reading.cursor }
    return { reading with keys := reading.keys ++ [(reading.depth, place)] }

/-- Closes the blocks that are deeper than a column; flow forms close none. -/
def closeBlocks (column : Int) (reading : Reading) : Reading :=
  if reading.depth ≠ 0 then reading
  else
    let isDeeper (block : Nat) : Bool := column < block
    let count := (reading.columns.takeWhile isDeeper).length
    { reading with
      columns := reading.columns.drop count
      pending := reading.pending ++ List.replicate count .blockEnd }

/-- Opens a block in a column with a part, unless one is open there or deeper. -/
def openBlock (token : Token) (column : Nat) (reading : Reading) : Reading :=
  if reading.column < column then
    { reading with
      columns := column :: reading.columns, pending := reading.pending ++ [token] }
  else reading

/-- Reads the end of the document's text. -/
def readFinish (reading : Reading) : Except Error Reading := do
  let reading ← (reading.closeBlocks (-1)).dropKey
  return { reading.push .finish reading.cursor with
    admitsKey := false, keys := [], isDone := true }

def readDirective (reading : Reading) : Except Error Reading := do
  let reading ← (reading.closeBlocks (-1)).dropKey
  let (directive, after) ← directive reading.cursor
  return { reading.push (.directive directive) after with admitsKey := false }

/-- Reads a mark between documents. -/
def readMark (token : Token) (reading : Reading) : Except Error Reading := do
  let reading ← (reading.closeBlocks (-1)).dropKey
  return { reading.push token (reading.cursor.forward 3) with admitsKey := false }

/-- Reads the opening mark of a flow form. -/
def openFlow (token : Token) (reading : Reading) : Except Error Reading := do
  let reading ← reading.noteKey
  return { reading.push token reading.cursor.next with
    depth := reading.depth + 1, admitsKey := true }

/-- Reads the closing mark of a flow form. -/
def closeFlow (token : Token) (reading : Reading) : Except Error Reading := do
  let reading ← reading.dropKey
  return { reading.push token reading.cursor.next with
    depth := reading.depth - 1, admitsKey := false }

/-- Reads a comma of a flow form. -/
def readComma (reading : Reading) : Except Error Reading := do
  let reading ← reading.dropKey
  return { reading.push .comma reading.cursor.next with admitsKey := true }

/-- Reads a mark that opens a block where it stands, and where only a new line or another
mark may be in front of it. -/
def openAtMark (block : Token) (reading : Reading) : Except Error Reading :=
  if reading.depth ≠ 0 then .ok reading
  else if !reading.admitsKey then noPart
  else .ok (reading.openBlock block reading.cursor.column)

/-- Reads the mark of a list item. -/
def readItem (reading : Reading) : Except Error Reading := do
  let reading ← (← reading.openAtMark .blockList).dropKey
  return { reading.push .item reading.cursor.next with admitsKey := true }

/-- Reads the mark of a key. -/
def readKey (reading : Reading) : Except Error Reading := do
  let reading ← (← reading.openAtMark .blockMapping).dropKey
  return { reading.push .key reading.cursor.next with admitsKey := reading.depth = 0 }

/-- Reads the colon in front of a value. What may be a key is one now, and opens a block
if it is the first in its column. -/
def readValue (reading : Reading) : Except Error Reading :=
  match reading.keyPlace? with
  | some place =>
    let reading := reading.forgetKey
    let position := place.number - reading.taken
    let opens := reading.depth = 0 ∧ reading.column < place.start.column
    let front := if opens then [.blockMapping, .key] else [Token.key]
    let reading :=
      { reading with
        columns := if opens then place.start.column :: reading.columns else reading.columns
        pending := reading.pending.take position ++ front ++ reading.pending.drop position
        admitsKey := false }
    .ok (reading.push .value reading.cursor.next)
  | none => do
    let reading ← reading.openAtMark .blockMapping
    return { reading.push .value reading.cursor.next with admitsKey := reading.depth = 0 }

/-- Reads a part that may be a key, or stand in front of one. -/
def readNode (read : Cursor → Except Error (Token × Cursor)) (reading : Reading) :
    Except Error Reading := do
  let reading ← reading.noteKey
  let (token, after) ← read reading.cursor
  return { reading.push token after with admitsKey := false }

/-- Reads a plain text. A line that ends behind it admits a key again. -/
def readPlain (reading : Reading) : Except Error Reading := do
  let reading ← reading.noteKey
  let cursor := reading.cursor
  let (text, after, crossed) :=
    plainText (reading.depth ≠ 0) (reading.column + 1).toNat (cursor.rest.length + 1) false cursor
  return { reading.push (.scalar text true) after with admitsKey := crossed }

def readQuoted (double : Bool) : Reading → Except Error Reading :=
  readNode fun cursor => do
    let (text, after) ← quotedText double (cursor.rest.length + 1) cursor.next
    return (.scalar text false, after)

def readBlock (folded : Bool) (reading : Reading) : Except Error Reading := do
  let reading ← reading.dropKey
  let (text, after) ← blockText folded reading.column reading.cursor.next
  return { reading.push (.scalar text false) after with admitsKey := true }

/-- Reads the next part, in front of which blocks may end. -/
def readNext (reading : Reading) : Except Error Reading := do
  let (cursor, crossed) := reading.cursor.toPart (reading.cursor.rest.length + 1)
  let admitsKey := reading.admitsKey || (crossed && reading.depth = 0)
  let reading ← dropStale { reading with cursor, admitsKey }
  let reading := reading.closeBlocks cursor.column
  let inFlow : Bool := reading.depth ≠ 0
  match cursor.rest with
  | [] => reading.readFinish
  | c :: rest =>
    if c = '%' ∧ cursor.column = 0 then reading.readDirective
    else if cursor.isAtMark then
      reading.readMark (if c = '-' then .documentStart else .documentEnd)
    else if c = '-' ∧ opensWithGap rest then reading.readItem
    else if c = '?' ∧ (inFlow || opensWithGap rest) then reading.readKey
    else if c = ':' ∧ (inFlow || opensWithGap rest) then reading.readValue
    else
      match c with
      | '[' => reading.openFlow .flowList
      | '\x7b' => reading.openFlow .flowMapping
      | ']' => reading.closeFlow .flowListEnd
      | '\x7d' => reading.closeFlow .flowMappingEnd
      | ',' => reading.readComma
      | '*' => reading.readNode fun cursor => (nodeName cursor).map fun r => (.reference r.1, r.2)
      | '&' => reading.readNode fun cursor => (nodeName cursor).map fun r => (.name r.1, r.2)
      | '!' => reading.readNode fun cursor => (nodeTag cursor).map fun r => (.tag r.1, r.2)
      | '\'' => reading.readQuoted false
      | '"' => reading.readQuoted true
      | _ =>
        if (c = '|' ∨ c = '>') ∧ !inFlow then reading.readBlock (c = '>')
        else if opensPlain inFlow cursor.rest then reading.readPlain
        else noPart

/-- Reads on until the next part can be handed out. -/
def settle : Nat → Reading → Except Error Reading
  | 0, reading => .ok reading
  | fuel + 1, reading =>
    if reading.isDone then .ok reading
    else if reading.pending.isEmpty then do settle fuel (← reading.readNext)
    else do
      let reading ← reading.dropStale
      if reading.keys.any fun key => key.2.number = reading.taken then
        settle fuel (← reading.readNext)
      else return reading

/-- The next part, which stays in place. -/
def peek (reading : Reading) : Except Error (Token × Reading) := do
  let reading ← reading.settle (reading.cursor.rest.length + 2)
  return (reading.pending.headD .finish, reading)

/-- Hands out the next part. -/
def drop (reading : Reading) : Reading :=
  { reading with pending := reading.pending.drop 1, taken := reading.taken + 1 }

/-- The start of a document's text. A byte order mark in front is none of its parts. -/
def start (text : String) : Reading :=
  let characters := text.toList
  { cursor := ⟨if characters.head? = some '\ufeff' then characters.drop 1 else characters,
      0, 0, 0⟩ }

end Reading

end Regrid.Yaml
