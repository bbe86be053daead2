import Regrid.Yaml.Scalar
import Regrid.Yaml.Token

/-!
Contract: the nodes of YAML documents, put together from their parts.

Owns:
- nodes with their kinds;
- the forms of lists and mappings, in flows and in blocks;
- names of nodes and the places that refer to them;
- documents, of which a text has at most one.
-/

namespace Regrid.Yaml

/-- A node: a text, a list or a mapping, each with what it stands for. -/
inductive Node where
  | scalar (kind : Kind) (text : List Char)
  | list (kind : Kind) (items : List Node)
  | mapping (kind : Kind) (entries : List (Node × Node))

namespace Node

/-- The node of a place where nothing stands. -/
def empty : Node := .scalar .null []

end Node

/-- A document that has been read up to a place: the reading, the nodes that have names,
where a node that is still open counts as empty, and what handles of tags stand for. -/
structure Draft where
  reading : Reading
  names : List (String × Node) := []
  handles : List (String × String) := []

/-- An action that reads on in a document. -/
abbrev Reads := StateT Draft (Except Error)

/-- The refusal of parts in an order that makes no document. -/
def noForm {τ : Type} : Reads τ := throw .documentForm

/-- Handles of tags that every document has. -/
def ownHandles : List (String × String) := [("!", "!"), ("!!", "tag:yaml.org,2002:")]

/-- The next part. -/
def peek : Reads Token := do
  let draft ← get
  let (token, reading) ← draft.reading.peek
  set { draft with reading }
  return token

/-- Goes past the next part. -/
def drop : Reads Unit := modify fun draft => { draft with reading := draft.reading.drop }

/-- What stands in front of a node: a name and a tag, in any order. -/
def labels : Reads (Option String × Option Tag) := do
  match ← peek with
  | .name name =>
    drop
    match ← peek with
    | .tag tag => drop; return (some name, some tag)
    | _ => return (some name, none)
  | .tag tag =>
    drop
    match ← peek with
    | .name name => drop; return (some name, some tag)
    | _ => return (none, some tag)
  | _ => return (none, none)

/-- The whole tag, whose handle has to be known. -/
def wholeTag (tag : Tag) : Reads String := do
  match tag.handle with
  | none => return tag.suffix
  | some handle =>
    match (← get).handles.lookup handle with
    | some start => return start ++ tag.suffix
    | none => noForm

/-- Notes what a name stands for. -/
def giveName (name? : Option String) (node : Node) : Reads Unit :=
  modify fun draft => { draft with names := (name?.map (·, node)).toList ++ draft.names }

/-- Names a node that is open as long as its inside is read. No other node has the name. -/
def naming (name? : Option String) (empty : Node) (inside : Reads Node) : Reads Node := do
  let names := (← get).names
  if name?.any fun name => (names.lookup name).isSome then throw Error.documentReference
  giveName name? empty
  let node ← inside
  giveName name? node
  return node

def named (name : String) : Reads Node := do
  match (← get).names.lookup name with
  | some node => return node
  | none => throw Error.documentReference

/-- The kind of a node with a tag, or without one. The shortest tag says that the text of
a node counts as plain. -/
def nodeKind (tag? : Option String) (untagged : Kind) : Kind :=
  match tag? with
  | none | some "!" => untagged
  | some tag => taggedKind tag

/-- The kind of a text with a tag, or without one. -/
def textKind (tag? : Option String) (isPlain : Bool) (text : List Char) : Kind :=
  nodeKind tag? (if isPlain || tag? = some "!" then plainKind text else .text)

mutual

/-- A node. In a block it can be a block, and at the place of a value a list whose marks
stand no deeper than the key. -/
def readNode (inBlock atValue : Bool) : Nat → Reads Node
  | 0 => noForm
  | fuel + 1 => do
    if let .reference name ← peek then
      drop
      return ← named name
    let (name?, tag?) ← labels
    let tag? ← tag?.mapM wholeTag
    let listKind := nodeKind tag? .list
    let mappingKind := nodeKind tag? .mapping
    match ← peek, inBlock, atValue with
    | .item, _, true =>
      naming name? (.list listKind []) do return .list listKind (← readValueItems fuel)
    | .scalar text isPlain, _, _ =>
      naming name? .empty do
        drop
        return .scalar (textKind tag? isPlain text) text
    | .flowList, _, _ =>
      naming name? (.list listKind []) do
        drop
        return .list listKind (← readFlowItems true fuel)
    | .flowMapping, _, _ =>
      naming name? (.mapping mappingKind []) do
        drop
        return .mapping mappingKind (← readFlowEntries true fuel)
    | .blockList, true, _ =>
      naming name? (.list listKind []) do
        drop
        return .list listKind (← readItems fuel)
    | .blockMapping, true, _ =>
      naming name? (.mapping mappingKind []) do
        drop
        return .mapping mappingKind (← readEntries fuel)
    | _, _, _ =>
      if name?.isNone && tag?.isNone then noForm
      else naming name? .empty do return .scalar (textKind tag? true []) []

/-- A node, unless nothing stands before one of the parts that end its place. -/
def readUnless (ends : List Token) (inBlock atValue : Bool) : Nat → Reads Node
  | 0 => noForm
  | fuel + 1 => do
    if ends.contains (← peek) then return .empty else readNode inBlock atValue fuel

/-- The value after a colon, if there is one. -/
def readValue (ends : List Token) (inBlock : Bool) : Nat → Reads Node
  | 0 => noForm
  | fuel + 1 => do
    if (← peek) = .value then
      drop
      readUnless ends inBlock inBlock fuel
    else return .empty

def readItems : Nat → Reads (List Node)
  | 0 => noForm
  | fuel + 1 => do
    match ← peek with
    | .item =>
      drop
      let item ← readUnless [.item, .blockEnd] true false fuel
      return item :: (← readItems fuel)
    | .blockEnd => drop; return []
    | _ => noForm

/-- The items of a list at the place of a value, which no part ends. -/
def readValueItems : Nat → Reads (List Node)
  | 0 => noForm
  | fuel + 1 => do
    match ← peek with
    | .item =>
      drop
      let item ← readUnless [.item, .key, .value, .blockEnd] true false fuel
      return item :: (← readValueItems fuel)
    | _ => return []

def readEntries : Nat → Reads (List (Node × Node))
  | 0 => noForm
  | fuel + 1 => do
    match ← peek with
    | .key =>
      drop
      let key ← readUnless [.key, .value, .blockEnd] true true fuel
      let value ← readValue [.key, .value, .blockEnd] true fuel
      return (key, value) :: (← readEntries fuel)
    | .blockEnd => drop; return []
    | _ => noForm

/-- The items of a flow list after its opening mark or an item. An entry among them is a
mapping of its own. -/
def readFlowItems (isFirst : Bool) : Nat → Reads (List Node)
  | 0 => noForm
  | fuel + 1 => do
    if !isFirst && (← peek) = .comma then drop
    else if !isFirst && (← peek) ≠ .flowListEnd then noForm
    match ← peek with
    | .flowListEnd => drop; return []
    | .key =>
      drop
      let key ← readUnless [.value, .comma, .flowListEnd] false false fuel
      let value ← readValue [.comma, .flowListEnd] false fuel
      return .mapping .mapping [(key, value)] :: (← readFlowItems false fuel)
    | _ =>
      let item ← readNode false false fuel
      return item :: (← readFlowItems false fuel)

/-- The entries of a flow mapping after its opening mark or an entry. A node without a
colon is a key alone. -/
def readFlowEntries (isFirst : Bool) : Nat → Reads (List (Node × Node))
  | 0 => noForm
  | fuel + 1 => do
    if !isFirst && (← peek) = .comma then drop
    else if !isFirst && (← peek) ≠ .flowMappingEnd then noForm
    match ← peek with
    | .flowMappingEnd => drop; return []
    | .key =>
      drop
      let key ← readUnless [.value, .comma, .flowMappingEnd] false false fuel
      let value ← readValue [.comma, .flowMappingEnd] false fuel
      return (key, value) :: (← readFlowEntries false fuel)
    | _ =>
      let key ← readNode false false fuel
      return (key, .empty) :: (← readFlowEntries false fuel)

end

/-- Goes past marks that end a document. -/
def pastEnds : Nat → Reads Unit
  | 0 => return ()
  | fuel + 1 => do
    if (← peek) = .documentEnd then
      drop
      pastEnds fuel

/-- Directives in front of a document, of which the version comes once and is known, and
no handle comes twice. -/
def readDirectives : Nat → Bool → List (String × String) → Reads (List (String × String))
  | 0, _, _ => noForm
  | fuel + 1, hasVersion, handles => do
    match ← peek with
    | .directive (.version major) =>
      if hasVersion || major ≠ 1 then noForm
      drop
      readDirectives fuel true handles
    | .directive (.handle name start) =>
      if (handles.lookup name).isSome then noForm
      drop
      readDirectives fuel hasVersion ((name, start) :: handles)
    | .directive .other =>
      drop
      readDirectives fuel hasVersion handles
    | _ => return handles ++ ownHandles

/-- Starts a document with its directives and its mark, unless the text is over. -/
def openDocument (fuel : Nat) : Reads Bool := do
  pastEnds fuel
  if (← peek) = .finish then return false
  let handles ← readDirectives fuel false []
  if (← peek) ≠ .documentStart then noForm
  drop
  modify fun draft => { draft with handles }
  return true

/-- What may follow the mark of a document that is empty. -/
def endsDocument : Token → Bool
  | .directive _ | .documentStart | .documentEnd | .finish => true
  | _ => false

/-- The node of the only document of a text, if there is one. -/
def readDocument (fuel : Nat) : Reads (Option Node) := do
  let first ← peek
  let isMarked := [Token.documentStart, .finish].contains first || first matches .directive _
  let isOpen ← if isMarked then openDocument fuel else pure true
  if !isOpen then return none
  let node ← if isMarked && endsDocument (← peek) then pure Node.empty
    else readNode true false fuel
  if (← peek) = .documentEnd then drop
  if ← openDocument fuel then throw Error.documentReference
  return some node

/-- The node that a text writes. -/
def Node.ofText (text : String) : Except Error (Option Node) :=
  (readDocument (8 * text.length + 16)).run' { reading := .start text, handles := ownHandles }

end Regrid.Yaml
