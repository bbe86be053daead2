import Regrid.Yaml.Node

/-!
Contract: the values that YAML documents write.

Owns:
- mappings that take over entries of others;
- which nodes have a value, and the order in which they are examined for it;
- whole documents.

Of a repeated key the last value counts. Nodes are examined from the outside in, so a fault
of an outer node is reported before those of inner ones.
-/

namespace Regrid.Yaml

/-- The refusal of a node that has no value. -/
def noValue {τ : Type} : Except Error τ := .error .documentValue

/-- A character may stand in a document. -/
def isAllowed (c : Char) : Bool :=
  ['\t', '\n', '\r', '\u0085'].contains c || (' ' ≤ c && c ≤ '~') ||
    ('\u00a0' ≤ c && c ≤ '\ufffd') || '\uffff' < c

namespace Node

/-- A key that stands for the value of a mapping itself is an ordinary text as a key. -/
def asKey : Node → Node
  | scalar .standard text => scalar .text text
  | node => node

mutual

/-- The entries of a mapping, after those that it takes over from other mappings. -/
def allEntries : Nat → List (Node × Node) → Except Error (List (Node × Node))
  | 0, _ => noValue
  | fuel + 1, entries => do
    let isShared (entry : Node × Node) : Bool := entry.1 matches scalar .shared _
    let shared ← (entries.filter isShared).mapM fun entry => sharedEntries fuel entry.2
    let own := (entries.filter (!isShared ·)).map fun entry => (entry.1.asKey, entry.2)
    return shared.flatten ++ own

/-- The entries that a node shares: those of a mapping, or of mappings in a list, of which
earlier ones count more. -/
def sharedEntries : Nat → Node → Except Error (List (Node × Node))
  | 0, _ => noValue
  | fuel + 1, node =>
    match node with
    | mapping _ entries => allEntries fuel entries
    | list _ items => do
      let parts ← items.mapM fun item =>
        match item with
        | mapping _ entries => allEntries fuel entries
        | _ => noValue
      return parts.reverse.flatten
    | scalar .. => noValue

end

/-- Examines a node that is part of another one: a text has to have a value, and a list or
mapping is left for later. -/
def examinePart : Node → Except Error (List Node)
  | scalar kind text => do
    let _ ← scalarValue kind text
    return []
  | node@(list kind _) | node@(mapping kind _) =>
    if kind = .list ∨ kind = .mapping then .ok [node] else noValue

/-- Examines a key: it has to have a value, and lists and mappings are no keys. -/
def examineKey : Node → Except Error Unit
  | scalar kind text => do
    let _ ← scalarValue kind text
    return ()
  | list .. | mapping .. => noValue

/-- Examines a list or mapping that was left for later, and leaves its own for later. -/
def examineInside (fuel : Nat) : Node → Except Error (List Node)
  | list kind items =>
    if kind ≠ .list then noValue else do return (← items.mapM examinePart).flatten
  | mapping kind entries =>
    if kind ≠ .mapping then noValue
    else do
      let parts ← (← allEntries fuel entries).mapM fun entry => do
        examineKey entry.1
        examinePart entry.2
      return parts.flatten
  | scalar .. => .ok []

/-- Examines lists and mappings from the outside in. -/
def examine : Nat → List Node → Except Error Unit
  | 0, _ => .ok ()
  | _, [] => .ok ()
  | fuel + 1, nodes => do examine fuel (← nodes.mapM (examineInside fuel)).flatten

/-- Two values are one key of a mapping: they are equal, or both not a number. -/
def isOneKey (first second : Value) : Bool :=
  match first, second with
  | .float x, .float y => x == y || (x.isNaN && y.isNaN)
  | first, second => first.same second

/-- Puts an entry into a mapping; a key in use keeps its place and its form. -/
def putEntry (key value : Value) : List (Value × Value) → List (Value × Value)
  | [] => [(key, value)]
  | (known, old) :: rest =>
    if isOneKey known key then (known, value) :: rest
    else (known, old) :: putEntry key value rest

def value : Nat → Node → Except Error Value
  | 0, _ => noValue
  | _, scalar kind text => scalarValue kind text
  | fuel + 1, list _ items => do return .list (← items.mapM (value fuel))
  | fuel + 1, mapping _ entries => do
    let entries ← (← allEntries fuel entries).mapM fun entry => do
      return (← value fuel entry.1, ← value fuel entry.2)
    return .map (entries.foldl (fun known entry => putEntry entry.1 entry.2 known) [])

end Node

def read (text : String) : Except Error Value := do
  if !text.toList.all isAllowed then throw Error.documentCharacter
  match ← Node.ofText text with
  | none => return .null
  | some node =>
    let fuel := 8 * text.length + 16
    node.examinePart >>= Node.examine fuel
    node.value fuel

end Regrid.Yaml
