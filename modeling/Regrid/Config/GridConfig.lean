import Regrid.Mesh.Rectilinear
import Regrid.Store.Archive

/-!
Contract: configurations of regular planar meshes.

Owns:
- axes given by start, stop and step;
- output options and whole configurations, read from mappings;
- the mesh that a configuration describes.

Does not own: the document that a mapping was read from.
-/

namespace Regrid

/-- Boundaries from `start` to `stop` every `step` along one axis. -/
structure AxisConfig (α : Type) where
  start : α
  stop : α
  step : α

/-- The group name and format under which a mesh is written. -/
structure OutputOptions where
  group : Value := .text "grid"
  format : FileFormat := .current

/-- A regular planar mesh. -/
structure GridConfig (α : Type) where
  name : String
  projection : String
  x : AxisConfig α
  y : AxisConfig α
  parameterization : Parameterization := .onCells
  output : OutputOptions := {}

namespace AxisConfig

/-- Reads an axis from a mapping; the entries are read in their order and the first
one that is missing or is no number refuses. -/
def ofValue (data : Value) (axis : String) : Except Error (AxisConfig Float) :=
  match data with
  | .map entries =>
    let entry (key : String) : Except Error Float :=
      match Value.get? entries key with
      | some value => value.toReal
      | none => .error (.axisKeyMissing axis key)
    do return ⟨← entry "start", ← entry "stop", ← entry "step"⟩
  | _ => .error .wrongType

def boundaries {α : Type} [Scalar α] (axis : AxisConfig α) : Except Error (List α) :=
  Rectilinear.boundaries axis.start axis.stop axis.step

end AxisConfig

namespace OutputOptions

/-- Reads the name of a file format, which has to be spelt exactly. -/
def readFormat (value : Value) : Except Error FileFormat :=
  let unknown := Error.formatUnknown value.shown (FileFormat.offered.map FileFormat.name)
  match value with
  | .text name =>
    match FileFormat.offered.find? fun format => format.name = name with
    | some format => .ok format
    | none => .error unknown
  | .list _ | .map _ => .error .wrongType
  | value => do
    let _ ← value.writable
    throw unknown

/-- Reads output options; a key that is no option refuses before any value is read. -/
def ofEntries (entries : List (Value × Value)) : Except Error OutputOptions := do
  let known (key : Value) : Bool :=
    match key with
    | .text name => name == "vname" || name == "format"
    | _ => false
  if !entries.all fun entry => known entry.1 then throw Error.wrongType
  let format ← match Value.get? entries "format" with
    | some value => readFormat value
    | none => pure .current
  let group := (Value.get? entries "vname").getD (.text "grid")
  if group.isBlankOption then throw Error.groupNameEmpty
  return ⟨group, format⟩

def ofValue : Value → Except Error OutputOptions
  | .map entries => ofEntries entries
  | _ => .error .wrongType

/-- The name under which a mesh is stored. -/
def groupName (options : OutputOptions) : Except Error String :=
  match options.group with
  | .list _ | .map _ => .error .wrongType
  | value => value.writable

end OutputOptions

namespace GridConfig

def requiredKeys : List String := ["name", "projection", "x", "y"]

/-- Reads a configuration from the entries of a mapping. -/
def ofEntries (entries : List (Value × Value)) : Except Error (GridConfig Float) := do
  let missing := requiredKeys.filter fun key => (Value.get? entries key).isNone
  if !missing.isEmpty then throw (Error.keysMissing missing)
  let entry (key : String) : Value := (Value.get? entries key).getD .null
  let name ← (entry "name").writable
  let projection ← (entry "projection").writable
  let x ← AxisConfig.ofValue (entry "x") "x"
  let y ← AxisConfig.ofValue (entry "y") "y"
  let options := entry "output"
  let output ← if options.isBlankOption then .ok {} else OutputOptions.ofValue options
  let onCells := Value.text (tagText Parameterization.onCells)
  let parameterization ← readTag ((Value.get? entries "parameterization").getD onCells)
  if projection.isEmpty then throw (Error.projectionRequired name)
  return { name, projection, x, y, parameterization, output }

/-- Reads a configuration from a value: lists and texts hold no required key that
could be read from them, and other values hold no keys at all. -/
def ofValue (data : Value) : Except Error (GridConfig Float) :=
  match data with
  | .map entries => ofEntries entries
  | .list items =>
    let missing := requiredKeys.filter fun key => !(items.any fun item =>
      match item with
      | .text text => text == key
      | _ => false)
    .error (if missing.isEmpty then .wrongType else .keysMissing missing)
  | .text text =>
    let missing := requiredKeys.filter fun key => (text.splitOn key).length = 1
    .error (if missing.isEmpty then .wrongType else .keysMissing missing)
  | _ => .error .wrongType

variable {α : Type} [Scalar α]

/-- The mesh of a configuration with every cell realized. -/
def build (config : GridConfig α) : Except Error (Grid α) := do
  let xs ← config.x.boundaries
  let ys ← config.y.boundaries
  Rectilinear.planar (.ofList xs) (.ofList ys) (.text config.projection) (.text config.name)
    (.text (tagText config.parameterization)) fun _ => .ok true

end GridConfig

end Regrid
