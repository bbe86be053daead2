import Regrid.Mesh.Grid

/-!
Contract: single fields of meshes and cells by name, without any check.

An edit may leave a mesh whose tags disagree with its projection, or a cell that refers
to no vertex. Later operations find out.
-/

namespace Regrid

/-- A mesh with one of its fields replaced. Name and projection take any value, and a tag
has to be spelt exactly. -/
def Mesh.setField {ν κ : Type} (field : String) (value : Value) (mesh : Mesh ν κ) :
    Except Error (Mesh ν κ) := do
  match field with
  | "name" => return { mesh with name := value }
  | "type" => return { mesh with type := ← exactTag value }
  | "coordinates" => return { mesh with coordinates := ← exactTag value }
  | "parameterization" => return { mesh with parameterization := ← exactTag value }
  | "sproj" => return { mesh with projection := value }
  | _ => throw Error.fieldUnknown

/-- A cell with one of its fields replaced. Index and address take any value. -/
def Cell.setField (field : String) (value : Value) (cell : Cell Float) :
    Except Error (Cell Float) := do
  match field with
  | "area" | "native_area" => return { cell with area := ← value.toReal }
  | "i" => return { cell with i := value }
  | "j" => return { cell with j := value }
  | "k" => return { cell with k := value }
  | "index" => return { cell with index := value }
  | "vertices" => return { cell with vertices := ← value.elements }
  | _ => throw Error.fieldUnknown

end Regrid
