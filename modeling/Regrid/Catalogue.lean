import Regrid.Error
import Regrid.Value

/-!
Contract: the public names under which the operations are known to their callers.

Owns: the names of the mesh part, the names of the whole, and the lookup of a name in
the mesh part, where its modules are found too.
-/

namespace Regrid.Catalogue

/-- The module that the mesh part is announced as. -/
def meshModule : String := "xglint.grid"

/-- The public names of the mesh part, by ascending name. -/
def meshNames : List String :=
  ["Cell", "Coordinates", "Grid", "GridType", "Parameterization", "Proj2", "Vertex",
   "area_of_polygon", "area_of_proj_polygon", "is_ccw", "make_lonlat_grid", "make_xy_grid",
   "polygon_centroid", "read_grid", "xy_boundaries"]

/-- All public names, by ascending name. -/
def allNames : List String :=
  ["Cell", "Coordinates", "DanglingReferenceError", "DenseOperator", "DuplicateIndexError",
   "Grid", "GridType", "IceSheet", "IceSheetL0", "IceSheetL1", "MatrixMaker",
   "NotRealizedError", "Parameterization", "Proj2", "SchemaError", "SparseAccumulator",
   "SparseMatrixBuilder", "SparseSet", "UnsupportedCoordinateModeError", "Vertex",
   "XYGridConfig", "XglintError", "area_of_polygon", "area_of_proj_polygon",
   "build_dense_operator", "make_lonlat_grid", "make_xy_grid", "polygon_centroid", "read_grid",
   "read_grid_nc", "write_grid_nc", "write_grids_nc", "xy_boundaries"]

/-- The modules that the mesh part consists of. -/
def meshModules : List String :=
  ["builders", "entities", "enums", "geo_utils", "geometry", "grid_obj"]

/-- Looks a name up in the mesh part; its modules are known by their full names. -/
def lookup (name : String) : Except Error String :=
  if meshNames.contains name then .ok name
  else if meshModules.contains name then .ok (meshModule ++ "." ++ name)
  else .error (.nameUnknown meshModule name)

/-- Looks a name up that is given as a value; only a text is a name. -/
def lookupValue : Value → Except Error String
  | .text name => lookup name
  | _ => .error .wrongType

end Regrid.Catalogue
