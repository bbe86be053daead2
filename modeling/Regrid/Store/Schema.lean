import Regrid.Store.Dataset
import Regrid.Text.Paragraph

/-!
Contract: the layout under which a mesh is stored as named arrays.

Owns:
- the eight variables of a mesh and the names of its dimensions;
- the comment that each attribute and variable carries.

A mesh occupies the variables whose names start with its group name and a point.
-/

namespace Regrid.Schema

/-- The version of the layout. -/
def version : Int := 1

/-- The arrays of a stored mesh, besides the variable that carries its attributes. -/
inductive Part where
  | vertexIndex
  | vertexPoints
  | cellIndex
  | cellAddress
  | cellArea
  | references
  | offsets
  deriving DecidableEq, Repr

/-- All arrays in the order in which they are stored. -/
def parts : List Part :=
  [.vertexIndex, .vertexPoints, .cellIndex, .cellAddress, .cellArea, .references, .offsets]

def Part.name : Part → String
  | vertexIndex => "vertices.index"
  | vertexPoints => "vertices.xy"
  | cellIndex => "cells.index"
  | cellAddress => "cells.ijk"
  | cellArea => "cells.area"
  | references => "cells.vertex_refs"
  | offsets => "cells.vertex_refs_start"

def Part.fullName (group : String) (part : Part) : String := group ++ "." ++ part.name

/-- The variable that carries the attributes of a mesh. -/
def infoVariable (group : String) : String := group ++ ".info"

/-- The dimension that counts the vertices of a mesh. -/
def vertexDimension (group : String) : String := group ++ ".vertices.num_realized"

/-- The dimension that counts the cells of a mesh. -/
def cellDimension (group : String) : String := group ++ ".cells.num_realized"

/-- The dimension of the offsets, one more than there are cells. -/
def offsetDimension (group : String) : String := group ++ ".cells.num_realized_plus1"

/-- The dimension that counts the vertex references of all cells. -/
def referenceDimension (group : String) : String := group ++ ".cells.num_vertex_refs"

def Part.dimensions (group : String) : Part → List String
  | vertexIndex => [vertexDimension group]
  | vertexPoints => [vertexDimension group, "two"]
  | cellIndex => [cellDimension group]
  | cellAddress => [cellDimension group, "three"]
  | cellArea => [cellDimension group]
  | references => [referenceDimension group]
  | offsets => [offsetDimension group]

def Part.elementType : Part → ElementType
  | vertexPoints | cellArea => .real
  | _ => .integer .int32

def Part.comment : Part → String
  | vertexIndex =>
    "For grids that index on vertices (eg, L1): the index used to identify each realized " ++
    "vertex in vectors representing fields on the grid."
  | vertexPoints =>
    "x/y (or lon/lat) coordinates of each realized vertex, in the coordinate system given by " ++
    "info:coordinates."
  | cellIndex =>
    "For grids that index on cells (eg, L0): the index used to identify each realized cell " ++
    "in vectors representing fields on the grid."
  | cellAddress =>
    "OPTIONAL: Up to 3 dimensions can be used to assign a 'real-world' index to each grid " ++
    "cell. If info:type = EXCHANGE, then i and j are the indices of the two overlapping " ++
    "source cells."
  | cellArea => "Area of each cell in its native coordinate system."
  | references => "Vertex indices of every cell's polygon, concatenated in cell order."
  | offsets =>
    "Start of each cell's slice of cells.vertex_refs; the final entry is the total number " ++
    "of references."

/-- The attributes that are followed by a comment. -/
inductive InfoKey where
  | type
  | coordinates
  | parameterization
  | projection
  | cellExtent
  | vertexExtent
  deriving DecidableEq, Repr

def InfoKey.name : InfoKey → String
  | type => "type"
  | coordinates => "coordinates"
  | parameterization => "parameterization"
  | projection => "projection"
  | cellExtent => "cells.num_full"
  | vertexExtent => "vertices.num_full"

def InfoKey.comment : InfoKey → String
  | type =>
    "The overall type of grid (GENERIC, XY, LONLAT or EXCHANGE). Controls which native " ++
    "address fields of the cells are meaningful."
  | coordinates =>
    "The coordinate system used to represent grid vertices. May be either XY or LONLAT " ++
    "(longitude comes before latitude). Note that this is different from info:type; a " ++
    "GENERIC grid, for example, could be expressed in either XY or LONLAT coordinates."
  | parameterization =>
    "Indicates how values are interpolated between grid points. Most finite difference " ++
    "models will use L0 (one value per cell), while finite element models would use L1 " ++
    "(one value per vertex)."
  | projection =>
    "If info:coordinates = XY, the PROJ string used to convert local XY coordinates to " ++
    "LONLAT coordinates on the surface of the earth."
  | cellExtent =>
    "The total theoretical number of grid cells (polygons) in this grid. Depending on " ++
    "info:parameterization, either cells or vertices will correspond to the " ++
    "dimensionality of the grid's vector space."
  | vertexExtent => "The total theoretical number of vertices (of polygons) on this grid."

/-- The comment about vertices that are not realized. -/
def realizedComment : String :=
  "The number of 'realized' vertices in this grid. Only the outlines of realized cells are " ++
  "computed and stored; not all cells need to be realized. For example, a GCM grid prepared " ++
  "for use with ice models only needs the cells close to the relevant ice sheets."

/-- Comments are stored in lines of at most 72 characters. -/
def wrapped (comment : String) : Attribute := .text (Text.fillParagraph 72 comment)

/-- An attribute and the comment that follows it. -/
def InfoKey.entries (key : InfoKey) (value : Attribute) : List (String × Attribute) :=
  [(key.name, value), (key.name ++ ".comment", wrapped key.comment)]

end Regrid.Schema
