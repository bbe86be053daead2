/-!
Contract: the closed sets of tags that say how a mesh is to be read.

Owns: the three tag sets, their canonical texts and the order in which a message
lists them.

Does not own: the reading of a tag from a value.
-/

namespace Regrid

/-- A closed set of tags with one canonical text for each. -/
class TagFamily (τ : Type) where
  family : String
  members : List τ
  tagText : τ → String

/-- The overall kind of a mesh; in an exchange mesh the first two address numbers
of a cell name the two source cells that overlap there. -/
inductive GridType where
  | generic
  | xy
  | lonLat
  | exchange
  deriving DecidableEq, Repr, Inhabited

/-- The coordinates of the vertices: planar metres, or longitude before latitude
in degrees. -/
inductive Coordinates where
  | xy
  | lonLat
  deriving DecidableEq, Repr, Inhabited

/-- What carries a field: the cells, or the vertices. -/
inductive Parameterization where
  | onCells
  | onVertices
  deriving DecidableEq, Repr, Inhabited

instance : TagFamily GridType where
  family := "GridType"
  members := [.generic, .xy, .lonLat, .exchange]
  tagText
    | .generic => "GENERIC"
    | .xy => "XY"
    | .lonLat => "LONLAT"
    | .exchange => "EXCHANGE"

instance : TagFamily Coordinates where
  family := "Coordinates"
  members := [.xy, .lonLat]
  tagText
    | .xy => "XY"
    | .lonLat => "LONLAT"

instance : TagFamily Parameterization where
  family := "Parameterization"
  members := [.onCells, .onVertices]
  tagText
    | .onCells => "L0"
    | .onVertices => "L1"

/-- The canonical text of a tag. -/
def tagText {τ : Type} [TagFamily τ] (tag : τ) : String := TagFamily.tagText tag

/-- The two kinds of entity that a mesh holds. -/
inductive EntityKind where
  | vertex
  | cell
  deriving DecidableEq, Repr

def EntityKind.noun : EntityKind → String
  | .vertex => "vertex"
  | .cell => "cell"

/-- The name of an entity kind at the start of a sentence. -/
def EntityKind.title : EntityKind → String
  | .vertex => "Vertex"
  | .cell => "Cell"

/-- The name of the extent that counts an entity kind over the whole domain. -/
def EntityKind.extentName : EntityKind → String
  | .vertex => "nvertices_full"
  | .cell => "ncells_full"

end Regrid
