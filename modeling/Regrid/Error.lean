import Regrid.Mesh.Tag
import Regrid.Text.Quoted

/-!
Contract: every reason for which an operation is refused.

Owns:
- the causes, with the data that their messages show;
- the kind of each cause, by which callers tell refusals apart;
- the wording, and whether a cause is reported with its wording at all.

A cause without a reported wording is one that a number, a table or a file
refused by itself, without this library saying anything about it. It still has a
text, because a malformed document quotes the cause it was rejected for.
-/

namespace Regrid

open Regrid.Text

/-- The kinds of refusal that callers tell apart. -/
inductive ErrorKind where
  | value
  | position
  | key
  | wrongType
  | overflow
  | nameLookup
  | missingFile
  | runtime
  | coordinateSystem
  | repeatedIndex
  | format
  | danglingReference
  | notRealized
  | coordinateMode
  | division
  | memory
  | storage
  | documentCharacter
  | documentPart
  | documentForm
  | documentReference
  | documentValue
  | encoding
  | decoding
  deriving DecidableEq, Repr

/-- Why an operation was refused. -/
inductive Error where
  -- refused by a number, a table or a file, without a wording of its own
  | keyAbsent (shown : String)
  | noInteger (shown : String)
  | noReal (shown : String)
  | notANumberToInteger
  | infinityToInteger
  | numberTooLarge
  | wrongType
  | positionOutside
  | shapesDisagree
  | wordUnknown
  | callbackFailed
  | sizeChanged
  | changeRefused
  | fileUnreadable
  | coordinateSystemUnknown
  | tooManyDigits (count : Nat)
  | divisionByZero
  | memoryExhausted
  | fieldUnknown
  | attributeRefused
  | textsRefused
  | fileMalformed
  | documentCharacter
  | documentPart
  | documentForm
  | documentReference
  | documentValue
  | textUnwritable
  | textUnreadable
  -- tags and names
  | tagUnknown (family shown : String) (expected : List String)
  | nameUnknown (module name : String)
  -- meshes, whose names are given as they are quoted
  | projectionMissing (grid : String)
  | projectionUnwanted (grid : String)
  | negativeIndex (kind : EntityKind) (index : Int)
  | beyondExtent (kind : EntityKind) (index extent : Int)
  | repeatedIndex (kind : EntityKind) (index : Int)
  | danglingReference (cell : Int) (vertex : String)
  | negativeExtent (kind : EntityKind) (extent : String)
  | extentTooSmall (kind : EntityKind) (extent : String) (top : Int)
  | wrongCoordinates (needed : Coordinates)
  -- polygons and boundaries
  | polygonShapes (xs ys : List Nat)
  | degeneratePolygon
  | spacingNotPositive (spacing : String)
  | boundsNotIncreasing (upper lower : String)
  | tooFewBoundaries (axis : String)
  | boundariesNotIncreasing (axis : String)
  | latitudeOutside
  -- projections
  | projectionEmpty
  | noGeodeticSystem (projection : String)
  -- index sets and operators
  | nativeOutside (native extent : Int)
  | spaceTooSmall (extent top : Int)
  | vectorTooShort (length : Nat) (extent : Int)
  | vectorMismatch (length extent : Nat)
  -- ice sheets, whose names are given as they are quoted
  | notExchange (sheet : String) (got : GridType)
  | wrongParameterization (sheet : String) (needed got : Parameterization)
  | modelExtentUnset (sheet : String)
  | tooFewHeightPoints (sheet : String)
  | wrongShape (sheet field : String) (shape : List Nat) (expected : Int)
  | iceCellUnrealized (sheet cell iceCell : String)
  | modelCellOutside (sheet cell modelCell extent : String)
  | notRealized (sheet : String)
  | heightPointOutside (heightPoint : Int) (extent : String)
  | sheetRepeated (sheet : String)
  -- stored tables
  | variableAbsent (table place : String)
  | sheetAbsent (table : String)
  | attributeAbsent (group key : String)
  | versionTooNew (group : String) (version supported : Int)
  | infoMalformed (group : String) (cause : Error)
  | notOneDimensional (table : String) (shape : List Nat)
  | notColumns (table : String) (columns : Nat) (shape : List Nat)
  | coordinateCount (group : String) (indices coordinates : Nat)
  | verticesMalformed (group : String) (cause : Error)
  | cellTableLengths (group : String)
  | offsetsMalformed (group : String)
  | cellsMalformed (group : String) (cause : Error)
  | sheetParameterization (group : String) (cause : Error)
  | emptyTables (group format : String)
  | alreadyWritten (group : String)
  | fileMissing (file : String)
  -- configurations
  | axisKeyMissing (axis key : String)
  | formatUnknown (shown : String) (expected : List String)
  | groupNameEmpty
  | projectionRequired (grid : String)
  | keysMissing (keys : List String)
  | notAMapping (file : String)
  deriving DecidableEq, Repr

namespace Error

def kind : Error → ErrorKind
  | keyAbsent _ => .key
  | positionOutside | nativeOutside .. => .position
  | infinityToInteger | numberTooLarge => .overflow
  | wrongType => .wrongType
  | callbackFailed | sizeChanged | changeRefused | alreadyWritten _ => .runtime
  | fileUnreadable | fileMissing _ => .missingFile
  | coordinateSystemUnknown => .coordinateSystem
  | nameUnknown .. | fieldUnknown | attributeRefused => .nameLookup
  | textsRefused | fileMalformed => .storage
  | divisionByZero => .division
  | memoryExhausted => .memory
  | documentCharacter => .documentCharacter
  | documentPart => .documentPart
  | documentForm => .documentForm
  | documentReference => .documentReference
  | documentValue => .documentValue
  | textUnwritable => .encoding
  | textUnreadable => .decoding
  | repeatedIndex .. => .repeatedIndex
  | danglingReference .. => .danglingReference
  | wrongCoordinates _ => .coordinateMode
  | notRealized _ => .notRealized
  | variableAbsent .. | sheetAbsent _ | attributeAbsent .. | versionTooNew ..
  | infoMalformed .. | notOneDimensional .. | notColumns .. | coordinateCount ..
  | verticesMalformed .. | cellTableLengths _ | offsetsMalformed _ | cellsMalformed ..
  | sheetParameterization .. => .format
  | noInteger _ | noReal _ | notANumberToInteger | tooManyDigits _ | shapesDisagree | wordUnknown
  | tagUnknown .. | projectionMissing _ | projectionUnwanted _ | negativeIndex ..
  | beyondExtent .. | negativeExtent .. | extentTooSmall .. | polygonShapes ..
  | degeneratePolygon | spacingNotPositive _ | boundsNotIncreasing .. | tooFewBoundaries _
  | boundariesNotIncreasing _ | latitudeOutside | projectionEmpty | noGeodeticSystem _
  | spaceTooSmall .. | vectorTooShort .. | vectorMismatch .. | notExchange ..
  | wrongParameterization .. | modelExtentUnset _ | tooFewHeightPoints _ | wrongShape ..
  | iceCellUnrealized .. | modelCellOutside .. | heightPointOutside .. | sheetRepeated _
  | emptyTables .. | axisKeyMissing .. | formatUnknown .. | groupNameEmpty
  | projectionRequired _ | keysMissing _ | notAMapping _ => .value

/-- The refusal is reported with its wording. -/
def isReported : Error → Bool
  | keyAbsent _ | noInteger _ | noReal _ | notANumberToInteger | infinityToInteger
  | numberTooLarge | wrongType | positionOutside | shapesDisagree | wordUnknown
  | callbackFailed | sizeChanged | changeRefused | fileUnreadable | coordinateSystemUnknown
  | tooManyDigits _ | divisionByZero | memoryExhausted | fieldUnknown | attributeRefused
  | textsRefused | fileMalformed | documentCharacter | documentPart | documentForm
  | documentReference | documentValue | textUnwritable | textUnreadable => false
  | _ => true

/-- A list of sizes in round brackets; a single size keeps its comma. -/
def shapeText : List Nat → String
  | [] => "()"
  | [size] => "(" ++ toString size ++ ",)"
  | sizes => "(" ++ ", ".intercalate (sizes.map toString) ++ ")"

/-- The name of the sheet variant that keeps its field on the given entities. -/
def variantName (parameterization : Parameterization) : String :=
  "IceSheet" ++ tagText parameterization

/-- The opening of a message about a mesh, whose name is given as it is quoted. -/
private def gridPart (grid : String) : String := "Grid " ++ grid

/-- The opening of a message about an ice sheet, whose name is given as it is quoted. -/
private def sheetPart (sheet : String) : String := "Ice sheet " ++ sheet

/-- The wording of a refusal. -/
def text : Error → String
  | keyAbsent shown => shown
  | noInteger shown => "invalid literal for int() with base 10: " ++ shown
  | noReal shown => "could not convert string to float: " ++ shown
  | notANumberToInteger => "cannot convert float NaN to integer"
  | infinityToInteger => "cannot convert float infinity to integer"
  | numberTooLarge => "the number is too large"
  | wrongType => "the value has the wrong type"
  | positionOutside => "the position is out of range"
  | shapesDisagree => "the shapes disagree"
  | wordUnknown => "the word is not one of those allowed"
  | callbackFailed => "the given function failed"
  | sizeChanged => "the number of items changed while they were read"
  | changeRefused => "the file does not allow the change"
  | fileUnreadable => "the file cannot be opened"
  | coordinateSystemUnknown => "the coordinate system is not known"
  | tooManyDigits count =>
    "Exceeds the limit (4300 digits) for integer string conversion: value has " ++
      toString count ++ " digits; use sys.set_int_max_str_digits() to increase the limit"
  | divisionByZero => "division by zero"
  | memoryExhausted => "there is not enough memory"
  | fieldUnknown => "there is no such field"
  | attributeRefused => "the file does not take the attribute"
  | textsRefused => "the file does not take a list of texts"
  | fileMalformed => "the file is not of a known format"
  | documentCharacter => "the document holds a character that is not allowed"
  | documentPart => "the parts of the document cannot be told"
  | documentForm => "the parts of the document have no known form"
  | documentReference => "the document refers to what it does not hold"
  | documentValue => "a node of the document has no value"
  | textUnwritable => "the text cannot be written as bytes"
  | textUnreadable => "the bytes are no text"
  | tagUnknown family shown expected =>
    "Unknown " ++ family ++ " tag " ++ shown ++ "; expected one of: " ++
      ", ".intercalate expected
  | nameUnknown module name =>
    "module " ++ quote module ++ " has no attribute " ++ quote name
  | projectionMissing grid =>
    gridPart grid ++ ": XY coordinates require a projection string (sproj)"
  | projectionUnwanted grid =>
    gridPart grid ++ ": sproj is only meaningful for XY coordinates"
  | negativeIndex kind index => s!"{kind.title} index must be >= 0, got {index}"
  | beyondExtent kind index extent =>
    kind.title ++ " index " ++ toString index ++ " outside the grid's full extent " ++
      toString extent
  | repeatedIndex kind index =>
    s!"Error adding repeat {kind.noun} index={index}. {kind.title}s must have unique indices."
  | danglingReference cell vertex =>
    s!"Cell {cell} references vertex {vertex}, which is not in the vertex table"
  | negativeExtent kind extent => s!"{kind.extentName} must be >= 0, got {extent}"
  | extentTooSmall kind extent top =>
    s!"{kind.extentName}={extent} does not cover realized {kind.noun} {top}"
  | wrongCoordinates .lonLat =>
    "get_ll_to_xy() only makes sense for grids in Lon/Lat coordinates"
  | wrongCoordinates .xy => "get_xy_to_ll() only makes sense for grids in XY coordinates"
  | polygonShapes xs ys =>
    "Polygon coordinates must be 1-D and of equal length, got " ++ shapeText xs ++ " / " ++
      shapeText ys
  | degeneratePolygon => "Centroid undefined for a degenerate (zero-area) polygon"
  | spacingNotPositive spacing => s!"Spacing must be positive, got {spacing}"
  | boundsNotIncreasing upper lower =>
    s!"Upper bound {upper} must exceed lower bound {lower}"
  | tooFewBoundaries axis => s!"{axis} boundaries need at least two values"
  | boundariesNotIncreasing axis => s!"{axis} boundaries must be strictly increasing"
  | latitudeOutside => "Latitude boundaries must lie within [-90, 90]"
  | projectionEmpty => "Projection string must not be empty"
  | noGeodeticSystem projection =>
    "Projection " ++ quote projection ++ " has no geodetic CRS"
  | nativeOutside native extent => s!"Native index {native} outside [0, {extent})"
  | spaceTooSmall extent top =>
    s!"Sparse extent {extent} too small: native index {top} already present"
  | vectorTooShort length extent =>
    s!"Vector of length {length} shorter than sparse extent {extent}"
  | vectorMismatch length extent =>
    s!"Vector of length {length} does not match dense extent {extent}"
  | notExchange sheet got =>
    sheetPart sheet ++ ": exgrid must be an EXCHANGE grid, got " ++ tagText got
  | wrongParameterization sheet needed got =>
    sheetPart sheet ++ ": " ++ variantName needed ++ " needs an " ++ tagText needed ++
      " ice grid, got " ++ tagText got
  | modelExtentUnset sheet => sheetPart sheet ++ ": GCM extent n1 is not set"
  | tooFewHeightPoints sheet => sheetPart sheet ++ ": nhp must be >= 1"
  | wrongShape sheet field shape expected =>
    sheetPart sheet ++ ": " ++ field ++ " has shape " ++ shapeText shape ++ ", expected (" ++
      toString expected ++ ",)"
  | iceCellUnrealized sheet cell iceCell =>
    sheetPart sheet ++ ": exchange cell " ++ cell ++ " overlaps ice cell " ++
      iceCell ++ ", which is not realized"
  | modelCellOutside sheet cell modelCell extent =>
    sheetPart sheet ++ ": exchange cell " ++ cell ++ " refers to GCM cell " ++
      modelCell ++ " outside [0, " ++ extent ++ ")"
  | notRealized sheet => sheetPart sheet ++ " must be realized before computing matrices"
  | heightPointOutside heightPoint extent =>
    s!"Height point {heightPoint} outside [0, {extent})"
  | sheetRepeated sheet => sheetPart sheet ++ " already added"
  | variableAbsent table place => "Variable " ++ quote table ++ " not found in " ++ place
  | sheetAbsent table => s!"Variable {table} not found in netCDF file"
  | attributeAbsent group key => s!"Attribute {group}.info:{key} not found"
  | versionTooNew group version supported =>
    s!"{group}.info:version = {version} is newer than supported ({supported})"
  | infoMalformed group cause => group ++ ".info: " ++ cause.text
  | notOneDimensional table shape =>
    table ++ ": expected 1-D array, got shape " ++ shapeText shape
  | notColumns table columns shape =>
    table ++ ": expected shape (n, " ++ toString columns ++ "), got shape " ++
      shapeText shape
  | coordinateCount group indices coordinates =>
    s!"{group}: {indices} vertex indices but {coordinates} coordinates"
  | verticesMalformed group cause => group ++ ".vertices.index: " ++ cause.text
  | cellTableLengths group => group ++ ": cell tables have inconsistent lengths"
  | offsetsMalformed group => group ++ ".cells.vertex_refs_start is malformed"
  | cellsMalformed group cause => group ++ ": " ++ cause.text
  | sheetParameterization group cause =>
    group ++ ".info: bad parameterization (" ++ cause.text ++ ")"
  | emptyTables group format =>
    "Grid " ++ quote group ++ " has empty vertex or cell tables, which the " ++ format ++
      " format cannot store; use format='NETCDF4'"
  | alreadyWritten group => "Grid " ++ quote group ++ " has already been written"
  | fileMissing file => file
  | axisKeyMissing axis key => "Axis " ++ quote axis ++ " missing key " ++ quote key
  | formatUnknown shown expected =>
    "Unknown netCDF format " ++ shown ++ "; expected one of " ++ ", ".intercalate expected
  | groupNameEmpty => "vname must not be empty"
  | projectionRequired grid => "Grid " ++ quote grid ++ ": projection is required"
  | keysMissing keys => "Grid config missing keys: " ++ ", ".intercalate keys
  | notAMapping file => file ++ ": top level must be a mapping"

/-- The message of a refusal that is reported with its wording. -/
def message (error : Error) : Option String :=
  if error.isReported then some error.text else none

end Error

end Regrid
