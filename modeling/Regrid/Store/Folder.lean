import Regrid.Config.Document
import Regrid.Store.Packing
import Regrid.Store.SheetArchive

/-!
Contract: files by name.

Owns:
- archives and text documents under file names;
- writing of meshes, sheets and configured meshes, where the file is there as soon as
  writing starts;
- reading, with the refusal that fits a file that is not there.
-/

namespace Regrid

/-- What a file holds. -/
inductive StoredFile (α : Type) where
  | archive (archive : Archive α)
  | document (text : String)

/-- Files by name. -/
structure Folder (α : Type) where
  files : List (String × StoredFile α) := []

namespace Folder

variable {α τ : Type}

/-- Stores a file; an earlier file of the name is replaced. -/
def put (name : String) (file : StoredFile α) (folder : Folder α) : Folder α :=
  ⟨Variable.putEntry name file folder.files⟩

/-- The archive under a name; `missing` says why it cannot be read. -/
def archive (missing : Error) (name : String) (folder : Folder α) :
    Except Error (Archive α) :=
  match folder.files.lookup name with
  | some (.archive archive) => .ok archive
  | some (.document _) => .error .fileMalformed
  | none => .error missing

def document (name : String) (folder : Folder α) : Except Error String :=
  match folder.files.lookup name with
  | some (.document text) => .ok text
  | some (.archive _) => .error .textUnreadable
  | none => .error (.fileMissing name)

/-- Writes a new archive. The file holds what was written also when a step is refused. -/
def write (name : String) (format : FileFormat) (steps : Attempt (Archive α) τ) :
    Attempt (Folder α) τ := do
  StoredName.checkBytes name
  steps.within (fun _ => { format }) fun archive folder => folder.put name (.archive archive)

/-- Writes a text document. A text without bytes leaves an empty file. -/
def writeDocument (name text : String) : Attempt (Folder α) Unit := do
  StoredName.checkBytes name
  modify (put name (.document (if Text.isWhole text then text else "")))
  StoredName.checkBytes text

/-- Changes an archive that has to be there. -/
def edit (name : String) (change : Attempt (Archive α) Unit) : Attempt (Folder α) Unit := do
  let archive ← (← get).archive .fileUnreadable name
  change.within (fun _ => archive) fun archive folder => folder.put name (.archive archive)

variable [Scalar α]

/-- Writes meshes to a new file; a name of a format that does not exist refuses before
there is a file. -/
def writeGrids (name format : String) (grids : List (String × Grid α)) :
    Attempt (Folder α) Unit := do
  StoredName.checkBytes name
  write name (← FileFormat.ofName format) (Archive.writeGrids grids)

/-- The mesh in a file, read from what its arrays stand for. -/
def readGrid (name group : String) (folder : Folder Float) : Except Error (Grid Float) := do
  (← folder.archive (.fileMissing name) name).unpacked.readGrid group

/-- The sheet in a file, read from what its arrays stand for. -/
def readSheet (name group : String) (classifier : Option (HeightClassifier Float))
    (folder : Folder Float) : Except Error (Sheet (Grid Float) Float) := do
  (← folder.archive .fileUnreadable name).unpacked.readSheet group classifier

/-- Builds a configured mesh and writes it as the configuration says; nothing is
written when the mesh cannot be built. -/
def writeConfigured (name : String) (config : GridConfig α) : Attempt (Folder α) Unit := do
  let grid ← config.build
  write name config.output.format do
    Archive.writeGrids [(← config.output.groupName, grid)]

def readConfig (name : String) (folder : Folder Float) : Except Error (GridConfig Float) := do
  GridConfig.ofDocument name (← folder.document name)

end Folder

end Regrid
