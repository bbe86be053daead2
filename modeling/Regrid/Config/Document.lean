import Regrid.Config.GridConfig
import Regrid.Yaml.Document

/-!
Contract: configurations that are kept in YAML documents.
-/

namespace Regrid.GridConfig

/-- Reads a configuration from the text of a file. -/
def ofDocument (file text : String) : Except Error (GridConfig Float) := do
  match ← Yaml.read text with
  | .map entries => ofEntries entries
  | _ => throw (Error.notAMapping file)

end Regrid.GridConfig
