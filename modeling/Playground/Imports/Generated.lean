import Playground.Script.Items
import Playground.Script.Read

/-! Imports made for a file from what another one exports. -/

namespace Playground.Imports

/-- The import of one function. -/
def importOf (path name : String) : String :=
  "import \x7b " ++ name ++ " \x7d from '" ++ path ++ "'"

/-- One import for each function that the code exports by declaring it. -/
def ofExports (code path : String) : Except CodeError String :=
  (Script.Source.read code).map fun source =>
    "\n".intercalate (source.module.exportedFunctions.map (importOf path))

end Playground.Imports
