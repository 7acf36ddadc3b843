import Playground.Script.Stage

/-! The settings of a playground: the names of its special files, the helpers they get, and the
stages of its code. -/

namespace Playground

structure Config where
  /-- The file that the others import from. -/
  entryFile : String := "main"
  /-- The file that gets the helper for tests. -/
  testsFile : String := "main.test"
  /-- How long a loop may run, in milliseconds. -/
  loopTimeout : Nat := Script.Pipeline.defaultTimeout
  /-- The text that shows that a script uses the terminal. -/
  terminalKeyword : String := "Terminal"
  terminalImport : String := "import \x7b Terminal \x7d from '@es-js/terminal'"
  testsImport : String := "import \x7b prueba \x7d from '@es-js/prueba'"
  options : Script.Options := {}
deriving DecidableEq, Repr

end Playground
