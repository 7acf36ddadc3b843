import Playground.CodeError

/-! The files of a playground, with what each step on them leaves behind. -/

namespace Playground

/-- What compiling a file gave: the text in the teaching dialect it was made from, and the
script. -/
structure Compiled where
  esjs : Option String := none
  js : Option String := none
deriving DecidableEq, Repr

/-- A script that is ready to run: its imports, and everything after them. -/
structure Prepared where
  imports : String
  body : String
deriving DecidableEq, Repr

/-- A file as a learner wrote it, with what was made of it so far. -/
structure File where
  name : String
  content : String
  /-- The file that the playground starts with. -/
  isMain : Bool := false
  compiled : Option Compiled := none
  prepared : Option Prepared := none
  error : Option FileError := none
deriving DecidableEq, Repr

namespace File

/-- The script to prepare; a file that was not compiled has an empty one. -/
def script (f : File) : String := (f.compiled.bind (·.js)).getD ""

/-- The script to run: imports, then the rest. -/
def assembled (f : File) : Option String :=
  f.prepared.map fun p => if p.imports.isEmpty then p.body else p.imports ++ "\n" ++ p.body

end File

end Playground
