import Playground.CodeError
import Playground.Script.Grammar.Module

/-! Reading a script from a file's code, with errors told by line and column. -/

namespace Playground.Script

/-- The error that a fault in `code` is told as. Positions do not count a byte order mark before the
code. -/
def Fault.toCodeError (code : List Char) (fault : Fault) : CodeError :=
  let p := Text.Position.ofOffset (Reader.ofText code).cursor.rest fault.span.start
  .malformedAt fault.cause.message p.line p.column

/-- Reads code. -/
def Source.read (code : String) : Except CodeError Source :=
  (Source.parse code.toList).mapError (Fault.toCodeError code.toList)

end Playground.Script
