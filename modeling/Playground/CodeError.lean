import Playground.Text.Position

/-! Why a piece of code cannot be prepared, and the blame that ties the reason to a file. -/

namespace Playground

/-- Why one step on a piece of code gave no code. -/
inductive CodeError
  /-- The code is not a script; the position is where the reader gave up. -/
  | malformed (message : String) (line column : Nat)
  /-- The code could not be written out again. -/
  | unprintable (message : String)
deriving DecidableEq, Repr

namespace CodeError

/-- A malformed code at a position; lines and columns begin at one. -/
def malformedAt (message : String) (line column : Nat) : CodeError :=
  .malformed message (max line 1) (max column 1)

def message : CodeError → String
  | .malformed message .. => message
  | .unprintable message => message

/-- The line to look at; what cannot be written out has no position, and the first line stands for
it. -/
def line : CodeError → Nat
  | .malformed _ line _ => line
  | .unprintable _ => 1

def column : CodeError → Nat
  | .malformed _ _ column => column
  | .unprintable _ => 1

/-- The error in one line. -/
def text : CodeError → String
  | .malformed message line column => s!"{message} ({line}:{column})"
  | .unprintable message => s!"failed to print transformed code: {message}"

end CodeError

/-- An error as a file carries it: what is wrong, where in its content, and the trace that a console
shows. -/
structure FileError where
  message : String
  line : Nat
  column : Nat
  stack : String
deriving DecidableEq, Repr

/-- A code error with the name of the file it is blamed on. -/
structure Blame where
  file : String
  message : String
  line : Nat
  column : Nat
deriving DecidableEq, Repr

namespace Blame

def ofCodeError (file : String) (error : CodeError) : Blame :=
  ⟨file, error.message, error.line, error.column⟩

/-- The blame in one line. -/
def text (b : Blame) : String := s!"{b.file}:{b.line}:{b.column}: {b.message}"

/-- The trace that a console shows for an error thrown while code is read. -/
def stack (b : Blame) : String := s!"SyntaxError: {b.message}\n    at {b.file}:{b.line}:{b.column}"

def toFileError (b : Blame) : FileError := ⟨b.message, b.line, b.column, b.stack⟩

end Blame

end Playground
