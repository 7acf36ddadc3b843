import Playground.CommandLine

/-! The program: files are read from disk, and the result is printed. -/

namespace Playground.Program

/-- Why the system could not read a file, in its own words. -/
def reasonOf : IO.Error → String
  | .noFileOrDirectory .. => "No such file or directory (os error 2)"
  | .permissionDenied .. => "Permission denied (os error 13)"
  | .inappropriateType .. => "Is a directory (os error 21)"
  | e => toString e

/-- The text of a file. -/
def readText (path : String) : IO (Except String String) := do
  match ← (IO.FS.readBinFile path).toBaseIO with
  | .error e => return .error (reasonOf e)
  | .ok bytes =>
    match String.fromUTF8? bytes with
    | some text => return .ok text
    | none => return .error "stream did not contain valid UTF-8"

end Playground.Program

open Playground in
def main (args : List String) : IO UInt32 := do
  let result ← CommandLine.run Program.readText args
  (← IO.getStdout).putStr result.stdout
  if let some failure := result.failure then IO.eprintln failure
  return result.exit.toUInt32
