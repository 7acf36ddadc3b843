import Playground.File

/-! Compiling the files of a playground from the teaching dialect. The compiler itself is given from
outside. -/

namespace Playground

/-- Turns a text in the teaching dialect into a script. -/
abbrev Compiler := String → Except CodeError String

/-- The compiler for texts that are scripts already. -/
def Compiler.identity : Compiler := .ok

/-- A file's text as the compiler gets it: it always ends with a line feed. -/
def File.source (f : File) : String :=
  if f.content.toList.getLast? = some '\n' then f.content else f.content ++ "\n"

/-- Compiles a file. What was compiled before stays if the compiler fails, and an error from before
stays if it does not. -/
def File.compile (compiler : Compiler) (f : File) : File :=
  match compiler f.source with
  | .ok js => { f with compiled := some { esjs := some f.content, js := some js } }
  | .error e => { f with error := some (Blame.ofCodeError f.name e).toFileError }

/-- Compiles every file; one that fails does not keep the others from being compiled. -/
def compileFiles (compiler : Compiler) (files : List File) : List File :=
  files.map (File.compile compiler)

end Playground
