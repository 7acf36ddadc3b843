import Playground.Config
import Playground.File
import Playground.Imports.Generated
import Playground.Imports.Merge
import Playground.Report

/-! Batches: the files of a playground, prepared together. The entry file comes first and exports
its functions; the others follow in their order and import them. The first file that fails ends the
batch. -/

namespace Playground

/-- How far a batch has come. -/
inductive BatchState
  | start
  | processingEntry
  | processingOthers
  | failed
  | done
deriving DecidableEq, Repr

/-- What a batch comes to. -/
inductive Outcome
  /-- The entry file first, then the others in their order. -/
  | done (files : List File)
  /-- The first file that failed, with its error. -/
  | failed (file : File)
deriving DecidableEq, Repr

namespace Outcome

def isFailed : Outcome → Bool
  | .done _ => false
  | .failed _ => true

def error? : Outcome → Option FileError
  | .done _ => none
  | .failed file => file.error

/-- The files to run: the prepared ones, or the report of the one that failed. -/
def files : Outcome → List File
  | .done files => files
  | .failed file => [Report.ofFile file]

end Outcome

namespace Batch

open Script (Pipeline StageError)

/-- Joins imports line by line; blank ones are left out. -/
def joinImports (parts : List (Option String)) : String :=
  "\n".intercalate ((parts.filterMap id).filter fun part => !(Text.trim part.toList).isEmpty)

/-- The text, if the condition holds. -/
def onlyIf (condition : Bool) (text : String) : Option String :=
  if condition then some text else none

/-- The file that the others import from. -/
def isEntry (config : Config) (f : File) : Bool := f.isMain || f.name == config.entryFile

def pipeline (config : Config) (exportsFunctions : Bool) : Pipeline :=
  Pipeline.ofOptions { config.options with exportFunctions := exportsFunctions } config.loopTimeout

def usesTerminal (config : Config) (body : List Char) : Bool :=
  Text.contains config.terminalKeyword.toList body

/-- The script to run, from its body and the imports it needs. -/
def assemble (imports : List (Option String)) (body : List Char) : Prepared :=
  ⟨String.ofList (Imports.merge (joinImports imports).toList), String.ofList body⟩

/-- Prepares the entry file. Its functions are always exported, since the others can import only
those. -/
def prepareEntry (config : Config) (f : File) : Except StageError Prepared := do
  let code ← (pipeline config true).run f.script
  let split := Imports.split code.toList
  return assemble
    [onlyIf (usesTerminal config split.body) config.terminalImport, some config.testsImport,
      some (String.ofList split.imports)]
    split.body

/-- Prepares a file other than the entry, which it imports from. -/
def prepareOther (config : Config) (entry : String) (prepared : Prepared) (f : File) :
    Except StageError Prepared := do
  let generated ← (Imports.ofExports prepared.body ("./" ++ entry)).mapError StageError.code
  let code ← (pipeline config config.options.exportFunctions).run f.script
  let split := Imports.split code.toList
  return assemble
    [some generated, some (String.ofList split.imports),
      onlyIf (f.name == config.testsFile) config.testsImport,
      onlyIf (usesTerminal config split.body) config.terminalImport]
    split.body

/-- A step of a batch. There is no result if a text was to be put in inside a character: the batch
then breaks off in the state it is in. -/
abbrev Run := OptionT (StateM BatchState)

def enter (state : BatchState) : Run Unit := set state

/-- Ends the batch with the file that failed. -/
def fail (f : File) (error : FileError) : Run Outcome := do
  enter .failed
  return .failed { f with error := some error }

/-- Goes on with what was prepared, or ends the batch with the file it was prepared from. -/
def orFail (f : File) (result : Except StageError Prepared) (next : Prepared → Run Outcome) :
    Run Outcome :=
  match result with
  | .ok prepared => next prepared
  | .error (.code e) => fail f (Blame.ofCodeError f.name e).toFileError
  | .error .insideCharacter => failure

/-- Prepares the files one after the other; `ready` are those prepared before, last first. -/
def prepareOthers (config : Config) (entry : File) (prepared : Prepared) (ready : List File) :
    List File → Run Outcome
  | [] => do
    enter .done
    return .done ({ entry with prepared := some prepared } :: ready.reverse)
  | f :: fs =>
    orFail f (prepareOther config entry.name prepared f) fun own =>
      prepareOthers config entry prepared ({ f with prepared := some own } :: ready) fs

/-- The entry file, and the others in their order. A batch without an entry file gets an empty
one. -/
def pickEntry (config : Config) (files : List File) : File × List File :=
  match files.findIdx? (isEntry config) with
  | some i => (files.getD i ⟨config.entryFile, "", false, none, none, none⟩, files.eraseIdx i)
  | none => (⟨config.entryFile, "", false, none, none, none⟩, files)

/-- Prepares a batch. A file that comes with an error ends it before anything else is done. -/
def run (config : Config) (files : List File) : Run Outcome :=
  match files.find? (·.error.isSome) with
  | some f => fail f (f.error.getD ⟨"", 0, 0, ""⟩)
  | none => do
    enter .processingEntry
    let (entry, others) := pickEntry config files
    orFail entry (prepareEntry config entry) fun prepared => do
      enter .processingOthers
      prepareOthers config entry prepared [] others

end Batch

end Playground
