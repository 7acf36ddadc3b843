import Playground.Script.Items
import Playground.Script.Layout.Module
import Playground.Script.LoopGuard

/-! The stages that code passes through before it is run, and pipelines of them. -/

namespace Playground.Script

/-- Why a stage gives no code. -/
inductive StageError
  | code (error : CodeError)
  /-- A text was to be put in inside a character. -/
  | insideCharacter
deriving DecidableEq, Repr

/-- One step on a code. -/
inductive Stage
  | format
  | exportFunctions
  | removeAwaits
  /-- Loops are stopped after `timeout` milliseconds. -/
  | guardLoops (timeout : Nat)
deriving DecidableEq, Repr

namespace Stage

def name : Stage → String
  | .format => "format"
  | .exportFunctions => "export-functions"
  | .removeAwaits => "remove-top-level-awaits"
  | .guardLoops _ => "infinite-loop-protection"

/-- Reads code, changes the module and writes it out. -/
def reprint (change : Module → Module) (code : String) : Except StageError String :=
  match Source.read code with
  | .error e => .error (.code e)
  | .ok source => .ok { source with module := change source.module }.print

/-- Puts guards into the loops of a code. -/
def guard (timeout : Nat) (code : String) : Except StageError String :=
  match LoopGuard.patches timeout code with
  | .error e => .error (.code e)
  | .ok patches =>
    match Patch.applyAll? patches code with
    | some guarded => .ok guarded
    | none => .error .insideCharacter

def run : Stage → String → Except StageError String
  | .format => reprint id
  | .exportFunctions => reprint Module.exportFunctions
  | .removeAwaits => reprint Module.removeAwaits
  | .guardLoops timeout => guard timeout

end Stage

/-- Which stages a file passes through. -/
structure Options where
  preFormat : Bool := false
  exportFunctions : Bool := false
  guardLoops : Bool := false
  removeAwaits : Bool := false
deriving DecidableEq, Repr

/-- Stages in the order they are passed. -/
abbrev Pipeline := List Stage

namespace Pipeline

/-- The time that loops are given when nothing else is said, in milliseconds. -/
def defaultTimeout : Nat := 5000

/-- The stages that the options ask for. Formatting comes last in any case, so that all code leaves
in one style. -/
def ofOptions (options : Options) (timeout : Nat) : Pipeline :=
  (if options.preFormat then [.format] else [])
    ++ (if options.removeAwaits then [.removeAwaits] else [])
    ++ (if options.exportFunctions then [.exportFunctions] else [])
    ++ (if options.guardLoops then [.guardLoops timeout] else [])
    ++ [.format]

def names (p : Pipeline) : List String := p.map Stage.name

/-- Takes code through the stages; the first one that fails ends it. -/
def run (p : Pipeline) (code : String) : Except StageError String :=
  p.foldlM (fun code stage => stage.run code) code

end Pipeline

end Playground.Script
