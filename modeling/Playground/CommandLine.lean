import Playground.Compile
import Playground.Host
import Playground.Toml.Config

/-! The command line: what its arguments ask for, and what a run of it prints. Reading files is left
to the caller. -/

namespace Playground.CommandLine

/-- What the arguments of a run say. -/
structure Invocation where
  /-- The paths of the batch, in their order. -/
  paths : List String := []
  config : Option String := none
  preFormat : Bool := false
  exportFunctions : Bool := false
  noLoopProtection : Bool := false
  /-- How often more talk was asked for. -/
  verbosity : Nat := 0
deriving DecidableEq, Repr

inductive Request
  | run (invocation : Invocation)
  | help
  | version
  /-- The arguments make no sense. -/
  | refused
deriving DecidableEq, Repr

/-- Where the reading of arguments stands after one of them. -/
inductive Step
  | next (i : Invocation)
  /-- The next argument is the path of the settings. -/
  | wantsConfig (i : Invocation)
  | stop (request : Request)

/-- Takes the path of the settings; it is given once, and it is not empty. -/
def setConfig (i : Invocation) (path : String) : Step :=
  if path.isEmpty || i.config.isSome then .stop .refused else .next { i with config := some path }

/-- Takes a flag that is given at most once. -/
def setOnce (isSet : Bool) (i : Invocation) : Step := if isSet then .stop .refused else .next i

/-- An argument that begins with two dashes, cut at its first equals sign. -/
def longOption (i : Invocation) (name : String) (value : Option String) : Step :=
  match name, value with
  | "config", some path => setConfig i path
  | "config", none => .wantsConfig i
  | "pre-format", none => setOnce i.preFormat { i with preFormat := true }
  | "export-functions", none => setOnce i.exportFunctions { i with exportFunctions := true }
  | "no-loop-protection", none => setOnce i.noLoopProtection { i with noLoopProtection := true }
  | "verbose", none => .next { i with verbosity := i.verbosity + 1 }
  | "help", none => .stop .help
  | "version", none => .stop .version
  | _, _ => .stop .refused

/-- The letters after one dash. A letter that takes a value takes the rest of them. -/
def shortOptions (i : Invocation) : List Char → Step
  | [] => .next i
  | 'v' :: cs => shortOptions { i with verbosity := i.verbosity + 1 } cs
  | 'h' :: _ => .stop .help
  | 'V' :: _ => .stop .version
  | ['c'] => .wantsConfig i
  | 'c' :: '=' :: path => setConfig i (String.ofList path)
  | 'c' :: path => setConfig i (String.ofList path)
  | _ :: _ => .stop .refused

/-- Takes a path of the batch. -/
def addPath (i : Invocation) (path : String) : Step :=
  if path.isEmpty then .stop .refused else .next { i with paths := i.paths ++ [path] }

/-- An argument that is no value of the one before it. -/
def argument (i : Invocation) (arg : String) : Step :=
  match arg.toList with
  | '-' :: '-' :: cs =>
    let name := String.ofList (cs.takeWhile (· ≠ '='))
    match cs.dropWhile (· ≠ '=') with
    | [] => longOption i name none
    | _ :: value => longOption i name (some (String.ofList value))
  | '-' :: c :: cs => shortOptions i (c :: cs)
  | _ => addPath i arg

/-- An argument that can be the value of the one before it: options cannot. -/
def isValue (arg : String) : Bool :=
  match arg.toList with
  | '-' :: _ :: _ => false
  | _ => true

/-- A run needs at least one path. -/
def finish (i : Invocation) : Request := if i.paths.isEmpty then .refused else .run i

/-- Arguments after the mark that ends the options. -/
def restPaths (i : Invocation) : List String → Request
  | [] => finish i
  | arg :: args =>
    match addPath i arg with
    | .next i => restPaths i args
    | _ => .refused

/-- Reads arguments from left to right; the first that stops the reading decides. -/
def readArguments (i : Invocation) : List String → Request
  | [] => finish i
  | arg :: args =>
    if arg = "--" then restPaths i args
    else
      match argument i arg with
      | .next i => readArguments i args
      | .stop request => request
      | .wantsConfig i =>
        match args with
        | [] => .refused
        | value :: args =>
          if !isValue value then .refused
          else
            match setConfig i value with
            | .next i => readArguments i args
            | _ => .refused

/-- What the arguments ask for. -/
def parse (args : List String) : Request := readArguments {} args

def versionText : String := "sandbox-prep 0.1.0\n"

/-- The help, line by line. -/
def helpLines : List String := [
  "Prepares multi-file learner code for execution inside a sandboxed preview runtime",
  "",
  "Usage: sandbox-prep [OPTIONS] <FILES>...",
  "",
  "Arguments:",
  "  <FILES>...  Files of the batch; each file's stem becomes its name",
  "",
  "Options:",
  "  -c, --config <CONFIG>     TOML file with names, helper imports and default options",
  "      --pre-format          Format each file before the other transformers run",
  "      --export-functions    Export top-level functions of non-entry files too",
  "      --no-loop-protection  Do not instrument top-level loops",
  "  -v, --verbose...          Increase log verbosity (-v debug, -vv trace)",
  "  -h, --help                Print help",
  "  -V, --version             Print version"]

def helpText : String := String.join (helpLines.map (· ++ "\n"))

/-- What a run comes to. -/
structure Result where
  exit : Nat
  stdout : String := ""
  /-- What is told when the run fails. -/
  failure : Option String := none
deriving DecidableEq, Repr

/-- The name that a path gives to its file: the last part without its last extension. -/
def stem? (path : String) : Option String :=
  let parts := (Text.cutAt (· = '/') path.toList).filter fun part => part ≠ [] && part ≠ ['.']
  match parts.getLast? with
  | none => none
  | some name =>
    if name = ['.', '.'] then none
    else
      let tail := name.reverse.takeWhile (· ≠ '.')
      let head := name.take (name.length - tail.length - 1)
      some (String.ofList (if head.isEmpty then name else head))

/-- The settings with what the arguments add to them. -/
def Invocation.settings (i : Invocation) (config : Config) : Config :=
  { config with options := { config.options with
      preFormat := config.options.preFormat || i.preFormat
      exportFunctions := config.options.exportFunctions || i.exportFunctions
      guardLoops := !i.noLoopProtection } }

/-- What a run on files that were read prints. -/
def resultOf (config : Config) (files : List File) : Result :=
  match deliver Channel.memory config (compileFiles Compiler.identity files) [] with
  | (none, _) => { exit := 101 }
  | (some (.error e), _) => { exit := 1, failure := some e.message }
  | (some (.ok ready), posted) =>
    let lines := String.join (posted.map Message.line)
    if ready.any (·.error.isSome) then
      { exit := 2, stdout := lines ++ (Json.array (ready.map File.toJson)).render ++ "\n" }
    else { exit := 0, stdout := lines }

variable {m : Type → Type} [Monad m]

/-- Reads the settings that a run asks for. -/
def loadConfig (readFile : String → m (Except String String)) :
    Option String → m (Except String Config)
  | none => return .ok {}
  | some path => do
    match ← readFile path with
    | .error reason => return .error (ConfigError.unreadable path reason).message
    | .ok text => return (Config.ofToml text).mapError ConfigError.message

/-- Reads the files of a batch; the first that cannot be read ends it. -/
def loadFiles (readFile : String → m (Except String String)) :
    List String → m (Except String (List File))
  | [] => return .ok []
  | path :: paths => do
    match ← readFile path with
    | .error reason => return .error s!"failed to read {path}: {reason}"
    | .ok content =>
      match stem? path with
      | none => return .error s!"{path} has no file name"
      | some name => return (← loadFiles readFile paths).map ({ name, content } :: ·)

/-- Runs the command line; `readFile` gives the text of a file, or why there is none. The settings
are read before the files. -/
def run (readFile : String → m (Except String String)) (args : List String) : m Result := do
  match parse args with
  | .help => return { exit := 0, stdout := helpText }
  | .version => return { exit := 0, stdout := versionText }
  | .refused => return { exit := 2 }
  | .run i =>
    match ← loadConfig readFile i.config with
    | .error failure => return { exit := 1, failure := some failure }
    | .ok config =>
      match ← loadFiles readFile i.paths with
      | .error failure => return { exit := 1, failure := some failure }
      | .ok files => return resultOf (i.settings config) files

end Playground.CommandLine
