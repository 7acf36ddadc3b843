import Playground.Config
import Playground.Record.Decode

/-! Settings as JSON records. -/

namespace Playground.Record

open Script (Options)

def optionFields : List (Field Options) := [
  { name := "preFormat", otherName := some "pre-format", required := false
    read := fun v o => return { o with preFormat := ← bool v } },
  { name := "exportFunctions", otherName := some "export-functions", required := false
    read := fun v o => return { o with exportFunctions := ← bool v } },
  { name := "infiniteLoopProtection", otherName := some "infinite-loop-protection",
    required := false
    read := fun v o => return { o with guardLoops := ← bool v } },
  { name := "removeTopLevelAwaits", otherName := some "remove-top-level-awaits", required := false
    read := fun v o => return { o with removeAwaits := ← bool v } }]

def options (isStrict : Bool) : Json → Decoded Options :=
  record "ProcessSandboxedCodeOptions" optionFields {} isStrict

def configFields (isStrict : Bool) : List (Field Config) := [
  { name := "entry-file", required := false,
    read := fun v c => return { c with entryFile := ← string v } },
  { name := "tests-file", required := false,
    read := fun v c => return { c with testsFile := ← string v } },
  { name := "loop-timeout-ms", required := false
    read := fun v c => return { c with loopTimeout := ← natural "u64" v } },
  { name := "terminal-keyword", required := false
    read := fun v c => return { c with terminalKeyword := ← string v } },
  { name := "terminal-import", required := false
    read := fun v c => return { c with terminalImport := ← string v } },
  { name := "tests-import", required := false,
    read := fun v c => return { c with testsImport := ← string v } },
  { name := "options", required := false,
    read := fun v c => return { c with options := ← options isStrict v } }]

def config (isStrict : Bool) : Json → Decoded Config :=
  record "SandboxConfig" (configFields isStrict) {} isStrict

end Playground.Record

namespace Playground

def Script.Options.toJson (o : Script.Options) : Json :=
  .object [("preFormat", .bool o.preFormat), ("exportFunctions", .bool o.exportFunctions),
    ("infiniteLoopProtection", .bool o.guardLoops), ("removeTopLevelAwaits", .bool o.removeAwaits)]

def Config.toJson (c : Config) : Json :=
  .object [("entry-file", .string c.entryFile), ("tests-file", .string c.testsFile),
    ("loop-timeout-ms", .integer c.loopTimeout), ("terminal-keyword", .string c.terminalKeyword),
    ("terminal-import", .string c.terminalImport), ("tests-import", .string c.testsImport),
    ("options", c.options.toJson)]

end Playground
