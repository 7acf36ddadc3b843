import Playground.File
import Playground.Record.Decode

/-! Files as JSON records. -/

namespace Playground

/-- A member that is left out when there is no value. -/
def Json.optionalMember (key : String) (write : α → Json) (value : Option α) :
    List (String × Json) :=
  value.elim [] fun a => [(key, write a)]

namespace Record

def compiledFields : List (Field Compiled) := [
  { name := "esjs", required := false,
    read := fun v c => return { c with esjs := ← optional string v } },
  { name := "js", required := false,
    read := fun v c => return { c with js := ← optional string v } }]

def compiled : Json → Decoded Compiled := record "CompiledCode" compiledFields {} true

def preparedFields : List (Field Prepared) := [
  { name := "imports", required := true,
    read := fun v p => return { p with imports := ← string v } },
  { name := "codeWithoutImports", required := true,
    read := fun v p => return { p with body := ← string v } }]

def prepared : Json → Decoded Prepared := record "SandboxedCode" preparedFields ⟨"", ""⟩ true

def errorFields : List (Field FileError) := [
  { name := "message", required := true,
    read := fun v e => return { e with message := ← string v } },
  { name := "line", required := true,
    read := fun v e => return { e with line := ← natural "usize" v } },
  { name := "column", required := true,
    read := fun v e => return { e with column := ← natural "usize" v } },
  { name := "stack", required := true, read := fun v e => return { e with stack := ← string v } }]

def fileError : Json → Decoded FileError :=
  record "SandboxFileError" errorFields ⟨"", 0, 0, ""⟩ true

def fileFields : List (Field File) := [
  { name := "name", required := true, read := fun v f => return { f with name := ← string v } },
  { name := "content", required := true,
    read := fun v f => return { f with content := ← string v } },
  { name := "main", required := false, read := fun v f => return { f with isMain := ← bool v } },
  { name := "compiled", required := false,
    read := fun v f => return { f with compiled := ← optional compiled v } },
  { name := "sandboxed", required := false,
    read := fun v f => return { f with prepared := ← optional prepared v } },
  { name := "error", required := false,
    read := fun v f => return { f with error := ← optional fileError v } }]

def file : Json → Decoded File :=
  record "SandboxFile" fileFields ⟨"", "", false, none, none, none⟩ true

end Record

def Compiled.toJson (c : Compiled) : Json :=
  .object (Json.optionalMember "esjs" .string c.esjs ++ Json.optionalMember "js" .string c.js)

def Prepared.toJson (p : Prepared) : Json :=
  .object [("imports", .string p.imports), ("codeWithoutImports", .string p.body)]

def FileError.toJson (e : FileError) : Json :=
  .object [("message", .string e.message), ("line", .integer e.line), ("column", .integer e.column),
    ("stack", .string e.stack)]

/-- A file as a record. What it does not have is left out. -/
def File.toJson (f : File) : Json :=
  .object ([("name", .string f.name), ("content", .string f.content)]
    ++ (if f.isMain then [("main", .bool true)] else [])
    ++ Json.optionalMember "compiled" Compiled.toJson f.compiled
    ++ Json.optionalMember "sandboxed" Prepared.toJson f.prepared
    ++ Json.optionalMember "error" FileError.toJson f.error)

end Playground
