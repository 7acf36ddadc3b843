import Playground.Script.Grammar.Statement
import Playground.Text.Position

/-! Modules: imports, exports, and the grammar as a whole. `Source.parse` reads a text: it gives the
tree and the comments, or what is wrong first. -/

namespace Playground.Script

namespace Parse

/-- The text that names another module. -/
def source : Parse StringLit := do
  let start ← position
  let .string value raw ← required | unexpected "a string literal"
  bump
  return ⟨← since start, value, raw⟩

/-- The word `from`, the other module and the end of the item. -/
def fromClause : Parse StringLit := do
  expect (.word (.name "from"))
  let lit ← source
  expectStatementEnd
  return lit

/-- A name that two modules agree on. -/
def externalName : Parse ExternalName := do
  match ← token? with
  | some (.string ..) => return .string (← source)
  | some (.word _) => return .name (← anyName)
  | _ => unexpected "identifier or string"

/-- Specifiers up to the closing brace. -/
def specifiers (specifier : Parse α) : Parse (List α) := do
  let taken ← collect do
    if (← atEnd) || (← atMark .rightBrace) then return none
    let s ← specifier
    if !(← atMark .rightBrace) then expectMark .comma
    return some s
  expectMark .rightBrace
  return taken

/-! ### Imports -/

def importSpecifier : Parse ImportSpecifier := do
  let start ← position
  let imported ← externalName
  if ← eatName "as" then
    let id ← bindingIdent false
    return .named ⟨start, id.span.stop⟩ (some imported) id
  match imported with
  | .name id =>
    if (Word.ofString id.name).isReserved then failAt id.span .reservedImport
    return .named (← since start) none id
  | .string lit => failAt lit.span (.importOfString lit.value)

/-- The name that an import gives to what the other module exports by default. -/
def importedBinding : Parse Ident :=
  within ({ · with inAsync := false, inGenerator := false }) (bindingIdent false)

/-- The phase an import asks for and its default binding. The word for a phase is an ordinary name
unless a binding or a list of them follows it. -/
def importHead : Parse (ImportPhase × List ImportSpecifier) := do
  if !(← atBindable) then return (.evaluation, [])
  let id ← importedBinding
  let named (phase : ImportPhase) (id : Ident) : Parse (ImportPhase × List ImportSpecifier) := do
    if !(← atName "from") then expectMark .comma
    return (phase, [.default id])
  let some phase := ImportPhase.ofName? id.name | named .evaluation id
  if (← sees (.operator .mul)) || (← atMark .leftBrace) then return (phase, [])
  if (← both atBindable (return !(← atName "from"))) || (← peeks (.word (.name "from"))) then
    named phase (← importedBinding)
  else named .evaluation id

/-- An import after its keyword. -/
def importRest (start : Nat) : Parse ModuleItem := do
  if let some (.string ..) ← token? then
    let lit ← source
    expectStatementEnd
    return .importFrom (← since start) .evaluation [] lit
  let (phase, byDefault) ← importHead
  let first ← position
  let others ←
    if ← eat (.operator .mul) then do
      expect (.word (.name "as"))
      let id ← importedBinding
      pure [ImportSpecifier.star (← since first) id]
    else if ← eatMark .leftBrace then specifiers importSpecifier
    else pure []
  let lit ← fromClause
  return .importFrom (← since start) phase (byDefault ++ others) lit

/-- An import, or an expression that begins with the word. -/
def importItem (g : Grammar) : Parse ModuleItem := do
  let start ← position
  if ← peeksImportExpr then return .stmt (← importStatement g)
  bump
  importRest start

/-! ### Exports -/

def exportSpecifier : Parse ExportSpecifier := do
  let start ← position
  let own ← externalName
  let exported ← if ← eatName "as" then do pure (some (← externalName)) else pure none
  return .named (← since start) own exported

/-- A default export after its keyword. -/
def exportDefault (g : Grammar) (start : Nat) : Parse ModuleItem := do
  if ← atKeyword .classWord then
    let (name, cls) ← classRest g false
    return .exportDefaultClass (← since start) name cls
  if ← atAsyncFunction then
    let (name, fn) ← asyncFunction g false false
    return .exportDefaultFunction (← since start) name fn
  if ← atKeyword .function then
    let (name, fn) ← function g none false false
    return .exportDefaultFunction (← since start) name fn
  let e ← withIn g.assignment
  expectStatementEnd
  return .exportDefault (← since start) e

/-- Everything another module exports. -/
def exportStar (start : Nat) : Parse ModuleItem := do
  let first ← position
  if !(← peeks (.word (.name "as"))) then
    bump
    let lit ← fromClause
    return .exportAll (← since start) lit
  bump
  bump
  let name ← externalName
  let span ← since first
  let lit ← fromClause
  return .exportNamed (← since start) [.star span name] (some lit)

/-- Notes that a name which only another module can have is exported without that module. -/
def checkOwn : ExportSpecifier → Parse Unit
  | .named _ (.name id) _ =>
    if isKept id.name then note (.exportWithoutSource id.name) id.span else pure ()
  | .named _ (.string lit) _ => note .exportOfString lit.span
  | .star .. => pure ()

/-- Names between braces. -/
def exportNames (start : Nat) : Parse ModuleItem := do
  expectMark .leftBrace
  let ss ← specifiers exportSpecifier
  if ← atName "from" then
    let lit ← fromClause
    return .exportNamed (← since start) ss (some lit)
  ss.forM checkOwn
  let _ ← eatStatementEnd
  return .exportNamed (← since start) ss none

/-- An export. -/
def exportItem (g : Grammar) : Parse ModuleItem := do
  let start ← position
  bump
  match ← required with
  | .word (.keyword .defaultWord) =>
    bump
    exportDefault g start
  | .word (.keyword .classWord) =>
    let decl ← classDecl g
    return .exportDecl (← since start) decl
  | .word (.keyword .function) =>
    let decl ← functionDecl g
    return .exportDecl (← since start) decl
  | .word (.keyword .varWord) | .word (.keyword .constWord) =>
    let decl ← varDecl g false
    return .exportDecl (← since start) (.var decl)
  | .operator .mul => exportStar start
  | _ =>
    if ← atLet then
      let decl ← varDecl g false
      return .exportDecl (← since start) (.var decl)
    if ← atAsyncFunction then
      let decl ← functionDecl g
      return .exportDecl (← since start) decl
    exportNames start

/-! ### The module -/

def moduleItem (g : Grammar) : Parse ModuleItem := do
  if ← atKeyword .importWord then importItem g
  else if ← atKeyword .exportWord then exportItem g
  else return .stmt (← ownStatement g true)

/-- The line meant for the system, if there is one. -/
def shebang : Parse (Option String) := do
  let some (.shebang text) ← token? | return none
  bump
  return some text

/-- A whole module. -/
def module (g : Grammar) : Parse Module := do
  let start ← position
  let shebang ← shebang
  let items ← collect do
    if ← atEnd then return none else return some (← moduleItem g)
  return ⟨← since start, shebang, items⟩

end Parse

/-- The grammar for texts in which rules refer back to each other at most `depth` deep. -/
def grammar : (depth : Nat) → Grammar
  | 0 =>
    { assignment := Parse.fail .nestingTooDeep
      unary := Parse.fail .nestingTooDeep
      binaryTail := fun _ _ => Parse.fail .nestingTooDeep
      memberOrNew := Parse.fail .nestingTooDeep
      operand := Parse.fail .nestingTooDeep
      statement := fun _ => Parse.fail .nestingTooDeep
      bindingPattern := fun _ => Parse.fail .nestingTooDeep
      toPattern := fun _ _ => Parse.fail .nestingTooDeep }
  | depth + 1 =>
    { assignment := fun scope s => Parse.assignment (grammar depth) scope s
      unary := fun scope s => Parse.unary (grammar depth) scope s
      binaryTail := fun left bound scope s => Parse.binaryTail (grammar depth) left bound scope s
      memberOrNew := fun scope s => Parse.memberOrNew (grammar depth) scope s
      operand := fun scope s => Parse.operand (grammar depth) scope s
      statement := fun declares scope s => Parse.statement (grammar depth) declares scope s
      bindingPattern :=
        fun forbidsLet scope s => Parse.bindingPattern (grammar depth) forbidsLet scope s
      toPattern := fun kind e scope s => Parse.toPattern (grammar depth) kind e scope s }

/-- A script that was read: its tree and its comments. -/
structure Source where
  module : Module
  comments : Comments

/-- The first of the faults that did not stop the reading; they are kept last first. -/
def Progress.firstFault? (s : Progress) : Option Fault := s.reader.faults.getLast?

/-- Reads a text. A fault that stops the reading is told before the ones that do not. -/
def Source.parse (text : List Char) : Except Fault Source :=
  let reader := Reader.ofText text
  let size := Text.byteSize reader.cursor.rest
  let depth := 16 * reader.cursor.rest.length + 64
  match Parse.module (grammar depth) {} { reader, size } with
  | .error fault _ => .error fault
  | .ok module s =>
    match s.firstFault? with
    | some fault => .error fault
    | none => .ok ⟨module, s.reader.comments⟩

end Playground.Script
