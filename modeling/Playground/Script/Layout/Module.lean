import Playground.Script.Grammar.Module
import Playground.Script.Layout.Tree

/-! How modules are written. `Source.print` gives the text of a script that was read. -/

namespace Playground.Script

open Write

def ExternalName.write : ExternalName → Write Unit
  | .name id => id.write
  | .string lit => lit.write

/-- A name between braces, with the name it goes by on the other side. -/
def ImportSpecifier.write : ImportSpecifier → Write Unit
  | .default id => id.write
  | .star span id => do
    leading span.start
    put "* as "
    id.write
  | .named span imported id => do
    leading span.start
    if let some name := imported then
      name.write
      put " as "
    id.write

def ExportSpecifier.write : ExportSpecifier → Write Unit
  | .star span name => do
    leading span.start
    put "* as "
    name.write
  | .named span own exported => do
    leading span.start
    own.write
    if let some name := exported then
      put " as "
      name.write

/-- The specifiers that stand between braces. -/
def namedImports (ss : List ImportSpecifier) : List Child :=
  ss.filterMap fun s => match s with
    | .named span .. => some ⟨span.stop, s.write⟩
    | _ => none

/-- The specifiers that stand before the braces. -/
def otherImports (ss : List ImportSpecifier) : List Child :=
  ss.filterMap fun s => match s with
    | .named .. => none
    | .default id => some ⟨id.span.stop, s.write⟩
    | .star span _ => some ⟨span.stop, s.write⟩

/-- What an import or export takes from the other module, up to the word `from`. -/
def writeImports (stop : Nat) (ss : List ImportSpecifier) : Write Unit := do
  let named := namedImports ss
  let others := otherImports ss
  others.head?.forM (·.write)
  others.tail.forM fun c => do
    put ", "
    c.write
  if !named.isEmpty then
    if !others.isEmpty then put ", "
    put "\x7b "
    onOneLine stop named
    put " \x7d"
  if !ss.isEmpty then put " from "

/-- The specifiers of an export. -/
def writeExports (stop : Nat) (ss : List ExportSpecifier) : Write Unit := do
  match ss with
  | [.star span name] => (ExportSpecifier.star span name).write
  | _ =>
    put "\x7b "
    onOneLine stop (ss.map fun s => ⟨s.span.stop, s.write⟩)
    if !ss.isEmpty then space
    put "\x7d"

/-- An item that is no statement, without the end of its line. -/
def ModuleItem.writeOwn : ModuleItem → Write Unit
  | .stmt s => s.write true
  | .importFrom span phase ss lit => do
    put "import "
    if let some name := phase.name? then
      put name
      space
    writeImports span.stop ss
    lit.write
    put ";"
  | .exportDecl _ decl => do
    put "export "
    decl.write false
  | .exportNamed span ss lit => do
    put "export "
    writeExports span.stop ss
    if let some lit := lit then
      put " from "
      lit.write
    put ";"
  | .exportAll _ lit => do
    put "export * from "
    lit.write
    put ";"
  | .exportDefault _ e => do
    put "export default "
    e.write true
    put ";"
  | .exportDefaultFunction _ name fn => do
    put "export default "
    (Expr.function fn.span name fn).write false
  | .exportDefaultClass _ name cls => do
    put "export default "
    (Expr.classExpr cls.span name cls).write false

/-- Writes an item with the comments after it. -/
def ModuleItem.write : ModuleItem → Write Unit
  | .stmt s => do
    s.write true
    trailing s.span.stop
  | item => line item.span true item.writeOwn

def Module.write (m : Module) : Write Unit := do
  leading m.span.start
  if let some text := m.shebang then
    put "#!"
    put text
    newline
  m.items.forM ModuleItem.write
  trailing m.span.stop

/-- The text of a script. -/
def Source.print (s : Source) : String :=
  (s.module.write.run { comments := s.comments }).2.text

end Playground.Script
