import Playground.Script.Tree

/-! Changes to the items of a module: exporting its functions and leaving out what waits at the top
level. -/

namespace Playground.Script

/-- A plain function declaration becomes an exported one; every other item stays as it is. -/
def ModuleItem.exportFunction : ModuleItem → ModuleItem
  | .stmt (.function span name fn) => .exportDecl fn.span (.function span name fn)
  | item => item

/-- An expression statement that does nothing but wait. -/
def ModuleItem.isAwait : ModuleItem → Bool
  | .stmt (.expr _ (.await ..)) => true
  | _ => false

/-- The name of the function that an item declares and exports; a default export has none. -/
def ModuleItem.exportedFunction? : ModuleItem → Option String
  | .exportDecl _ (.function _ name _) => some name.name
  | _ => none

namespace Module

/-- Exports every function declared at the top level. -/
def exportFunctions (m : Module) : Module :=
  { m with items := m.items.map ModuleItem.exportFunction }

/-- Leaves out the top level statements that only wait. -/
def removeAwaits (m : Module) : Module :=
  { m with items := m.items.filter fun item => !item.isAwait }

/-- The functions exported by declarations, in their order. -/
def exportedFunctions (m : Module) : List String :=
  m.items.filterMap ModuleItem.exportedFunction?

end Module

end Playground.Script
