import Playground.Patch
import Playground.Script.Read

/-! Guards that stop loops at the top level of a script once they have run for too long. Each loop
gets a start time right before it and a check at the start of its body. -/

namespace Playground.Script

/-- The body of a loop. -/
def Stmt.loopBody? : Stmt → Option Stmt
  | .whileLoop _ _ body | .doWhile _ body _ | .forLoop _ _ _ _ body | .forIn _ _ _ body
  | .forOf _ _ _ _ body => some body
  | _ => none

namespace LoopGuard

/-- The variable that holds the start time of the loop numbered `id`. -/
def variableName (id : Nat) : String := s!"_wmloopvar{id}"

/-- The function of the page that is told of a loop that does not end. -/
def handler : String := "window._handleInfiniteLoopException"

/-- The check at the start of a body. -/
def check (id timeout : Nat) : String :=
  s!"\nif (Date.now() - {variableName id} > {timeout}) " ++ "\x7b " ++ handler
    ++ "(new Error(\"Bucle infinito\")); break;\x7d\n"

/-- What stands before the loop. -/
def start (id : Nat) : String := s!"var {variableName id} = Date.now();\n"

/-- The patches of one loop: a block gets the check after its brace, any other body gets braces of
its own. -/
def loopPatches (timeout id : Nat) (loop body : Stmt) : List Patch :=
  let inside := match body with
    | .block b => [⟨b.span.start + 1, check id timeout⟩]
    | other => [⟨other.span.start, "\x7b" ++ check id timeout⟩, ⟨other.span.stop, "\x7d"⟩]
  inside ++ [⟨loop.span.start, start id⟩]

/-- The patches of the loops among some items; the next loop is numbered `id`. -/
def itemPatches (timeout : Nat) : Nat → List ModuleItem → List Patch
  | _, [] => []
  | id, .stmt s :: items =>
    match s.loopBody? with
    | some body => loopPatches timeout id s body ++ itemPatches timeout (id + 1) items
    | none => itemPatches timeout id items
  | id, _ :: items => itemPatches timeout id items

/-- The patches that guard the loops of a code. -/
def patches (timeout : Nat) (code : String) : Except CodeError (List Patch) :=
  (Source.read code).map fun source => itemPatches timeout 1 source.module.items

end LoopGuard

end Playground.Script
