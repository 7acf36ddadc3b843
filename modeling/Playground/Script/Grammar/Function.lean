import Playground.Script.Grammar.Pattern

/-! Blocks, parameters and functions. -/

namespace Playground.Script

/-- A statement that is the text `use strict`. -/
def Stmt.isStrictDirective : Stmt → Bool
  | .expr _ (.literal _ (.string _ raw)) => raw == "'use strict'" || raw == "\"use strict\""
  | _ => false

/-- A statement that is a text. -/
def Stmt.isDirective : Stmt → Bool
  | .expr _ (.literal _ (.string ..)) => true
  | _ => false

namespace Parse

/-! ### Blocks -/

/-- Statements up to the closing brace. -/
def statementsToBrace (g : Grammar) : Parse (List Stmt) :=
  collect do
    match ← current? with
    | none =>
      note (.expected "\x7d" "<eof>") (← here)
      return none
    | some { token := .mark .rightBrace, .. } =>
      bump
      return none
    | some _ => return some (← g.statement true)

/-- Statements between braces. -/
def block (g : Grammar) : Parse Block := do
  let start ← position
  expectMark .leftBrace
  let body ← statementsToBrace g
  return .mk (← since start) body

/-! ### Parameters and bodies -/

/-- A parameter that is not the rest. -/
def param (g : Grammar) : Parse Pattern := do
  let start ← position
  let target ← g.bindingPattern false
  if ← eat (.assign .plain) then
    let value ← g.assignment
    return .default (← since start) target value
  return target

/-- Parameters up to the closing parenthesis. -/
def params (g : Grammar) : Parse (List Pattern) := do
  iterate (fun (taken, rest) => do
    if (← atEnd) || (← atMark .rightParen) then return .inr taken.reverse
    if let some span := rest then note .restNotLast span
    let start ← position
    if ← eatMark .ellipsis then
      let target ← g.bindingPattern false
      let arg ← if ← eat (.assign .plain) then
          let value ← g.assignment
          note .initializedRest target.span
          pure (.default (← since start) target value)
        else pure target
      let span ← since start
      listComma .rightParen true
      return .inl (.rest span arg :: taken, some span)
    let p ← param g
    listComma .rightParen false
    return .inl (p :: taken, rest)) (← budget) (([] : List Pattern), (none : Option Span))

/-- Every parameter is a name. -/
def areNames (ps : List Pattern) : Bool :=
  ps.all fun p => match p with
    | .name _ => true
    | _ => false

/-- Inside the body of a function. -/
def Scope.body (isAsync isGenerator isArrow : Bool) (scope : Scope) : Scope :=
  { scope with
    inFunction := true
    inOwnFunction := scope.inOwnFunction || !isArrow
    inAsync := isAsync
    inGenerator := isGenerator
    canBreak := false
    canContinue := false }

/-- A function whose parameters are not all names cannot turn strict in its body. -/
def checkDirective (ps : List Pattern) (body : Block) : Parse Unit := do
  let .mk _ stmts := body
  if !areNames ps then
    if let some s := (stmts.takeWhile Stmt.isDirective).find? Stmt.isStrictDirective then
      note .strictDirective s.span

/-- The body of a function with braces. -/
def functionBlock (g : Grammar) (isAsync isGenerator isArrow : Bool) (ps : List Pattern) :
    Parse Block :=
  within (Scope.body isAsync isGenerator isArrow) (inBody do
    let body ← block g
    checkDirective ps body
    return body)

/-- Parameters and body of a function that begins at `start`. -/
def functionRest (g : Grammar) (start : Nat) (ps : Parse (List Pattern))
    (isAsync isGenerator : Bool) : Parse Func :=
  within ({ · with inAsync := isAsync, inGenerator := isGenerator }) do
    expectMark .leftParen
    let ps ← within ({ · with inParams := true, inFunction := false }) ps
    expectMark .rightParen
    let body ← withIn (functionBlock g isAsync isGenerator false ps)
    return .mk (← since start) isAsync isGenerator ps body

/-- A function from its keyword on; `asyncStart` is where it begins when `async` was read before. -/
def function (g : Grammar) (asyncStart : Option Nat) (isExpr isNamed : Bool) :
    Parse (Option Ident × Func) := do
  let start ← match asyncStart with
    | some start => pure start
    | none => position
  bump
  let isAsync := asyncStart.isSome
  let isGenerator ← eat (.operator .mul)
  within ({ · with hasSuper := false, inField := false }) do
    let name ←
      if isExpr then
        within ({ · with inAsync := isAsync, inGenerator := isGenerator })
          (bindingIdent? isNamed false)
      else bindingIdent? isNamed false
    let fn ← functionRest g start (params g) isAsync isGenerator
    return (name, fn)

/-- A function from the word `async` on. -/
def asyncFunction (g : Grammar) (isExpr isNamed : Bool) : Parse (Option Ident × Func) := do
  let start ← position
  bump
  function g (some start) isExpr isNamed

/-- `async function` on one line comes next. -/
def atAsyncFunction : Parse Bool :=
  both (atName "async") (both (peeks (.word (.keyword .function))) (return !(← lineBeforePeeked)))

/-- A function that has a name, as a statement. -/
def functionDecl (g : Grammar) : Parse Stmt := do
  let (name, fn) ←
    if ← atName "async" then asyncFunction g false true else function g none false true
  return .function fn.span (name.getD ⟨"", fn.span⟩) fn

/-- A method of an object or a class: it sees the members of the parent. -/
def inMethod (step : Parse α) : Parse α :=
  within ({ · with hasSuper := true, inField := false }) step

/-- The parameters of a getter. -/
def getterParams (g : Grammar) (keySpan : Span) : Parse (List Pattern) := do
  let ps ← params g
  if !ps.isEmpty then note .getterWithParams keySpan
  return ps

/-- The parameters of a setter. -/
def setterParams (g : Grammar) (keySpan : Span) : Parse (List Pattern) := do
  let ps ← params g
  if ps.length ≠ 1 then note .setterParams keySpan
  if let .rest span _ :: _ := ps then note .restInSetter span
  return ps

/-! ### Object literals -/

/-- A property of an object literal. -/
def property (g : Grammar) : Parse Property := do
  let start ← position
  if ← eatMark .ellipsis then
    let arg ← withIn g.assignment
    return .spread (← since start) arg
  if ← eat (.operator .mul) then
    let name ← key g
    return .method name (← inMethod (functionRest g start (params g) false true))
  let name ← key g
  if ← eatMark .colon then return .pair name (← withIn g.assignment)
  if ← atMark .leftParen then
    return .method name (← inMethod (functionRest g start (params g) false false))
  let .name id := name | unexpected "identifier"
  if ← eatMark .question then note .optionalProperty (← lastSpan)
  if ← eat (.assign .plain) then
    let value ← withIn g.assignment
    let span ← since start
    modify fun s => { s with initialized := s.initialized ++ [span] }
    return .initialized span id value
  if ← seesOne [.mark .comma, .mark .rightBrace] then return .shorthand id
  match id.name with
  | "get" =>
    let name ← key g
    let .mk _ _ _ _ body ← inMethod (functionRest g start (getterParams g name.span) false false)
    return .getter (← since start) name body
  | "set" =>
    let name ← key g
    let .mk _ _ _ ps body ← inMethod (functionRest g start (setterParams g name.span) false false)
    return .setter (← since start) name (ps.head?.getD (.invalid .absent)) body
  | "async" =>
    let isGenerator ← eat (.operator .mul)
    let name ← key g
    return .method name (← inMethod (functionRest g start (params g) true isGenerator))
  | _ => unexpected "... , *,  (, [, :, , ?, = or an identifier"

/-- An object literal. -/
def object (g : Grammar) : Parse Expr := do
  let start ← position
  bump
  let (properties, trailing) ← properties (property g)
  if let some comma := trailing then
    modify fun s => { s with trailingCommas := (start, comma) :: s.trailingCommas }
  return .object (← since start) properties

end Parse

end Playground.Script
