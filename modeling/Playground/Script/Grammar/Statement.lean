import Playground.Script.Grammar.Expression

/-! Statements. -/

namespace Playground.Script

def Declarator.target : Declarator → Pattern
  | .mk _ target _ => target

def Declarator.init : Declarator → Option Expr
  | .mk _ _ init => init

/-- What stands between the parentheses of a `for`. -/
inductive LoopHead
  | steps (init : ForHead) (test update : Option Expr)
  | over (isOf : Bool) (left : ForHead) (right : Expr)

namespace Parse

/-- Inside a loop. -/
def inLoop (step : Parse α) : Parse α :=
  within ({ · with canBreak := true, canContinue := true }) step

/-- An expression in parentheses, after the keyword of a statement. -/
def parenthesized (g : Grammar) : Parse Expr := do
  expectMark .leftParen
  let e ← withIn (expression g)
  expectMark .rightParen
  return e

/-! ### Variables -/

/-- A variable with its value. -/
def declarator (g : Grammar) (inLoop : Bool) (kind : VarKind) : Parse Declarator := do
  let start ← position
  let target ← g.bindingPattern (kind ≠ .varKeyword)
  if inLoop && (← seesOne [.word (.keyword .inWord), .word (.name "of")]) then
    return .mk (← since start) target none
  if ← eat (.assign .plain) then
    let value ← g.assignment
    verify value
    return .mk (← since start) target (some value)
  if kind = .constKeyword then note .constWithoutValue (← since start)
  else if !areNames [target] then failAt (← since start) .patternWithoutValue
  return .mk (← since start) target none

/-- After variables that something else follows: passes over the rest of the statement. -/
def skipStatement (g : Grammar) : Parse Unit := do
  note .semicolonExpected (← here)
  let _ ← attempt (expression g)
  iterate (fun () => do
    if ← eatStatementEnd then return .inr ()
    bump
    match ← token? with
    | some (.error _) => return .inr ()
    | _ => return .inl ()) (← budget) ()

/-- Variables from their keyword on. -/
def varDecl (g : Grammar) (inLoop : Bool) : Parse VarDecl := do
  let start ← position
  let kind : VarKind := match ← token? with
    | some (.word (.keyword .constWord)) => .constKeyword
    | some (.word (.keyword .letWord)) => .letKeyword
    | _ => .varKeyword
  bump
  let word ← lastSpan
  let includesIn := kind ≠ .varKeyword || !inLoop
  let declarators ← iterate (fun taken => do
    if (← atEnd) || (← atMark .semicolon) then
      let span ← lastSpan
      note .trailingComma (if span = word then ⟨span.stop, span.stop⟩ else span)
      return .inr taken.reverse
    let d ← within (fun scope => { scope with allowsIn := includesIn || scope.allowsIn })
      (declarator g inLoop kind)
    if ← eatMark .comma then return .inl (d :: taken)
    return .inr (d :: taken).reverse) (← budget) ([] : List Declarator)
  if !inLoop then
    if !(← eatStatementEnd) then skipStatement g
  return .mk (← since start) kind declarators

/-- `let` comes next and declares variables. -/
def atLet : Parse Bool :=
  both (atKeyword .letWord) (return (← peek?).any (·.token.followsLet))

/-! ### Loops -/

/-- The head of a loop after its first semicolon. -/
def loopSteps (g : Grammar) (init : ForHead) : Parse LoopHead := do
  let test ←
    if ← eatMark .semicolon then pure none
    else do
      let test ← withIn (expression g)
      expectMark .semicolon
      pure (some test)
  let update ← if ← atMark .rightParen then pure none else do pure (some (← withIn (expression g)))
  return .steps init test update

/-- The head of a loop from `in` or `of` on. -/
def loopOver (g : Grammar) (left : ForHead) : Parse LoopHead := do
  let isOf ← atName "of"
  bump
  let right ← withIn (if isOf then g.assignment else expression g)
  return .over isOf left right

/-- `in` or `of` comes next. -/
def atOver : Parse Bool := seesOne [.word (.keyword .inWord), .word (.name "of")]

/-- The head of a loop. -/
def loopHead (g : Grammar) : Parse LoopHead := do
  if (← seesOne [.word (.keyword .constWord), .word (.keyword .varWord)]) || (← atLet) then
    let decl ← varDecl g true
    if !(← atOver) then
      expectMark .semicolon
      return ← loopSteps g (.var decl)
    match decl.declarators with
    | [d] => if d.init.isSome then note .initializedLoopVariable d.target.span
    | ds => ds.tail.forM fun d => note .severalLoopVariables d.target.span
    return ← loopOver g (.var decl)
  if ← eatMark .semicolon then return ← loopSteps g .none
  let init ← within ({ · with allowsIn := false }) (expression g)
  if ← atOver then
    let target ← g.toPattern .target init
    return ← loopOver g (.pattern target)
  expectMark .semicolon
  verify init
  loopSteps g (.expr init)

def forStatement (g : Grammar) : Parse Stmt := do
  let start ← position
  bump
  let awaitSpan ← if ← eatKeyword .await then pure (some (← lastSpan)) else pure none
  expectMark .leftParen
  let head ← within ({ · with inLoopHead := true, inAwaitLoopHead := awaitSpan.isSome })
    (loopHead g)
  expectMark .rightParen
  let body ← inLoop (g.statement false)
  let span ← since start
  match head with
  | .over true left right => return .forOf span awaitSpan.isSome left right body
  | .over false left right =>
    if let some at' := awaitSpan then failAt at' .awaitInPlainLoop
    return .forIn span left right body
  | .steps init test update =>
    if let some at' := awaitSpan then failAt at' .awaitInPlainLoop
    return .forLoop span init test update body

def whileStatement (g : Grammar) : Parse Stmt := do
  let start ← position
  bump
  let test ← parenthesized g
  let body ← inLoop (g.statement false)
  return .whileLoop (← since start) test body

def doStatement (g : Grammar) : Parse Stmt := do
  let start ← position
  bump
  let body ← inLoop (g.statement false)
  expect (.word (.keyword .whileWord))
  let test ← parenthesized g
  let _ ← eatStatementEnd
  return .doWhile (← since start) body test

/-! ### Jumps and labels -/

/-- The word `break` or `continue` and the label it goes to. -/
def jumpStatement : Parse Stmt := do
  let start ← position
  let isBreak ← atKeyword .breakWord
  bump
  let label ←
    if ← eatStatementEnd then pure none
    else do
      let id ← ident (!(← read).inGenerator)
      expectStatementEnd
      pure (some id)
  let span ← since start
  let scope ← read
  let labels := (← get).labels
  let isUnknown := label.any fun id => !labels.contains id.name
  if isBreak then
    if isUnknown then note .breakWithoutLabel span
    else if !scope.canBreak then note .breakOutsideLoop span
    return .breaks span label
  if !scope.canContinue then note .continueOutsideLoop span
  else if isUnknown then note .labelAcrossFunction span
  return .continues span label

/-- A statement after its label. -/
def labeled (g : Grammar) (label : Ident) : Parse Stmt :=
  within ({ · with canBreak := true }) do
    let repeated := (← get).labels.contains label.name
    modify fun s => { s with labels := s.labels ++ [label.name] }
    let body ←
      if ← atKeyword .function then do
        let decl ← functionDecl g
        if let .function _ _ fn := decl then
          note .labeledFunction fn.span
          if fn.isGenerator || fn.isAsync then note .labeledGeneratorOrAsync fn.span
        pure decl
      else g.statement false
    if repeated then note (.duplicateLabel label.name) label.span
    modify fun s => { s with labels := s.labels.erase label.name }
    return .labeled (← since label.span.start) label body

def returnStatement (g : Grammar) : Parse Stmt := do
  let start ← position
  let stmt ← attempt do
    bump
    let arg ← if ← atStatementEnd then pure none else do pure (some (← withIn (expression g)))
    expectStatementEnd
    return .returns (← since start) arg
  if !(← read).inFunction then note .returnOutsideFunction (← since start)
  match stmt with
  | .ok stmt => return stmt
  | .error fault => throw fault

def throwStatement (g : Grammar) : Parse Stmt := do
  let start ← position
  bump
  if ← lineBefore then fail .lineBreakAfterThrow
  let arg ← withIn (expression g)
  expectStatementEnd
  return .throws (← since start) arg

/-! ### Choices -/

def ifStatement (g : Grammar) : Parse Stmt := do
  let start ← position
  bump
  let test ← parenthesized g
  let yes ← g.statement false
  let no ← if ← eatKeyword .elseWord then do pure (some (← g.statement false)) else pure none
  return .ifElse (← since start) test yes no

/-- The statements of a case. -/
def caseBody (g : Grammar) : Parse (List Stmt) :=
  collect do
    let stops := (← atEnd) ||
      (← seesOne [.word (.keyword .caseWord), .word (.keyword .defaultWord), .mark .rightBrace])
    if stops then return none else return some (← g.statement true)

/-- The cases of a switch. -/
def switchCases (g : Grammar) : Parse (List SwitchCase) := do
  iterate (fun (taken, hasDefault) => do
    let start ← position
    let isCase ← atKeyword .caseWord
    if !isCase && !(← atKeyword .defaultWord) then return .inr taken.reverse
    bump
    let test ← if isCase then do pure (some (← withIn (expression g))) else pure none
    if !isCase && hasDefault then fail .severalDefaults
    expectMark .colon
    let body ← caseBody g
    return .inl (.mk (← since start) test body :: taken, hasDefault || !isCase))
    (← budget) (([] : List SwitchCase), false)

def switchStatement (g : Grammar) : Parse Stmt := do
  let start ← position
  bump
  let value ← parenthesized g
  expectMark .leftBrace
  let cases ← within ({ · with canBreak := true }) (switchCases g)
  expectMark .rightBrace
  return .switch (← since start) value cases

/-- What happens when a block throws. -/
def catchClause (g : Grammar) : Parse (Option CatchClause) := do
  let start ← position
  if !(← eatKeyword .catchWord) then return none
  let param ←
    if ← eatMark .leftParen then do
      let p ← g.bindingPattern false
      expectMark .rightParen
      pure (some p)
    else pure none
  let body ← block g
  return some (.mk (← since start) param body)

/-- What happens after a block in any case. -/
def finallyBlock (g : Grammar) : Parse (Option Block) := do
  if ← eatKeyword .finallyWord then return some (← block g) else return none

def tryStatement (g : Grammar) : Parse Stmt := do
  let start ← position
  bump
  let body ← block g
  let after ← position
  let handler ← catchClause g
  let finalizer ← finallyBlock g
  if handler.isNone && finalizer.isNone then note .semicolonExpected ⟨after, after⟩
  return .tryCatch (← since start) body handler finalizer

/-- A `catch` or `finally` without a `try`. -/
def strayHandler (g : Grammar) : Parse Stmt := do
  let span ← here
  note .semicolonExpected span
  let _ ← attempt (catchClause g)
  let _ ← attempt (finallyBlock g)
  return .expr span (.invalid span)

def withStatement (g : Grammar) : Parse Stmt := do
  let start ← position
  note .withStatement (← here)
  bump
  let value ← parenthesized g
  let body ← within ({ · with inFunction := true }) (g.statement false)
  return .withScope (← since start) value body

/-! ### Any statement -/

/-- An expression, or a label when a colon follows a name. -/
def expressionStatement (g : Grammar) : Parse Stmt := do
  let start ← position
  let e ← withIn (expression g)
  match e with
  | .name id => if ← eatMark .colon then return ← labeled g id
  | _ => verify e
  if ← eatStatementEnd then return .expr (← since start) e
  if let some (.operator _) ← token? then
    note .semicolonExpected (← here)
    let e ← g.binaryTail e 0
    return .expr (← since start) e
  fail .statementEndExpected

/-- An expression that waits, with the operators after it. -/
def awaitStatement (g : Grammar) : Parse Stmt := do
  let start ← position
  let e ← g.binaryTail (← awaitExpr g) 0
  let _ ← eatStatementEnd
  return .expr (← since start) e

/-- The token after the word `import` makes it an expression. -/
def peeksImportExpr : Parse Bool :=
  return (← peek?).any fun l => [.mark .leftParen, .mark .dot].contains l.token

/-- `import` as an expression. -/
def importStatement (g : Grammar) : Parse Stmt := do
  let start ← position
  let e ← expression g
  let _ ← eatStatementEnd
  return .expr (← since start) e

/-- A class that has a name, as a statement. -/
def classDecl (g : Grammar) : Parse Stmt := do
  let (name, cls) ← classRest g true
  return .classDecl cls.span (name.getD ⟨"", cls.span⟩) cls

/-- A statement that is neither an import nor an export; `declares` tells whether it may be a
declaration. -/
def ownStatement (g : Grammar) (declares : Bool) : Parse Stmt := do
  let start ← position
  match ← required with
  | .word (.keyword k) =>
    match k with
    | .await => if declares then return ← awaitStatement g
    | .breakWord | .continueWord => return ← jumpStatement
    | .debugger =>
      bump
      expectStatementEnd
      return .debugger (← since start)
    | .doWord => return ← doStatement g
    | .forWord => return ← forStatement g
    | .function =>
      if !declares then note .declarationNotAllowed (← here)
      return ← functionDecl g
    | .classWord =>
      if !declares then note .declarationNotAllowed (← here)
      return ← classDecl g
    | .ifWord => return ← ifStatement g
    | .returnWord => return ← returnStatement g
    | .switch => return ← switchStatement g
    | .throwWord => return ← throwStatement g
    | .catchWord | .finallyWord => return ← strayHandler g
    | .tryWord => return ← tryStatement g
    | .withWord => return ← withStatement g
    | .whileWord => return ← whileStatement g
    | .varWord => return .var (← varDecl g false)
    | .constWord => if declares then return .var (← varDecl g false)
    | .letWord => if ← both (pure declares) atLet then return .var (← varDecl g false)
    | _ => pure ()
  | .mark .leftBrace => return .block (← block g)
  | .mark .semicolon =>
    bump
    return .empty (← since start)
  | _ => pure ()
  if ← atAsyncFunction then return ← functionDecl g
  expressionStatement g

/-- A statement that is not an item of the module. -/
def statement (g : Grammar) (declares : Bool) : Parse Stmt := do
  if ← seesOne [.word (.keyword .importWord), .word (.keyword .exportWord)] then
    if ← both (atKeyword .importWord) peeksImportExpr then return ← importStatement g
    fail .importOutsideModule
  ownStatement g declares

end Parse

end Playground.Script
