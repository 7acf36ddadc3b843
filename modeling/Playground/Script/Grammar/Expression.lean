import Playground.Script.Grammar.Primary

/-! Expressions: members and calls, operators before, after and between operands, and
assignments. -/

namespace Playground.Script

/-- Reached through an optional member or call. -/
def Expr.isChain : Expr → Bool
  | .chainMember .. | .chainCall .. => true
  | _ => false

/-- Expressions that the left side of an assignment can hold on to. -/
def Expr.isPlace : Expr → Bool
  | .name _ | .member .. | .paren .. | .chainMember .. | .chainCall .. | .invalid _ => true
  | _ => false

namespace Parse

/-! ### Members and calls -/

/-- A member of `super` needs a method around it. -/
def checkSuper (owner : Expr) : Parse Unit := do
  if let .superRef span := owner then
    if !(← read).hasSuper then failAt span .invalidSuper

/-- One more member, call or template after an operand that starts at `start`; the operand itself
when there is none. -/
def subscript (g : Grammar) (start : Nat) (mayCall : Bool) (owner : Expr) :
    Parse (Expr ⊕ Expr) := do
  let isOptional ← both (atMark .question) (peeks (.mark .dot))
  if isOptional then bump
  let isChain := isOptional || owner.isChain
  if ← both (pure isOptional) (peeks (.mark .leftBracket)) then bump
  if ← eatMark .leftBracket then
    let bracket := (← lastSpan).start
    let e ← withIn (expression g)
    expectMark .rightBracket
    let key := Key.computed (← since bracket) e
    checkSuper owner
    let span ← since start
    return .inl (if isChain then .chainMember span isOptional owner key else .member span owner key)
  let isOptionalCall ← both (pure isOptional) (peeks (.mark .leftParen))
  if isOptionalCall then bump
  if isOptionalCall || (mayCall && (← atMark .leftParen)) then
    let isImport := match owner with
      | .importRef .. => true
      | _ => false
    let args ← arguments g isImport
    let span ← since start
    if !isChain then return .inl (.call span owner args)
    match owner with
    | .superRef _ | .importRef .. => fail .superCallOptional
    | _ => return .inl (.chainCall span isOptional owner args)
  if ← eatMark .dot then
    let key ← memberName
    checkSuper owner
    let span ← since start
    return .inl (if isChain then .chainMember span isOptional owner key else .member span owner key)
  match owner with
  | .superRef _ => fail .invalidSuper
  | .importRef .. => fail .invalidImport
  | _ =>
    if ← atMark .backquote then
      let text ← template g true
      let span ← since start
      if owner.isChain then note .templateAfterOptional span
      return .inl (.tagged span owner text)
    return .inr owner

/-- The members, calls and templates after an operand. -/
def subscripts (g : Grammar) (mayCall : Bool) (owner : Expr) : Parse Expr := do
  iterate (subscript g owner.span.start mayCall) (← budget) owner

/-- What follows the word `import` in an expression. -/
def importExpr (g : Grammar) (start : Nat) (mayCall : Bool) : Parse Expr := do
  if !(← eatMark .dot) then return ← subscripts g mayCall (.importRef (← since start) .evaluation)
  let id ← anyName
  if id.name == "meta" then return ← subscripts g mayCall (.importMeta (← since start))
  let some phase := ImportPhase.ofName? id.name | unexpected "meta"
  subscripts g mayCall (.importRef (← since start) phase)

/-- A construction after its keyword. -/
def construction (g : Grammar) (start : Nat) : Parse Expr := do
  if ← eatMark .dot then
    if !(← eatName "target") then unexpected "target"
    let span ← since start
    let scope ← read
    if !scope.inOwnFunction && !scope.inParams && !scope.inClass then
      note .newTargetOutsideFunction span
    return ← subscripts g false (.newTarget span)
  let callee ← g.memberOrNew
  if callee.isArrow then return callee
  match callee with
  | .member _ owner _ => if owner.isChain then failAt owner.span .constructOptional
  | _ => if callee.isChain then failAt callee.span .constructOptional
  if ← atMark .leftParen then
    let args ← arguments g false
    return ← subscripts g false (.construct (← since start) callee true args)
  return .construct (← since start) callee false []

/-- A member of an object or a construction, without calls. -/
def memberOrNew (g : Grammar) : Parse Expr := do
  let start ← position
  if ← eatKeyword .new then return ← construction g start
  if ← eatKeyword .super then return ← subscripts g false (.superRef (← since start))
  if ← eatKeyword .importWord then return ← importExpr g start false
  let e ← primary g
  if e.isArrow then return e
  subscripts g false e

/-- An operand with its members and calls. -/
def operand (g : Grammar) : Parse Expr := do
  let start ← position
  if ← eatKeyword .super then return ← subscripts g true (.superRef (← since start))
  if ← eatKeyword .importWord then return ← importExpr g start true
  let callee ← memberOrNew g
  if callee.isArrow then return callee
  if let .construct _ _ false _ := callee then return callee
  if !(← atMark .leftParen) then return callee
  let args ← arguments g false
  let span ← since start
  subscripts g true
    (if callee.isChain then .chainCall span false callee args else .call span callee args)

/-! ### Operators -/

/-- The operator that a token is before an operand. -/
def unaryOp? : Token → Option UnaryOp
  | .word (.keyword .delete) => some .delete
  | .word (.keyword .void) => some .void
  | .word (.keyword .typeOf) => some .typeOf
  | .operator .add => some .plus
  | .operator .sub => some .minus
  | .mark .tilde => some .complement
  | .mark .bang => some .not
  | _ => none

/-- Waiting for an operand. -/
def awaitExpr (g : Grammar) : Parse Expr := do
  let start ← position
  bump
  if ← sees (.operator .mul) then fail .awaitStar
  let span ← since start
  if (← seesOne [.mark .rightParen, .mark .rightBracket, .mark .comma]) || (← atStatementEnd) then
    failAt span .awaitAsName
  let scope ← read
  if scope.inFunction && !scope.inAsync then note .awaitInFunction (← here)
  if scope.inParams && !scope.inFunction then note .awaitInParams span
  let arg ← g.unary
  return .await (← since start) arg

/-- An operand with the operators before it, or with the one after it. -/
def unary (g : Grammar) : Parse Expr := do
  let start ← position
  if ← seesOne [.mark .increment, .mark .decrement] then
    let isIncrement ← atMark .increment
    bump
    let arg ← g.unary
    checkTarget arg
    return .update ⟨start, arg.span.stop⟩ isIncrement true arg
  if let some op := (← token?).bind unaryOp? then
    bump
    let argStart := (← position) - 1
    let arg ← match ← attempt g.unary with
      | .ok arg => pure arg
      | .error fault =>
        noteFault fault
        pure (.invalid ⟨argStart, argStart⟩)
    if let (.delete, .name id) := (op, arg) then note .deleteOfName id.span
    return .unary ⟨start, arg.span.stop⟩ op arg
  if ← atKeyword .await then return ← awaitExpr g
  let e ← operand g
  if e.isArrow then return e
  if ← lineBefore then return e
  if ← seesOne [.mark .increment, .mark .decrement] then
    checkTarget e
    let isIncrement ← atMark .increment
    bump
    return .update (← since e.span.start) isIncrement false e
  return e

/-- The operator that a token is between operands. -/
def binaryOp? (allowsIn : Bool) : Token → Option BinaryOp
  | .word (.keyword .inWord) => if allowsIn then some .isIn else none
  | .word (.keyword .instanceOf) => some .instanceOf
  | .operator op => some op
  | _ => none

def Expr.isLogical : Expr → Bool
  | .binary _ .and _ _ | .binary _ .or _ _ => true
  | _ => false

/-- Notes a choice between values mixed with logical operators. -/
def checkCoalescing (op : BinaryOp) (span : Span) (left right : Expr) : Parse Unit := do
  if op = .coalesce then
    if Expr.isLogical left then note .mixedCoalescing left.span
    if Expr.isLogical right then note .mixedCoalescing right.span
  if op = .and || op = .or then
    if let .binary _ .coalesce _ _ := left then note .mixedCoalescing span

/-- The operators that follow an operand and hold tighter than `bound`. -/
def binaryTail (g : Grammar) (left : Expr) (bound : Nat) : Parse Expr := do
  iterate (fun left => do
    let some op := (← token?).bind (binaryOp? (← read).allowsIn) | return .inr left
    if op.precedence ≤ bound then return .inr left
    bump
    match op, left with
    | .exp, .unary .. | .exp, .await .. => fail .unaryBeforePower
    | _, _ => pure ()
    let first ← g.unary
    let right ← g.binaryTail first (if op = .exp then op.precedence - 1 else op.precedence)
    let span := left.span.to right.span
    checkCoalescing op span left right
    return .inl (.binary span op left right)) (← budget) left

/-- Operands with operators between them. An operator whose left operand is missing is noted. -/
def binary (g : Grammar) : Parse Expr := do
  match ← attempt g.unary with
  | .ok left => if left.isArrow then return left else g.binaryTail left 0
  | .error fault =>
    if (binaryOp? (← read).allowsIn (← required)).isNone then throw fault
    note .expressionExpected (← here)
    g.binaryTail (.invalid fault.span) 0

/-- A choice between two expressions. -/
def conditional (g : Grammar) : Parse Expr := do
  let start ← position
  let test ← binary g
  if test.isArrow then return test
  if !(← eatMark .question) then return test
  let yes ← withIn g.assignment
  expectMark .colon
  let no ← g.assignment
  return .cond ⟨start, no.span.stop⟩ test yes no

/-- A value that a generator hands out. -/
def yieldExpr (g : Grammar) : Parse Expr := do
  let start ← position
  bump
  let scope ← read
  if scope.inParams && !scope.inFunction then failAt (← lastSpan) .yieldInParams
  let mayStart := match ← token? with
    | some (.operator .mul) | some (.operator .div) | some (.assign (.combined .div)) => true
    | some t => t.startsExpr
    | none => true
  if (← atStatementEnd) || !mayStart then return .yield (← since start) false none
  let isDelegate ← eat (.operator .mul)
  let arg ← g.assignment
  return .yield (← since start) isDelegate (some arg)

/-- The left side of an assignment. -/
def assignTarget (g : Grammar) (op : AssignOp) (e : Expr) : Parse Pattern := do
  let target ←
    if op = .plain then g.toPattern .target e
    else do
      if !e.isSimpleTarget then note .cannotAssign e.span
      pure (asPlace e)
  if let .target place := target then
    if !place.isPlace then failAt place.span .invalidTarget
  return target

/-- An expression without commas. -/
def assignment (g : Grammar) : Parse Expr := do
  if (← read).inGenerator && (← atKeyword .yield) then return ← yieldExpr g
  let mayBeArrow := match ← required with
    | .word (.name _) | .mark .leftParen | .word (.keyword .yield) => true
    | _ => false
  let start ← position
  modify fun s => { s with arrowStart := if mayBeArrow then some start else none }
  let e ← conditional g
  match e with
  | .arrowExpr .. | .arrowBlock .. | .cond .. | .binary .. | .unary .. | .update .. => return e
  | _ =>
    let some (.assign op) ← token? | return e
    let target ← assignTarget g op e
    bump
    let value ← g.assignment
    return .assign (← since start) op target value

/-- Notes the properties with an initializer that are left in an expression. -/
def verify (e : Expr) : Parse Unit := do
  let span := e.span
  let (inside, others) := (← get).initialized.partition
    fun i => span.start ≤ i.start && i.stop ≤ span.stop
  modify fun s => { s with initialized := others }
  inside.forM (note .initializedProperty)

end Parse

end Playground.Script
