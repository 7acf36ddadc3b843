import Playground.Script.Grammar.Class

/-! Operands: literals, templates, arrays, and what parentheses enclose, which may be an expression
or the parameters of an arrow function. -/

namespace Playground.Script

/-- The value of an expression is a function without a name of its own scope. -/
def Expr.isArrow : Expr → Bool
  | .arrowExpr .. | .arrowBlock .. => true
  | _ => false

namespace Parse

/-- Expressions between commas. -/
def expression (g : Grammar) : Parse Expr := do
  let first ← g.assignment
  if !(← atMark .comma) then return first
  let others ← collect do
    if ← eatMark .comma then return some (← g.assignment) else return none
  return .seq (← since first.span.start) (first :: others)

/-- An argument or an element: an expression, or three dots and one. -/
def exprOrSpread (g : Grammar) : Parse Expr := do
  let start ← position
  if ← eatMark .ellipsis then
    let arg ← withIn g.assignment
    return .spread ⟨start, arg.span.stop⟩ arg
  g.assignment

/-- An array literal. -/
def array (g : Grammar) : Parse Expr := do
  let start ← position
  bump
  let elements ← collect do
    if (← atEnd) || (← atMark .rightBracket) then return none
    if ← eatMark .comma then return some .hole
    let e ← withIn (exprOrSpread g)
    if !(← atMark .rightBracket) then
      expectMark .comma
      if ← atMark .rightBracket then
        let comma ← lastSpan
        modify fun s => { s with trailingCommas := (start, comma) :: s.trailingCommas }
    return some e
  expectMark .rightBracket
  return .array (← since start) elements

/-- The arguments of a call. -/
def arguments (g : Grammar) (ofImport : Bool) : Parse (List Expr) := do
  let start ← position
  expectMark .leftParen
  let args ← iterate (fun (taken, isFirst) => do
    if (← atEnd) || (← atMark .rightParen) then return .inr taken.reverse
    if !isFirst then
      expectMark .comma
      if ← atMark .rightParen then
        if ofImport then failAt (← since start) .commaInImport
        return .inr taken.reverse
    let arg ← withIn (exprOrSpread g)
    return .inl (arg :: taken, false)) (← budget) (([] : List Expr), true)
  expectMark .rightParen
  return args

/-! ### Literals -/

/-- A piece of a template's text; the second component tells whether it is the last. -/
def templateText (isTagged : Bool) : Parse (String × Bool) := do
  let .template raw bad ← required | unexpected "template token"
  bump
  if let some fault := bad then
    if !isTagged then throw fault
  return (raw, ← atMark .backquote)

/-- A template literal. -/
def template (g : Grammar) (isTagged : Bool) : Parse Expr := do
  let start ← position
  bump
  let (first, isLast) ← templateText isTagged
  let (texts, exprs) ← iterate (fun (texts, exprs, isLast) => do
    if isLast then return .inr (texts.reverse, exprs.reverse)
    expectMark .dollarBrace
    let e ← withIn (expression g)
    expectMark .rightBrace
    let (text, isLast) ← templateText isTagged
    return .inl (text :: texts, e :: exprs, isLast)) (← budget) ([first], ([] : List Expr), isLast)
  expectMark .backquote
  return .template (← since start) texts exprs

/-- Notes flags that a regular expression does not have, or has twice. -/
def checkFlags (span : Span) (flags : List Char) : Parse Unit := do
  if flags.any fun c => !"dgimsuvy".toList.contains c then note .unknownRegexFlags span
  if let some flag := flags.find? fun c => 1 < flags.count c then
    note (.duplicateRegexFlag flag) span

/-- A regular expression; the slash was read as an operator and is next. -/
def regex : Parse Expr := do
  let start ← position
  let slash := (← current?).map fun l => (⟨l.text, l.span.start⟩ : Cursor)
  bump
  modify fun s => { s with reader := { s.reader with regexFrom := slash } }
  match ← token? with
  | some (.regex body flags) =>
    modify fun s => { s with reader := { s.reader with regexFrom := none } }
    bump
    let span ← since start
    checkFlags span flags.toList
    return .literal span (.regex body flags)
  | _ => fail .expressionExpected

/-- A literal that is a single token. -/
def literal (value : Literal) : Parse Expr := do
  let start ← position
  bump
  return .literal (← since start) value

/-! ### Arrow functions -/

/-- A function makes its own sense of the properties inside it. -/
def closeFunction (e : Expr) : Parse Expr := do
  let span := e.span
  modify fun s => { s with
    initialized := s.initialized.filter fun i => i.start < span.start || span.stop < i.stop }
  return e

/-- The body of an arrow function that begins at `start`. -/
def arrowRest (g : Grammar) (start : Nat) (isAsync : Bool) (ps : List Pattern) : Parse Expr := do
  if ← atMark .leftBrace then
    let body ← functionBlock g isAsync false true ps
    closeFunction (.arrowBlock (← since start) isAsync ps body)
  else
    let body ← within (Scope.body isAsync false true) (inBody g.assignment)
    closeFunction (.arrowExpr (← since start) isAsync ps body)

/-- What parentheses enclose, with the comma that ends it. -/
def parenItems (g : Grammar) : Parse (List Expr × Option Span) := do
  expectMark .leftParen
  let items ← iterate (fun (taken, trailing) => do
    if (← atEnd) || (← atMark .rightParen) then return .inr (taken.reverse, trailing)
    let start ← position
    modify fun s => { s with arrowStart := some start }
    let item ← withIn (exprOrSpread g)
    if ← atMark .rightParen then return .inl (item :: taken, trailing)
    expectMark .comma
    if ← atMark .rightParen then return .inl (item :: taken, some (← lastSpan))
    return .inl (item :: taken, trailing)) (← budget) (([] : List Expr), (none : Option Span))
  expectMark .rightParen
  return items

/-- Turns what parentheses enclose into parameters. -/
def itemsToParams (g : Grammar) (trailing : Option Span) : List Expr → Parse (List Pattern)
  | [] => return []
  | .spread span arg :: items => do
    if items.isEmpty then return [← restToPattern g .binding span arg trailing]
    note .restNotLast span
    itemsToParams g trailing items
  | item :: items => do
    let first ← g.toPattern .binding item
    return first :: (← itemsToParams g trailing items)

/-- Notes parameters with names that strict code may not bind. -/
def checkParamNames (ps : List Pattern) : Parse Unit :=
  (Pattern.boundIdentsOfAll ps).forM fun id => do
    if isUnbindable id.name then note .evalOrArguments id.span

/-- Notes the properties with an initializer in objects that are not going to be patterns. -/
def checkInitialized (items : List Expr) : Parse Unit :=
  items.forM fun item => do
    let properties := match item with
      | .object _ properties | .spread _ (.object _ properties) => properties
      | _ => []
    properties.forM fun p => do
      if let .initialized span .. := p then note .initializedProperty span

/-- Parentheses cannot enclose a spread. -/
def checkNoSpread (items : List Expr) : Parse Unit :=
  items.forM fun item => do
    if let .spread _ arg := item then failAt arg.span .spreadInParens

/-- An expression in parentheses or an arrow function. After `async`, whose span is given, it can be
a call too. -/
def parenOrArrow (g : Grammar) (mayBeArrow : Bool) (asyncSpan : Option Span) : Parse Expr := do
  let start ← match asyncSpan with
    | some span => pure span.start
    | none => position
  let (items, trailing) ← withIn (parenItems g)
  if ← atMark .arrow then
    if ← lineBefore then fail .lineBreakBeforeArrow
    if !mayBeArrow then fail .arrowNotAllowed
    bump
    let ps ← itemsToParams g trailing items
    checkParamNames ps
    let arrow ← arrowRest g start asyncSpan.isSome ps
    if let .arrowBlock .. := arrow then
      if let some { token := .operator _, .. } ← current? then
        note .semicolonExpected (← here)
        let e ← g.binaryTail arrow 0
        if !(← atStatementEnd) then note .semicolonExpected (← here)
        return e
    return arrow
  checkInitialized items
  if let some span := asyncSpan then
    return .call (← since start) (.name ⟨"async", span⟩) items
  match items with
  | [] => failAt (← since start) .emptyParens
  | [item] =>
    checkNoSpread items
    return .paren (← since start) item
  | first :: others =>
    checkNoSpread items
    let last := (others.getLast?).getD first
    return .paren (← since start) (.seq (first.span.to last.span) items)

/-- A name, or an arrow function whose only parameter it is. -/
def nameOrArrow (g : Grammar) (mayBeArrow : Bool) : Parse Expr := do
  let start ← position
  let id ← ident (!(← read).inGenerator)
  if !mayBeArrow then return .name id
  if ← lineBefore then return .name id
  if id.name == "async" && (← atBindable) then
    let atOf := (← read).inLoopHead && (← atName "of")
    if ← both (pure atOf) (return !(← peeks (.mark .arrow))) then
      if !(← read).inAwaitLoopHead then note .asyncLoopVariable (← lastSpan)
      return .name id
    let param ← bindingIdent false
    expectMark .arrow
    return ← arrowRest g start true [.name param]
  if ← eatMark .arrow then
    if isUnbindable id.name then note .evalOrArguments id.span
    return ← arrowRest g start false [.name id]
  return .name id

/-! ### Operands -/

/-- A function as an operand. -/
def functionExpr (g : Grammar) : Parse Expr := do
  let (name, fn) ←
    if ← atName "async" then asyncFunction g true false else function g none true false
  closeFunction (.function fn.span name fn)

/-- An operand by itself. -/
def primary (g : Grammar) : Parse Expr := do
  let start ← position
  let mayBeArrow := (← get).arrowStart == some start
  match ← token? with
  | some (.word (.keyword .this)) =>
    bump
    return .this (← since start)
  | some (.word (.keyword .function)) => functionExpr g
  | some (.word (.keyword .classWord)) =>
    let (name, cls) ← classRest g false
    return .classExpr cls.span name cls
  | some (.word (.keyword .letWord)) => nameOrArrow g mayBeArrow
  | some (.word .null) => literal .null
  | some (.word (.bool value)) => literal (.bool value)
  | some (.number raw) => literal (.number raw)
  | some (.bigint raw) => literal (.bigint raw)
  | some (.string value raw) => literal (.string value raw)
  | some (.operator .div) | some (.assign (.combined .div)) => regex
  | some (.mark .leftBracket) => array g
  | some (.mark .leftBrace) => object g
  | some (.mark .backquote) => template g false
  | some (.mark .leftParen) => parenOrArrow g mayBeArrow none
  | some (.mark .hash) =>
    bump
    let id ← anyName
    return .privateName (← since start) id.name
  | some (.word w) =>
    if w.isReserved then fail .expressionExpected
    if ← atAsyncFunction then return ← functionExpr g
    let mayBeAsync := w = .name "async" && mayBeArrow
    if ← both (pure mayBeAsync)
        (both (peeks (.mark .leftParen)) (return !(← lineBeforePeeked))) then
      bump
      return ← parenOrArrow g true (some (← lastSpan))
    nameOrArrow g mayBeArrow
  | _ => fail .expressionExpected

end Parse

end Playground.Script
