import Playground.Script.Grammar.Name

/-! Patterns: those that bind names, and those that an expression turns into once an assignment or
an arrow follows it. -/

namespace Playground.Script

/-- Expressions that stand for one place to assign to. -/
def Expr.isSimpleTarget : Expr → Bool
  | .name id => !Parse.isUnbindable id.name
  | .paren _ inner => inner.isSimpleTarget
  | .member _ owner _ =>
    match owner with
    | .member .. => owner.isSimpleTarget
    | .chainMember .. | .chainCall .. => false
    | _ => true
  | _ => false

mutual

/-- The names that a pattern binds, in order. -/
def Pattern.boundIdents : Pattern → List Ident
  | .name id => [id]
  | .array _ elements => Pattern.boundIdentsOfAll elements
  | .object _ properties => PatternProperty.boundIdentsOfAll properties
  | .rest _ arg => arg.boundIdents
  | .default _ target _ => target.boundIdents
  | .hole | .target _ | .invalid _ => []

def Pattern.boundIdentsOfAll : List Pattern → List Ident
  | [] => []
  | p :: ps => p.boundIdents ++ Pattern.boundIdentsOfAll ps

def PatternProperty.boundIdents : PatternProperty → List Ident
  | .pair _ value => value.boundIdents
  | .name _ id _ => [id]
  | .rest _ arg => arg.boundIdents

def PatternProperty.boundIdentsOfAll : List PatternProperty → List Ident
  | [] => []
  | p :: ps => p.boundIdents ++ PatternProperty.boundIdentsOfAll ps

end

namespace Parse

/-! ### Patterns that bind names -/

/-- The comma between the parts of a list; after a rest part the list has to end at once. -/
def listComma (close : Mark) (afterRest : Bool) : Parse Unit := do
  if !(← atMark close) then
    expectMark .comma
    if afterRest && (← atMark close) then note .commaAfterRest (← lastSpan)

/-- A pattern and the value it takes when there is none. -/
def bindingElement (g : Grammar) : Parse Pattern := do
  let start ← position
  let target ← g.bindingPattern false
  if ← eat (.assign .plain) then
    let value ← withIn g.assignment
    return .default (← since start) target value
  return target

/-- A pattern between brackets. -/
def arrayPattern (g : Grammar) : Parse Pattern := do
  let start ← position
  bump
  let elements ← iterate (fun (taken, rest) => do
    if (← atEnd) || (← atMark .rightBracket) then return .inr taken.reverse
    if ← eatMark .comma then return .inl (.hole :: taken, rest)
    if let some span := rest then note .restElementNotLast span
    let first ← position
    if ← eatMark .ellipsis then
      let arg ← g.bindingPattern false
      let span ← since first
      listComma .rightBracket true
      return .inl (.rest span arg :: taken, some span)
    let element ← bindingElement g
    listComma .rightBracket false
    return .inl (element :: taken, rest)) (← budget) (([] : List Pattern), (none : Option Span))
  expectMark .rightBracket
  return .array (← since start) elements

/-- A property of a pattern between braces. -/
def patternProperty (g : Grammar) : Parse PatternProperty := do
  let start ← position
  if ← eatMark .ellipsis then
    let arg ← g.bindingPattern false
    return .rest (← since start) arg
  let key ← key g
  if ← eatMark .colon then return .pair key (← bindingElement g)
  let .name id := key | unexpected "an identifier"
  if ← eat (.assign .plain) then
    let value ← withIn g.assignment
    return .name (← since start) id (some value)
  if (Word.ofString id.name).isReserved then note .reservedShorthand id.span
  return .name (← since start) id none

/-- Only the last property takes the rest, and under a name. -/
def checkRest (trailing : Option Span) : List PatternProperty → Parse Unit
  | [] => return
  | [.rest span arg] => do
    match arg with
    | .name _ => if let some comma := trailing then note .commaAfterRest comma
    | _ => failAt span .restNotIdent
  | [_] => return
  | p :: ps => do
    if let .rest span _ := p then note .restElementNotLast span
    checkRest trailing ps

/-- Properties up to the closing brace, with the comma that ends them. -/
def properties (property : Parse α) : Parse (List α × Option Span) := do
  iterate (fun (taken, trailing) => do
    if ← eatMark .rightBrace then return .inr (taken.reverse, trailing)
    let p ← property
    if ← atMark .rightBrace then return .inl (p :: taken, trailing)
    expectMark .comma
    if ← atMark .rightBrace then return .inl (p :: taken, some (← lastSpan))
    return .inl (p :: taken, trailing)) (← budget) (([] : List α), (none : Option Span))

/-- A pattern between braces. -/
def objectPattern (g : Grammar) : Parse Pattern := do
  let start ← position
  bump
  let (properties, trailing) ← properties (patternProperty g)
  let span ← since start
  checkRest trailing properties
  return .object span properties

/-- A name or a pattern that binds names. -/
def bindingPattern (g : Grammar) (forbidsLet : Bool) : Parse Pattern := do
  match ← required with
  | .word _ => return .name (← bindingIdent forbidsLet)
  | .mark .leftBracket => arrayPattern g
  | .mark .leftBrace => objectPattern g
  | _ => unexpected "yield, an identifier, [ or \x7b"

/-! ### Expressions read again as patterns -/

/-- Notes an expression that cannot be assigned to. -/
def checkTarget (e : Expr) : Parse Unit := do
  if !e.isSimpleTarget then note .targetNotSimple e.span

/-- An expression as the place it stands for. -/
def asPlace : Expr → Pattern
  | .name id => .name id
  | e => .target e

/-- A property with an initializer makes sense in a pattern. -/
def settleInitializer (span : Span) : Parse Unit :=
  modify fun s => { s with initialized := s.initialized.filter (· ≠ span) }

/-- Turns the last part of a list, which may take the rest, into a pattern. -/
def restToPattern (g : Grammar) (kind : PatternKind) (span : Span) (arg : Expr)
    (trailing : Option Span) : Parse Pattern := do
  if let .assign .. := arg then note .initializedRest span
  if let some comma := trailing then note .commaAfterRest comma
  return .rest span (← g.toPattern kind arg)

/-- Turns the elements of an array into patterns; `mayRest` tells whether the last one can take the
rest. -/
def elementsToPatterns (g : Grammar) (kind : PatternKind) (mayRest : Bool)
    (trailing : Option Span) : List Expr → Parse (List Pattern)
  | [] => return []
  | .hole :: es => return .hole :: (← elementsToPatterns g kind mayRest trailing es)
  | .spread span arg :: es => do
    if mayRest && es.isEmpty then return [← restToPattern g kind.part span arg trailing]
    note .restElementNotLast span
    let first ← g.toPattern kind.part arg
    return .rest span first :: (← elementsToPatterns g kind mayRest trailing es)
  | e :: es => do
    let first ← g.toPattern kind.part e
    return first :: (← elementsToPatterns g kind mayRest trailing es)

/-- Leaves out the holes that a list ends with. -/
def withoutLastHoles (es : List Expr) : List Expr :=
  (es.reverse.dropWhile fun e => match e with
    | .hole => true
    | _ => false).reverse

def propertiesToPatterns (g : Grammar) (kind : PatternKind) (trailing : Option Span) :
    List Property → Parse (List PatternProperty)
  | [] => return []
  | p :: ps => do
    let first : PatternProperty ← match p with
      | .shorthand id => pure (.name id.span id none)
      | .pair key value => do pure (.pair key (← g.toPattern kind.part value))
      | .initialized span id value => do
        settleInitializer span
        pure (.name span id (some value))
      | .spread span arg => do
        if !ps.isEmpty then note .restElementNotLast span
        else if let some comma := trailing then note .commaAfterRest comma
        let arg ← match kind.part, arg with
          | .bindingPart, .name id => pure (.name id)
          | .bindingPart, _ => do
            note .restNotIdent span
            pure (.invalid span)
          | part, e => g.toPattern part e
        if let .default .. := arg then note .initializedRest span
        pure (.rest span arg)
      | .method .. | .getter .. | .setter .. => failAt p.span .notPattern
    return first :: (← propertiesToPatterns g kind trailing ps)

/-- The comma that ends the list which begins at a position. -/
def trailingComma (start : Nat) : Parse (Option Span) :=
  return ((← get).trailingCommas.find? (·.1 == start)).map (·.2)

/-- Reads an expression of some shape again as a pattern. -/
def shapeToPattern (g : Grammar) (kind : PatternKind) (e : Expr) : Parse Pattern := do
  match e with
  | .name id => return .name id
  | .assign span .plain target value =>
    let target ← match target with
      | .name id => g.toPattern kind (.name id)
      | .target e => g.toPattern kind e
      | p => pure p
    return .default span target value
  | .object span properties =>
    return .object span (← propertiesToPatterns g kind (← trailingComma span.start) properties)
  | .array span elements =>
    let kept := withoutLastHoles elements
    let mayRest := kept.length = elements.length
    return .array span (← elementsToPatterns g kind mayRest (← trailingComma span.start) kept)
  | .yield span .. =>
    note (if (← read).inGenerator then .yieldInParams else .notPattern) span
    return .invalid span
  | _ =>
    note .notPattern e.span
    return .invalid e.span

/-- Reads an expression again as a pattern of a kind. -/
def toPattern (g : Grammar) (kind : PatternKind) (e : Expr) : Parse Pattern := do
  match kind, e with
  | _, .invalid span => return .invalid span
  | .target, .object .. | .target, .array .. => shapeToPattern g kind e
  | .target, _ =>
    checkTarget e
    return asPlace e
  | .targetPart, .array .. | .targetPart, .object .. | .targetPart, .assign .. =>
    shapeToPattern g kind e
  | .targetPart, .member .. | .targetPart, .call .. | .targetPart, .construct ..
  | .targetPart, .literal .. | .targetPart, .name _ | .targetPart, .function ..
  | .targetPart, .classExpr .. | .targetPart, .paren .. | .targetPart, .template .. =>
    if !e.isSimpleTarget then note .cannotAssign e.span
    return asPlace e
  | .targetPart, _ =>
    note .notPattern e.span
    shapeToPattern g kind e
  | _, _ => shapeToPattern g kind e

end Parse

end Playground.Script
