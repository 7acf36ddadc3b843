import Playground.Script.Grammar.Function

/-! Classes and their members. -/

namespace Playground.Script.Parse

/-- The key of a class member. -/
def memberKey (g : Grammar) : Parse Key := do
  if ← atMark .hash then
    let (span, name) ← privateName
    if name == "constructor" then note .privateConstructor span
    return .privateName span name
  else key g

/-- The key of the member that constructs. -/
def isConstructorKey : Key → Bool
  | .name id => id.name == "constructor"
  | .string lit => lit.value == "constructor"
  | _ => false

/-- A field ends here; `line` tells whether the end of a line counts. -/
def atFieldEnd (line : Bool) : Parse Bool := do
  if ← seesOne [.assign .plain, .mark .rightBrace, .mark .semicolon] then return true
  if line then atStatementEnd else return false

/-- The value of a field and its end. -/
def field (g : Grammar) (start : Nat) (isStatic : Bool) (name : Key) : Parse ClassMember := do
  if isConstructorKey name then failAt name.span .constructorField
  within ({ · with allowsIn := true, inField := true }) do
    let value ← if ← eat (.assign .plain) then pure (some (← g.assignment)) else pure none
    if !(← eatStatementEnd) then note .semicolonExpected (← here)
    return .field (← since start) isStatic name value

/-- Parameters and body of a method. -/
def method (g : Grammar) (start : Nat) (isStatic : Bool) (kind : MethodKind) (name : Key)
    (ps : Parse (List Pattern)) (isAsync isGenerator : Bool) : Parse ClassMember := do
  let fn ← inMethod (functionRest g start ps isAsync isGenerator)
  return .method (← since start) isStatic kind name fn

/-- Parameters and body of a constructor. -/
def constructor (g : Grammar) (start : Nat) (name : Key) : Parse ClassMember := do
  expectMark .leftParen
  let ps ← params g
  expectMark .rightParen
  let body ← withIn (functionBlock g false false false ps)
  return .constructor (← since start) name ps body

/-- A block that runs when the class is made. -/
def staticBlock (g : Grammar) (start : Nat) : Parse ClassMember := do
  let body ← within ({ · with inField := true }) (block g)
  return .staticBlock (← since start) body

/-- A member after `static`, if there was one. -/
def memberRest (g : Grammar) (start : Nat) (isStatic : Bool) : Parse ClassMember := do
  if isStatic && (← atMark .leftBrace) then return ← staticBlock g start
  if ← eat (.operator .mul) then
    let name ← memberKey g
    if !isStatic && isConstructorKey name then note .constructorGenerator (← since start)
    return ← method g start isStatic .plain name (params g) false true
  let name ← memberKey g
  if ← atMark .leftParen then
    if !isStatic && isConstructorKey name then return ← constructor g start name
    return ← method g start isStatic .plain name (params g) false false
  let nextLineStar := (← lineBefore) && (← sees (.operator .mul))
  let accessor ← match name with
    | .name id =>
      if id.name == "get" || id.name == "set" then
        if (← atFieldEnd false) || nextLineStar then pure none else pure (some id.name)
      else pure none
    | _ => pure none
  if accessor.isNone && (← atFieldEnd true) then return ← field g start isStatic name
  if let .name id := name then
    if id.name == "async" && !(← lineBefore) then
      let isGenerator ← eat (.operator .mul)
      let name ← memberKey g
      if !isStatic && isConstructorKey name then failAt name.span .constructorAsync
      return ← method g start isStatic .plain name (params g) true isGenerator
  match accessor with
  | none => unexpected "* for generator, private key, identifier or async"
  | some word =>
    let wordSpan := name.span
    let name ← memberKey g
    if !isStatic && isConstructorKey name then note .constructorAccessor wordSpan
    if word == "get" then method g start isStatic .getter name (getterParams g wordSpan) false false
    else method g start isStatic .setter name (setterParams g wordSpan) false false

/-- A member of a class. -/
def classMember (g : Grammar) : Parse ClassMember := do
  let start ← position
  if !(← eatName "static") then return ← memberRest g start false
  let word : Key := .name ⟨"static", ← lastSpan⟩
  if ← atMark .leftParen then return ← method g start false .plain word (params g) false false
  if ← atFieldEnd false then return ← field g start false word
  memberRest g start true

/-- The members of a class up to its closing brace. -/
def classMembers (g : Grammar) : Parse (List ClassMember) := do
  iterate (fun (taken, constructed) => do
    if (← atEnd) || (← atMark .rightBrace) then return .inr taken.reverse
    if ← eatMark .semicolon then return .inl (.empty (← lastSpan) :: taken, constructed)
    let m ← within ({ · with hasSuper := true }) (classMember g)
    match m with
    | .constructor span .. =>
      if constructed then note .severalConstructors span
      return .inl (m :: taken, true)
    | _ => return .inl (m :: taken, constructed)) (← budget) (([] : List ClassMember), false)

/-- The operand after `extends`. -/
def parent (g : Grammar) : Parse (Option Expr) := do
  if !(← eatKeyword .extendsWord) then return none
  let first ← g.operand
  if ← eatKeyword .extendsWord then
    note .severalParents (← lastSpan)
    let _ ← g.operand
  return some first

/-- A class from its keyword on. -/
def classRest (g : Grammar) (isNamed : Bool) : Parse (Option Ident × ClassBody) :=
  within ({ · with inClass := true }) do
    let start ← position
    bump
    let name ← bindingIdent? isNamed true
    let parent ← parent g
    expectMark .leftBrace
    let members ← classMembers g
    if ← atEnd then note (.expected "\x7d" "<eof>") (← here) else expectMark .rightBrace
    return (name, .mk (← since start) parent members)

end Playground.Script.Parse
