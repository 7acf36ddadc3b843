import Playground.Script.Grammar.Basic

/-! Names: of variables, of members and of private members, and the keys of properties. -/

namespace Playground.Script.Parse

/-- Names that strict code sets aside. -/
def setAside : List String :=
  ["enum", "static", "implements", "interface", "package", "private", "protected", "public"]

/-- Words that are no variable's name in any code, strict or not. -/
def isKept (name : String) : Bool :=
  match Word.ofString name with
  | .keyword k => !([.letWord, .yield, .await] : List Keyword).contains k
  | .null | .bool _ => true
  | .name s => s == "enum" || s == "package"

/-- Names that strict code may use and not bind. -/
def isUnbindable (name : String) : Bool := name == "eval" || name == "arguments"

/-- Any word, as the name of a member. -/
def anyName : Parse Ident := do
  let start ← position
  let .word w ← required | fail .identExpected
  bump
  return ⟨w.text, ← since start⟩

/-- The name of a variable. -/
def ident (allowsYield : Bool) : Parse Ident := do
  let start ← position
  let .word w ← required | fail .identExpected
  bump
  let span ← lastSpan
  match w with
  | .keyword .yield | .keyword .letWord => note (.reservedInStrict w.text) span
  | .name s => if setAside.contains s then note (.reservedInStrict s) span
  | _ => pure ()
  match w with
  | .keyword .await => failAt span .awaitAsName
  | .keyword .letWord => pure ()
  | .keyword .yield => if !allowsYield then failAt span .identExpected
  | .name s => if s == "arguments" && (← read).inField then note .argumentsInField span
  | _ => failAt span .identExpected
  return ⟨w.text, ← since start⟩

/-- The name of a variable that is being declared. -/
def bindingIdent (forbidsLet : Bool) : Parse Ident := do
  if forbidsLet && (← atKeyword .letWord) then
    unexpected "let is reserved in const, let, class declaration"
  let id ← ident true
  if isUnbindable id.name then note .evalOrArguments id.span
  if (← read).inGenerator && id.name == "yield" then note .identExpected id.span
  return id

/-- The name of a declaration that may go without one. -/
def bindingIdent? (isRequired forbidsLet : Bool) : Parse (Option Ident) := do
  if isRequired || (← atBindable) then return some (← bindingIdent forbidsLet)
  return none

/-- A private name; the hash is next and touches the word. -/
def privateName : Parse (Span × String) := do
  let start ← position
  bump
  let hash ← lastSpan
  if (← position) ≠ hash.stop then failAt (← since start) .spaceAfterHash
  let id ← anyName
  return (← since start, id.name)

/-- The key of a property. -/
def key (g : Grammar) : Parse Key := do
  let start ← position
  match ← required with
  | .string value raw =>
    bump
    return .string ⟨← since start, value, raw⟩
  | .number raw =>
    bump
    return .number (← since start) raw
  | .bigint raw =>
    bump
    return .bigint (← since start) raw
  | .word w =>
    bump
    return .name ⟨w.text, ← since start⟩
  | .mark .leftBracket =>
    bump
    let expr ← withIn g.assignment
    expectMark .rightBracket
    return .computed (← since start) expr
  | _ => unexpected "identifier, string literal, numeric literal or [ for the computed key"

/-- The name of a member after a dot. -/
def memberName : Parse Key := do
  if ← atMark .hash then
    let (span, name) ← privateName
    return .privateName span name
  else return .name (← anyName)

end Playground.Script.Parse
