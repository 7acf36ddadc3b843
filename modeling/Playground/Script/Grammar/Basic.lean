import Playground.Script.Lexer

/-! The ground that the grammar stands on: a `Parse` looks at the tokens of a text one or two at a
time, in a `Scope` that says what surrounds it, and notes what is wrong as it goes. A step that
fails keeps the state it had reached, because some rules go on from there. -/

namespace Playground.Script

/-- Words that cannot name a variable. Modules are strict, so the ones that only strict code
reserves are among them. -/
def Word.isReserved : Word → Bool
  | .keyword _ | .null | .bool _ => true
  | .name s =>
    ["enum", "implements", "package", "protected", "interface", "private", "public"].contains s

/-- What surrounds the text that is being read. -/
structure Scope where
  inFunction : Bool := false
  /-- Inside a function that is no arrow. -/
  inOwnFunction : Bool := false
  inAsync : Bool := false
  inGenerator : Bool := false
  inParams : Bool := false
  inClass : Bool := false
  inField : Bool := false
  /-- Members of `super` can be named. -/
  hasSuper : Bool := false
  canBreak : Bool := false
  canContinue : Bool := false
  /-- The operator `in` can be used. -/
  allowsIn : Bool := false
  inLoopHead : Bool := false
  inAwaitLoopHead : Bool := false

/-- How far a text has been read. The token that is next is read when it is first looked at. -/
structure Progress where
  reader : Reader
  /-- The length of the text in bytes. -/
  size : Nat
  current : Option Lexeme := none
  following : Option Lexeme := none
  /-- Where the last token that was taken stands. -/
  lastSpan : Span := ⟨0, 0⟩
  labels : List String := []
  /-- Where an arrow function may begin. -/
  arrowStart : Option Nat := none
  /-- The commas that end a list, by the start of the list. -/
  trailingCommas : List (Nat × Span) := []
  /-- Properties with an initializer that no pattern has made sense of. -/
  initialized : List Span := []

abbrev Parse := ReaderT Scope (EStateM Fault Progress)

namespace Parse

/-! ### Looking at tokens -/

/-- The next token. -/
def current? : Parse (Option Lexeme) := do
  let s ← get
  match s.current, s.following with
  | some l, _ => return some l
  | none, some l =>
    set { s with current := some l, following := none }
    return some l
  | none, none =>
    let (l, reader) := s.reader.next Word.isReserved
    set { s with current := l, reader }
    return l

def token? : Parse (Option Token) := return (← current?).map (·.token)

/-- The token after the next one. -/
def peek? : Parse (Option Lexeme) := do
  let _ ← current?
  let s ← get
  match s.following with
  | some l => return some l
  | none =>
    let (l, reader) := s.reader.next Word.isReserved
    set { s with following := l, reader }
    return l

/-- Takes the next token. -/
def bump : Parse Unit := do
  if let some l ← current? then
    modify fun s => { s with current := none, lastSpan := l.span }

/-- Where the next token stands if it has been looked at, and otherwise where the last one does. -/
def here : Parse Span := do
  let s ← get
  return (s.current.map (·.span)).getD s.lastSpan

/-- Where the next token starts; at the end of the text, where the last one stops. -/
def position : Parse Nat := do
  match ← current? with
  | some l => return l.span.start
  | none => return (← get).lastSpan.stop

def lastSpan : Parse Span := return (← get).lastSpan

/-- From `start` to the end of the last token. -/
def since (start : Nat) : Parse Span := return ⟨start, (← lastSpan).stop⟩

/-- The name of the next token in a message. -/
def described : Parse String := do
  match ← current? with
  | some l => return l.token.describe
  | none => return "<eof>"

/-- One more step than there are bytes: enough for any loop that takes a token each time. -/
def budget : Parse Nat := return (← get).size + 2

/-! ### Faults -/

def push (fault : Fault) : Parse Unit :=
  modify fun s => { s with reader := { s.reader with faults := fault :: s.reader.faults } }

/-- If text that is no token comes next, notes what is wrong with it and passes over it. -/
def noteBadToken : Parse Unit := do
  if let some { token := .error fault, .. } ← current? then
    bump
    push fault

/-- Notes a fault and goes on. -/
def noteFault (fault : Fault) : Parse Unit := do
  noteBadToken
  push fault

def note (cause : Cause) (span : Span) : Parse Unit := noteFault ⟨cause, span⟩

/-- Stops with a fault. -/
def failAt (span : Span) (cause : Cause) : Parse α := do
  noteBadToken
  throw ⟨cause, span⟩

/-- Stops at the next token. -/
def fail (cause : Cause) : Parse α := do
  failAt (← here) cause

/-- Stops because the next token is not what is wanted. -/
def unexpected (wanted : String) : Parse α := do
  let got ← described
  fail (.unexpected got wanted)

/-- The next token, which has to be there and to be one. -/
def required : Parse Token := do
  match ← current? with
  | none =>
    let size := (← get).size
    throw ⟨.endOfText, ⟨size, size⟩⟩
  | some l =>
    if let .error fault := l.token then
      bump
      throw fault
    return l.token

/-- What a step gives, with the state it reaches either way. -/
def attempt (step : Parse α) : Parse (Except Fault α) := fun scope s =>
  match step scope s with
  | .ok a s' => .ok (.ok a) s'
  | .error fault s' => .ok (.error fault) s'

/-! ### Taking tokens -/

/-- The next token is this one. -/
def sees (t : Token) : Parse Bool := return (← current?).any (·.token = t)

/-- The next token is one of these. -/
def seesOne (ts : List Token) : Parse Bool := return (← current?).any (ts.contains ·.token)

def atMark (m : Mark) : Parse Bool := sees (.mark m)

def atKeyword (k : Keyword) : Parse Bool := sees (.word (.keyword k))

def atName (name : String) : Parse Bool := sees (.word (.name name))

/-- The token after the next one is this one. -/
def peeks (t : Token) : Parse Bool := return (← peek?).any (·.token = t)

/-- Both hold; the second is not looked at when the first does not. -/
def both (first second : Parse Bool) : Parse Bool := do
  if ← first then second else return false

/-- No token is left. -/
def atEnd : Parse Bool := return (← current?).isNone

/-- A name that can be bound comes next. -/
def atBindable : Parse Bool := do
  match ← current? with
  | some { token := .word w, .. } => return !w.isReserved
  | _ => return false

/-- Takes the token if it is next. -/
def eat (t : Token) : Parse Bool := do
  if ← sees t then
    bump
    return true
  else return false

def eatMark (m : Mark) : Parse Bool := eat (.mark m)

def eatKeyword (k : Keyword) : Parse Bool := eat (.word (.keyword k))

def eatName (name : String) : Parse Bool := eat (.word (.name name))

/-- Takes a token that has to be next. -/
def expect (t : Token) : Parse Unit := do
  if !(← eat t) then
    let got ← described
    fail (.expected t.describe got)

def expectMark (m : Mark) : Parse Unit := expect (.mark m)

/-- The next token is on another line than the last one, or there is none. -/
def lineBefore : Parse Bool := return ((← current?).map (·.lineBefore)).getD true

/-- The token after the next one is on another line, or there is none. -/
def lineBeforePeeked : Parse Bool := return ((← peek?).map (·.lineBefore)).getD true

/-- A statement can end here: a semicolon, a closing brace or the end of the text comes next, or a
line has ended. -/
def atStatementEnd : Parse Bool := do
  match ← current? with
  | none | some { token := .mark .semicolon, .. } | some { token := .mark .rightBrace, .. } =>
    return true
  | some l => return l.lineBefore

/-- Ends a statement, with the semicolon if there is one. -/
def eatStatementEnd : Parse Bool := do
  if ← eatMark .semicolon then return true
  atStatementEnd

def expectStatementEnd : Parse Unit := do
  if !(← eatStatementEnd) then
    let got ← described
    fail (.expected ";" got)

/-! ### Scopes and loops -/

/-- Reads in a changed scope. -/
def within (change : Scope → Scope) (step : Parse α) : Parse α := fun scope => step (change scope)

/-- Reads where `in` is an operator. -/
def withIn (step : Parse α) : Parse α := within ({ · with allowsIn := true }) step

/-- Reads the body of a function: labels and the marks of the text around it do not reach inside. -/
def inBody (step : Parse α) : Parse α := fun scope s =>
  let restore (s' : Progress) : Progress :=
    { s' with labels := s.labels, arrowStart := s.arrowStart, trailingCommas := s.trailingCommas }
  match step scope { s with labels := [], arrowStart := none, trailingCommas := [] } with
  | .ok a s' => .ok a (restore s')
  | .error fault s' => .error fault (restore s')

/-- Repeats a step that goes on with a new value or ends with a result. -/
def iterate (step : α → Parse (α ⊕ β)) : (fuel : Nat) → α → Parse β
  | 0, _ => fail .nestingTooDeep
  | fuel + 1, a => do
    match ← step a with
    | .inl a' => iterate step fuel a'
    | .inr b => return b

/-- Collects what a step gives until it gives nothing. -/
def collect (step : Parse (Option α)) : Parse (List α) := do
  iterate (fun taken => do
    match ← step with
    | some a => return .inl (a :: taken)
    | none => return .inr taken.reverse) (← budget) []

end Parse

/-- What an expression has to become when it turns out to be a pattern. -/
inductive PatternKind
  /-- The left side of an assignment. -/
  | target
  /-- A part of such a side. -/
  | targetPart
  /-- A parameter. -/
  | binding
  /-- A part of a parameter. -/
  | bindingPart
deriving DecidableEq, Repr

/-- The kind of the parts of a pattern. -/
def PatternKind.part : PatternKind → PatternKind
  | .target | .targetPart => .targetPart
  | .binding | .bindingPart => .bindingPart

/-- The rules that the others, and themselves, refer back to. Every rule of the grammar is a
function of these; the whole grammar is what is left when they are tied together. -/
structure Grammar where
  /-- An expression without commas. -/
  assignment : Parse Expr
  /-- An operand with what stands before and after it. -/
  unary : Parse Expr
  /-- The operators that follow an operand and hold tighter than a bound. -/
  binaryTail : Expr → Nat → Parse Expr
  /-- A member of an object, or a construction. -/
  memberOrNew : Parse Expr
  /-- An operand with its members and calls. -/
  operand : Parse Expr
  /-- A statement; `declares` tells whether it may be a declaration. -/
  statement : (declares : Bool) → Parse Stmt
  /-- A name or a pattern that binds names. -/
  bindingPattern : (forbidsLet : Bool) → Parse Pattern
  /-- Reads an expression again as a pattern. -/
  toPattern : PatternKind → Expr → Parse Pattern

end Playground.Script
