/-! The syntax tree of a script: expressions, binding patterns, statements, functions, classes and
the items of a module. Every node carries the span of text it was read from, which ties it to the
comments around it. -/

namespace Playground.Script

/-- The bytes from `start` up to, and not including, `stop`. -/
structure Span where
  start : Nat
  stop : Nat
deriving DecidableEq, Repr, Inhabited

/-- A name as it was meant, with escapes decoded. -/
structure Ident where
  name : String
  span : Span
deriving DecidableEq, Repr, Inhabited

/-- A string literal, with its value and the text it was written with. -/
structure StringLit where
  span : Span
  value : String
  raw : String
deriving DecidableEq, Repr

/-- A literal value. Numbers and strings keep the text they were written with. -/
inductive Literal
  | null
  | bool (value : Bool)
  | number (raw : String)
  | bigint (raw : String)
  | string (value raw : String)
  | regex (body flags : String)
deriving DecidableEq, Repr

/-- Operators that stand before their operand. -/
inductive UnaryOp
  | minus | plus | not | complement | typeOf | void | delete
deriving DecidableEq, Repr

/-- Operators between two operands. -/
inductive BinaryOp
  | eq | ne | strictEq | strictNe | lt | le | gt | ge
  | shiftLeft | shiftRight | shiftRightZero
  | add | sub | mul | div | mod | exp
  | bitOr | bitXor | bitAnd | or | and | coalesce
  | isIn | instanceOf
deriving DecidableEq, Repr

/-- Assignment, plain or combined with an operator. -/
inductive AssignOp
  | plain
  | combined (op : BinaryOp)
deriving DecidableEq, Repr

/-- The keyword of a variable declaration. -/
inductive VarKind
  | varKeyword | letKeyword | constKeyword
deriving DecidableEq, Repr

/-- How far an import takes the other module: its bindings once it has run, the module as it was
loaded, or its bindings with the run put off until one of them is used. -/
inductive ImportPhase
  | evaluation | source | defer
deriving DecidableEq, Repr

/-- The word for a phase; evaluation has none. -/
def ImportPhase.name? : ImportPhase → Option String
  | .evaluation => none
  | .source => some "source"
  | .defer => some "defer"

def ImportPhase.ofName? (name : String) : Option ImportPhase :=
  [ImportPhase.source, .defer].find? (·.name? == some name)

/-- What a class method is. -/
inductive MethodKind
  | plain | getter | setter
deriving DecidableEq, Repr

mutual

inductive Expr
  | name (id : Ident)
  | this (span : Span)
  | literal (span : Span) (value : Literal)
  /-- One more piece of text than expressions; texts are as written. -/
  | template (span : Span) (texts : List String) (exprs : List Expr)
  | tagged (span : Span) (tag template : Expr)
  | array (span : Span) (elements : List Expr)
  /-- An array element left out. -/
  | hole
  | spread (span : Span) (arg : Expr)
  | object (span : Span) (properties : List Property)
  | function (span : Span) (name : Option Ident) (fn : Func)
  | arrowExpr (span : Span) (isAsync : Bool) (params : List Pattern) (body : Expr)
  | arrowBlock (span : Span) (isAsync : Bool) (params : List Pattern) (body : Block)
  | classExpr (span : Span) (name : Option Ident) (cls : ClassBody)
  | unary (span : Span) (op : UnaryOp) (arg : Expr)
  | update (span : Span) (increment before : Bool) (arg : Expr)
  | binary (span : Span) (op : BinaryOp) (left right : Expr)
  | assign (span : Span) (op : AssignOp) (target : Pattern) (value : Expr)
  | cond (span : Span) (test yes no : Expr)
  | seq (span : Span) (items : List Expr)
  | paren (span : Span) (inner : Expr)
  | member (span : Span) (object : Expr) (key : Key)
  /-- A member reached by `?.`, or through a chain that has one. -/
  | chainMember (span : Span) (optional : Bool) (object : Expr) (key : Key)
  | call (span : Span) (callee : Expr) (args : List Expr)
  | chainCall (span : Span) (optional : Bool) (callee : Expr) (args : List Expr)
  /-- A construction; the parentheses are kept apart from the arguments because they can be left
  out. -/
  | construct (span : Span) (callee : Expr) (hasArgs : Bool) (args : List Expr)
  | yield (span : Span) (delegate : Bool) (arg : Option Expr)
  | await (span : Span) (arg : Expr)
  | newTarget (span : Span)
  | importMeta (span : Span)
  /-- `super`, as the object of a member or the callee of a call. -/
  | superRef (span : Span)
  /-- `import`, as the callee of a call. -/
  | importRef (span : Span) (phase : ImportPhase)
  | privateName (span : Span) (name : String)
  /-- Stands where an expression could not be read. -/
  | invalid (span : Span)

/-- The name of a property, a class member or a member access. -/
inductive Key
  | name (id : Ident)
  | privateName (span : Span) (name : String)
  | string (lit : StringLit)
  | number (span : Span) (raw : String)
  | bigint (span : Span) (raw : String)
  | computed (span : Span) (expr : Expr)

inductive Property
  | shorthand (id : Ident)
  | pair (key : Key) (value : Expr)
  /-- `a = b`, which has a meaning only once the object is read as a pattern. -/
  | initialized (span : Span) (id : Ident) (value : Expr)
  | method (key : Key) (fn : Func)
  | getter (span : Span) (key : Key) (body : Block)
  | setter (span : Span) (key : Key) (param : Pattern) (body : Block)
  | spread (span : Span) (arg : Expr)

inductive Pattern
  | name (id : Ident)
  | array (span : Span) (elements : List Pattern)
  /-- An array element left out. -/
  | hole
  | object (span : Span) (properties : List PatternProperty)
  | rest (span : Span) (arg : Pattern)
  | default (span : Span) (target : Pattern) (value : Expr)
  /-- An expression that can be assigned to. -/
  | target (expr : Expr)
  | invalid (span : Span)

inductive PatternProperty
  | pair (key : Key) (value : Pattern)
  | name (span : Span) (id : Ident) (default : Option Expr)
  | rest (span : Span) (arg : Pattern)

/-- The part of a function that every way of writing one shares. -/
inductive Func
  | mk (span : Span) (isAsync isGenerator : Bool) (params : List Pattern) (body : Block)

inductive ClassBody
  | mk (span : Span) (parent : Option Expr) (members : List ClassMember)

inductive ClassMember
  | constructor (span : Span) (key : Key) (params : List Pattern) (body : Block)
  | method (span : Span) (isStatic : Bool) (kind : MethodKind) (key : Key) (fn : Func)
  | field (span : Span) (isStatic : Bool) (key : Key) (value : Option Expr)
  | staticBlock (span : Span) (body : Block)
  | empty (span : Span)

inductive Block
  | mk (span : Span) (body : List Stmt)

inductive Stmt
  | expr (span : Span) (expr : Expr)
  | block (block : Block)
  | empty (span : Span)
  | var (decl : VarDecl)
  | function (span : Span) (name : Ident) (fn : Func)
  | classDecl (span : Span) (name : Ident) (cls : ClassBody)
  | ifElse (span : Span) (test : Expr) (yes : Stmt) (no : Option Stmt)
  | forLoop (span : Span) (init : ForHead) (test update : Option Expr) (body : Stmt)
  | forIn (span : Span) (head : ForHead) (object : Expr) (body : Stmt)
  | forOf (span : Span) (isAwait : Bool) (head : ForHead) (object : Expr) (body : Stmt)
  | whileLoop (span : Span) (test : Expr) (body : Stmt)
  | doWhile (span : Span) (body : Stmt) (test : Expr)
  | withScope (span : Span) (object : Expr) (body : Stmt)
  | returns (span : Span) (arg : Option Expr)
  | breaks (span : Span) (label : Option Ident)
  | continues (span : Span) (label : Option Ident)
  | throws (span : Span) (arg : Expr)
  | tryCatch (span : Span) (body : Block) (handler : Option CatchClause) (finalizer : Option Block)
  | switch (span : Span) (value : Expr) (cases : List SwitchCase)
  | labeled (span : Span) (label : Ident) (body : Stmt)
  | debugger (span : Span)

/-- What stands before the first `;`, `in` or `of` of a `for` head. -/
inductive ForHead
  | none
  | var (decl : VarDecl)
  | pattern (target : Pattern)
  | expr (expr : Expr)

inductive VarDecl
  | mk (span : Span) (kind : VarKind) (declarators : List Declarator)

inductive Declarator
  | mk (span : Span) (target : Pattern) (init : Option Expr)

/-- A `case`, or `default` when there is no test. -/
inductive SwitchCase
  | mk (span : Span) (test : Option Expr) (body : List Stmt)

inductive CatchClause
  | mk (span : Span) (param : Option Pattern) (body : Block)

end

/-- A name that a module gives to, or takes from, another module. -/
inductive ExternalName
  | name (id : Ident)
  | string (lit : StringLit)
deriving DecidableEq, Repr

inductive ImportSpecifier
  /-- The default binding of the other module. -/
  | default (id : Ident)
  /-- The whole other module as one object. -/
  | star (span : Span) (id : Ident)
  | named (span : Span) (imported : Option ExternalName) (id : Ident)
deriving DecidableEq, Repr

inductive ExportSpecifier
  | star (span : Span) (exported : ExternalName)
  | named (span : Span) (own : ExternalName) (exported : Option ExternalName)
deriving DecidableEq, Repr

/-- An item of a module: a statement, an import or one of the forms of export. -/
inductive ModuleItem
  | stmt (stmt : Stmt)
  | importFrom (span : Span) (phase : ImportPhase) (specifiers : List ImportSpecifier)
      (source : StringLit)
  /-- An exported declaration: variables, a function or a class. -/
  | exportDecl (span : Span) (decl : Stmt)
  | exportNamed (span : Span) (specifiers : List ExportSpecifier) (source : Option StringLit)
  | exportAll (span : Span) (source : StringLit)
  | exportDefault (span : Span) (expr : Expr)
  | exportDefaultFunction (span : Span) (name : Option Ident) (fn : Func)
  | exportDefaultClass (span : Span) (name : Option Ident) (cls : ClassBody)

structure Module where
  span : Span
  /-- The text after `#!` on the first line. -/
  shebang : Option String
  items : List ModuleItem

/-- The span from the start of one span to the end of another. -/
def Span.to (first last : Span) : Span := ⟨first.start, last.stop⟩

/-- The span of an element that is not there. -/
def Span.absent : Span := ⟨0, 0⟩

def Func.span : Func → Span
  | .mk span .. => span

def Func.isAsync : Func → Bool
  | .mk _ isAsync .. => isAsync

def Func.isGenerator : Func → Bool
  | .mk _ _ isGenerator .. => isGenerator

def Block.span : Block → Span
  | .mk span _ => span

def ClassBody.span : ClassBody → Span
  | .mk span .. => span

def VarDecl.span : VarDecl → Span
  | .mk span .. => span

def VarDecl.declarators : VarDecl → List Declarator
  | .mk _ _ declarators => declarators

def Declarator.span : Declarator → Span
  | .mk span .. => span

def Expr.span : Expr → Span
  | .name id => id.span
  | .this span | .literal span _ | .template span .. | .tagged span .. | .array span _
  | .spread span _ | .object span _ | .function span .. | .arrowExpr span .. | .arrowBlock span ..
  | .classExpr span .. | .unary span .. | .update span .. | .binary span .. | .assign span ..
  | .cond span .. | .seq span _ | .paren span _ | .member span .. | .chainMember span ..
  | .call span .. | .chainCall span .. | .construct span .. | .yield span .. | .await span _
  | .newTarget span | .importMeta span | .superRef span | .importRef span _ | .privateName span _
  | .invalid span => span
  | .hole => .absent

def Key.span : Key → Span
  | .name id => id.span
  | .string lit => lit.span
  | .privateName span _ | .number span _ | .bigint span _ | .computed span _ => span

def Property.span : Property → Span
  | .shorthand id => id.span
  | .pair key value => key.span.to value.span
  | .method key fn => key.span.to fn.span
  | .initialized span .. | .getter span .. | .setter span .. | .spread span _ => span

def Pattern.span : Pattern → Span
  | .name id => id.span
  | .array span _ | .object span _ | .rest span _ | .default span .. | .invalid span => span
  | .hole => .absent
  | .target expr => expr.span

def PatternProperty.span : PatternProperty → Span
  | .pair key value => key.span.to value.span
  | .name span .. | .rest span _ => span

def ClassMember.span : ClassMember → Span
  | .constructor span .. | .method span .. | .field span .. | .staticBlock span _
  | .empty span => span

def Stmt.span : Stmt → Span
  | .block b => b.span
  | .var decl => decl.span
  | .expr span _ | .empty span | .function span .. | .classDecl span .. | .ifElse span ..
  | .forLoop span .. | .forIn span .. | .forOf span .. | .whileLoop span .. | .doWhile span ..
  | .withScope span .. | .returns span _ | .breaks span _ | .continues span _ | .throws span _
  | .tryCatch span .. | .switch span .. | .labeled span .. | .debugger span => span

def SwitchCase.span : SwitchCase → Span
  | .mk span .. => span

def ExternalName.span : ExternalName → Span
  | .name id => id.span
  | .string lit => lit.span

def ImportSpecifier.span : ImportSpecifier → Span
  | .default id => id.span
  | .star span _ | .named span .. => span

def ExportSpecifier.span : ExportSpecifier → Span
  | .star span _ | .named span .. => span

def ModuleItem.span : ModuleItem → Span
  | .stmt s => s.span
  | .importFrom span .. | .exportDecl span _ | .exportNamed span .. | .exportAll span _
  | .exportDefault span _ | .exportDefaultFunction span .. | .exportDefaultClass span .. => span

end Playground.Script
