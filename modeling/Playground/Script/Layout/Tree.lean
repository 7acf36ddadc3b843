import Playground.Script.Layout.Page
import Playground.Script.Token

/-! How the nodes of a script are written. Literals and names keep their spelling, parentheses stay
where they were, and everything else follows one style. -/

namespace Playground.Script

open Write

/-- A name, with the comments before it. -/
def Ident.write (id : Ident) : Write Unit := do
  leading id.span.start
  put id.name

def StringLit.write (lit : StringLit) : Write Unit := do
  leading lit.span.start
  put lit.raw

def Literal.text : Literal → String
  | .null => "null"
  | .bool true => "true"
  | .bool false => "false"
  | .number raw | .bigint raw | .string _ raw => raw
  | .regex body flags => "/" ++ body ++ "/" ++ flags

/-- The text of a template with each end of line as one line feed. -/
def unifyLineEnds : List Char → List Char
  | '\r' :: '\n' :: cs => '\n' :: unifyLineEnds cs
  | '\r' :: cs => '\n' :: unifyLineEnds cs
  | c :: cs => c :: unifyLineEnds cs
  | [] => []

/-- A number that a dot would continue: only digits, and not of the older notation with a zero in
front. -/
def takesDot (raw : String) : Bool :=
  let ds := raw.toList.filter (· ≠ '_')
  ds.all Char.isDigit && !(2 ≤ ds.length && ds.head? = some '0')

/-- The operator would run into what follows it. -/
def UnaryOp.needsSpace (op : UnaryOp) (arg : Expr) : Bool :=
  match op, arg with
  | .typeOf, _ | .void, _ | .delete, _ => true
  | .plus, .unary _ .plus _ | .plus, .update _ true true _ => true
  | .minus, .unary _ .minus _ | .minus, .update _ false true _ => true
  | _, _ => false

/-- A node between the comments before it and, if they come with it, those after it. -/
def Write.framed (span : Span) (trails : Bool) (w : Write Unit) : Write Unit := do
  leading span.start
  w
  if trails then trailing span.stop

/-- A statement with the end of its line. -/
def Write.line (span : Span) (ends : Bool) (w : Write Unit) : Write Unit := do
  framed span ends w
  if ends then newline

/-- The braces of a list of statements or members. -/
def Write.braces (stop : Nat) (cs : List Child) : Write Unit := do
  put "\x7b"
  if cs.isEmpty && !(← get).comments.hasLeading (stop - 1) then put "\x7d"
  else
    newline
    stacked cs
    newline
    leading (stop - 1)
    put "\x7d"

def Stmt.isBlock : Stmt → Bool
  | .block _ => true
  | _ => false

/-- The array ends with an element left out. -/
def endsInHole (es : List Expr) : Bool :=
  match es.getLast? with
  | some .hole => true
  | _ => false

/-- The dot before the name of a member, with the comments before it. -/
def Write.dot (name : Span) : Write Unit := do
  leading (name.start - 1)
  put "."

mutual

/-- Writes an expression; `trails` tells whether the comments after it come with it. -/
def Expr.write (trails : Bool) (e : Expr) : Write Unit := do
  leading e.span.start
  match e with
  | .name id => put id.name
  | .this _ => put "this"
  | .literal _ value => put value.text
  | .template _ texts exprs =>
    put "`"
    Expr.writeHoles texts exprs
    put "`"
  | .tagged _ tag text =>
    tag.write true
    text.write false
  | .array span elements =>
    put "["
    if !elements.isEmpty then
      newline
      indented do
        separated span.stop newline (Expr.children elements)
        if endsInHole elements then put ", "
      newline
    put "]"
  | .hole => pure ()
  | .spread _ arg =>
    put "..."
    arg.write true
  | .object span properties =>
    put "\x7b"
    if properties.isEmpty then
      if (← get).comments.hasLeading (span.stop - 1) then newline
    else onLines span.stop (Property.children properties)
    put "\x7d"
  | .function _ name fn =>
    if fn.isAsync then put "async "
    put (if fn.isGenerator then "function*" else "function")
    if let some id := name then
      space
      id.write
    fn.write
  | .arrowExpr span isAsync params body =>
    if isAsync then put "async "
    put "("
    onOneLine span.stop (Pattern.children params)
    put ")=>"
    indented (body.write true)
  | .arrowBlock span isAsync params body =>
    if isAsync then put "async "
    put "("
    onOneLine span.stop (Pattern.children params)
    put ")=>"
    body.write
  | .classExpr _ name cls =>
    put "class"
    if let some id := name then
      space
      id.write
    cls.write
  | .unary _ op arg =>
    put op.text
    if op.needsSpace arg then space
    arg.write true
  | .update _ isIncrement isBefore arg =>
    let mark := if isIncrement then "++" else "--"
    if isBefore then
      put mark
      arg.write true
    else
      arg.write true
      put mark
  | .binary _ op left right =>
    left.write true
    put (" " ++ op.text ++ " ")
    right.write true
  | .assign _ op target value =>
    target.write false
    put (" " ++ op.text ++ " ")
    value.write true
  | .cond _ test yes no =>
    test.write true
    put " ? "
    yes.write true
    put " : "
    no.write true
  | .seq span items => onOneLine span.stop (Expr.children items)
  | .paren _ inner =>
    put "("
    inner.write true
    put ")"
  | .member _ owner key =>
    match owner with
    | .literal span (.number raw) =>
      leading span.start
      put raw
      match key with
      | .name _ | .privateName .. =>
        if takesDot raw then
          leading (key.span.start - 2)
          put "."
        dot key.span
      | _ => pure ()
    | _ =>
      owner.write true
      match key with
      | .name _ | .privateName .. => dot key.span
      | _ => pure ()
    key.write
  | .chainMember _ isOptional owner key =>
    owner.write true
    if isOptional then put "?."
    else
      match key with
      | .name _ | .privateName .. => put "."
      | _ => pure ()
    key.write
  | .call span callee args =>
    callee.write true
    put "("
    onOneLine span.stop (Expr.children args)
    put ")"
  | .chainCall span isOptional callee args =>
    callee.write true
    put (if isOptional then "?.(" else "(")
    onOneLine span.stop (Expr.children args)
    put ")"
  | .construct span callee hasArgs args =>
    put "new "
    callee.write true
    if hasArgs then
      put "("
      onOneLine span.stop (Expr.children args)
      put ")"
  | .yield _ isDelegate arg =>
    put (if isDelegate then "yield*" else "yield")
    match arg with
    | some value =>
      space
      value.write true
    | none => pure ()
  | .await _ arg =>
    put "await "
    arg.write true
  | .newTarget _ => put "new.target"
  | .importMeta _ => put "import.meta"
  | .superRef _ => put "super"
  | .importRef _ phase => do
    put "import"
    if let some name := phase.name? then
      put "."
      put name
  | .privateName _ name => put ("#" ++ name)
  | .invalid _ => pure ()
  if trails then trailing e.span.stop
termination_by structural e

def Expr.children : List Expr → List Child
  | [] => []
  | e :: es => ⟨e.span.stop, e.write true⟩ :: Expr.children es
termination_by structural x => x

/-- The texts of a template with the expressions between them. -/
def Expr.writeHoles : List String → List Expr → Write Unit
  | text :: texts, e :: es => do
    put (String.ofList (unifyLineEnds text.toList))
    put "$\x7b"
    e.write true
    put "\x7d"
    Expr.writeHoles texts es
  | text :: _, [] => put (String.ofList (unifyLineEnds text.toList))
  | [], _ => return
termination_by structural _ es => es

def Key.write (k : Key) : Write Unit := do
  leading k.span.start
  match k with
  | .name id => put id.name
  | .privateName _ name => put ("#" ++ name)
  | .string lit => put lit.raw
  | .number _ raw | .bigint _ raw => put raw
  | .computed _ e =>
    put "["
    e.write true
    put "]"
termination_by structural k

def Property.write (p : Property) : Write Unit := do
  leading p.span.start
  match p with
  | .shorthand id => put id.name
  | .pair key value =>
    key.write
    put ": "
    value.write true
  | .initialized _ id value =>
    id.write
    put " = "
    value.write true
  | .method key fn =>
    if fn.isAsync then put "async "
    if fn.isGenerator then put "*"
    key.write
    space
    fn.write
  | .getter _ key body =>
    put "get "
    key.write
    put " () "
    body.write
  | .setter _ key param body =>
    put "set "
    key.write
    put " ("
    param.write true
    put ")"
    body.write
  | .spread _ arg =>
    put "..."
    arg.write true
termination_by structural p

def Property.children : List Property → List Child
  | [] => []
  | p :: ps => ⟨p.span.stop, p.write⟩ :: Property.children ps
termination_by structural x => x

/-- Writes a pattern; `trails` tells whether the comments after it come with it. -/
def Pattern.write (trails : Bool) : Pattern → Write Unit
  | .name id => framed id.span trails (put id.name)
  | .array span elements => framed span trails do
    put "["
    onOneLine span.stop (Pattern.children elements)
    put "]"
  | .hole => return
  | .object span properties => framed span trails do
    if properties.isEmpty then put "\x7b\x7d"
    else
      put "\x7b "
      onOneLine span.stop (PatternProperty.children properties)
      put " \x7d"
  | .rest span arg => framed span trails do
    put "..."
    arg.write true
  | .default span target value => framed span trails do
    target.write true
    put " = "
    value.write true
  | .target e => e.write trails
  | .invalid _ => return
termination_by structural x => x

def Pattern.children : List Pattern → List Child
  | [] => []
  | p :: ps => ⟨p.span.stop, p.write true⟩ :: Pattern.children ps
termination_by structural x => x

def PatternProperty.write (p : PatternProperty) : Write Unit := do
  leading p.span.start
  match p with
  | .pair key value =>
    key.write
    put ": "
    value.write true
  | .name _ id value =>
    id.write
    match value with
    | some e =>
      put " = "
      e.write true
    | none => pure ()
  | .rest _ arg =>
    put "..."
    arg.write true
termination_by structural p

def PatternProperty.children : List PatternProperty → List Child
  | [] => []
  | p :: ps => ⟨p.span.stop, p.write⟩ :: PatternProperty.children ps
termination_by structural x => x

/-- The parameters and the body of a function. -/
def Func.write : Func → Write Unit
  | .mk span _ _ params body => do
    put "("
    onOneLine span.stop (Pattern.children params)
    put ") "
    body.write
termination_by structural x => x

/-- What follows the name of a class. -/
def ClassBody.write : ClassBody → Write Unit
  | .mk _ parent members => do
    match parent with
    | some e =>
      put " extends "
      e.write true
    | none => pure ()
    put " \x7b"
    newline
    stacked (ClassMember.children members)
    newline
    put "\x7d"
termination_by structural x => x

def ClassMember.write (m : ClassMember) : Write Unit := do
  leading m.span.start
  match m with
  | .constructor span key params body =>
    key.write
    put "("
    onOneLine span.stop (Pattern.children params)
    put ")"
    body.write
  | .method _ isStatic kind key fn =>
    leading key.span.start
    if isStatic then put "static "
    if fn.isAsync then put "async "
    if fn.isGenerator then put "*"
    match kind with
    | .plain => pure ()
    | .getter => put "get "
    | .setter => put "set "
    key.write
    fn.write
  | .field _ isStatic key value =>
    if isStatic then put "static "
    key.write
    match value with
    | some e =>
      put " = "
      e.write true
    | none => pure ()
    put ";"
  | .staticBlock _ body =>
    put "static"
    body.write
  | .empty _ => put ";"
termination_by structural m

def ClassMember.children : List ClassMember → List Child
  | [] => []
  | m :: ms => ⟨m.span.stop, m.write⟩ :: ClassMember.children ms
termination_by structural x => x

def Block.write : Block → Write Unit
  | .mk span body => do
    leading span.start
    braces span.stop (Stmt.children body)
termination_by structural x => x

/-- Writes a statement; `ends` tells whether the comments after it and the end of its line come with
it. A block has neither. -/
def Stmt.write (ends : Bool) : Stmt → Write Unit
  | .block body => body.write
  | .expr span e => line span ends do
    e.write true
    put ";"
  | .empty span => line span ends (put ";")
  | .var decl => line decl.span ends do
    decl.write
    put ";"
  | .function span name fn => line span ends do
    if fn.isAsync then put "async "
    put (if fn.isGenerator then "function* " else "function ")
    name.write
    fn.write
  | .classDecl span name cls => line span ends do
    put "class "
    name.write
    cls.write
  | .ifElse span test yes no => line span ends do
    put "if ("
    test.write true
    put ") "
    yes.write true
    match no with
    | some other =>
      if yes.isBlock then space
      put "else "
      other.write true
    | none => pure ()
  | .forLoop span init test update body => line span ends do
    put "for("
    init.write
    put ";"
    match test with
    | some e =>
      space
      e.write true
    | none => pure ()
    put ";"
    match update with
    | some e =>
      space
      e.write true
    | none => pure ()
    put ")"
    body.write true
  | .forIn span head value body => line span ends do
    put "for("
    head.write
    put " in "
    value.write true
    put ")"
    body.write true
  | .forOf span isAwait head value body => line span ends do
    put (if isAwait then "for await (" else "for (")
    head.write
    put " of "
    value.write true
    put ")"
    body.write true
  | .whileLoop span test body => line span ends do
    put "while("
    test.write true
    put ")"
    body.write true
  | .doWhile span body test => line span ends do
    put "do "
    body.write true
    put "while ("
    test.write true
    put ")"
  | .withScope span value body => line span ends do
    put "with("
    value.write true
    put ")"
    body.write true
  | .returns span arg => line span ends do
    put "return"
    match arg with
    | some e =>
      space
      e.write true
    | none => pure ()
    put ";"
  | .breaks span label => line span ends do
    put "break"
    if let some id := label then
      space
      id.write
    put ";"
  | .continues span label => line span ends do
    put "continue"
    if let some id := label then
      space
      id.write
    put ";"
  | .throws span arg => line span ends do
    put "throw "
    arg.write true
    put ";"
  | .tryCatch span body handler finalizer => line span ends do
    put "try "
    body.write
    match handler with
    | some clause =>
      space
      clause.write
    | none => pure ()
    match finalizer with
    | some last =>
      put " finally"
      last.write
    | none => pure ()
  | .switch span value cases => line span ends do
    put "switch("
    value.write true
    put ")\x7b"
    newline
    stacked (SwitchCase.children cases)
    newline
    put "\x7d"
  | .labeled span label body => line span ends do
    label.write
    put ": "
    body.write true
  | .debugger span => line span ends (put "debugger;")
termination_by structural x => x

def Stmt.children : List Stmt → List Child
  | [] => []
  | s :: ss => ⟨s.span.stop, s.write true⟩ :: Stmt.children ss
termination_by structural x => x

def ForHead.write : ForHead → Write Unit
  | .none => return
  | .var decl => decl.write
  | .pattern target => target.write true
  | .expr e => e.write true
termination_by structural x => x

def VarDecl.write : VarDecl → Write Unit
  | .mk span kind declarators => do
    leading span.start
    put kind.text
    space
    onOneLine span.stop (Declarator.children declarators)
termination_by structural x => x

def Declarator.write : Declarator → Write Unit
  | .mk span target init => do
    leading span.start
    target.write true
    match init with
    | some e =>
      put " = "
      e.write true
    | none => pure ()
termination_by structural x => x

def Declarator.children : List Declarator → List Child
  | [] => []
  | d :: ds => ⟨d.span.stop, d.write⟩ :: Declarator.children ds
termination_by structural x => x

def SwitchCase.write : SwitchCase → Write Unit
  | .mk span test body => do
    leading span.start
    match test with
    | some e =>
      put "case "
      e.write true
    | none => put "default"
    put ":"
    stacked (Stmt.children body)
termination_by structural x => x

def SwitchCase.children : List SwitchCase → List Child
  | [] => []
  | c :: cs => ⟨c.span.stop, c.write⟩ :: SwitchCase.children cs
termination_by structural x => x

def CatchClause.write : CatchClause → Write Unit
  | .mk span param body => do
    leading span.start
    put "catch "
    match param with
    | some p =>
      put "("
      p.write true
      put ")"
    | none => pure ()
    space
    body.write
termination_by structural x => x

end

end Playground.Script
