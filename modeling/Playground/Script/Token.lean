import Playground.Decimal
import Playground.Script.Fault

/-! The tokens of a script: words, marks, operators and literals, and the names by which messages
speak of them. -/

namespace Playground.Script

/-- The words that the grammar reserves. -/
inductive Keyword
  | await | breakWord | caseWord | catchWord | continueWord | debugger | defaultWord | doWord
  | elseWord | finallyWord | forWord | function | ifWord | returnWord | switch | throwWord | tryWord
  | varWord | letWord | constWord | whileWord | withWord | new | this | super | classWord
  | extendsWord | exportWord | importWord | yield | inWord | instanceOf | typeOf | void | delete
deriving DecidableEq, Repr

/-- Every keyword with its spelling. -/
def Keyword.table : List (Keyword × String) := [
  (.await, "await"), (.breakWord, "break"), (.caseWord, "case"), (.catchWord, "catch"),
  (.continueWord, "continue"), (.debugger, "debugger"), (.defaultWord, "default"), (.doWord, "do"),
  (.elseWord, "else"), (.finallyWord, "finally"), (.forWord, "for"), (.function, "function"),
  (.ifWord, "if"), (.returnWord, "return"), (.switch, "switch"), (.throwWord, "throw"),
  (.tryWord, "try"), (.varWord, "var"), (.letWord, "let"), (.constWord, "const"),
  (.whileWord, "while"), (.withWord, "with"), (.new, "new"), (.this, "this"), (.super, "super"),
  (.classWord, "class"), (.extendsWord, "extends"), (.exportWord, "export"),
  (.importWord, "import"), (.yield, "yield"), (.inWord, "in"), (.instanceOf, "instanceof"),
  (.typeOf, "typeof"), (.void, "void"), (.delete, "delete")]

def Keyword.ofString? (s : String) : Option Keyword :=
  (Keyword.table.find? (·.2 == s)).map (·.1)

def Keyword.text (k : Keyword) : String :=
  ((Keyword.table.find? (·.1 == k)).map (·.2)).getD ""

/-- Keywords after which an operand, not an operator, comes. -/
def Keyword.beforeExpr (k : Keyword) : Bool :=
  [.await, .caseWord, .defaultWord, .doWord, .elseWord, .returnWord, .throwWord, .new,
    .extendsWord, .yield, .inWord, .instanceOf, .typeOf, .void, .delete].contains k

/-- Keywords that an expression can begin with. -/
def Keyword.startsExpr (k : Keyword) : Bool :=
  [.await, .function, .new, .this, .super, .classWord, .importWord, .yield, .typeOf, .void,
    .delete].contains k

/-- A word: a keyword, one of the three literal words, or a name. -/
inductive Word
  | keyword (k : Keyword)
  | null
  | bool (value : Bool)
  | name (text : String)
deriving DecidableEq, Repr

def Word.ofString (s : String) : Word :=
  if s = "null" then .null
  else if s = "true" then .bool true
  else if s = "false" then .bool false
  else
    match Keyword.ofString? s with
    | some k => .keyword k
    | none => .name s

def Word.text : Word → String
  | .keyword k => k.text
  | .null => "null"
  | .bool true => "true"
  | .bool false => "false"
  | .name s => s

/-- Marks that are no operators. -/
inductive Mark
  | arrow | hash | atSign | dot | ellipsis | bang | tilde | leftParen | rightParen | leftBracket
  | rightBracket | leftBrace | rightBrace | semicolon | comma | backquote | colon | dollarBrace
  | question | increment | decrement
deriving DecidableEq, Repr

def Mark.text : Mark → String
  | .arrow => "=>"
  | .hash => "#"
  | .atSign => "@"
  | .dot => "."
  | .ellipsis => "..."
  | .bang => "!"
  | .tilde => "~"
  | .leftParen => "("
  | .rightParen => ")"
  | .leftBracket => "["
  | .rightBracket => "]"
  | .leftBrace => "\x7b"
  | .rightBrace => "\x7d"
  | .semicolon => ";"
  | .comma => ","
  | .backquote => "`"
  | .colon => ":"
  | .dollarBrace => "$\x7b"
  | .question => "?"
  | .increment => "++"
  | .decrement => "--"

def BinaryOp.text : BinaryOp → String
  | .eq => "=="
  | .ne => "!="
  | .strictEq => "==="
  | .strictNe => "!=="
  | .lt => "<"
  | .le => "<="
  | .gt => ">"
  | .ge => ">="
  | .shiftLeft => "<<"
  | .shiftRight => ">>"
  | .shiftRightZero => ">>>"
  | .add => "+"
  | .sub => "-"
  | .mul => "*"
  | .div => "/"
  | .mod => "%"
  | .exp => "**"
  | .bitOr => "|"
  | .bitXor => "^"
  | .bitAnd => "&"
  | .or => "||"
  | .and => "&&"
  | .coalesce => "??"
  | .isIn => "in"
  | .instanceOf => "instanceof"

/-- How tightly an operator holds its operands. -/
def BinaryOp.precedence : BinaryOp → Nat
  | .or | .coalesce => 1
  | .and => 2
  | .bitOr => 3
  | .bitXor => 4
  | .bitAnd => 5
  | .eq | .ne | .strictEq | .strictNe => 6
  | .lt | .le | .gt | .ge | .isIn | .instanceOf => 7
  | .shiftLeft | .shiftRight | .shiftRightZero => 8
  | .add | .sub => 9
  | .mul | .div | .mod => 10
  | .exp => 11

def AssignOp.text : AssignOp → String
  | .plain => "="
  | .combined op => op.text ++ "="

def UnaryOp.text : UnaryOp → String
  | .minus => "-"
  | .plus => "+"
  | .not => "!"
  | .complement => "~"
  | .typeOf => "typeof"
  | .void => "void"
  | .delete => "delete"

def VarKind.text : VarKind → String
  | .varKeyword => "var"
  | .letKeyword => "let"
  | .constKeyword => "const"

inductive Token
  | word (w : Word)
  | mark (m : Mark)
  | operator (op : BinaryOp)
  | assign (op : AssignOp)
  /-- A piece of a template's text; `bad` tells what is wrong with its escapes. -/
  | template (raw : String) (bad : Option Fault)
  | string (value raw : String)
  | number (raw : String)
  | bigint (raw : String)
  | regex (body flags : String)
  | shebang (text : String)
  /-- Text that is no token. -/
  | error (fault : Fault)
deriving DecidableEq, Repr

/-- The value of a digit in any base up to sixteen. -/
def digitValue? (c : Char) : Option Nat :=
  if '0' ≤ c && c ≤ '9' then some (c.toNat - '0'.toNat)
  else if 'a' ≤ c && c ≤ 'f' then some (c.toNat - 'a'.toNat + 10)
  else if 'A' ≤ c && c ≤ 'F' then some (c.toNat - 'A'.toNat + 10)
  else none

/-- The value of a digit of the given base. -/
def digitOf? (radix : Nat) (c : Char) : Option Nat :=
  (digitValue? c).filter (· < radix)

/-- The number that digits write; anything else among them is passed over. -/
def readDigits (radix : Nat) (cs : List Char) : Nat :=
  cs.foldl (fun n c => match digitOf? radix c with
    | some d => n * radix + d
    | none => n) 0

/-- The quotient that a number literal stands for. -/
def numberQuotient (raw : List Char) : Nat × Nat :=
  match raw.filter (· ≠ '_') with
  | '0' :: 'x' :: ds | '0' :: 'X' :: ds => (readDigits 16 ds, 1)
  | '0' :: 'o' :: ds | '0' :: 'O' :: ds => (readDigits 8 ds, 1)
  | '0' :: 'b' :: ds | '0' :: 'B' :: ds => (readDigits 2 ds, 1)
  | cs =>
    let isExp (c : Char) : Bool := c == 'e' || c == 'E'
    let body := cs.takeWhile fun c => !isExp c
    let power := (cs.dropWhile fun c => !isExp c).drop 1
    let whole := body.takeWhile (· ≠ '.')
    let fraction := (body.dropWhile (· ≠ '.')).drop 1
    let isLegacyOctal := fraction.isEmpty && power.isEmpty && 1 < whole.length
      && whole.head? == some '0' && whole.all fun c => (digitOf? 8 c).isSome
    if isLegacyOctal then (readDigits 8 whole, 1)
    else
      let digits := readDigits 10 (whole ++ fraction)
      let up := if power.head? == some '-' then 0 else readDigits 10 power
      let down := fraction.length + if power.head? == some '-' then readDigits 10 power else 0
      (digits * Nat.pow 10 up, Nat.pow 10 down)

/-- The value of a big integer literal. -/
def bigintValue (raw : List Char) : Nat :=
  match raw.filter (· ≠ '_') with
  | '0' :: 'x' :: ds | '0' :: 'X' :: ds => readDigits 16 (ds.takeWhile (· ≠ 'n'))
  | '0' :: 'o' :: ds | '0' :: 'O' :: ds => readDigits 8 ds
  | '0' :: 'b' :: ds | '0' :: 'B' :: ds => readDigits 2 ds
  | ds => readDigits 10 ds

/-- The value of a number literal, as double precision holds it, in full. -/
def numberText (raw : String) : String :=
  let q := numberQuotient raw.toList
  Decimal.positionalOf q.1 q.2

/-- The name of a token in a message. -/
def Token.describe : Token → String
  | .word w => w.text
  | .mark m => m.text
  | .operator op => op.text
  | .assign op => op.text
  | .template raw _ => "template token (" ++ raw ++ ")"
  | .string value raw => "string literal (" ++ value ++ ", " ++ raw ++ ")"
  | .number raw => "numeric literal (" ++ numberText raw ++ ", " ++ raw ++ ")"
  | .bigint raw => "bigint literal (" ++ toString (bigintValue raw.toList) ++ ", " ++ raw ++ ")"
  | .regex body flags => "regexp literal (" ++ body ++ ", " ++ flags ++ ")"
  | .shebang _ => "#!"
  | .error fault => "<lexing error: " ++ fault.cause.message ++ ">"

/-- Tokens after which an operand, not an operator, comes. -/
def Token.beforeExpr : Token → Bool
  | .word (.keyword k) => k.beforeExpr
  | .operator _ | .assign _ => true
  | .mark m =>
    [.arrow, .ellipsis, .bang, .leftParen, .leftBrace, .leftBracket, .semicolon, .comma,
      .colon, .dollarBrace, .question, .increment, .decrement, .tilde].contains m
  | _ => false

/-- Tokens that an expression can begin with. -/
def Token.startsExpr : Token → Bool
  | .word (.keyword k) => k.startsExpr
  | .word _ => true
  | .operator .add | .operator .sub => true
  | .mark m =>
    [.bang, .leftParen, .leftBrace, .leftBracket, .tilde, .increment, .decrement, .dollarBrace,
      .backquote, .hash].contains m
  | .string .. | .number _ | .bigint _ | .regex .. => true
  | _ => false

/-- Tokens that turn a `let` before them into a declaration. -/
def Token.followsLet : Token → Bool
  | .word (.name _) | .word (.keyword .yield) | .word (.keyword .await)
  | .word (.keyword .letWord) => true
  | .mark .leftBrace | .mark .leftBracket => true
  | _ => false

/-- A token where it stands in the text. -/
structure Lexeme where
  token : Token
  span : Span
  /-- A line ends between the token before and this one. -/
  lineBefore : Bool
  /-- The text from the token on. -/
  text : List Char
deriving Repr

end Playground.Script
